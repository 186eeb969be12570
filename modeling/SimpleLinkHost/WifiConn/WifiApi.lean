import SimpleLinkHost.WifiConn.WifiContext

/-!
# What other threads do to the connection manager

The functions of `slwificonn.h`, the event handlers that the SimpleLink driver
calls, and the timer.  Most of them only post an event; some run under the critical
section and change the context, and two of these reset the NWP.
-/

namespace SimpleLinkHost.WifiApi

open CallOutcome ProgramInvariant WifiContext

variable (env : WifiEnv)

section Nwp

/-- `g_recoveryDelays` -/
def recoveryDelays : List ℕ := [2, 5, 10, 20, 30]

/-- `MAX_RECOVERY_LEVEL` -/
def maxRecoveryLevel : ℕ := recoveryDelays.length - 1

/-- `InitNWPConnPolicy` -/
def initNWPConnPolicy : Sm ℤ := do
  let s ← get
  let retVal ← nwpCall env .policyGet
  runIf (retVal = 0) (modify fun after =>
    { after with
      enabledPolicy := (env.policy s.outputs.length ||| env.connectionPolicy true false false false)
        &&& ~~~env.connectionPolicy false false false true
      disabledPolicy := env.policy s.outputs.length
        &&& ~~~env.connectionPolicy true true false true })
  return retVal

/-- `SuspendNWP` up to its notification. -/
def suspendNWPPolicy : Sm ℤ := do
  let s ← get
  nwpCall env (.connectionPolicySet s.disabledPolicy true)

/-- `ResumeNWP` up to its notification. -/
def resumeNWPPolicy : Sm ℤ := do
  let s ← get
  nwpCall env (.connectionPolicySet s.enabledPolicy true)

/-- The policy that `ResetNWP` restores, without a notification. -/
def restoreNWPPolicy : Sm ℤ := do
  let s ← get
  if s.state = .off ∨ s.state = .idle then suspendNWPPolicy env else resumeNWPPolicy env

/-- `ResetNWP` up to `sl_Start`. -/
def stopNWP : Sm Unit := do
  modify fun s =>
    { s with
      fatalErrorCount := s.fatalErrorCount + 1
      recoveryDelayLevel :=
        if s.recoveryDelayLevel.toNat < maxRecoveryLevel then s.recoveryDelayLevel + 1
        else s.recoveryDelayLevel }
  let s ← get
  let retVal ← nwpCall env .stop
  assertThat (retVal = 0)
  emit (.sleep (recoveryDelays.getD s.recoveryDelayLevel.toNat 0))

/-- `ResetNWP` once the role is recorded. -/
def settleNWP : Sm Unit := do
  emit (.sleep 2)
  let _ ← initNWPConnPolicy env
  let _ ← nwpCall env .lowLatencyPolicySet
  let _ ← restoreNWPPolicy env

/-- `ResetNWP` -/
def resetNWP : Sm ℤ := do
  stopNWP env
  let retVal ← slStart env
  assertThat (0 ≤ retVal)
  modify fun s => { s with role := BitVec.ofInt 8 retVal }
  settleNWP env
  return retVal

/-- `g_ctx->role = ResetNWP()` -/
def resetNWPRole : Sm Byte := do
  let retVal ← resetNWP env
  modify fun s => { s with role := BitVec.ofInt 8 retVal }
  return BitVec.ofInt 8 retVal

/-- `SetRole` -/
def setRole (role : Byte) : Sm ℤ := do
  let s ← get
  runIf (role ≠ s.role) (do
    slWlanSetMode role
    let stored ← resetNWPRole env
    assertThat (role = stored))
  return 0

end Nwp

section Drivers

/-- The event that `SLProvisioningStatusHandler` posts. -/
def provStatusEvent (provFlags : Byte) : NwpProvStatus → Option SmEvent
  | .generalError | .errorAbort | .errorAbortInvalidParam | .errorAbortHttpServerDisabled
  | .errorAbortProfileListFull | .errorAbortProvisioningAlreadyStarted => some .error
  | .confirmationStatusFailNetworkNotFound | .confirmationStatusFailConnectionFailed
  | .confirmationStatusConnectionSuccessIpNotAcquired
  | .confirmationStatusSuccessFeedbackFailed => none
  | .confirmationStatusSuccess => some .provSuccess
  | .confirmationIpAcquired =>
      if provFlags = env.provisioningFlagExternalConfirmation then some .provCloudConfirmReady
      else none
  | .autoStarted => none
  | .stopped role wlanConnected =>
      if role = roleSta ∧ wlanConnected then some .connected else some .provStopped
  | .externalConfigurationReady => some .provExtConfigReady
  | .other => none

/-- The event that `SLNetAppEventHandler` posts. -/
def netAppEventOf : NetAppEvent → Option SmEvent
  | .ipv4Acquired | .ipv6Acquired => some .ipAcquired
  | .ipv4Lost | .noIpv4CollisionDetected => some .ipLost
  | .ipv6Lost | .noGlobalIpv6CollisionDetected | .noLocalIpv6CollisionDetected => some .ipLost
  | .other => none

def signalEventIfAny : Option SmEvent → Sm Unit
  | none => pure ()
  | some event => do
      let _ ← signalEvent event

/-- `g_fProvStatusHandler`, which is NULL until provisioning is enabled. -/
def provStatusHandler (status : NwpProvStatus) : Sm Unit := do
  let s ← get
  runIf s.provisioningInstalled (signalEventIfAny (provStatusEvent env s.provFlags status))

/-- `SLNetAppEventHandler` -/
def netAppEventHandler (event : NetAppEvent) : Sm Unit := do
  let s ← get
  runIf (s.role = roleSta) (signalEventIfAny (netAppEventOf event))

/-- `AsyncEvtTimerHandler` at the expiry of the timer. -/
def asyncEvtTimerHandler : Sm Unit := do
  let s ← get
  runIf (s.timer ≠ 0) (do
    emit .expired
    modify fun s => { s with timer := 0 }
    signalEventIfAny (some .timeout))

end Drivers

section Api

/-- `SlWifiConn_enable` -/
def slWifiConnEnable : Sm ApiRet := do
  let s ← get
  if !s.initialized then return .apiAborted
  else if s.role ≠ roleSta then return .invalidRole
  else signalEvent .enable

/-- `SlWifiConn_deinit` -/
def slWifiConnDeinit : Sm ApiRet := do
  let s ← get
  if !s.initialized then return .apiAborted
  else if s.state = .off then do
    let _ ← signalEvent .destroy
    return .value 0
  else return .connectionPending

/-- `SlWifiConn_setDeleteAllProfiles` -/
def slWifiConnSetDeleteAllProfiles : Sm Unit := do
  let s ← get
  runIf s.initialized (modify fun s => { s with bDeleteAllProfiles := true })

/-- `SlWifiConn_setConfiguration` with settings that are not NULL. -/
def slWifiConnSetConfiguration (settings : WifiConnSettings) : Sm ApiRet := do
  if settings.provisioningTimeout.toNat < 30 then return .invalidInput
  else do
    modify fun s => { s with settings := settings }
    return .value 0

/-- `SLWIFICONN_PROV_FLAG_EXTERNAL_CONFIRMATION` -/
def provFlagExternalConfirmation : BitVec 32 := 1

/-- `SLWIFICONN_PROV_FLAG_FORCE_PROVISIONING` -/
def provFlagForceProvisioning : BitVec 32 := 2

/-- What `SlWifiConn_enableProvisioning` writes. -/
def installProvisioning (mode : ProvMode) (command : Byte) (flags : BitVec 32)
    (s : WifiState) : WifiState :=
  { s with
    provisioningInstalled := true
    provCmd := command
    provMode := mode
    bDeleteAllProfiles := s.bDeleteAllProfiles || flags &&& provFlagForceProvisioning ≠ 0
    provFlags :=
      if flags &&& provFlagExternalConfirmation ≠ 0 then env.provisioningFlagExternalConfirmation
      else s.provFlags }

/-- `SlWifiConn_enableProvisioning` -/
def slWifiConnEnableProvisioning (mode : ProvMode) (command : Byte) (flags : BitVec 32) :
    Sm ApiRet := do
  let s ← get
  if !s.initialized then return .apiAborted
  else if env.provisioningCmdApscExternalConfiguration.toNat < command.toNat
      ∧ command ≠ env.provisioningCmdExternalConfiguration then return .invalidInput
  else do
    modify (installProvisioning env mode command flags)
    let _ ← signalEvent .enableProvisioning
    return .value 0

/-- The part of `SlWifiConn_addProfile` that keeps the profile for later. -/
def keepProfile (call : AddProfile) : Sm Unit := do
  assertThat (call.extParams → call.profile.secType = env.secTypeWpaEnt)
  if call.nonPersistent then
    modify fun s => { s with pNonPersistentProfile := some call.profile }
  else deferredEventEnqueue .addProfile (some call.profile)

/-- `SlWifiConn_addProfile` -/
def slWifiConnAddProfile (call : AddProfile) : Sm ApiRet := do
  let s ← get
  if !s.initialized then return .apiAborted
  else do
    runIf (¬call.nonPersistent) (emit (.nwp (.profileAdd call.profile call.extParams)))
    if call.nonPersistent ∨ call.added = env.provisioningInProgress then
      if !call.allocated then return .noMemory
      else do
        keepProfile env call
        let _ ← signalEvent .addProfile
        return .value 0
    else do
      runIf (0 ≤ call.added) (signalEventIfAny (some .addProfile))
      return .value call.added

/-- `SlWifiConn_setRole`, which stores what `SetRole` returns. -/
def slWifiConnSetRole (role : Byte) : Sm ApiRet := do
  let s ← get
  if !s.initialized then return .apiAborted
  else if s.state = .off ∨ s.state = .extProvisioning then do
    let retVal ← setRole env role
    modify fun s => { s with role := BitVec.ofInt 8 retVal }
    return .value 0
  else return .connectionPending

/-- `SlWifiConn_reset` -/
def slWifiConnReset : Sm ApiRet := do
  let s ← get
  if !s.initialized then return .apiAborted
  else if s.state = .off then do
    let retVal ← resetNWP env
    return .value retVal
  else return .connectionPending

/-- `SlWifiConn_enableStats` -/
def slWifiConnEnableStats (interval : BitVec 16) : Sm ApiRet := do
  let s ← get
  if !s.initialized then return .apiAborted
  else if interval.toNat < 10 then return .invalidInput
  else do
    modify fun s => { s with statsInterval := interval, bStatsEnabled := true }
    runIf (s.state = .connected) (startAsyncEvtTimer interval.toNat)
    return .value 0

/-- `SlWifiConn_disableStats` -/
def slWifiConnDisableStats : Sm ApiRet := do
  let s ← get
  if !s.initialized then return .apiAborted
  else do
    modify fun s => { s with bStatsEnabled := false }
    runIf (s.state = .connected) stopAsyncEvtTimer
    return .value 0

end Api

section Calls

/-- The return value of a call does not matter to the run. -/
def ignoreRet (program : Sm ApiRet) : Sm Unit := do
  let _ ← program

def runUnlocked : FreeCall → Sm Unit
  | .enable => ignoreRet slWifiConnEnable
  | .disable => ignoreRet (signalEvent .disable)
  | .externalProvsioningCompleted => ignoreRet (signalEvent .extProvCompleted)
  | .requestReset => ignoreRet (signalEvent .resetRequest)
  | .deinit => ignoreRet slWifiConnDeinit
  | .setDeleteAllProfiles => slWifiConnSetDeleteAllProfiles
  | .setConfiguration settings => ignoreRet (slWifiConnSetConfiguration settings)
  | .wlanConnect bssid => do
      modify fun s => { s with connectionBSSID := bssid }
      ignoreRet (signalEvent .connected)
  | .wlanDisconnect => ignoreRet (signalEvent .disconnect)
  | .provisioningStatus status => provStatusHandler env status
  | .netApp event => netAppEventHandler event
  | .deviceResetRequest => ignoreRet (signalEvent .resetRequest)
  | .timerExpires => asyncEvtTimerHandler

def runFreeCall (call : FreeCall) : Sm Unit := outside (runUnlocked env call)

def runCall : Call → Sm Unit
  | .free call => runFreeCall env call
  | .enableProvisioning mode command flags =>
      ignoreRet (slWifiConnEnableProvisioning env mode command flags)
  | .addProfile call => ignoreRet (slWifiConnAddProfile env call)
  | .setRole role => ignoreRet (slWifiConnSetRole env role)
  | .reset => ignoreRet (slWifiConnReset env)
  | .enableStats interval => runIf env.wifiStats (ignoreRet (slWifiConnEnableStats interval))
  | .disableStats => runIf env.wifiStats (ignoreRet slWifiConnDisableStats)

def runFreeCalls : List FreeCall → Sm Unit
  | [] => pure ()
  | call :: calls => do
      runFreeCall env call
      runFreeCalls calls

def runCalls : List Call → Sm Unit
  | [] => pure ()
  | call :: calls => do
      runCall env call
      runCalls calls

end Calls

end SimpleLinkHost.WifiApi
