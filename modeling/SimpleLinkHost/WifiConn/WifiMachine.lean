import SimpleLinkHost.WifiConn.WifiApi

/-!
# The state machine of the connection manager

The notifications, the transitions and the eight state handlers of `slwificonn.c`,
`SlWifiConn_init`, and the steps of the system: a call by another thread, and the two
halves of the loop of `SlWifiConn_process`.  Notifications are made without the
critical section, so that other threads may call the module there.
-/

namespace SimpleLinkHost.WifiMachine

open CallOutcome ProgramInvariant WifiContext WifiApi

variable (env : WifiEnv)

section Notifications

/-- The critical section is left for a notification. -/
def letOthersCall : Sm Unit := do
  let s ← get
  match s.notified with
  | [] => pure ()
  | calls :: rest => do
      modify fun s => { s with notified := rest }
      runCalls env calls

/-- Another thread may come first with its event. -/
def letOthersPost : Sm Unit := do
  let s ← get
  match s.posting with
  | [] => pure ()
  | calls :: rest => do
      modify fun s => { s with posting := rest }
      runFreeCalls env calls

/-- `NotifyNetIf` -/
def notifyNetIf (event : NetIfEvent) : Sm Unit := do
  let s ← get
  runIf s.netIfCBSet (do
    emit (.netIf event)
    letOthersCall env)

/-- `NotifyWifiApp` -/
def notifyWifiApp (event : WifiConnEvent) : Sm Unit := do
  let s ← get
  runIf s.appCBSet (do
    emit (.app event)
    letOthersCall env)

/-- `NotifyProvisioningStatus` -/
def notifyProvisioningStatus (status : ProvStatus) : Sm Unit :=
  notifyWifiApp env (.provisioningStopped status)

/-- `SuspendNWP` with its notification. -/
def suspendNWP : Sm Unit := do
  let retVal ← suspendNWPPolicy env
  runIf (retVal = 0) (notifyWifiApp env .poweredDown)

/-- `ResumeNWP` with its notification. -/
def resumeNWP : Sm Unit := do
  let retVal ← resumeNWPPolicy env
  runIf (0 ≤ retVal) (notifyWifiApp env .poweredUp)

end Notifications

section Transitions

/-- `NonPersistentProfile_process` -/
def nonPersistentProfileProcess (bWlanDisconnect : Bool) : Sm Unit := do
  let s ← get
  if bWlanDisconnect then do
    let _ ← nwpCall env .wlanDisconnect
    modify fun s => { s with bWlanConnectUsed := false }
  else
    match s.pNonPersistentProfile with
    | none => pure ()
    | some profile => do
        let _ ← nwpCall env (.wlanConnect profile (profile.secType = env.secTypeWpaEnt))
        modify fun s => { s with bWlanConnectUsed := true }

/-- A deferred profile is given to the NWP before its event is posted. -/
def addDeferredProfile (deferred : DeferredEvent) : Sm Unit :=
  match deferred.event, deferred.pParams with
  | .addProfile, some profile => do
      let _ ← nwpCall env (.profileAdd profile (profile.secType = env.secTypeWpaEnt))
      emit (.freed profile)
  | _, _ => pure ()

/-- `DeferredEvent_process` on the messages in the queue. -/
def deferredEventsProcess : List DeferredEvent → Sm Unit
  | [] => pure ()
  | deferred :: rest => do
      modify fun s => { s with deferredEventQ := rest }
      addDeferredProfile env deferred
      letOthersPost env
      let retVal ← signalEvent deferred.event
      assertThat (retVal = .value 0)
      deferredEventsProcess rest

/-- `DeferredEvent_process`; tells whether there was a message, and is
`SL_RET_OBJ_NOT_SET` otherwise. -/
def deferredEventProcess : Sm Bool := do
  let s ← get
  deferredEventsProcess env s.deferredEventQ
  return !s.deferredEventQ.isEmpty

/-- `EnterIDLE` -/
def enterIdle : Sm Unit := do
  suspendNWP env
  let s ← get
  startAsyncEvtTimer s.idleInterval.toNat
  modify fun s =>
    { s with
      idleInterval :=
        if s.settings.idleMaxInterval.toNat < (s.idleInterval * 2).toNat then
          s.settings.idleMaxInterval
        else s.idleInterval * 2 }
  setState .idle

/-- `EnterWAIT_FOR_CONN` -/
def enterWaitForConn (timeout : BitVec 16) (bWlanDisconnect : Bool) : Sm Unit := do
  let _ ← deferredEventProcess env
  nonPersistentProfileProcess env bWlanDisconnect
  startAsyncEvtTimer timeout.toNat
  setState .waitForConn

/-- `EnterCONNECTED` -/
def enterConnected (bNotify : Bool) : Sm Unit := do
  stopAsyncEvtTimer
  modify fun s =>
    if 0 < s.fatalErrorCount.toNat then { s with fatalErrorCount := 0, recoveryDelayLevel := 0 }
    else s
  runIf bNotify (notifyNetIf env .ipAquired)
  modify fun s => { s with idleInterval := s.settings.idleMinInterval }
  let s ← get
  runIf (env.wifiStats ∧ s.bStatsEnabled ∧ 0 < s.statsInterval.toNat)
    (startAsyncEvtTimer s.statsInterval.toNat)
  setState .connected

/-- `EnterWAIT_FOR_IP` -/
def enterWaitForIp : Sm Unit := do
  notifyNetIf env .macConnect
  let s ← get
  let retVal ← nwpCall env .netCfgGet
  if retVal = 0 ∧ env.staticIp s.outputs.length = some 0 then enterConnected env false
  else do
    startAsyncEvtTimer s.settings.ipTimeout.toNat
    setState .waitForIp

/-- The name of the access point is set if there is one. -/
def setApSsid : Option (List Byte) → Sm Unit
  | none => pure ()
  | some ssid => do
      let _ ← nwpCall env (.setApSsid ssid)

/-- `SetApParams` -/
def setApParams : Sm Unit := do
  let s ← get
  setApSsid env s.settings.provisioningApSsid
  let _ ← nwpCall env (.setApSecType s.settings.provisioningApSecType)
  runIf (s.settings.provisioningApSecType ≠ env.secTypeOpen) (do
    let _ ← nwpCall env (.setApPassword s.settings.provisioningApPassword))
  let s ← get
  runIf (s.role = roleAp) (do
    let _ ← resetNWPRole env)

/-- The provisioning of the NWP is started. -/
def startNwpProvisioning (provisioningCmd : Byte) : Sm ℤ := do
  setApParams env
  let s ← get
  let retVal ← nwpCall env
    (.provisioning provisioningCmd roleSta s.settings.provisioningTimeout
      s.settings.provisioningScKey s.provFlags)
  assertThat (retVal = 0)
  setState .provisioning
  modify fun s => if s.provMode = .oneShot then { s with provMode := .off } else s
  return retVal

/-- The external configuration is asked for; the return value is not assigned. -/
def startExternalConfiguration : Sm ℤ := do
  let s ← get
  notifyWifiApp env .externalProvisioningStartReq
  setState .extProvisioning
  return env.uninitialized s.outputs.length

/-- `EnterPROVISIONING` up to its timer. -/
def startProvisioning (provCmd : Byte) : Sm ℤ :=
  if provCmd = env.provisioningCmdExternalConfiguration then startExternalConfiguration env
  else startNwpProvisioning env provCmd

/-- `EnterPROVISIONING` -/
def enterProvisioning : Sm ℤ := do
  let s ← get
  let retVal ← startProvisioning env s.provCmd
  let s ← get
  startAsyncEvtTimer s.settings.provisioningTimeout.toNat
  return retVal

/-- An event is deferred; no event stands for `SLWIFICONN_EVENT_MAX`. -/
def deferEvent : Option SmEvent → Sm Unit
  | none => pure ()
  | some event => deferredEventEnqueue event none

/-- `EnterPROV_STOPPING` -/
def enterProvStopping (eventId : Option SmEvent) : Sm Unit := do
  stopAsyncEvtTimer
  deferEvent eventId
  let _ ← nwpCall env (.provisioning env.provisioningCmdStop 0 0 none 0)
  setState .provStopping

end Transitions

section Handlers

/-- `smState_OFF` -/
def smStateOff : SmEvent → Sm ℤ
  | .enable => do
      modify fun s => { s with idleInterval := s.settings.idleMinInterval }
      let s ← get
      runIf s.bDeleteAllProfiles (do
        let retVal ← nwpCall env .profileDelAll
        assertThat (retVal = 0)
        modify fun s => { s with bDeleteAllProfiles := false })
      resumeNWP env
      let s ← get
      enterWaitForConn env s.settings.connectTimeout false
      return 0
  | .disable | .enableProvisioning | .addProfile | .disconnect | .connected => return 0
  | _ => return -1

/-- `smState_IDLE` -/
def smStateIdle : SmEvent → Sm ℤ
  | .enableProvisioning | .addProfile | .timeout => do
      resumeNWP env
      let s ← get
      enterWaitForConn env s.settings.connectTimeout false
      return 0
  | .connected => do
      stopAsyncEvtTimer
      let s ← get
      startAsyncEvtTimer s.settings.ipTimeout.toNat
      setState .waitForIp
      return 0
  | _ => return -1

/-- The connection timeout in `smState_WAIT_FOR_CONN`. -/
def connectTimeoutExpired : Sm ℤ := do
  let s ← get
  if s.bWlanConnectUsed then do
    enterWaitForConn env s.settings.connectTimeout true
    return 0
  else if s.provMode ≠ .off then do
    runIf (¬s.provisioningInstalled) (throw .nullCall)
    let retVal ← enterProvisioning env
    let s ← get
    runIf (retVal = 0) (notifyWifiApp env (.provisioningStarted s.provCmd))
    return retVal
  else do
    enterIdle env
    return 0

/-- `smState_WAIT_FOR_CONN` -/
def smStateWaitForConn : SmEvent → Sm ℤ
  | .addProfile => do
      let s ← get
      enterWaitForConn env s.settings.connectTimeout false
      return 0
  | .connected => do
      enterWaitForIp env
      return 0
  | .ipAcquired => do
      enterConnected env true
      return 0
  | .timeout => connectTimeoutExpired env
  | _ => return -1

/-- A connection is lost before or after its address was acquired. -/
def connectionLost : Sm Unit := do
  notifyNetIf env .disconnect
  let s ← get
  enterWaitForConn env s.settings.reconnectTimeout false

/-- `smState_WAIT_FOR_IP` -/
def smStateWaitForIp : SmEvent → Sm ℤ
  | .addProfile => return 0
  | .ipAcquired => do
      enterConnected env true
      return 0
  | .timeout => do
      let _ ← nwpCall env .wlanDisconnect
      connectionLost env
      return 0
  | .disconnect => do
      connectionLost env
      return 0
  | _ => return -1

/-- The next statistics are scheduled. -/
def scheduleStats (cond : Bool) : Sm Unit := do
  let s ← get
  runIf (s.bStatsEnabled && cond) (startAsyncEvtTimer s.statsInterval.toNat)

/-- `CollectAndNotifyStats` once the statistics were started. -/
def notifyStats : Sm Unit := do
  emit (.sleep 5)
  let s ← get
  let retVal ← nwpCall env .statGet
  let _ ← nwpCall env .statStop
  notifyWifiApp env .statsResume
  let after ← get
  runIf (0 ≤ retVal ∧ after.state = .connected) (notifyWifiApp env
    (.statsResult after.connectionBSSID (env.averageRssi s.outputs.length).1
      (env.averageRssi s.outputs.length).2))
  let after ← get
  scheduleStats (after.state = .connected)

/-- `CollectAndNotifyStats` -/
def collectAndNotifyStats : Sm Unit := do
  let s ← get
  if s.state ≠ .connected then scheduleStats true
  else do
    notifyWifiApp env .statsPause
    emit (.sleep 1)
    let s ← get
    if s.state ≠ .connected then do
      notifyWifiApp env .statsResume
      scheduleStats true
    else do
      let retVal ← nwpCall env .statStart
      if retVal < 0 then do
        notifyWifiApp env .statsResume
        scheduleStats true
      else notifyStats env

/-- `smState_CONNECTED` -/
def smStateConnected : SmEvent → Sm ℤ
  | .ipAcquired | .addProfile => return 0
  | .disconnect => do
      runIf env.wifiStats stopAsyncEvtTimer
      connectionLost env
      return 0
  | .ipLost => do
      runIf env.wifiStats stopAsyncEvtTimer
      let s ← get
      startAsyncEvtTimer s.settings.ipTimeout.toNat
      setState .waitForIp
      return 0
  | .resetRequest => do
      runIf env.wifiStats stopAsyncEvtTimer
      notifyNetIf env .disconnect
      let retVal ← resetNWP env
      assertThat (retVal = 0 ∨ retVal = env.provisioningInProgress)
      let s ← get
      enterWaitForConn env s.settings.reconnectTimeout false
      return retVal
  | .timeout => do
      let s ← get
      runIf (env.wifiStats ∧ s.bStatsEnabled) (collectAndNotifyStats env)
      return if env.wifiStats then 0 else -1
  | _ => return -1

/-- `smState_PROVISIONING` -/
def smStateProvisioning : SmEvent → Sm ℤ
  | .provSuccess => do
      stopAsyncEvtTimer
      setState .provStopping
      return 0
  | .disable => do
      enterProvStopping env (some .disable)
      return 0
  | .addProfile => do
      enterProvStopping env none
      return 0
  | .timeout => do
      enterProvStopping env (some .timeout)
      return 0
  | .error => do
      modify fun s => if s.provMode = .off then { s with provMode := .oneShot } else s
      enterProvStopping env (some .error)
      return 0
  | .provStopped => do
      stopAsyncEvtTimer
      notifyProvisioningStatus env .failed
      enterIdle env
      return 0
  | .provExtConfigReady => do
      notifyWifiApp env .externalProvisioningStartReq
      setState .extProvisioning
      return 0
  | .provCloudConfirmReady => do
      notifyWifiApp env .cloudConfirmationStartReq
      setState .extProvisioning
      return 0
  | _ => return -1

/-- `smState_EXT_PROVISIONING` -/
def smStateExtProvisioning : SmEvent → Sm ℤ
  | .extProvCompleted | .addProfile => do
      enterProvStopping env (some .extProvCompleted)
      return 0
  | .timeout => do
      let s ← get
      notifyWifiApp env
        (if s.provFlags = env.provisioningFlagExternalConfirmation then .cloudConfirmationStopReq
          else .externalProvisioningStopReq)
      notifyProvisioningStatus env .failed
      enterProvStopping env (some .timeout)
      return 0
  | .resetRequest => do
      notifyWifiApp env .externalProvisioningStopReq
      let retVal ← resetNWP env
      assertThat (retVal = 0 ∨ retVal = env.provisioningInProgress)
      setState .provisioning
      return retVal
  | _ => return -1

/-- The provisioning has stopped: deferred events are posted, and awaited in the same
state. -/
def provStoppedReported : Sm Unit := do
  notifyProvisioningStatus env .stopped
  let replayed ← deferredEventProcess env
  let s ← get
  runIf (¬replayed) (enterWaitForConn env s.settings.connectTimeout false)

/-- `smState_PROV_STOPPING` -/
def smStateProvStopping : SmEvent → Sm ℤ
  | .connected => do
      notifyProvisioningStatus env .succeed
      notifyNetIf env .macConnect
      enterConnected env true
      return 0
  | .provStopped => do
      provStoppedReported env
      return 0
  | .extProvCompleted => do
      let _ ← setRole env roleSta
      let s ← get
      enterWaitForConn env s.settings.connectTimeout false
      return 0
  | .addProfile => do
      let s ← get
      enterWaitForConn env s.settings.connectTimeout false
      return 0
  | .error => do
      let _ ← enterProvisioning env
      return 0
  | .timeout => do
      enterIdle env
      return 0
  | _ => return -1

/-- The handlers of `g_fWifiSM`. -/
def smHandler : SmState → SmEvent → Sm ℤ
  | .off => smStateOff env
  | .idle => smStateIdle env
  | .waitForConn => smStateWaitForConn env
  | .waitForIp => smStateWaitForIp env
  | .connected => smStateConnected env
  | .provisioning => smStateProvisioning env
  | .provStopping => smStateProvStopping env
  | .extProvisioning => smStateExtProvisioning env

/-- The handler of a state is installed by `SlWifiConn_enableProvisioning`, not by
`SlWifiConn_init`. -/
def SmState.ofProvisioning : SmState → Bool
  | .provisioning | .provStopping | .extProvisioning => true
  | .off | .idle | .waitForConn | .waitForIp | .connected => false

/-- A DISABLE event that the handler of the state did not take. -/
def disableAnywhere : Sm Unit := do
  suspendNWP env
  let s ← get
  runIf (s.state = .waitForIp ∨ s.state = .connected) (do
    let _ ← nwpCall env .wlanDisconnect
    notifyNetIf env .disconnect)
  setState .off

/-- `ProcessEvent` -/
def processEvent (event : SmEvent) : Sm Unit := do
  let s ← get
  emit (.processing s.state event)
  assertThat (SmState.ofProvisioning s.state → s.provisioningInstalled)
  let retVal ← smHandler env s.state event
  runIf (retVal < 0 ∧ event = .disable) (disableAnywhere env)

end Handlers

section Init

/-- The NWP is switched to the access point role, unless it runs in it. -/
def startInApRole (started : ℤ) : Sm ℤ :=
  if started = roleAp.toNat then pure started
  else do
    slWlanSetMode roleAp
    let _ ← nwpCall env .stop
    emit (.sleep 1)
    slStart env

/-- The profiles are deleted in the access point role. -/
def deleteProfilesInApRole : Sm Unit := do
  let _ ← nwpCall env .profileDelAll
  let _ ← nwpCall env (.connectionPolicySet (env.connectionPolicy true false false false) false)
  let _ ← nwpCall env .stop
  emit (.sleep 1)

/-- `ResetNWPProfileForProvisioning`, whose result its caller ignores. -/
def resetNWPProfileForProvisioning : Sm Unit := do
  let _ ← nwpCall env .stop
  emit (.sleep 2)
  let started ← slStart env
  runIf (0 ≤ started) (do
    let retVal ← startInApRole env started
    runIf (retVal = roleAp.toNat) (deleteProfilesInApRole env))

/-- The NWP was found in provisioning, which is stopped. -/
def initStoppedProvisioning : Sm ℤ := do
  let stopped ← nwpCall env (.provisioning env.provisioningCmdStop 0 0 none 0)
  if stopped = 0 then initNWPConnPolicy env else pure stopped

/-- The role and the policies after the first `sl_Start` of `SlWifiConn_init`. -/
def initRole (started : ℤ) : Sm ℤ :=
  if started = env.provisioningInProgress then do
    let retVal ← initStoppedProvisioning env
    modify fun s => { s with role := roleSta }
    return retVal
  else do
    modify fun s => { s with role := BitVec.ofInt 8 started }
    let retVal ← initNWPConnPolicy env
    let s ← get
    runIf (retVal = 0 ∧ s.role ≠ roleSta) (do
      let _ ← setRole env roleSta)
    return retVal

/-- The loop that counts the stored profiles. -/
def countProfiles : ℕ → Sm ℤ
  | 0 => return 0
  | count + 1 => do
      let counted ← countProfiles count
      let status ← nwpCall env (.profileGet count)
      return if 0 ≤ status then counted + 1 else counted

/-- `Deinit` -/
def deinit : Sm Unit := do
  emit (.nwp .unregisterHandlers)
  let _ ← nwpCall env .stop
  modify fun s =>
    { s with initialized := false, eventQ := [], deferredEventQ := [], timer := 0,
             pNonPersistentProfile := none }

/-- The context as `calloc` and the first lines of `SlWifiConn_init` leave it. -/
def freshContext (appCBSet : Bool) (s : WifiState) : WifiState :=
  { s with
    initialized := true
    state := .off
    eventQ := []
    deferredEventQ := []
    timer := 0
    appCBSet := appCBSet
    role := 0
    provMode := .off
    provCmd := 0
    provFlags := 0
    bDeleteAllProfiles := false
    idleInterval := 0
    connectionBSSID := List.replicate 6 0
    pNonPersistentProfile := none
    bWlanConnectUsed := false
    disabledPolicy := 0
    enabledPolicy := 0
    bStatsEnabled := false
    statsInterval := 10
    fatalErrorCount := 0
    recoveryDelayLevel := 0
    received := none
    notified := []
    posting := [] }

/-- The end of `SlWifiConn_init`: the profiles are counted, and the NWP is suspended
without a notification. -/
def settleInit : Sm Unit := do
  let count ← countProfiles env 8
  modify fun s => { s with profileCount := count }
  let _ ← nwpCall env .lowLatencyPolicySet
  modify fun s => { s with fatalErrorCount := 0, recoveryDelayLevel := 0 }
  let _ ← suspendNWPPolicy env

/-- `SlWifiConn_init` -/
def slWifiConnInit (appCBSet deleteProfiles : Bool) : Sm ApiRet := do
  let s ← get
  if s.initialized then return .devAlreadyStarted
  else do
    modify (freshContext appCBSet)
    let started ← slStart env
    let retVal ← initRole env started
    runIf deleteProfiles (do
      resetNWPProfileForProvisioning env
      let _ ← slStart env)
    settleInit env
    runIf (retVal < 0) (deinit env)
    return .value retVal

end Init

section System

/-- A step of the system.  `SlWifiConn_process` receives an event outside the critical
section and handles it inside; `notified` and `posting` are what other threads do
meanwhile. -/
inductive WifiAct
  | call (call : Call)
  | receive
  | handle (notified : List (List Call)) (posting : List (List FreeCall))

/-- `mq_receive` in `SlWifiConn_process`. -/
def receive (s : WifiState) : Option WifiState :=
  match s.received, s.eventQ with
  | none, event :: rest => some { s with received := some event, eventQ := rest }
  | _, _ => none

/-- The part of the loop of `SlWifiConn_process` in the critical section. -/
def handleEvent (event : SmEvent) : Sm Unit := do
  if event = .destroy then deinit env else processEvent env event
  modify fun s => { s with notified := [], posting := [] }

/-- The state that a program falls through to. -/
def completed (program : Sm Unit) (s : WifiState) : Option WifiState :=
  match program.run s with
  | .ok _ after => some after
  | .error _ _ => none

def step (s : WifiState) : WifiAct → Option WifiState
  | .call call => completed (runCall env call) s
  | .receive => receive s
  | .handle notified posting =>
      match s.received with
      | none => none
      | some event =>
          completed (handleEvent env event)
            { s with received := none, notified := notified, posting := posting }

end System

section PowerOn

/-- `g_settings` as it is initialised. -/
def defaultSettings : WifiConnSettings where
  connectTimeout := 3
  ipTimeout := 6
  reconnectTimeout := 60
  provisioningTimeout := 300
  idleMinInterval := 20
  idleMaxInterval := 120
  provisioningApSsid := none
  provisioningApSecType := 0
  provisioningApPassword := []
  provisioningScKey := none

/-- The module in front of `SlWifiConn_init`, with a network interface. -/
def powerOn : WifiState where
  initialized := false
  state := .off
  eventQ := []
  deferredEventQ := []
  timer := 0
  appCBSet := false
  role := 0
  provMode := .off
  provCmd := 0
  provFlags := 0
  bDeleteAllProfiles := false
  idleInterval := 0
  connectionBSSID := []
  pNonPersistentProfile := none
  bWlanConnectUsed := false
  disabledPolicy := 0
  enabledPolicy := 0
  bStatsEnabled := false
  statsInterval := 0
  fatalErrorCount := 0
  recoveryDelayLevel := 0
  netIfCBSet := true
  settings := defaultSettings
  provisioningInstalled := false
  profileCount := -1
  received := none
  notified := []
  posting := []
  nwp := ⟨roleSta, roleSta⟩
  outputs := []

/-- An NWP that does what it is asked. -/
def obedientNwp : WifiEnv where
  wifiStats := true
  provisioningInProgress := -2014
  provisioningInProgress_neg := by decide
  provisioningCmdStop := 4
  provisioningCmdApscExternalConfiguration := 3
  provisioningCmdExternalConfiguration := 10
  provisioningFlagExternalConfirmation := 1
  secTypeOpen := 0
  secTypeWpaEnt := 5
  connectionPolicy auto fast anyP2P autoProvisioning :=
    BitVec.ofNat 8 (auto.toNat + 2 * fast.toNat + 4 * anyP2P.toNat + 8 * autoProvisioning.toNat)
  status _ _ := 0
  startError _ := none
  policy _ := 1
  staticIp _ := none
  averageRssi _ := (0, 0)
  uninitialized _ := 0

/-- The state in which `SlWifiConn_init` leaves the module. -/
def started (env : WifiEnv) (appCBSet deleteProfiles : Bool) : WifiState :=
  match (slWifiConnInit env appCBSet deleteProfiles).run powerOn with
  | .ok _ after => after
  | .error _ after => after

/-- The steps of an event that is posted, received and handled alone. -/
def posted (call : Call) : List WifiAct := [.call call, .receive, .handle [] []]

/-- Provisioning is enabled, and reached by a timeout of the connection. -/
def untilProvisioning : List WifiAct :=
  posted (.enableProvisioning .on 0 0) ++ posted (.free .enable) ++ posted (.free .timerExpires)

end PowerOn

end SimpleLinkHost.WifiMachine
