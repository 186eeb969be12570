import Mathlib.Data.Int.Notation
import Mathlib.Data.Nat.Notation
import SimpleLinkHost.Core.ProgramInvariant

/-!
# The context of the connection manager

The data of `slwificonn.c`: the context behind `g_ctx`, its two message queues and
its timer, and the NWP as far as its role goes.  Everything that the module tells
others, or asks of the NWP, is recorded in order.  A function is a program that may
get stuck, where an assertion fails or where it waits on a full queue that nobody
will empty.
-/

namespace SimpleLinkHost.WifiContext

open CallOutcome ProgramInvariant

abbrev Byte := BitVec 8

/-- `SLWIFICONN_STATE_e` -/
inductive SmState
  | off
  | idle
  | waitForConn
  | waitForIp
  | connected
  | provisioning
  | provStopping
  | extProvisioning
deriving DecidableEq

/-- `SLWIFICONN_EVENT_e` -/
inductive SmEvent
  | enable
  | disable
  | connected
  | disconnect
  | ipAcquired
  | ipLost
  | provSuccess
  | provStopped
  | provExtConfigReady
  | provCloudConfirmReady
  | enableProvisioning
  | addProfile
  | extProvCompleted
  | timeout
  | error
  | resetRequest
  | destroy
deriving DecidableEq

/-- `WifiConnProvMode_e` -/
inductive ProvMode
  | off
  | oneShot
  | on
deriving DecidableEq

/-- `WifiConnProvStatus_e` -/
inductive ProvStatus
  | succeed
  | failed
  | stopped
deriving DecidableEq

/-- `profile_t` with the strings that follow it. -/
structure Profile where
  ssid : List Byte
  bssid : Option (List Byte)
  secType : Byte
  key : List Byte
  user : List Byte
  anonUser : List Byte
  priority : Byte
deriving DecidableEq

/-- `DeferredEvent_t` -/
structure DeferredEvent where
  event : SmEvent
  pParams : Option Profile
deriving DecidableEq

/-- `WifiConnSettings_t` -/
structure WifiConnSettings where
  connectTimeout : BitVec 16
  ipTimeout : BitVec 16
  reconnectTimeout : BitVec 16
  provisioningTimeout : BitVec 16
  idleMinInterval : BitVec 16
  idleMaxInterval : BitVec 16
  provisioningApSsid : Option (List Byte)
  provisioningApSecType : Byte
  provisioningApPassword : List Byte
  provisioningScKey : Option (List Byte)

/-- The events of `SlNetIfEventId_e` that the module reports. -/
inductive NetIfEvent
  | disconnect
  | macConnect
  | ipAquired
deriving DecidableEq

/-- `WifiConnEventId_e` with its data. -/
inductive WifiConnEvent
  | poweredUp
  | poweredDown
  | provisioningStarted (provisioningCmd : Byte)
  | provisioningStopped (status : ProvStatus)
  | externalProvisioningStartReq
  | externalProvisioningStopReq
  | cloudConfirmationStartReq
  | cloudConfirmationStopReq
  | statsPause
  | statsResume
  | statsResult (bssid : List Byte) (mgMntRssi dataCtrlRssi : BitVec 16)
deriving DecidableEq

/-- The calls of the SimpleLink API. -/
inductive NwpCall
  | start
  | stop
  | setMode (mode : Byte)
  | policyGet
  | connectionPolicySet (policy : Byte) (nonPersistent : Bool)
  | lowLatencyPolicySet
  | profileAdd (profile : Profile) (withExtParams : Bool)
  | profileDelAll
  | profileGet (index : ℕ)
  | wlanConnect (profile : Profile) (withExtParams : Bool)
  | wlanDisconnect
  | setApSsid (ssid : List Byte)
  | setApSecType (secType : Byte)
  | setApPassword (password : List Byte)
  | provisioning (cmd : Byte) (role : Byte) (timeout : BitVec 16) (key : Option (List Byte))
      (flags : Byte)
  | netCfgGet
  | statStart
  | statGet
  | statStop
  | unregisterHandlers
deriving DecidableEq

/-- What the module says and does, in order; the last two are its debug prints. -/
inductive Output
  | nwp (call : NwpCall)
  | netIf (event : NetIfEvent)
  | app (event : WifiConnEvent)
  | sleep (seconds : ℕ)
  /-- `timer_settime`; zero seconds stop the timer. -/
  | timer (seconds : ℕ)
  /-- The timer calls its handler. -/
  | expired
  /-- `mq_send` to the queue of events. -/
  | posted (event : SmEvent)
  /-- A deferred profile is freed. -/
  | freed (profile : Profile)
  | processing (state : SmState) (event : SmEvent)
  | entered (state : SmState)
deriving DecidableEq

/-- The `ProvisioningStatus` of `SlWlanEventProvisioningStatus_t`; a stop carries the
role and whether the station is connected. -/
inductive NwpProvStatus
  | generalError
  | errorAbort
  | errorAbortInvalidParam
  | errorAbortHttpServerDisabled
  | errorAbortProfileListFull
  | errorAbortProvisioningAlreadyStarted
  | confirmationStatusFailNetworkNotFound
  | confirmationStatusFailConnectionFailed
  | confirmationStatusConnectionSuccessIpNotAcquired
  | confirmationStatusSuccessFeedbackFailed
  | confirmationStatusSuccess
  | confirmationIpAcquired
  | autoStarted
  | stopped (role : Byte) (wlanConnected : Bool)
  | externalConfigurationReady
  | other

/-- The events of `SlNetAppEvent_t`. -/
inductive NetAppEvent
  | ipv4Acquired
  | ipv6Acquired
  | ipv4Lost
  | noIpv4CollisionDetected
  | ipv6Lost
  | noGlobalIpv6CollisionDetected
  | noLocalIpv6CollisionDetected
  | other

/-- An `SlWifiConn_addProfile` call, with what `sl_WlanProfileAdd` and `malloc` answer
to it. -/
structure AddProfile where
  profile : Profile
  /-- `pSecExtParams` is not NULL. -/
  extParams : Bool
  nonPersistent : Bool
  added : ℤ
  allocated : Bool

/-- The calls that do not take the critical section. -/
inductive FreeCall
  | enable
  | disable
  | externalProvsioningCompleted
  | requestReset
  | deinit
  | setDeleteAllProfiles
  | setConfiguration (settings : WifiConnSettings)
  /-- `SL_WLAN_EVENT_CONNECT` in `SLWlanEventHandler`. -/
  | wlanConnect (bssid : List Byte)
  /-- `SL_WLAN_EVENT_DISCONNECT` -/
  | wlanDisconnect
  /-- `SL_WLAN_EVENT_PROVISIONING_STATUS` -/
  | provisioningStatus (status : NwpProvStatus)
  | netApp (event : NetAppEvent)
  /-- `SL_DEVICE_EVENT_RESET_REQUEST` in `SLGeneralEventHandler`. -/
  | deviceResetRequest
  | timerExpires

/-- The calls of the API, of the driver and of the timer. -/
inductive Call
  | free (call : FreeCall)
  | enableProvisioning (mode : ProvMode) (command : Byte) (flags : BitVec 32)
  | addProfile (call : AddProfile)
  | setRole (role : Byte)
  | reset
  | enableStats (interval : BitVec 16)
  | disableStats

/-- The values that API functions return. -/
inductive ApiRet
  | value (retVal : ℤ)
  | apiAborted
  | devAlreadyStarted
  | connectionPending
  | invalidRole
  | invalidInput
  | noMemory
deriving DecidableEq

/-- How a program gets stuck. -/
inductive Stuck
  | assertFailed
  /-- A call through a pointer that is NULL. -/
  | nullCall
  /-- `mq_send` on a full queue, in the critical section. -/
  | queueFull
  /-- `mq_send` on a full queue, outside of the critical section. -/
  | awaitsRoom
deriving DecidableEq

/-- The build, and the constants of the SDK. -/
structure WifiConfig where
  /-- `WIFI_STATS` -/
  wifiStats : Bool
  /-- `SL_RET_CODE_PROVISIONING_IN_PROGRESS` -/
  provisioningInProgress : ℤ
  provisioningInProgress_neg : provisioningInProgress < 0
  provisioningCmdStop : Byte
  provisioningCmdApscExternalConfiguration : Byte
  provisioningCmdExternalConfiguration : Byte
  provisioningFlagExternalConfirmation : Byte
  secTypeOpen : Byte
  secTypeWpaEnt : Byte
  /-- `SL_WLAN_CONNECTION_POLICY` -/
  connectionPolicy : Bool → Bool → Bool → Bool → Byte

/-- What the NWP answers to the calls of a run, by their place in the record. -/
structure WifiEnv extends WifiConfig where
  status : ℕ → NwpCall → ℤ
  /-- The error of an `sl_Start` that does not succeed. -/
  startError : ℕ → Option ℤ
  policy : ℕ → Byte
  /-- The address, if the station uses a static one. -/
  staticIp : ℕ → Option (BitVec 32)
  /-- `AvarageMgMntRssi` and `AvarageDataCtrlRssi` -/
  averageRssi : ℕ → BitVec 16 × BitVec 16
  /-- A variable that was not assigned. -/
  uninitialized : ℕ → ℤ

def roleSta : Byte := 0

def roleAp : Byte := 2

/-- The role stored for the next start, and the one the NWP runs in. -/
structure Nwp where
  mode : Byte
  role : Byte

structure WifiState where
  /-- `g_ctx` is not NULL. -/
  initialized : Bool
  state : SmState
  eventQ : List SmEvent
  deferredEventQ : List DeferredEvent
  /-- The seconds the timer was set to; zero when it is not armed. -/
  timer : ℕ
  /-- `fWifiAppCB` is set. -/
  appCBSet : Bool
  role : Byte
  provMode : ProvMode
  provCmd : Byte
  provFlags : Byte
  bDeleteAllProfiles : Bool
  idleInterval : BitVec 16
  connectionBSSID : List Byte
  pNonPersistentProfile : Option Profile
  bWlanConnectUsed : Bool
  disabledPolicy : Byte
  enabledPolicy : Byte
  bStatsEnabled : Bool
  statsInterval : BitVec 16
  fatalErrorCount : Byte
  recoveryDelayLevel : Byte
  /-- `g_fNetIfCB` is set. -/
  netIfCBSet : Bool
  settings : WifiConnSettings
  /-- `SlWifiConn_enableProvisioning` has installed the handlers. -/
  provisioningInstalled : Bool
  profileCount : ℤ
  /-- What `SlWifiConn_process` has received and not handled yet. -/
  received : Option SmEvent
  /-- What other threads do during the notifications of the running handler. -/
  notified : List (List Call)
  /-- What they do, without the critical section, in front of its `mq_send` calls. -/
  posting : List (List FreeCall)
  nwp : Nwp
  outputs : List Output

abbrev Sm := EStateM Stuck WifiState

variable (env : WifiEnv)

/-- The queue lengths of `SlWifiConn_init`. -/
def eventQMax : ℕ := 10

def deferredEventQMax : ℕ := 3

def emit (output : Output) : Sm Unit :=
  modify fun s => { s with outputs := s.outputs ++ [output] }

/-- `assert` -/
def assertThat (cond : Prop) [Decidable cond] : Sm Unit := runIf (¬cond) (throw .assertFailed)

def nwpCall (call : NwpCall) : Sm ℤ := do
  let s ← get
  emit (.nwp call)
  return env.status s.outputs.length call

/-- `sl_Start` runs the stored role and returns it, unless it fails. -/
def slStart : Sm ℤ := do
  let s ← get
  emit (.nwp .start)
  match env.startError s.outputs.length with
  | some code => return code
  | none => do
      modify fun s => { s with nwp := { s.nwp with role := s.nwp.mode } }
      return s.nwp.mode.toNat

/-- `sl_WlanSetMode` stores the role for the next start. -/
def slWlanSetMode (mode : Byte) : Sm Unit := do
  emit (.nwp (.setMode mode))
  modify fun s => { s with nwp := { s.nwp with mode := mode } }

def setState (state : SmState) : Sm Unit := do
  emit (.entered state)
  modify fun s => { s with state := state }

def signalEvent (event : SmEvent) : Sm ApiRet := do
  let s ← get
  if !s.initialized then return .apiAborted
  else if s.eventQ.length < eventQMax then do
    modify fun s => { s with eventQ := s.eventQ ++ [event] }
    emit (.posted event)
    return .value 0
  else throw .queueFull

/-- A call that does not take the critical section waits outside of it. -/
def outside {α : Type} (program : Sm α) : Sm α := fun before =>
  match program.run before with
  | .error .queueFull after => .error .awaitsRoom after
  | result => result

def deferredEventEnqueue (event : SmEvent) (pParams : Option Profile) : Sm Unit := do
  let s ← get
  if s.deferredEventQ.length < deferredEventQMax then
    modify fun s => { s with deferredEventQ := s.deferredEventQ ++ [⟨event, pParams⟩] }
  else throw .queueFull

def startAsyncEvtTimer (duration : ℕ) : Sm Unit := do
  emit (.timer duration)
  modify fun s => { s with timer := duration }

def stopAsyncEvtTimer : Sm Unit := startAsyncEvtTimer 0

end SimpleLinkHost.WifiContext
