import SimpleLinkHost.Core.ProgramInvariant
import SimpleLinkHost.WifiConn.WifiApi
import Mathlib.Data.Finset.Basic

/-!
# The network device driver

The state machine of `cc3220sf.c`, whose thread calls `netdev_wlan_cc3220sf_exec` again and
again.  The callbacks of the NWP and of the connection manager send it events through a
queue that drops what it has no room for; the states that receive events record them in
the status bits.  Debug prints, the HTTP server and the published statistics are left out.
-/

namespace SimpleLinkHost.Cc3220sf

open CallOutcome ProgramInvariant

/-- `STATUS_BITS_e` -/
inductive StatusBit
  | running
  | checkedProfiles
  | provMode
  | gotMode
  | connected
  | ipAcquired
  | provConnect
  | provIpAcquired
  | provSuccess
  | provStopped
  | provProfAdded
  | provFailed
  | pingDone
  | fwDlStart
  | fwDlDone
  | fwDlError
  | fwUpgrade
  | fwInstall
  | authenticationFailed
  | resetRequired
  | rebootRequired
  | fatalError
deriving DecidableEq

/-- `CC3220SF_STATE_t` -/
inductive Cc3220sfState
  | init
  | start
  | checkProfiles
  | wait4Start
  | stop
  | waitConnectAp
  | waitIp
  | startNetwork
  | startHttp
  | notifyUp
  | notifyDown
  | ready
  | idle
  | sleep
  | checkConnection
  | getStatistics
  | error
  | startProv
  | httpMessage
  | handleEvent
  | waitFwInstall
  | waitProvision
deriving DecidableEq

/-- `CC3220SF_EVENT_t` -/
inductive Cc3220sfEvent
  | stopped
  | running
  | connected
  | ipAcquired
  | ipLost
  | ipLeased
  | ipReleased
  | disconnect
  | staAdded
  | staRemoved
  | profAdded
  | pingComplete
  | provisioningStarted
  | provisioningSuccess
  | provisioningStopped
  | provisioningWaitConn
  | provisioningConnectFailed
  | provisioningConnectSuccess
  | provisioningTimeout
  | provisioningIpAcquired
  | provisioningIpFailed
  | provisioningConfirmFailed
  | fwDownloadStart
  | fwDownloadDone
  | fwDownloadError
  | fwUpgrade
  | fwInstall
  | timeout
  | error
  | fatalError
  | restart
  | invalid
deriving DecidableEq

/-- The notifications of the listener. -/
inductive NetworkEvent
  | connected
  | disconnected
deriving DecidableEq

/-- What the thread of the driver does. -/
inductive Output
  | consumed (event : Cc3220sfEvent)
  | slWifiConnEnable
  | slWifiConnDisable
  | slWifiConnDeinit
  | slWifiConnRequestReset
  | slWifiConnEnableProvisioning (flags : BitVec 32)
  | notified (event : NetworkEvent)
  | otaInstall
  | otaRestart
deriving DecidableEq

/-- `CC3220SF_Desc_t`, with the status bits that are set, and the record of what the thread
has done. -/
structure Desc where
  state : Cc3220sfState
  nstate : Cc3220sfState
  timer : BitVec 32
  sleepTime : BitVec 32
  fatalErrorCount : BitVec 8
  totalFatalErrors : BitVec 32
  totalRecoveries : BitVec 32
  totalDisconnects : BitVec 32
  connectedTime : BitVec 32
  wlanStatus : Finset StatusBit
  eventQ : List Cc3220sfEvent
  /-- The number of requests in `httpserverQueue`. -/
  httpserverQueue : ℕ
  doProvisioning : Bool
  /-- What the callbacks send while the thread sleeps in `netdev_wlan_cc3220sf_sm_stop`. -/
  arriving : List (List Cc3220sfEvent)
  outputs : List Output
deriving DecidableEq

/-- The thread does not come back from the step. -/
inductive Halt
  /-- It waits for the system to reboot. -/
  | reboots
  /-- It waits for a status bit that only itself would clear. -/
  | waits
deriving DecidableEq

abbrev Net := EStateM Halt Desc

section Events

/-- `mq_send` does not wait for room in the queue. -/
def sendEvent (event : Cc3220sfEvent) (d : Desc) : Desc :=
  if d.eventQ.length < 10 then { d with eventQ := d.eventQ ++ [event] } else d

def emit (output : Output) : Net Unit :=
  modify fun d => { d with outputs := d.outputs ++ [output] }

/-- The status bits behind an event. -/
def statusAfter (event : Cc3220sfEvent) (status : Finset StatusBit) : Finset StatusBit :=
  match event with
  | .stopped => status.erase .running
  | .running => insert .running status
  | .connected => insert .connected status
  | .ipAcquired => insert .ipAcquired status
  | .disconnect => status.erase .connected
  | .provisioningStarted => insert .provMode status
  | .provisioningSuccess => insert .provSuccess status
  | .provisioningStopped => insert .provStopped status
  | .provisioningConnectFailed | .provisioningTimeout | .provisioningIpFailed
  | .provisioningConfirmFailed => insert .provFailed status
  | .provisioningConnectSuccess => insert .provConnect status
  | .provisioningIpAcquired => insert .provIpAcquired status
  | .error | .fatalError => {.fatalError}
  | .restart => insert .rebootRequired status
  | .profAdded => insert .provProfAdded status
  | .fwDownloadStart => ((insert .fwDlStart status).erase .fwDlDone).erase .fwDlError
  | .fwDownloadDone => insert .fwDlDone status
  | .fwDownloadError => insert .fwDlError ((status.erase .fwDlStart).erase .fwDlDone)
  | .fwUpgrade =>
      ((((insert .fwUpgrade status).erase .fwDlStart).erase .fwDlDone).erase .fwDlError).erase
        .fwInstall
  | .fwInstall =>
      insert .fwInstall
        ((((status.erase .fwUpgrade).erase .fwDlStart).erase .fwDlDone).erase .fwDlError)
  | .ipLost | .ipLeased | .ipReleased | .staAdded | .staRemoved | .pingComplete
  | .provisioningWaitConn | .timeout | .invalid => status

/-- The counters behind an event. -/
def countEvent (event : Cc3220sfEvent) (d : Desc) : Desc :=
  match event with
  | .disconnect => { d with totalDisconnects := d.totalDisconnects + 1, connectedTime := 0 }
  | .fatalError =>
      { d with
        fatalErrorCount := d.fatalErrorCount + 1
        totalFatalErrors := d.totalFatalErrors + 1 }
  | _ => d

/-- `FATAL_ERROR_REBOOT_THRESHOLD` -/
def fatalErrorRebootThreshold : ℕ := 10

variable (rebootOnFatalError : Bool)

/-- `netdev_wlan_cc3220sf_recv_event` in a build with or without
`WIFI_REBOOT_ON_FATAL_ERROR`. -/
def recvEvent : Net Cc3220sfEvent := do
  let d ← get
  match d.eventQ with
  | [] => return .invalid
  | event :: rest => do
      modify fun d => { d with eventQ := rest }
      emit (.consumed event)
      modify fun d => countEvent event { d with wlanStatus := statusAfter event d.wlanStatus }
      let d ← get
      runIf (event = .fatalError ∧ rebootOnFatalError
          ∧ fatalErrorRebootThreshold ≤ d.fatalErrorCount.toNat)
        (throw .reboots)
      return event

end Events

section Handlers

variable (rebootOnFatalError : Bool)

/-- `GENERAL_TIMEOUT` -/
def generalTimeout : ℕ := 2000

/-- `netdev_wlan_cc3220sf_sm_init`; nobody clears the bit while the thread waits for it. -/
def smInit : Net Cc3220sfState := do
  let d ← get
  runIf (.running ∈ d.wlanStatus) (do
    emit .slWifiConnDisable
    throw .waits)
  return .start

/-- `netdev_wlan_cc3220sf_sm_start` -/
def smStart : Net Cc3220sfState := do
  let _ ← recvEvent rebootOnFatalError
  let d ← get
  if .fwInstall ∈ d.wlanStatus then do
    emit .otaInstall
    emit .slWifiConnDeinit
    modify fun d => { d with timer := 0 }
    return .waitFwInstall
  else do
    runIf (.running ∉ d.wlanStatus) (emit .slWifiConnEnable)
    modify fun d => { d with nstate := .checkProfiles, timer := 0 }
    return .wait4Start

/-- `netdev_wlan_cc3220sf_sm_wait_4_start` -/
def smWait4Start : Net Cc3220sfState := do
  let _ ← recvEvent rebootOnFatalError
  let d ← get
  if .running ∈ d.wlanStatus then do
    modify fun d => { d with timer := 0 }
    return d.nstate
  else if generalTimeout ≤ d.timer.toNat then do
    modify fun d => { d with nstate := .init, timer := 0, sleepTime := 1000 }
    return .sleep
  else return .wait4Start

/-- The callbacks send events while the thread sleeps. -/
def letOthersSend : Net Unit :=
  modify fun d =>
    match d.arriving with
    | [] => d
    | events :: rest => events.foldl (fun d event => sendEvent event d) { d with arriving := rest }

/-- The loop of `netdev_wlan_cc3220sf_sm_stop`. -/
def awaitStopped : ℕ → Net Unit
  | 0 => return ()
  | tries + 1 => do
      let d ← get
      if .running ∈ d.wlanStatus then do
        letOthersSend
        let _ ← recvEvent rebootOnFatalError
        awaitStopped tries
      else return ()

/-- `netdev_wlan_cc3220sf_sm_stop` -/
def smStop : Net Cc3220sfState := do
  let _ ← recvEvent rebootOnFatalError
  emit .slWifiConnDisable
  awaitStopped rebootOnFatalError 10
  modify fun d => { d with wlanStatus := d.wlanStatus ∩ {.fwInstall} }
  return .init

/-- `netdev_wlan_cc3220sf_sm_check_profiles` -/
def smCheckProfiles : Net Cc3220sfState := do
  modify fun d => { d with timer := 0 }
  return .startNetwork

/-- `netdev_wlan_cc3220sf_sm_start_network` -/
def smStartNetwork : Net Cc3220sfState := do
  let d ← get
  if d.doProvisioning then do
    emit .slWifiConnDisable
    return .waitProvision
  else return .waitConnectAp

/-- `netdev_wlan_cc3220sf_sm_wait_connect_ap` -/
def smWaitConnectAp : Net Cc3220sfState := do
  let _ ← recvEvent rebootOnFatalError
  let d ← get
  if .connected ∈ d.wlanStatus then do
    modify fun d => { d with timer := 0 }
    return .waitIp
  else if 10000 < d.timer.toNat then return .error
  else return .waitConnectAp

/-- `netdev_wlan_cc3220sf_sm_wait_ip` -/
def smWaitIp : Net Cc3220sfState := do
  let _ ← recvEvent rebootOnFatalError
  let d ← get
  if .ipAcquired ∈ d.wlanStatus then return .startHttp
  else if 5000 < d.timer.toNat then return .error
  else return .waitIp

/-- `netdev_wlan_cc3220sf_sm_start_httpserver` -/
def smStartHttpserver : Net Cc3220sfState := do
  modify fun d => { d with nstate := .idle }
  return .notifyUp

/-- `netdev_wlan_cc3220sf_sm_notifyup` -/
def smNotifyup : Net Cc3220sfState := do
  modify fun d => { d with timer := 0 }
  let d ← get
  runIf (0 < d.fatalErrorCount.toNat) (modify fun d =>
    { d with totalRecoveries := d.totalRecoveries + 1, fatalErrorCount := 0 })
  modify fun d => { d with connectedTime := 0 }
  emit (.notified .connected)
  return d.nstate

/-- `netdev_wlan_cc3220sf_sm_idle` -/
def smIdle : Net Cc3220sfState := do
  let d ← get
  if 0 < d.httpserverQueue then return .httpMessage
  else if d.eventQ ≠ [] then return .handleEvent
  else do
    runIf (30000 ≤ d.timer.toNat) (modify fun d => { d with timer := 0 })
    return .idle

/-- The connection is reported lost before the NWP is stopped. -/
def notifyDownThenStop : Net Cc3220sfState := do
  modify fun d => { d with timer := 0, nstate := .stop }
  return .notifyDown

/-- The end of `netdev_wlan_cc3220sf_sm_handle_event`. -/
def rebootOrIdle : Net Cc3220sfState := do
  let d ← get
  if .rebootRequired ∈ d.wlanStatus then notifyDownThenStop else return .idle

/-- `netdev_wlan_cc3220sf_sm_handle_event` -/
def smHandleEvent : Net Cc3220sfState := do
  let event ← recvEvent rebootOnFatalError
  match event with
  | .fwInstall => notifyDownThenStop
  | .fatalError => do
      emit .slWifiConnRequestReset
      notifyDownThenStop
  | _ => rebootOrIdle

/-- `netdev_wlan_cc3220sf_sm_http_message` -/
def smHttpMessage : Net Cc3220sfState := do
  modify fun d => { d with httpserverQueue := d.httpserverQueue - 1 }
  return .idle

/-- `netdev_wlan_cc3220sf_sm_check_connection` -/
def smCheckConnection : Net Cc3220sfState := do
  modify fun d => { d with timer := 0 }
  return .idle

/-- `netdev_wlan_cc3220sf_sm_notifydown` -/
def smNotifydown : Net Cc3220sfState := do
  emit (.notified .disconnected)
  modify fun d => { d with timer := 0, sleepTime := 2000 }
  let d ← get
  return d.nstate

/-- `netdev_wlan_cc3220sf_sm_sleep` -/
def smSleep : Net Cc3220sfState := do
  let d ← get
  return if d.sleepTime.toNat ≤ d.timer.toNat then d.nstate else .sleep

/-- `netdev_wlan_cc3220sf_sm_error` -/
def smError : Net Cc3220sfState := do
  modify fun d => { d with nstate := .stop, sleepTime := 2000, timer := 0 }
  return .sleep

/-- `netdev_wlan_cc3220sf_sm_wait_fw_install` -/
def smWaitFwInstall : Net Cc3220sfState := do
  let _ ← recvEvent rebootOnFatalError
  let d ← get
  runIf (5000 < d.timer.toNat) (emit .otaRestart)
  return .waitFwInstall

/-- `netdev_wlan_cc3220sf_sm_wait_provisioning` -/
def smWaitProvisioning : Net Cc3220sfState := do
  let _ ← recvEvent rebootOnFatalError
  let d ← get
  runIf (.provMode ∉ d.wlanStatus) (do
    emit (.slWifiConnEnableProvisioning WifiApi.provFlagForceProvisioning)
    modify fun d => { d with wlanStatus := insert .provMode d.wlanStatus }
    emit .slWifiConnEnable)
  return .waitProvision

/-- The `switch` of `netdev_wlan_cc3220sf_exec`. -/
def smHandler : Cc3220sfState → Net Cc3220sfState
  | .init => smInit
  | .start => smStart rebootOnFatalError
  | .wait4Start => smWait4Start rebootOnFatalError
  | .stop => smStop rebootOnFatalError
  | .checkProfiles => smCheckProfiles
  | .waitConnectAp => smWaitConnectAp rebootOnFatalError
  | .waitIp => smWaitIp rebootOnFatalError
  | .startNetwork => smStartNetwork
  | .startHttp => smStartHttpserver
  | .notifyUp => smNotifyup
  | .notifyDown => smNotifydown
  | .idle => smIdle
  | .sleep => smSleep
  | .error => smError
  | .checkConnection => smCheckConnection
  | .httpMessage => smHttpMessage
  | .handleEvent => smHandleEvent rebootOnFatalError
  | .waitFwInstall => smWaitFwInstall rebootOnFatalError
  | .waitProvision => smWaitProvisioning rebootOnFatalError
  | .ready | .getStatistics | .startProv => return .error

/-- `netdev_wlan_cc3220sf_exec` -/
def exec (delay : BitVec 32) : Net Unit := do
  modify fun d => { d with timer := d.timer + delay }
  let d ← get
  let state ← smHandler rebootOnFatalError d.state
  modify fun d => { d with state := state }
  modify fun d =>
    if .connected ∈ d.wlanStatus then { d with connectedTime := d.connectedTime + delay } else d

end Handlers

section System

/-- A callback sends an event, a request of an HTTP client comes, `netdev_wlan_cc3220sf_ioctl`
sets the mode for provisioning, or the thread of the driver takes a step, with what the
callbacks send while it sleeps there. -/
inductive NetAct
  | send (event : Cc3220sfEvent)
  | request
  | provision
  | exec (delay : BitVec 32) (arriving : List (List Cc3220sfEvent))

/-- A step from which the thread does not come back has no successor. -/
def step (rebootOnFatalError : Bool) (d : Desc) : NetAct → Option Desc
  | .send event => some (sendEvent event d)
  | .request =>
      if d.httpserverQueue < 1 then some { d with httpserverQueue := d.httpserverQueue + 1 }
      else none
  | .provision => some { d with doProvisioning := true }
  | .exec delay arriving =>
      match (exec rebootOnFatalError delay).run { d with arriving := arriving } with
      | .ok _ after => some { after with arriving := [] }
      | .error _ _ => none

/-- The device behind `netdev_wlan_cc3220sf_probe` and `netdev_wlan_cc3220sf_start`, with
the statistics that have survived a reboot. -/
def started (totalFatalErrors totalRecoveries totalDisconnects : BitVec 32)
    (doProvisioning : Bool) : Desc where
  state := .init
  nstate := .init
  timer := 0
  sleepTime := 5000
  fatalErrorCount := 0
  totalFatalErrors := totalFatalErrors
  totalRecoveries := totalRecoveries
  totalDisconnects := totalDisconnects
  connectedTime := 0
  wlanStatus := {.checkedProfiles}
  eventQ := []
  httpserverQueue := 0
  doProvisioning := doProvisioning
  arriving := []
  outputs := []

end System

end SimpleLinkHost.Cc3220sf
