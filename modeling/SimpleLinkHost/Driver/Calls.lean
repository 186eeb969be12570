import Mathlib.Data.Nat.PSub
import Mathlib.Tactic.Common
import SimpleLinkHost.Core.CallOutcome
import SimpleLinkHost.Core.LockTrace
import SimpleLinkHost.Driver.Pool

/-!
# Driver calls

The state of one driver call: the actions it has taken so far, the bytes the
interface still delivers to it, and the control block.  A C function that may
return early, also through a macro, is a program that may throw its return
value.  `held` is what a call holds of each lock.
-/

namespace SimpleLinkHost.Calls

open Pool LockTrace CallOutcome

abbrev Byte := BitVec 8

inductive LockObj
  | globalLockObj
  | protectionLockObj
  | txLockObj
  /-- An object of the pool, from `_SlDrvWaitForPoolObj` to
  `_SlDrvReleasePoolObj`. -/
  | poolObj (index : ℕ)
deriving DecidableEq

inductive SyncObj
  | txSyncObj
  | cmdSyncObj
  | selectSyncObj
  | poolObj (index : ℕ)
deriving DecidableEq

/-- The errors given to `_SlDrvHandleFatalError`. -/
inductive FatalError
  | syncLoss
  | driverAbort
  | noCmdAck (opcode : BitVec 16) (timeout : ℕ)
  | cmdTimeout (opcode : BitVec 16) (timeout : ℕ)
deriving DecidableEq

/-- The values that driver functions return; `osi` is the status of an
operating-system call. -/
inductive RetCode
  | ok
  | apiAborted
  | invalidInput
  | badFileNumber
  | poolIsEmpty
  | stopInProgress
  | devLocked
  | devNotStarted
  | provisioningInProgress
  | interfaceClosed
  | eagain
  | socError
  | noFreeAsyncBuffers
  | mallocError
  | osi (status : ℤ)
  /-- No return: the call still waits where the given events end. -/
  | noReturn
deriving DecidableEq

/-- The buffers that a received message is copied to. -/
inductive Buffer
  | asyncBuf
  | txRxDescBuff
  | rxPayload
  | recvArgs (index : ℕ)
  | recvData (index : ℕ)
  /-- The local buffer of the branch for the control socket. -/
  | ctrlSockBuffer
deriving DecidableEq

/-- The event handlers that `_SlDrvClassifyRxMsg` and the action table select. -/
inductive EvtHandler
  | silo (index : ℕ)
  | netApp
  | pingResponse
  | action (row : ℕ)
deriving DecidableEq

inductive DrvAct
  | lock (obj : LockObj)
  | unlock (obj : LockObj)
  | apiInProgress (value : ℤ)
  | fatalError (error : FatalError)
  | syncSignal (obj : SyncObj)
  | syncClear (obj : SyncObj)
  | ifWrite (bytes : List Byte)
  | ifRead (count : ℕ)
  | memWrite (buffer : Buffer) (offset : ℕ) (bytes : List Byte)
  | setStatusOfPending (index : ℕ)
  | setDeviceStatus (status : Byte)
  | unmaskIntHdlr
  | malloc
  | free
  | eventHandler (handler : EvtHandler) (message : List Byte)
  | spawnFromCmd (fromCmdProcess : Bool)
  | internalSpawnWaitForEvent
  | setTxPoolCnt (value : Byte)
  | setRespArgs (index : ℕ)
deriving DecidableEq

/-- The locks that an action takes or gives back. -/
def lockEvent : DrvAct → Option (LockEvent LockObj)
  | .lock obj => some (.acquire obj)
  | .unlock obj => some (.release obj)
  | _ => none

/-- `_SlCmdCtrl_t` -/
structure CmdCtrl where
  opcode : BitVec 16
  txDescLen : Byte
  rxDescLen : Byte

/-- `_SlCmdExt_t`; a payload to send is the memory from its pointer on. -/
structure CmdExt where
  pRxPayload : Option (ℕ → Byte)
  rxPayloadLen : BitVec 16
  actualRxPayloadLen : BitVec 16
  txPayload1Len : BitVec 16
  pTxPayload1 : ℕ → Byte
  txPayload2Len : BitVec 16
  pTxPayload2 : ℕ → Byte

inductive RxMsgClass
  | cmdResp
  | asyncEvt
  | recvResp
  | multiSelectResp
  | dummyMsg
deriving DecidableEq

/-- `AsyncExt` of the function parameters. -/
structure AsyncExt where
  rxMsgClass : RxMsgClass
  asyncEvtHandler : Option EvtHandler
  actionIndex : ℕ

/-- `MultiSelectCB`; the two objects are given by their handles. -/
structure MultiSelectCB where
  ctrlSockFD : Byte
  activeSelect : Bool
  selectEntry : ℕ → Bool
  readsds : BitVec 32
  writesds : BitVec 32
  selectCmdRespStatus : BitVec 16
  selectLockObj : ℕ
  selectSyncObj : ℕ

/-- An item of the spawn message list. -/
structure SpawnMsgItem where
  actionIndex : ℕ
  asyncHndlr : Option EvtHandler
  buffer : List Byte

/-- The part of the driver control block that the message functions use. -/
structure DriverCB where
  pCmdCtrl : CmdCtrl
  pTxRxDescBuff : Option (ℕ → Byte)
  pCmdExt : Option CmdExt
  asyncExt : AsyncExt
  tempProtocolHeaderOpcode : BitVec 16
  tempProtocolHeaderLen : BitVec 16
  txPoolCnt : Byte
  minTxPayloadSize : BitVec 16
  socketNonBlocking : BitVec 16
  socketTXFailure : BitVec 16
  waitForCmdResp : Bool
  rxDoneCnt : Byte
  multiSelectCB : MultiSelectCB
  spawnMsgList : List SpawnMsgItem

/-- The part of `_SlDrvDriverCBInit` for these fields; the rest is zero. -/
def messageCBInit (flowContMin : Byte) : DriverCB where
  pCmdCtrl := { opcode := 0, txDescLen := 0, rxDescLen := 0 }
  pTxRxDescBuff := none
  pCmdExt := none
  asyncExt := { rxMsgClass := .cmdResp, asyncEvtHandler := none, actionIndex := 0 }
  tempProtocolHeaderOpcode := 0
  tempProtocolHeaderLen := 0
  txPoolCnt := flowContMin
  minTxPayloadSize := 1536
  socketNonBlocking := 0
  socketTXFailure := 0
  waitForCmdResp := false
  rxDoneCnt := 0
  multiSelectCB :=
    { ctrlSockFD := 0xFF
      activeSelect := false
      selectEntry := fun _ => false
      readsds := 0
      writesds := 0
      selectCmdRespStatus := 0
      selectLockObj := 0
      selectSyncObj := 0 }
  spawnMsgList := []

structure DrvState where
  acts : List DrvAct
  /-- The bytes the interface delivers before a read falls short. -/
  rx : List Byte
  /-- How many writes succeed before one falls short. -/
  writesLeft : ℕ
  cb : DriverCB

namespace DrvState

def after (s : DrvState) (act : DrvAct) : DrvState := { s with acts := s.acts ++ [act] }

def changeCB (s : DrvState) (change : DriverCB → DriverCB) : DrvState :=
  { s with cb := change s.cb }

/-- How often the call holds each lock; undefined once it released a lock that it
did not hold. -/
def held (s : DrvState) (lock : LockObj) : Option ℕ := heldFrom lockEvent lock 0 s.acts

/-- A call that has just begun. -/
def start (rx : List Byte) (writesLeft : ℕ) (cb : DriverCB) : DrvState where
  acts := []
  rx := rx
  writesLeft := writesLeft
  cb := cb

variable {s : DrvState} {act : DrvAct} {change : DriverCB → DriverCB}

@[simp]
theorem after_rx : (s.after act).rx = s.rx := rfl

@[simp]
theorem after_writesLeft : (s.after act).writesLeft = s.writesLeft := rfl

@[simp]
theorem after_cb : (s.after act).cb = s.cb := rfl

@[simp]
theorem changeCB_rx : (s.changeCB change).rx = s.rx := rfl

@[simp]
theorem changeCB_writesLeft : (s.changeCB change).writesLeft = s.writesLeft := rfl

@[simp]
theorem changeCB_cb : (s.changeCB change).cb = change s.cb := rfl

@[simp]
theorem changeCB_held : (s.changeCB change).held = s.held := rfl

end DrvState

/-- The locks of a call that takes one more lock. -/
def holding (held : LockObj → Option ℕ) (obj : LockObj) : LockObj → Option ℕ :=
  Function.update held obj ((held obj).map (· + 1))

/-- The locks of a call that gives one lock back. -/
def without (held : LockObj → Option ℕ) (obj : LockObj) : LockObj → Option ℕ :=
  Function.update held obj ((held obj).bind Nat.ppred)

section Held

variable {s : DrvState} {act : DrvAct} {lock obj other : LockObj} {held : LockObj → Option ℕ}

@[simp]
theorem without_holding : without (holding held obj) obj = held := by
  funext lock
  by_cases hlock : lock = obj
  · subst hlock
    cases hheld : held lock <;> simp [without, holding, hheld]
  · simp [without, holding, hlock]

theorem without_holding_ne (hother : other ≠ obj) :
    without (holding held other) obj = holding (without held obj) other := by
  funext lock
  by_cases hlock : lock = obj
  · subst hlock
    simp [without, holding, hother.symm]
  · by_cases hlock' : lock = other
    · subst hlock'
      simp [without, holding, hlock]
    · simp [without, holding, hlock, hlock']

theorem DrvState.held_after :
    (s.after act).held lock =
      (s.held lock).bind fun count => heldFrom lockEvent lock count [act] :=
  heldFrom_append

theorem held_lock : (s.after (.lock obj)).held = holding s.held obj := by
  funext lock
  rw [DrvState.held_after]
  by_cases hlock : lock = obj
  · subst hlock
    cases hheld : s.held lock <;> simp [holding, heldFrom, lockEvent, hheld]
  · cases hheld : s.held lock <;>
      simp [holding, heldFrom, lockEvent, hlock, Ne.symm hlock, hheld]

theorem held_unlock : (s.after (.unlock obj)).held = without s.held obj := by
  funext lock
  rw [DrvState.held_after]
  by_cases hlock : lock = obj
  · subst hlock
    cases hheld : s.held lock with
    | none => simp [without, hheld]
    | some count => cases count <;> simp [without, heldFrom, lockEvent, hheld]
  · cases hheld : s.held lock <;>
      simp [without, heldFrom, lockEvent, hlock, Ne.symm hlock, hheld]

/-- Actions that are not on locks. -/
theorem held_neutral (hact : lockEvent act = none) : (s.after act).held = s.held := by
  funext lock
  rw [DrvState.held_after]
  cases s.held lock with
  | none => rfl
  | some count => simp [heldFrom, hact]

end Held

/-- Between `s` and `after` the call only took actions, and then holds `held`. -/
structure Reaches (s : DrvState) (held : LockObj → Option ℕ) (after : DrvState) : Prop where
  rx : after.rx = s.rx
  writesLeft : after.writesLeft = s.writesLeft
  cb : after.cb = s.cb
  held : after.held = held

namespace Reaches

variable {s middle last : DrvState} {held held' : LockObj → Option ℕ}

theorem refl : Reaches s s.held s := ⟨rfl, rfl, rfl, rfl⟩

theorem trans (hfirst : Reaches s held middle) (hsecond : Reaches middle held' last) :
    Reaches s held' last :=
  ⟨hsecond.rx.trans hfirst.rx, hsecond.writesLeft.trans hfirst.writesLeft,
    hsecond.cb.trans hfirst.cb, hsecond.held⟩

theorem lock (hreaches : Reaches s held middle) (obj : LockObj) :
    Reaches s (holding held obj) (middle.after (.lock obj)) :=
  ⟨hreaches.rx, hreaches.writesLeft, hreaches.cb, by rw [held_lock, hreaches.held]⟩

theorem unlock (hreaches : Reaches s held middle) (obj : LockObj) :
    Reaches s (without held obj) (middle.after (.unlock obj)) :=
  ⟨hreaches.rx, hreaches.writesLeft, hreaches.cb, by rw [held_unlock, hreaches.held]⟩

theorem neutral {act : DrvAct} (hreaches : Reaches s held middle)
    (hact : lockEvent act = none) : Reaches s held (middle.after act) :=
  ⟨hreaches.rx, hreaches.writesLeft, hreaches.cb, by rw [held_neutral hact, hreaches.held]⟩

end Reaches

abbrev DrvM := EStateM RetCode DrvState

def emit (act : DrvAct) : DrvM Unit := modify fun s => s.after act

def modifyCB (change : DriverCB → DriverCB) : DrvM Unit := modify fun s => s.changeCB change

/-- An `if` around a `return`. -/
def returnIf (cond : Bool) (ret : RetCode) : DrvM Unit := if cond then throw ret else pure ()

/-- A return value that stops the caller too. -/
def stopsCaller (ret : RetCode) : Bool := ret = .noReturn

/-- The status of a called function that returns `SL_OS_RET_CODE_OK` at its end. -/
def retVal {α : Type} : Except RetCode α → RetCode
  | .ok _ => .ok
  | .error ret => ret

section Ends

variable {s : DrvState} {falls : Unit → DrvState → Prop} {returns : RetCode → DrvState → Prop}

@[simp]
theorem ends_emit {act : DrvAct} :
    Ends (emit act) s falls returns ↔ falls () (s.after act) := Iff.rfl

@[simp]
theorem ends_modifyCB {change : DriverCB → DriverCB} :
    Ends (modifyCB change) s falls returns ↔ falls () (s.changeCB change) := Iff.rfl

@[simp]
theorem ends_returnIf {cond : Bool} {ret : RetCode} :
    Ends (returnIf cond ret) s falls returns ↔ if cond then returns ret s else falls () s := by
  cases cond <;> rfl

end Ends

end SimpleLinkHost.Calls
