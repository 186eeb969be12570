import Mathlib.Algebra.Order.Floor.Semiring
import Mathlib.Data.Rat.Floor
import SimpleLinkHost.Core.Transition
import SimpleLinkHost.Driver.DataOp
import SimpleLinkHost.Driver.MsgRead

/-!
# TX flow control between threads

Data operations count the packets of the NWP's TX pool down, and every received header
overwrites the count.  Here both run statement by statement: a data operation from its
lock on `TxLockObj` to the subtraction, and the NWP status update of `_SlDrvMsgRead` from
the store of `TxPoolCnt` to the signal on `TxSyncObj`.  A header may come between any two
statements of a data operation; updates follow one another.
-/

namespace SimpleLinkHost.TxFlow

open Calls DataOp Transition
open RxMsg (RespHeader)

section System

/-- A data operation as its flow control sees it. -/
inductive FlowOp
  | read
  | write (sd : Byte) (txPayload1Len : BitVec 16)
deriving DecidableEq

/-- A data operation that knows how many packets its message takes. -/
structure Flow where
  op : FlowOp
  allocTxPoolPkts : ℕ
deriving DecidableEq

/-- Where a thread is.  `found` is the count that its last test has found. -/
inductive FlowPos
  | idle
  /-- In `sl_LockObjLock` on `TxLockObj`. -/
  | locking (op : FlowOp)
  | clearing (op : FlowOp)
  /-- A send computes how many packets it takes. -/
  | computing (sd : Byte) (txPayload1Len : BitVec 16)
  /-- A send is at the test of `SocketTXFailure`. -/
  | checking (flow : Flow)
  | testing (flow : Flow)
  /-- A send has found too few packets and looks at `SocketNonBlocking`. -/
  | refused (flow : Flow) (found : Byte)
  /-- In `sl_SyncObjWait` on `TxSyncObj`. -/
  | waiting (flow : Flow) (found : Byte)
  | woken (flow : Flow) (found : Byte)
  /-- A send is at its second test. -/
  | retesting (flow : Flow)
  /-- At the global lock. -/
  | granting (flow : Flow) (found : Byte)
  | granted (flow : Flow) (found : Byte)
  | verifying (flow : Flow) (found : Byte)
  | taking (flow : Flow) (found : Byte)
  /-- Gives `TxLockObj` back, and then goes on with the given operation. -/
  | unlocking (next : Option FlowOp)
deriving DecidableEq

/-- Where the NWP status update is. -/
inductive UpdatePos
  | idle
  | storingNonBlocking (header : RespHeader)
  | storingTXFailure (header : RespHeader)
  | storingMinPayload (header : RespHeader)
  | testing
  | counting
  | counted (count : ℕ)

structure FlowSys (T : Type*) where
  txPoolCnt : Byte
  minTxPayloadSize : BitVec 16
  socketNonBlocking : BitVec 16
  socketTXFailure : BitVec 16
  /-- The count of `TxSyncObj`. -/
  txSyncObj : ℕ
  txLockObj : Option T
  restartRequired : Bool
  update : UpdatePos
  thread : T → FlowPos
  /-- The last header whose `TxPoolCnt` was stored since a data operation has last tested
  the count; no step reads it. -/
  sinceTest : Option RespHeader
  /-- The last header whose `MinMaxPayload` was stored; no step reads it. -/
  lastPayload : Option RespHeader

inductive FlowAct (T : Type*)
  /-- A header is received, and its `TxPoolCnt` stored. -/
  | header (header : RespHeader)
  | update
  /-- The restart flag is set or cleared elsewhere. -/
  | restart (required : Bool)
  | call (thread : T) (op : FlowOp)
  | statement (thread : T)
  /-- The spawn task finds `TxSyncObj` signalled between two rounds of events. -/
  | spawnWoken (thread : T)
  /-- The wait is timed out, or the wrapper refuses the global lock. -/
  | refuse (thread : T)

variable (cfg : DataConfig)

/-- `1 + (TxPayload1Len-1) / MinTxPayloadSize` -/
def txPoolPkts (txPayload1Len minTxPayloadSize : BitVec 16) : ℕ :=
  (1 + Int.tdiv ((txPayload1Len.toNat : ℤ) - 1) minTxPayloadSize.toNat).toNat

/-- The count that is too small for a data operation. -/
def Flow.threshold (flow : Flow) : ℕ :=
  match flow.op with
  | .read => cfg.flowContMin
  | .write _ _ => cfg.flowContMin + flow.allocTxPoolPkts

/-- What is taken from the count, `(_u8)allocTxPoolPkts` -/
def Flow.amount (flow : Flow) : Byte := BitVec.ofNat 8 flow.allocTxPoolPkts

/-- A receive takes one packet. -/
def readFlow : Flow where
  op := .read
  allocTxPoolPkts := 1

/-- `_SlDrvDriverCBInit`, with nobody at work. -/
def initial (T : Type*) : FlowSys T :=
  let cb := messageCBInit (BitVec.ofNat 8 cfg.flowContMin)
  { txPoolCnt := cb.txPoolCnt
    minTxPayloadSize := cb.minTxPayloadSize
    socketNonBlocking := cb.socketNonBlocking
    socketTXFailure := cb.socketTXFailure
    txSyncObj := 0
    txLockObj := none
    restartRequired := false
    update := .idle
    thread := fun _ => .idle
    sinceTest := none
    lastPayload := none }

variable {T : Type*} [DecidableEq T]

def FlowSys.goto (s : FlowSys T) (thread : T) (pos : FlowPos) : FlowSys T :=
  { s with thread := Function.update s.thread thread pos }

/-- The test of the count by a data operation that goes to `enough` or to `short`. -/
def FlowSys.test (s : FlowSys T) (thread : T) (flow : Flow) (enough short : FlowPos) :
    FlowSys T :=
  { s with sinceTest := none }.goto thread
    (if s.txPoolCnt.toNat ≤ flow.threshold cfg then short else enough)

/-- Behind the wait a send tests the count again and a receive does not. -/
def afterWait (flow : Flow) (found : Byte) : FlowPos :=
  match flow.op with
  | .read => .granting flow found
  | .write _ _ => .retesting flow

/-- One statement of `_SlDrvDataReadOp` or `_SlDrvDataWriteOp`.  A division by zero has no
next state. -/
def threadStep (s : FlowSys T) (thread : T) : Option (FlowSys T) :=
  match s.thread thread with
  | .idle => none
  | .locking op =>
      if s.txLockObj.isNone then
        some ({ s with txLockObj := some thread }.goto thread (.clearing op))
      else none
  | .clearing .read =>
      some ({ s with txSyncObj := s.txSyncObj - 1 }.goto thread (.testing readFlow))
  | .clearing (.write sd txPayload1Len) =>
      some ({ s with txSyncObj := s.txSyncObj - 1 }.goto thread (.computing sd txPayload1Len))
  | .computing sd txPayload1Len =>
      if s.minTxPayloadSize = 0 then none
      else some (s.goto thread (.checking
        ⟨.write sd txPayload1Len, txPoolPkts txPayload1Len s.minTxPayloadSize⟩))
  | .checking flow =>
      match flow.op with
      | .read => none
      | .write sd _ => some (s.goto thread
          (if socketBit cfg s.socketTXFailure sd then .unlocking none else .testing flow))
  | .testing flow =>
      match flow.op with
      | .read => some (s.test cfg thread flow (.granting flow s.txPoolCnt)
          (.waiting flow s.txPoolCnt))
      | .write _ _ => some (s.test cfg thread flow (.retesting flow)
          (.refused flow s.txPoolCnt))
  | .refused flow found =>
      match flow.op with
      | .read => none
      | .write sd _ => some (s.goto thread
          (if socketBit cfg s.socketNonBlocking sd then .unlocking none
            else .waiting flow found))
  | .waiting flow found =>
      if 0 < s.txSyncObj then
        some ({ s with txSyncObj := s.txSyncObj - 1 }.goto thread (.woken flow found))
      else none
  | .woken flow found =>
      some (s.goto thread (if s.restartRequired then .idle else afterWait flow found))
  | .retesting flow =>
      some (s.test cfg thread flow (.granting flow s.txPoolCnt) (.unlocking (some flow.op)))
  | .granting flow found => some (s.goto thread (.granted flow found))
  | .granted flow found =>
      some (s.goto thread (if s.restartRequired then .idle else .verifying flow found))
  | .verifying flow found =>
      some ({ s with
        restartRequired :=
          s.restartRequired || decide (s.txPoolCnt.toNat < flow.threshold cfg) }.goto thread
        (.taking flow found))
  | .taking flow _ =>
      some ({ s with txPoolCnt := s.txPoolCnt - flow.amount }.goto thread (.unlocking none))
  | .unlocking none => some ({ s with txLockObj := none }.goto thread .idle)
  | .unlocking (some op) => some ({ s with txLockObj := none }.goto thread (.locking op))

/-- One statement of the NWP status update in `_SlDrvMsgRead` behind the first store. -/
def updateStep (s : FlowSys T) : Option (FlowSys T) :=
  match s.update with
  | .idle => none
  | .storingNonBlocking header =>
      some { s with
        socketNonBlocking := header.socketNonBlocking
        update := .storingTXFailure header }
  | .storingTXFailure header =>
      some { s with
        socketTXFailure := header.socketTXFailure
        update := .storingMinPayload header }
  | .storingMinPayload header =>
      some { s with
        minTxPayloadSize := header.minMaxPayload
        lastPayload := some header
        update := .testing }
  | .testing =>
      some { s with
        update := if cfg.flowContMin < s.txPoolCnt.toNat then .counting else .idle }
  | .counting => some { s with update := .counted s.txSyncObj }
  | .counted count =>
      some { s with
        txSyncObj := if count = 0 then s.txSyncObj + 1 else s.txSyncObj
        update := .idle }

def step (s : FlowSys T) : FlowAct T → Option (FlowSys T)
  | .header header =>
      match s.update with
      | .idle => some { s with
          txPoolCnt := header.txPoolCnt
          sinceTest := some header
          update := .storingNonBlocking header }
      | _ => none
  | .update => updateStep cfg s
  | .restart required => some { s with restartRequired := required }
  | .call thread op =>
      match s.thread thread with
      | .idle => some (s.goto thread (.locking op))
      | _ => none
  | .statement thread => threadStep cfg s thread
  | .spawnWoken thread =>
      match s.thread thread with
      | .waiting flow found =>
          if 0 < s.txSyncObj then
            some ({ s with txSyncObj := s.txSyncObj - 1 }.goto thread (afterWait flow found))
          else none
      | _ => none
  | .refuse thread =>
      match s.thread thread with
      | .waiting _ _ => some ({ s with restartRequired := true }.goto thread .idle)
      | .granting _ _ => some (s.goto thread .idle)
      | _ => none

end System

section Property

variable (cfg : DataConfig) {T : Type*}

/-- Wherever a step takes packets, the count has them. -/
def TakesWhatIsThere (s : FlowSys T) (act : FlowAct T) : Prop :=
  ∀ thread flow found, act = .statement thread → s.thread thread = .taking flow found →
    flow.amount.toNat ≤ s.txPoolCnt.toNat

/-- The last header since the operation has tested the count still offers what it takes.
Where none has come, the operation has found its packets, unless it is a receive, which
does not test again behind its wait. -/
def Covered (s : FlowSys T) (flow : Flow) (found : Byte) : Prop :=
  match s.sinceTest with
  | some header => flow.amount.toNat ≤ header.txPoolCnt.toNat
  | none => flow.op = .read → found ≠ 0

def TakesCovered (s : FlowSys T) (act : FlowAct T) : Prop :=
  ∀ thread flow found, act = .statement thread → s.thread thread = .taking flow found →
    Covered s flow found

/-- A data operation that waits without a signal to come has too small a count. -/
def NoLostWakeUp (s : FlowSys T) : Prop :=
  ∀ thread flow found, s.thread thread = .waiting flow found → s.txSyncObj = 0 →
    s.update = .idle → s.txPoolCnt.toNat ≤ flow.threshold cfg

/-- Wherever a send is about to compute how many packets it takes, the divisor is not zero
and the result is the rounded-up quotient. -/
def ComputesPackets (s : FlowSys T) (act : FlowAct T) : Prop :=
  ∀ thread sd txPayload1Len, act = .statement thread →
    s.thread thread = .computing sd txPayload1Len →
    s.minTxPayloadSize ≠ 0 ∧
      (1 ≤ txPayload1Len.toNat → txPoolPkts txPayload1Len s.minTxPayloadSize =
        ⌈(txPayload1Len.toNat : ℚ) / s.minTxPayloadSize.toNat⌉₊)

/-- No send computes its packets while the last header has announced payloads of length
zero. -/
def PayloadAnnounced (s : FlowSys T) (act : FlowAct T) : Prop :=
  ∀ thread sd txPayload1Len header, act = .statement thread →
    s.thread thread = .computing sd txPayload1Len → s.lastPayload = some header →
    header.minMaxPayload ≠ 0

end Property

section Invariant

variable (cfg : DataConfig) {T : Type*} {s : FlowSys T}

def FlowPos.holdsLock : FlowPos → Bool
  | .idle | .locking _ => false
  | _ => true

/-- The update will still look at the count, or is on its way to the signal. -/
def UpdatePos.pending : UpdatePos → Bool
  | .idle | .counted (_ + 1) => false
  | _ => true

/-- Since the test that found `found` packets only headers have changed the count. -/
def FlowSys.CountIs (s : FlowSys T) (found : Byte) : Prop :=
  s.txPoolCnt = (s.sinceTest.map RespHeader.txPoolCnt).getD found

/-- The count is still too small, or the signal is there or on its way. -/
def Awaited (s : FlowSys T) (flow : Flow) : Prop :=
  s.txPoolCnt.toNat ≤ flow.threshold cfg ∨ 0 < s.txSyncObj ∨ s.update.pending = true

def Flow.Formed (flow : Flow) : Prop := flow.op = .read → flow.allocTxPoolPkts = 1

/-- A send has found more packets than it takes. -/
def Flow.Enough (flow : Flow) (found : Byte) : Prop :=
  flow.op = .read ∨ flow.threshold cfg < found.toNat

/-- What a thread with `TxLockObj` knows. -/
def Knows (s : FlowSys T) : FlowPos → Prop
  | .checking flow | .testing flow | .retesting flow => flow.Formed
  | .refused flow found | .waiting flow found =>
      flow.Formed ∧ s.CountIs found ∧ Awaited cfg s flow
  | .woken flow found => flow.Formed ∧ s.CountIs found
  | .granting flow found | .granted flow found | .verifying flow found | .taking flow found =>
      flow.Formed ∧ s.CountIs found ∧ flow.Enough cfg found
  | _ => True

structure FlowKnows (s : FlowSys T) : Prop where
  lock : ∀ thread, (s.thread thread).holdsLock = true → s.txLockObj = some thread
  knows : ∀ thread, Knows cfg s (s.thread thread)

theorem knows_of_not_holdsLock {pos : FlowPos} (hpos : pos.holdsLock = false) :
    Knows cfg s pos := by
  cases pos <;> simp_all [FlowPos.holdsLock, Knows]

theorem initial_flowKnows : FlowKnows cfg (initial cfg T) where
  lock _ hholds := by simp [initial, FlowPos.holdsLock] at hholds
  knows _ := knows_of_not_holdsLock cfg rfl

theorem flowContMin_le_threshold (flow : Flow) : cfg.flowContMin ≤ flow.threshold cfg := by
  rw [Flow.threshold]
  split <;> omega

end Invariant

end SimpleLinkHost.TxFlow
