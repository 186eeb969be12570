import SimpleLinkHost.Core.Transition
import SimpleLinkHost.Driver.Calls

/-!
# Who reads a received message

The receive interrupt, command threads in `_SlDrvCmdOp` and the spawn task, statement
by statement.  The interrupt leaves a message to the command that waits for its
response, or to the spawn task by a request; a command that ends looks once more,
after it gave up the global lock, whether a message is left.  The handler runs as a
whole, and only while the interrupt is unmasked.
-/

namespace SimpleLinkHost.RxHandover

open Calls Transition

section System

/-- The message that an interrupt announces; an async event may find no buffer in the
list of stored events. -/
structure Announced where
  msgClass : RxMsgClass
  fits : Bool
deriving DecidableEq

/-- Where a command thread is. -/
inductive CmdPos
  | idle
  /-- In `_SlDrvCmdOp` with the global lock. -/
  | locked
  /-- `WaitForCmdResp` is set and `_SlDrvMsgWrite` runs. -/
  | writing
  /-- At the head of the loop of `_SlDrvMsgReadCmdCtx`. -/
  | looping
  | testing
  /-- In `sl_SyncObjWait` on `CmdSyncObj`. -/
  | waiting
  | reading
  /-- `_SlDrvMsgRead` has unmasked the interrupt and `RxDoneCnt` is still to be
  incremented. -/
  | counting (message : Announced)
  | handling (message : Announced)
  /-- `WaitForCmdResp` is cleared and `CmdSyncObj` is not. -/
  | clearing
  /-- Behind the loop. -/
  | leaving
  | unlocking
  /-- At the last test, without the lock. -/
  | checking
  /-- The last test has loaded `RxIrqCnt`. -/
  | gotIrq (rxIrqCnt : Byte)
  /-- The last test has loaded `RxDoneCnt`. -/
  | gotDone (rxDoneCnt : Byte)
  /-- The last test has found a message and calls `sl_Spawn`. -/
  | requesting
  /-- In `sl_Spawn`, with `IrqWriteCnt` incremented. -/
  | signalling
deriving DecidableEq

/-- Where the spawn task is. -/
inductive SpawnPos
  /-- In `sl_SyncObjWait` on its `SyncObj`. -/
  | waiting
  /-- At the start of `_SlSpawnMsgListProcess`. -/
  | loading
  /-- At the loop of `_SlSpawnMsgListProcess`; `more` is `pCurr != NULL`. -/
  | processing (more : Bool)
  | handlingItem (more : Bool)
  /-- At the loop that handles the requests. -/
  | serving
  /-- In `_SlDrvMsgReadSpawnCtx`, on its way to the global lock. -/
  | entering
  | checking
  | reading
  | counting (message : Announced)
  | handling (message : Announced)
  | unlocking
  /-- `_SlDrvMsgReadSpawnCtx` has returned. -/
  | returned
deriving DecidableEq

inductive RxParty (T : Type*)
  | cmd (thread : T)
  | spawn
deriving DecidableEq

structure RxSys (T : Type*) where
  masked : Bool
  announced : Announced
  rxIrqCnt : Byte
  rxDoneCnt : Byte
  waitForCmdResp : Bool
  /-- `CmdSyncObj` is signalled. -/
  cmdSyncObj : Bool
  /-- The `SyncObj` of the spawn task is signalled. -/
  spawnSyncObj : Bool
  irqWriteCnt : Byte
  irqReadCnt : Byte
  /-- The increments of `IrqWriteCnt` less those of `IrqReadCnt`; no step reads it. -/
  outstanding : ℕ
  /-- The length of the list of stored events. -/
  spawnMsgs : ℕ
  globalLock : Option (RxParty T)
  thread : T → CmdPos
  spawn : SpawnPos

inductive RxAct (T : Type*)
  | irq (announced : Announced)
  | cmd (thread : T)
  | spawn

/-- The started driver with no command under way and no message received. -/
def initial (T : Type*) : RxSys T where
  masked := false
  announced := ⟨.dummyMsg, true⟩
  rxIrqCnt := 0
  rxDoneCnt := 0
  waitForCmdResp := false
  cmdSyncObj := false
  spawnSyncObj := false
  irqWriteCnt := 0
  irqReadCnt := 0
  outstanding := 0
  spawnMsgs := 0
  globalLock := none
  thread _ := .idle
  spawn := .waiting

variable {T : Type*}

namespace RxSys

/-- `_SL_PENDING_RX_MSG` -/
def pendingRxMsg (s : RxSys T) : Bool := s.rxIrqCnt != s.rxDoneCnt

/-- The part of `sl_Spawn` that counts a request. -/
def request (s : RxSys T) : RxSys T :=
  { s with irqWriteCnt := s.irqWriteCnt + 1, outstanding := s.outstanding + 1 }

/-- One command thread moves on. -/
def goto [DecidableEq T] (s : RxSys T) (thread : T) (pos : CmdPos) : RxSys T :=
  { s with thread := Function.update s.thread thread pos }

end RxSys

/-- `_SlDrvRxIrqHandler` -/
def slDrvRxIrqHandler (announced : Announced) (s : RxSys T) : RxSys T :=
  let s := { s with masked := true, announced := announced, rxIrqCnt := s.rxIrqCnt + 1 }
  if s.waitForCmdResp then { s with cmdSyncObj := true }
  else { s.request with spawnSyncObj := true }

/-- One statement of a command thread.  C leaves it open which counter the last test
loads first. -/
def cmdStep [DecidableEq T] (irqFirst : Bool) (s : RxSys T) (thread : T) : Option (RxSys T) :=
  match s.thread thread with
  | .idle =>
      if s.globalLock.isNone then
        some ({ s with globalLock := some (.cmd thread) }.goto thread .locked)
      else none
  | .locked => some ({ s with waitForCmdResp := true }.goto thread .writing)
  | .writing => some (s.goto thread .looping)
  | .looping => some (s.goto thread (if s.waitForCmdResp then .testing else .leaving))
  | .testing => some (s.goto thread (if s.pendingRxMsg then .reading else .waiting))
  | .waiting =>
      if s.cmdSyncObj then some ({ s with cmdSyncObj := false }.goto thread .looping) else none
  | .reading => some ({ s with masked := false }.goto thread (.counting s.announced))
  | .counting message =>
      some ({ s with rxDoneCnt := s.rxDoneCnt + 1 }.goto thread (.handling message))
  | .handling ⟨.cmdResp, _⟩ => some ({ s with waitForCmdResp := false }.goto thread .clearing)
  | .handling ⟨.asyncEvt, fits⟩ =>
      some ({ s with spawnMsgs := if fits then s.spawnMsgs + 1 else s.spawnMsgs }.goto
        thread .looping)
  | .handling _ => some (s.goto thread .looping)
  | .clearing => some ({ s with cmdSyncObj := false }.goto thread .looping)
  | .leaving =>
      some ({ s with spawnSyncObj := s.spawnSyncObj || decide (0 < s.spawnMsgs) }.goto
        thread .unlocking)
  | .unlocking => some ({ s with globalLock := none }.goto thread .checking)
  | .checking =>
      some (s.goto thread (if irqFirst then .gotIrq s.rxIrqCnt else .gotDone s.rxDoneCnt))
  | .gotIrq rxIrqCnt =>
      some (s.goto thread (if rxIrqCnt = s.rxDoneCnt then .idle else .requesting))
  | .gotDone rxDoneCnt =>
      some (s.goto thread (if s.rxIrqCnt = rxDoneCnt then .idle else .requesting))
  | .requesting => some (s.request.goto thread .signalling)
  | .signalling => some ({ s with spawnSyncObj := true }.goto thread .idle)

/-- One statement of the spawn task, in `_SlInternalSpawnWaitForEvent` and
`_SlDrvMsgReadSpawnCtx`. -/
def spawnStep (s : RxSys T) : Option (RxSys T) :=
  match s.spawn with
  | .waiting =>
      if s.spawnSyncObj then some { s with spawnSyncObj := false, spawn := .loading } else none
  | .loading => some { s with spawn := .processing (decide (0 < s.spawnMsgs)) }
  | .processing true =>
      if s.globalLock.isNone then
        some { s with
          globalLock := some .spawn
          spawnMsgs := s.spawnMsgs - 1
          spawn := .handlingItem (decide (1 < s.spawnMsgs)) }
      else none
  | .processing false => some { s with spawn := .serving }
  | .handlingItem more => some { s with globalLock := none, spawn := .processing more }
  | .serving =>
      some { s with spawn := if s.irqWriteCnt = s.irqReadCnt then .waiting else .entering }
  | .entering =>
      if s.globalLock.isNone then
        some { s with globalLock := some .spawn, spawn := .checking }
      else none
  | .checking => some { s with spawn := if s.pendingRxMsg then .reading else .unlocking }
  | .reading => some { s with masked := false, spawn := .counting s.announced }
  | .counting message =>
      some { s with rxDoneCnt := s.rxDoneCnt + 1, spawn := .handling message }
  | .handling _ => some { s with spawn := .unlocking }
  | .unlocking => some { s with globalLock := none, spawn := .returned }
  | .returned =>
      some { s with
        irqReadCnt := s.irqReadCnt + 1
        outstanding := s.outstanding - 1
        spawn := .serving }

def step [DecidableEq T] (irqFirst : Bool) (s : RxSys T) : RxAct T → Option (RxSys T)
  | .irq announced => if s.masked then none else some (slDrvRxIrqHandler announced s)
  | .cmd thread => cmdStep irqFirst s thread
  | .spawn => spawnStep s

end System

section Property

variable {T : Type*}

/-- The thread has not made its last test yet, to which the call of `sl_Spawn` inside
it belongs. -/
def CmdPos.yetToCheck : CmdPos → Bool
  | .idle | .locked | .signalling => false
  | _ => true

/-- A received message that nobody has counted yet is left to somebody who will look
for it, and nobody who is meant to look sleeps. -/
structure MessageDue (s : RxSys T) : Prop where
  reader : s.outstanding < 256 → s.rxIrqCnt ≠ s.rxDoneCnt →
    (∃ thread, (s.thread thread).yetToCheck = true) ∨ s.irqWriteCnt ≠ s.irqReadCnt ∨
      s.spawn = .entering
  cmd_awake : ∀ thread, s.thread thread = .waiting → s.rxIrqCnt ≠ s.rxDoneCnt →
    s.cmdSyncObj = true
  spawn_awake : s.spawn = .waiting → s.irqWriteCnt ≠ s.irqReadCnt →
    s.spawnSyncObj = true ∨ ∃ thread, s.thread thread = .signalling

end Property

section Invariant

variable {T : Type*} {s s' : RxSys T} {thread : T} {pos : CmdPos}

def CmdPos.holdsLock : CmdPos → Bool
  | .idle | .checking | .gotIrq _ | .gotDone _ | .requesting | .signalling => false
  | _ => true

def SpawnPos.holdsLock : SpawnPos → Bool
  | .handlingItem _ | .checking | .reading | .counting _ | .handling _ | .unlocking => true
  | _ => false

/-- The task handles a request. -/
def SpawnPos.serves : SpawnPos → Bool
  | .waiting | .loading | .processing _ | .handlingItem _ | .serving => false
  | _ => true

/-- The task has looked for a message and will not look for another one on this request. -/
def SpawnPos.pastCheck : SpawnPos → Bool
  | .counting _ | .handling _ | .unlocking | .returned => true
  | _ => false

/-- The thread will read the message that is left, or find it by its last test.  A
counter that the test has loaded is of use only as long as it is up to date. -/
def CmdPos.owes (rxIrqCnt : Byte) : CmdPos → Bool
  | .idle | .locked | .signalling => false
  | .gotIrq loaded => loaded == rxIrqCnt
  | .gotDone loaded => loaded != rxIrqCnt
  | _ => true

/-- The messages between the two counters: `extra` that were read and not counted, and
the one that keeps the interrupt masked. -/
def RxSys.Between (s : RxSys T) (extra : Byte) : Prop :=
  s.rxIrqCnt = s.rxDoneCnt + extra + if s.masked then 1 else 0

/-- What a command thread with the global lock knows. -/
def CmdHolds (s : RxSys T) : CmdPos → Prop
  | .locked | .clearing | .leaving | .unlocking => s.waitForCmdResp = false ∧ s.Between 0
  | .writing | .testing | .handling _ => s.waitForCmdResp = true ∧ s.Between 0
  | .looping => s.Between 0
  | .waiting => s.waitForCmdResp = true ∧ s.Between 0 ∧ (s.masked = true → s.cmdSyncObj = true)
  | .reading => s.waitForCmdResp = true ∧ s.Between 0 ∧ s.masked = true
  | .counting _ => s.waitForCmdResp = true ∧ s.Between 1
  | _ => False

/-- What the spawn task with the global lock knows. -/
def SpawnHolds (s : RxSys T) : SpawnPos → Prop
  | .handlingItem _ | .checking | .handling _ | .unlocking =>
      s.waitForCmdResp = false ∧ s.Between 0
  | .reading => s.waitForCmdResp = false ∧ s.Between 0 ∧ s.masked = true
  | .counting _ => s.waitForCmdResp = false ∧ s.Between 1
  | _ => False

/-- What the holder of the global lock knows, and what holds while nobody has it. -/
def HolderKnows (s : RxSys T) : Prop :=
  match s.globalLock with
  | none => s.waitForCmdResp = false ∧ s.Between 0
  | some (.cmd thread) => CmdHolds s (s.thread thread)
  | some .spawn => SpawnHolds s s.spawn

/-- Somebody is due to read the message that keeps the interrupt masked: a command
thread, or the spawn task by a request that is not used up. -/
def Due (s : RxSys T) : Prop :=
  (∃ thread, (s.thread thread).owes s.rxIrqCnt = true) ∨
    (if s.spawn.pastCheck then 2 else 1) ≤ s.outstanding

structure Handover (s : RxSys T) : Prop where
  cmd_lock : ∀ thread, (s.thread thread).holdsLock = true → s.globalLock = some (.cmd thread)
  spawn_lock : s.spawn.holdsLock = true → s.globalLock = some .spawn
  holder : HolderKnows s
  requests : s.irqWriteCnt = s.irqReadCnt + BitVec.ofNat 8 s.outstanding
  served : s.spawn.serves = true → 0 < s.outstanding
  due : s.masked = true → Due s
  awake : s.spawn = .waiting → s.irqWriteCnt ≠ s.irqReadCnt →
    s.spawnSyncObj = true ∨ ∃ thread, s.thread thread = .signalling

theorem initial_handover : Handover (initial T) := by
  constructor <;> simp [initial, CmdPos.holdsLock, SpawnPos.holdsLock, HolderKnows,
    RxSys.Between, SpawnPos.serves]

theorem SpawnPos.serves_of_pastCheck {pos : SpawnPos} (hpast : pos.pastCheck = true) :
    pos.serves = true := by
  cases pos <;> simp_all [SpawnPos.pastCheck, SpawnPos.serves]

/-- One more request is enough for one more message, wherever the spawn task is. -/
theorem Handover.due_request (hhandover : Handover s) :
    (if s.spawn.pastCheck then 2 else 1) ≤ s.outstanding + 1 := by
  split
  · rename_i hpast
    have hserved := hhandover.served (SpawnPos.serves_of_pastCheck hpast)
    omega
  · omega

theorem Handover.requests_succ (hhandover : Handover s) :
    s.request.irqWriteCnt = s.request.irqReadCnt + BitVec.ofNat 8 s.request.outstanding := by
  change s.irqWriteCnt + 1 = s.irqReadCnt + BitVec.ofNat 8 (s.outstanding + 1)
  rw [hhandover.requests, BitVec.ofNat_add, ← BitVec.add_assoc]
  rfl

theorem Handover.cmdHolds (hhandover : Handover s)
    (hpos : (s.thread thread).holdsLock = true) : CmdHolds s (s.thread thread) := by
  have hholder := hhandover.holder
  rwa [HolderKnows, hhandover.cmd_lock thread hpos] at hholder

theorem Handover.cmdHolds_at (hhandover : Handover s) (hthread : s.thread thread = pos)
    (hpos : pos.holdsLock = true) : CmdHolds s pos := by
  rw [← hthread] at hpos ⊢
  exact hhandover.cmdHolds hpos

theorem Handover.spawnHolds (hhandover : Handover s) (hpos : s.spawn.holdsLock = true) :
    SpawnHolds s s.spawn := by
  have hholder := hhandover.holder
  rwa [HolderKnows, hhandover.spawn_lock hpos] at hholder

theorem not_cmdHolds (hpos : pos.holdsLock = false) : ¬ CmdHolds s pos := by
  cases pos <;> simp_all [CmdPos.holdsLock, CmdHolds]

theorem not_spawnHolds {pos : SpawnPos} (hpos : pos.holdsLock = false) :
    ¬ SpawnHolds s pos := by
  cases pos <;> simp_all [SpawnPos.holdsLock, SpawnHolds]

/-- A command that waits for its response is in the loop and will look again. -/
theorem Handover.owes_of_wait (hhandover : Handover s) (hwait : s.waitForCmdResp = true) :
    ∃ thread, s.globalLock = some (.cmd thread) ∧
      ∀ rxIrqCnt, (s.thread thread).owes rxIrqCnt = true := by
  have hholder := hhandover.holder
  rw [HolderKnows] at hholder
  split at hholder
  · rw [hwait] at hholder
    cases hholder.1
  · rename_i thread hlock
    refine ⟨thread, hlock, fun rxIrqCnt => ?_⟩
    cases hthread : s.thread thread <;> simp_all [CmdHolds, CmdPos.owes]
  · cases hspawn : s.spawn <;> simp_all [SpawnHolds]

end Invariant

section Irq

variable {T : Type*} {s s' : RxSys T} (announced : Announced)

/-- What the handler leaves as it is, and what it always does. -/
theorem slDrvRxIrqHandler_frame (s : RxSys T) :
    (slDrvRxIrqHandler announced s).thread = s.thread ∧
      (slDrvRxIrqHandler announced s).spawn = s.spawn ∧
      (slDrvRxIrqHandler announced s).globalLock = s.globalLock ∧
      (slDrvRxIrqHandler announced s).waitForCmdResp = s.waitForCmdResp ∧
      (slDrvRxIrqHandler announced s).rxDoneCnt = s.rxDoneCnt ∧
      (slDrvRxIrqHandler announced s).rxIrqCnt = s.rxIrqCnt + 1 ∧
      (slDrvRxIrqHandler announced s).irqReadCnt = s.irqReadCnt ∧
      (slDrvRxIrqHandler announced s).masked = true := by
  rw [slDrvRxIrqHandler]
  cases s.waitForCmdResp <;> simp [RxSys.request]

theorem between_irq (hmasked : s.masked = false) {extra : Byte} (hbetween : s.Between extra) :
    (slDrvRxIrqHandler announced s).Between extra := by
  obtain ⟨-, -, -, -, hdone, hirq, -, hnow⟩ := slDrvRxIrqHandler_frame announced s
  rw [RxSys.Between, hmasked] at hbetween
  rw [RxSys.Between, hdone, hirq, hnow, if_pos rfl, hbetween]
  simp

theorem slDrvRxIrqHandler_of_wait (hwait : s.waitForCmdResp = true) :
    slDrvRxIrqHandler announced s =
      { s with
        masked := true
        announced := announced
        rxIrqCnt := s.rxIrqCnt + 1
        cmdSyncObj := true } := by
  simp [slDrvRxIrqHandler, hwait]

theorem slDrvRxIrqHandler_of_not_wait (hwait : s.waitForCmdResp = false) :
    slDrvRxIrqHandler announced s =
      { s with
        masked := true
        announced := announced
        rxIrqCnt := s.rxIrqCnt + 1
        irqWriteCnt := s.irqWriteCnt + 1
        outstanding := s.outstanding + 1
        spawnSyncObj := true } := by
  simp [slDrvRxIrqHandler, hwait, RxSys.request]

theorem cmdHolds_irq (hmasked : s.masked = false) {pos : CmdPos} (hholds : CmdHolds s pos) :
    CmdHolds (slDrvRxIrqHandler announced s) pos := by
  obtain ⟨-, -, -, hwaitSame, -, -, -, -⟩ := slDrvRxIrqHandler_frame announced s
  have hbetween : ∀ extra, s.Between extra →
      (slDrvRxIrqHandler announced s).Between extra := fun _ => between_irq announced hmasked
  cases pos with
  | waiting =>
      have hsignal : (slDrvRxIrqHandler announced s).cmdSyncObj = true := by
        rw [slDrvRxIrqHandler_of_wait announced hholds.1]
      exact ⟨hwaitSame.trans hholds.1, hbetween 0 hholds.2.1, fun _ => hsignal⟩
  | reading =>
      have hread : s.masked = true := hholds.2.2
      rw [hmasked] at hread
      cases hread
  | looping => exact hbetween 0 hholds
  | counting message => exact ⟨hwaitSame.trans hholds.1, hbetween 1 hholds.2⟩
  | locked => exact ⟨hwaitSame.trans hholds.1, hbetween 0 hholds.2⟩
  | writing => exact ⟨hwaitSame.trans hholds.1, hbetween 0 hholds.2⟩
  | testing => exact ⟨hwaitSame.trans hholds.1, hbetween 0 hholds.2⟩
  | handling message => exact ⟨hwaitSame.trans hholds.1, hbetween 0 hholds.2⟩
  | clearing => exact ⟨hwaitSame.trans hholds.1, hbetween 0 hholds.2⟩
  | leaving => exact ⟨hwaitSame.trans hholds.1, hbetween 0 hholds.2⟩
  | unlocking => exact ⟨hwaitSame.trans hholds.1, hbetween 0 hholds.2⟩
  | idle => exact hholds
  | checking => exact hholds
  | gotIrq loaded => exact hholds
  | gotDone loaded => exact hholds
  | requesting => exact hholds
  | signalling => exact hholds

theorem spawnHolds_irq (hmasked : s.masked = false) {pos : SpawnPos} (hholds : SpawnHolds s pos) :
    SpawnHolds (slDrvRxIrqHandler announced s) pos := by
  obtain ⟨-, -, -, hwaitSame, -, -, -, -⟩ := slDrvRxIrqHandler_frame announced s
  have hbetween : ∀ extra, s.Between extra →
      (slDrvRxIrqHandler announced s).Between extra := fun _ => between_irq announced hmasked
  cases pos with
  | reading =>
      have hread : s.masked = true := hholds.2.2
      rw [hmasked] at hread
      cases hread
  | counting message => exact ⟨hwaitSame.trans hholds.1, hbetween 1 hholds.2⟩
  | handlingItem more => exact ⟨hwaitSame.trans hholds.1, hbetween 0 hholds.2⟩
  | checking => exact ⟨hwaitSame.trans hholds.1, hbetween 0 hholds.2⟩
  | handling message => exact ⟨hwaitSame.trans hholds.1, hbetween 0 hholds.2⟩
  | unlocking => exact ⟨hwaitSame.trans hholds.1, hbetween 0 hholds.2⟩
  | waiting => exact hholds
  | loading => exact hholds
  | processing more => exact hholds
  | serving => exact hholds
  | entering => exact hholds
  | returned => exact hholds

theorem holderKnows_irq (hmasked : s.masked = false) (hholder : HolderKnows s) :
    HolderKnows (slDrvRxIrqHandler announced s) := by
  obtain ⟨hthread, hspawn, hlock, hwait, -, -, -, -⟩ := slDrvRxIrqHandler_frame announced s
  rw [HolderKnows] at hholder ⊢
  rw [hlock]
  split at hholder
  · exact ⟨hwait.trans hholder.1, between_irq announced hmasked hholder.2⟩
  · rw [hthread]
    exact cmdHolds_irq announced hmasked hholder
  · rw [hspawn]
    exact spawnHolds_irq announced hmasked hholder

/-- While a command waits for its response, it will read the message.  Otherwise the
handler makes a request for it. -/
theorem Handover.irq (hhandover : Handover s) (hmasked : s.masked = false) :
    Handover (slDrvRxIrqHandler announced s) := by
  obtain ⟨hthread, hspawn, hlock, -, -, -, hread, -⟩ := slDrvRxIrqHandler_frame announced s
  constructor
  case cmd_lock =>
    rw [hthread, hlock]
    exact hhandover.cmd_lock
  case spawn_lock =>
    rw [hspawn, hlock]
    exact hhandover.spawn_lock
  case holder => exact holderKnows_irq announced hmasked hhandover.holder
  case requests =>
    cases hwait : s.waitForCmdResp with
    | true =>
        rw [slDrvRxIrqHandler_of_wait announced hwait]
        exact hhandover.requests
    | false =>
        rw [slDrvRxIrqHandler_of_not_wait announced hwait]
        exact hhandover.requests_succ
  case served =>
    rw [hspawn]
    intro hserves
    have hserved := hhandover.served hserves
    cases hwait : s.waitForCmdResp with
    | true => rwa [slDrvRxIrqHandler_of_wait announced hwait]
    | false =>
        rw [slDrvRxIrqHandler_of_not_wait announced hwait]
        exact Nat.succ_pos _
  case due =>
    intro _
    cases hwait : s.waitForCmdResp with
    | true =>
        obtain ⟨thread, -, howes⟩ := hhandover.owes_of_wait hwait
        left
        rw [hthread]
        exact ⟨thread, howes _⟩
    | false =>
        right
        rw [hspawn, slDrvRxIrqHandler_of_not_wait announced hwait]
        exact hhandover.due_request
  case awake =>
    rw [hspawn, hthread, hread]
    intro hidle hrequest
    cases hwait : s.waitForCmdResp with
    | true =>
        rw [slDrvRxIrqHandler_of_wait announced hwait] at hrequest ⊢
        exact hhandover.awake hidle hrequest
    | false =>
        left
        rw [slDrvRxIrqHandler_of_not_wait announced hwait]

end Irq

end SimpleLinkHost.RxHandover
