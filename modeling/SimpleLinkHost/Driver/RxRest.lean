import Mathlib.Data.Prod.Lex
import SimpleLinkHost.Core.Progress
import SimpleLinkHost.Driver.RxHandoverRuns

/-!
# The driver comes to rest

The statements of the receive handover once more: an asynchronous event that a command has
stored is never left with nobody due to handle it, and wherever the interrupt, the commands
and the spawn task have got to, they can come to rest, with everything read and handled, if
the NWP answers the command under way.
-/

namespace SimpleLinkHost.RxHandover

open Calls Transition Progress

section Stored

variable {T : Type*} {s s' : RxSys T} {thread : T} {pos : CmdPos}

/-- The thread is ahead of its test for stored events. -/
def CmdPos.stores : CmdPos → Bool
  | .idle | .unlocking | .checking | .gotIrq _ | .gotDone _ | .requesting | .signalling => false
  | _ => true

/-- The task is on its way through the list of stored events. -/
def SpawnPos.processes : SpawnPos → Bool
  | .loading | .processing true | .handlingItem true => true
  | _ => false

/-- An event that is stored is left to somebody. -/
def StoredDue (s : RxSys T) : Prop :=
  0 < s.spawnMsgs → s.spawnSyncObj = true ∨ (∃ thread, (s.thread thread).stores = true) ∨
    s.spawn.processes = true

variable [DecidableEq T]

/-- A step of a command thread that stores nothing. -/
theorem StoredDue.goto (hdue : StoredDue s) (hthreads : s'.thread = s.thread)
    (hspawn : s'.spawn = s.spawn) (hmsgs : s'.spawnMsgs = s.spawnMsgs)
    (hsignal : s.spawnSyncObj = true → s'.spawnSyncObj = true)
    (hstores : (s.thread thread).stores = true → pos.stores = true) :
    StoredDue (s'.goto thread pos) := by
  intro hsome
  change 0 < s'.spawnMsgs at hsome
  rw [hmsgs] at hsome
  rcases hdue hsome with hsignalled | ⟨other, hother⟩ | hprocesses
  · exact .inl (hsignal hsignalled)
  · right
    left
    by_cases hne : other = thread
    · refine ⟨thread, ?_⟩
      rw [goto_self]
      exact hstores (hne ▸ hother)
    · refine ⟨other, ?_⟩
      rw [goto_of_ne hne, hthreads]
      exact hother
  · right
    right
    change s'.spawn.processes = true
    rwa [hspawn]

/-- A thread that still tests for stored events is enough. -/
theorem storedDue_of_stores (hpos : pos.stores = true) : StoredDue (s.goto thread pos) :=
  fun _ => .inr (.inl ⟨thread, by rw [goto_self, hpos]⟩)

theorem StoredDue.cmd (hdue : StoredDue s) {irqFirst : Bool}
    (hstep : cmdStep irqFirst s thread = some s') : StoredDue s' := by
  have hstays {before pos : CmdPos} (hbefore : s.thread thread = before)
      (hstores : before.stores = false) : (s.thread thread).stores = true → pos.stores = true := by
    rw [hbefore, hstores]
    exact fun hfalse => by cases hfalse
  cases hthread : s.thread thread with
  | idle =>
      simp only [cmdStep, hthread] at hstep
      split at hstep
      · cases hstep
        exact storedDue_of_stores rfl
      · cases hstep
  | locked | writing | reading | counting =>
      simp only [cmdStep, hthread] at hstep
      cases hstep
      exact storedDue_of_stores rfl
  | clearing =>
      simp only [cmdStep, hthread] at hstep
      cases hstep
      exact storedDue_of_stores rfl
  | looping | testing =>
      simp only [cmdStep, hthread] at hstep
      cases hstep
      apply storedDue_of_stores
      split <;> rfl
  | waiting =>
      simp only [cmdStep, hthread] at hstep
      split at hstep
      · cases hstep
        exact storedDue_of_stores rfl
      · cases hstep
  | handling message =>
      obtain ⟨msgClass, fits⟩ := message
      cases msgClass <;> simp only [cmdStep, hthread] at hstep <;> cases hstep <;>
        exact storedDue_of_stores rfl
  | leaving =>
      simp only [cmdStep, hthread] at hstep
      cases hstep
      intro hsome
      change 0 < s.spawnMsgs at hsome
      left
      simp [RxSys.goto, hsome]
  | unlocking | checking =>
      simp only [cmdStep, hthread] at hstep
      cases hstep
      exact hdue.goto rfl rfl rfl id (hstays hthread rfl)
  | gotIrq | gotDone =>
      simp only [cmdStep, hthread] at hstep
      cases hstep
      exact hdue.goto rfl rfl rfl id (hstays hthread rfl)
  | requesting =>
      simp only [cmdStep, hthread] at hstep
      cases hstep
      exact hdue.goto rfl rfl rfl id (hstays hthread rfl)
  | signalling =>
      simp only [cmdStep, hthread] at hstep
      cases hstep
      exact hdue.goto rfl rfl rfl (fun _ => rfl) (hstays hthread rfl)

omit [DecidableEq T] in
theorem StoredDue.irq (hdue : StoredDue s) (announced : Announced) :
    StoredDue (slDrvRxIrqHandler announced s) := by
  cases hwait : s.waitForCmdResp with
  | true =>
      rw [slDrvRxIrqHandler_of_wait announced hwait]
      exact hdue
  | false =>
      rw [slDrvRxIrqHandler_of_not_wait announced hwait]
      exact fun _ => .inl rfl

omit [DecidableEq T] in
/-- The task does not leave the list before it has seen it empty. -/
theorem StoredDue.spawn (hdue : StoredDue s) (hstep : spawnStep s = some s') : StoredDue s' := by
  have hother {after : RxSys T} {before : SpawnPos} (hspawn : s.spawn = before)
      (hidle : before.processes = false) (hmsgs : after.spawnMsgs = s.spawnMsgs)
      (hsignal : after.spawnSyncObj = s.spawnSyncObj) (hthreads : after.thread = s.thread) :
      StoredDue after := by
    intro hsome
    rw [hmsgs] at hsome
    rcases hdue hsome with hsignalled | hstores | hprocesses
    · exact .inl (hsignal.trans hsignalled)
    · exact .inr (.inl (hthreads ▸ hstores))
    · rw [hspawn, hidle] at hprocesses
      cases hprocesses
  cases hspawn : s.spawn with
  | waiting =>
      simp only [spawnStep, hspawn] at hstep
      split at hstep
      · cases hstep
        exact fun _ => .inr (.inr rfl)
      · cases hstep
  | loading =>
      simp only [spawnStep, hspawn] at hstep
      cases hstep
      intro hsome
      change 0 < s.spawnMsgs at hsome
      right
      right
      simp [hsome, SpawnPos.processes]
  | processing more =>
      cases more with
      | true =>
          simp only [spawnStep, hspawn] at hstep
          split at hstep
          · cases hstep
            intro hsome
            change 0 < s.spawnMsgs - 1 at hsome
            have hmore : 1 < s.spawnMsgs := by omega
            right
            right
            simp [hmore, SpawnPos.processes]
          · cases hstep
      | false =>
          simp only [spawnStep, hspawn] at hstep
          cases hstep
          exact hother hspawn rfl rfl rfl rfl
  | handlingItem more =>
      simp only [spawnStep, hspawn] at hstep
      cases hstep
      cases more with
      | true => exact fun _ => .inr (.inr rfl)
      | false => exact hother hspawn rfl rfl rfl rfl
  | entering =>
      simp only [spawnStep, hspawn] at hstep
      split at hstep
      · cases hstep
        exact hother hspawn rfl rfl rfl rfl
      · cases hstep
  | serving | checking | reading | counting | handling | unlocking | returned =>
      simp only [spawnStep, hspawn] at hstep
      cases hstep
      exact hother hspawn rfl rfl rfl rfl

theorem StoredDue.step (hdue : StoredDue s) {irqFirst : Bool} {act : RxAct T}
    (hstep : RxHandover.step irqFirst s act = some s') : StoredDue s' := by
  cases act with
  | irq announced =>
      rw [RxHandover.step, Option.ite_none_left_eq_some, Option.some.injEq] at hstep
      rw [← hstep.2]
      exact hdue.irq announced
  | cmd thread => exact hdue.cmd hstep
  | spawn => exact hdue.spawn hstep

/-- However the interrupt, the command threads and the spawn task are interleaved, an event that
is stored is left to a command that will signal the task, to its signal or to the task itself. -/
theorem storedDue_always (irqFirst : Bool) (acts : List (RxAct T)) :
    StatesSatisfy (step irqFirst) StoredDue (initial T) acts := by
  intro before _ reached hreached
  have hinitial : StoredDue (initial T) := fun hsome => absurd hsome (Nat.lt_irrefl 0)
  exact run_invariant (fun _ _ _ hs hnext => StoredDue.step hs hnext) hinitial hreached

end Stored

section Lock

variable {T : Type*} [DecidableEq T] {s s' : RxSys T} {thread : T} {irqFirst : Bool}

/-- Nothing comes from the NWP but the responses to commands. -/
def Answers : RxAct T → Prop
  | .irq announced => announced.msgClass = .cmdResp
  | _ => True

/-- How far the holder of the lock is from giving it up, if no message is left to read (10), the
response has come (0) or some other message (20). -/
def toUnlock (waits masked : Bool) (announced : Announced) : CmdPos → ℕ
  | .unlocking => 1
  | .leaving => 2
  | .clearing => 4
  | .handling ⟨.cmdResp, _⟩ => 5
  | .counting ⟨.cmdResp, _⟩ => 6
  | pos =>
      if pos = .looping ∧ waits = false then 3
      else
        (if masked then if announced.msgClass = .cmdResp then 0 else 20 else 10) +
          match pos with
          | .reading => 7
          | .testing => 8
          | .looping => 9
          | .waiting => if masked then 10 else 7
          | .handling _ => 10
          | .writing | .counting _ => 11
          | .locked => 12
          | _ => 0

/-- The distance of a thread that holds the lock. -/
def RxSys.toUnlock (s : RxSys T) (thread : T) : ℕ :=
  RxHandover.toUnlock s.waitForCmdResp s.masked s.announced (s.thread thread)

/-- An act that leaves the lock, or brings its holder closer to that. -/
def BringsOn (irqFirst : Bool) (s : RxSys T) (thread : T) : Prop :=
  ∃ act s', Answers act ∧ step irqFirst s act = some s' ∧ s'.outstanding = s.outstanding ∧
    (s'.globalLock = none ∨
      s'.globalLock = some (.cmd thread) ∧ s'.toUnlock thread < s.toUnlock thread)

theorem bringsOn_of_cmdStep {after : RxSys T} {pos : CmdPos}
    (hstep : cmdStep irqFirst s thread = some (after.goto thread pos))
    (hlock : after.globalLock = some (.cmd thread)) (hcount : after.outstanding = s.outstanding)
    (hcloser : toUnlock after.waitForCmdResp after.masked after.announced pos <
      s.toUnlock thread) : BringsOn irqFirst s thread := by
  refine ⟨.cmd thread, _, trivial, hstep, hcount, .inr ⟨hlock, ?_⟩⟩
  rw [RxSys.toUnlock, goto_self]
  exact hcloser

/-- A thread that waits for its response is answered, or has been. -/
theorem bringsOn_waiting (hlock : s.globalLock = some (.cmd thread))
    (hthread : s.thread thread = .waiting) (hholds : CmdHolds s .waiting) :
    BringsOn irqFirst s thread := by
  cases hmasked : s.masked with
  | true =>
      have hstep : cmdStep irqFirst s thread =
          some ({ s with cmdSyncObj := false }.goto thread .looping) := by
        simp only [cmdStep, hthread, hholds.2.2 hmasked, if_true]
      apply bringsOn_of_cmdStep hstep hlock rfl
      simp [RxSys.toUnlock, toUnlock, hthread, hmasked, hholds.1]
  | false =>
      have hirq : step irqFirst s (.irq ⟨.cmdResp, true⟩) =
          some { s with
            masked := true
            announced := ⟨.cmdResp, true⟩
            rxIrqCnt := s.rxIrqCnt + 1
            cmdSyncObj := true } := by
        rw [step, hmasked, if_neg Bool.false_ne_true, slDrvRxIrqHandler_of_wait _ hholds.1]
      refine ⟨.irq ⟨.cmdResp, true⟩, _, rfl, hirq, rfl, .inr ⟨hlock, ?_⟩⟩
      simp [RxSys.toUnlock, toUnlock, hthread, hmasked]

/-- The holder goes on, or the response comes. -/
theorem bringsOn_cmd (hhandover : Handover s) (hlock : s.globalLock = some (.cmd thread)) :
    BringsOn irqFirst s thread := by
  have hholds := hhandover.holder
  rw [HolderKnows, hlock] at hholds
  change CmdHolds s (s.thread thread) at hholds
  cases hthread : s.thread thread with
  | locked =>
      have hstep : cmdStep irqFirst s thread =
          some ({ s with waitForCmdResp := true }.goto thread .writing) := by
        simp only [cmdStep, hthread]
      apply bringsOn_of_cmdStep hstep hlock rfl
      simp [RxSys.toUnlock, toUnlock, hthread]
  | writing =>
      rw [hthread] at hholds
      have hstep : cmdStep irqFirst s thread = some (s.goto thread .looping) := by
        simp only [cmdStep, hthread]
      apply bringsOn_of_cmdStep hstep hlock rfl
      simp [RxSys.toUnlock, toUnlock, hthread, hholds.1]
  | looping =>
      have hstep : cmdStep irqFirst s thread =
          some (s.goto thread (if s.waitForCmdResp then .testing else .leaving)) := by
        simp only [cmdStep, hthread]
      apply bringsOn_of_cmdStep hstep hlock rfl
      cases hwait : s.waitForCmdResp <;> simp [RxSys.toUnlock, toUnlock, hthread, hwait]
  | testing =>
      rw [hthread] at hholds
      have hstep : cmdStep irqFirst s thread =
          some (s.goto thread (if s.pendingRxMsg then .reading else .waiting)) := by
        simp only [cmdStep, hthread]
      apply bringsOn_of_cmdStep hstep hlock rfl
      have hpending := pendingRxMsg_iff hholds.2
      cases hmasked : s.masked with
      | true => simp [RxSys.toUnlock, toUnlock, hthread, hmasked, hpending.mpr hmasked]
      | false =>
          have hnone : s.pendingRxMsg = false := by
            rw [← Bool.not_eq_true, hpending, hmasked]
            exact Bool.false_ne_true
          simp [RxSys.toUnlock, toUnlock, hthread, hmasked, hnone]
  | waiting =>
      rw [hthread] at hholds
      exact bringsOn_waiting hlock hthread hholds
  | reading =>
      rw [hthread] at hholds
      have hstep : cmdStep irqFirst s thread =
          some ({ s with masked := false }.goto thread (.counting s.announced)) := by
        simp only [cmdStep, hthread]
      apply bringsOn_of_cmdStep hstep hlock rfl
      rw [RxSys.toUnlock, hthread, hholds.2.2]
      cases hannounced : s.announced with
      | mk msgClass fits => cases msgClass <;> simp [toUnlock]
  | counting message =>
      have hstep : cmdStep irqFirst s thread =
          some ({ s with rxDoneCnt := s.rxDoneCnt + 1 }.goto thread (.handling message)) := by
        simp only [cmdStep, hthread]
      apply bringsOn_of_cmdStep hstep hlock rfl
      obtain ⟨msgClass, fits⟩ := message
      cases msgClass <;> simp [RxSys.toUnlock, toUnlock, hthread]
  | handling message =>
      rw [hthread] at hholds
      obtain ⟨msgClass, fits⟩ := message
      cases msgClass with
      | cmdResp =>
          have hstep : cmdStep irqFirst s thread =
              some ({ s with waitForCmdResp := false }.goto thread .clearing) := by
            simp only [cmdStep, hthread]
          apply bringsOn_of_cmdStep hstep hlock rfl
          simp [RxSys.toUnlock, toUnlock, hthread]
      | asyncEvt =>
          have hstep : cmdStep irqFirst s thread =
              some ({ s with spawnMsgs := if fits then s.spawnMsgs + 1 else s.spawnMsgs }.goto
                thread .looping) := by
            simp only [cmdStep, hthread]
          apply bringsOn_of_cmdStep hstep hlock rfl
          simp [RxSys.toUnlock, toUnlock, hthread, hholds.1]
      | recvResp | multiSelectResp | dummyMsg =>
          have hstep : cmdStep irqFirst s thread = some (s.goto thread .looping) := by
            simp only [cmdStep, hthread]
          apply bringsOn_of_cmdStep hstep hlock rfl
          simp [RxSys.toUnlock, toUnlock, hthread, hholds.1]
  | clearing =>
      rw [hthread] at hholds
      have hstep : cmdStep irqFirst s thread =
          some ({ s with cmdSyncObj := false }.goto thread .looping) := by
        simp only [cmdStep, hthread]
      apply bringsOn_of_cmdStep hstep hlock rfl
      simp [RxSys.toUnlock, toUnlock, hthread, hholds.1]
  | leaving =>
      have hstep : cmdStep irqFirst s thread =
          some ({ s with spawnSyncObj := s.spawnSyncObj || decide (0 < s.spawnMsgs) }.goto
            thread .unlocking) := by
        simp only [cmdStep, hthread]
      apply bringsOn_of_cmdStep hstep hlock rfl
      simp [RxSys.toUnlock, toUnlock, hthread]
  | unlocking =>
      have hstep : cmdStep irqFirst s thread =
          some ({ s with globalLock := none }.goto thread .checking) := by
        simp only [cmdStep, hthread]
      exact ⟨.cmd thread, _, trivial, hstep, rfl, .inl rfl⟩
  | idle | checking | gotIrq | gotDone | requesting | signalling =>
      rw [hthread] at hholds
      exact hholds.elim

/-- What every state of a run keeps, while the requests can be told apart. -/
structure Kept (s : RxSys T) : Prop where
  handover : Handover s
  stored : StoredDue s
  few : s.outstanding < 256

theorem Kept.moves (hkept : Kept s) {act : RxAct T}
    (hstep : step irqFirst s act = some s') (hfew : s'.outstanding < 256) : Kept s' :=
  ⟨hkept.handover.step hstep, hkept.stored.step hstep, hfew⟩

/-- No command thread has the lock. -/
def Free (s : RxSys T) : Prop := ∀ thread, s.globalLock ≠ some (.cmd thread)

/-- The command under way comes to its end. -/
theorem Kept.frees (hkept : Kept s) :
    CanReach (step irqFirst) Answers (fun s' => Kept s' ∧ Free s') s := by
  cases hlock : s.globalLock with
  | none => exact .of_goal ⟨hkept, by simp [Free, hlock]⟩
  | some party =>
      cases party with
      | spawn => exact .of_goal ⟨hkept, by simp [Free, hlock]⟩
      | cmd thread =>
          have hprogress (s : RxSys T) (hs : Kept s ∧ s.globalLock = some (.cmd thread)) :
              CanReach (step irqFirst) Answers (fun s' => (Kept s' ∧ Free s') ∨
                (Kept s' ∧ s'.globalLock = some (.cmd thread)) ∧
                  s'.toUnlock thread < s.toUnlock thread) s := by
            obtain ⟨hs, hlock⟩ := hs
            have hbrings : BringsOn irqFirst s thread := bringsOn_cmd hs.handover hlock
            obtain ⟨act, s', hact, hstep, hcount, hend⟩ := hbrings
            have hkept := hs.moves hstep (hcount ▸ hs.few)
            apply CanReach.of_step hact hstep
            apply CanReach.of_goal
            rcases hend with hfree | ⟨hheld, hcloser⟩
            · exact .inl ⟨hkept, by simp [Free, hfree]⟩
            · exact .inr ⟨⟨hkept, hheld⟩, hcloser⟩
          exact canReach_of_rank (fun s => s.toUnlock thread) hprogress ⟨hkept, hlock⟩

end Lock

section Task

variable {T : Type*} [DecidableEq T] {s s' : RxSys T} {thread : T} {irqFirst : Bool}

/-- There are enough requests for a message that is left. -/
def Requested (s : RxSys T) : Prop :=
  s.masked = true → (if s.spawn.pastCheck then 2 else 1) ≤ s.outstanding

/-- The task has been told of what there is to do. -/
structure Roused (s : RxSys T) : Prop where
  kept : Kept s
  free : Free s
  requested : Requested s
  awake : s.spawn = .waiting → s.spawnSyncObj = true ∨ s.outstanding = 0

/-- The steps of the task before it takes the next request, with the length of the list. -/
def SpawnPos.toServe (spawnMsgs : ℕ) : SpawnPos → ℕ
  | .waiting => 0
  | .returned => 2
  | .unlocking => 3
  | .handling _ => 4
  | .counting _ => 5
  | .reading => 6
  | .checking => 7
  | .entering => 8
  | .serving => 9
  | .processing false => 10
  | .handlingItem false => 11
  | .processing true => 12 + 3 * spawnMsgs
  | .handlingItem true => 13 + 3 * spawnMsgs
  | .loading => 14 + 3 * spawnMsgs

/-- How far the task is from its next sleep. -/
def toSleep (s : RxSys T) : ℕ ×ₗ ℕ :=
  toLex (if s.spawnSyncObj then 1 else 0, 10 * s.outstanding + s.spawn.toServe s.spawnMsgs)

omit [DecidableEq T] in
/-- A step of the task that takes no signal. -/
theorem toSleep_lt (hsignal : s'.spawnSyncObj = s.spawnSyncObj)
    (hcloser : 10 * s'.outstanding + s'.spawn.toServe s'.spawnMsgs <
      10 * s.outstanding + s.spawn.toServe s.spawnMsgs) : toSleep s' < toSleep s := by
  rw [toSleep, toSleep, Prod.Lex.toLex_lt_toLex, hsignal]
  exact .inr ⟨rfl, hcloser⟩

omit [DecidableEq T] in
/-- Where the lock is free, the task finds it so. -/
theorem Roused.lock_none (hroused : Roused s) (hspawn : s.spawn.holdsLock = false) :
    s.globalLock = none := by
  cases hlock : s.globalLock with
  | none => rfl
  | some party =>
      cases party with
      | cmd thread => exact absurd hlock (hroused.free thread)
      | spawn =>
          have hholds := hroused.kept.handover.holder
          rw [HolderKnows, hlock] at hholds
          exact absurd hholds (not_spawnHolds hspawn)

/-- A step of the task that brings it closer to its sleep. -/
theorem Roused.task (hroused : Roused s) (hstep : spawnStep s = some s')
    (hlock : s'.globalLock = none ∨ s'.globalLock = some .spawn)
    (hcount : s'.outstanding ≤ s.outstanding) (hrequested : Requested s')
    (hawake : s'.spawn = .waiting → s'.spawnSyncObj = true ∨ s'.outstanding = 0)
    (hcloser : toSleep s' < toSleep s) :
    ∃ s', spawnStep s = some s' ∧ Roused s' ∧ toSleep s' < toSleep s := by
  have hnext : step true s .spawn = some s' := hstep
  refine ⟨s', hstep, ⟨hroused.kept.moves hnext ?_, ?_, hrequested, hawake⟩, hcloser⟩
  · exact hcount.trans_lt hroused.kept.few
  · intro thread hheld
    rcases hlock with hnone | hspawn
    · rw [hnone] at hheld
      cases hheld
    · rw [hspawn] at hheld
      cases hheld

/-- The task that has been told goes on until it sleeps. -/
theorem Roused.goes_on (hroused : Roused s) (hbusy : s.spawn = .waiting → s.spawnSyncObj = true) :
    ∃ s', spawnStep s = some s' ∧ Roused s' ∧ toSleep s' < toSleep s := by
  have hhandover := hroused.kept.handover
  have hrequested := hroused.requested
  rw [Requested] at hrequested
  cases hspawn : s.spawn with
  | waiting =>
      have hstep : spawnStep s = some { s with spawnSyncObj := false, spawn := .loading } := by
        simp only [spawnStep, hspawn, hbusy hspawn, if_true]
      have hlock := hroused.lock_none (by rw [hspawn]; rfl)
      rw [hspawn] at hrequested
      refine hroused.task hstep (.inl hlock) le_rfl hrequested (fun hidle => by cases hidle) ?_
      rw [toSleep, toSleep, Prod.Lex.toLex_lt_toLex, hbusy hspawn]
      exact .inl Nat.zero_lt_one
  | loading =>
      have hstep : spawnStep s =
          some { s with spawn := .processing (decide (0 < s.spawnMsgs)) } := by
        simp only [spawnStep, hspawn]
      have hlock := hroused.lock_none (by rw [hspawn]; rfl)
      rw [hspawn] at hrequested
      refine hroused.task hstep (.inl hlock) le_rfl hrequested (fun hidle => by cases hidle) ?_
      apply toSleep_lt (by rfl)
      rw [hspawn]
      cases hmsgs : decide (0 < s.spawnMsgs) <;> simp [SpawnPos.toServe]
      omega
  | processing more =>
      have hlock := hroused.lock_none (by rw [hspawn]; rfl)
      rw [hspawn] at hrequested
      cases more with
      | true =>
          have hstep : spawnStep s = some { s with
              globalLock := some .spawn
              spawnMsgs := s.spawnMsgs - 1
              spawn := .handlingItem (decide (1 < s.spawnMsgs)) } := by
            simp only [spawnStep, hspawn, hlock, Option.isNone_none, if_true]
          refine hroused.task hstep (.inr rfl) le_rfl hrequested (fun hidle => by cases hidle) ?_
          apply toSleep_lt (by rfl)
          rw [hspawn]
          by_cases hmore : 1 < s.spawnMsgs
          · simp only [hmore, decide_true, SpawnPos.toServe]
            omega
          · simp only [hmore, decide_false, SpawnPos.toServe]
            omega
      | false =>
          have hstep : spawnStep s = some { s with spawn := .serving } := by
            simp only [spawnStep, hspawn]
          refine hroused.task hstep (.inl hlock) le_rfl hrequested (fun hidle => by cases hidle) ?_
          apply toSleep_lt (by rfl)
          simp [hspawn, SpawnPos.toServe]
  | handlingItem more =>
      have hstep : spawnStep s = some { s with globalLock := none, spawn := .processing more } := by
        simp only [spawnStep, hspawn]
      rw [hspawn] at hrequested
      refine hroused.task hstep (.inl rfl) le_rfl hrequested (fun hidle => by cases hidle) ?_
      apply toSleep_lt (by rfl)
      cases more <;> simp [hspawn, SpawnPos.toServe]
  | serving =>
      have hstep : spawnStep s = some { s with
          spawn := if s.irqWriteCnt = s.irqReadCnt then .waiting else .entering } := by
        simp only [spawnStep, hspawn]
      have hlock := hroused.lock_none (by rw [hspawn]; rfl)
      rw [hspawn] at hrequested
      by_cases hnone : s.irqWriteCnt = s.irqReadCnt
      · have hzero : s.outstanding = 0 := by
          by_contra hsome
          exact hhandover.request_of_outstanding hroused.kept.few (Nat.pos_of_ne_zero hsome) hnone
        rw [if_pos hnone] at hstep
        refine hroused.task hstep (.inl hlock) le_rfl hrequested (fun _ => .inr hzero) ?_
        apply toSleep_lt (by rfl)
        simp [hspawn, SpawnPos.toServe]
      · rw [if_neg hnone] at hstep
        refine hroused.task hstep (.inl hlock) le_rfl hrequested (fun hidle => by cases hidle) ?_
        apply toSleep_lt (by rfl)
        simp [hspawn, SpawnPos.toServe]
  | entering =>
      have hlock := hroused.lock_none (by rw [hspawn]; rfl)
      have hstep : spawnStep s =
          some { s with globalLock := some .spawn, spawn := .checking } := by
        simp only [spawnStep, hspawn, hlock, Option.isNone_none, if_true]
      rw [hspawn] at hrequested
      refine hroused.task hstep (.inr rfl) le_rfl hrequested (fun hidle => by cases hidle) ?_
      apply toSleep_lt (by rfl)
      simp [hspawn, SpawnPos.toServe]
  | checking =>
      have hlock : s.globalLock = some .spawn := hhandover.spawn_lock (by rw [hspawn]; rfl)
      have hholds : SpawnHolds s .checking := hhandover.spawnHolds_at hspawn rfl
      have hpending := pendingRxMsg_iff hholds.2
      have hstep : spawnStep s =
          some { s with spawn := if s.pendingRxMsg then .reading else .unlocking } := by
        simp only [spawnStep, hspawn]
      rw [hspawn] at hrequested
      cases hmasked : s.masked with
      | true =>
          rw [if_pos (hpending.mpr hmasked)] at hstep
          refine hroused.task hstep (.inr hlock) le_rfl hrequested (fun hidle => by cases hidle) ?_
          apply toSleep_lt (by rfl)
          simp [hspawn, SpawnPos.toServe]
      | false =>
          rw [if_neg (by rw [hpending, hmasked]; exact Bool.false_ne_true)] at hstep
          have hread (after : RxSys T) (hafter : after.masked = s.masked) : Requested after := by
            intro hnow
            rw [hafter, hmasked] at hnow
            cases hnow
          refine hroused.task hstep (.inr hlock) le_rfl (hread _ rfl)
            (fun hidle => by cases hidle) ?_
          apply toSleep_lt (by rfl)
          simp [hspawn, SpawnPos.toServe]
  | reading =>
      have hlock : s.globalLock = some .spawn := hhandover.spawn_lock (by rw [hspawn]; rfl)
      have hstep : spawnStep s =
          some { s with masked := false, spawn := .counting s.announced } := by
        simp only [spawnStep, hspawn]
      refine hroused.task hstep (.inr hlock) le_rfl (fun hmasked => by cases hmasked)
        (fun hidle => by cases hidle) ?_
      apply toSleep_lt (by rfl)
      simp [hspawn, SpawnPos.toServe]
  | counting message =>
      have hlock : s.globalLock = some .spawn := hhandover.spawn_lock (by rw [hspawn]; rfl)
      have hstep : spawnStep s =
          some { s with rxDoneCnt := s.rxDoneCnt + 1, spawn := .handling message } := by
        simp only [spawnStep, hspawn]
      rw [hspawn] at hrequested
      refine hroused.task hstep (.inr hlock) le_rfl hrequested (fun hidle => by cases hidle) ?_
      apply toSleep_lt (by rfl)
      simp [hspawn, SpawnPos.toServe]
  | handling message =>
      have hlock : s.globalLock = some .spawn := hhandover.spawn_lock (by rw [hspawn]; rfl)
      have hstep : spawnStep s = some { s with spawn := .unlocking } := by
        simp only [spawnStep, hspawn]
      rw [hspawn] at hrequested
      refine hroused.task hstep (.inr hlock) le_rfl hrequested (fun hidle => by cases hidle) ?_
      apply toSleep_lt (by rfl)
      simp [hspawn, SpawnPos.toServe]
  | unlocking =>
      have hstep : spawnStep s = some { s with globalLock := none, spawn := .returned } := by
        simp only [spawnStep, hspawn]
      rw [hspawn] at hrequested
      refine hroused.task hstep (.inl rfl) le_rfl hrequested (fun hidle => by cases hidle) ?_
      apply toSleep_lt (by rfl)
      simp [hspawn, SpawnPos.toServe]
  | returned =>
      have hstep : spawnStep s = some { s with
          irqReadCnt := s.irqReadCnt + 1
          outstanding := s.outstanding - 1
          spawn := .serving } := by
        simp only [spawnStep, hspawn]
      have hlock := hroused.lock_none (by rw [hspawn]; rfl)
      have hserved : 0 < s.outstanding := hhandover.served (by rw [hspawn]; rfl)
      rw [hspawn] at hrequested
      have hless : Requested { s with
          irqReadCnt := s.irqReadCnt + 1, outstanding := s.outstanding - 1, spawn := .serving } :=
        fun hmasked => Nat.le_sub_one_of_lt (hrequested hmasked)
      refine hroused.task hstep (.inl hlock) (Nat.sub_le _ _) hless
        (fun hidle => by cases hidle) ?_
      apply toSleep_lt (by rfl)
      simp only [hspawn, SpawnPos.toServe]
      omega

end Task

section Rest

variable {T : Type*} [DecidableEq T] {s s' : RxSys T} {thread : T} {irqFirst : Bool}

/-- Every message is read, every stored event is handled, and nobody has the lock. -/
structure AtRest (s : RxSys T) : Prop where
  globalLock : s.globalLock = none
  masked : s.masked = false
  read : s.rxIrqCnt = s.rxDoneCnt
  spawnMsgs : s.spawnMsgs = 0
  served : s.irqWriteCnt = s.irqReadCnt
  spawn : s.spawn = .waiting

theorem CmdPos.holdsLock_of_stores {pos : CmdPos} (hstores : pos.stores = true) :
    pos.holdsLock = true := by
  cases pos <;> simp_all [CmdPos.stores, CmdPos.holdsLock]

omit [DecidableEq T] in
/-- A task that sleeps has left nothing undone. -/
theorem Roused.atRest (hroused : Roused s) (hspawn : s.spawn = .waiting)
    (hsignal : s.spawnSyncObj = false) : AtRest s := by
  have hlock := hroused.lock_none (by rw [hspawn]; rfl)
  have hzero : s.outstanding = 0 := by
    rcases hroused.awake hspawn with hsignalled | hzero
    · rw [hsignal] at hsignalled
      cases hsignalled
    · exact hzero
  have hmasked : s.masked = false := by
    rw [← Bool.not_eq_true]
    intro hmasked
    have hrequested := hroused.requested hmasked
    rw [hspawn, hzero] at hrequested
    cases hrequested
  have hbetween : s.Between 0 := by
    have hholder := hroused.kept.handover.holder
    rw [HolderKnows, hlock] at hholder
    exact hholder.2
  refine ⟨hlock, hmasked, ?_, ?_, ?_, hspawn⟩
  · rw [RxSys.Between, hmasked] at hbetween
    simpa using hbetween
  · by_contra hsome
    rcases hroused.kept.stored (Nat.pos_of_ne_zero hsome) with
      hsignalled | ⟨thread, hstores⟩ | hprocesses
    · rw [hsignal] at hsignalled
      cases hsignalled
    · have hheld := hroused.kept.handover.cmd_lock thread (CmdPos.holdsLock_of_stores hstores)
      rw [hlock] at hheld
      cases hheld
    · rw [hspawn] at hprocesses
      cases hprocesses
  · have hrequests := hroused.kept.handover.requests
    rw [hzero] at hrequests
    simpa using hrequests

/-- The threads may always go on. -/
theorem canReach_cmd {goal : RxSys T → Prop} (hstep : cmdStep irqFirst s thread = some s')
    (hnext : CanReach (step irqFirst) Answers goal s') :
    CanReach (step irqFirst) Answers goal s := by
  have hanswers : Answers (.cmd thread : RxAct T) := trivial
  exact .of_step hanswers hstep hnext

theorem canReach_spawn {goal : RxSys T → Prop} (hstep : spawnStep s = some s')
    (hnext : CanReach (step irqFirst) Answers goal s') :
    CanReach (step irqFirst) Answers goal s := by
  have hanswers : Answers (.spawn : RxAct T) := trivial
  exact .of_step hanswers hstep hnext

theorem Roused.rests (hroused : Roused s) : CanReach (step irqFirst) Answers AtRest s := by
  have hprogress (s : RxSys T) (hs : Roused s) :
      CanReach (step irqFirst) Answers
        (fun s' => AtRest s' ∨ Roused s' ∧ toSleep s' < toSleep s) s := by
    by_cases hsleeps : s.spawn = .waiting ∧ s.spawnSyncObj = false
    · exact .of_goal (.inl (hs.atRest hsleeps.1 hsleeps.2))
    · have hbusy (hspawn : s.spawn = .waiting) : s.spawnSyncObj = true :=
        Bool.eq_true_of_not_eq_false fun hsignal => hsleeps ⟨hspawn, hsignal⟩
      obtain ⟨s', hstep, hs', hcloser⟩ := hs.goes_on hbusy
      exact canReach_spawn hstep (.of_goal (.inr ⟨hs', hcloser⟩))
  exact canReach_of_rank toSleep hprogress hroused

/-- A step of a command thread, behind the lock. -/
theorem Kept.cmd (hkept : Kept s) (hstep : cmdStep irqFirst s thread = some s')
    (hfew : s'.outstanding < 256) : Kept s' := by
  have hnext : step irqFirst s (.cmd thread) = some s' := hstep
  exact hkept.moves hnext hfew

/-- The thread in `sl_Spawn` wakes the task. -/
theorem rouses_signalling (hkept : Kept s) (hfree : Free s) (hrequested : Requested s)
    (hthread : s.thread thread = .signalling) :
    CanReach (step irqFirst) Answers Roused s := by
  have hstep : cmdStep irqFirst s thread =
      some ({ s with spawnSyncObj := true }.goto thread .idle) := by
    simp only [cmdStep, hthread]
  apply canReach_cmd hstep
  exact .of_goal ⟨hkept.cmd hstep hkept.few, hfree, hrequested, fun _ => .inl rfl⟩

/-- A thread whose last test has found a message asks the task to read it. -/
theorem rouses_requesting (hkept : Kept s) (hfree : Free s) (hfew : s.outstanding + 1 < 256)
    (hthread : s.thread thread = .requesting) :
    CanReach (step irqFirst) Answers Roused s := by
  have hstep : cmdStep irqFirst s thread = some (s.request.goto thread .signalling) := by
    simp only [cmdStep, hthread]
  have hrequested : Requested (s.request.goto thread .signalling) :=
    fun _ => hkept.handover.due_request
  apply canReach_cmd hstep
  exact rouses_signalling (hkept.cmd hstep hfew) hfree hrequested goto_self

/-- The last test finds the message, whichever counter it has loaded. -/
theorem rouses_loaded (hkept : Kept s) (hfree : Free s) (hfew : s.outstanding + 1 < 256)
    (hstep : cmdStep irqFirst s thread = some (s.goto thread .requesting)) :
    CanReach (step irqFirst) Answers Roused s := by
  apply canReach_cmd hstep
  exact rouses_requesting (hkept.cmd hstep hkept.few) hfree hfew goto_self

theorem rouses_owing (hkept : Kept s) (hfree : Free s) (hfew : s.outstanding + 1 < 256)
    (hmasked : s.masked = true) (howes : (s.thread thread).owes s.rxIrqCnt = true) :
    CanReach (step irqFirst) Answers Roused s := by
  have hpending := hkept.handover.ne_of_masked hmasked
  have houtside : (s.thread thread).holdsLock = false := by
    rw [← Bool.not_eq_true]
    exact fun hheld => hfree thread (hkept.handover.cmd_lock thread hheld)
  cases hthread : s.thread thread with
  | checking =>
      cases irqFirst with
      | true =>
          have hstep : cmdStep true s thread = some (s.goto thread (.gotIrq s.rxIrqCnt)) := by
            simp only [cmdStep, hthread, if_true]
          have hfinds : cmdStep true (s.goto thread (.gotIrq s.rxIrqCnt)) thread =
              some ((s.goto thread (.gotIrq s.rxIrqCnt)).goto thread .requesting) := by
            have hdiffer : (s.goto thread (.gotIrq s.rxIrqCnt)).rxDoneCnt = s.rxDoneCnt := rfl
            simp only [cmdStep, goto_self, hdiffer, if_neg hpending]
          apply canReach_cmd hstep
          exact rouses_loaded (hkept.cmd hstep hkept.few) hfree hfew hfinds
      | false =>
          have hstep : cmdStep false s thread = some (s.goto thread (.gotDone s.rxDoneCnt)) := by
            simp only [cmdStep, hthread, Bool.false_eq_true, if_false]
          have hfinds : cmdStep false (s.goto thread (.gotDone s.rxDoneCnt)) thread =
              some ((s.goto thread (.gotDone s.rxDoneCnt)).goto thread .requesting) := by
            have hdiffer : (s.goto thread (.gotDone s.rxDoneCnt)).rxIrqCnt = s.rxIrqCnt := rfl
            simp only [cmdStep, goto_self, hdiffer, if_neg hpending]
          apply canReach_cmd hstep
          exact rouses_loaded (hkept.cmd hstep hkept.few) hfree hfew hfinds
  | gotIrq loaded =>
      rw [hthread, CmdPos.owes, beq_iff_eq] at howes
      have hfinds : cmdStep irqFirst s thread = some (s.goto thread .requesting) := by
        simp only [cmdStep, hthread, howes, if_neg hpending]
      exact rouses_loaded hkept hfree hfew hfinds
  | gotDone loaded =>
      rw [hthread, CmdPos.owes, bne_iff_ne] at howes
      have hfinds : cmdStep irqFirst s thread = some (s.goto thread .requesting) := by
        simp only [cmdStep, hthread, if_neg howes.symm]
      exact rouses_loaded hkept hfree hfew hfinds
  | requesting => exact rouses_requesting hkept hfree hfew hthread
  | idle | signalling =>
      rw [hthread] at howes
      cases howes
  | _ =>
      rw [hthread] at houtside
      cases houtside

/-- While no command thread has the lock, the task can be told of what there is to do. -/
theorem Kept.rouses (hkept : Kept s) (hfree : Free s) :
    CanReach (step irqFirst) Answers Roused s := by
  by_cases hrequested : Requested s
  · by_cases hsleeps : s.spawn = .waiting ∧ s.spawnSyncObj = false ∧ s.outstanding ≠ 0
    · obtain ⟨hspawn, hsignal, hsome⟩ := hsleeps
      have hdiffer := hkept.handover.request_of_outstanding hkept.few (Nat.pos_of_ne_zero hsome)
      rcases hkept.handover.awake hspawn hdiffer with hsignalled | ⟨thread, hthread⟩
      · rw [hsignal] at hsignalled
        cases hsignalled
      · exact rouses_signalling hkept hfree hrequested hthread
    · refine .of_goal ⟨hkept, hfree, hrequested, fun hspawn => ?_⟩
      by_contra hidle
      rw [not_or, Bool.not_eq_true] at hidle
      exact hsleeps ⟨hspawn, hidle⟩
  · rw [Requested, Classical.not_imp, not_le] at hrequested
    obtain ⟨hmasked, hless⟩ := hrequested
    rcases hkept.handover.due hmasked with ⟨thread, howes⟩ | henough
    · apply rouses_owing hkept hfree _ hmasked howes
      split at hless <;> omega
    · exact absurd henough (Nat.not_le.mpr hless)

/-- Wherever the interrupt, the commands and the spawn task have got to, they can go on until
every message is read and every stored event handled, if the NWP answers the command under way
and nothing else comes. -/
theorem comes_to_rest {acts : List (RxAct T)}
    (hrun : run (step irqFirst) (initial T) acts = some s) (hfew : s.outstanding < 256) :
    ∃ more rest, (∀ act ∈ more, Answers act) ∧ run (step irqFirst) s more = some rest ∧
      AtRest rest := by
  have hinitial : StoredDue (initial T) := fun hsome => absurd hsome (Nat.lt_irrefl 0)
  have hhandover : Handover s :=
    run_invariant (fun _ _ _ hs hnext => Handover.step hs hnext) initial_handover hrun
  have hstored : StoredDue s :=
    run_invariant (fun _ _ _ hs hnext => StoredDue.step hs hnext) hinitial hrun
  have hkept : Kept s := ⟨hhandover, hstored, hfew⟩
  have hreach : CanReach (step irqFirst) Answers AtRest s := by
    apply hkept.frees.trans
    rintro freed ⟨hfreed, hfree⟩
    apply (hfreed.rouses hfree).trans
    exact fun roused hroused => hroused.rests
  exact hreach

/-- An event is stored and the next one has just come, while the response is outstanding. -/
def untilStored : List (RxAct Unit) :=
  List.replicate 5 (.cmd ()) ++ .irq ⟨.asyncEvt, true⟩ :: List.replicate 5 (.cmd ()) ++
    [.cmd (), .irq ⟨.asyncEvt, true⟩]

theorem comes_to_rest_untilStored :
    ∃ s more rest, run (step true) (initial Unit) untilStored = some s ∧ s.spawnMsgs = 1 ∧
      s.masked = true ∧ (∀ act ∈ more, Answers act) ∧ run (step true) s more = some rest ∧
        AtRest rest := by
  have hchecks : (run (step true) (initial Unit) untilStored).any fun s =>
      s.spawnMsgs = 1 ∧ s.masked = true ∧ s.outstanding < 256 := by
    decide
  rw [Option.any_eq_true] at hchecks
  obtain ⟨s, hrun, hs⟩ := hchecks
  obtain ⟨hstored, hmasked, hfew⟩ := of_decide_eq_true hs
  obtain ⟨more, rest, hmore, hreached, hrest⟩ := comes_to_rest hrun hfew
  exact ⟨s, more, rest, hrun, hstored, hmasked, hmore, hreached, hrest⟩

end Rest

end SimpleLinkHost.RxHandover
