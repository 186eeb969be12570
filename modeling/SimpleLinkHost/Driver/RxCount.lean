import SimpleLinkHost.Core.Transition
import SimpleLinkHost.Driver.Calls

/-!
# Counting the received messages

The interrupt counts the messages that are received, the commands and the spawn context those
that they have read, each in eight bits.  The contexts may be nested: a handler of an event
that is called under the global lock may call the driver, and the lock is recursive.  A STOP
during provisioning runs without the lock.
-/

namespace SimpleLinkHost.RxCount

open Calls

section System

/-- Where `_SlDrvCmdOp` is, and in it `_SlDrvMsgReadCmdCtx`. -/
inductive CmdPos
  /-- On its way to the global lock. -/
  | entering
  | writing
  | looping
  /-- At `_SL_PENDING_RX_MSG`. -/
  | testing
  /-- In `sl_SyncObjWait` on `CmdSyncObj`. -/
  | waiting
  | reading
  /-- `_SlDrvMsgRead` has unmasked the interrupt and `RxDoneCnt` is still to be
  incremented. -/
  | counting (msgClass : RxMsgClass)
  | handling (msgClass : RxMsgClass)
  | leaving
  /-- At the last test, without the lock. -/
  | checking
deriving DecidableEq

/-- Where `_SlDrvMsgReadSpawnCtx` is. -/
inductive SpawnPos
  | entering
  /-- At `_SL_PENDING_RX_MSG`. -/
  | testing
  /-- At the test whether the device has been started. -/
  | starting
  | reading
  | counting (msgClass : RxMsgClass)
  | handling (msgClass : RxMsgClass)
  /-- It has returned `SL_RET_CODE_INTERFACE_CLOSED`, with the lock. -/
  | closed
deriving DecidableEq

/-- A call that is under way: a command, `_SlDrvMsgReadSpawnCtx`, or any other function that
runs under the global lock. -/
inductive Frame
  | cmd (isLockRequired : Bool) (pos : CmdPos)
  | spawn (pos : SpawnPos)
  | other (locked : Bool)
deriving DecidableEq

inductive Call
  | cmd (isLockRequired : Bool)
  | spawn
  | other

def Call.frame : Call → Frame
  | .cmd isLockRequired => .cmd isLockRequired .entering
  | .spawn => .spawn .entering
  | .other => .other false

/-- What comes from outside: whether the lock is granted, the write succeeds, `CmdSyncObj` is
signalled in time or the device has been started, and the class of a message. -/
structure Outcome where
  ok : Bool
  msgClass : RxMsgClass

structure RxSys (T : Type*) where
  masked : Bool
  /-- The interrupts that have been received; no step reads it. -/
  received : ℕ
  /-- The increments of `RxDoneCnt`; no step reads it. -/
  done : ℕ
  rxIrqCnt : Byte
  rxDoneCnt : Byte
  waitForCmdResp : Bool
  globalLock : Option T
  lockCount : ℕ
  /-- The calls of each context, the innermost one first. -/
  stack : T → List Frame

/-- `setWait` is one of the functions that send without waiting. -/
inductive RxAct (T : Type*)
  | irq
  | call (context : T) (call : Call)
  | step (context : T) (outcome : Outcome)
  | setWait (waitForCmdResp : Bool)

def initial (T : Type*) : RxSys T where
  masked := false
  received := 0
  done := 0
  rxIrqCnt := 0
  rxDoneCnt := 0
  waitForCmdResp := false
  globalLock := none
  lockCount := 0
  stack _ := []

variable {T : Type*} [DecidableEq T]

namespace RxSys

/-- `_SL_PENDING_RX_MSG` -/
def pendingRxMsg (s : RxSys T) : Bool := s.rxIrqCnt != s.rxDoneCnt

def goto (s : RxSys T) (context : T) (frames : List Frame) : RxSys T :=
  { s with stack := Function.update s.stack context frames }

/-- `sl_LockObjLock` on the global lock, which does not come back while another context has
it. -/
def lock (s : RxSys T) (context : T) : Option (RxSys T) :=
  if s.globalLock = none ∨ s.globalLock = some context then
    some { s with globalLock := some context, lockCount := s.lockCount + 1 }
  else none

def lockIf (isLockRequired : Bool) (s : RxSys T) (context : T) : Option (RxSys T) :=
  if isLockRequired then s.lock context else some s

def unlock (s : RxSys T) : RxSys T :=
  { s with
    globalLock := if s.lockCount ≤ 1 then none else s.globalLock
    lockCount := s.lockCount - 1 }

def unlockIf (isLockRequired : Bool) (s : RxSys T) : RxSys T :=
  if isLockRequired then s.unlock else s

end RxSys

/-- The interrupt masks itself and counts; whom it signals then is free to go on anyway. -/
def slDrvRxIrqHandler (s : RxSys T) : RxSys T :=
  { s with masked := true, received := s.received + 1, rxIrqCnt := s.rxIrqCnt + 1 }

/-- `_SlDrvMsgRead` at its end, where it unmasks the interrupt. -/
def slDrvMsgRead (s : RxSys T) : RxSys T := { s with masked := false }

/-- `g_pCB->RxDoneCnt++` -/
def countDone (s : RxSys T) : RxSys T :=
  { s with rxDoneCnt := s.rxDoneCnt + 1, done := s.done + 1 }

/-- One statement of a command, in front of the calls that it was made from. -/
def cmdStep (s : RxSys T) (context : T) (outcome : Outcome) (below : List Frame)
    (isLockRequired : Bool) (pos : CmdPos) : Option (RxSys T) :=
  let goto (s : RxSys T) (pos : CmdPos) : RxSys T :=
    s.goto context (.cmd isLockRequired pos :: below)
  match pos with
  | .entering =>
      if outcome.ok then (s.lockIf isLockRequired context).map fun s => goto s .writing
      else some (s.goto context below)
  | .writing =>
      let s := { s with waitForCmdResp := true }
      if outcome.ok then some (goto s .looping)
      else some ((s.unlockIf isLockRequired).goto context below)
  | .looping => some (goto s (if s.waitForCmdResp then .testing else .leaving))
  | .testing => some (goto s (if s.pendingRxMsg then .reading else .waiting))
  | .waiting =>
      if outcome.ok then some (goto s .looping)
      else
        let s := { s with waitForCmdResp := false }
        some ((s.unlockIf isLockRequired).goto context below)
  | .reading => some (goto (slDrvMsgRead s) (.counting outcome.msgClass))
  | .counting msgClass => some (goto (countDone s) (.handling msgClass))
  | .handling .cmdResp => some (goto { s with waitForCmdResp := false } .looping)
  | .handling _ => some (goto s .looping)
  | .leaving => some (goto (s.unlockIf isLockRequired) .checking)
  | .checking => some (s.goto context below)

/-- One statement of `_SlDrvMsgReadSpawnCtx`. -/
def spawnStep (s : RxSys T) (context : T) (outcome : Outcome) (below : List Frame) :
    SpawnPos → Option (RxSys T)
  | .entering =>
      if outcome.ok then (s.lock context).map fun s => s.goto context (.spawn .testing :: below)
      else some (s.goto context below)
  | .testing =>
      if s.pendingRxMsg then some (s.goto context (.spawn .starting :: below))
      else some (s.unlock.goto context below)
  | .starting =>
      some (s.goto context (.spawn (if outcome.ok then .reading else .closed) :: below))
  | .reading =>
      some ((slDrvMsgRead s).goto context (.spawn (.counting outcome.msgClass) :: below))
  | .counting msgClass =>
      some ((countDone s).goto context (.spawn (.handling msgClass) :: below))
  | .handling _ => some (s.unlock.goto context below)
  | .closed => none

def frameStep (s : RxSys T) (context : T) (outcome : Outcome) (below : List Frame) :
    Frame → Option (RxSys T)
  | .cmd isLockRequired pos => cmdStep s context outcome below isLockRequired pos
  | .spawn pos => spawnStep s context outcome below pos
  | .other false =>
      if outcome.ok then (s.lock context).map fun s => s.goto context (.other true :: below)
      else some (s.goto context below)
  | .other true => some (s.unlock.goto context below)

/-- A handler of the application runs, or the call has returned with the lock. -/
def Frame.resting : Frame → Bool
  | .cmd _ (.handling _) | .spawn (.handling _) | .spawn .closed | .other true => true
  | _ => false

def step (s : RxSys T) : RxAct T → Option (RxSys T)
  | .irq => if s.masked then none else some (slDrvRxIrqHandler s)
  | .call context call =>
      if (s.stack context).head?.all Frame.resting then
        some (s.goto context (call.frame :: s.stack context))
      else none
  | .step context outcome =>
      match s.stack context with
      | [] => none
      | frame :: below => frameStep s context outcome below frame
  | .setWait waitForCmdResp => some { s with waitForCmdResp := waitForCmdResp }

end System

section Property

variable {T : Type*} [DecidableEq T]

/-- The way of a call from its test to its count. -/
inductive Phase
  | idle
  | reading
  | counting
deriving DecidableEq

def Frame.phase : Frame → Phase
  | .cmd _ .reading | .spawn .starting | .spawn .reading => .reading
  | .cmd _ (.counting _) | .spawn (.counting _) => .counting
  | _ => .idle

/-- The call is about to look for a message. -/
def Frame.tests : Frame → Bool
  | .cmd _ .testing | .spawn .testing => true
  | _ => false

def Frame.takesLock : Frame → Bool
  | .cmd isLockRequired _ => isLockRequired
  | _ => true

/-- The messages that have been received and not counted yet are two at most, and the test
tells whether there is one. -/
structure CountsExactly (s : RxSys T) : Prop where
  done_le : s.done ≤ s.received
  received_le : s.received ≤ s.done + 2
  pending : s.pendingRxMsg = true ↔ s.done < s.received

/-- No command without the lock looks for a message while another context reads one, and no
other context while such a command does. -/
def KeepsApart (s : RxSys T) : RxAct T → Prop
  | .step context _ =>
      ∀ frame ∈ (s.stack context).head?, frame.tests = true →
        ∀ other, other ≠ context → ∀ reader ∈ (s.stack other).head?, reader.phase ≠ .idle →
          frame.takesLock = true ∧ reader.takesLock = true
  | _ => True

end Property

section Moves

variable {T : Type*} [DecidableEq T] {s s' after : RxSys T} {context : T} {outcome : Outcome}
variable {frame : Frame} {below : List Frame}

/-- The call is between its lock and its unlock. -/
def Frame.inside : Frame → Bool
  | .cmd _ .entering | .cmd _ .checking | .spawn .entering | .other false => false
  | _ => true

def Frame.holdsLock (frame : Frame) : Bool := frame.inside && frame.takesLock

def lockState (s : RxSys T) : Option T × ℕ := (s.globalLock, s.lockCount)

def counters (s : RxSys T) : Bool × ℕ × ℕ × Byte × Byte :=
  (s.masked, s.received, s.done, s.rxIrqCnt, s.rxDoneCnt)

/-- What a statement does to the lock, by what its call holds in front and behind. -/
inductive LockMoves (context : T) (before after : Option T × ℕ) : Bool → Bool → Prop
  | same (held : Bool) (hlock : after = before) : LockMoves context before after held held
  | takes (hfree : before.1 = none ∨ before.1 = some context)
      (hlock : after = (some context, before.2 + 1)) :
      LockMoves context before after false true
  | releases (hlock : after = (if before.2 ≤ 1 then none else before.1, before.2 - 1)) :
      LockMoves context before after true false

/-- What a statement does to the counters, by the phase of its call behind. -/
inductive PhaseMoves (s after : RxSys T) (frame : Frame) : Phase → Prop
  | same (hcounters : counters after = counters s) : PhaseMoves s after frame frame.phase
  | finds (htests : frame.tests = true) (hpending : s.pendingRxMsg = true)
      (hcounters : counters after = counters s) : PhaseMoves s after frame .reading
  | givesUp (hphase : frame.phase = .reading) (hcounters : counters after = counters s) :
      PhaseMoves s after frame .idle
  | reads (hphase : frame.phase = .reading)
      (hcounters : counters after = counters (slDrvMsgRead s)) :
      PhaseMoves s after frame .counting
  | counts (hphase : frame.phase = .counting)
      (hcounters : counters after = counters (countDone s)) : PhaseMoves s after frame .idle

/-- One statement of a call: what becomes of the call, of the lock and of the counters. -/
structure FrameMoves (s after : RxSys T) (context : T) (frame : Frame) (below : List Frame)
    (next : Option Frame) : Prop where
  stack : after.stack = Function.update s.stack context (next.toList ++ below)
  takesLock : ∀ frame' ∈ next, frame'.takesLock = frame.takesLock
  lock : LockMoves context (lockState s) (lockState after) frame.holdsLock
    (next.any Frame.holdsLock)
  phase : PhaseMoves s after frame (next.elim .idle Frame.phase)

theorem lock_cases (hlock : s.lock context = some s') :
    (s.globalLock = none ∨ s.globalLock = some context) ∧
      s' = { s with globalLock := some context, lockCount := s.lockCount + 1 } := by
  rw [RxSys.lock, Option.ite_none_right_eq_some, Option.some.injEq] at hlock
  exact ⟨hlock.1, hlock.2.symm⟩

/-- A statement behind which the call goes on. -/
theorem goesOn {next : Frame}
    (hstack : after.stack = Function.update s.stack context (next :: below))
    (htakes : next.takesLock = frame.takesLock)
    (hlock : LockMoves context (lockState s) (lockState after) frame.holdsLock next.holdsLock)
    (hphase : PhaseMoves s after frame next.phase) :
    ∃ next, FrameMoves s after context frame below next := by
  refine ⟨some next, hstack, ?_, hlock, hphase⟩
  rintro _ ⟨⟩
  exact htakes

/-- A statement with which the call returns. -/
theorem returns (hstack : after.stack = Function.update s.stack context below)
    (hlock : LockMoves context (lockState s) (lockState after) frame.holdsLock false)
    (hphase : PhaseMoves s after frame .idle) :
    ∃ next, FrameMoves s after context frame below next := by
  refine ⟨none, hstack, ?_, hlock, hphase⟩
  rintro _ ⟨⟩

theorem cmdStep_cases {isLockRequired : Bool} {pos : CmdPos}
    (hstep : cmdStep s context outcome below isLockRequired pos = some after) :
    ∃ next, FrameMoves s after context (.cmd isLockRequired pos) below next := by
  cases pos with
  | entering =>
      rw [cmdStep] at hstep
      split at hstep
      · rw [Option.map_eq_some_iff] at hstep
        obtain ⟨locked, hlocked, rfl⟩ := hstep
        cases isLockRequired with
        | true =>
            obtain ⟨hfree, rfl⟩ := lock_cases hlocked
            exact goesOn rfl rfl (.takes hfree rfl) (.same rfl)
        | false =>
            rw [RxSys.lockIf, if_neg (by decide), Option.some.injEq] at hlocked
            subst hlocked
            exact goesOn rfl rfl (.same _ rfl) (.same rfl)
      · rw [Option.some.injEq] at hstep
        subst hstep
        exact returns rfl (.same _ rfl) (.same rfl)
  | writing | waiting =>
      rw [cmdStep] at hstep
      split at hstep
      · rw [Option.some.injEq] at hstep
        subst hstep
        exact goesOn rfl rfl (.same _ rfl) (.same rfl)
      · rw [Option.some.injEq] at hstep
        subst hstep
        cases isLockRequired with
        | true => exact returns rfl (.releases rfl) (.same rfl)
        | false => exact returns rfl (.same _ rfl) (.same rfl)
  | looping =>
      rw [cmdStep, Option.some.injEq] at hstep
      subst hstep
      cases s.waitForCmdResp with
      | true => exact goesOn rfl rfl (.same _ rfl) (.same rfl)
      | false => exact goesOn rfl rfl (.same _ rfl) (.same rfl)
  | testing =>
      rw [cmdStep, Option.some.injEq] at hstep
      subst hstep
      cases hpending : s.pendingRxMsg with
      | true => exact goesOn rfl rfl (.same _ rfl) (.finds rfl hpending rfl)
      | false => exact goesOn rfl rfl (.same _ rfl) (.same rfl)
  | reading =>
      rw [cmdStep, Option.some.injEq] at hstep
      subst hstep
      exact goesOn rfl rfl (.same _ rfl) (.reads rfl rfl)
  | counting msgClass =>
      rw [cmdStep, Option.some.injEq] at hstep
      subst hstep
      exact goesOn rfl rfl (.same _ rfl) (.counts rfl rfl)
  | handling msgClass =>
      cases msgClass with
      | _ =>
          obtain rfl := Option.some.inj hstep
          exact goesOn rfl rfl (.same _ rfl) (.same rfl)
  | leaving =>
      rw [cmdStep, Option.some.injEq] at hstep
      subst hstep
      cases isLockRequired with
      | true => exact goesOn rfl rfl (.releases rfl) (.same rfl)
      | false => exact goesOn rfl rfl (.same _ rfl) (.same rfl)
  | checking =>
      rw [cmdStep, Option.some.injEq] at hstep
      subst hstep
      exact returns rfl (.same _ rfl) (.same rfl)

theorem spawnStep_cases {pos : SpawnPos}
    (hstep : spawnStep s context outcome below pos = some after) :
    ∃ next, FrameMoves s after context (.spawn pos) below next := by
  cases pos with
  | entering =>
      rw [spawnStep] at hstep
      split at hstep
      · rw [Option.map_eq_some_iff] at hstep
        obtain ⟨locked, hlocked, rfl⟩ := hstep
        obtain ⟨hfree, rfl⟩ := lock_cases hlocked
        exact goesOn rfl rfl (.takes hfree rfl) (.same rfl)
      · rw [Option.some.injEq] at hstep
        subst hstep
        exact returns rfl (.same _ rfl) (.same rfl)
  | testing =>
      rw [spawnStep] at hstep
      split at hstep
      · rename_i hpending
        rw [Option.some.injEq] at hstep
        subst hstep
        exact goesOn rfl rfl (.same _ rfl) (.finds rfl hpending rfl)
      · rw [Option.some.injEq] at hstep
        subst hstep
        exact returns rfl (.releases rfl) (.same rfl)
  | starting =>
      rw [spawnStep, Option.some.injEq] at hstep
      subst hstep
      cases outcome.ok with
      | true => exact goesOn rfl rfl (.same _ rfl) (.same rfl)
      | false => exact goesOn rfl rfl (.same _ rfl) (.givesUp rfl rfl)
  | reading =>
      rw [spawnStep, Option.some.injEq] at hstep
      subst hstep
      exact goesOn rfl rfl (.same _ rfl) (.reads rfl rfl)
  | counting msgClass =>
      rw [spawnStep, Option.some.injEq] at hstep
      subst hstep
      exact goesOn rfl rfl (.same _ rfl) (.counts rfl rfl)
  | handling msgClass =>
      rw [spawnStep, Option.some.injEq] at hstep
      subst hstep
      exact returns rfl (.releases rfl) (.same rfl)
  | closed => cases hstep

theorem frameStep_cases (hstep : frameStep s context outcome below frame = some after) :
    ∃ next, FrameMoves s after context frame below next := by
  cases frame with
  | cmd isLockRequired pos => exact cmdStep_cases hstep
  | spawn pos => exact spawnStep_cases hstep
  | other locked =>
      cases locked with
      | true =>
          rw [frameStep, Option.some.injEq] at hstep
          subst hstep
          exact returns rfl (.releases rfl) (.same rfl)
      | false =>
          rw [frameStep] at hstep
          split at hstep
          · rw [Option.map_eq_some_iff] at hstep
            obtain ⟨locked, hlocked, rfl⟩ := hstep
            obtain ⟨hfree, rfl⟩ := lock_cases hlocked
            exact goesOn rfl rfl (.takes hfree rfl) (.same rfl)
          · rw [Option.some.injEq] at hstep
            subst hstep
            exact returns rfl (.same _ rfl) (.same rfl)

end Moves

section Lock

variable {T : Type*} [DecidableEq T] {s after : RxSys T} {context : T} {frame : Frame}
variable {below : List Frame}

/-- How often the calls of a context have taken the lock. -/
def held (frames : List Frame) : ℕ := frames.countP Frame.holdsLock

/-- How often a context has the lock. -/
def depth (lock : Option T × ℕ) (context : T) : ℕ := if lock.1 = some context then lock.2 else 0

/-- The lock is with the calls that have taken it, and only a call that rests has others
inside. -/
structure LockKept (s : RxSys T) : Prop where
  depth : ∀ context, held (s.stack context) = depth (lockState s) context
  free_iff : s.globalLock = none ↔ s.lockCount = 0
  resting : ∀ context, ∀ frame ∈ (s.stack context).tail, frame.resting = true

theorem held_cons (frame : Frame) (below : List Frame) :
    held (frame :: below) = held below + if frame.holdsLock then 1 else 0 := by
  rw [held, List.countP_cons]
  rfl

theorem depth_of_ne {lock : Option T × ℕ} (hother : lock.1 ≠ some context) :
    depth lock context = 0 :=
  if_neg hother

theorem depth_self (count : ℕ) : depth (some context, count) context = count := if_pos rfl

theorem LockKept.globalLock (hkept : LockKept s) (hstack : s.stack context = frame :: below)
    (hholds : frame.holdsLock = true) : s.globalLock = some context := by
  have hdepth := hkept.depth context
  rw [hstack, held_cons, if_pos hholds] at hdepth
  by_contra hother
  rw [depth_of_ne hother] at hdepth
  cases hdepth

/-- What a statement makes of the lock goes with what its call holds. -/
theorem LockMoves.depth {lock lock' : Option T × ℕ} {holds holds' : Bool} {count : ℕ}
    (hmoves : LockMoves context lock lock' holds holds') (hfree : lock.1 = none ↔ lock.2 = 0)
    (hdepth : (count + if holds then 1 else 0) = depth lock context) :
    (count + if holds' then 1 else 0) = RxCount.depth lock' context ∧
      (∀ other, other ≠ context → RxCount.depth lock' other = RxCount.depth lock other) ∧
        (lock'.1 = none ↔ lock'.2 = 0) := by
  obtain ⟨owner, taken⟩ := lock
  cases hmoves with
  | same _ hlock =>
      rw [hlock]
      exact ⟨hdepth, fun _ _ => rfl, hfree⟩
  | takes hopen hlock =>
      rw [hlock]
      cases hopen with
      | inl hnone =>
          have hnobody : owner = none := hnone
          have hzero : taken = 0 := hfree.mp hnone
          subst hnobody hzero
          refine ⟨?_, fun other hother => ?_, by simp⟩
          · simpa [RxCount.depth] using hdepth
          · simp [RxCount.depth, Ne.symm hother]
      | inr hown =>
          have hsame : owner = some context := hown
          subst hsame
          refine ⟨?_, fun other hother => ?_, by simp⟩
          · simpa [RxCount.depth] using hdepth
          · simp [RxCount.depth, Ne.symm hother]
  | releases hlock =>
      rw [hlock]
      have hown : owner = some context := by
        by_contra hother
        rw [depth_of_ne hother] at hdepth
        cases hdepth
      subst hown
      rw [depth_self] at hdepth
      by_cases hlast : taken ≤ 1
      · have hnone : count = 0 := by
          simp at hdepth
          omega
        simp only [if_pos hlast]
        refine ⟨?_, fun other hother => ?_, ?_⟩
        · simp [RxCount.depth, hnone]
        · simp [RxCount.depth, Ne.symm hother]
        · simp
          omega
      · simp only [if_neg hlast]
        simp at hdepth
        refine ⟨?_, fun other hother => ?_, ?_⟩
        · simp [RxCount.depth]
          omega
        · simp [RxCount.depth, Ne.symm hother]
        · simp
          omega

theorem LockKept.frameMoves {next : Option Frame} (hkept : LockKept s)
    (hstack : s.stack context = frame :: below)
    (hmoves : FrameMoves s after context frame below next) : LockKept after := by
  have hdepth := hkept.depth context
  rw [hstack, held_cons] at hdepth
  obtain ⟨hown, hothers, hfree⟩ := hmoves.lock.depth hkept.free_iff hdepth
  constructor
  · intro other
    rw [hmoves.stack]
    by_cases hother : other = context
    · subst hother
      rw [Function.update_self, ← hown]
      cases next with
      | none => rfl
      | some frame' => exact held_cons frame' below
    · rw [Function.update_of_ne hother, hothers other hother]
      exact hkept.depth other
  · exact hfree
  · intro other frame' hframe'
    rw [hmoves.stack] at hframe'
    by_cases hother : other = context
    · subst hother
      rw [Function.update_self] at hframe'
      apply hkept.resting other
      rw [hstack]
      cases next with
      | none => exact List.mem_of_mem_tail hframe'
      | some top => exact hframe'
    · rw [Function.update_of_ne hother] at hframe'
      exact hkept.resting other frame' hframe'

theorem stack_goto_self (s : RxSys T) (context : T) (frames : List Frame) :
    (s.goto context frames).stack context = frames :=
  Function.update_self ..

theorem stack_goto_of_ne {other : T} (hother : other ≠ context) (frames : List Frame) :
    (s.goto context frames).stack other = s.stack other :=
  Function.update_of_ne hother ..

theorem held_call (call : Call) (frames : List Frame) :
    held (call.frame :: frames) = held frames := by
  rw [held_cons]
  cases call <;> rfl

theorem LockKept.call (hkept : LockKept s) (call : Call)
    (hrests : (s.stack context).head?.all Frame.resting = true) :
    LockKept (s.goto context (call.frame :: s.stack context)) := by
  constructor
  · intro other
    by_cases hother : other = context
    · subst hother
      rw [stack_goto_self, held_call]
      exact hkept.depth other
    · rw [stack_goto_of_ne hother]
      exact hkept.depth other
  · exact hkept.free_iff
  · intro other frame' hframe'
    by_cases hother : other = context
    · subst hother
      rw [stack_goto_self, List.tail_cons] at hframe'
      cases hstack : s.stack other with
      | nil =>
          rw [hstack] at hframe'
          cases hframe'
      | cons frame below =>
          rw [hstack] at hframe' hrests
          cases hframe' with
          | head => exact hrests
          | tail _ hbelow =>
              apply hkept.resting other
              rw [hstack]
              exact hbelow
    · rw [stack_goto_of_ne hother] at hframe'
      exact hkept.resting other frame' hframe'

end Lock

section Between

variable {T : Type*} [DecidableEq T] {phase : T → Phase} {masked : Bool} {received done : ℕ}
variable {context : T}

/-- One context at a time is between its test and its count, and what has been received and
not been counted is its message and the one that keeps the interrupt masked. -/
structure Between (phase : T → Phase) (masked : Bool) (received done : ℕ) : Prop where
  apart : ∀ context other, phase context ≠ .idle → phase other ≠ .idle → context = other
  reading : ∀ context, phase context = .reading → masked = true
  counting : ∀ context, phase context = .counting → received = done + 1 + masked.toNat
  idle : (∀ context, phase context ≠ .counting) → received = done + masked.toNat

omit [DecidableEq T] in
theorem Between.bounds (hbetween : Between phase masked received done) :
    done ≤ received ∧ received ≤ done + 2 := by
  have hmasked := Bool.toNat_le masked
  by_cases hcounting : ∃ context, phase context = .counting
  · obtain ⟨context, hcontext⟩ := hcounting
    have hcount := hbetween.counting context hcontext
    omega
  · have hcount := hbetween.idle fun context hcontext => hcounting ⟨context, hcontext⟩
    omega

omit [DecidableEq T] in
/-- Only the context that reads is not idle. -/
theorem Between.others (hbetween : Between phase masked received done)
    (hcontext : phase context ≠ .idle) {other : T} (hother : other ≠ context) :
    phase other = .idle := by
  by_contra hbusy
  exact hother (hbetween.apart other context hbusy hcontext)

omit [DecidableEq T] in
theorem Between.irq (hbetween : Between phase false received done) :
    Between phase true (received + 1) done where
  apart := hbetween.apart
  reading _ _ := rfl
  counting context hcontext := congrArg (· + 1) (hbetween.counting context hcontext)
  idle hnone := congrArg (· + 1) (hbetween.idle hnone)

/-- A change of the one context that is not idle. -/
theorem Between.update {masked' : Bool} {received' done' : ℕ} (next : Phase)
    (hothers : ∀ other, other ≠ context → phase other = .idle)
    (hreading : next = .reading → masked' = true)
    (hcounting : next = .counting → received' = done' + 1 + masked'.toNat)
    (hidle : next ≠ .counting → received' = done' + masked'.toNat) :
    Between (Function.update phase context next) masked' received' done' := by
  have hother {other : T} (hother : other ≠ context) :
      Function.update phase context next other = .idle := by
    rw [Function.update_of_ne hother]
    exact hothers other hother
  have hself : ∀ other, Function.update phase context next other ≠ .idle → other = context := by
    intro other hbusy
    by_contra hne
    exact hbusy (hother hne)
  constructor
  · exact fun first second hfirst hsecond => (hself first hfirst).trans (hself second hsecond).symm
  · intro other hreads
    have hsame : other = context := hself other (by rw [hreads]; decide)
    rw [hsame, Function.update_self] at hreads
    exact hreading hreads
  · intro other hcounts
    have hsame : other = context := hself other (by rw [hcounts]; decide)
    rw [hsame, Function.update_self] at hcounts
    exact hcounting hcounts
  · intro hnone
    have hnot := hnone context
    rw [Function.update_self] at hnot
    exact hidle hnot

/-- A message that is found keeps the interrupt masked. -/
theorem Between.finds (hbetween : Between phase masked received done)
    (hidle : ∀ other, phase other = .idle) (hpending : done < received) (context : T) :
    Between (Function.update phase context .reading) masked received done := by
  have hcount := hbetween.idle fun other => by
    rw [hidle other]
    decide
  have hmasked : masked = true := by
    cases masked with
    | true => rfl
    | false =>
        rw [Bool.toNat_false] at hcount
        omega
  exact .update .reading (fun other _ => hidle other) (fun _ => hmasked) nofun fun _ => hcount

omit [DecidableEq T] in
/-- Nobody counts while a context reads. -/
theorem Between.of_reading (hbetween : Between phase masked received done)
    (hreading : phase context = .reading) : masked = true ∧ received = done + 1 := by
  have hmasked := hbetween.reading context hreading
  have hcount := hbetween.idle fun other hcounting => by
    have hsame := hbetween.apart other context (by rw [hcounting]; decide)
      (by rw [hreading]; decide)
    rw [hsame, hreading] at hcounting
    cases hcounting
  rw [hmasked] at hcount
  exact ⟨hmasked, hcount⟩

theorem Between.givesUp (hbetween : Between phase masked received done)
    (hreading : phase context = .reading) :
    Between (Function.update phase context .idle) masked received done := by
  obtain ⟨hmasked, hcount⟩ := hbetween.of_reading hreading
  have hbusy : phase context ≠ .idle := by
    rw [hreading]
    decide
  rw [hmasked]
  exact .update .idle (fun _ => hbetween.others hbusy) nofun nofun fun _ => hcount

theorem Between.reads (hbetween : Between phase masked received done)
    (hreading : phase context = .reading) :
    Between (Function.update phase context .counting) false received done := by
  obtain ⟨-, hcount⟩ := hbetween.of_reading hreading
  have hbusy : phase context ≠ .idle := by
    rw [hreading]
    decide
  exact .update .counting (fun _ => hbetween.others hbusy) nofun (fun _ => hcount)
    fun hnot => absurd rfl hnot

theorem Between.counts (hbetween : Between phase masked received done)
    (hcounting : phase context = .counting) :
    Between (Function.update phase context .idle) masked received (done + 1) := by
  have hbusy : phase context ≠ .idle := by
    rw [hcounting]
    decide
  exact .update .idle (fun _ => hbetween.others hbusy) nofun nofun
    fun _ => hbetween.counting context hcounting

end Between

section Runs

variable {T : Type*} [DecidableEq T] {s after : RxSys T} {context : T} {frame : Frame}
variable {below : List Frame}

def phaseOf (s : RxSys T) (context : T) : Phase :=
  (s.stack context).head?.elim .idle Frame.phase

structure Counted (s : RxSys T) : Prop where
  kept : LockKept s
  between : Between (phaseOf s) s.masked s.received s.done
  rxIrqCnt : s.rxIrqCnt = BitVec.ofNat 8 s.received
  rxDoneCnt : s.rxDoneCnt = BitVec.ofNat 8 s.done

theorem Counted.countsExactly (hcounted : Counted s) : CountsExactly s := by
  obtain ⟨hle, hbound⟩ := hcounted.between.bounds
  refine ⟨hle, hbound, ?_⟩
  rw [RxSys.pendingRxMsg, bne_iff_ne, hcounted.rxIrqCnt, hcounted.rxDoneCnt, ne_eq,
    ← BitVec.toNat_inj, BitVec.toNat_ofNat, BitVec.toNat_ofNat]
  omega

theorem phase_of_resting (hresting : frame.resting = true) : frame.phase = .idle := by
  cases frame with
  | cmd isLockRequired pos => cases pos <;> first | rfl | cases hresting
  | spawn pos => cases pos <;> first | rfl | cases hresting
  | other locked => rfl

theorem phase_of_tests (htests : frame.tests = true) : frame.phase = .idle := by
  cases frame with
  | cmd isLockRequired pos => cases pos <;> first | rfl | cases htests
  | spawn pos => cases pos <;> first | rfl | cases htests
  | other locked => rfl

theorem inside_of_tests (htests : frame.tests = true) : frame.inside = true := by
  cases frame with
  | cmd isLockRequired pos => cases pos <;> first | rfl | cases htests
  | spawn pos => cases pos <;> first | rfl | cases htests
  | other locked => cases htests

theorem inside_of_phase (hphase : frame.phase ≠ .idle) : frame.inside = true := by
  cases frame with
  | cmd isLockRequired pos => cases pos <;> first | rfl | exact absurd rfl hphase
  | spawn pos => cases pos <;> first | rfl | exact absurd rfl hphase
  | other locked => exact absurd rfl hphase

/-- The phase of a context is that of its innermost call, or it rests. -/
theorem FrameMoves.phaseOf {next : Option Frame} (hkept : LockKept s)
    (hstack : s.stack context = frame :: below)
    (hmoves : FrameMoves s after context frame below next) :
    phaseOf after =
      Function.update (RxCount.phaseOf s) context (next.elim .idle Frame.phase) := by
  funext other
  rw [RxCount.phaseOf, hmoves.stack]
  by_cases hother : other = context
  · subst hother
    rw [Function.update_self, Function.update_self]
    cases next with
    | some frame' => rfl
    | none =>
        cases below with
        | nil => rfl
        | cons frame' below =>
            apply phase_of_resting
            apply hkept.resting other
            rw [hstack]
            exact List.mem_cons_self
  · rw [Function.update_of_ne hother, Function.update_of_ne hother]
    rfl

/-- Who looks for a message finds no other context between test and count. -/
theorem Counted.alone {outcome : Outcome} (hcounted : Counted s)
    (hapart : KeepsApart s (.step context outcome)) (hstack : s.stack context = frame :: below)
    (htests : frame.tests = true) {other : T} (hother : other ≠ context) :
    phaseOf s other = .idle := by
  by_contra hbusy
  cases hstack' : s.stack other with
  | nil =>
      rw [phaseOf, hstack'] at hbusy
      exact hbusy rfl
  | cons reader below' =>
      rw [phaseOf, hstack'] at hbusy
      have hframe : frame ∈ (s.stack context).head? := by
        rw [hstack]
        exact rfl
      have hreader : reader ∈ (s.stack other).head? := by
        rw [hstack']
        exact rfl
      obtain ⟨htakes, htakes'⟩ := hapart frame hframe htests other hother reader hreader hbusy
      have hown := hcounted.kept.globalLock hstack (by
        rw [Frame.holdsLock, inside_of_tests htests, htakes]
        rfl)
      have hown' := hcounted.kept.globalLock hstack' (by
        rw [Frame.holdsLock, inside_of_phase hbusy, htakes']
        rfl)
      rw [hown, Option.some.injEq] at hown'
      exact hother hown'.symm

omit [DecidableEq T] in
/-- The counters as they are kept while the contexts are in some phases. -/
theorem counted_of_counters {phase : T → Phase} (hcounters : counters after = counters s)
    (hcounted : Between phase s.masked s.received s.done ∧
      s.rxIrqCnt = BitVec.ofNat 8 s.received ∧ s.rxDoneCnt = BitVec.ofNat 8 s.done) :
    Between phase after.masked after.received after.done ∧
      after.rxIrqCnt = BitVec.ofNat 8 after.received ∧
        after.rxDoneCnt = BitVec.ofNat 8 after.done := by
  simp only [counters, Prod.mk.injEq] at hcounters
  obtain ⟨hmasked, hreceived, hdone, hirqCnt, hdoneCnt⟩ := hcounters
  rw [hmasked, hreceived, hdone, hirqCnt, hdoneCnt]
  exact hcounted

/-- One statement of a call keeps the counters of the messages right. -/
theorem Counted.phaseMoves {outcome : Outcome} {phase : Phase} (hcounted : Counted s)
    (hapart : KeepsApart s (.step context outcome)) (hstack : s.stack context = frame :: below)
    (hmoves : PhaseMoves s after frame phase) :
    Between (Function.update (phaseOf s) context phase) after.masked after.received after.done ∧
      after.rxIrqCnt = BitVec.ofNat 8 after.received ∧
        after.rxDoneCnt = BitVec.ofNat 8 after.done := by
  have hbetween := hcounted.between
  have hphase : phaseOf s context = frame.phase := by
    rw [phaseOf, hstack]
    rfl
  cases hmoves with
  | same hcounters =>
      apply counted_of_counters hcounters
      rw [← hphase, Function.update_eq_self]
      exact ⟨hbetween, hcounted.rxIrqCnt, hcounted.rxDoneCnt⟩
  | finds htests hpending hcounters =>
      apply counted_of_counters hcounters
      have hidle : ∀ other, phaseOf s other = .idle := by
        intro other
        by_cases hother : other = context
        · rw [hother, hphase]
          exact phase_of_tests htests
        · exact hcounted.alone hapart hstack htests hother
      have hlt := hcounted.countsExactly.pending.mp hpending
      exact ⟨hbetween.finds hidle hlt context, hcounted.rxIrqCnt, hcounted.rxDoneCnt⟩
  | givesUp hreading hcounters =>
      apply counted_of_counters hcounters
      exact ⟨hbetween.givesUp (hphase.trans hreading), hcounted.rxIrqCnt, hcounted.rxDoneCnt⟩
  | reads hreading hcounters =>
      apply counted_of_counters hcounters
      exact ⟨hbetween.reads (hphase.trans hreading), hcounted.rxIrqCnt, hcounted.rxDoneCnt⟩
  | counts hcounting hcounters =>
      apply counted_of_counters hcounters
      refine ⟨hbetween.counts (hphase.trans hcounting), hcounted.rxIrqCnt, ?_⟩
      calc s.rxDoneCnt + 1 = BitVec.ofNat 8 s.done + 1 := by rw [hcounted.rxDoneCnt]
        _ = BitVec.ofNat 8 (s.done + 1) := (BitVec.ofNat_add ..).symm

theorem Counted.call (hcounted : Counted s) (call : Call)
    (hrests : (s.stack context).head?.all Frame.resting = true) :
    Counted (s.goto context (call.frame :: s.stack context)) := by
  have hphase : phaseOf (s.goto context (call.frame :: s.stack context)) = phaseOf s := by
    funext other
    by_cases hother : other = context
    · subst hother
      rw [phaseOf, stack_goto_self, phaseOf]
      cases hstack : s.stack other with
      | nil => cases call <;> rfl
      | cons frame below =>
          rw [hstack] at hrests
          exact (by cases call <;> rfl : call.frame.phase = .idle).trans
            (phase_of_resting hrests).symm
    · rw [phaseOf, stack_goto_of_ne hother, phaseOf]
  refine ⟨hcounted.kept.call call hrests, ?_, hcounted.rxIrqCnt, hcounted.rxDoneCnt⟩
  rw [hphase]
  exact hcounted.between

theorem counted_step {act : RxAct T} (hcounted : Counted s) (hapart : KeepsApart s act)
    (hstep : step s act = some after) : Counted after := by
  cases act with
  | irq =>
      rw [step] at hstep
      split at hstep
      · cases hstep
      · rename_i hunmasked
        rw [Option.some.injEq] at hstep
        subst hstep
        have hbetween := hcounted.between
        rw [Bool.not_eq_true] at hunmasked
        rw [hunmasked] at hbetween
        refine ⟨⟨hcounted.kept.depth, hcounted.kept.free_iff, hcounted.kept.resting⟩,
          hbetween.irq, ?_, hcounted.rxDoneCnt⟩
        calc s.rxIrqCnt + 1 = BitVec.ofNat 8 s.received + 1 := by rw [hcounted.rxIrqCnt]
          _ = BitVec.ofNat 8 (s.received + 1) := (BitVec.ofNat_add ..).symm
  | call context call =>
      rw [step, Option.ite_none_right_eq_some, Option.some.injEq] at hstep
      obtain ⟨hrests, rfl⟩ := hstep
      exact hcounted.call call hrests
  | step context outcome =>
      rw [step] at hstep
      split at hstep
      · cases hstep
      · rename_i frame below hstack
        obtain ⟨next, hmoves⟩ := frameStep_cases hstep
        obtain ⟨hbetween, hirqCnt, hdoneCnt⟩ :=
          hcounted.phaseMoves hapart hstack hmoves.phase
        rw [← hmoves.phaseOf hcounted.kept hstack] at hbetween
        exact ⟨hcounted.kept.frameMoves hstack hmoves, hbetween, hirqCnt, hdoneCnt⟩
  | setWait waitForCmdResp =>
      rw [step, Option.some.injEq] at hstep
      subst hstep
      exact ⟨⟨hcounted.kept.depth, hcounted.kept.free_iff, hcounted.kept.resting⟩,
        hcounted.between, hcounted.rxIrqCnt, hcounted.rxDoneCnt⟩

theorem counted_initial : Counted (initial T) where
  kept := ⟨fun _ => rfl, by simp [initial], fun _ _ hframe => absurd hframe List.not_mem_nil⟩
  between :=
    { apart := fun _ _ hbusy => absurd rfl hbusy
      reading := nofun
      counting := nofun
      idle := fun _ => rfl }
  rxIrqCnt := rfl
  rxDoneCnt := rfl

/-- The counters are at most two apart, and the test of eight bits is exact, in all runs in
which a command without the lock keeps apart from the other contexts. -/
theorem countsExactly_of_keepsApart {acts : List (RxAct T)}
    (hapart : Transition.StepsSatisfy step KeepsApart (initial T) acts) :
    Transition.StatesSatisfy step CountsExactly (initial T) acts := by
  have hcounted : Transition.StatesSatisfy step Counted (initial T) acts :=
    Transition.states_of_steps (fun _ _ _ => counted_step) counted_initial hapart
  exact fun before hprefix reached hreached =>
    (hcounted before hprefix reached hreached).countsExactly

/-- Every command that is called takes the lock. -/
def RxAct.takesLock : RxAct T → Bool
  | .call _ (.cmd isLockRequired) => isLockRequired
  | _ => true

def AllLocked (s : RxSys T) : Prop := ∀ context, ∀ frame ∈ s.stack context, frame.takesLock = true

theorem allLocked_update {frames : List Frame} (hall : AllLocked s)
    (hframes : ∀ frame ∈ frames, frame.takesLock = true)
    (hstack : after.stack = Function.update s.stack context frames) : AllLocked after := by
  intro other frame hframe
  rw [hstack] at hframe
  by_cases hother : other = context
  · subst hother
    rw [Function.update_self] at hframe
    exact hframes frame hframe
  · rw [Function.update_of_ne hother] at hframe
    exact hall other frame hframe

theorem allLocked_step {act : RxAct T} (hall : AllLocked s) (hlocked : act.takesLock = true)
    (hstep : step s act = some after) : AllLocked after := by
  cases act with
  | irq =>
      rw [step] at hstep
      split at hstep
      · cases hstep
      · rw [Option.some.injEq] at hstep
        subst hstep
        exact hall
  | call context call =>
      rw [step, Option.ite_none_right_eq_some, Option.some.injEq] at hstep
      obtain ⟨-, rfl⟩ := hstep
      refine allLocked_update hall ?_ rfl
      rintro frame (⟨⟩ | ⟨_, hframe⟩)
      · cases call with
        | cmd isLockRequired => exact hlocked
        | spawn | other => rfl
      · exact hall context frame hframe
  | step context outcome =>
      rw [step] at hstep
      split at hstep
      · cases hstep
      · rename_i frame below hstack
        obtain ⟨next, hmoves⟩ := frameStep_cases hstep
        have htakes : ∀ frame' ∈ frame :: below, frame'.takesLock = true := by
          rw [← hstack]
          exact hall context
        refine allLocked_update hall ?_ hmoves.stack
        intro frame' hframe'
        rcases List.mem_append.mp hframe' with hnext | hbelow
        · rw [hmoves.takesLock frame' (Option.mem_toList.mp hnext)]
          exact htakes frame List.mem_cons_self
        · exact htakes frame' (List.mem_cons_of_mem _ hbelow)
  | setWait waitForCmdResp =>
      rw [step, Option.some.injEq] at hstep
      subst hstep
      exact hall

/-- The lock keeps all commands that take it apart. -/
theorem keepsApart_of_locked {acts : List (RxAct T)}
    (hlocked : ∀ act ∈ acts, act.takesLock = true) :
    Transition.StepsSatisfy step KeepsApart (initial T) acts := by
  have hsteps : Transition.StepsSatisfy step (fun _ act => act.takesLock = true) (initial T)
      acts := fun before act hbefore _ _ _ _ =>
    hlocked act (hbefore.subset (List.mem_append_right before (List.mem_singleton_self _)))
  have hall : Transition.StatesSatisfy step AllLocked (initial T) acts :=
    Transition.states_of_steps (fun _ _ _ => allLocked_step)
      (fun _ _ hframe => absurd hframe List.not_mem_nil) hsteps
  intro before act hprefix reached _ hreached _
  have hreached' := hall before ((List.prefix_append before [act]).trans hprefix) reached hreached
  cases act with
  | step context outcome =>
      intro frame hframe _ other _ reader hreader _
      exact ⟨hreached' context frame (List.mem_of_mem_head? hframe),
        hreached' other reader (List.mem_of_mem_head? hreader)⟩
  | _ => trivial

/-- A statement for which nothing from outside goes wrong. -/
def goes {T : Type*} (context : T) : RxAct T := .step context ⟨true, .asyncEvt⟩

/-- The spawn context and a STOP without the lock both find the first message. -/
def readsTwice : List (RxAct Bool) :=
  [.irq, .call false .spawn, goes false, goes false, goes false,
    .call true (.cmd false), goes true, goes true, goes true, goes true,
    goes false, .irq, goes true, .irq]

theorem countsExactly_broken :
    ¬Transition.StatesSatisfy step CountsExactly (initial Bool) readsTwice := by
  apply Transition.not_statesSatisfy_of_any fun s => s.received = 3 && s.done = 0
  · intro s hfails hexact
    simp only [Bool.and_eq_true, decide_eq_true_eq] at hfails
    have hbound := hexact.received_le
    omega
  · decide

/-- A command that waits for its response, with one message behind it for the spawn context. -/
theorem countsExactly_of_keepsApart_response :
    Transition.StatesSatisfy step CountsExactly (initial Bool)
      ([.call true (.cmd true), goes true, goes true, goes true, goes true, .irq, goes true,
        goes true, goes true, .step true ⟨true, .cmdResp⟩, .irq, goes true, goes true, goes true,
        goes true, .call false .spawn] ++ List.replicate 6 (goes false)) :=
  countsExactly_of_keepsApart (keepsApart_of_locked (by decide))

end Runs

end SimpleLinkHost.RxCount
