import SimpleLinkHost.Core.Transition
import SimpleLinkHost.Driver.Calls

/-!
# The requests of the spawn task

`_SlInternalSpawn` counts a request and `_SlInternalSpawnWaitForEvent` calls
`_SlDrvMsgReadSpawnCtx` until it has caught up.  The handler of an event may call an API
that enters `_SlInternalSpawnWaitForEvent` once more, and a request that is being served
is counted as read only after its call has returned.
-/

namespace SimpleLinkHost.SpawnNesting

open Calls Transition

section System

inductive SpawnFlags
  | fromSlIrqHandler
  | fromCmdCtx
  | fromCmdProcess
deriving DecidableEq

/-- Where an instance of `_SlInternalSpawnWaitForEvent` is. -/
inductive InstancePos
  /-- In `sl_SyncObjWait`. -/
  | waiting
  /-- In `_SlSpawnMsgListProcess`. -/
  | processing
  /-- At the test of the loop. -/
  | serving
  /-- In `_SlDrvMsgReadSpawnCtx`. -/
  | reading
deriving DecidableEq

structure SpawnSys where
  irqWriteCnt : Byte
  irqReadCnt : Byte
  /-- `SyncObj` is signalled. -/
  syncObj : Bool
  /-- The instances, the innermost one first. -/
  instances : List InstancePos
  /-- The requests that were counted, and the calls and counted reads they led to; no step
  looks at them. -/
  requests : ℕ
  calls : ℕ
  reads : ℕ

/-- A call of `_SlInternalSpawn` in any context, a new instance in the spawn task, or the
next statement of the innermost instance. -/
inductive SpawnAct
  | spawn (flags : SpawnFlags)
  | enter
  | statement
deriving DecidableEq

/-- The start of `_SlInternalSpawnTaskEntry`. -/
def initial : SpawnSys where
  irqWriteCnt := 0
  irqReadCnt := 0
  syncObj := false
  instances := []
  requests := 0
  calls := 0
  reads := 0

/-- `_SlInternalSpawn` -/
def slInternalSpawn (flags : SpawnFlags) (s : SpawnSys) : SpawnSys :=
  match flags with
  | .fromSlIrqHandler | .fromCmdCtx =>
      { s with irqWriteCnt := s.irqWriteCnt + 1, syncObj := true, requests := s.requests + 1 }
  | .fromCmdProcess => { s with syncObj := true }

/-- An instance that runs event handlers, which may call the driver. -/
def InstancePos.runsHandlers : InstancePos → Bool
  | .processing | .reading => true
  | .waiting | .serving => false

def step (s : SpawnSys) : SpawnAct → Option SpawnSys
  | .spawn flags => some (slInternalSpawn flags s)
  | .enter =>
      if s.instances.head?.all InstancePos.runsHandlers then
        some { s with instances := .waiting :: s.instances }
      else none
  | .statement =>
      match s.instances with
      | [] => none
      | .waiting :: outer =>
          if s.syncObj then some { s with syncObj := false, instances := .processing :: outer }
          else none
      | .processing :: outer => some { s with instances := .serving :: outer }
      | .serving :: outer =>
          if s.irqWriteCnt ≠ s.irqReadCnt then
            some { s with instances := .reading :: outer, calls := s.calls + 1 }
          else some { s with instances := outer }
      | .reading :: outer =>
          some { s with
            irqReadCnt := s.irqReadCnt + 1
            reads := s.reads + 1
            instances := .serving :: outer }

end System

section Property

/-- Neither the calls nor the counted reads exceed the requests. -/
structure WithinRequests (s : SpawnSys) : Prop where
  calls_le : s.calls ≤ s.requests
  reads_le : s.reads ≤ s.requests

/-- Fewer than 256 requests are outstanding. -/
def FewOutstanding (s : SpawnSys) : Prop := s.requests < s.reads + 256

instance (s : SpawnSys) : Decidable (FewOutstanding s) := inferInstanceAs (Decidable (_ < _))

/-- The calls that have not returned. -/
def underWay (s : SpawnSys) : ℕ := s.instances.count .reading

/-- An instance that calls finds more requests outstanding than calls are under way below
the instances around it. -/
def CallCovered (s : SpawnSys) (act : SpawnAct) : Prop :=
  act = .statement → ∀ outer, s.instances = .serving :: outer →
    s.irqWriteCnt ≠ s.irqReadCnt → underWay s < (s.irqWriteCnt - s.irqReadCnt).toNat

/-- The eight-bit counters count the requests and the reads. -/
structure Counted (s : SpawnSys) : Prop where
  irqWriteCnt : s.irqWriteCnt = BitVec.ofNat 8 s.requests
  irqReadCnt : s.irqReadCnt = BitVec.ofNat 8 s.reads
  calls : s.calls = s.reads + underWay s

end Property

section Invariant

variable {s s' : SpawnSys} {act : SpawnAct}

theorem initial_counted : Counted initial := ⟨rfl, rfl, rfl⟩

/-- What a statement does: the counts stay, a call begins, or one has returned. -/
theorem step_statement (hstep : step s .statement = some s') :
    ((∀ outer, s.instances = .serving :: outer → s.irqWriteCnt = s.irqReadCnt) ∧
        ∃ syncObj instances, instances.count .reading = underWay s ∧
          s' = { s with syncObj := syncObj, instances := instances }) ∨
      (∃ outer, s.instances = .serving :: outer ∧ s.irqWriteCnt ≠ s.irqReadCnt ∧
        s' = { s with instances := .reading :: outer, calls := s.calls + 1 }) ∨
      ∃ outer, s.instances = .reading :: outer ∧
        s' = { s with
          irqReadCnt := s.irqReadCnt + 1
          reads := s.reads + 1
          instances := .serving :: outer } := by
  rw [step] at hstep
  split at hstep
  case h_1 => cases hstep
  case h_2 outer hinstances =>
    rw [Option.ite_none_right_eq_some, Option.some.injEq] at hstep
    refine Or.inl ⟨by simp [hinstances], false, .processing :: outer, ?_, hstep.2.symm⟩
    rw [underWay, hinstances, List.count_cons_of_ne (by simp), List.count_cons_of_ne (by simp)]
  case h_3 outer hinstances =>
    rw [Option.some.injEq] at hstep
    refine Or.inl ⟨by simp [hinstances], s.syncObj, .serving :: outer, ?_, hstep.symm⟩
    rw [underWay, hinstances, List.count_cons_of_ne (by simp), List.count_cons_of_ne (by simp)]
  case h_4 outer hinstances =>
    by_cases hdone : s.irqWriteCnt = s.irqReadCnt
    · rw [if_neg (not_not.mpr hdone), Option.some.injEq] at hstep
      refine Or.inl ⟨fun _ _ => hdone, s.syncObj, outer, ?_, hstep.symm⟩
      rw [underWay, hinstances, List.count_cons_of_ne (by simp)]
    · rw [if_pos hdone, Option.some.injEq] at hstep
      exact Or.inr (Or.inl ⟨outer, hinstances, hdone, hstep.symm⟩)
  case h_5 outer hinstances =>
    rw [Option.some.injEq] at hstep
    exact Or.inr (Or.inr ⟨outer, hinstances, hstep.symm⟩)

theorem counted_slInternalSpawn (hcounted : Counted s) (flags : SpawnFlags) :
    Counted (slInternalSpawn flags s) := by
  have hrequest : s.irqWriteCnt + 1 = BitVec.ofNat 8 (s.requests + 1) := by
    rw [hcounted.irqWriteCnt, BitVec.ofNat_add]
    rfl
  cases flags with
  | fromSlIrqHandler => exact ⟨hrequest, hcounted.irqReadCnt, hcounted.calls⟩
  | fromCmdCtx => exact ⟨hrequest, hcounted.irqReadCnt, hcounted.calls⟩
  | fromCmdProcess => exact ⟨hcounted.irqWriteCnt, hcounted.irqReadCnt, hcounted.calls⟩

theorem Counted.step (hcounted : Counted s) (hstep : step s act = some s') : Counted s' := by
  cases act with
  | spawn flags =>
      rw [SpawnNesting.step, Option.some.injEq] at hstep
      exact hstep ▸ counted_slInternalSpawn hcounted flags
  | enter =>
      rw [SpawnNesting.step, Option.ite_none_right_eq_some, Option.some.injEq] at hstep
      obtain ⟨-, rfl⟩ := hstep
      have hsame : (InstancePos.waiting :: s.instances).count .reading = underWay s :=
        List.count_cons_of_ne (by simp)
      exact ⟨hcounted.irqWriteCnt, hcounted.irqReadCnt, by rw [hcounted.calls, ← hsame]; rfl⟩
  | statement =>
      rcases step_statement hstep with ⟨-, syncObj, instances, hsame, rfl⟩ |
        ⟨outer, hinstances, -, rfl⟩ | ⟨outer, hinstances, rfl⟩
      · exact ⟨hcounted.irqWriteCnt, hcounted.irqReadCnt, by rw [hcounted.calls, ← hsame]; rfl⟩
      · refine ⟨hcounted.irqWriteCnt, hcounted.irqReadCnt, ?_⟩
        have hcalls := hcounted.calls
        rw [underWay, hinstances, List.count_cons_of_ne (by simp)] at hcalls
        rw [underWay, List.count_cons_self]
        exact congrArg (· + 1) hcalls
      · refine ⟨hcounted.irqWriteCnt, ?_, ?_⟩
        · rw [BitVec.ofNat_add, ← hcounted.irqReadCnt]
          rfl
        · have hcalls := hcounted.calls
          rw [underWay, hinstances, List.count_cons_self] at hcalls
          rw [underWay, List.count_cons_of_ne (by simp)]
          change s.calls = s.reads + 1 + outer.count .reading
          omega

/-- The difference of the counters is the number of outstanding requests. -/
theorem Counted.toNat_sub (hcounted : Counted s) (hreads : s.reads ≤ s.requests)
    (hfew : FewOutstanding s) :
    (s.irqWriteCnt - s.irqReadCnt).toNat = s.requests - s.reads := by
  rw [FewOutstanding] at hfew
  rw [hcounted.irqWriteCnt, hcounted.irqReadCnt, BitVec.toNat_sub, BitVec.toNat_ofNat,
    BitVec.toNat_ofNat]
  omega

/-- A step keeps within the requests exactly if a call that it begins is covered. -/
theorem withinRequests_next_iff (hcounted : Counted s) (hfew : FewOutstanding s)
    (hwithin : WithinRequests s) (hstep : step s act = some s') :
    WithinRequests s' ↔ CallCovered s act := by
  cases act with
  | spawn flags =>
      rw [step, Option.some.injEq] at hstep
      have hmore : WithinRequests s' := by
        rw [← hstep]
        have hcalls := hwithin.calls_le
        have hreads := hwithin.reads_le
        cases flags with
        | fromSlIrqHandler => exact ⟨Nat.le_succ_of_le hcalls, Nat.le_succ_of_le hreads⟩
        | fromCmdCtx => exact ⟨Nat.le_succ_of_le hcalls, Nat.le_succ_of_le hreads⟩
        | fromCmdProcess => exact ⟨hcalls, hreads⟩
      exact iff_of_true hmore fun hact => by cases hact
  | enter =>
      rw [step, Option.ite_none_right_eq_some, Option.some.injEq] at hstep
      obtain ⟨-, rfl⟩ := hstep
      exact iff_of_true ⟨hwithin.calls_le, hwithin.reads_le⟩ fun hact => by cases hact
  | statement =>
      have hcalls := hcounted.calls
      rcases step_statement hstep with ⟨hdone, syncObj, instances, -, rfl⟩ |
        ⟨outer, hinstances, hmore, rfl⟩ | ⟨outer, hinstances, rfl⟩
      · exact iff_of_true ⟨hwithin.calls_le, hwithin.reads_le⟩
          fun _ outer hinstances hne => absurd (hdone outer hinstances) hne
      · have hdiff := hcounted.toNat_sub hwithin.reads_le hfew
        have hreads := hwithin.reads_le
        constructor
        · intro hafter _ _ _ _
          have hle : s.calls + 1 ≤ s.requests := hafter.calls_le
          omega
        · intro hcovered
          have hlt := hcovered rfl outer hinstances hmore
          refine ⟨?_, hreads⟩
          change s.calls + 1 ≤ s.requests
          omega
      · have hone : 0 < underWay s := by
          rw [underWay, hinstances, List.count_cons_self]
          exact Nat.succ_pos _
        have hle := hwithin.calls_le
        refine iff_of_true ⟨hle, ?_⟩ fun _ other hother => by simp [hinstances] at hother
        change s.reads + 1 ≤ s.requests
        omega

/-- An instance around which no call is under way calls only for a request. -/
theorem callCovered_of_alone (halone : underWay s = 0) : CallCovered s act := by
  intro _ outer _ hmore
  rw [halone]
  apply Nat.pos_of_ne_zero
  intro hzero
  exact hmore (sub_eq_zero.mp (BitVec.eq_of_toNat_eq hzero))

end Invariant

section Runs

variable {s : SpawnSys}

/-- An instance that is left alone calls until its counter has caught up. -/
theorem run_serving {outer : List InstancePos} (hinstances : s.instances = .serving :: outer)
    {rounds : ℕ} (hrounds : rounds ≤ (s.irqWriteCnt - s.irqReadCnt).toNat) :
    run step s (List.replicate rounds [.statement, .statement]).flatten =
      some { s with
        irqReadCnt := s.irqReadCnt + BitVec.ofNat 8 rounds
        calls := s.calls + rounds
        reads := s.reads + rounds } := by
  induction rounds generalizing s with
  | zero => simp
  | succ rounds ih =>
      have hmore : s.irqWriteCnt ≠ s.irqReadCnt := by
        intro hsame
        rw [hsame, sub_self] at hrounds
        cases hrounds
      let served := { s with
        irqReadCnt := s.irqReadCnt + 1
        calls := s.calls + 1
        reads := s.reads + 1 }
      have hround : run step s [.statement, .statement] = some served := by
        rw [run_cons, step]
        simp [hinstances, hmore, run_cons, step, served]
      have hleft : rounds ≤ (served.irqWriteCnt - served.irqReadCnt).toNat := by
        have hdiff : s.irqWriteCnt - (s.irqReadCnt + 1) = s.irqWriteCnt - s.irqReadCnt - 1 :=
          sub_add_eq_sub_sub ..
        have hone : 1 ≤ s.irqWriteCnt - s.irqReadCnt :=
          BitVec.le_def.mpr (Nat.le_trans (Nat.succ_le_succ (Nat.zero_le rounds)) hrounds)
        change rounds ≤ (s.irqWriteCnt - (s.irqReadCnt + 1)).toNat
        rw [hdiff, BitVec.toNat_sub_of_le hone]
        exact Nat.le_sub_of_add_le hrounds
      have hcount : s.irqReadCnt + 1 + BitVec.ofNat 8 rounds =
          s.irqReadCnt + BitVec.ofNat 8 (rounds + 1) := by
        rw [BitVec.ofNat_add, add_comm (BitVec.ofNat 8 rounds), ← add_assoc]
        rfl
      rw [List.replicate_succ, List.flatten_cons, run_append, hround, Option.bind_some,
        ih (s := served) hinstances hleft]
      simp only [served, hcount, Nat.add_assoc, Nat.add_comm 1]

/-- With few requests outstanding, the calls and the counted reads stay within the requests
exactly if every call is covered. -/
theorem withinRequests_iff (acts : List SpawnAct)
    (hfew : StatesSatisfy step FewOutstanding initial acts) :
    StatesSatisfy step WithinRequests initial acts ↔
      StepsSatisfy step CallCovered initial acts := by
  have hstates : StatesSatisfy step (fun s => Counted s ∧ FewOutstanding s) initial acts := by
    intro before hbefore reached hreached
    have hcounted : Counted reached :=
      run_invariant (fun _ _ _ hcounted hstep => hcounted.step hstep) initial_counted hreached
    exact ⟨hcounted, hfew before hbefore reached hreached⟩
  exact states_iff_steps_of_states hstates
    (fun _ _ _ hknown hwithin hstep => withinRequests_next_iff hknown.1 hknown.2 hwithin hstep)
    ⟨le_rfl, le_rfl⟩

/-- One request, served by one instance. -/
def oneRequest : List SpawnAct :=
  [.enter, .spawn .fromSlIrqHandler, .statement, .statement, .statement, .statement, .statement]

theorem withinRequests_oneRequest : StatesSatisfy step WithinRequests initial oneRequest := by
  rw [withinRequests_iff oneRequest
    (statesSatisfy_of_check (fun s => decide (FewOutstanding s)) (fun _ => of_decide_eq_true)
      (by decide))]
  refine stepsSatisfy_of_check
    (fun s _ => s.instances.head? != some .serving || underWay s == 0)
    (fun s act halone hact outer hinstances hmore => ?_) (by decide)
  rw [hinstances] at halone
  exact callCovered_of_alone (by simpa using halone) hact outer hinstances hmore

/-- The handler of the first event calls an API, whose command stores an event and signals
the spawn task. -/
def callFromHandler : List SpawnAct :=
  [.enter, .spawn .fromSlIrqHandler, .statement, .statement, .statement, .enter,
    .spawn .fromCmdProcess, .statement, .statement, .statement]

/-- The nested instance calls for the request that is being served. -/
theorem callsTwice_callFromHandler :
    StatesSatisfy step FewOutstanding initial callFromHandler ∧
      ¬StatesSatisfy step WithinRequests initial callFromHandler := by
  constructor
  · exact statesSatisfy_of_check (fun s => decide (FewOutstanding s))
      (fun _ => of_decide_eq_true) (by decide)
  · exact not_statesSatisfy_of_any (fun s => decide (s.requests < s.calls))
      (fun s hmore hwithin => absurd hwithin.calls_le (not_le.mpr (of_decide_eq_true hmore)))
      (by decide)

end Runs

end SimpleLinkHost.SpawnNesting
