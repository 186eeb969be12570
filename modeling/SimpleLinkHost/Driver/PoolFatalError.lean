import SimpleLinkHost.Driver.PoolRuns

/-!
# The pool after a fatal error

`_SlDrvHandleFatalError` signals every sync object without unlinking a pending
object, and `_SlDrvWaitForPoolObj` ignores the status of its wait.  A woken
waiter therefore goes on as if a release had woken it, unless a device stop is
in progress.
-/

namespace SimpleLinkHost.PoolFatalError

open Pool PoolSlots PoolRelease PoolSystem PoolRuns IndexList KeyedExclusion Transition

variable {cfg : PoolConfig} {T : Type*} [DecidableEq T]
variable {isSpawn : T → Bool} {s s' : PoolSys cfg T}
variable {slots : ℕ → Slot (T × PoolCall cfg)} {cb : PoolCB}

/-- The index lists end without a cycle and no two of them share an object. -/
def ListsDisjoint (cfg : PoolConfig) (cb : PoolCB) : Prop :=
  ∃ free active pending,
    Linked cb.next cfg.maxConcurrentActions cb.freePoolIdx free ∧
    Linked cb.next cfg.maxConcurrentActions cb.activePoolIdx active ∧
    Linked cb.next cfg.maxConcurrentActions cb.pendingPoolIdx pending ∧
    free.Disjoint active ∧ free.Disjoint pending ∧ active.Disjoint pending

/-- The actions of threads that were inside the pool functions when the error
was raised. -/
def IsWakeUp : PoolAct cfg T → Prop
  | .enter _ _ => False
  | .resume _ => True
  | .release _ => True

/-- However the woken threads are ordered after the fatal error, each thread that
was blocked can resume and then has left with an error, and the lists stay
acyclic and disjoint. -/
def FatalWakeUpSafe (isSpawn : T → Bool) (s : PoolSys cfg T) : Prop :=
  ∀ acts s', (∀ act ∈ acts, IsWakeUp act) →
    run (step isSpawn) (slDrvHandleFatalError s) acts = some s' →
    ListsDisjoint cfg s'.cb ∧
    ∀ thread call index, s.thread thread = .blocked call index →
      (.resume thread ∈ acts → ∃ error, s'.thread thread = .failed error) ∧
      (.resume thread ∉ acts → (step isSpawn s' (.resume thread)).isSome)

/-- A state of the pool, with or without a device stop in progress.  During a
stop threads leave their objects behind on the lists. -/
structure PoolState (isSpawn : T → Bool) (s : PoolSys cfg T)
    (slots : ℕ → Slot (T × PoolCall cfg)) : Prop where
  represents : Represents s.cb slots
  blocked_lt : ∀ thread call index, s.thread thread = .blocked call index →
    index < cfg.maxConcurrentActions
  blocked_unique : ∀ left right first second index,
    s.thread left = .blocked first index → s.thread right = .blocked second index →
    left = right
  unlocked : s.protectionLocked = false
  consistent : s.stopInProgress = false → Consistent isSpawn s slots

omit [DecidableEq T] in
/-- The states of runs without a stop, at the moment a stop may begin. -/
theorem Consistent.poolState (hconsistent : Consistent isSpawn s slots) (stop : Bool)
    (hstop : stop = false → s.stopInProgress = false) :
    PoolState isSpawn { s with stopInProgress := stop } slots := by
  have hblocked : ∀ thread call index, s.thread thread = .blocked call index →
      slots index = .pending (thread, call) ∨ slots index = .woken (thread, call) :=
    fun thread call index => (hconsistent.agree thread index call).2.mp
  constructor
  case represents => exact hconsistent.represents
  case blocked_lt =>
    intro thread call index hthread
    apply hconsistent.represents.lt_of_not_free
    rcases hblocked thread call index hthread with hslot | hslot <;> simp [hslot]
  case blocked_unique =>
    intro left right first second index hleft hright
    rcases hblocked left first index hleft with hslot | hslot <;>
      rcases hblocked right second index hright with hother | hother <;>
      simp only [hslot, Slot.pending.injEq, Slot.woken.injEq, reduceCtorEq,
        Prod.mk.injEq] at hother
    · exact hother.1
    · exact hother.1
  case unlocked => exact hconsistent.unlocked
  case consistent =>
    intro hfalse
    have hsame : { s with stopInProgress := stop } = s := by
      rw [show stop = s.stopInProgress from hfalse.trans (hstop hfalse).symm]
    rw [hsame]
    exact hconsistent

omit [DecidableEq T] in
theorem listsDisjoint_of_represents (hrep : Represents cb slots) :
    ListsDisjoint cfg cb := by
  obtain ⟨free, hfree, hfreeMem⟩ := hrep.free
  obtain ⟨active, hactive, hactiveMem⟩ := hrep.active
  obtain ⟨pending, hpending, hpendingMem⟩ := hrep.pending
  refine ⟨free, active, pending, hfree, hactive, hpending, ?_, ?_, ?_⟩
  · intro index hleft hright
    obtain ⟨-, hslot⟩ := (hfreeMem index).mp hleft
    obtain ⟨held, hother⟩ := (hactiveMem index).mp hright
    simp [hslot] at hother
  · intro index hleft hright
    obtain ⟨-, hslot⟩ := (hfreeMem index).mp hleft
    obtain ⟨held, hother⟩ := (hpendingMem index).mp hright
    simp [hslot] at hother
  · intro index hleft hright
    obtain ⟨_, hslot⟩ := (hactiveMem index).mp hleft
    obtain ⟨held, hother⟩ := (hpendingMem index).mp hright
    simp [hslot] at hother

omit [DecidableEq T] in
theorem represents_signal (hrep : Represents cb slots) (index : ℕ) :
    Represents (cb.signal index) slots :=
  hrep.modify (fun _ => rfl) (fun _ => rfl) fun _ => rfl

theorem syncObj_signal (cb : PoolCB) (index place : ℕ) :
    ((cb.signal index).objPool place).syncObj =
      (decide (place = index) || (cb.objPool place).syncObj) := by
  by_cases hplace : place = index
  · subst place
    simp [PoolCB.signal]
  · simp [PoolCB.signal, PoolCB.objPool_modify_of_ne hplace, hplace]

omit [DecidableEq T] in
theorem represents_deleteSyncObj (hrep : Represents cb slots) (index : ℕ) :
    Represents (cb.deleteSyncObj index) slots := by
  have hmodify : Represents (cb.modify index fun obj =>
      { obj with syncObjDeletes := obj.syncObjDeletes + 1 }) slots :=
    hrep.modify (fun _ => rfl) (fun _ => rfl) fun _ => rfl
  exact ⟨hmodify.free, hmodify.active, hmodify.pending, hmodify.free_of_ge, hmodify.holds,
    hmodify.busy_of_bit, hmodify.bit_of_busy⟩

theorem syncObj_deleteSyncObj (cb : PoolCB) (index place : ℕ) :
    ((cb.deleteSyncObj index).objPool place).syncObj = (cb.objPool place).syncObj := by
  by_cases hplace : place = index
  · subst place
    simp [PoolCB.deleteSyncObj]
  · simp [PoolCB.deleteSyncObj, PoolCB.objPool_modify_of_ne hplace]

omit [DecidableEq T] in
/-- Signalling every object changes no list. -/
theorem represents_signalAll (hrep : Represents cb slots) (indices : List ℕ) :
    Represents (indices.foldl PoolCB.signal cb) slots := by
  induction indices generalizing cb with
  | nil => exact hrep
  | cons index rest ih => exact ih (represents_signal hrep index)

theorem syncObj_signalAll (cb : PoolCB) (indices : List ℕ) (place : ℕ) :
    ((indices.foldl PoolCB.signal cb).objPool place).syncObj =
      (decide (place ∈ indices) || (cb.objPool place).syncObj) := by
  induction indices generalizing cb with
  | nil => simp
  | cons index rest ih =>
      rw [List.foldl_cons, ih, syncObj_signal]
      by_cases hplace : place = index <;> simp [hplace]

/-- Without a stop, a woken waiter that is not a spawn context never leaves with
an error. -/
theorem waitForPoolObjLoop_ne_error (call : PoolCall cfg) (index : ℕ) (cb : PoolCB)
    (error : PoolError) :
    waitState call (waitForPoolObjLoop false call index cb).1 ≠ .failed error := by
  rw [waitForPoolObjLoop]
  split <;> simp [waitState]

omit [DecidableEq T] in
theorem represents_afterFatalError (hrep : Represents s.cb slots) :
    Represents (slDrvHandleFatalError s).cb slots := by
  rw [slDrvHandleFatalError]
  split
  · exact hrep
  · exact represents_signalAll hrep _

omit [DecidableEq T] in
theorem syncObj_afterFatalError (hrestart : s.restartRequired = false) {index : ℕ}
    (hlt : index < cfg.maxConcurrentActions) :
    ((slDrvHandleFatalError s).cb.objPool index).syncObj = true := by
  rw [slDrvHandleFatalError, hrestart]
  simp [syncObj_signalAll, hlt]

omit [DecidableEq T] in
theorem fatalError_keeps (s : PoolSys cfg T) :
    (slDrvHandleFatalError s).thread = s.thread ∧
    (slDrvHandleFatalError s).stopInProgress = s.stopInProgress ∧
    (slDrvHandleFatalError s).protectionLocked = s.protectionLocked := by
  rw [slDrvHandleFatalError]
  split <;> exact ⟨rfl, rfl, rfl⟩

/-- Without a stop, a waiter that resumes does not leave with an error. -/
theorem not_fatalWakeUpSafe (hstate : PoolState isSpawn s slots)
    (hrestart : s.restartRequired = false) (hstop : s.stopInProgress = false)
    {thread : T} {call : PoolCall cfg} {index : ℕ}
    (hblocked : s.thread thread = .blocked call index) :
    ¬ FatalWakeUpSafe isSpawn s := by
  intro hsafe
  obtain ⟨hthread, hsameStop, hsameLock⟩ := fatalError_keeps s
  have hsignal := syncObj_afterFatalError hrestart
    (hstate.blocked_lt thread call index hblocked)
  have hspawn := (hstate.consistent hstop).notSpawn thread call index hblocked
  have hstep : step isSpawn (slDrvHandleFatalError s) (.resume thread) =
      some (afterWait (slDrvHandleFatalError s) thread call
        (waitForPoolObjLoop false call index
          ((slDrvHandleFatalError s).cb.modify index fun obj =>
            { obj with syncObj := false }))) := by
    simp only [step, hthread, hblocked, hsameLock, hstate.unlocked, hsignal, Bool.not_true,
      Bool.or_self, Bool.false_eq_true, if_false, waitForPoolObjResume, hsameStop, hstop, hspawn]
  obtain ⟨-, hleft⟩ := hsafe [.resume thread] _ (by simp [IsWakeUp])
    ((run_singleton _).trans hstep)
  obtain ⟨error, herror⟩ := (hleft thread call index hblocked).1 (by simp)
  simp only [afterWait, Function.update_self] at herror
  exact waitForPoolObjLoop_ne_error _ _ _ _ herror

/-- What holds between the fatal error in state `s` and a later state during a
device stop, after the actions `acts`. -/
structure StoppedAfter (s : PoolSys cfg T) (slots : ℕ → Slot (T × PoolCall cfg))
    (acts : List (PoolAct cfg T)) (s' : PoolSys cfg T) : Prop where
  stop : s'.stopInProgress = true
  unlocked : s'.protectionLocked = false
  represents : Represents s'.cb slots
  blocked_before : ∀ thread call index, s'.thread thread = .blocked call index →
    s.thread thread = .blocked call index
  resumed : ∀ thread call index, s.thread thread = .blocked call index →
    .resume thread ∈ acts → s'.thread thread = .failed .stopInProgress
  waiting : ∀ thread call index, s.thread thread = .blocked call index →
    .resume thread ∉ acts → s'.thread thread = .blocked call index ∧
      (s'.cb.objPool index).syncObj = true

/-- During a stop a resumed waiter only deletes its sync object and leaves. -/
theorem StoppedAfter.resume (hstate : PoolState isSpawn s slots)
    {acts : List (PoolAct cfg T)} {middle : PoolSys cfg T}
    (hafter : StoppedAfter s slots acts middle) {thread : T}
    (hstep : step isSpawn middle (.resume thread) = some s') :
    StoppedAfter s slots (acts ++ [.resume thread]) s' := by
  obtain ⟨call, index, hblocked, -, -, rfl⟩ := step_resume hstep
  have horiginal := hafter.blocked_before thread call index hblocked
  have hcleared : Represents
      (middle.cb.modify index fun obj => { obj with syncObj := false }) slots :=
    hafter.represents.modify (fun _ => rfl) (fun _ => rfl) fun _ => rfl
  simp only [waitForPoolObjResume, hafter.stop, if_true]
  constructor
  case stop => exact hafter.stop
  case unlocked => exact hafter.unlocked
  case represents => exact represents_deleteSyncObj hcleared index
  case blocked_before =>
    intro other otherCall place hother
    by_cases heq : other = thread
    · subst other
      simp [afterWait, waitState] at hother
    · simp only [afterWait, Function.update_of_ne heq] at hother
      exact hafter.blocked_before other otherCall place hother
  case resumed =>
    intro other otherCall place hother hresumed
    by_cases heq : other = thread
    · subst other
      simp [afterWait, waitState]
    · simp only [List.mem_append, List.mem_singleton, PoolAct.resume.injEq, heq,
        or_false] at hresumed
      simp only [afterWait, Function.update_of_ne heq]
      exact hafter.resumed other otherCall place hother hresumed
  case waiting =>
    intro other otherCall place hother hnot
    simp only [List.mem_append, List.mem_singleton, PoolAct.resume.injEq, not_or] at hnot
    have hplace : place ≠ index := by
      intro hsame
      rw [hsame] at hother
      exact hnot.2 (hstate.blocked_unique _ _ _ _ _ hother horiginal)
    obtain ⟨hsameThread, hsignal⟩ := hafter.waiting other otherCall place hother hnot.1
    simp only [afterWait, Function.update_of_ne hnot.2]
    refine ⟨hsameThread, ?_⟩
    rw [syncObj_deleteSyncObj, PoolCB.objPool_modify_of_ne hplace, hsignal]

/-- During a stop a release only deletes the sync object. -/
theorem StoppedAfter.release {acts : List (PoolAct cfg T)} {middle : PoolSys cfg T}
    (hafter : StoppedAfter s slots acts middle) {thread : T}
    (hstep : step isSpawn middle (.release thread) = some s') :
    StoppedAfter s slots (acts ++ [.release thread]) s' := by
  obtain ⟨call, index, result, hactive, -, hrelease, rfl⟩ := step_release hstep
  rw [hafter.stop, slDrvReleasePoolObj, if_pos rfl, Option.some.injEq] at hrelease
  subst hrelease
  have hother : ∀ other otherCall place, s.thread other = .blocked otherCall place →
      other ≠ thread := by
    intro other otherCall place hblocked heq
    subst other
    by_cases hresumed : PoolAct.resume thread ∈ acts
    · have hfailed := hafter.resumed thread otherCall place hblocked hresumed
      simp [hactive] at hfailed
    · have hstill := (hafter.waiting thread otherCall place hblocked hresumed).1
      simp [hactive] at hstill
  constructor
  case stop => exact hafter.stop
  case unlocked => rfl
  case represents => exact represents_deleteSyncObj hafter.represents index
  case blocked_before =>
    intro other otherCall place hblocked
    by_cases heq : other = thread
    · subst other
      simp at hblocked
    · simp only [Function.update_of_ne heq] at hblocked
      exact hafter.blocked_before other otherCall place hblocked
  case resumed =>
    intro other otherCall place hblocked hresumed
    simp only [List.mem_append, List.mem_singleton, reduceCtorEq, or_false] at hresumed
    simp only [Function.update_of_ne (hother other otherCall place hblocked)]
    exact hafter.resumed other otherCall place hblocked hresumed
  case waiting =>
    intro other otherCall place hblocked hnot
    simp only [List.mem_append, List.mem_singleton, reduceCtorEq, or_false] at hnot
    simp only [Function.update_of_ne (hother other otherCall place hblocked)]
    rw [syncObj_deleteSyncObj]
    exact hafter.waiting other otherCall place hblocked hnot

theorem stoppedAfter_run (hstate : PoolState isSpawn s slots)
    (hrestart : s.restartRequired = false) (hstop : s.stopInProgress = true)
    (acts : List (PoolAct cfg T)) (hacts : ∀ act ∈ acts, IsWakeUp act) :
    ∀ s', run (step isSpawn) (slDrvHandleFatalError s) acts = some s' →
      StoppedAfter s slots acts s' := by
  induction acts using List.reverseRecOn with
  | nil =>
      intro s' hrun
      rw [run_nil, Option.some.injEq] at hrun
      subst hrun
      obtain ⟨hthread, hsameStop, hsameLock⟩ := fatalError_keeps s
      constructor
      case stop => exact hsameStop.trans hstop
      case unlocked => exact hsameLock.trans hstate.unlocked
      case represents => exact represents_afterFatalError hstate.represents
      case blocked_before => simp [hthread]
      case resumed => simp
      case waiting =>
        intro thread call index hblocked _
        exact ⟨by rw [hthread, hblocked],
          syncObj_afterFatalError hrestart (hstate.blocked_lt thread call index hblocked)⟩
  | append_singleton before act ih =>
      intro s' hrun
      rw [run_concat, Option.bind_eq_some_iff] at hrun
      obtain ⟨middle, hmiddle, hstep⟩ := hrun
      have hafter := ih (fun other hother => hacts other (List.mem_append_left _ hother))
        middle hmiddle
      have hact := hacts act (by simp)
      cases act with
      | enter thread call => exact absurd hact (by simp [IsWakeUp])
      | resume thread => exact hafter.resume hstate hstep
      | release thread => exact hafter.release hstep

/-- With nobody blocked there is nothing to wake up: only releases remain. -/
theorem settled_run (hconsistent : Consistent isSpawn s slots)
    (hstop : s.stopInProgress = false)
    (hnobody : ∀ thread call index, s.thread thread ≠ .blocked call index)
    (acts : List (PoolAct cfg T)) (hacts : ∀ act ∈ acts, IsWakeUp act) :
    ∀ s', run (step isSpawn) (slDrvHandleFatalError s) acts = some s' →
      s'.stopInProgress = false ∧ (∃ slots', Settled isSpawn s' slots') ∧
        ∀ thread call index, s'.thread thread ≠ .blocked call index := by
  induction acts using List.reverseRecOn with
  | nil =>
      intro s' hrun
      rw [run_nil, Option.some.injEq] at hrun
      subst hrun
      obtain ⟨hthread, hsameStop, hsameLock⟩ := fatalError_keeps s
      refine ⟨hsameStop.trans hstop, ⟨slots, ?_⟩, by rwa [hthread]⟩
      exact ⟨represents_afterFatalError hconsistent.represents, hconsistent.exclusive,
        hconsistent.waiters, by rw [hthread]; exact hconsistent.agree,
        by rw [hthread]; exact hconsistent.notSpawn, hsameLock.trans hconsistent.unlocked⟩
  | append_singleton before act ih =>
      intro s' hrun
      rw [run_concat, Option.bind_eq_some_iff] at hrun
      obtain ⟨middle, hmiddle, hstep⟩ := hrun
      obtain ⟨hmiddleStop, ⟨slots', hsettled⟩, hnone⟩ :=
        ih (fun other hother => hacts other (List.mem_append_left _ hother)) middle hmiddle
      have hact := hacts act (by simp)
      cases act with
      | enter thread call => exact absurd hact (by simp [IsWakeUp])
      | resume thread =>
          obtain ⟨call, index, hblocked, -⟩ := step_resume hstep
          exact absurd hblocked (hnone thread call index)
      | release thread =>
          obtain ⟨call, index, result, hactive, -⟩ := step_release hstep
          obtain ⟨items, hitems, -⟩ := hsettled.represents.pending
          obtain ⟨after, -, hdone, hafter, -⟩ :=
            hsettled.release hmiddleStop hactive hitems rfl
          rw [hstep, Option.some.injEq] at hdone
          subst hdone
          refine ⟨hmiddleStop, ⟨_, hafter⟩, fun other otherCall place hother => ?_⟩
          by_cases heq : other = thread
          · subst other
            simp at hother
          · simp only [Function.update_of_ne heq] at hother
            exact hnone other otherCall place hother

/-- After a fatal error the waiters leave with an error, and the lists survive,
exactly if a device stop is in progress or nobody is blocked. -/
theorem fatalWakeUpSafe_iff (hstate : PoolState isSpawn s slots)
    (hrestart : s.restartRequired = false) :
    FatalWakeUpSafe isSpawn s ↔
      s.stopInProgress = true ∨
        ∀ thread call index, s.thread thread ≠ .blocked call index := by
  constructor
  · intro hsafe
    by_contra hnot
    rw [not_or] at hnot
    obtain ⟨hstop, hsomebody⟩ := hnot
    rw [Bool.not_eq_true] at hstop
    push Not at hsomebody
    obtain ⟨thread, call, index, hblocked⟩ := hsomebody
    exact not_fatalWakeUpSafe hstate hrestart hstop hblocked hsafe
  · intro hcondition acts s' hacts hrun
    cases hstop : s.stopInProgress with
    | true =>
        have hafter := stoppedAfter_run hstate hrestart hstop acts hacts s' hrun
        refine ⟨listsDisjoint_of_represents hafter.represents, ?_⟩
        intro thread call index hblocked
        refine ⟨fun hresumed => ⟨_, hafter.resumed thread call index hblocked hresumed⟩, ?_⟩
        intro hnot
        obtain ⟨hthread, hsignal⟩ := hafter.waiting thread call index hblocked hnot
        simp [step, hthread, hsignal, hafter.unlocked]
    | false =>
        have hnobody : ∀ thread call index, s.thread thread ≠ .blocked call index :=
          hcondition.resolve_left (by simp [hstop])
        obtain ⟨-, ⟨slots', hsettled⟩, -⟩ :=
          settled_run (hstate.consistent hstop) hstop hnobody acts hacts s' hrun
        refine ⟨listsDisjoint_of_represents hsettled.represents, ?_⟩
        intro thread call index hblocked
        exact absurd hblocked (hnobody thread call index)

/-- A receive is active on socket 0 and a close of the socket waits for it. -/
def closeWaits : List (PoolAct smallConfig Bool) :=
  [.enter false receiveCall, .enter true closeCall]

/-- With a device stop in progress the waiting close leaves. -/
theorem fatalWakeUpSafe_closeWaits_stopped :
    ∃ s, run (step fun _ => false) (initial smallConfig Bool) closeWaits = some s ∧
      FatalWakeUpSafe (fun _ => false) { s with stopInProgress := true } := by
  have hrun : run (step fun _ => false) (initial smallConfig Bool) closeWaits = some _ := rfl
  obtain ⟨-, slots, hconsistent⟩ :=
    run_invariant (fun _ _ _ (hs : Running (fun _ => false) _) hnext => hs.step hnext)
      initial_running hrun
  exact ⟨_, hrun,
    (fatalWakeUpSafe_iff (Consistent.poolState hconsistent true (by simp)) rfl).mpr
      (Or.inl rfl)⟩

/-- Without one, the close finds its socket busy, is linked behind itself on the
pending list and blocks again. -/
theorem fatalWakeUp_closeWaits :
    ∃ s s', run (step fun _ => false) (initial smallConfig Bool) closeWaits = some s ∧
      run (step fun _ => false) (slDrvHandleFatalError s) [.resume true] = some s' ∧
      s'.thread true = .blocked (callOnSocketZero 19 (by decide) (by decide)) 1 ∧
      s'.cb.pendingPoolIdx = 1 ∧ s'.cb.next 1 = 1 ∧
      ¬ FatalWakeUpSafe (fun _ => false) s := by
  refine ⟨_, _, rfl, rfl, rfl, rfl, rfl, fun hsafe => ?_⟩
  obtain ⟨-, hleft⟩ := hsafe [.resume true] _ (by simp [IsWakeUp]) rfl
  obtain ⟨error, herror⟩ := (hleft true _ 1 rfl).1 (by simp)
  contradiction

end SimpleLinkHost.PoolFatalError
