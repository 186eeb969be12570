import SimpleLinkHost.Driver.PoolSystem

/-!
# Runs of the pool

What holds in every state of every run of the pool: the index lists partition
the pool, calls with equal bits exclude each other, and, under an exact
condition on the releases, no pending call is left without a call that will
wake it.
-/

namespace SimpleLinkHost.PoolRuns

open Pool PoolSlots PoolRelease PoolSystem IndexList KeyedExclusion Transition

variable {cfg : PoolConfig} {T : Type*} [DecidableEq T]
variable {isSpawn : T → Bool} {s : PoolSys cfg T}

/-- The object of a waiter that was signalled and has not resumed yet. -/
def WokenObj (s : PoolSys cfg T) (index : ℕ) : Prop :=
  ∃ thread call, s.thread thread = .blocked call index ∧ (s.cb.objPool index).syncObj = true

/-- The three lists end, and together with the woken objects they contain every
object once; a release neither keeps the protection lock nor walks for ever. -/
structure ListsPartition (s : PoolSys cfg T) : Prop where
  partition : ∃ free active pending woken : List ℕ,
    Linked s.cb.next cfg.maxConcurrentActions s.cb.freePoolIdx free ∧
    Linked s.cb.next cfg.maxConcurrentActions s.cb.activePoolIdx active ∧
    Linked s.cb.next cfg.maxConcurrentActions s.cb.pendingPoolIdx pending ∧
    (∀ index, index ∈ woken ↔ WokenObj s index) ∧
    (free ++ active ++ pending ++ woken).Perm (List.range cfg.maxConcurrentActions)
  release_done : ∀ thread call index, s.thread thread = .active call index →
    ∃ after, slDrvReleasePoolObj cfg s.stopInProgress index s.cb = some (.done, after)
  unlocked : s.protectionLocked = false

omit [DecidableEq T] in
theorem wokenObj_iff {slots : ℕ → Slot (T × PoolCall cfg)}
    (hconsistent : Consistent isSpawn s slots) {index : ℕ} :
    WokenObj s index ↔ ∃ held, slots index = .woken held := by
  constructor
  · rintro ⟨thread, call, -, hsignal⟩
    exact (hconsistent.signalled index).mp hsignal
  · rintro ⟨⟨thread, call⟩, hwoken⟩
    exact ⟨thread, call, (hconsistent.agree thread index call).2.mpr (Or.inr hwoken),
      (hconsistent.signalled index).mpr ⟨_, hwoken⟩⟩

omit [DecidableEq T] in
/-- Lists whose members are told apart by the use of the object partition the
pool. -/
theorem perm_range_of_slots {slots : ℕ → Slot (T × PoolCall cfg)}
    {free active pending woken : List ℕ} {count : ℕ}
    (hfree : ∀ index, index ∈ free ↔ index < count ∧ slots index = .free)
    (hactive : ∀ index, index ∈ active ↔ ∃ held, slots index = .active held)
    (hpending : ∀ index, index ∈ pending ↔ ∃ held, slots index = .pending held)
    (hwoken : ∀ index, index ∈ woken ↔ ∃ held, slots index = .woken held)
    (hcount : ∀ index, slots index ≠ .free → index < count)
    (hfreeNodup : free.Nodup) (hactiveNodup : active.Nodup)
    (hpendingNodup : pending.Nodup) (hwokenNodup : woken.Nodup) :
    (free ++ active ++ pending ++ woken).Perm (List.range count) := by
  have hnodup : (free ++ active ++ pending ++ woken).Nodup := by
    simp only [List.nodup_append, hfreeNodup, hactiveNodup, hpendingNodup, hwokenNodup,
      List.mem_append, hfree, hactive, hpending, hwoken, true_and]
    refine ⟨⟨?_, ?_⟩, ?_⟩
    · rintro index ⟨-, hslot⟩ _ ⟨held, hother⟩ rfl
      simp [hslot] at hother
    · rintro index (⟨-, hslot⟩ | ⟨_, hslot⟩) _ ⟨held, hother⟩ rfl <;> simp [hslot] at hother
    · rintro index ((⟨-, hslot⟩ | ⟨_, hslot⟩) | ⟨_, hslot⟩) _ ⟨held, hother⟩ rfl <;>
        simp [hslot] at hother
  rw [List.perm_ext_iff_of_nodup hnodup List.nodup_range]
  intro index
  simp only [List.mem_append, hfree, hactive, hpending, hwoken, List.mem_range]
  cases hslot : slots index with
  | free => simp
  | active held => simpa using hcount index (by simp [hslot])
  | pending held => simpa using hcount index (by simp [hslot])
  | woken held => simpa using hcount index (by simp [hslot])

open Classical in
theorem Running.listsPartition (hrunning : Running isSpawn s) : ListsPartition s := by
  obtain ⟨hstop, slots, hconsistent⟩ := hrunning
  have hrep := hconsistent.represents
  obtain ⟨free, hfree, hfreeMem⟩ := hrep.free
  obtain ⟨active, hactive, hactiveMem⟩ := hrep.active
  obtain ⟨pending, hpending, hpendingMem⟩ := hrep.pending
  let woken := (List.range cfg.maxConcurrentActions).filter fun index =>
    decide (∃ held, slots index = .woken held)
  have hwokenMem : ∀ index, index ∈ woken ↔ ∃ held, slots index = .woken held := by
    intro index
    simp only [woken, List.mem_filter, List.mem_range, decide_eq_true_eq]
    refine ⟨And.right, fun hwoken => ⟨hrep.lt_of_not_free ?_, hwoken⟩⟩
    obtain ⟨held, hheld⟩ := hwoken
    simp [hheld]
  have hperm := perm_range_of_slots hfreeMem hactiveMem hpendingMem hwokenMem
    (fun index => hrep.lt_of_not_free) hfree.nodup hactive.nodup hpending.nodup
    (List.nodup_range.filter _)
  constructor
  case partition =>
    exact ⟨free, active, pending, woken, hfree, hactive, hpending,
      fun index => (hwokenMem index).trans (wokenObj_iff hconsistent).symm, hperm⟩
  case release_done =>
    intro thread call index hthread
    obtain ⟨after, hdone, -⟩ := hconsistent.toSettled.release hstop hthread hpending rfl
    exact ⟨after, by rw [hstop, hdone]⟩
  case unlocked => exact hconsistent.unlocked

/-- In every run from `_SlDrvDriverCBInit` the free, active and pending lists
and the objects of woken waiters partition the pool, and no release returns with
the protection lock taken. -/
theorem poolLists_partition (isSpawn : T → Bool) (acts : List (PoolAct cfg T)) :
    StatesSatisfy (step isSpawn) ListsPartition (initial cfg T) acts := by
  intro before _ reached hreached
  exact Running.listsPartition
    (run_invariant (fun _ _ _ hs hnext => Running.step hs hnext) initial_running hreached)

/-- At most one call is active for each bit that is not shared, and such a bit
is set exactly while a call for it is active. -/
structure CallsExclude (s : PoolSys cfg T) : Prop where
  one_active : ∀ left right first second leftIdx rightIdx,
    s.thread left = .active first leftIdx → s.thread right = .active second rightIdx →
    first.key = second.key → ¬ Shared cfg first.key → left = right
  bit_iff : ∀ bit, ¬ Shared cfg bit →
    (s.cb.activeActionsBitmap.getLsbD bit = true ↔
      ∃ thread call index, s.thread thread = .active call index ∧ call.key = bit)

omit [DecidableEq T] in
theorem busy_iff_active {slots : ℕ → Slot (T × PoolCall cfg)}
    (hconsistent : Consistent isSpawn s slots) {bit : ℕ} :
    Busy slotKey slots bit ↔
      ∃ thread call index, s.thread thread = .active call index ∧ call.key = bit := by
  constructor
  · rintro ⟨index, ⟨thread, call⟩, hactive, hkey⟩
    exact ⟨thread, call, index, (hconsistent.agree thread index call).1.mpr hactive, hkey⟩
  · rintro ⟨thread, call, index, hthread, hkey⟩
    exact ⟨index, (thread, call), (hconsistent.agree thread index call).1.mp hthread, hkey⟩

omit [DecidableEq T] in
theorem Running.callsExclude (hrunning : Running isSpawn s) : CallsExclude s := by
  obtain ⟨-, slots, hconsistent⟩ := hrunning
  constructor
  case one_active =>
    intro left right first second leftIdx rightIdx hleft hright hkey hshared
    have hfirst := (hconsistent.agree left leftIdx first).1.mp hleft
    have hsecond := (hconsistent.agree right rightIdx second).1.mp hright
    have hsame := hconsistent.exclusive _ _ _ _ hfirst hsecond hkey hshared
    rw [hsame, hsecond] at hfirst
    simp only [Slot.active.injEq, Prod.mk.injEq] at hfirst
    exact hfirst.1.symm
  case bit_iff =>
    intro bit hshared
    rw [← busy_iff_active hconsistent]
    exact ⟨hconsistent.represents.busy_of_bit bit,
      hconsistent.represents.bit_of_busy bit hshared⟩

/-- In every run from `_SlDrvDriverCBInit` calls for one socket, and calls of one
non-socket action, exclude each other, and `ActiveActionsBitmap` says which are
active.  Only SELECT in the build with several selects is exempt. -/
theorem poolCalls_exclude (isSpawn : T → Bool) (acts : List (PoolAct cfg T)) :
    StatesSatisfy (step isSpawn) CallsExclude (initial cfg T) acts := by
  intro before _ reached hreached
  exact Running.callsExclude
    (run_invariant (fun _ _ _ hs hnext => Running.step hs hnext) initial_running hreached)

/-- Every pending call has another call with its bit that is active, or woken
and not resumed yet. -/
def NoWaiterStranded (s : PoolSys cfg T) : Prop :=
  ∀ pending, Linked s.cb.next cfg.maxConcurrentActions s.cb.pendingPoolIdx pending →
    ∀ index ∈ pending, ∀ thread call, s.thread thread = .blocked call index →
      ∃ other holder place, place ≠ index ∧ holder.key = call.key ∧
        (s.thread other = .active holder place ∨
          (s.thread other = .blocked holder place ∧
            (s.cb.objPool place).syncObj = true))

/-- A call is pending for `bit`. -/
def PendingFor (s : PoolSys cfg T) (pending : List ℕ) (bit : ℕ) (index : ℕ) : Prop :=
  index ∈ pending ∧ ∃ thread call, s.thread thread = .blocked call index ∧ call.key = bit

/-- The condition on a release: when calls with the released bit are pending,
then one with that bit is woken already, or the first pending object that passes
the wake test, which compares actions and not bits, is one of them. -/
def WakesOwnWaiter (s : PoolSys cfg T) (act : PoolAct cfg T) : Prop :=
  ∀ thread call index, act = .release thread → s.thread thread = .active call index →
    ∀ pending, Linked s.cb.next cfg.maxConcurrentActions s.cb.pendingPoolIdx pending →
      (∃ waiting, PendingFor s pending call.key waiting) →
        (∃ other waiter place, s.thread other = .blocked waiter place ∧
          (s.cb.objPool place).syncObj = true ∧ waiter.key = call.key) ∨
        ∃ waiting, pending.find? (releasesPending cfg s.cb index) = some waiting ∧
          PendingFor s pending call.key waiting

section Stranded

variable {slots : ℕ → Slot (T × PoolCall cfg)} {pending : List ℕ} {bit index : ℕ}

omit [DecidableEq T] in
theorem pendingFor_iff (hconsistent : Consistent isSpawn s slots)
    (hpending : Linked s.cb.next cfg.maxConcurrentActions s.cb.pendingPoolIdx pending) :
    PendingFor s pending bit index ↔ ∃ held, slots index = .pending held ∧ slotKey held = bit := by
  have hmem : index ∈ pending ↔ ∃ held, slots index = .pending held := by
    obtain ⟨items, hitems, hmember⟩ := hconsistent.represents.pending
    rw [hpending.unique hitems]
    exact hmember index
  constructor
  · rintro ⟨hindex, thread, call, hthread, hkey⟩
    obtain ⟨held, hheld⟩ := hmem.mp hindex
    have hslot := (hconsistent.agree thread index call).2.mp hthread
    simp only [hheld, Slot.pending.injEq, reduceCtorEq, or_false] at hslot
    subst held
    exact ⟨(thread, call), hheld, hkey⟩
  · rintro ⟨⟨thread, call⟩, hheld, hkey⟩
    exact ⟨hmem.mpr ⟨_, hheld⟩, thread, call,
      (hconsistent.agree thread index call).2.mpr (Or.inl hheld), hkey⟩

omit [DecidableEq T] in
theorem wokenFor_iff (hconsistent : Consistent isSpawn s slots) :
    (∃ other waiter, s.thread other = .blocked waiter index ∧
      (s.cb.objPool index).syncObj = true ∧ waiter.key = bit) ↔
        ∃ held, slots index = .woken held ∧ slotKey held = bit := by
  constructor
  · rintro ⟨other, waiter, hthread, hsignal, hkey⟩
    obtain ⟨held, hheld⟩ := (hconsistent.signalled index).mp hsignal
    have hslot := (hconsistent.agree other index waiter).2.mp hthread
    simp only [hheld, Slot.woken.injEq, reduceCtorEq, false_or] at hslot
    subst held
    exact ⟨(other, waiter), hheld, hkey⟩
  · rintro ⟨⟨other, waiter⟩, hheld, hkey⟩
    exact ⟨other, waiter, (hconsistent.agree other index waiter).2.mpr (Or.inr hheld),
      (hconsistent.signalled index).mpr ⟨_, hheld⟩, hkey⟩

omit [DecidableEq T] in
theorem noWaiterStranded_iff_slots (hconsistent : Consistent isSpawn s slots) :
    NoWaiterStranded s ↔ NoStranded slotKey slots := by
  obtain ⟨pending, hpending, hmember⟩ := hconsistent.represents.pending
  constructor
  · rintro hnone index ⟨thread, call⟩ hheld
    obtain ⟨other, holder, place, -, hkey, hother⟩ :=
      hnone pending hpending index ((hmember index).mpr ⟨_, hheld⟩) thread call
        ((hconsistent.agree thread index call).2.mpr (Or.inl hheld))
    rcases hother with hactive | ⟨hblocked, hsignal⟩
    · exact ⟨place, (other, holder), hkey,
        Or.inl ((hconsistent.agree other place holder).1.mp hactive)⟩
    · obtain ⟨held, hwoken, hheldKey⟩ :=
        (wokenFor_iff hconsistent).mp ⟨other, holder, hblocked, hsignal, hkey⟩
      exact ⟨place, held, hheldKey, Or.inr hwoken⟩
  · intro hnone items hitems index hindex thread call hthread
    obtain ⟨held, hheld, hheldKey⟩ :=
      (pendingFor_iff hconsistent hitems).mp ⟨hindex, thread, call, hthread, rfl⟩
    obtain ⟨place, ⟨other, holder⟩, hkey, hplace⟩ := hnone index held hheld
    have hne : place ≠ index := by
      intro heq
      rw [heq, hheld] at hplace
      simp at hplace
    refine ⟨other, holder, place, hne, hkey.trans hheldKey, ?_⟩
    rcases hplace with hactive | hwoken
    · exact Or.inl ((hconsistent.agree other place holder).1.mpr hactive)
    · exact Or.inr ⟨(hconsistent.agree other place holder).2.mpr (Or.inr hwoken),
        (hconsistent.signalled place).mpr ⟨_, hwoken⟩⟩

/-- One step keeps every waiter with somebody who will wake it exactly if it is
not a release that neglects the waiters for its own bit. -/
theorem noWaiterStranded_step {s' : PoolSys cfg T} {act : PoolAct cfg T}
    (hrunning : Running isSpawn s) (hnone : NoWaiterStranded s)
    (hstep : step isSpawn s act = some s') :
    NoWaiterStranded s' ↔ WakesOwnWaiter s act := by
  obtain ⟨hstop, slots, hconsistent⟩ := hrunning
  rw [noWaiterStranded_iff_slots hconsistent] at hnone
  cases act with
  | enter thread call =>
      obtain ⟨slots', hafter, hmove⟩ := hconsistent.enter hstep
      have hafterNone : NoStranded slotKey slots' := by
        rcases hmove with rfl | hadvance
        · exact hnone
        · exact hnone.advance hadvance
      refine iff_of_true ((noWaiterStranded_iff_slots hafter).mpr hafterNone) ?_
      intro _ _ _ hact
      simp at hact
  | resume thread =>
      obtain ⟨slots', hafter, hadvance⟩ := hconsistent.resume hstop hstep
      refine iff_of_true
        ((noWaiterStranded_iff_slots hafter).mpr (hnone.advance hadvance)) ?_
      intro _ _ _ hact
      simp at hact
  | release thread =>
      obtain ⟨call, index, result, hthread, -⟩ := step_release hstep
      obtain ⟨pending, hpending, -⟩ := hconsistent.represents.pending
      have hactive := (hconsistent.agree thread index call).1.mp hthread
      have hafter := hconsistent.release hstop hthread hpending rfl hstep
      rw [noWaiterStranded_iff_slots hafter,
        noStranded_finish_iff hconsistent.exclusive hconsistent.waiters hnone hactive]
      constructor
      · intro hcares other otherCall place hact hother items hitems hwaits
        cases hact
        rw [hthread] at hother
        cases hother
        cases hitems.unique hpending
        obtain ⟨waiting, hwaiting⟩ := hwaits
        obtain ⟨held, hheld, hkey⟩ := (pendingFor_iff hconsistent hpending).mp hwaiting
        rcases hcares ⟨waiting, held, hheld, hkey⟩ with
          ⟨woken, waiter, hwoken, hwokenKey⟩ | ⟨chosen, waiter, hchosen, hslot, hchosenKey⟩
        · obtain ⟨someone, waiter, hblocked⟩ :=
            (wokenFor_iff hconsistent).mpr ⟨waiter, hwoken, hwokenKey⟩
          exact Or.inl ⟨someone, waiter, woken, hblocked⟩
        · exact Or.inr ⟨chosen, hchosen,
            (pendingFor_iff hconsistent hpending).mpr ⟨waiter, hslot, hchosenKey⟩⟩
      · rintro hwakes ⟨waiting, held, hheld, hkey⟩
        rcases hwakes thread call index rfl hthread pending hpending
            ⟨waiting, (pendingFor_iff hconsistent hpending).mpr ⟨held, hheld, hkey⟩⟩ with
          ⟨other, waiter, place, hblocked⟩ | ⟨chosen, hchosen, hchosenFor⟩
        · obtain ⟨holder, hwoken, hwokenKey⟩ :=
            (wokenFor_iff hconsistent).mp ⟨other, waiter, hblocked⟩
          exact Or.inl ⟨place, holder, hwoken, hwokenKey⟩
        · obtain ⟨waiter, hslot, hchosenKey⟩ :=
            (pendingFor_iff hconsistent hpending).mp hchosenFor
          exact Or.inr ⟨chosen, waiter, hchosen, hslot, hchosenKey⟩

end Stranded

/-- A run keeps every waiter with somebody who will wake it exactly if all its
releases take care of the waiters for their own bit. -/
theorem noWaiterStranded_iff (isSpawn : T → Bool) (acts : List (PoolAct cfg T)) :
    StatesSatisfy (step isSpawn) NoWaiterStranded (initial cfg T) acts ↔
      StepsSatisfy (step isSpawn) WakesOwnWaiter (initial cfg T) acts := by
  have hinitial : NoWaiterStranded (initial cfg T) := by
    intro pending hpending index hindex thread call hthread
    simp [initial] at hthread
  exact states_iff_steps (fun _ _ _ (hs : Running isSpawn _) hnext => hs.step hnext)
    (fun _ _ _ hs hnone hnext => noWaiterStranded_step hs hnone hnext)
    initial_running hinitial

theorem socketZero_le : 0 ≤ smallConfig.slMaxSockets := Nat.zero_le _

/-- A call of the action `actionID` on socket 0. -/
def callOnSocketZero (actionID : ℕ) (hge : 16 ≤ actionID) (hlt : actionID < 32) :
    PoolCall smallConfig :=
  ⟨actionID, 0, hge, hlt, socketZero_le⟩

def receiveCall : PoolCall smallConfig := callOnSocketZero 18 (by decide) (by decide)

def closeCall : PoolCall smallConfig := callOnSocketZero 19 (by decide) (by decide)

/-- A receive is active on socket 0, a close of the socket waits for it, and the
receive is released. -/
def closeBehindReceive : List (PoolAct smallConfig Bool) :=
  [.enter false receiveCall, .enter true closeCall, .release false]

/-- The close is left on the pending list and no call for its socket is left. -/
theorem noWaiterStranded_closeBehindReceive :
    ¬ StatesSatisfy (step fun _ => false) NoWaiterStranded
      (initial smallConfig Bool) closeBehindReceive := by
  intro hstates
  have hnone := hstates closeBehindReceive (List.prefix_refl _) _ rfl
  have hpending := hnone [1] ⟨rfl, by decide, rfl⟩ 1 (by decide) true _ rfl
  obtain ⟨other, holder, place, hne, -, hother⟩ := hpending
  cases other with
  | false => rcases hother with hactive | ⟨hblocked, -⟩ <;> contradiction
  | true =>
      rcases hother with hactive | ⟨hblocked, -⟩
      · contradiction
      · exact hne (ThreadState.blocked.inj hblocked).2.symm

end SimpleLinkHost.PoolRuns
