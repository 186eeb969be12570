import Mathlib.Logic.Function.Basic
import Mathlib.Tactic.Common

/-!
# Exclusion by key over a pool of slots

Callers take a slot of a shared pool and then need exclusive use of a key.  A
caller whose key is in use parks its slot as pending; a finishing caller frees
its slot and may wake one pending slot, whose owner then tests its key again
and may have to wait once more.  Keys may be marked as shared, which exempts
them from exclusion.

Nothing here says which pending slot is woken.  Exclusion does not depend on
that choice; whether a waiter can be left without anyone who will wake it does,
and `noStranded_finish_iff` says exactly how.
-/

namespace SimpleLinkHost.KeyedExclusion

/-- What a slot of the pool is used for. -/
inductive Slot (Call : Type*)
  | free
  | pending (call : Call)
  | woken (call : Call)
  | active (call : Call)

variable {Index Call Key : Type*} [DecidableEq Index]
variable (key : Call → Key) (shared : Key → Prop)

/-- Some active call uses the key. -/
def Busy (slots : Index → Slot Call) (k : Key) : Prop :=
  ∃ index call, slots index = .active call ∧ key call = k

/-- Turn the chosen pending slot, if there is one, into a woken slot. -/
def wake (slots : Index → Slot Call) : Option Index → Index → Slot Call
  | none => slots
  | some index =>
      match slots index with
      | .pending call => Function.update slots index (.woken call)
      | _ => slots

/-- The call in slot `index` ends and wakes the slot `choice`. -/
def finish (slots : Index → Slot Call) (index : Index) (choice : Option Index) :
    Index → Slot Call :=
  Function.update (wake slots choice) index .free

/-- A call that has a slot for itself starts if its key is idle, and parks
otherwise. -/
inductive Advance : (Index → Slot Call) → (Index → Slot Call) → Prop
  | start {slots index call} (hslot : slots index = .free ∨ slots index = .woken call)
      (hidle : shared (key call) ∨ ¬ Busy key slots (key call)) :
      Advance slots (Function.update slots index (.active call))
  | park {slots index call} (hslot : slots index = .free ∨ slots index = .woken call)
      (hshared : ¬ shared (key call)) (hbusy : Busy key slots (key call)) :
      Advance slots (Function.update slots index (.pending call))

/-- At most one active call for each key that is not shared. -/
def Exclusive (slots : Index → Slot Call) : Prop :=
  ∀ left right first second, slots left = .active first →
    slots right = .active second → key first = key second →
    ¬ shared (key first) → left = right

/-- Calls for a shared key never wait. -/
def WaitersExclusive (slots : Index → Slot Call) : Prop :=
  ∀ index call, slots index = .pending call ∨ slots index = .woken call →
    ¬ shared (key call)

/-- Every pending call has a call for its key that is active or woken, and so
will end. -/
def NoStranded (slots : Index → Slot Call) : Prop :=
  ∀ index call, slots index = .pending call →
    ∃ other holder, key holder = key call ∧
      (slots other = .active holder ∨ slots other = .woken holder)

variable {key shared} {slots slots' : Index → Slot Call}

@[simp]
theorem wake_none : wake slots none = slots := rfl

theorem wake_of_pending {index : Index} {call : Call}
    (hpending : slots index = .pending call) :
    wake slots (some index) = Function.update slots index (.woken call) := by
  simp [wake, hpending]

/-- Waking changes pending slots only. -/
theorem wake_of_not_pending {choice : Option Index} {index : Index}
    (hslot : ∀ call, slots index ≠ .pending call) :
    wake slots choice index = slots index := by
  cases choice with
  | none => rfl
  | some other =>
      cases hother : slots other with
      | pending call =>
          rw [wake_of_pending hother]
          refine Function.update_of_ne ?_ _ _
          rintro rfl
          exact hslot call hother
      | free => simp [wake, hother]
      | woken call => simp [wake, hother]
      | active call => simp [wake, hother]

theorem wake_of_ne {choice : Option Index} {index : Index}
    (hne : choice ≠ some index) : wake slots choice index = slots index := by
  cases choice with
  | none => rfl
  | some other =>
      cases hother : slots other with
      | pending call =>
          rw [wake_of_pending hother]
          refine Function.update_of_ne ?_ _ _
          rintro rfl
          exact hne rfl
      | free => simp [wake, hother]
      | woken call => simp [wake, hother]
      | active call => simp [wake, hother]

theorem wake_eq_active_iff {choice : Option Index} {index : Index} {call : Call} :
    wake slots choice index = .active call ↔ slots index = .active call := by
  by_cases hpending : ∃ waiter, slots index = .pending waiter
  · obtain ⟨waiter, hwaiter⟩ := hpending
    by_cases hchoice : choice = some index
    · subst choice
      simp [wake_of_pending hwaiter, hwaiter]
    · rw [wake_of_ne hchoice]
  · rw [wake_of_not_pending fun waiter hwaiter => hpending ⟨waiter, hwaiter⟩]

theorem finish_self {index : Index} {choice : Option Index} :
    finish slots index choice index = .free :=
  Function.update_self ..

theorem finish_of_ne {index other : Index} {choice : Option Index}
    (hne : other ≠ index) : finish slots index choice other = wake slots choice other :=
  Function.update_of_ne hne _ _

/-- The active slots after a call ends are the other active slots. -/
theorem finish_eq_active_iff {index other : Index} {choice : Option Index} {call : Call} :
    finish slots index choice other = .active call ↔
      other ≠ index ∧ slots other = .active call := by
  by_cases hne : other = index
  · subst other
    simp [finish_self]
  · rw [finish_of_ne hne, wake_eq_active_iff]
    simp [hne]

/-- The pending slots after a call ends are those that were not chosen. -/
theorem finish_eq_pending_iff {index other : Index} {choice : Option Index}
    {call waiter : Call} (hactive : slots index = .active call) :
    finish slots index choice other = .pending waiter ↔
      choice ≠ some other ∧ slots other = .pending waiter := by
  by_cases hne : other = index
  · subst other
    simp [finish_self, hactive]
  rw [finish_of_ne hne]
  by_cases hchoice : choice = some other
  · subst choice
    cases hslot : slots other with
    | pending found => simp [wake_of_pending hslot]
    | free => simp [wake, hslot]
    | woken found => simp [wake, hslot]
    | active found => simp [wake, hslot]
  · simp [wake_of_ne hchoice, hchoice]

/-- The woken slots after a call ends: those woken before and the chosen one. -/
theorem finish_eq_woken_iff {index other : Index} {choice : Option Index}
    {call waiter : Call} (hactive : slots index = .active call) :
    finish slots index choice other = .woken waiter ↔
      slots other = .woken waiter ∨
        (choice = some other ∧ slots other = .pending waiter) := by
  by_cases hne : other = index
  · subst other
    simp [finish_self, hactive]
  rw [finish_of_ne hne]
  by_cases hchoice : choice = some other
  · subst choice
    cases hslot : slots other with
    | pending found => simp [wake_of_pending hslot]
    | free => simp [wake, hslot]
    | woken found => simp [wake, hslot]
    | active found => simp [wake, hslot]
  · simp [wake_of_ne hchoice, hchoice]

/-- Starting a call makes its key busy and leaves the other keys alone. -/
theorem busy_start_iff {index : Index} {call : Call} {k : Key}
    (hslot : ∀ other, slots index ≠ .active other) :
    Busy key (Function.update slots index (.active call)) k ↔
      key call = k ∨ Busy key slots k := by
  constructor
  · rintro ⟨other, holder, hactive, hkey⟩
    by_cases hne : other = index
    · subst other
      rw [Function.update_self] at hactive
      cases hactive
      exact Or.inl hkey
    · rw [Function.update_of_ne hne] at hactive
      exact Or.inr ⟨other, holder, hactive, hkey⟩
  · rintro (hkey | ⟨other, holder, hactive, hkey⟩)
    · exact ⟨index, call, Function.update_self .., hkey⟩
    · have hne : other ≠ index := by
        rintro rfl
        exact hslot holder hactive
      exact ⟨other, holder, by rw [Function.update_of_ne hne, hactive], hkey⟩

/-- Changes between uses other than active change no key. -/
theorem busy_update_iff {index : Index} {slot : Slot Call} {k : Key}
    (hbefore : ∀ call, slots index ≠ .active call) (hafter : ∀ call, slot ≠ .active call) :
    Busy key (Function.update slots index slot) k ↔ Busy key slots k := by
  constructor
  · rintro ⟨other, holder, hactive, hkey⟩
    by_cases hne : other = index
    · subst other
      rw [Function.update_self] at hactive
      exact absurd hactive (hafter holder)
    · rw [Function.update_of_ne hne] at hactive
      exact ⟨other, holder, hactive, hkey⟩
  · rintro ⟨other, holder, hactive, hkey⟩
    have hne : other ≠ index := by
      rintro rfl
      exact hbefore holder hactive
    exact ⟨other, holder, by rw [Function.update_of_ne hne, hactive], hkey⟩

/-- A key that is busy after a call ends was busy before. -/
theorem Busy.of_update {index : Index} {slot : Slot Call} {k : Key}
    (hbusy : Busy key (Function.update slots index slot) k)
    (hafter : ∀ call, slot ≠ .active call) : Busy key slots k := by
  obtain ⟨other, holder, hholder, hkey⟩ := hbusy
  have hne : other ≠ index := by
    intro heq
    rw [heq, Function.update_self] at hholder
    exact hafter holder hholder
  rw [Function.update_of_ne hne] at hholder
  exact ⟨other, holder, hholder, hkey⟩

/-- Ending the only call for a key makes exactly that key idle. -/
theorem busy_end_iff (hexclusive : Exclusive key shared slots) {index : Index}
    {call : Call} {slot : Slot Call} {k : Key} (hactive : slots index = .active call)
    (hafter : ∀ other, slot ≠ .active other) (hshared : ¬ shared k) :
    Busy key (Function.update slots index slot) k ↔ Busy key slots k ∧ key call ≠ k := by
  constructor
  · intro hbusy
    have hbefore := hbusy.of_update hafter
    obtain ⟨other, holder, hholder, rfl⟩ := hbusy
    have hne : other ≠ index := by
      intro heq
      rw [heq, Function.update_self] at hholder
      exact hafter holder hholder
    rw [Function.update_of_ne hne] at hholder
    exact ⟨hbefore, fun hkey =>
      hne (hexclusive _ _ _ _ hholder hactive hkey.symm hshared)⟩
  · rintro ⟨⟨other, holder, hholder, rfl⟩, hkey⟩
    have hne : other ≠ index := by
      intro heq
      rw [heq, hactive] at hholder
      cases hholder
      exact hkey rfl
    exact ⟨other, holder, by rw [Function.update_of_ne hne, hholder], rfl⟩

omit [DecidableEq Index] in
/-- Exclusion survives whatever makes no slot active. -/
theorem Exclusive.of_active (hexclusive : Exclusive key shared slots)
    (hactive : ∀ index call, slots' index = .active call → slots index = .active call) :
    Exclusive key shared slots' := by
  intro left right first second hleft hright hkey hshared
  exact hexclusive _ _ _ _ (hactive _ _ hleft) (hactive _ _ hright) hkey hshared

theorem Exclusive.wake (hexclusive : Exclusive key shared slots) (choice : Option Index) :
    Exclusive key shared (wake slots choice) :=
  hexclusive.of_active fun _ _ => wake_eq_active_iff.mp

private theorem exclusive_start (hexclusive : Exclusive key shared slots)
    {index : Index} {call : Call}
    (hidle : shared (key call) ∨ ¬ Busy key slots (key call)) :
    Exclusive key shared (Function.update slots index (.active call)) := by
  intro left right first second hleft hright hkey hshared
  by_cases hl : left = index <;> by_cases hr : right = index
  · rw [hl, hr]
  · subst left
    rw [Function.update_self] at hleft
    rw [Function.update_of_ne hr] at hright
    cases hleft
    exact absurd ⟨right, second, hright, hkey.symm⟩ (hidle.resolve_left hshared)
  · subst right
    rw [Function.update_self] at hright
    rw [Function.update_of_ne hl] at hleft
    cases hright
    exact absurd ⟨left, first, hleft, hkey⟩ (hidle.resolve_left (hkey ▸ hshared))
  · rw [Function.update_of_ne hl] at hleft
    rw [Function.update_of_ne hr] at hright
    exact hexclusive _ _ _ _ hleft hright hkey hshared

private theorem exclusive_park (hexclusive : Exclusive key shared slots)
    {index : Index} {call : Call} :
    Exclusive key shared (Function.update slots index (.pending call)) := by
  intro left right first second hleft hright hkey hshared
  have hl : left ≠ index := by
    rintro rfl
    simp at hleft
  have hr : right ≠ index := by
    rintro rfl
    simp at hright
  rw [Function.update_of_ne hl] at hleft
  rw [Function.update_of_ne hr] at hright
  exact hexclusive _ _ _ _ hleft hright hkey hshared

/-- Exclusion survives every call that starts or parks. -/
theorem Exclusive.advance (hexclusive : Exclusive key shared slots)
    (hadvance : Advance key shared slots slots') : Exclusive key shared slots' := by
  cases hadvance with
  | start hslot hidle => exact exclusive_start hexclusive hidle
  | park hslot hshared hbusy => exact exclusive_park hexclusive

/-- Exclusion survives the end of a call, whichever slot it wakes. -/
theorem Exclusive.finish (hexclusive : Exclusive key shared slots) (index : Index)
    (choice : Option Index) : Exclusive key shared (finish slots index choice) :=
  hexclusive.of_active fun _ _ hactive => (finish_eq_active_iff.mp hactive).2

private theorem waitersExclusive_update (hwaiters : WaitersExclusive key shared slots)
    {index : Index} {slot : Slot Call}
    (hslot : ∀ call, slot = .pending call ∨ slot = .woken call → ¬ shared (key call)) :
    WaitersExclusive key shared (Function.update slots index slot) := by
  intro other call hother
  by_cases hne : other = index
  · subst other
    rw [Function.update_self] at hother
    exact hslot call hother
  · rw [Function.update_of_ne hne] at hother
    exact hwaiters other call hother

theorem WaitersExclusive.advance (hwaiters : WaitersExclusive key shared slots)
    (hadvance : Advance key shared slots slots') : WaitersExclusive key shared slots' := by
  cases hadvance with
  | start hslot hidle => exact waitersExclusive_update hwaiters (by simp)
  | park hslot hshared hbusy =>
      exact waitersExclusive_update hwaiters (by simpa using hshared)

theorem WaitersExclusive.finish (hwaiters : WaitersExclusive key shared slots)
    {index : Index} {call : Call} (hactive : slots index = .active call)
    (choice : Option Index) : WaitersExclusive key shared (finish slots index choice) := by
  rintro other waiter (hpending | hwoken)
  · exact hwaiters other waiter (Or.inl ((finish_eq_pending_iff hactive).mp hpending).2)
  · rcases (finish_eq_woken_iff hactive).mp hwoken with hwoken | ⟨-, hpending⟩
    · exact hwaiters other waiter (Or.inr hwoken)
    · exact hwaiters other waiter (Or.inl hpending)

/-- Starting a call strands nobody. -/
private theorem NoStranded.start (hnone : NoStranded key slots) {index : Index} {call : Call}
    (hslot : slots index = .free ∨ slots index = .woken call) :
    NoStranded key (Function.update slots index (.active call)) := by
  intro other waiter hwaiter
  have hne : other ≠ index := by
    rintro rfl
    simp at hwaiter
  rw [Function.update_of_ne hne] at hwaiter
  obtain ⟨place, holder, hkey, hholder⟩ := hnone other waiter hwaiter
  by_cases hplace : place = index
  · subst place
    have hholder : holder = call := by
      rcases hslot with hslot | hslot <;> rw [hslot] at hholder <;> simp at hholder
      exact hholder.symm
    subst holder
    exact ⟨index, call, hkey, Or.inl (Function.update_self ..)⟩
  · exact ⟨place, holder, hkey, by rwa [Function.update_of_ne hplace]⟩

/-- A call that parks because its key is busy strands nobody: the call that
keeps the key busy is still there. -/
private theorem NoStranded.park (hnone : NoStranded key slots) {index : Index} {call : Call}
    (hslot : slots index = .free ∨ slots index = .woken call)
    (hbusy : Busy key slots (key call)) :
    NoStranded key (Function.update slots index (.pending call)) := by
  obtain ⟨busy, keeper, hkeeper, hkeeperKey⟩ := hbusy
  have hbusyNe : busy ≠ index := by
    rintro rfl
    rcases hslot with hslot | hslot <;> rw [hslot] at hkeeper <;> simp at hkeeper
  have hstays : ∀ place, place ≠ index →
      Function.update slots index (.pending call) place = slots place :=
    fun place hne => Function.update_of_ne hne _ _
  intro other waiter hwaiter
  by_cases hne : other = index
  · subst other
    rw [Function.update_self] at hwaiter
    cases hwaiter
    exact ⟨busy, keeper, hkeeperKey, Or.inl (by rw [hstays busy hbusyNe, hkeeper])⟩
  · rw [hstays other hne] at hwaiter
    obtain ⟨place, holder, hkey, hholder⟩ := hnone other waiter hwaiter
    by_cases hplace : place = index
    · subst place
      have hholder : holder = call := by
        rcases hslot with hslot | hslot <;> rw [hslot] at hholder <;> simp at hholder
        exact hholder.symm
      subst holder
      exact ⟨busy, keeper, hkeeperKey.trans hkey,
        Or.inl (by rw [hstays busy hbusyNe, hkeeper])⟩
    · exact ⟨place, holder, hkey, by rwa [hstays place hplace]⟩

theorem NoStranded.advance (hnone : NoStranded key slots)
    (hadvance : Advance key shared slots slots') : NoStranded key slots' := by
  cases hadvance with
  | start hslot hidle => exact hnone.start hslot
  | park hslot hshared hbusy => exact hnone.park hslot hbusy

/-- When a call ends, nobody is left stranded exactly if its own waiters are
taken care of: somebody for its key is woken already, or the slot it wakes is
one of them. -/
theorem noStranded_finish_iff (hexclusive : Exclusive key shared slots)
    (hwaiters : WaitersExclusive key shared slots) (hnone : NoStranded key slots)
    {index : Index} {call : Call} {choice : Option Index}
    (hactive : slots index = .active call) :
    NoStranded key (finish slots index choice) ↔
      ((∃ other waiter, slots other = .pending waiter ∧ key waiter = key call) →
        (∃ other waiter, slots other = .woken waiter ∧ key waiter = key call) ∨
        ∃ other waiter, choice = some other ∧ slots other = .pending waiter ∧
          key waiter = key call) := by
  constructor
  · rintro hafter ⟨other, waiter, hpending, hkey⟩
    by_contra hneglected
    rw [not_or] at hneglected
    obtain ⟨hnoWoken, hnotChosen⟩ := hneglected
    have hstill : finish slots index choice other = .pending waiter := by
      refine (finish_eq_pending_iff hactive).mpr ⟨fun hchoice => ?_, hpending⟩
      exact hnotChosen ⟨other, waiter, hchoice, hpending, hkey⟩
    obtain ⟨place, holder, hholderKey, hholder⟩ := hafter other waiter hstill
    rcases hholder with hholder | hholder
    · obtain ⟨hne, hholder⟩ := finish_eq_active_iff.mp hholder
      have hshared : ¬ shared (key holder) :=
        hholderKey ▸ hwaiters other waiter (Or.inl hpending)
      exact hne (hexclusive _ _ _ _ hholder hactive (hholderKey.trans hkey) hshared)
    · rcases (finish_eq_woken_iff hactive).mp hholder with hwoken | ⟨hchoice, hchosen⟩
      · exact hnoWoken ⟨place, holder, hwoken, hholderKey.trans hkey⟩
      · exact hnotChosen ⟨place, holder, hchoice, hchosen, hholderKey.trans hkey⟩
  · intro hcare other waiter hwaiter
    obtain ⟨-, hpending⟩ := (finish_eq_pending_iff hactive).mp hwaiter
    by_cases hkey : key waiter = key call
    · rcases hcare ⟨other, waiter, hpending, hkey⟩ with
        ⟨place, holder, hwoken, hholderKey⟩ | ⟨place, holder, hchoice, hchosen, hholderKey⟩
      · exact ⟨place, holder, hholderKey.trans hkey.symm,
          Or.inr ((finish_eq_woken_iff hactive).mpr (Or.inl hwoken))⟩
      · exact ⟨place, holder, hholderKey.trans hkey.symm,
          Or.inr ((finish_eq_woken_iff hactive).mpr (Or.inr ⟨hchoice, hchosen⟩))⟩
    · obtain ⟨place, holder, hholderKey, hholder⟩ := hnone other waiter hpending
      refine ⟨place, holder, hholderKey, ?_⟩
      rcases hholder with hholder | hholder
      · refine Or.inl (finish_eq_active_iff.mpr ⟨?_, hholder⟩)
        rintro rfl
        rw [hactive] at hholder
        cases hholder
        exact hkey hholderKey.symm
      · exact Or.inr ((finish_eq_woken_iff hactive).mpr (Or.inl hholder))

end SimpleLinkHost.KeyedExclusion
