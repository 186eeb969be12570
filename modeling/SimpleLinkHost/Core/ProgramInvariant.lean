import SimpleLinkHost.Core.CallOutcome

/-!
# Invariants of programs

A program keeps a property of the state if it holds wherever the program falls
through, provided it held at the start; how the program returns from the middle
does not matter.  A program leaves a view of the state if it keeps every value of
it.  Both hold of a sequence as soon as they hold of its parts.
-/

namespace SimpleLinkHost.ProgramInvariant

open CallOutcome

universe u

variable {Ret State α β View View' : Type u}

/-- Wherever the program falls through, it does so as `falls` says. -/
def Ensures (program : EStateM Ret State α) (before : State) (falls : α → State → Prop) : Prop :=
  Ends program before falls fun _ _ => True

def Keeps (inv : State → Prop) (program : EStateM Ret State α) : Prop :=
  ∀ before, inv before → Ensures program before fun _ after => inv after

def Leaves (view : State → View) (program : EStateM Ret State α) : Prop :=
  ∀ value, Keeps (fun state => view state = value) program

/-- The program does not return one value. -/
def Avoids (bad : Ret) (program : EStateM Ret State α) : Prop :=
  ∀ before, Ends program before (fun _ _ => True) fun ret _ => ret ≠ bad

section Ensures

variable {program : EStateM Ret State α} {before : State}
variable {falls falls' : α → State → Prop}

theorem Ensures.mono (hprogram : Ensures program before falls)
    (hfalls : ∀ value after, falls value after → falls' value after) :
    Ensures program before falls' :=
  Ends.mono hprogram hfalls fun _ _ htrue => htrue

theorem Ensures.and (hprogram : Ensures program before falls)
    (hprogram' : Ensures program before falls') :
    Ensures program before fun value after => falls value after ∧ falls' value after :=
  (Ends.and hprogram hprogram').mono (fun _ _ hafter => hafter) fun _ _ _ => trivial

theorem Ensures.bind {next : α → EStateM Ret State β} {last : β → State → Prop}
    (hprogram : Ensures program before falls)
    (hnext : ∀ value after, falls value after → Ensures (next value) after last) :
    Ensures (program >>= next) before last :=
  Ends.bind hprogram hnext

theorem ensures_run :
    Ensures program before fun value after => program.run before = .ok value after := by
  rw [Ensures, Ends]
  split
  · assumption
  · trivial

/-- What holds of a program's result holds of its run. -/
theorem Ensures.of_run {value : α} {after : State} (hprogram : Ensures program before falls)
    (hrun : program.run before = .ok value after) : falls value after := by
  rw [Ensures, Ends, hrun] at hprogram
  exact hprogram

/-- Programs that go on alike behind every result go on alike. -/
theorem bind_congr_of_ensures {good : α → Prop} {next next' : α → EStateM Ret State β}
    (hprogram : ∀ before, Ensures program before fun value _ => good value)
    (hnext : ∀ value, good value → next value = next' value) :
    program >>= next = program >>= next' := by
  funext before
  have hgood := hprogram before
  rw [Ensures, Ends] at hgood
  change EStateM.run (program >>= next) before = EStateM.run (program >>= next') before
  rw [EStateM.run_bind, EStateM.run_bind]
  split at hgood
  · rename_i value after hrun
    rw [hrun]
    exact congrFun (hnext value hgood) after
  · rename_i ret after hrun
    rw [hrun]

end Ensures

section Keeps

variable {inv : State → Prop} {program other : EStateM Ret State α}

theorem keeps_pure {value : α} : Keeps inv (pure value : EStateM Ret State α) :=
  fun _ hinv => hinv

theorem keeps_throw {ret : Ret} : Keeps inv (throw ret : EStateM Ret State α) :=
  fun _ _ => trivial

theorem keeps_get : Keeps inv (get : EStateM Ret State State) := fun _ hinv => hinv

theorem keeps_modify {change : State → State} (hchange : ∀ state, inv state → inv (change state)) :
    Keeps inv (modify change : EStateM Ret State PUnit) :=
  fun before hinv => hchange before hinv

theorem Keeps.bind {next : α → EStateM Ret State β} (hprogram : Keeps inv program)
    (hnext : ∀ value, Keeps inv (next value)) : Keeps inv (program >>= next) :=
  fun before hinv => (hprogram before hinv).bind fun value after hafter => hnext value after hafter

theorem keeps_ite {cond : Prop} [Decidable cond] (hprogram : Keeps inv program)
    (hother : Keeps inv other) : Keeps inv (if cond then program else other) := by
  split
  · exact hprogram
  · exact hother

theorem keeps_runIf {cond : Prop} [Decidable cond] {program : EStateM Ret State PUnit}
    (hprogram : Keeps inv program) : Keeps inv (runIf cond program) :=
  keeps_ite hprogram keeps_pure

theorem Keeps.and {inv' : State → Prop} (hprogram : Keeps inv program)
    (hprogram' : Keeps inv' program) : Keeps (fun state => inv state ∧ inv' state) program :=
  fun before hboth => (hprogram before hboth.1).and (hprogram' before hboth.2)

theorem Keeps.of_run {before after : State} {value : α} (hprogram : Keeps inv program)
    (hrun : program.run before = .ok value after) (hinv : inv before) : inv after :=
  (hprogram before hinv).of_run hrun

end Keeps

section Leaves

variable {view : State → View} {program other : EStateM Ret State α}

theorem Leaves.keeps (inv : View → Prop) (hprogram : Leaves view program) :
    Keeps (fun state => inv (view state)) program := by
  intro before hinv
  apply (hprogram (view before) before rfl).mono
  intro _ after hafter
  change inv (view after)
  rwa [hafter]

theorem Leaves.ensures {before : State} (hprogram : Leaves view program) :
    Ensures program before fun _ after => view after = view before :=
  hprogram (view before) before rfl

theorem Leaves.of_run {before after : State} {value : α} (hprogram : Leaves view program)
    (hrun : program.run before = .ok value after) : view after = view before :=
  hprogram.ensures.of_run hrun

/-- A coarser view is left when a finer one is. -/
theorem Leaves.project (coarsen : View → View') (hprogram : Leaves view program) :
    Leaves (fun state => coarsen (view state)) program :=
  fun value => hprogram.keeps fun seen => coarsen seen = value

theorem leaves_pure {value : α} : Leaves view (pure value : EStateM Ret State α) :=
  fun _ => keeps_pure

theorem leaves_throw {ret : Ret} : Leaves view (throw ret : EStateM Ret State α) :=
  fun _ => keeps_throw

theorem leaves_get : Leaves view (get : EStateM Ret State State) := fun _ => keeps_get

theorem leaves_modify {change : State → State}
    (hchange : ∀ state, view (change state) = view state) :
    Leaves view (modify change : EStateM Ret State PUnit) :=
  fun _ => keeps_modify fun state hstate => (hchange state).trans hstate

theorem Leaves.bind {next : α → EStateM Ret State β} (hprogram : Leaves view program)
    (hnext : ∀ value, Leaves view (next value)) : Leaves view (program >>= next) :=
  fun seen => (hprogram seen).bind fun value => hnext value seen

theorem leaves_ite {cond : Prop} [Decidable cond] (hprogram : Leaves view program)
    (hother : Leaves view other) : Leaves view (if cond then program else other) :=
  fun seen => keeps_ite (hprogram seen) (hother seen)

theorem leaves_runIf {cond : Prop} [Decidable cond] {program : EStateM Ret State PUnit}
    (hprogram : Leaves view program) : Leaves view (runIf cond program) :=
  fun seen => keeps_runIf (hprogram seen)

end Leaves

section Avoids

variable {bad : Ret} {program other : EStateM Ret State α}

theorem avoids_pure {value : α} : Avoids bad (pure value : EStateM Ret State α) :=
  fun _ => trivial

theorem avoids_throw {ret : Ret} (hret : ret ≠ bad) :
    Avoids bad (throw ret : EStateM Ret State α) :=
  fun _ => hret

theorem avoids_get : Avoids bad (get : EStateM Ret State State) := fun _ => trivial

theorem avoids_modify {change : State → State} :
    Avoids bad (modify change : EStateM Ret State PUnit) :=
  fun _ => trivial

theorem Avoids.bind {next : α → EStateM Ret State β} (hprogram : Avoids bad program)
    (hnext : ∀ value, Avoids bad (next value)) : Avoids bad (program >>= next) :=
  fun before => (hprogram before).bind fun value after _ => hnext value after

theorem avoids_ite {cond : Prop} [Decidable cond] (hprogram : Avoids bad program)
    (hother : Avoids bad other) : Avoids bad (if cond then program else other) := by
  split
  · exact hprogram
  · exact hother

theorem avoids_runIf {cond : Prop} [Decidable cond] {program : EStateM Ret State PUnit}
    (hprogram : Avoids bad program) : Avoids bad (runIf cond program) :=
  avoids_ite hprogram avoids_pure

theorem Avoids.run_ne {before after : State} (hprogram : Avoids bad program) :
    program.run before ≠ .error bad after := by
  intro hrun
  exact (hprogram before).of_error hrun rfl

end Avoids

end SimpleLinkHost.ProgramInvariant
