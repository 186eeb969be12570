import Mathlib.Tactic.Common

/-!
# Programs with early return

A function that may return from the middle is a program over a state that may
throw its return value.  `Ends` says how such a program ends: it falls through
with a value, or it returns.  `Consumes` is for programs that use up a finite
supply, such as the bytes of an input: with enough of it the program falls
through, and it returns where the supply falls short.
-/

namespace SimpleLinkHost.CallOutcome

universe u

variable {Ret State View α β : Type u}

/-- The program started in `before` falls through as `falls` says, or returns as
`returns` says. -/
def Ends (program : EStateM Ret State α) (before : State)
    (falls : α → State → Prop) (returns : Ret → State → Prop) : Prop :=
  match program.run before with
  | .ok value after => falls value after
  | .error ret after => returns ret after

/-- The program always falls through. -/
def Completes (program : EStateM Ret State α) (before : State)
    (falls : α → State → Prop) : Prop :=
  Ends program before falls fun _ _ => False

/-- A function call as its caller sees it: a thrown return value is a value, except
one that stops the caller too. -/
def attempt (stops : Ret → Bool) (program : EStateM Ret State α) :
    EStateM Ret State (Except Ret α) :=
  fun before =>
    match program.run before with
    | .ok value after => .ok (.ok value) after
    | .error ret after => if stops ret then .error ret after else .ok (.error ret) after

/-- An `if` without `else`. -/
def runIf (cond : Prop) [Decidable cond] (program : EStateM Ret State PUnit) :
    EStateM Ret State PUnit :=
  if cond then program else pure ⟨⟩

section Rules

variable {program : EStateM Ret State α} {before : State}
variable {falls falls' : α → State → Prop} {returns returns' : Ret → State → Prop}

@[simp]
theorem ends_pure {value : α} :
    Ends (pure value) before falls returns ↔ falls value before := Iff.rfl

@[simp]
theorem ends_throw {ret : Ret} :
    Ends (throw ret) before falls returns ↔ returns ret before := Iff.rfl

@[simp]
theorem ends_get {falls : State → State → Prop} :
    Ends get before falls returns ↔ falls before before := Iff.rfl

@[simp]
theorem ends_modify {change : State → State} {falls : PUnit → State → Prop} :
    Ends (modify change) before falls returns ↔ falls ⟨⟩ (change before) := Iff.rfl

@[simp]
theorem ends_bind {next : α → EStateM Ret State β} {falls : β → State → Prop} :
    Ends (program >>= next) before falls returns ↔
      Ends program before (fun value after => Ends (next value) after falls returns) returns := by
  simp only [Ends, EStateM.run_bind]
  cases program.run before <;> rfl

@[simp]
theorem ends_map {change : α → β} {falls : β → State → Prop} :
    Ends (change <$> program) before falls returns ↔
      Ends program before (fun value after => falls (change value) after) returns := by
  rw [map_eq_pure_bind, ends_bind]
  rfl

@[simp]
theorem ends_attempt {stops : Ret → Bool} {falls : Except Ret α → State → Prop} :
    Ends (attempt stops program) before falls returns ↔
      Ends program before (fun value after => falls (.ok value) after) fun ret after =>
        if stops ret then returns ret after else falls (.error ret) after := by
  simp only [Ends, attempt, EStateM.run]
  cases program before with
  | ok value after => rfl
  | error ret after =>
      cases hstops : stops ret <;> simp [hstops]

theorem ends_ite {cond : Prop} [Decidable cond] {other : EStateM Ret State α} :
    Ends (if cond then program else other) before falls returns ↔
      if cond then Ends program before falls returns else Ends other before falls returns := by
  split <;> rfl

theorem ends_runIf {cond : Prop} [Decidable cond] {program : EStateM Ret State PUnit}
    {falls : PUnit → State → Prop} :
    Ends (runIf cond program) before falls returns ↔
      if cond then Ends program before falls returns else falls ⟨⟩ before := by
  rw [runIf]
  split <;> rfl

/-- A program ends as its run does. -/
theorem ends_run :
    Ends program before (fun value after => program.run before = .ok value after)
      fun ret after => program.run before = .error ret after := by
  rw [Ends]
  split <;> assumption

theorem Ends.mono (hends : Ends program before falls returns)
    (hfalls : ∀ value after, falls value after → falls' value after)
    (hreturns : ∀ ret after, returns ret after → returns' ret after) :
    Ends program before falls' returns' := by
  simp only [Ends] at hends ⊢
  split at hends
  · exact hfalls _ _ hends
  · exact hreturns _ _ hends

theorem Ends.elim {conclusion : Prop} (hends : Ends program before falls returns)
    (hfalls : ∀ value after, falls value after → conclusion)
    (hreturns : ∀ ret after, returns ret after → conclusion) : conclusion := by
  simp only [Ends] at hends
  split at hends
  · exact hfalls _ _ hends
  · exact hreturns _ _ hends

theorem Ends.of_error {ret : Ret} {after : State} (hends : Ends program before falls returns)
    (hrun : program.run before = .error ret after) : returns ret after := by
  rwa [Ends, hrun] at hends

theorem Ends.and (hends : Ends program before falls returns)
    (hends' : Ends program before falls' returns') :
    Ends program before (fun value after => falls value after ∧ falls' value after)
      fun ret after => returns ret after ∧ returns' ret after := by
  simp only [Ends] at hends hends' ⊢
  cases hrun : program.run before <;> rw [hrun] at hends hends' <;> exact ⟨hends, hends'⟩

/-- A program that cannot fall through returns. -/
theorem Ends.exists_error (hends : Ends program before (fun _ _ => False) returns) :
    ∃ ret after, program.run before = .error ret after ∧ returns ret after := by
  apply (ends_run.and hends).elim
  · exact fun _ _ hfalse => hfalse.2.elim
  · exact fun ret after hreturns => ⟨ret, after, hreturns⟩

/-- The rule for a sequence whose first part returns as the whole may. -/
theorem Ends.bind {next : α → EStateM Ret State β} {last : β → State → Prop}
    (hends : Ends program before falls returns)
    (hnext : ∀ value after, falls value after → Ends (next value) after last returns) :
    Ends (program >>= next) before last returns := by
  rw [ends_bind]
  exact hends.mono hnext fun _ _ hreturns => hreturns

theorem Completes.ends (hprogram : Completes program before falls) :
    Ends program before falls returns :=
  Ends.mono hprogram (fun _ _ hfalls => hfalls) fun _ _ hfalse => hfalse.elim

theorem Completes.bind {next : α → EStateM Ret State β} {last : β → State → Prop}
    (hprogram : Completes program before falls)
    (hnext : ∀ value after, falls value after → Ends (next value) after last returns) :
    Ends (program >>= next) before last returns :=
  hprogram.ends.bind hnext

theorem Completes.mono (hprogram : Completes program before falls)
    (hfalls : ∀ value after, falls value after → falls' value after) :
    Completes program before falls' :=
  Ends.mono hprogram hfalls fun _ _ hfalse => hfalse

end Rules

/-- The program uses `need` of the supply that `left` measures and falls through
with `good`, or returns `short` where less is left.  Both ways `view` stays. -/
def Consumes (left : State → ℕ) (view : State → View) (short : Ret)
    (program : EStateM Ret State α) (before : State) (need : ℕ)
    (good : α → State → Prop) : Prop :=
  Ends program before
    (fun value after => left after + need = left before ∧ view after = view before ∧
      good value after)
    (fun ret after => ret = short ∧ left before < need ∧ view after = view before)

section Consumes

variable {left : State → ℕ} {view : State → View} {short : Ret}
variable {program : EStateM Ret State α} {before : State} {need more : ℕ}
variable {good good' : α → State → Prop} {better : β → State → Prop}

theorem consumes_pure {value : α} (hgood : good value before) :
    Consumes left view short (pure value) before 0 good :=
  ⟨Nat.add_zero _, rfl, hgood⟩

/-- What falls through at once without touching the supply or the view. -/
theorem Completes.consumes
    (hprogram : Completes program before fun value after =>
      left after = left before ∧ view after = view before ∧ good value after) :
    Consumes left view short program before 0 good :=
  hprogram.ends

theorem Consumes.mono (hprogram : Consumes left view short program before need good)
    (hgood : ∀ value after, good value after → good' value after) :
    Consumes left view short program before need good' :=
  Ends.mono hprogram
    (fun value after hafter => ⟨hafter.1, hafter.2.1, hgood value after hafter.2.2⟩)
    fun _ _ hafter => hafter

/-- A coarser view stays when a finer one does. -/
theorem Consumes.project {View' : Type u} (coarsen : View → View')
    (hprogram : Consumes left view short program before need good) :
    Consumes left (fun state => coarsen (view state)) short program before need good :=
  Ends.mono hprogram
    (fun _ _ hafter => ⟨hafter.1, congrArg coarsen hafter.2.1, hafter.2.2⟩)
    fun _ _ hafter => ⟨hafter.1, hafter.2.1, congrArg coarsen hafter.2.2⟩

theorem Consumes.bind {next : α → EStateM Ret State β}
    (hprogram : Consumes left view short program before need good)
    (hnext : ∀ value after, view after = view before → good value after →
      Consumes left view short (next value) after more better) :
    Consumes left view short (program >>= next) before (need + more) better := by
  rw [Consumes, ends_bind]
  apply Ends.mono hprogram
  · intro value middle hmiddle
    obtain ⟨hleft, hview, hgood⟩ := hmiddle
    apply Ends.mono (hnext value middle hview hgood)
    · intro result after hafter
      exact ⟨by omega, hafter.2.1.trans hview, hafter.2.2⟩
    · intro ret after hafter
      exact ⟨hafter.1, by omega, hafter.2.2.trans hview⟩
  · intro ret after hafter
    exact ⟨hafter.1, by omega, hafter.2.2⟩

end Consumes

end SimpleLinkHost.CallOutcome
