import SimpleLinkHost.Core.CallOutcome

/-!
# Loops that may not end

A `while` loop is run for a number of rounds at most; a loop that would go on then throws a
value that stands for no return.  An invariant that counts the rounds says how such a loop
ends: behind its last round, from inside its body, or not within its rounds.
-/

namespace SimpleLinkHost.WhileLoop

open CallOutcome

universe u

variable {Ret State : Type u}

/-- `while (cond) body`, for at most `fuel` rounds. -/
def whileLoop (stuck : Ret) (cond : State → Bool) (body : EStateM Ret State PUnit) :
    ℕ → EStateM Ret State PUnit
  | 0 => do
      let state ← get
      if cond state then throw stuck else pure ⟨⟩
  | fuel + 1 => do
      let state ← get
      if cond state then do
        body
        whileLoop stuck cond body fuel
      else pure ⟨⟩

variable {stuck : Ret} {cond : State → Bool} {body : EStateM Ret State PUnit}
variable {inv : ℕ → State → Prop} {returns : Ret → State → Prop} {state : State}

/-- The rule for a loop: what holds behind each number of rounds holds behind the last. -/
theorem ends_whileLoop
    (hbody : ∀ round state, inv round state → cond state = true →
      Ends body state (fun _ after => inv (round + 1) after) returns)
    {round : ℕ} (hinv : inv round state) (fuel : ℕ) :
    Ends (whileLoop stuck cond body fuel) state
      (fun _ after => ∃ last, round ≤ last ∧ inv last after ∧ cond after = false)
      fun ret after => returns ret after ∨
        ret = stuck ∧ inv (round + fuel) after ∧ cond after = true := by
  induction fuel generalizing round state with
  | zero =>
      rw [whileLoop, ends_bind, ends_get, ends_ite]
      split
      · rename_i hcond
        exact Or.inr ⟨rfl, hinv, hcond⟩
      · rename_i hcond
        exact ⟨round, Nat.le_refl round, hinv, Bool.eq_false_iff.mpr hcond⟩
  | succ fuel ih =>
      rw [whileLoop, ends_bind, ends_get, ends_ite]
      split
      · rename_i hcond
        rw [ends_bind]
        apply (hbody round state hinv hcond).mono
        · intro _ next hnext
          apply (ih hnext).mono
          · intro _ after hafter
            obtain ⟨last, hlast, hrest⟩ := hafter
            exact ⟨last, Nat.le_of_succ_le hlast, hrest⟩
          · intro ret after hafter
            rwa [Nat.add_right_comm] at hafter
        · exact fun _ _ hreturns => Or.inl hreturns
      · rename_i hcond
        exact ⟨round, Nat.le_refl round, hinv, Bool.eq_false_iff.mpr hcond⟩

end SimpleLinkHost.WhileLoop
