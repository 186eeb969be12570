import Mathlib.Data.List.Induction

/-!
# Monitors

What has been seen of a record so far decides whether the next letter is bad.  A
record in which no letter is bad where it stands is found by one pass over it, and the
pass can be continued when letters are added.
-/

namespace SimpleLinkHost.Monitor

variable {Seen Letter : Type*} (next : Seen → Letter → Seen) (bad : Seen → Letter → Bool)
variable (first : Seen)

/-- No letter of the record is bad where it stands. -/
def NeverBad (record : List Letter) : Prop :=
  ∀ before letter rest, record = before ++ letter :: rest →
    bad (before.foldl next first) letter = false

/-- One step of the pass: what is seen, and whether no letter was bad so far. -/
def watchBad (seen : Seen × Bool) (letter : Letter) : Seen × Bool :=
  (next seen.1 letter, seen.2 && !bad seen.1 letter)

theorem neverBad_nil : NeverBad next bad first [] := by
  intro before letter rest hsplit
  cases before <;> cases hsplit

theorem neverBad_cons (letter : Letter) (rest : List Letter) :
    NeverBad next bad first (letter :: rest) ↔
      bad first letter = false ∧ NeverBad next bad (next first letter) rest := by
  constructor
  · intro hrecord
    constructor
    · exact hrecord [] letter rest rfl
    · intro before other more hsplit
      apply hrecord (letter :: before) other more
      rw [hsplit, List.cons_append]
  · intro hboth before other more hsplit
    cases before with
    | nil =>
        rw [← (List.cons.inj hsplit).1]
        exact hboth.1
    | cons first' before =>
        obtain ⟨hfirst, hrest⟩ := List.cons.inj hsplit
        rw [← hfirst]
        exact hboth.2 before other more hrest

theorem neverBad_concat (record : List Letter) (letter : Letter) :
    NeverBad next bad first (record ++ [letter]) ↔
      NeverBad next bad first record ∧ bad (record.foldl next first) letter = false := by
  constructor
  · intro hrecord
    constructor
    · intro before other rest hsplit
      apply hrecord before other (rest ++ [letter])
      rw [hsplit, List.append_assoc, List.cons_append]
    · exact hrecord record letter [] rfl
  · intro hboth before other rest hsplit
    cases rest using List.reverseRecOn with
    | nil =>
        have hinj := List.append_inj' hsplit rfl
        rw [← hinj.1, ← (List.cons.inj hinj.2).1]
        exact hboth.2
    | append_singleton rest last =>
        rw [← List.cons_append, ← List.append_assoc] at hsplit
        exact hboth.1 before other rest (List.append_inj' hsplit rfl).1

/-- The pass sees what is to be seen, and tells whether no letter was bad. -/
theorem foldl_watchBad (record : List Letter) :
    (record.foldl (watchBad next bad) (first, true)).1 = record.foldl next first ∧
      ((record.foldl (watchBad next bad) (first, true)).2 = true ↔
        NeverBad next bad first record) := by
  induction record using List.reverseRecOn with
  | nil => exact ⟨rfl, fun _ => neverBad_nil next bad first, fun _ => rfl⟩
  | append_singleton record letter ih =>
      rw [neverBad_concat]
      simp only [List.foldl_append, List.foldl_cons, List.foldl_nil, watchBad]
      rw [ih.1]
      simp [ih.2]

end SimpleLinkHost.Monitor
