import Mathlib.Tactic.Common

/-!
# Locks in a trace

A call is seen as the list of actions it takes, some of which acquire or release
a lock.  `heldFrom` counts how often one lock is held after the actions; it is
undefined when the lock is released without being held.  A call is balanced for
a lock when it ends as it began and never releases what it does not hold.
-/

namespace SimpleLinkHost.LockTrace

inductive LockEvent (Lock : Type*)
  | acquire (lock : Lock)
  | release (lock : Lock)

variable {Lock Act : Type*} [DecidableEq Lock] (event : Act → Option (LockEvent Lock))

/-- How often `lock` is held after the actions. -/
def heldFrom (lock : Lock) : ℕ → List Act → Option ℕ
  | count, [] => some count
  | count, act :: rest =>
      match event act with
      | none => heldFrom lock count rest
      | some (.acquire other) =>
          heldFrom lock (if other = lock then count + 1 else count) rest
      | some (.release other) =>
          if other = lock then
            match count with
            | 0 => none
            | count + 1 => heldFrom lock count rest
          else heldFrom lock count rest

/-- The actions leave the lock as they found it, not held. -/
def Balanced (lock : Lock) (acts : List Act) : Prop :=
  heldFrom event lock 0 acts = some 0

instance (lock : Lock) (acts : List Act) : Decidable (Balanced event lock acts) :=
  inferInstanceAs (Decidable (_ = _))

variable {event} {lock other : Lock} {count : ℕ} {acts more : List Act} {act : Act}

@[simp]
theorem heldFrom_nil : heldFrom event lock count [] = some count := rfl

theorem heldFrom_append :
    heldFrom event lock count (acts ++ more) =
      (heldFrom event lock count acts).bind fun held => heldFrom event lock held more := by
  induction acts generalizing count with
  | nil => rfl
  | cons act rest ih =>
      cases hact : event act with
      | none => simp only [List.cons_append, heldFrom, hact, ih]
      | some found =>
          cases found with
          | acquire other => simp only [List.cons_append, heldFrom, hact, ih]
          | release other =>
              simp only [List.cons_append, heldFrom, hact]
              split
              · cases count with
                | zero => rfl
                | succ count => exact ih
              · exact ih

/-- One more hold from outside does not disturb the actions. -/
theorem heldFrom_succ {held : ℕ} (hheld : heldFrom event lock count acts = some held) :
    heldFrom event lock (count + 1) acts = some (held + 1) := by
  induction acts generalizing count with
  | nil =>
      rw [heldFrom_nil, Option.some.injEq] at hheld
      rw [heldFrom_nil, hheld]
  | cons act rest ih =>
      cases hact : event act with
      | none =>
          simp only [heldFrom, hact] at hheld ⊢
          exact ih hheld
      | some found =>
          cases found with
          | acquire other =>
              simp only [heldFrom, hact] at hheld ⊢
              split at hheld <;> rename_i hother <;> simp only [hother, if_true, if_false]
              · exact ih hheld
              · exact ih hheld
          | release other =>
              simp only [heldFrom, hact] at hheld ⊢
              split at hheld <;> rename_i hother <;> simp only [hother, if_true, if_false]
              · cases count with
                | zero => simp at hheld
                | succ count => exact ih hheld
              · exact ih hheld

/-- A balanced call leaves the lock as it found it, also when it is held. -/
theorem Balanced.heldFrom (hbalanced : Balanced event lock acts) (count : ℕ) :
    heldFrom event lock count acts = some count := by
  induction count with
  | zero => exact hbalanced
  | succ count ih => exact heldFrom_succ ih

theorem Balanced.append (hacts : Balanced event lock acts)
    (hmore : Balanced event lock more) : Balanced event lock (acts ++ more) := by
  rw [Balanced, heldFrom_append, hacts]
  exact hmore

end SimpleLinkHost.LockTrace
