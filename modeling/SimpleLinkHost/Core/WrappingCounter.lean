import Mathlib.Tactic.Common
import Mathlib.Tactic.Ring

/-!
# Readings of a counter that wraps around

A counter that goes from zero to `top` and starts again is read at two times.  The
difference of the readings, corrected by `top` where the second one is smaller, is never
more than the time between them, and it falls short of it by the number of wraps as long
as less than a whole period lies between.
-/

namespace SimpleLinkHost.WrappingCounter

variable (top : ℕ)

/-- What the counter shows at a time. -/
def reading (time : ℕ) : ℕ := time % (top + 1)

/-- How often it has wrapped around by then. -/
def wraps (time : ℕ) : ℕ := time / (top + 1)

/-- The difference of two readings. -/
def apparent (earlier later : ℕ) : ℕ :=
  if earlier ≤ later then later - earlier else top - earlier + later

variable {before now : ℕ}

theorem reading_le (time : ℕ) : reading top time ≤ top :=
  Nat.le_of_lt_succ (Nat.mod_lt _ (Nat.succ_pos _))

theorem period_mul_wraps_add_reading (time : ℕ) :
    (top + 1) * wraps top time + reading top time = time := Nat.div_add_mod _ _

theorem wraps_mono (hle : before ≤ now) : wraps top before ≤ wraps top now :=
  Nat.div_le_div_right hle

/-- The time between two readings in whole periods. -/
theorem exists_periods (hle : before ≤ now) :
    ∃ periods, wraps top now = wraps top before + periods ∧
      now + reading top before = before + (top + 1) * periods + reading top now := by
  obtain ⟨periods, hperiods⟩ := Nat.exists_eq_add_of_le (wraps_mono top hle)
  refine ⟨periods, hperiods, ?_⟩
  have hbefore := period_mul_wraps_add_reading top before
  have hnow := period_mul_wraps_add_reading top now
  rw [hperiods, Nat.mul_add] at hnow
  omega

theorem apparent_le (hle : before ≤ now) :
    apparent top (reading top before) (reading top now) ≤ now - before := by
  obtain ⟨periods, -, htime⟩ := exists_periods top hle
  have hbefore := reading_le top before
  rw [apparent]
  cases periods with
  | zero =>
      rw [Nat.mul_zero] at htime
      split <;> omega
  | succ periods =>
      rw [Nat.mul_succ] at htime
      split <;> omega

/-- Within a period the difference misses one tick for a wrap. -/
theorem apparent_add_wraps (hle : before ≤ now) (hclose : now - before ≤ top) :
    apparent top (reading top before) (reading top now) + wraps top now =
      now - before + wraps top before := by
  obtain ⟨periods, hperiods, htime⟩ := exists_periods top hle
  have hbefore := reading_le top before
  have hnow := reading_le top now
  rw [hperiods]
  rw [apparent]
  match periods with
  | 0 =>
      rw [Nat.mul_zero] at htime
      split <;> omega
  | 1 =>
      rw [Nat.mul_one] at htime
      split <;> omega
  | more + 2 =>
      have hmore : (top + 1) * (more + 2) = (top + 1) * more + 2 * (top + 1) := by ring
      rw [hmore] at htime
      omega

end SimpleLinkHost.WrappingCounter
