import SimpleLinkHost.Core.Transition
import SimpleLinkHost.Core.WrappingCounter
import Mathlib.Algebra.Order.Ring.Int
import Mathlib.Tactic.Linarith

/-!
# Timeouts

`_SlDrvIsTimeoutExpired` counts the elapsed time down in units of ten milliseconds, from
the timestamps at which it is polled; what does not fill a unit is carried over to the next
poll.  The reference timestamp moves only when more than a unit has passed.
-/

namespace SimpleLinkHost.Timeout

open Transition WrappingCounter

section System

/-- The constants of the timestamp counter. -/
structure TimestampConfig where
  slTimestampMaxValue : BitVec 32
  slTimestampTicksIn10Milliseconds : BitVec 32

/-- `_SlTimeoutParams_t`; `Total10MSecUnits` is signed. -/
structure TimeoutParams where
  total10MSecUnits : BitVec 32
  tsPrev : BitVec 32
  tsCurr : BitVec 32
  deltaTicks : BitVec 32
  deltaTicksReminder : BitVec 32

variable (cfg : TimestampConfig)

/-- `_SlDrvStartMeasureTimeout` -/
def slDrvStartMeasureTimeout (timestamp timeoutInMsec : BitVec 32) : TimeoutParams where
  total10MSecUnits := timeoutInMsec / 10
  tsPrev := timestamp
  tsCurr := 0
  deltaTicks := 0
  deltaTicksReminder := 0

/-- `DeltaTicks`, with the correction for a wrap. -/
def deltaTicksOf (tsPrev tsCurr : BitVec 32) : BitVec 32 :=
  if tsPrev ≤ tsCurr then tsCurr - tsPrev else (cfg.slTimestampMaxValue - tsPrev) + tsCurr

/-- `TSCount` -/
def tsCountOf (timestamp : BitVec 32) (timeout : TimeoutParams) : BitVec 32 :=
  timeout.deltaTicksReminder + deltaTicksOf cfg timeout.tsPrev timestamp

/-- `_SlDrvIsTimeoutExpired` -/
def slDrvIsTimeoutExpired (timestamp : BitVec 32) (timeout : TimeoutParams) :
    Bool × TimeoutParams :=
  let read := { timeout with
    tsCurr := timestamp
    deltaTicks := deltaTicksOf cfg timeout.tsPrev timestamp }
  let tsCount := tsCountOf cfg timestamp timeout
  if cfg.slTimestampTicksIn10Milliseconds < tsCount then
    let counted := { read with
      total10MSecUnits :=
        timeout.total10MSecUnits - tsCount / cfg.slTimestampTicksIn10Milliseconds
      deltaTicksReminder := tsCount % cfg.slTimestampTicksIn10Milliseconds }
    if 0 < counted.total10MSecUnits.toInt then (false, { counted with tsPrev := timestamp })
    else (true, counted)
  else (false, read)

/-- A timeout and the time in ticks, which no step reads but through the counter. -/
structure TimeoutSys where
  timeout : TimeoutParams
  expired : Bool
  now : ℕ
  /-- The time at which `TSPrev` was read, while the timeout runs. -/
  prevTime : ℕ

/-- What `slcb_GetTimestamp` returns. -/
def timestamp (time : ℕ) : BitVec 32 :=
  BitVec.ofNat 32 (reading cfg.slTimestampMaxValue.toNat time)

def started (start : ℕ) (timeoutInMsec : BitVec 32) : TimeoutSys where
  timeout := slDrvStartMeasureTimeout (timestamp cfg start) timeoutInMsec
  expired := false
  now := start
  prevTime := start

/-- A poll so many ticks after the last one; the first TRUE is the end. -/
def step (s : TimeoutSys) (ticks : ℕ) : Option TimeoutSys :=
  if s.expired then none
  else
    let polled := slDrvIsTimeoutExpired cfg (timestamp cfg (s.now + ticks)) s.timeout
    some
      { timeout := polled.2
        expired := polled.1
        now := s.now + ticks
        prevTime :=
          if cfg.slTimestampTicksIn10Milliseconds <
              tsCountOf cfg (timestamp cfg (s.now + ticks)) s.timeout then s.now + ticks
          else s.prevTime }

end System

section Property

variable (cfg : TimestampConfig)

/-- `max(N,1) * K` -/
def ticksOf (timeoutInMsec : BitVec 32) : ℕ :=
  max (timeoutInMsec.toNat / 10) 1 * cfg.slTimestampTicksIn10Milliseconds.toNat

/-- The wraps since the start. -/
def wrapsSince (start now : ℕ) : ℕ :=
  wraps cfg.slTimestampMaxValue.toNat now - wraps cfg.slTimestampMaxValue.toNat start

/-- A timeout that has expired has not done so too early. -/
def NotEarly (start : ℕ) (timeoutInMsec : BitVec 32) (s : TimeoutSys) : Prop :=
  s.expired = true → ticksOf cfg timeoutInMsec ≤ s.now - start

/-- A timeout that has not expired is not late. -/
def NotLate (start : ℕ) (timeoutInMsec : BitVec 32) (s : TimeoutSys) : Prop :=
  s.expired = false →
    s.now - start ≤ ticksOf cfg timeoutInMsec + wrapsSince cfg start s.now

/-- `DeltaTicks` and the remainder are added without overflow. -/
def NoOverflow (s : TimeoutSys) (ticks : ℕ) : Prop :=
  s.timeout.deltaTicksReminder.toNat +
    (deltaTicksOf cfg s.timeout.tsPrev (timestamp cfg (s.now + ticks))).toNat < 2 ^ 32

/-- The counter wraps around at most once between two polls. -/
def OneWrap (s : TimeoutSys) (ticks : ℕ) : Prop :=
  wraps cfg.slTimestampMaxValue.toNat (s.now + ticks) ≤
    wraps cfg.slTimestampMaxValue.toNat s.now + 1

/-- Less than a whole period of the counter has passed since `TSPrev` was read. -/
def WithinPeriod (s : TimeoutSys) (ticks : ℕ) : Prop :=
  s.now + ticks - s.prevTime ≤ cfg.slTimestampMaxValue.toNat

/-- The units that have passed can be subtracted from `Total10MSecUnits`. -/
def UnitsFit (s : TimeoutSys) (ticks : ℕ) : Prop :=
  -2 ^ 31 ≤ s.timeout.total10MSecUnits.toInt -
    (tsCountOf cfg (timestamp cfg (s.now + ticks)) s.timeout).toNat /
      cfg.slTimestampTicksIn10Milliseconds.toNat

instance (start : ℕ) (timeoutInMsec : BitVec 32) (s : TimeoutSys) :
    Decidable (NotLate cfg start timeoutInMsec s) :=
  inferInstanceAs (Decidable (_ → _ ≤ _))

instance (s : TimeoutSys) (ticks : ℕ) : Decidable (NoOverflow cfg s ticks) :=
  inferInstanceAs (Decidable (_ < _))

instance (s : TimeoutSys) (ticks : ℕ) : Decidable (OneWrap cfg s ticks) :=
  inferInstanceAs (Decidable (_ ≤ _))

instance (s : TimeoutSys) (ticks : ℕ) : Decidable (WithinPeriod cfg s ticks) :=
  inferInstanceAs (Decidable (_ ≤ _))

instance (s : TimeoutSys) (ticks : ℕ) : Decidable (UnitsFit cfg s ticks) :=
  inferInstanceAs (Decidable (_ ≤ _))

/-- The polls that come in time for the counter. -/
structure InTime (s : TimeoutSys) (ticks : ℕ) : Prop where
  withinPeriod : WithinPeriod cfg s ticks
  noOverflow : NoOverflow cfg s ticks
  unitsFit : UnitsFit cfg s ticks

theorem inTime_iff (s : TimeoutSys) (ticks : ℕ) :
    InTime cfg s ticks ↔
      WithinPeriod cfg s ticks ∧ NoOverflow cfg s ticks ∧ UnitsFit cfg s ticks :=
  ⟨fun htime => ⟨htime.withinPeriod, htime.noOverflow, htime.unitsFit⟩,
    fun hall => ⟨hall.1, hall.2.1, hall.2.2⟩⟩

instance (s : TimeoutSys) (ticks : ℕ) : Decidable (InTime cfg s ticks) :=
  decidable_of_iff' _ (inTime_iff cfg s ticks)

end Property

section Ticks

variable {cfg : TimestampConfig} {before now : ℕ}

theorem toNat_timestamp (cfg : TimestampConfig) (time : ℕ) :
    (timestamp cfg time).toNat = reading cfg.slTimestampMaxValue.toNat time := by
  rw [timestamp, BitVec.toNat_ofNat]
  have hle := reading_le cfg.slTimestampMaxValue.toNat time
  exact Nat.mod_eq_of_lt (hle.trans_lt cfg.slTimestampMaxValue.isLt)

/-- The difference of two timestamps is computed without overflow. -/
theorem toNat_deltaTicksOf (before now : ℕ) :
    (deltaTicksOf cfg (timestamp cfg before) (timestamp cfg now)).toNat =
      apparent cfg.slTimestampMaxValue.toNat (reading cfg.slTimestampMaxValue.toNat before)
        (reading cfg.slTimestampMaxValue.toNat now) := by
  have hbefore := toNat_timestamp cfg before
  have hnow := toNat_timestamp cfg now
  have hle := reading_le cfg.slTimestampMaxValue.toNat before
  rw [← hbefore] at hle
  have htop := cfg.slTimestampMaxValue.isLt
  rw [deltaTicksOf, apparent, ← hbefore, ← hnow]
  by_cases hforward : timestamp cfg before ≤ timestamp cfg now
  · rw [if_pos hforward, if_pos (BitVec.le_def.mp hforward)]
    exact BitVec.toNat_sub_of_le hforward
  · have hwrapped := mt BitVec.le_def.mpr hforward
    rw [if_neg hforward, if_neg hwrapped, BitVec.toNat_add,
      BitVec.toNat_sub_of_le (BitVec.le_def.mpr hle)]
    exact Nat.mod_eq_of_lt (by omega)

/-- A signed subtraction that wraps around does so upwards. -/
theorem toInt_sub_cases {total units : BitVec 32} (htotal : 0 ≤ total.toInt) :
    (total - units).toInt = total.toInt - units.toNat ∨
      total.toInt - units.toNat < -2 ^ 31 ∧ 0 < (total - units).toInt := by
  have hunits := units.isLt
  have hlt := total.isLt
  rw [BitVec.toInt_eq_toNat_cond] at htotal
  rw [BitVec.toInt_eq_toNat_cond, BitVec.toInt_eq_toNat_cond, BitVec.toNat_sub]
  split_ifs at htotal ⊢ <;> omega

end Ticks

section Poll

variable {cfg : TimestampConfig} {s s' : TimeoutSys} {ticks : ℕ}

/-- `TSCount` of the next poll. -/
def nextCount (cfg : TimestampConfig) (s : TimeoutSys) (ticks : ℕ) : ℕ :=
  (tsCountOf cfg (timestamp cfg (s.now + ticks)) s.timeout).toNat

/-- What is left of `Total10MSecUnits` after the next poll, if it is reduced. -/
def nextTotal (cfg : TimestampConfig) (s : TimeoutSys) (ticks : ℕ) : ℤ :=
  (s.timeout.total10MSecUnits - tsCountOf cfg (timestamp cfg (s.now + ticks)) s.timeout /
    cfg.slTimestampTicksIn10Milliseconds).toInt

/-- The three ends of a poll: nothing is counted, the reference moves, or the timeout has
expired. -/
theorem step_cases (hstep : step cfg s ticks = some s') :
    s.expired = false ∧ s'.now = s.now + ticks ∧
      (nextCount cfg s ticks ≤ cfg.slTimestampTicksIn10Milliseconds.toNat ∧
          s'.expired = false ∧ s'.prevTime = s.prevTime ∧
          s'.timeout.tsPrev = s.timeout.tsPrev ∧
          s'.timeout.total10MSecUnits = s.timeout.total10MSecUnits ∧
          s'.timeout.deltaTicksReminder = s.timeout.deltaTicksReminder ∨
        cfg.slTimestampTicksIn10Milliseconds.toNat < nextCount cfg s ticks ∧
          0 < nextTotal cfg s ticks ∧ s'.expired = false ∧ s'.prevTime = s'.now ∧
          s'.timeout.tsPrev = timestamp cfg s'.now ∧
          s'.timeout.total10MSecUnits.toInt = nextTotal cfg s ticks ∧
          s'.timeout.deltaTicksReminder.toNat =
            nextCount cfg s ticks % cfg.slTimestampTicksIn10Milliseconds.toNat ∨
        cfg.slTimestampTicksIn10Milliseconds.toNat < nextCount cfg s ticks ∧
          nextTotal cfg s ticks ≤ 0 ∧ s'.expired = true) := by
  rw [step, Option.ite_none_left_eq_some, Option.some.injEq] at hstep
  obtain ⟨hexpired, rfl⟩ := hstep
  refine ⟨Bool.eq_false_of_not_eq_true hexpired, rfl, ?_⟩
  rw [slDrvIsTimeoutExpired]
  by_cases hcount : cfg.slTimestampTicksIn10Milliseconds <
      tsCountOf cfg (timestamp cfg (s.now + ticks)) s.timeout
  · have hlt : cfg.slTimestampTicksIn10Milliseconds.toNat < nextCount cfg s ticks :=
      BitVec.lt_def.mp hcount
    right
    simp only [if_pos hcount]
    by_cases hleft : 0 < nextTotal cfg s ticks
    · left
      refine ⟨hlt, hleft, ?_⟩
      rw [nextTotal] at hleft ⊢
      rw [if_pos hleft]
      exact ⟨rfl, trivial, rfl, rfl, BitVec.toNat_umod⟩
    · right
      refine ⟨hlt, Int.not_lt.mp hleft, ?_⟩
      rw [nextTotal] at hleft
      rw [if_neg hleft]
  · left
    simp only [if_neg hcount]
    exact ⟨Nat.le_of_not_lt (mt BitVec.lt_def.mpr hcount), trivial, trivial, trivial, trivial,
      trivial⟩

theorem toNat_tsCount_div :
    (tsCountOf cfg (timestamp cfg (s.now + ticks)) s.timeout /
      cfg.slTimestampTicksIn10Milliseconds).toNat =
      nextCount cfg s ticks / cfg.slTimestampTicksIn10Milliseconds.toNat := BitVec.toNat_udiv

end Poll

section Early

variable {cfg : TimestampConfig} {start : ℕ} {timeoutInMsec : BitVec 32} {s s' : TimeoutSys}
  {ticks : ℕ}

/-- What a running timeout has counted: no more than what has passed. -/
structure Running (cfg : TimestampConfig) (start : ℕ) (timeoutInMsec : BitVec 32)
    (s : TimeoutSys) : Prop where
  start_le : start ≤ s.prevTime
  prevTime_le : s.prevTime ≤ s.now
  tsPrev : s.timeout.tsPrev = timestamp cfg s.prevTime
  total_nonneg : 0 ≤ s.timeout.total10MSecUnits.toInt
  reminder_le : s.timeout.deltaTicksReminder.toNat ≤ s.prevTime - start
  counted_le : ((timeoutInMsec.toNat / 10 : ℕ) - s.timeout.total10MSecUnits.toInt) *
      cfg.slTimestampTicksIn10Milliseconds.toNat + s.timeout.deltaTicksReminder.toNat ≤
    ((s.prevTime - start : ℕ) : ℤ)

theorem toInt_total (timestamp timeoutInMsec : BitVec 32) :
    (slDrvStartMeasureTimeout timestamp timeoutInMsec).total10MSecUnits.toInt =
      (timeoutInMsec.toNat / 10 : ℕ) := by
  have hlt := timeoutInMsec.isLt
  have hdiv : (timeoutInMsec / 10).toNat = timeoutInMsec.toNat / 10 := BitVec.toNat_udiv
  rw [slDrvStartMeasureTimeout, BitVec.toInt_eq_toNat_cond, hdiv, if_pos (by omega)]

theorem running_started (cfg : TimestampConfig) (start : ℕ) (timeoutInMsec : BitVec 32) :
    Running cfg start timeoutInMsec (started cfg start timeoutInMsec) where
  start_le := le_rfl
  prevTime_le := le_rfl
  tsPrev := rfl
  total_nonneg := by
    rw [started, toInt_total]
    exact Int.natCast_nonneg _
  reminder_le := Nat.zero_le _
  counted_le := by
    rw [started, toInt_total]
    simp [slDrvStartMeasureTimeout]

/-- The next poll counts at most what has passed by then. -/
theorem Running.nextCount_le (hrunning : Running cfg start timeoutInMsec s) (ticks : ℕ) :
    nextCount cfg s ticks ≤
      s.timeout.deltaTicksReminder.toNat + (s.now + ticks - s.prevTime) := by
  have hle : s.prevTime ≤ s.now + ticks := hrunning.prevTime_le.trans (Nat.le_add_right _ _)
  have happarent := apparent_le cfg.slTimestampMaxValue.toNat hle
  rw [nextCount, tsCountOf, BitVec.toNat_add, hrunning.tsPrev, toNat_deltaTicksOf]
  exact (Nat.mod_le _ _).trans (Nat.add_le_add_left happarent _)

/-- Units and remainder make up what was counted. -/
theorem units_add_reminder (count unit : ℕ) (total : ℤ) :
    (total + (count / unit : ℕ)) * unit + (count % unit : ℕ) = total * unit + count := by
  have hdiv : (count : ℤ) = unit * (count / unit : ℕ) + (count % unit : ℕ) := by
    exact_mod_cast (Nat.div_add_mod count unit).symm
  rw [add_mul, hdiv]
  push_cast
  ring

theorem Running.nextTotal_cases (hrunning : Running cfg start timeoutInMsec s) (ticks : ℕ) :
    nextTotal cfg s ticks = s.timeout.total10MSecUnits.toInt -
        (nextCount cfg s ticks / cfg.slTimestampTicksIn10Milliseconds.toNat : ℕ) ∨
      s.timeout.total10MSecUnits.toInt -
        (nextCount cfg s ticks / cfg.slTimestampTicksIn10Milliseconds.toNat : ℕ) < -2 ^ 31 ∧
        0 < nextTotal cfg s ticks := by
  rw [← toNat_tsCount_div]
  exact toInt_sub_cases hrunning.total_nonneg

/-- What the next poll will have counted is no more than what has passed by then. -/
theorem Running.counted_next (hrunning : Running cfg start timeoutInMsec s) (ticks : ℕ) :
    ((timeoutInMsec.toNat / 10 : ℕ) - nextTotal cfg s ticks) *
        cfg.slTimestampTicksIn10Milliseconds.toNat +
      (nextCount cfg s ticks % cfg.slTimestampTicksIn10Milliseconds.toNat : ℕ) ≤
    ((s.now + ticks - start : ℕ) : ℤ) := by
  have hcount := hrunning.nextCount_le ticks
  have hcounted := hrunning.counted_le
  have hstart := hrunning.start_le
  have hprev := hrunning.prevTime_le
  have hunits := units_add_reminder (nextCount cfg s ticks)
    cfg.slTimestampTicksIn10Milliseconds.toNat
    ((timeoutInMsec.toNat / 10 : ℕ) - s.timeout.total10MSecUnits.toInt)
  have htotal : s.timeout.total10MSecUnits.toInt -
      (nextCount cfg s ticks / cfg.slTimestampTicksIn10Milliseconds.toNat : ℕ) ≤
        nextTotal cfg s ticks := by
    rcases hrunning.nextTotal_cases ticks with heq | ⟨hbelow, hpositive⟩
    · exact heq.ge
    · omega
  have hscaled := mul_le_mul_of_nonneg_right
    (sub_le_sub_left htotal (timeoutInMsec.toNat / 10 : ℕ))
    (Int.natCast_nonneg cfg.slTimestampTicksIn10Milliseconds.toNat)
  rw [sub_sub_eq_add_sub, add_sub_right_comm] at hscaled
  omega

theorem Running.poll (hrunning : Running cfg start timeoutInMsec s)
    (hstep : step cfg s ticks = some s') (hgoes : s'.expired = false) :
    Running cfg start timeoutInMsec s' := by
  have hcount := hrunning.nextCount_le ticks
  have hstart := hrunning.start_le
  have hprev := hrunning.prevTime_le
  have hreminder := hrunning.reminder_le
  obtain ⟨-, hnow, hstill | hmoved | hends⟩ := step_cases hstep
  · obtain ⟨-, -, hprevTime, htsPrev, htotal, hrest⟩ := hstill
    constructor
    case start_le => omega
    case prevTime_le => omega
    case tsPrev => rw [htsPrev, hprevTime, hrunning.tsPrev]
    case total_nonneg =>
      rw [htotal]
      exact hrunning.total_nonneg
    case reminder_le => rwa [hrest, hprevTime]
    case counted_le =>
      rw [htotal, hrest, hprevTime]
      exact hrunning.counted_le
  · obtain ⟨hlt, hpositive, -, hprevTime, htsPrev, htotal, hrest⟩ := hmoved
    constructor
    case start_le => omega
    case prevTime_le => omega
    case tsPrev => rw [htsPrev, hprevTime]
    case total_nonneg =>
      rw [htotal]
      exact hpositive.le
    case reminder_le =>
      have hmod := Nat.mod_le (nextCount cfg s ticks) cfg.slTimestampTicksIn10Milliseconds.toNat
      omega
    case counted_le =>
      rw [htotal, hrest, hprevTime, hnow]
      exact hrunning.counted_next ticks
  · rw [hends.2.2] at hgoes
    cases hgoes

/-- A poll that returns TRUE comes late enough. -/
theorem Running.notEarly (hrunning : Running cfg start timeoutInMsec s)
    (hstep : step cfg s ticks = some s') : NotEarly cfg start timeoutInMsec s' := by
  intro hexpired
  obtain ⟨-, hnow, hstill | hmoved | ⟨hlt, hnonpos, -⟩⟩ := step_cases hstep
  · rw [hstill.2.1] at hexpired
    cases hexpired
  · rw [hmoved.2.2.1] at hexpired
    cases hexpired
  · have hcount := hrunning.nextCount_le ticks
    have hreminder := hrunning.reminder_le
    have hstart := hrunning.start_le
    have hprev := hrunning.prevTime_le
    have hcounted := hrunning.counted_next ticks
    have hscaled := mul_le_mul_of_nonneg_right
      (sub_le_sub_left hnonpos (timeoutInMsec.toNat / 10 : ℕ))
      (Int.natCast_nonneg cfg.slTimestampTicksIn10Milliseconds.toNat)
    rw [ticksOf, hnow, ← Nat.mul_max_mul_right]
    apply max_le
    · rw [sub_zero] at hscaled
      rw [← Int.ofNat_le, Int.natCast_mul]
      omega
    · omega

end Early

section Late

variable {cfg : TimestampConfig} {start : ℕ} {timeoutInMsec : BitVec 32} {s s' : TimeoutSys}
  {ticks : ℕ}

/-- What a running timeout has counted, up to the wraps of the counter. -/
structure Exact (cfg : TimestampConfig) (start : ℕ) (timeoutInMsec : BitVec 32)
    (s : TimeoutSys) : Prop where
  counted : ((timeoutInMsec.toNat / 10 : ℕ) - s.timeout.total10MSecUnits.toInt) *
      cfg.slTimestampTicksIn10Milliseconds.toNat + s.timeout.deltaTicksReminder.toNat +
      wrapsSince cfg start s.prevTime = ((s.prevTime - start : ℕ) : ℤ)
  unit_left : 0 < s.timeout.total10MSecUnits.toInt ∨
    s.timeout.total10MSecUnits.toInt = 0 ∧ timeoutInMsec.toNat / 10 = 0

theorem exact_started (cfg : TimestampConfig) (start : ℕ) (timeoutInMsec : BitVec 32) :
    Exact cfg start timeoutInMsec (started cfg start timeoutInMsec) where
  counted := by
    rw [started, toInt_total]
    simp [slDrvStartMeasureTimeout, wrapsSince]
  unit_left := by
    rw [started, toInt_total]
    omega

/-- The units fit as soon as ten milliseconds are two ticks. -/
theorem Running.unitsFit_of_two_le (hrunning : Running cfg start timeoutInMsec s)
    (hunit : 2 ≤ cfg.slTimestampTicksIn10Milliseconds.toNat) (ticks : ℕ) :
    UnitsFit cfg s ticks := by
  have hnonneg := hrunning.total_nonneg
  have hlt := (tsCountOf cfg (timestamp cfg (s.now + ticks)) s.timeout).isLt
  have hhalf := Nat.div_le_div_left
    (a := (tsCountOf cfg (timestamp cfg (s.now + ticks)) s.timeout).toNat) hunit (by decide)
  rw [UnitsFit, ← Int.natCast_ediv]
  omega

/-- A poll in time counts what has passed, but for the wraps. -/
theorem Running.nextCount_add_wraps (hrunning : Running cfg start timeoutInMsec s)
    (htime : InTime cfg s ticks) :
    nextCount cfg s ticks + wraps cfg.slTimestampMaxValue.toNat (s.now + ticks) =
      s.timeout.deltaTicksReminder.toNat + (s.now + ticks - s.prevTime) +
        wraps cfg.slTimestampMaxValue.toNat s.prevTime := by
  have hle : s.prevTime ≤ s.now + ticks := hrunning.prevTime_le.trans (Nat.le_add_right _ _)
  have happarent := apparent_add_wraps _ hle htime.withinPeriod
  have hfits := htime.noOverflow
  rw [NoOverflow] at hfits
  rw [nextCount, tsCountOf, BitVec.toNat_add, Nat.mod_eq_of_lt hfits, hrunning.tsPrev,
    toNat_deltaTicksOf]
  omega

theorem Running.nextTotal_eq (hrunning : Running cfg start timeoutInMsec s)
    (htime : InTime cfg s ticks) :
    nextTotal cfg s ticks = s.timeout.total10MSecUnits.toInt -
      (nextCount cfg s ticks / cfg.slTimestampTicksIn10Milliseconds.toNat : ℕ) := by
  have hfits := htime.unitsFit
  rw [UnitsFit, ← Int.natCast_ediv] at hfits
  rcases hrunning.nextTotal_cases ticks with heq | ⟨hbelow, -⟩
  · exact heq
  · rw [nextCount] at hbelow
    omega

/-- What has passed by the next poll, in what was counted so far and what it counts. -/
theorem Exact.elapsed_next (hexact : Exact cfg start timeoutInMsec s)
    (hrunning : Running cfg start timeoutInMsec s) (htime : InTime cfg s ticks) :
    ((timeoutInMsec.toNat / 10 : ℕ) - s.timeout.total10MSecUnits.toInt) *
        cfg.slTimestampTicksIn10Milliseconds.toNat + nextCount cfg s ticks +
      wrapsSince cfg start (s.now + ticks) = ((s.now + ticks - start : ℕ) : ℤ) := by
  have hcount := hrunning.nextCount_add_wraps htime
  have hcounted := hexact.counted
  have hstart := hrunning.start_le
  have hprev := hrunning.prevTime_le
  have hbefore := wraps_mono cfg.slTimestampMaxValue.toNat hstart
  have hsince := wraps_mono cfg.slTimestampMaxValue.toNat
    (hprev.trans (Nat.le_add_right s.now ticks))
  rw [wrapsSince] at hcounted ⊢
  omega

/-- The units and the remainder that a poll in time leaves make up what has passed. -/
theorem Exact.counted_next (hexact : Exact cfg start timeoutInMsec s)
    (hrunning : Running cfg start timeoutInMsec s) (htime : InTime cfg s ticks) :
    ((timeoutInMsec.toNat / 10 : ℕ) - nextTotal cfg s ticks) *
        cfg.slTimestampTicksIn10Milliseconds.toNat +
      (nextCount cfg s ticks % cfg.slTimestampTicksIn10Milliseconds.toNat : ℕ) +
      wrapsSince cfg start (s.now + ticks) = ((s.now + ticks - start : ℕ) : ℤ) := by
  have hunits := units_add_reminder (nextCount cfg s ticks)
    cfg.slTimestampTicksIn10Milliseconds.toNat
    ((timeoutInMsec.toNat / 10 : ℕ) - s.timeout.total10MSecUnits.toInt)
  rw [hrunning.nextTotal_eq htime, sub_sub_eq_add_sub, add_sub_right_comm, hunits]
  exact hexact.elapsed_next hrunning htime

theorem Exact.poll (hexact : Exact cfg start timeoutInMsec s)
    (hrunning : Running cfg start timeoutInMsec s) (htime : InTime cfg s ticks)
    (hstep : step cfg s ticks = some s') (hgoes : s'.expired = false) :
    Exact cfg start timeoutInMsec s' := by
  obtain ⟨-, hnow, hstill | hmoved | hends⟩ := step_cases hstep
  · obtain ⟨-, -, hprevTime, -, htotal, hrest⟩ := hstill
    constructor
    case counted =>
      rw [htotal, hrest, hprevTime]
      exact hexact.counted
    case unit_left =>
      rw [htotal]
      exact hexact.unit_left
  · obtain ⟨-, hpositive, -, hprevTime, -, htotal, hrest⟩ := hmoved
    constructor
    case counted =>
      rw [htotal, hrest, hprevTime, hnow]
      exact hexact.counted_next hrunning htime
    case unit_left =>
      rw [htotal]
      exact Or.inl hpositive
  · rw [hends.2.2] at hgoes
    cases hgoes

/-- A poll in time that returns FALSE is not late. -/
theorem Exact.notLate (hunit : 0 < cfg.slTimestampTicksIn10Milliseconds.toNat)
    (hexact : Exact cfg start timeoutInMsec s) (hrunning : Running cfg start timeoutInMsec s)
    (htime : InTime cfg s ticks) (hstep : step cfg s ticks = some s') :
    NotLate cfg start timeoutInMsec s' := by
  intro hgoes
  obtain ⟨-, hnow, hstill | hmoved | hends⟩ := step_cases hstep
  · have helapsed := hexact.elapsed_next hrunning htime
    have hunits : (timeoutInMsec.toNat / 10 : ℕ) - s.timeout.total10MSecUnits.toInt + 1 ≤
        (max (timeoutInMsec.toNat / 10) 1 : ℕ) := by
      rcases hexact.unit_left with hleft | ⟨hnone, hzero⟩ <;> omega
    have hscaled := mul_le_mul_of_nonneg_right hunits
      (Int.natCast_nonneg cfg.slTimestampTicksIn10Milliseconds.toNat)
    rw [add_mul, one_mul] at hscaled
    have hcount := hstill.1
    rw [ticksOf, hnow, ← Int.ofNat_le, Int.natCast_add, Int.natCast_mul]
    omega
  · have helapsed := hexact.counted_next hrunning htime
    have hmod := Nat.mod_lt (nextCount cfg s ticks) hunit
    have hunits : (timeoutInMsec.toNat / 10 : ℕ) - nextTotal cfg s ticks + 1 ≤
        (max (timeoutInMsec.toNat / 10) 1 : ℕ) := by
      have hpositive := hmoved.2.1
      omega
    have hscaled := mul_le_mul_of_nonneg_right hunits
      (Int.natCast_nonneg cfg.slTimestampTicksIn10Milliseconds.toNat)
    rw [add_mul, one_mul] at hscaled
    rw [ticksOf, hnow, ← Int.ofNat_le, Int.natCast_add, Int.natCast_mul]
    omega
  · rw [hends.2.2] at hgoes
    cases hgoes

end Late

section Run

variable {cfg : TimestampConfig} {start : ℕ} {timeoutInMsec : BitVec 32} {s s' : TimeoutSys}
  {ticks : ℕ} {polls : List ℕ}

/-- What every state of a run keeps. -/
structure Measured (cfg : TimestampConfig) (start : ℕ) (timeoutInMsec : BitVec 32)
    (s : TimeoutSys) : Prop where
  notEarly : NotEarly cfg start timeoutInMsec s
  running : s.expired = false → Running cfg start timeoutInMsec s

/-- What it keeps as well, as long as it is polled in time. -/
structure MeasuredInTime (cfg : TimestampConfig) (start : ℕ) (timeoutInMsec : BitVec 32)
    (s : TimeoutSys) : Prop where
  measured : Measured cfg start timeoutInMsec s
  notLate : NotLate cfg start timeoutInMsec s
  exact : s.expired = false → Exact cfg start timeoutInMsec s

theorem measured_started : Measured cfg start timeoutInMsec (started cfg start timeoutInMsec) where
  notEarly := by
    intro hexpired
    cases hexpired
  running := fun _ => running_started cfg start timeoutInMsec

theorem measuredInTime_started :
    MeasuredInTime cfg start timeoutInMsec (started cfg start timeoutInMsec) where
  measured := measured_started
  notLate := by
    intro _
    simp [started]
  exact := fun _ => exact_started cfg start timeoutInMsec

theorem Measured.step (hmeasured : Measured cfg start timeoutInMsec s)
    (hstep : step cfg s ticks = some s') : Measured cfg start timeoutInMsec s' := by
  have hrunning := hmeasured.running (step_cases hstep).1
  exact ⟨hrunning.notEarly hstep, hrunning.poll hstep⟩

theorem MeasuredInTime.step (hunit : 0 < cfg.slTimestampTicksIn10Milliseconds.toNat)
    (hmeasured : MeasuredInTime cfg start timeoutInMsec s) (htime : InTime cfg s ticks)
    (hstep : step cfg s ticks = some s') : MeasuredInTime cfg start timeoutInMsec s' := by
  have hgoes := (step_cases hstep).1
  have hrunning := hmeasured.measured.running hgoes
  have hexact := hmeasured.exact hgoes
  exact ⟨hmeasured.measured.step hstep, hexact.notLate hunit hrunning htime hstep,
    hexact.poll hrunning htime hstep⟩

theorem notEarly_always :
    StatesSatisfy (step cfg) (NotEarly cfg start timeoutInMsec)
      (started cfg start timeoutInMsec) polls := by
  intro before _ reached hreached
  have hmeasured : Measured cfg start timeoutInMsec reached :=
    run_invariant (fun _ _ _ hkept hstep => hkept.step hstep) measured_started hreached
  exact hmeasured.notEarly

theorem notLate_of_inTime (hunit : 0 < cfg.slTimestampTicksIn10Milliseconds.toNat)
    (htime : StepsSatisfy (step cfg) (InTime cfg) (started cfg start timeoutInMsec) polls) :
    StatesSatisfy (step cfg) (NotLate cfg start timeoutInMsec)
      (started cfg start timeoutInMsec) polls := by
  have hmeasured : StatesSatisfy (step cfg) (MeasuredInTime cfg start timeoutInMsec)
      (started cfg start timeoutInMsec) polls :=
    states_of_steps (fun _ _ _ hkept hpoll hstep => hkept.step hunit hpoll hstep)
      measuredInTime_started htime
  exact fun before hbefore reached hreached => (hmeasured before hbefore reached hreached).notLate

/-- However often a timeout is polled, it never expires too early, and it is never late where
the polls come in time for the counter. -/
theorem slDrvIsTimeoutExpired_measures (cfg : TimestampConfig) (start : ℕ)
    (timeoutInMsec : BitVec 32) (polls : List ℕ)
    (hunit : 0 < cfg.slTimestampTicksIn10Milliseconds.toNat) :
    StatesSatisfy (step cfg) (NotEarly cfg start timeoutInMsec)
        (started cfg start timeoutInMsec) polls ∧
      (StepsSatisfy (step cfg) (InTime cfg) (started cfg start timeoutInMsec) polls →
        StatesSatisfy (step cfg) (NotLate cfg start timeoutInMsec)
          (started cfg start timeoutInMsec) polls) :=
  ⟨notEarly_always, notLate_of_inTime hunit⟩

/-- A counter of 32 bits with ten ticks to ten milliseconds. -/
def tenTicks : TimestampConfig where
  slTimestampMaxValue := 0xFFFFFFFF
  slTimestampTicksIn10Milliseconds := 10

/-- A timeout that starts shortly before the counter wraps around. -/
theorem slDrvIsTimeoutExpired_measures_acrossWrap :
    StatesSatisfy (step tenTicks) (NotEarly tenTicks 4294967290 50)
        (started tenTicks 4294967290 50) [12, 30, 20] ∧
      StatesSatisfy (step tenTicks) (NotLate tenTicks 4294967290 50)
        (started tenTicks 4294967290 50) [12, 30, 20] := by
  have hboth := slDrvIsTimeoutExpired_measures tenTicks 4294967290 50 [12, 30, 20] (by decide)
  refine ⟨hboth.1, hboth.2 ?_⟩
  exact stepsSatisfy_of_check (fun s ticks => decide (InTime tenTicks s ticks))
    (fun _ _ => of_decide_eq_true) (by decide +kernel)

/-- A counter of 32 bits that counts the units themselves. -/
def oneTick : TimestampConfig where
  slTimestampMaxValue := 0xFFFFFFFF
  slTimestampTicksIn10Milliseconds := 1

/-- There is at most one wrap between the polls, no overflow, and yet a timeout that is
late. -/
def LateWithinOneWrap (cfg : TimestampConfig) (timeoutInMsec : BitVec 32) (polls : List ℕ) :
    Prop :=
  StepsSatisfy (step cfg) (fun s ticks => OneWrap cfg s ticks ∧ NoOverflow cfg s ticks)
      (started cfg 0 timeoutInMsec) polls ∧
    ¬StatesSatisfy (step cfg) (NotLate cfg 0 timeoutInMsec) (started cfg 0 timeoutInMsec) polls

theorem lateWithinOneWrap_of_checks {cfg : TimestampConfig} {timeoutInMsec : BitVec 32}
    {polls : List ℕ}
    (hpolls : stepsCheck (step cfg)
      (fun s ticks => decide (OneWrap cfg s ticks ∧ NoOverflow cfg s ticks))
      (started cfg 0 timeoutInMsec) polls = true)
    (hlate : (run (step cfg) (started cfg 0 timeoutInMsec) polls).any
      (fun s => decide (¬NotLate cfg 0 timeoutInMsec s)) = true) :
    LateWithinOneWrap cfg timeoutInMsec polls :=
  ⟨stepsSatisfy_of_check _ (fun _ _ => of_decide_eq_true) hpolls,
    not_statesSatisfy_of_any _ (fun _ => of_decide_eq_true) hlate⟩

/-- A whole period of the counter between two polls is one wrap, and goes unnoticed.  Without
any wrap, the units of 2 ^ 31 ticks are too many for `Total10MSecUnits`. -/
theorem late_longPolls :
    LateWithinOneWrap tenTicks 1000 [2 ^ 32 + 5] ∧
      LateWithinOneWrap oneTick 10 [2 ^ 31 + 5] := by
  constructor
  · exact lateWithinOneWrap_of_checks (by decide +kernel) (by decide +kernel)
  · exact lateWithinOneWrap_of_checks (by decide +kernel) (by decide +kernel)

end Run

end SimpleLinkHost.Timeout
