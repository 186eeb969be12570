import Mathlib.Algebra.GroupWithZero.Nat
import SimpleLinkHost.Core.Monitor
import SimpleLinkHost.WifiConn.WifiWatchdog

/-!
# The series of the idle periods

Consecutive idle periods are to double in length up to the configured maximum.  The
interval is doubled in 16 bits before it is compared with the maximum, so that a period of
2^15 seconds or more is followed by a shorter one.
-/

namespace SimpleLinkHost.WifiIdle

open CallOutcome ProgramInvariant ProgramScript Monitor WifiContext WifiApi WifiMachine WifiFrames
open WifiScripts WifiCalls WifiActs WifiRuns WifiWatchdog
open Transition (StatesSatisfy StepsSatisfy)

variable {env : WifiEnv} {s after : WifiState} {idleMin idleMax interval : BitVec 16}
variable {count : ℕ}

section Property

/-- The telescopic series with ratio of 2 between the two boundaries. -/
def idleLength (idleMin idleMax : BitVec 16) (period : ℕ) : ℕ :=
  min (idleMin.toNat * 2 ^ period) idleMax.toNat

/-- How many consecutive idle periods were started, and what the timer was set to last. -/
def idleAfter (seen : ℕ × ℕ) : Output → ℕ × ℕ
  | .timer seconds => (seen.1, seconds)
  | .entered .idle => (seen.1 + 1, seen.2)
  | .entered .connected | .processing .off .enable => (0, seen.2)
  | _ => seen

/-- A period is started with the timer set to something else than its length. -/
def armedOtherwise (idleMin idleMax : BitVec 16) (seen : ℕ × ℕ) : Output → Bool
  | .entered .idle => seen.2 ≠ idleLength idleMin idleMax seen.1
  | _ => false

/-- Each idle period was armed with its length in the series. -/
def IdleSeries (idleMin idleMax : BitVec 16) (s : WifiState) : Prop :=
  NeverBad idleAfter (armedOtherwise idleMin idleMax) (0, 0) s.outputs

/-- The consecutive idle periods since the last ENABLE from `OFF` or entry to `CONNECTED`. -/
def periods (s : WifiState) : ℕ := (s.outputs.foldl idleAfter (0, 0)).1

/-- The boundaries are the same in every configuration that is accepted. -/
def keepsIntervals (idleMin idleMax : BitVec 16) : Call → Prop
  | .free (.setConfiguration settings) => 30 ≤ settings.provisioningTimeout.toNat →
      settings.idleMinInterval = idleMin ∧ settings.idleMaxInterval = idleMax
  | _ => True

def AllKeep (idleMin idleMax : BitVec 16) : WifiAct → Prop
  | .call call => keepsIntervals idleMin idleMax call
  | .receive => True
  | .handle notified posting => AllAllowed (keepsIntervals idleMin idleMax) notified posting

/-- An idle period that follows another one follows one of under 2^15 seconds. -/
def FollowsShort (idleMin idleMax : BitVec 16) (s : WifiState) : WifiAct → Prop
  | .handle _ _ => ∀ event, s.received = some event → entersIdle s event = true →
      ∀ before, periods s = before + 1 → idleLength idleMin idleMax before < 2 ^ 15
  | _ => True

end Property

section Series

/-- What the timer is set to behind so many periods that were armed with their lengths. -/
def nextLength (idleMin idleMax : BitVec 16) : ℕ → ℕ
  | 0 => idleMin.toNat
  | before + 1 =>
      if idleMax.toNat < 2 * idleLength idleMin idleMax before % 2 ^ 16 then idleMax.toNat
      else 2 * idleLength idleMin idleMax before % 2 ^ 16

theorem idleLength_succ (period : ℕ) :
    idleLength idleMin idleMax (period + 1) =
      min (2 * idleLength idleMin idleMax period) idleMax.toNat := by
  rw [idleLength, idleLength, Nat.pow_succ, ← Nat.mul_assoc]
  omega

/-- The first period is the shortest. -/
theorem nextLength_zero (hle : idleMin ≤ idleMax) :
    nextLength idleMin idleMax 0 = idleLength idleMin idleMax 0 := by
  have hle' : idleMin.toNat ≤ idleMax.toNat := hle
  rw [nextLength, idleLength, Nat.pow_zero, Nat.mul_one, Nat.min_eq_left hle']

/-- Doubled in 16 bits, a length of 2^15 or more comes out under the maximum. -/
theorem nextLength_succ_iff (before : ℕ) :
    nextLength idleMin idleMax (before + 1) = idleLength idleMin idleMax (before + 1) ↔
      idleLength idleMin idleMax before < 2 ^ 15 := by
  have hmax : idleMax.toNat < 2 ^ 16 := idleMax.isLt
  have hle : idleLength idleMin idleMax before ≤ idleMax.toNat := Nat.min_le_right _ _
  rw [idleLength_succ, nextLength]
  split <;> omega

theorem idleDoubled_toNat (hinterval : interval.toNat = idleLength idleMin idleMax count) :
    (if idleMax.toNat < (interval * 2).toNat then idleMax else interval * 2).toNat =
      nextLength idleMin idleMax (count + 1) := by
  have hdoubled : (interval * 2).toNat = 2 * idleLength idleMin idleMax count % 2 ^ 16 := by
    rw [BitVec.toNat_mul, hinterval, Nat.mul_comm]
    rfl
  rw [nextLength, ← hdoubled]
  split <;> rfl

end Series

section Record

/-- What is heard of the idle periods. -/
def ofIdle : Output → Bool
  | .timer _ | .processing _ _ | .entered _ => true
  | _ => false

/-- The pass over the record. -/
def seriesSeen (idleMin idleMax : BitVec 16) (s : WifiState) : (ℕ × ℕ) × Bool :=
  s.outputs.foldl (watchBad idleAfter (armedOtherwise idleMin idleMax)) ((0, 0), true)

theorem seriesSeen_eq (s : WifiState) :
    seriesSeen idleMin idleMax s = (s.outputs.filter ofIdle).foldl
      (watchBad idleAfter (armedOtherwise idleMin idleMax)) ((0, 0), true) := by
  rw [seriesSeen, List.foldl_filter]
  congr 1
  funext seen output
  cases output <;> simp [ofIdle, watchBad, idleAfter, armedOtherwise]

/-- So many periods were started, each armed with its length, and this is the interval. -/
structure Idles (idleMin idleMax : BitVec 16) (count : ℕ) (interval : BitVec 16)
    (s : WifiState) : Prop where
  started : (seriesSeen idleMin idleMax s).1.1 = count
  armed : (seriesSeen idleMin idleMax s).2 = true
  interval : s.idleInterval = interval
  minSame : s.settings.idleMinInterval = idleMin
  maxSame : s.settings.idleMaxInterval = idleMax

theorem periods_eq (s : WifiState) : (seriesSeen idleMin idleMax s).1.1 = periods s := by
  rw [seriesSeen, (foldl_watchBad idleAfter (armedOtherwise idleMin idleMax) (0, 0) s.outputs).1]
  rfl

theorem idleSeries_iff_seen :
    IdleSeries idleMin idleMax s ↔ (seriesSeen idleMin idleMax s).2 = true :=
  (foldl_watchBad idleAfter (armedOtherwise idleMin idleMax) (0, 0) s.outputs).2.symm

/-- What the idle periods depend on. -/
def idleView (idleMin idleMax : BitVec 16) (s : WifiState) :=
  (((seriesSeen idleMin idleMax s).1.1, (seriesSeen idleMin idleMax s).2), s.idleInterval,
    s.settings.idleMinInterval, s.settings.idleMaxInterval)

theorem Idles.congr (hidles : Idles idleMin idleMax count interval s)
    (hview : idleView idleMin idleMax after = idleView idleMin idleMax s) :
    Idles idleMin idleMax count interval after where
  started := (congrArg (·.1.1) hview).trans hidles.started
  armed := (congrArg (·.1.2) hview).trans hidles.armed
  interval := (congrArg (·.2.1) hview).trans hidles.interval
  minSame := (congrArg (·.2.2.1) hview).trans hidles.minSame
  maxSame := (congrArg (·.2.2.2) hview).trans hidles.maxSame

theorem idleView_of_context (hview : contextView ofIdle after = contextView ofIdle s) :
    idleView idleMin idleMax after = idleView idleMin idleMax s := by
  have houtputs : after.outputs.filter ofIdle = s.outputs.filter ofIdle :=
    congrArg (·.outputs) hview
  have hrest : (after.idleInterval, after.settings) = (s.idleInterval, s.settings) :=
    congrArg (fun view => (view.idleInterval, view.settings)) hview
  obtain ⟨hinterval, hsettings⟩ := Prod.mk.inj hrest
  rw [idleView, idleView, seriesSeen_eq, seriesSeen_eq, houtputs, hinterval, hsettings]

/-- The outputs that start no period, nor forget those that were started. -/
def idleSilent : Output → Bool
  | .entered .idle | .entered .connected | .processing .off .enable => false
  | _ => true

theorem seriesSeen_silent {output : Output} (hsilent : idleSilent output = true)
    (houtputs : after.outputs = s.outputs ++ [output]) :
    (seriesSeen idleMin idleMax after).1.1 = (seriesSeen idleMin idleMax s).1.1 ∧
      (seriesSeen idleMin idleMax after).2 = (seriesSeen idleMin idleMax s).2 := by
  rw [seriesSeen, houtputs, List.foldl_append, ← seriesSeen]
  simp only [List.foldl_cons, List.foldl_nil, watchBad]
  cases output with
  | entered state => cases state <;> simp_all [idleAfter, armedOtherwise, idleSilent]
  | processing state event =>
      cases state <;> cases event <;> simp_all [idleAfter, armedOtherwise, idleSilent]
  | _ => simp [idleAfter, armedOtherwise]

theorem Idles.speaks {output : Output} (hidles : Idles idleMin idleMax count interval s)
    (hsilent : idleSilent output = true) (houtputs : after.outputs = s.outputs ++ [output])
    (hinterval : after.idleInterval = s.idleInterval) (hsettings : after.settings = s.settings) :
    Idles idleMin idleMax count interval after := by
  obtain ⟨hstarted, harmed⟩ := seriesSeen_silent hsilent houtputs
  apply hidles.congr
  rw [idleView, idleView, hstarted, harmed, hinterval, hsettings]

end Record

section Calls

theorem idles_of_callAct {act : CallAct} (hact : CallActs env act s after)
    (hsets : ∀ settings, act ≠ .sets settings)
    (hidles : Idles idleMin idleMax count interval s) :
    Idles idleMin idleMax count interval after := by
  have hreset (output : Output) (houtput : ofReset output = true) : ofIdle output = false := by
    obtain ⟨call, rfl⟩ | ⟨seconds, rfl⟩ := kind_of_reset houtput
    · rfl
    · rfl
  cases hact with
  | sets => exact absurd rfl (hsets _)
  | configures hview | measures hview =>
      have hsame : idleView idleMin idleMax (configView after) =
          idleView idleMin idleMax (configView s) :=
        congrArg (idleView idleMin idleMax) hview
      exact hidles.congr hsame
  | resets _ hrun =>
      exact hidles.congr (idleView_of_context ((leaves_resetNWP env hreset).of_run hrun))
  | @setsRole role _ _ after _ hrun =>
      have hsame : idleView idleMin idleMax after = idleView idleMin idleMax s :=
        idleView_of_context ((leaves_setRole env hreset role).of_run hrun)
      exact hidles.congr hsame
  | defers | takes => exact hidles.congr rfl
  | posts | expires | times | adds | frees => exact hidles.speaks (by rfl) rfl rfl rfl

theorem keeps_idles_call (call : Call) (hcall : keepsIntervals idleMin idleMax call) :
    Keeps (Idles idleMin idleMax count interval) (runCall env call) := by
  have hacts (hnone : ∀ settings, ¬mayDo env call (.sets settings)) :
      Keeps (Idles idleMin idleMax count interval) (runCall env call) := by
    apply keeps_of_follows _ (follows_runCall env call) (onlyActs_call call)
    intro act s s' hact hmay
    apply idles_of_callAct hact
    intro settings hsets
    subst hsets
    exact hnone settings hmay
  cases call with
  | free call =>
      cases call with
      | setConfiguration settings =>
          intro s hidles
          rw [Ensures, runCall, runFreeCall, ends_outside, runUnlocked, ignoreRet, ends_bind,
            slWifiConnSetConfiguration, ends_ite]
          by_cases hshort : settings.provisioningTimeout.toNat < 30
          · rw [if_pos hshort]
            exact hidles
          · rw [if_neg hshort]
            obtain ⟨hmin, hmax⟩ := hcall (Nat.le_of_not_lt hshort)
            exact ⟨hidles.started, hidles.armed, hidles.interval, hmin, hmax⟩
      | _ => exact hacts fun _ hmay => hmay
  | _ => exact hacts fun _ hmay => hmay

theorem kept_idles (env : WifiEnv) :
    Kept env ofIdle (keepsIntervals idleMin idleMax) (Idles idleMin idleMax count interval) where
  deaf output houtput := by cases output <;> first | rfl | cases houtput
  view _ _ hview hidles := hidles.congr (idleView_of_context hview)
  lists _ _ _ hidles := hidles.congr rfl
  call := keeps_idles_call

theorem replays_idles : Replays env (Idles idleMin idleMax count interval) :=
  replays_of_acts fun act s s' hact hreplay => idles_of_callAct hact fun settings hsets => by
    subst hsets
    cases hreplay

end Calls

section Scripts

variable {script : List SmAct} {seen : Bool × Bool} {event : SmEvent}

/-- Whether the periods were forgotten, and whether the interval was reset. -/
def trackIdle (seen : Bool × Bool) : SmAct → Bool × Bool
  | .enters .connected => (true, seen.2)
  | .writes .idleReset => (seen.1, true)
  | _ => seen

/-- The acts that start an idle period. -/
def idling : SmAct → Bool
  | .enters .idle | .writes .idleDoubled => true
  | _ => false

/-- The periods and the interval, as the acts leave them. -/
def Tracked (idleMin idleMax : BitVec 16) (count : ℕ) (interval : BitVec 16) (seen : Bool × Bool)
    (s : WifiState) : Prop :=
  Idles idleMin idleMax (if seen.1 then 0 else count) (if seen.2 then idleMin else interval) s ∧
    Scheduled (keepsIntervals idleMin idleMax) s

theorem idles_enters {state : SmState} (hstate : state ≠ .idle)
    (hidles : Idles idleMin idleMax (if seen.1 then 0 else count) interval s) :
    Idles idleMin idleMax (if (trackIdle seen (.enters state)).1 then 0 else count) interval
      { s with state := state, outputs := s.outputs ++ [.entered state] } := by
  by_cases hconnected : state = .connected
  · subst hconnected
    refine ⟨?_, ?_, hidles.interval, hidles.minSame, hidles.maxSame⟩
    · simp [seriesSeen, watchBad, idleAfter, trackIdle]
    · have harmed := hidles.armed
      rw [seriesSeen] at harmed
      simp [seriesSeen, watchBad, armedOtherwise, harmed]
  · have hsilent : idleSilent (.entered state) = true := by cases state <;> simp_all [idleSilent]
    have hsame : trackIdle seen (.enters state) = seen := by cases state <;> simp_all [trackIdle]
    rw [hsame]
    exact hidles.speaks hsilent rfl rfl rfl

theorem idles_writes {write : Write} (hwrite : write ≠ .idleDoubled)
    (hidles : Idles idleMin idleMax count (if seen.2 then idleMin else interval) s) :
    Idles idleMin idleMax count
      (if (trackIdle seen (.writes write)).2 then idleMin else interval) (write.apply s) := by
  cases write with
  | idleReset => exact ⟨hidles.started, hidles.armed, hidles.minSame, hidles.minSame,
      hidles.maxSame⟩
  | idleDoubled => exact absurd rfl hwrite
  | errorsForgotten | oneShotTaken | oneShotGiven =>
      apply hidles.congr
      rw [Write.apply]
      split <;> rfl
  | profilesDeleted | connectUsed => exact hidles.congr rfl

theorem tracked_act {act : SmAct} (hact : Acts env act s after) (hidling : idling act = false)
    (htracked : Tracked idleMin idleMax count interval seen s) :
    Tracked idleMin idleMax count interval (trackIdle seen act) after := by
  by_cases hplain : plainAct act = true
  · have hsame : trackIdle seen act = seen := by
      cases act with
      | enters | writes => cases hplain
      | _ => rfl
    rw [hsame]
    exact (kept_idles env).act hact hplain (fun _ _ => replays_idles) htracked
  rw [Bool.not_eq_true] at hplain
  by_cases hasks : ∃ call, act = .asks call
  · obtain ⟨call, rfl⟩ := hasks
    cases hact with
    | asks _ hrun =>
        exact ((kept_idles env).leaves (contexts (leaves_nwpCall env rfl))).of_run hrun htracked
  have hwrites : WriteCase env s act after :=
    writeCase_of_acts hact hplain fun call hcall => hasks ⟨call, hcall⟩
  refine ⟨?_, scheduled_of_writes hwrites htracked.2⟩
  have hidles := htracked.1
  cases hwrites with
  | @enters state =>
      have hstate : state ≠ .idle := by
        intro hidle
        subst hidle
        cases hidling
      have hsame : (trackIdle seen (.enters state)).2 = seen.2 := by cases state <;> rfl
      rw [hsame]
      exact idles_enters hstate hidles
  | @writes write =>
      have hsame : (trackIdle seen (.writes write)).1 = seen.1 := by cases write <;> rfl
      rw [hsame]
      apply idles_writes _ hidles
      intro hdoubled
      subst hdoubled
      cases hidling
  | defers => exact hidles.congr rfl
  | arms | disarms | startsProvisioning | stopsProvisioning =>
      exact hidles.speaks (by rfl) rfl rfl rfl

theorem tracked_plays (hplays : Plays (Acts env) script s after)
    (hidling : script.any idling = false)
    (htracked : Tracked idleMin idleMax count interval seen s) :
    Tracked idleMin idleMax count interval (script.foldl trackIdle seen) after := by
  induction hplays generalizing seen with
  | nil => exact htracked
  | cons hact _ ih =>
      rw [List.any_cons, Bool.or_eq_false_iff] at hidling
      exact ih hidling.2 (tracked_act hact hidling.1 htracked)

/-- Scripts that start no period and leave the periods and the interval. -/
def leavesIdles (scripts : List (List SmAct)) : Bool :=
  scripts.all fun script => !script.any idling && script.foldl trackIdle (false, false) =
    (false, false)

theorem keeps_tracked {α : Type} {program : Sm α} {scripts : List (List SmAct)}
    (hfollows : Follows (acting env) scripts program) (hleaves : leavesIdles scripts = true) :
    Keeps (Tracked idleMin idleMax count interval (false, false)) program := by
  intro before htracked
  apply (hfollows before).ensures.mono
  intro _ after hafter
  obtain ⟨script, hscript, hplays⟩ := hafter
  have hquiet := List.all_eq_true.mp hleaves script hscript
  rw [Bool.and_eq_true, Bool.not_eq_true', decide_eq_true_eq] at hquiet
  have hfinal := tracked_plays hplays hquiet.1 htracked
  rwa [hquiet.2] at hfinal

/-- A script that starts a period doubles the interval. -/
theorem doubles_of_idling (state : SmState) (event : SmEvent) :
    ∀ script ∈ processScripts state event, script.any idling = true →
      .writes .idleDoubled ∈ script := by
  cases state <;> cases event <;> decide +kernel

/-- The interval is reset where the periods are forgotten, which for an ENABLE event in `OFF`
is at its start. -/
theorem tracks_process (state : SmState) (event : SmEvent) :
    ∀ script ∈ processScripts state event, script.any idling = false →
      if state = .off then
        if event = .enable then script.foldl trackIdle (false, false) = (false, true)
        else script = []
      else
        (script.foldl trackIdle (false, false)).1 = (script.foldl trackIdle (false, false)).2 := by
  cases state <;> cases event <;> decide +kernel

end Scripts

section Handlers

variable {event : SmEvent}

/-- A period was started behind `count` others, with the timer set to `interval`. -/
structure PeriodStarted (idleMin idleMax : BitVec 16) (count : ℕ) (interval : BitVec 16)
    (s : WifiState) : Prop where
  started : (seriesSeen idleMin idleMax s).1.1 = count + 1
  armed : (seriesSeen idleMin idleMax s).2 = true ↔
    interval.toNat = idleLength idleMin idleMax count
  interval : s.idleInterval =
    if idleMax.toNat < (interval * 2).toNat then idleMax else interval * 2
  minSame : s.settings.idleMinInterval = idleMin
  maxSame : s.settings.idleMaxInterval = idleMax

/-- `EnterIDLE` sets the timer to the interval, and doubles it. -/
theorem starts_enterIdle (htracked : Tracked idleMin idleMax count interval (false, false) s) :
    Ensures (enterIdle env) s fun _ after =>
      PeriodStarted idleMin idleMax count interval after := by
  apply (keeps_tracked (follows_suspendNWP env) (by decide) s htracked).bind
  intro _ suspended hsuspended
  have hidles : Idles idleMin idleMax count interval suspended := hsuspended.1
  have harmed := hidles.armed
  have hstarted := hidles.started
  rw [seriesSeen] at harmed hstarted
  refine ⟨?_, ?_, ?_, hidles.minSame, hidles.maxSame⟩
  · simp [seriesSeen, watchBad, idleAfter, hstarted]
  · simp [seriesSeen, watchBad, idleAfter, armedOtherwise, harmed, hstarted, hidles.interval]
  · change (if suspended.settings.idleMaxInterval.toNat < (suspended.idleInterval * 2).toNat then
      suspended.settings.idleMaxInterval else suspended.idleInterval * 2) = _
    rw [hidles.interval, hidles.maxSame]

/-- The handler of an event that leads to `IDLE` ends with `EnterIDLE`. -/
theorem starts_smHandler (hidle : entersIdle s event = true)
    (htracked : Tracked idleMin idleMax count interval (false, false) s) :
    Ensures (smHandler env s.state event) s fun _ after =>
      PeriodStarted idleMin idleMax count interval after := by
  have hends {before : WifiState}
      (hbefore : Tracked idleMin idleMax count interval (false, false) before) :
      Ensures (do
        enterIdle env
        return (0 : ℤ)) before fun _ after =>
          PeriodStarted idleMin idleMax count interval after :=
    (starts_enterIdle hbefore).bind fun _ _ hstarted => hstarted
  cases event with
  | timeout =>
      simp only [entersIdle, Bool.or_eq_true, Bool.and_eq_true, decide_eq_true_eq,
        Bool.not_eq_true'] at hidle
      rcases hidle with hstate | ⟨⟨hstate, hused⟩, hmode⟩
      · rw [hstate]
        exact hends htracked
      · rw [hstate, smHandler, smStateWaitForConn, Ensures, connectTimeoutExpired, ends_bind,
          ends_get, hused, hmode]
        exact hends htracked
  | provStopped =>
      have hstate : s.state = .provisioning := of_decide_eq_true hidle
      rw [hstate]
      apply (keeps_tracked (follows_stopTimer env) (by decide) s htracked).bind
      intro _ stopped hstopped
      apply (keeps_tracked (follows_notifyWifiApp env _) (by decide) stopped hstopped).bind
      exact fun _ notified hnotified => hends hnotified
  | _ => cases hidle

end Handlers

section Runs

variable {event : SmEvent} {notified : List (List Call)} {posting : List (List FreeCall)}

/-- The boundaries, and the interval that the next period is armed with. -/
structure SeriesReady (idleMin idleMax : BitVec 16) (s : WifiState) : Prop where
  minSame : s.settings.idleMinInterval = idleMin
  maxSame : s.settings.idleMaxInterval = idleMax
  interval : s.state ≠ .off → s.idleInterval.toNat = nextLength idleMin idleMax (periods s)

theorem SeriesReady.idles (hready : SeriesReady idleMin idleMax s)
    (hseries : IdleSeries idleMin idleMax s) :
    Idles idleMin idleMax (periods s) s.idleInterval s :=
  ⟨periods_eq s, idleSeries_iff_seen.mp hseries, rfl, hready.minSame, hready.maxSame⟩

theorem seriesReady_of_idles (hidles : Idles idleMin idleMax count interval s)
    (hinterval : s.state ≠ .off → interval.toNat = nextLength idleMin idleMax count) :
    IdleSeries idleMin idleMax s ∧ SeriesReady idleMin idleMax s := by
  refine ⟨idleSeries_iff_seen.mpr hidles.armed, hidles.minSame, hidles.maxSame, fun hstate => ?_⟩
  have hperiods : periods s = count := (periods_eq s).symm.trans hidles.started
  rw [hidles.interval, hperiods]
  exact hinterval hstate

/-- What is seen of the record when a handler starts. -/
theorem tracked_handling (hready : SeriesReady idleMin idleMax s)
    (hseries : IdleSeries idleMin idleMax s)
    (hallowed : AllAllowed (keepsIntervals idleMin idleMax) notified posting) :
    Tracked idleMin idleMax (if s.state = .off ∧ event = .enable then 0 else periods s)
      s.idleInterval (false, false) (handling s event notified posting) := by
  refine ⟨?_, hallowed⟩
  have hidles := hready.idles hseries
  by_cases henable : s.state = .off ∧ event = .enable
  · have harmed := hidles.armed
    rw [seriesSeen] at harmed
    refine ⟨?_, ?_, rfl, hready.minSame, hready.maxSame⟩
    · simp [seriesSeen, handling, watchBad, idleAfter, henable]
    · simp [seriesSeen, handling, watchBad, armedOtherwise, harmed]
  · have hsilent : idleSilent (.processing s.state event) = true := by
      unfold idleSilent
      split <;> simp_all
    rw [if_neg henable]
    exact hidles.speaks hsilent rfl rfl rfl

/-- An event that does not lead to `IDLE` leaves the series where it is, or starts it anew. -/
theorem seriesReady_process {script : List SmAct} {final : WifiState}
    (hready : SeriesReady idleMin idleMax s) (hseries : IdleSeries idleMin idleMax s)
    (hallowed : AllAllowed (keepsIntervals idleMin idleMax) notified posting)
    (hidle : entersIdle s event = false) (hscript : script ∈ processScripts s.state event)
    (hplays : Plays (Acts env) script (handling s event notified posting) final) :
    IdleSeries idleMin idleMax final ∧ SeriesReady idleMin idleMax final := by
  have hidling : script.any idling = false := by
    by_contra hidling
    rw [Bool.not_eq_false] at hidling
    have hdoubles := doubles_of_idling s.state event script hscript hidling
    have henters := entersIdle_of_doubles (s := handling s event notified posting) hscript hplays
      hdoubles
    exact absurd (hidle.symm.trans henters) (by simp)
  have htracked := tracked_plays hplays hidling (tracked_handling hready hseries hallowed)
  have hstate : final.state = script.foldl leadsTo s.state :=
    plays_state (s := handling s event notified posting) hplays
  have htable := tracks_process s.state event script hscript hidling
  apply seriesReady_of_idles htracked.1
  intro hfinal
  split at htable
  · rename_i hoff
    split at htable
    · rename_i henable
      simp [htable, hoff, henable, nextLength]
    · rw [htable, List.foldl_nil, hoff] at hstate
      exact absurd hstate hfinal
  · rename_i hoff
    rw [htable]
    split
    · rfl
    · rw [if_neg fun hboth => hoff hboth.1]
      exact hready.interval hoff

/-- An event that leads to `IDLE` starts a period with the interval. -/
theorem periodStarted_step (hready : SeriesReady idleMin idleMax s)
    (hseries : IdleSeries idleMin idleMax s)
    (hallowed : AllAllowed (keepsIntervals idleMin idleMax) notified posting)
    (hreceived : s.received = some event) (hidle : entersIdle s event = true)
    (hstep : step env s (.handle notified posting) = some after) :
    PeriodStarted idleMin idleMax (periods s) s.idleInterval after := by
  have hevent : event ≠ .destroy ∧ event ≠ .disable ∧ event ≠ .enable := by
    cases event <;> simp_all [entersIdle]
  have htracked : Tracked idleMin idleMax (periods s) s.idleInterval (false, false)
      (handling s event notified posting) := by
    have htracked := @tracked_handling s _ _ event _ _ hready hseries hallowed
    rw [if_neg fun hboth => hevent.2.2 hboth.2] at htracked
    exact htracked
  obtain ⟨final, hfinal, hafter⟩ := handled_of_smHandler hreceived hevent.1 hevent.2.1
    (starts_smHandler (s := handling s event notified posting) hidle htracked) hstep
  subst hafter
  exact ⟨hfinal.started, hfinal.armed, hfinal.interval, hfinal.minSame, hfinal.maxSame⟩

/-- A period is armed with its length unless it follows one of 2^15 seconds or more. -/
theorem seriesReady_of_started (hready : SeriesReady idleMin idleMax s)
    (hle : idleMin ≤ idleMax) (hoff : s.state ≠ .off)
    (hstarted : PeriodStarted idleMin idleMax (periods s) s.idleInterval after) :
    (IdleSeries idleMin idleMax after ↔
        ∀ before, periods s = before + 1 → idleLength idleMin idleMax before < 2 ^ 15) ∧
      (IdleSeries idleMin idleMax after → SeriesReady idleMin idleMax after) := by
  rw [idleSeries_iff_seen, hstarted.armed]
  constructor
  · rw [hready.interval hoff]
    cases hperiods : periods s with
    | zero => simp [nextLength_zero hle]
    | succ before => simp [nextLength_succ_iff]
  · intro harmed
    have hperiods : periods after = periods s + 1 :=
      (periods_eq after).symm.trans hstarted.started
    refine ⟨hstarted.minSame, hstarted.maxSame, fun _ => ?_⟩
    rw [hstarted.interval, idleDoubled_toNat harmed, hperiods]

theorem keeps_idles_deinit : Keeps (Idles idleMin idleMax count interval) (deinit env) := by
  have hemit (call : NwpCall) : Keeps (Idles idleMin idleMax count interval) (emit (.nwp call)) :=
    keeps_modify fun _ hidles => hidles.speaks (by rfl) rfl rfl rfl
  apply (hemit _).bind
  intro _
  apply Keeps.bind (keeps_get.bind fun _ => (hemit .stop).bind fun _ => keeps_pure)
  exact fun _ => keeps_modify fun _ hidles => hidles.congr rfl

theorem series_step {act : WifiAct} (hle : idleMin ≤ idleMax)
    (hallowed : AllKeep idleMin idleMax act) (hready : SeriesReady idleMin idleMax s)
    (hseries : IdleSeries idleMin idleMax s) (hstep : step env s act = some after) :
    (IdleSeries idleMin idleMax after ↔ FollowsShort idleMin idleMax s act) ∧
      (IdleSeries idleMin idleMax after → SeriesReady idleMin idleMax after) := by
  have hkept (hboth : IdleSeries idleMin idleMax after ∧ SeriesReady idleMin idleMax after)
      (hshort : FollowsShort idleMin idleMax s act) :
      (IdleSeries idleMin idleMax after ↔ FollowsShort idleMin idleMax s act) ∧
        (IdleSeries idleMin idleMax after → SeriesReady idleMin idleMax after) :=
    ⟨iff_of_true hboth.1 hshort, fun _ => hboth.2⟩
  have hidles := hready.idles hseries
  cases stepCase_of_step hstep with
  | @call call _ hrun =>
      have hstate : after.state = s.state :=
        congrArg (·.2.1) ((leaves_runCall env call).of_run hrun)
      have hafter := (keeps_idles_call call hallowed).of_run hrun hidles
      exact hkept (seriesReady_of_idles hafter fun hoff => hready.interval (hstate ▸ hoff)) trivial
  | receive =>
      exact hkept (seriesReady_of_idles (hidles.congr rfl) hready.interval) trivial
  | @process event notified posting script final hreceived _ hscript hplays =>
      by_cases hidle : entersIdle s event = true
      · have hoff : s.state ≠ .off := by
          intro hoff
          cases event <;> simp_all [entersIdle]
        have hstarted := periodStarted_step hready hseries hallowed hreceived hidle hstep
        obtain ⟨hiff, hafter⟩ := seriesReady_of_started hready hle hoff hstarted
        refine ⟨hiff.trans ⟨fun hshort other hother _ => hshort, fun hshort => ?_⟩, hafter⟩
        exact hshort event hreceived hidle
      · rw [Bool.not_eq_true] at hidle
        have hfinal := seriesReady_process hready hseries hallowed hidle hscript hplays
        refine hkept ⟨hfinal.1, hfinal.2.minSame, hfinal.2.maxSame, hfinal.2.interval⟩ ?_
        intro other hother hidle'
        rw [hreceived, Option.some.injEq] at hother
        rw [← hother, hidle] at hidle'
        cases hidle'
  | @destroy notified posting final hreceived hrun =>
      have hstate : final.state = s.state := by
        injection hrun with _ hfinal
        rw [← hfinal]
      have hstart : Idles idleMin idleMax (periods s) s.idleInterval
          { s with received := none, notified := notified, posting := posting } :=
        hidles.congr rfl
      have hfinal : Idles idleMin idleMax (periods s) s.idleInterval (handled final) :=
        (keeps_idles_deinit.of_run hrun hstart).congr rfl
      refine hkept (seriesReady_of_idles hfinal fun hoff => hready.interval (hstate ▸ hoff)) ?_
      intro other hother hidle
      rw [hreceived, Option.some.injEq] at hother
      rw [← hother] at hidle
      cases hidle

/-- For any boundaries that stay in the configuration, the idle periods of a run follow the
series exactly when none follows one of 2^15 seconds or more. -/
theorem idleSeries_iff (hstarted : Started env s)
    (hle : s.settings.idleMinInterval ≤ s.settings.idleMaxInterval) {acts : List WifiAct}
    (hkeep : ∀ act ∈ acts, AllKeep s.settings.idleMinInterval s.settings.idleMaxInterval act) :
    StatesSatisfy (step env)
        (IdleSeries s.settings.idleMinInterval s.settings.idleMaxInterval) s acts ↔
      StepsSatisfy (step env)
        (FollowsShort s.settings.idleMinInterval s.settings.idleMaxInterval) s acts := by
  have hdeaf (output : Output) (houtput : ofInit env output = true) : ofIdle output = false := by
    cases output <;> first | rfl | cases houtput
  obtain ⟨boot, appCBSet, houtputs, hcontext⟩ := hstarted.context hdeaf
  have hnone : s.outputs.filter ofIdle = [] := by
    have hfresh : s.outputs.filter ofIdle = boot.outputs.filter ofIdle :=
      congrArg (·.outputs) hcontext
    rw [hfresh, houtputs, List.filter_nil]
  have hready : SeriesReady s.settings.idleMinInterval s.settings.idleMaxInterval s :=
    ⟨rfl, rfl, fun hoff => absurd hstarted.off hoff⟩
  have hseries : IdleSeries s.settings.idleMinInterval s.settings.idleMaxInterval s := by
    rw [idleSeries_iff_seen, seriesSeen_eq, hnone]
    rfl
  exact Transition.states_iff_steps_while
    (fun _ _ _ hallowed hready hseries hstep => series_step hle hallowed hready hseries hstep)
    hkeep hready hseries

/-- Boundaries whose series leaves the range of 15 bits. -/
def distantIdle : WifiConnSettings :=
  { defaultSettings with idleMinInterval := 40000, idleMaxInterval := 40000 }

/-- The module as it starts with such a configuration. -/
def distantStart : WifiState := { started obedientNwp true false with settings := distantIdle }

theorem distantStart_started : Started obedientNwp distantStart :=
  ⟨{ powerOn with settings := distantIdle }, true, false, rfl, rfl⟩

theorem keeps_idlesTwice : ∀ act ∈ idlesTwice, AllKeep idleMin idleMax act :=
  forall_idlesTwice trivial trivial trivial allAllowed_nil

/-- The second idle period lasts 14464 seconds instead of 40000. -/
theorem idleSeries_broken :
    Started obedientNwp distantStart ∧
      0 < distantStart.settings.idleMinInterval.toNat ∧
      distantStart.settings.idleMinInterval ≤ distantStart.settings.idleMaxInterval ∧
      (∀ act ∈ idlesTwice, AllKeep distantStart.settings.idleMinInterval
        distantStart.settings.idleMaxInterval act) ∧
      ¬StatesSatisfy (step obedientNwp) (IdleSeries distantStart.settings.idleMinInterval
        distantStart.settings.idleMaxInterval) distantStart idlesTwice := by
  refine ⟨distantStart_started, by decide, by decide, keeps_idlesTwice, ?_⟩
  apply Transition.not_statesSatisfy_of_any fun s => !(seriesSeen 40000 40000 s).2
  · intro s hfails hseries
    have harmed : (seriesSeen 40000 40000 s).2 = true := idleSeries_iff_seen.mp hseries
    rw [harmed] at hfails
    cases hfails
  · decide +kernel

/-- The condition, computed. -/
def followsShort (idleMin idleMax : BitVec 16) (s : WifiState) : WifiAct → Bool
  | .handle _ _ => s.received.all fun event => !entersIdle s event ||
      (periods s = 0 || idleLength idleMin idleMax (periods s - 1) < 2 ^ 15)
  | _ => true

theorem followsShort_sound (s : WifiState) (act : WifiAct)
    (hcheck : followsShort idleMin idleMax s act = true) : FollowsShort idleMin idleMax s act := by
  cases act with
  | handle notified posting =>
      intro event hreceived hidle before hperiods
      simpa [followsShort, hreceived, hidle, hperiods] using hcheck
  | _ => trivial

/-- Under the default configuration, the first two periods last 20 and 40 seconds. -/
theorem idleSeries_default :
    StatesSatisfy (step obedientNwp) (IdleSeries 20 120) (started obedientNwp true false)
      idlesTwice :=
  (idleSeries_iff (s := started obedientNwp true false) ⟨powerOn, true, false, rfl, rfl⟩
    (by decide) keeps_idlesTwice).mpr
      (Transition.stepsSatisfy_of_check (followsShort 20 120) followsShort_sound
        (by decide +kernel))

end Runs

end SimpleLinkHost.WifiIdle
