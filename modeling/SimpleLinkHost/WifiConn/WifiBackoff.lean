import Mathlib.Tactic.IntervalCases
import SimpleLinkHost.WifiConn.WifiRecord
import SimpleLinkHost.WifiConn.WifiRuns

/-!
# The backoff of the resets

`ResetNWP` advances the delay level and then waits for the delay of the new level;
`EnterCONNECTED` and `SlWifiConn_init` clear it.  The resets, connections and starts are
actions here, with anything in between that leaves the error counters alone, and every run
of the connection manager is such a sequence.
-/

namespace SimpleLinkHost.WifiBackoff

open CallOutcome ProgramInvariant ProgramScript WifiContext WifiApi WifiMachine WifiScripts
open WifiCalls WifiRecord WifiRuns Transition

section System

structure BackoffSys where
  wifi : WifiState
  /-- The calls of `ResetNWP` since the last `EnterCONNECTED` or `SlWifiConn_init`. -/
  resets : ℕ

inductive BackoffAct
  | reset
  /-- `EnterCONNECTED` at its test of the error count. -/
  | connected
  /-- `SlWifiConn_init` where it clears the counters. -/
  | init
  /-- Anything else, which leaves the counters. -/
  | other (wifi : WifiState)

variable (env : WifiEnv)

def step (s : BackoffSys) : BackoffAct → Option BackoffSys
  | .reset =>
      match (resetNWP env).run s.wifi with
      | .ok _ after => some ⟨after, s.resets + 1⟩
      | .error _ _ => none
  | .connected => some ⟨Write.errorsForgotten.apply s.wifi, 0⟩
  | .init => some ⟨{ s.wifi with fatalErrorCount := 0, recoveryDelayLevel := 0 }, 0⟩
  | .other wifi =>
      if errorCounters wifi = errorCounters s.wifi then some ⟨wifi, s.resets⟩ else none

/-- The module behind `SlWifiConn_init`. -/
def startedWith (wifi : WifiState) : BackoffSys :=
  ⟨{ wifi with fatalErrorCount := 0, recoveryDelayLevel := 0 }, 0⟩

end System

section Schedule

/-- The delay in front of the n-th reset, as it is documented. -/
def documentedDelay : ℕ → ℕ
  | 0 | 1 => 2
  | 2 => 5
  | 3 => 10
  | 4 => 20
  | _ => 30

/-- `level` of `recoveryDelayLevel` after so many resets. -/
def levelAfter (resets : ℕ) : ℕ := min resets maxRecoveryLevel

/-- The counters after so many resets without a clear. -/
structure Advanced (wifi : WifiState) (resets : ℕ) : Prop where
  fatalErrorCount : wifi.fatalErrorCount = BitVec.ofNat 8 resets
  recoveryDelayLevel : wifi.recoveryDelayLevel.toNat = levelAfter resets

theorem getD_recoveryDelays (resets : ℕ) :
    recoveryDelays.getD (levelAfter (resets + 1)) 0 = documentedDelay (resets + 2) := by
  match resets with
  | 0 | 1 | 2 => rfl
  | more + 3 =>
      have hlevel : levelAfter (more + 3 + 1) = maxRecoveryLevel :=
        Nat.min_eq_right (by simp [maxRecoveryLevel, recoveryDelays])
      rw [hlevel]
      rfl

theorem documentedDelay_of_le {earlier : ℕ} (hlast : 4 ≤ earlier) :
    documentedDelay (earlier + 1) = 30 := by
  obtain ⟨more, rfl⟩ := Nat.exists_eq_add_of_le hlast
  rw [show 4 + more + 1 = more + 5 by omega]
  rfl

/-- The schedule repeats a delay only where it has reached the last one. -/
theorem documentedDelay_eq_iff {earlier later : ℕ} (hlt : earlier < later) :
    documentedDelay (later + 1) = documentedDelay (earlier + 1) ↔ 4 ≤ earlier := by
  by_cases hlast : 4 ≤ earlier
  · rw [documentedDelay_of_le hlast, documentedDelay_of_le (hlast.trans hlt.le)]
    exact iff_of_true rfl hlast
  refine iff_of_false ?_ hlast
  by_cases hlater : 4 ≤ later
  · rw [documentedDelay_of_le hlater]
    interval_cases earlier <;> decide
  · interval_cases later <;> interval_cases earlier <;> decide

end Schedule

section Delay

variable {env : WifiEnv} {wifi after : WifiState} {resets : ℕ}

theorem levelAfter_succ (hlevel : wifi.recoveryDelayLevel.toNat = levelAfter resets) :
    (if wifi.recoveryDelayLevel.toNat < maxRecoveryLevel then wifi.recoveryDelayLevel + 1
      else wifi.recoveryDelayLevel).toNat = levelAfter (resets + 1) := by
  have hmax : maxRecoveryLevel = 4 := rfl
  rw [levelAfter, hmax] at hlevel
  rw [hlevel, levelAfter, hmax]
  split
  · rw [BitVec.toNat_add, hlevel]
    change (min resets 4 + 1) % 256 = _
    omega
  · omega

/-- `ResetNWP` up to `sl_Start`: the level is advanced, the NWP is stopped, and the delay of
the new level is applied. -/
theorem ensures_stopNWP_backoff (hadvanced : Advanced wifi resets) :
    Ensures (stopNWP env) wifi fun _ after => Advanced after (resets + 1) ∧
      after.outputs = wifi.outputs ++
        [.nwp .stop, .sleep (documentedDelay (resets + 2))] := by
  have hcount : wifi.fatalErrorCount + 1 = BitVec.ofNat 8 (resets + 1) := by
    rw [hadvanced.fatalErrorCount, BitVec.ofNat_add]
    rfl
  have hlevel := levelAfter_succ hadvanced.recoveryDelayLevel
  rw [Ensures, stopNWP, ends_bind, ends_modify, ends_bind, ends_get, ends_bind, nwpCall,
    ends_bind, ends_get, emit, ends_bind, ends_modify, ends_pure]
  apply WifiFrames.ensures_assertThat.bind
  intro _ stopped hstopped
  obtain ⟨-, rfl⟩ := hstopped
  rw [← getD_recoveryDelays, ← hlevel]
  exact ⟨⟨hcount, hlevel⟩, List.append_assoc ..⟩

theorem Advanced.congr (hadvanced : Advanced wifi resets)
    (hcounters : errorCounters after = errorCounters wifi) : Advanced after resets := by
  obtain ⟨hcount, hlevel⟩ := Prod.mk.inj hcounters
  exact ⟨hcount.trans hadvanced.fatalErrorCount, hlevel ▸ hadvanced.recoveryDelayLevel⟩

theorem quiet_advanced : Quiet fun after => Advanced after resets :=
  fun _ _ hcounters _ hadvanced => hadvanced.congr hcounters

/-- The rest of `ResetNWP` leaves the counters. -/
theorem ensures_resetNWP_backoff (hadvanced : Advanced wifi resets) :
    Ensures (resetNWP env) wifi fun _ after => Advanced after (resets + 1) := by
  rw [resetNWP]
  apply (ensures_stopNWP_backoff hadvanced).bind
  intro _ stopped hstopped
  apply (quiet_advanced.slStart stopped hstopped.1).bind
  exact fun retVal started hstarted => quiet_advanced.restarted retVal started hstarted

/-- A connection forgets the errors, unless their count has come round to 0. -/
theorem advanced_errorsForgotten (hadvanced : Advanced wifi resets) :
    Advanced (Write.errorsForgotten.apply wifi) (if resets % 256 = 0 then resets else 0) := by
  have hcount : wifi.fatalErrorCount.toNat = resets % 256 := by
    rw [hadvanced.fatalErrorCount, BitVec.toNat_ofNat]
  rw [Write.apply, hcount]
  by_cases hround : resets % 256 = 0
  · rw [if_pos hround, if_neg (by omega)]
    exact hadvanced
  · rw [if_neg hround, if_pos (by omega)]
    exact ⟨rfl, rfl⟩

end Delay

section Runs

variable {env : WifiEnv} {wifi stopped : WifiState} {s next : BackoffSys} {act : BackoffAct}
variable {acts : List BackoffAct} {counted : ℕ}

/-- The resets that the module has counted. -/
def countedAfter (counted : ℕ) : BackoffAct → ℕ
  | .reset => counted + 1
  | .connected => if counted % 256 = 0 then counted else 0
  | .init => 0
  | .other _ => counted

theorem step_reset (hstep : step env s .reset = some next) :
    ∃ value after, (resetNWP env).run s.wifi = .ok value after ∧
      next = ⟨after, s.resets + 1⟩ := by
  rw [step] at hstep
  split at hstep
  · rename_i value after hrun
    exact ⟨value, after, hrun, (Option.some.inj hstep).symm⟩
  · cases hstep

theorem step_other {wifi : WifiState} (hstep : step env s (.other wifi) = some next) :
    errorCounters wifi = errorCounters s.wifi ∧ next = ⟨wifi, s.resets⟩ := by
  rw [step, Option.ite_none_right_eq_some, Option.some.injEq] at hstep
  exact ⟨hstep.1, hstep.2.symm⟩

theorem advanced_step (hadvanced : Advanced s.wifi counted)
    (hstep : step env s act = some next) : Advanced next.wifi (countedAfter counted act) := by
  cases act with
  | reset =>
      obtain ⟨value, after, hrun, rfl⟩ := step_reset hstep
      exact (ensures_resetNWP_backoff hadvanced).of_run hrun
  | connected =>
      obtain rfl := Option.some.inj hstep
      exact advanced_errorsForgotten hadvanced
  | init =>
      obtain rfl := Option.some.inj hstep
      exact ⟨rfl, rfl⟩
  | other wifi =>
      obtain ⟨hcounters, rfl⟩ := step_other hstep
      exact hadvanced.congr hcounters

/-- The resets since the last clear. -/
def resetsAfter (resets : ℕ) : BackoffAct → ℕ
  | .reset => resets + 1
  | .connected | .init => 0
  | .other _ => resets

theorem resets_step (hstep : step env s act = some next) :
    next.resets = resetsAfter s.resets act := by
  cases act with
  | reset =>
      obtain ⟨value, after, -, rfl⟩ := step_reset hstep
      rfl
  | other wifi =>
      obtain ⟨-, rfl⟩ := step_other hstep
      rfl
  | connected | init =>
      obtain rfl := Option.some.inj hstep
      rfl

/-- No reset since the last clear is missed. -/
theorem resetsAfter_le {resets : ℕ} (hle : resets ≤ counted) :
    resetsAfter resets act ≤ countedAfter counted act := by
  cases act with
  | reset => exact Nat.succ_le_succ hle
  | connected | init => exact Nat.zero_le _
  | other => exact hle

/-- A connection forgets all resets, unless their count has come round to 0. -/
theorem resetsAfter_eq {resets : ℕ}
    (hround : act = .connected → resets % 256 = 0 → resets = 0) :
    resetsAfter resets act = countedAfter resets act := by
  cases act with
  | reset | init | other => rfl
  | connected =>
      rw [countedAfter]
      split
      · exact (hround rfl ‹_›).symm
      · rfl

/-- The count of errors is exact up to here. -/
def Exact (s : BackoffSys) : Prop := Advanced s.wifi s.resets

theorem exact_step (hexact : Exact s)
    (hround : act = .connected → s.resets % 256 = 0 → s.resets = 0)
    (hstep : step env s act = some next) : Exact next := by
  rw [Exact, resets_step hstep, resetsAfter_eq hround]
  exact advanced_step hexact hstep

/-- The module has counted at least the resets since the last clear. -/
def Counted (s : BackoffSys) : Prop := ∃ counted, s.resets ≤ counted ∧ Advanced s.wifi counted

theorem counted_step (hcounted : Counted s) (hstep : step env s act = some next) :
    Counted next := by
  obtain ⟨counted, hle, hadvanced⟩ := hcounted
  exact ⟨countedAfter counted act, resets_step hstep ▸ resetsAfter_le hle,
    advanced_step hadvanced hstep⟩

theorem counted_run (hrun : run (step env) (startedWith wifi) acts = some s) : Counted s := by
  have hinit : Counted (startedWith wifi) := ⟨0, le_rfl, rfl, rfl⟩
  exact run_invariant (fun _ _ _ hcounted hstep => counted_step hcounted hstep) hinit hrun

/-- The call stopped the NWP and slept so long. -/
def AppliesDelay (before after : WifiState) (seconds : ℕ) : Prop :=
  after.outputs = before.outputs ++ [.nwp .stop, .sleep seconds]

theorem appliesDelay_iff {before after : WifiState} {applied seconds : ℕ}
    (happlied : AppliesDelay before after applied) :
    AppliesDelay before after seconds ↔ seconds = applied := by
  rw [AppliesDelay, happlied, List.append_cancel_left_eq]
  simp [eq_comm]

/-- Where the resets between two connections stay under 256, each waits for the delay of
the reset that follows it. -/
theorem appliesNextDelay_of_few
    (hfew : StepsSatisfy (step env) (fun s act => act = .connected → s.resets < 256)
      (startedWith wifi) acts)
    (hrun : run (step env) (startedWith wifi) acts = some s)
    (hreset : (stopNWP env).run s.wifi = .ok () stopped) :
    AppliesDelay s.wifi stopped (documentedDelay (s.resets + 2)) := by
  have hexact : StatesSatisfy (step env) Exact (startedWith wifi) acts := by
    refine states_of_steps (fun s act next hexact hlt hstep => ?_) ⟨rfl, rfl⟩ hfew
    exact exact_step hexact (fun hconnected hround => by have := hlt hconnected; omega) hstep
  exact ((ensures_stopNWP_backoff (hexact acts (List.prefix_refl acts) s hrun)).of_run hreset).2

/-- Whatever has happened since `SlWifiConn_init`, the delay of a reset is the documented one
exactly from the fifth reset on. -/
theorem appliesDocumentedDelay_iff (hrun : run (step env) (startedWith wifi) acts = some s)
    (hreset : (stopNWP env).run s.wifi = .ok () stopped) :
    AppliesDelay s.wifi stopped (documentedDelay (s.resets + 1)) ↔ 4 ≤ s.resets := by
  obtain ⟨counted, hle, hadvanced⟩ := counted_run hrun
  have happlied : AppliesDelay s.wifi stopped (documentedDelay (counted + 2)) :=
    ((ensures_stopNWP_backoff hadvanced).of_run hreset).2
  rw [appliesDelay_iff happlied, eq_comm]
  exact documentedDelay_eq_iff (Nat.lt_succ_of_le hle)

theorem stopNWP_obedientNwp (s : BackoffSys) :
    ∃ stopped, (stopNWP obedientNwp).run s.wifi = .ok () stopped := ⟨_, rfl⟩

/-- Four resets, and then a fifth. -/
theorem appliesDocumentedDelay_fifth :
    ∃ s stopped,
      run (step obedientNwp) (startedWith powerOn) [.reset, .reset, .reset, .reset] = some s ∧
      (stopNWP obedientNwp).run s.wifi = .ok () stopped ∧
      (AppliesDelay s.wifi stopped (documentedDelay (s.resets + 1)) ↔ 4 ≤ s.resets) := by
  have hruns : (run (step obedientNwp) (startedWith powerOn)
      [.reset, .reset, .reset, .reset]).isSome = true := by decide +kernel
  obtain ⟨s, hrun⟩ := Option.isSome_iff_exists.mp hruns
  obtain ⟨stopped, hstopped⟩ := stopNWP_obedientNwp s
  exact ⟨s, stopped, hrun, hstopped, appliesDocumentedDelay_iff hrun hstopped⟩

/-- The first reset waits for 5 seconds instead of 2. -/
theorem firstDelay_fiveSeconds :
    ∃ stopped,
      run (step obedientNwp) (startedWith powerOn) [] = some (startedWith powerOn) ∧
      (stopNWP obedientNwp).run (startedWith powerOn).wifi = .ok () stopped ∧
      AppliesDelay (startedWith powerOn).wifi stopped 5 ∧
      ¬AppliesDelay (startedWith powerOn).wifi stopped
        (documentedDelay ((startedWith powerOn).resets + 1)) := by
  obtain ⟨stopped, hstopped⟩ := stopNWP_obedientNwp (startedWith powerOn)
  have hadvanced : Advanced (startedWith powerOn).wifi 0 := ⟨rfl, rfl⟩
  have happlied : AppliesDelay (startedWith powerOn).wifi stopped 5 :=
    ((ensures_stopNWP_backoff hadvanced).of_run hstopped).2
  refine ⟨stopped, rfl, hstopped, happlied, ?_⟩
  rw [appliesDelay_iff happlied]
  decide

end Runs

section Connections

variable {env : WifiEnv} {wifi after : WifiState} {s : BackoffSys} {act : BackoffAct}
variable {acts : List BackoffAct}

/-- The states in which other threads can reset the NWP. -/
def mayReset : SmState → Bool
  | .off | .extProvisioning => true
  | _ => false

theorem counters_of_callAct {act : CallAct} (hact : CallActs env act wifi after)
    (hstate : mayReset wifi.state = false) : errorCounters after = errorCounters wifi := by
  cases hact with
  | configures hview | measures hview =>
      have hcounters := congrArg errorCounters hview
      exact hcounters
  | resets hoff =>
      rw [hoff] at hstate
      cases hstate
  | setsRole hstates =>
      cases hstates with
      | inl hoff => rw [hoff] at hstate; cases hstate
      | inr hexternal => rw [hexternal] at hstate; cases hstate
  | _ => rfl

/-- Other threads leave the counters, as long as the state does not let them reset the NWP. -/
theorem keeps_counters_notifyNetIf {state : SmState} {counters : Byte × Byte}
    (hstate : mayReset state = false) (event : NetIfEvent) :
    Keeps (fun wifi => wifi.state = state ∧ errorCounters wifi = counters)
      (notifyNetIf env event) := by
  have hcall (call : Call) : Keeps (fun wifi => wifi.state = state ∧ errorCounters wifi = counters)
      (runCall env call) := by
    have hany : OnlyActs (fun _ => True) (callScripts env call) := fun _ _ _ _ => trivial
    apply keeps_of_follows _ (follows_runCall env call) hany
    intro act before next hact _ hboth
    obtain ⟨rfl, hcounters⟩ := hboth
    exact ⟨state_of_act hact, (counters_of_callAct hact hstate).trans hcounters⟩
  apply keeps_get.bind
  intro _
  apply keeps_runIf
  refine Keeps.bind (keeps_modify fun _ hboth => hboth) fun _ => ?_
  exact keeps_letOthersCall (fun _ _ _ _ call _ => hcall call) fun _ _ _ hboth _ => hboth

/-- The states in which a handler calls `EnterCONNECTED`. -/
def connectsFrom : SmState → Bool
  | .waitForConn | .waitForIp | .provStopping => true
  | _ => false

/-- The error count is tested in such a state, which the handler has not left before. -/
theorem connectsFrom_process (state : SmState) (event : SmEvent) :
    ∀ script ∈ processScripts state event, .writes .errorsForgotten ∈ script →
      connectsFrom state = true ∧
        (script.takeWhile (· ≠ .writes .errorsForgotten)).foldl leadsTo state = state := by
  cases state <;> cases event <;> decide +kernel

theorem errorsForgotten_congr (hcounters : errorCounters after = errorCounters wifi) :
    errorCounters (Write.errorsForgotten.apply after) =
      errorCounters (Write.errorsForgotten.apply wifi) := by
  have hcount : after.fatalErrorCount = wifi.fatalErrorCount := (Prod.mk.inj hcounters).1
  simp only [Write.apply, hcount]
  split
  · rfl
  · exact hcounters

/-- Behind its test of the error count, `EnterCONNECTED` leaves the counters. -/
theorem ensures_enterConnected (hstate : connectsFrom wifi.state = true) (bNotify : Bool) :
    Ensures (enterConnected env bNotify) wifi fun _ after =>
      errorCounters after = errorCounters (Write.errorsForgotten.apply wifi) := by
  have hreset : mayReset wifi.state = false := by
    revert hstate
    cases wifi.state <;> decide
  have hstopped : Ensures stopAsyncEvtTimer wifi fun _ stopped =>
      stopped.state = wifi.state ∧ errorCounters (Write.errorsForgotten.apply stopped) =
        errorCounters (Write.errorsForgotten.apply wifi) :=
    ⟨rfl, errorsForgotten_congr rfl⟩
  apply hstopped.bind
  intro _ stopped hstopped
  rw [Ensures, ends_bind, ends_modify]
  have hforgotten : (Write.errorsForgotten.apply stopped).state = wifi.state := by
    rw [Write.apply]
    split <;> exact hstopped.1
  apply (keeps_runIf (keeps_counters_notifyNetIf hreset .ipAquired) _
    ⟨hforgotten, hstopped.2⟩).bind
  intro _ notified hnotified
  rw [Ensures, ends_bind, ends_modify, ends_bind, ends_get, ends_bind, ends_runIf]
  split
  · exact hnotified.2
  · exact hnotified.2

/-- `EnterCONNECTED` leaves both counters at 0, wherever it finds them so. -/
def ForgetsErrors (env : WifiEnv) (s : BackoffSys) : BackoffAct → Prop
  | .connected => ∀ wifi bNotify after, errorCounters wifi = errorCounters s.wifi →
      connectsFrom wifi.state = true → (enterConnected env bNotify).run wifi = .ok () after →
        errorCounters after = (0, 0)
  | _ => True

/-- The resets before a connection are not a multiple of 256, if there were any. -/
def NotComeRound (s : BackoffSys) : BackoffAct → Prop
  | .connected => s.resets % 256 = 0 → s.resets = 0
  | _ => True

/-- Without a notification, nothing stops `EnterCONNECTED`. -/
theorem exists_enterConnected (env : WifiEnv) (wifi : WifiState) :
    ∃ after, (enterConnected env false).run wifi = .ok () after := by
  have hcompletes : Completes (enterConnected env false) wifi fun _ _ => True := by
    simp only [Completes, enterConnected, stopAsyncEvtTimer, startAsyncEvtTimer, emit, setState,
      ends_bind, ends_modify, ends_get, ends_runIf]
    simp
  exact (hcompletes.and ends_run).elim (fun _ after hboth => ⟨after, hboth.2⟩)
    fun _ _ hboth => hboth.1.elim

theorem counters_eq_zero_iff {counted : ℕ} (hadvanced : Advanced wifi counted) :
    errorCounters wifi = (0, 0) ↔ counted = 0 := by
  have hmax : maxRecoveryLevel = 4 := rfl
  have hlevel := hadvanced.recoveryDelayLevel
  rw [levelAfter, hmax] at hlevel
  constructor
  · intro hzero
    rw [(Prod.mk.inj hzero).2] at hlevel
    change 0 = _ at hlevel
    omega
  · intro hnone
    subst hnone
    exact Prod.ext hadvanced.fatalErrorCount (BitVec.eq_of_toNat_eq hlevel)

/-- A connection without a notification clears the counters then. -/
theorem cleared_of_forgetsErrors (hforgets : ForgetsErrors env s .connected) :
    errorCounters (Write.errorsForgotten.apply s.wifi) = (0, 0) := by
  let calling : WifiState := { s.wifi with state := .waitForConn }
  have hcalling : errorCounters calling = errorCounters s.wifi := rfl
  obtain ⟨entered, hrun⟩ := exists_enterConnected env calling
  have hentered := hforgets calling false entered hcalling rfl hrun
  rwa [(ensures_enterConnected rfl false).of_run hrun, errorsForgotten_congr hcalling] at hentered

theorem forgetsErrors_of_exact (hexact : Exact s) :
    ForgetsErrors env s act ↔ NotComeRound s act := by
  cases act with
  | connected =>
      have hforgotten := counters_eq_zero_iff (advanced_errorsForgotten hexact)
      constructor
      · intro hforgets hround
        have hcleared := cleared_of_forgetsErrors hforgets
        rwa [hforgotten, if_pos hround] at hcleared
      · intro hround wifi bNotify after hsame hstate hrun
        rw [(ensures_enterConnected hstate bNotify).of_run hrun, errorsForgotten_congr hsame,
          hforgotten]
        split
        · exact hround ‹_›
        · rfl
  | _ => exact Iff.rfl

/-- `EnterCONNECTED` forgets all errors throughout a run exactly when the resets before each
connection have not come round to 0. -/
theorem forgetsErrors_iff :
    StepsSatisfy (step env) (ForgetsErrors env) (startedWith wifi) acts ↔
      StepsSatisfy (step env) NotComeRound (startedWith wifi) acts := by
  have hround {s : BackoffSys} {act : BackoffAct} (hround : NotComeRound s act) :
      act = .connected → s.resets % 256 = 0 → s.resets = 0 := by
    rintro rfl
    exact hround
  constructor
  · intro hforgets
    have hexact : StatesSatisfy (step env) Exact (startedWith wifi) acts := by
      refine states_of_steps (fun s act next hexact hforgets hstep => ?_) ⟨rfl, rfl⟩ hforgets
      exact exact_step hexact (hround ((forgetsErrors_of_exact hexact).mp hforgets)) hstep
    intro before act hprefix reached next hreached hnext
    have hbefore : before <+: acts := (List.prefix_append before [act]).trans hprefix
    exact (forgetsErrors_of_exact (hexact before hbefore reached hreached)).mp
      (hforgets before act hprefix reached next hreached hnext)
  · intro hnever
    have hexact : StatesSatisfy (step env) Exact (startedWith wifi) acts :=
      states_of_steps (fun s act next hexact hnever => exact_step hexact (hround hnever))
        ⟨rfl, rfl⟩ hnever
    intro before act hprefix reached next hreached hnext
    have hbefore : before <+: acts := (List.prefix_append before [act]).trans hprefix
    exact (forgetsErrors_of_exact (hexact before hbefore reached hreached)).mpr
      (hnever before act hprefix reached next hreached hnext)

/-- 256 calls of `SlWifiConn_reset`, and then a connection. -/
def resetsBeforeConnection : List WifiAct :=
  List.replicate 256 (.call .reset) ++ posted (.free .enable) ++
    posted (.free (.netApp .ipv4Acquired))

/-- The count of 256 errors is 0, and the connection keeps the level of 4. -/
theorem errorsKept_after_256 :
    (∃ wifi,
      run (WifiMachine.step obedientNwp) (started obedientNwp true false)
        resetsBeforeConnection = some wifi ∧
      wifi.state = .connected ∧ errorCounters wifi = (0, 4)) ∧
      ¬StepsSatisfy (step obedientNwp) (ForgetsErrors obedientNwp) (startedWith powerOn)
        (List.replicate 256 .reset ++ [.connected]) := by
  constructor
  · have hruns : (run (WifiMachine.step obedientNwp) (started obedientNwp true false)
        resetsBeforeConnection).any
          (fun wifi => wifi.state = .connected ∧ errorCounters wifi = (0, 4)) = true := by
      decide +kernel
    obtain ⟨wifi, hrun, hends⟩ := (Option.any_eq_true ..).mp hruns
    exact ⟨wifi, hrun, of_decide_eq_true hends⟩
  · apply not_stepsSatisfy_of_any fun s => errorCounters s.wifi = (0, 4)
    · intro s hkept hforgets
      have hcounters : errorCounters s.wifi = (0, 4) := of_decide_eq_true hkept
      have hcleared := cleared_of_forgetsErrors hforgets
      rw [Write.apply, (Prod.mk.inj hcounters).1, if_neg (by decide), hcounters] at hcleared
      cases hcleared
    · decide +kernel

end Connections

section Module

variable {env : WifiEnv} {wifi after : WifiState}

/-- There is a sequence of resets, connections and other steps that ends here. -/
def Reaches (env : WifiEnv) (start : BackoffSys) (after : WifiState) : Prop :=
  ∃ acts resets, run (step env) start acts = some ⟨after, resets⟩

theorem Reaches.next {start : BackoffSys} (act : BackoffAct) (hreaches : Reaches env start wifi)
    (hstep : ∀ resets, step env ⟨wifi, resets⟩ act = some ⟨after, resetsAfter resets act⟩) :
    Reaches env start after := by
  obtain ⟨acts, resets, hrun⟩ := hreaches
  refine ⟨acts ++ [act], resetsAfter resets act, ?_⟩
  rw [run_concat, hrun]
  exact hstep resets

theorem quiet_reaches {start : BackoffSys} : Quiet (Reaches env start) := by
  intro s after hcounters _ hreaches
  exact hreaches.next (.other after) fun _ => if_pos hcounters

/-- The programs of the module do nothing else to the counters. -/
theorem tolerant_reaches {start : BackoffSys} : Tolerant env (Reaches env start) where
  quiet := quiet_reaches
  resets := by
    intro before hreaches
    apply ensures_run.mono
    intro value after hrun
    refine hreaches.next .reset fun resets => ?_
    simp only [step, hrun]
    rfl
  forgets := fun s hreaches => hreaches.next .connected fun _ => rfl

/-- Each step of the module is a sequence of resets, connections and other steps. -/
theorem reaches_step {start : BackoffSys} {act : WifiAct} (hreaches : Reaches env start wifi)
    (hstep : WifiMachine.step env wifi act = some after) : Reaches env start after := by
  cases stepCase_of_step hstep with
  | call hrun => exact (tolerant_reaches.runCall _).of_run hrun hreaches
  | receive => exact quiet_reaches.same (by rfl) (by rfl) hreaches
  | @process event notified posting _ _ _ _ _ hplays =>
      have hprints : (handling wifi event notified posting).outputs =
          wifi.outputs ++ [.processing wifi.state event] := rfl
      have hhandling : Reaches env start (handling wifi event notified posting) :=
        quiet_reaches.speaks (by rfl) hprints hreaches
      have hfinal := hplays.keeps (fun _ _ _ _ hact => tolerant_reaches.act hact) hhandling
      exact quiet_reaches.same (by rfl) (by rfl) hfinal
  | @destroy notified posting _ _ hrun =>
      have hdestroying : Reaches env start
          { wifi with received := none, notified := notified, posting := posting } :=
        quiet_reaches.same (by rfl) (by rfl) hreaches
      have hfinal := quiet_reaches.deinit.of_run hrun hdestroying
      exact quiet_reaches.same (by rfl) (by rfl) hfinal

/-- Each run of the module behind `SlWifiConn_init` is such a sequence. -/
theorem reaches_run {acts : List WifiAct} (hrun : run (WifiMachine.step env)
      (startedWith wifi).wifi acts = some after) : Reaches env (startedWith wifi) after :=
  run_invariant (fun _ _ _ hreaches hstep => reaches_step hreaches hstep) ⟨[], 0, rfl⟩ hrun

end Module

end SimpleLinkHost.WifiBackoff
