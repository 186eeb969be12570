import SimpleLinkHost.Core.Monitor
import SimpleLinkHost.WifiConn.WifiRuns

/-!
# The reports of the provisioning

The application is told when the provisioning starts and when it stops.  The stop is
reported with the report of the NWP, which is awaited in `PROV_STOPPING`; a stop that is
reported earlier is reported twice, and one that is not awaited is not reported.
-/

namespace SimpleLinkHost.WifiReports

open CallOutcome ProgramInvariant ProgramScript Monitor WifiContext WifiApi WifiMachine WifiFrames
open WifiScripts WifiRuns
open Transition (StatesSatisfy StepsSatisfy)

variable {env : WifiEnv} {s after : WifiState}

section Property

/-- Whether a start was reported and no stop since, and whether the report of the NWP is
still to come in `PROV_STOPPING`. -/
def reportsAfter (seen : Bool × Bool) : Output → Bool × Bool
  | .app (.provisioningStarted _) => (true, seen.2)
  | .app (.provisioningStopped _) => (false, seen.2)
  | .entered .provStopping => (seen.1, true)
  | .processing .provStopping .provStopped => (seen.1, false)
  | _ => seen

/-- A start is reported behind a start, or a stop behind no start. -/
def outOfTurn (seen : Bool × Bool) : Output → Bool
  | .app (.provisioningStarted _) => seen.1
  | .app (.provisioningStopped _) => !seen.1
  | _ => false

def reports (s : WifiState) : Bool × Bool := s.outputs.foldl reportsAfter (false, false)

/-- The reports of a start and of a stop alternate, beginning with a start. -/
def ReportsAlternate (s : WifiState) : Prop :=
  NeverBad reportsAfter outOfTurn (false, false) s.outputs

/-- The events that leave a report out, or have it made twice. -/
def misreports (awaited : Bool) : SmState → SmEvent → Bool
  | .extProvisioning, .timeout | .extProvisioning, .disable => true
  | .provStopping, .extProvCompleted | .provStopping, .addProfile | .provStopping, .timeout
  | .provStopping, .disable => awaited
  | .provStopping, .provStopped | .provStopping, .connected | .provStopping, .error => !awaited
  | _, _ => false

/-- The external configuration starts with a result that was not assigned, and is not 0. -/
def startsUnassigned (env : WifiEnv) (s : WifiState) (event : SmEvent) : Prop :=
  s.state = .waitForConn ∧ event = .timeout ∧ s.bWlanConnectUsed = false ∧ s.provMode ≠ .off ∧
    s.provCmd = env.provisioningCmdExternalConfiguration ∧
      env.uninitialized (s.outputs.length + 1) ≠ 0

/-- If there is an application to report to, the event is reported once. -/
def ReportedOnce (env : WifiEnv) (s : WifiState) : WifiAct → Prop
  | .handle _ _ => s.appCBSet = true → ∀ event, s.received = some event →
      misreports (reports s).2 s.state event = false ∧ ¬startsUnassigned env s event
  | _ => True

/-- What an act reports, and whether it does so in turn. -/
def followReports (appCBSet : Bool) (seen : (Bool × Bool) × Bool) : SmAct → (Bool × Bool) × Bool
  | .informsStarted | .informs (.provisioningStarted _) =>
      if appCBSet then ((true, seen.1.2), seen.2 && !seen.1.1) else seen
  | .informs (.provisioningStopped _) =>
      if appCBSet then ((false, seen.1.2), seen.2 && seen.1.1) else seen
  | .enters .provStopping => ((seen.1.1, true), seen.2)
  | _ => seen

theorem watchesRun_reports : WatchesRun env (watchBad reportsAfter outOfTurn) := by
  intro seen output houtput
  cases output with
  | app | processing | entered => cases houtput
  | _ => simp [watchBad, reportsAfter, outOfTurn]

theorem echoes_reports (callbacks : Bool × Bool) :
    Echoes env callbacks (watchBad reportsAfter outOfTurn) (followReports callbacks.2) := by
  intro seen act said hvoices
  obtain ⟨netIfCBSet, appCBSet⟩ := callbacks
  cases hvoices with
  | tells => cases netIfCBSet <;> simp [heardBy, watchBad, reportsAfter, outOfTurn, followReports]
  | @informs event =>
      cases appCBSet <;> cases event <;>
        simp [heardBy, watchBad, reportsAfter, outOfTurn, followReports]
  | informsStarted | informsStats =>
      cases appCBSet <;> simp [heardBy, watchBad, reportsAfter, outOfTurn, followReports]
  | @enters state =>
      cases state <;> simp [heardBy, watchBad, reportsAfter, outOfTurn, followReports]
  | _ => simp [heardBy, watchBad, reportsAfter, outOfTurn, followReports]

end Property

section Table

variable {script : List SmAct}

/-- Whether a start was reported and no stop since, where every event is reported once. -/
def reportOpen (awaited : Bool) : SmState → Bool
  | .provisioning | .extProvisioning => true
  | .provStopping => awaited
  | _ => false

/-- The reports were made in turn, and say what the state does. -/
def InTurn (appCBSet : Bool) (seen : (Bool × Bool) × Bool) (state : SmState) : Prop :=
  seen.2 = true ∧ (appCBSet = true → seen.1.1 = reportOpen seen.1.2 state)

instance (appCBSet : Bool) (seen : (Bool × Bool) × Bool) (state : SmState) :
    Decidable (InTurn appCBSet seen state) :=
  inferInstanceAs (Decidable (_ ∧ _))

/-- Nothing is reported without an application. -/
theorem inTurn_unset {seen : (Bool × Bool) × Bool} (hkept : seen.2 = true) (state : SmState) :
    InTurn false (script.foldl (followReports false) seen) state := by
  refine ⟨?_, fun hset => by cases hset⟩
  induction script generalizing seen with
  | nil => exact hkept
  | cons act rest ih =>
      apply ih
      unfold followReports
      split <;> exact hkept

/-- What is seen of the reports when an event is processed. -/
def processed (awaited : Bool) (state : SmState) (event : SmEvent) : (Bool × Bool) × Bool :=
  (reportsAfter (reportOpen awaited state, awaited) (.processing state event), true)

/-- Behind the connection timeout, either the reports are in turn or the provisioning
starts. -/
theorem inTurn_connectTimeout (awaited : Bool) :
    ∀ script ∈ connectTimeoutScripts,
      script.take 2 = startTests ∨
        InTurn true (script.foldl (followReports true) (processed awaited .waitForConn .timeout))
          (script.foldl leadsTo .waitForConn) := by
  cases awaited <;> decide +kernel

/-- A start that is reported is in turn. -/
theorem inTurn_started (awaited : Bool) :
    ∀ script ∈ provisioningScripts,
      InTurn true
        ((script ++ [SmAct.informsStarted]).foldl (followReports true)
          (processed awaited .waitForConn .timeout))
        ((script ++ [SmAct.informsStarted]).foldl leadsTo .waitForConn) := by
  cases awaited <;> decide +kernel

/-- Any other event keeps the reports in turn, unless it is not reported once. -/
theorem inTurn_process (awaited : Bool) (state : SmState) (event : SmEvent)
    (hother : ¬(state = .waitForConn ∧ event = .timeout))
    (hreported : misreports awaited state event = false) :
    ∀ script ∈ processScripts state event,
      InTurn true (script.foldl (followReports true) (processed awaited state event))
        (script.foldl leadsTo state) := by
  revert hother hreported
  cases awaited <;> cases state <;> cases event <;> decide +kernel

end Table

section Start

/-- The result of a start, where it is assigned. -/
def Assigned (env : WifiEnv) (s : WifiState) : Prop :=
  s.provCmd = env.provisioningCmdExternalConfiguration → env.uninitialized s.outputs.length = 0

theorem ensures_startProvisioning (hassigned : Assigned env s) :
    Ensures (startProvisioning env s.provCmd) s fun retVal _ => retVal = 0 := by
  rw [startProvisioning]
  split
  · rename_i hexternal
    rw [Ensures, startExternalConfiguration, ends_bind, ends_get]
    apply ensures_run.bind
    intro _ notified _
    exact hassigned hexternal
  · rw [startNwpProvisioning]
    apply ensures_run.bind
    intro _ prepared _
    rw [Ensures, ends_bind, ends_get]
    apply ensures_run.bind
    intro retVal commanded _
    apply ensures_assertThat.bind
    intro _ checked hchecked
    exact hchecked.1

theorem ensures_enterProvisioning (hassigned : Assigned env s) :
    Ensures (enterProvisioning env) s fun retVal _ => retVal = 0 := by
  rw [Ensures, enterProvisioning, ends_bind, ends_get]
  apply (ensures_startProvisioning hassigned).bind
  intro retVal started hstarted
  exact hstarted

/-- A provisioning whose result is 0 is reported behind its script. -/
theorem ensures_connectTimeoutExpired (hused : s.bWlanConnectUsed = false)
    (hmode : s.provMode ≠ .off) (hassigned : Assigned env s) :
    Ensures (connectTimeoutExpired env) s fun _ final =>
      ∃ script ∈ provisioningScripts,
        Plays (Acts env) (script ++ [.informsStarted]) s final := by
  rw [Ensures, connectTimeoutExpired, ends_bind, ends_get, if_neg (by simp [hused]), if_pos hmode,
    ends_bind, ends_runIf]
  split
  · trivial
  apply ((follows_enterProvisioning env s).ensures.and (ensures_enterProvisioning hassigned)).bind
  intro retVal entered hentered
  obtain ⟨⟨script, hscript, hplays⟩, hretVal⟩ := hentered
  rw [Ensures, ends_bind, ends_get, runIf, if_pos hretVal]
  apply ensures_run.bind
  intro _ informed hinforms
  exact ⟨script, hscript, hplays.append (.single (.informsStarted hinforms))⟩

end Start

section Runs

variable {event : SmEvent} {notified : List (List Call)} {posting : List (List FreeCall)}
variable {script : List SmAct} {final : WifiState}

/-- The pass over the record. -/
def reportsSeen (s : WifiState) : (Bool × Bool) × Bool :=
  watched (watchBad reportsAfter outOfTurn) ((false, false), true) s

theorem reportsSeen_eq (s : WifiState) : (reportsSeen s).1 = reports s :=
  (foldl_watchBad reportsAfter outOfTurn (false, false) s.outputs).1

theorem reportsSeen_final
    (hplays : Plays (Acts env) script (handling s event notified posting) final) :
    reportsSeen final = script.foldl (followReports s.appCBSet)
        (watchBad reportsAfter outOfTurn (reportsSeen s) (.processing s.state event)) ∧
      final.state = script.foldl leadsTo s.state := by
  have hwatch : WatchesRun env (watchBad reportsAfter outOfTurn) := watchesRun_reports
  have hseen : watched (watchBad reportsAfter outOfTurn) ((false, false), true) final = _ ∧ _ :=
    handling_watched hwatch.machine (echoes_reports (callbacks s)) rfl hplays
  exact ⟨hseen.1, hseen.2.1⟩

/-- With an application, the pass is where the state says. -/
theorem reportsSeen_processing (hset : s.appCBSet = true)
    (hrest : InTurn s.appCBSet (reportsSeen s) s.state) :
    watchBad reportsAfter outOfTurn (reportsSeen s) (.processing s.state event) =
      processed (reports s).2 s.state event := by
  have hopen : reports s = (reportOpen (reports s).2 s.state, (reports s).2) := by
    rw [← reportsSeen_eq]
    exact Prod.ext (hrest.2 hset) rfl
  rw [watchBad, hrest.1, reportsSeen_eq, processed, ← hopen]
  rfl

/-- Behind the connection timeout, the provisioning starts with a report. -/
theorem inTurn_start (hset : s.appCBSet = true) (hreceived : s.received = some .timeout)
    (hstate : s.state = .waitForConn) (hassigned : ¬startsUnassigned env s .timeout)
    (hrest : InTurn s.appCBSet (reportsSeen s) s.state)
    (hstep : step env s (.handle notified posting) = some (handled final))
    (htests : script.take 2 = startTests)
    (hplays : Plays (Acts env) script (handling s .timeout notified posting) final) :
    InTurn s.appCBSet (reportsSeen final) final.state := by
  obtain ⟨hused, hmode, -⟩ := startTests_plays htests hplays
  have hassigned : Assigned env (handling s .timeout notified posting) := by
    intro hexternal
    by_contra hresult
    have hlength : (handling s .timeout notified posting).outputs.length = s.outputs.length + 1 :=
      List.length_append
    rw [hlength] at hresult
    exact hassigned ⟨hstate, rfl, hused, hmode, hexternal, hresult⟩
  have hhandler : Ensures (smHandler env s.state .timeout) (handling s .timeout notified posting)
      fun _ final => ∃ script ∈ provisioningScripts,
        Plays (Acts env) (script ++ [.informsStarted]) (handling s .timeout notified posting)
          final := by
    rw [hstate]
    exact ensures_connectTimeoutExpired hused hmode hassigned
  obtain ⟨other, ⟨started, hstarted, hother⟩, hhandled⟩ :=
    handled_of_smHandler hreceived (by decide) (by decide) hhandler hstep
  obtain ⟨hseen, hleads⟩ := reportsSeen_final hother
  change InTurn s.appCBSet (reportsSeen (handled final)) (handled final).state
  rw [hhandled]
  change InTurn s.appCBSet (reportsSeen other) other.state
  rw [hseen, hleads, reportsSeen_processing hset hrest, hset, hstate]
  exact inTurn_started _ started hstarted

/-- An event that is reported once keeps the reports in turn. -/
theorem inTurn_handled (hreceived : s.received = some event)
    (hreported : ReportedOnce env s (.handle notified posting))
    (hrest : InTurn s.appCBSet (reportsSeen s) s.state)
    (hstep : step env s (.handle notified posting) = some (handled final))
    (hscript : script ∈ processScripts s.state event)
    (hplays : Plays (Acts env) script (handling s event notified posting) final) :
    InTurn s.appCBSet (reportsSeen final) final.state := by
  obtain ⟨hseen, hleads⟩ := reportsSeen_final hplays
  cases hset : s.appCBSet with
  | false =>
      rw [hseen, hset]
      apply inTurn_unset
      rw [watchBad, hrest.1]
      rfl
  | true =>
      obtain ⟨honce, hassigned⟩ := hreported hset event hreceived
      rw [reportsSeen_processing hset hrest, hset] at hseen
      by_cases hcase : s.state = .waitForConn ∧ event = .timeout
      · obtain ⟨hstate, htimeout⟩ := hcase
        subst htimeout
        rw [hstate] at hscript
        cases inTurn_connectTimeout (reports s).2 script hscript with
        | inl htests =>
            rw [← hset]
            exact inTurn_start hset hreceived hstate hassigned hrest hstep htests hplays
        | inr hkept =>
            rw [hseen, hleads, hstate]
            exact hkept
      · rw [hseen, hleads]
        exact inTurn_process (reports s).2 s.state event hcase honce script hscript

/-- If the events of a run are reported once, a start and a stop are reported in turn. -/
theorem reportsAlternate_of_reportedOnce (hstarted : Started env s) {acts : List WifiAct}
    (hsteps : StepsSatisfy (step env) (ReportedOnce env) s acts) :
    StatesSatisfy (step env) ReportsAlternate s acts := by
  have hstates : StatesSatisfy (step env)
      (fun other => InTurn s.appCBSet
        (watched (watchBad reportsAfter outOfTurn) ((false, false), true) other) other.state)
      s acts := by
    apply watched_run_of_final watchesRun_reports (echoes_reports (callbacks s)) _ rfl hstarted _
      hsteps
    · intro before event notified posting script final hcbs hreceived hcondition hstep hscript
        hplays hrest
      have happ : before.appCBSet = s.appCBSet := congrArg Prod.snd hcbs
      rw [← happ] at hrest ⊢
      exact inTurn_handled hreceived hcondition hrest hstep hscript hplays
    · exact ⟨rfl, fun _ => rfl⟩
  intro before hbefore reached hreached
  have hrest := hstates before hbefore reached hreached
  exact (foldl_watchBad reportsAfter outOfTurn (false, false) reached.outputs).2.mp hrest.1

/-- The external configuration is awaited until it times out, and the NWP reports its
stop. -/
def untilExternalTimeout : List WifiAct :=
  untilProvisioning ++ posted (.free (.provisioningStatus .externalConfigurationReady)) ++
    posted (.free .timerExpires) ++
    posted (.free (.provisioningStatus (.stopped roleAp false)))

/-- The stop of the provisioning is reported twice. -/
theorem reportsAlternate_broken :
    Started obedientNwp (started obedientNwp true false) ∧
      ¬StatesSatisfy (step obedientNwp) ReportsAlternate (started obedientNwp true false)
        untilExternalTimeout := by
  refine ⟨⟨powerOn, true, false, rfl, rfl⟩, ?_⟩
  apply Transition.not_statesSatisfy_of_any fun s => !(reportsSeen s).2
  · intro s hfails halternate
    have hkept : (reportsSeen s).2 = true :=
      (foldl_watchBad reportsAfter outOfTurn (false, false) s.outputs).2.mpr halternate
    rw [hkept] at hfails
    cases hfails
  · decide +kernel

/-- The condition, computed. -/
def reportedOnce (env : WifiEnv) (s : WifiState) : WifiAct → Bool
  | .handle _ _ => s.received.all fun event =>
      !misreports (reports s).2 s.state event &&
        (s.state ≠ .waitForConn || s.provCmd ≠ env.provisioningCmdExternalConfiguration)
  | _ => true

theorem reportedOnce_sound (s : WifiState) (act : WifiAct)
    (hcheck : reportedOnce env s act = true) : ReportedOnce env s act := by
  cases act with
  | handle notified posting =>
      intro _ event hreceived
      rw [reportedOnce, hreceived, Option.all_some, Bool.and_eq_true] at hcheck
      refine ⟨by simpa using hcheck.1, fun hunassigned => ?_⟩
      obtain ⟨hstate, -, -, -, hexternal, -⟩ := hunassigned
      simp [hstate, hexternal] at hcheck
  | _ => trivial

/-- The provisioning is stopped by its timer, starts again, and ends with a connection. -/
theorem reportsAlternate_again :
    StatesSatisfy (step obedientNwp) ReportsAlternate (started obedientNwp true false)
      (untilProvisioning ++ posted (.free .timerExpires) ++
        posted (.free (.provisioningStatus (.stopped roleAp false))) ++
        [.receive, .handle [] []] ++ posted (.free .timerExpires) ++
        posted (.free .timerExpires) ++
        posted (.free (.provisioningStatus .confirmationStatusSuccess)) ++
        posted (.free (.wlanConnect [1, 2, 3, 4, 5, 6]))) :=
  reportsAlternate_of_reportedOnce ⟨powerOn, true, false, rfl, rfl⟩
    (Transition.stepsSatisfy_of_check (reportedOnce obedientNwp) reportedOnce_sound
      (by decide +kernel))

end Runs

end SimpleLinkHost.WifiReports
