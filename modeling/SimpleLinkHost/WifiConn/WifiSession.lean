import SimpleLinkHost.Core.Monitor
import SimpleLinkHost.WifiConn.WifiRuns

/-!
# Provisioning sessions

A session is open from the command that starts it until the NWP's report of its stop
is processed.  The machine awaits the report in `PROV_STOPPING`, as long as none of the
events comes first that lead on from there, or from `EXT_PROVISIONING` to `OFF`.
-/

namespace SimpleLinkHost.WifiSession

open CallOutcome ProgramInvariant ProgramScript Monitor WifiContext WifiApi WifiMachine WifiFrames
open WifiScripts WifiRuns
open Transition (StatesSatisfy StepsSatisfy)

variable {env : WifiEnv} {s after : WifiState} {inPlace : ℕ → Bool}

section Property

/-- How many CONNECTED events were processed, and whether a session is open.  A CONNECTED
event ends the session if it was sent in place of the report; the event does not tell,
so `inPlace` says it of each. -/
def sessionAfter (env : WifiEnv) (inPlace : ℕ → Bool) (seen : ℕ × Bool) : Output → ℕ × Bool
  | .nwp (.provisioning cmd _ _ _ _) => (seen.1, seen.2 || cmd ≠ env.provisioningCmdStop)
  | .processing _ .provStopped => (seen.1, false)
  | .processing _ .connected => (seen.1 + 1, seen.2 && !inPlace seen.1)
  | _ => seen

/-- A session is started while one is open. -/
def startsOpen (env : WifiEnv) (seen : ℕ × Bool) : Output → Bool
  | .nwp (.provisioning cmd _ _ _ _) => seen.2 && cmd ≠ env.provisioningCmdStop
  | _ => false

def session (env : WifiEnv) (inPlace : ℕ → Bool) (s : WifiState) : ℕ × Bool :=
  s.outputs.foldl (sessionAfter env inPlace) (0, false)

/-- No session is started while one is open, and an open session is awaited in a
provisioning state. -/
def SessionsApart (env : WifiEnv) (inPlace : ℕ → Bool) (s : WifiState) : Prop :=
  NeverBad (sessionAfter env inPlace) (startsOpen env) (0, false) s.outputs ∧
    ((session env inPlace s).2 = true → SmState.ofProvisioning s.state = true)

/-- What an act does to a session, and whether no session was started while one was
open. -/
def followSession (seen : Bool × Bool) : SmAct → Bool × Bool
  | .startsProvisioning => (true, seen.2 && !seen.1)
  | _ => seen

def followCounted (seen : (ℕ × Bool) × Bool) (act : SmAct) : (ℕ × Bool) × Bool :=
  ((seen.1.1, (followSession (seen.1.2, seen.2) act).1), (followSession (seen.1.2, seen.2) act).2)

theorem foldl_followCounted (script : List SmAct) (seen : ℕ × Bool) (kept : Bool) :
    script.foldl followCounted (seen, kept) =
      ((seen.1, (script.foldl followSession (seen.2, kept)).1),
        (script.foldl followSession (seen.2, kept)).2) := by
  induction script generalizing seen kept with
  | nil => rfl
  | cons act rest ih =>
      rw [List.foldl_cons, List.foldl_cons]
      exact ih _ _

theorem watchesRun_session :
    WatchesRun env (watchBad (sessionAfter env inPlace) (startsOpen env)) := by
  intro seen output houtput
  cases output with
  | nwp call =>
      cases call with
      | provisioning cmd role timeout key flags =>
          have hstop : cmd = env.provisioningCmdStop := by simpa [ofRun] using houtput
          simp [watchBad, sessionAfter, startsOpen, hstop]
      | _ => simp [watchBad, sessionAfter, startsOpen]
  | netIf | app | processing | entered => cases houtput
  | _ => simp [watchBad, sessionAfter, startsOpen]

theorem echoes_session (callbacks : Bool × Bool) :
    Echoes env callbacks (watchBad (sessionAfter env inPlace) (startsOpen env))
      followCounted := by
  intro seen act said hvoices
  obtain ⟨netIfCBSet, appCBSet⟩ := callbacks
  cases hvoices with
  | tells =>
      cases netIfCBSet <;> simp [heardBy, watchBad, sessionAfter, startsOpen, followCounted,
        followSession]
  | informs | informsStarted | informsStats =>
      cases appCBSet <;> simp [heardBy, watchBad, sessionAfter, startsOpen, followCounted,
        followSession]
  | startsProvisioning hcmd =>
      simp [heardBy, watchBad, sessionAfter, startsOpen, followCounted, followSession, hcmd]
  | @asks call hplain =>
      cases call with
      | provisioning => cases hplain
      | _ => simp [heardBy, watchBad, sessionAfter, startsOpen, followCounted, followSession]
  | _ => simp [heardBy, watchBad, sessionAfter, startsOpen, followCounted, followSession]

end Property

section Table

/-- An open session is in a provisioning state, and was started with none open. -/
def SessionRest (seen : Bool × Bool) (state : SmState) : Prop :=
  seen.2 = true ∧ (seen.1 = true → SmState.ofProvisioning state = true)

instance (seen : Bool × Bool) (state : SmState) : Decidable (SessionRest seen state) :=
  inferInstanceAs (Decidable (_ ∧ _))

theorem sessionRest_closed (state : SmState) (event : SmEvent) :
    ∀ script ∈ processScripts state event,
      SessionRest (script.foldl followSession (false, true)) (script.foldl leadsTo state) := by
  cases state <;> cases event <;> decide +kernel

/-- The events that lead on from a state without the report of the stop; an error does so
unless the configuration is external. -/
def leadsOn (config : WifiConfig) (s : WifiState) : SmEvent → Bool
  | .connected | .extProvCompleted | .addProfile | .timeout => s.state = .provStopping
  | .disable => s.state = .provStopping ∨ s.state = .extProvisioning
  | .error => s.state = .provStopping ∧ s.provCmd ≠ config.provisioningCmdExternalConfiguration
  | _ => false

theorem sessionRest_error :
    ∀ script ∈ processScripts .provStopping .error,
      SessionRest (script.foldl followSession (true, true)) (script.foldl leadsTo .provStopping) ∨
        script.take 1 = [.finds .external false] := by
  decide +kernel

/-- An open session stays in the provisioning states, unless the event leads on. -/
theorem sessionRest_open {event : SmEvent} {script : List SmAct}
    (hstate : SmState.ofProvisioning s.state = true) (hreport : event ≠ .provStopped)
    (hleads : leadsOn env.toWifiConfig s event = false)
    (hscript : script ∈ processScripts s.state event) (hplays : Plays (Acts env) script s after) :
    SessionRest (script.foldl followSession (true, true)) (script.foldl leadsTo s.state) := by
  have hother (state : SmState) (hstate : s.state = state)
      (htable : ∀ script ∈ processScripts state event,
        SessionRest (script.foldl followSession (true, true)) (script.foldl leadsTo state)) :
      SessionRest (script.foldl followSession (true, true)) (script.foldl leadsTo s.state) := by
    subst hstate
    exact htable script hscript
  cases hcases : s.state with
  | provisioning =>
      rw [← hcases]
      apply hother .provisioning hcases
      cases event with
      | provStopped => exact absurd rfl hreport
      | _ => decide +kernel
  | extProvisioning =>
      rw [← hcases]
      apply hother .extProvisioning hcases
      cases event with
      | disable => simp [leadsOn, hcases] at hleads
      | _ => decide +kernel
  | provStopping =>
      cases event with
      | connected | extProvCompleted | addProfile | timeout | disable =>
          simp [leadsOn, hcases] at hleads
      | provStopped => exact absurd rfl hreport
      | error =>
          rw [hcases] at hscript
          cases sessionRest_error script hscript with
          | inl hrest => exact hrest
          | inr hfirst =>
              rw [← List.take_append_drop 1 script, hfirst, List.singleton_append,
                plays_cons] at hplays
              obtain ⟨_, hfinds, -⟩ := hplays
              have hexternal := (finds_iff hfinds).2
              simp [leadsOn, hcases] at hleads
              simp [Test.passes, hleads] at hexternal
      | _ =>
          rw [← hcases]
          apply hother .provStopping hcases
          decide +kernel
  | _ => simp [hcases, SmState.ofProvisioning] at hstate

end Table

section Runs

/-- While a session stays open, the event that is processed does not lead on. -/
def StopAwaited (env : WifiEnv) (inPlace : ℕ → Bool) (s : WifiState) : WifiAct → Prop
  | .handle _ _ => ∀ event, s.received = some event →
      (sessionAfter env inPlace (session env inPlace s) (.processing s.state event)).2 = true →
        leadsOn env.toWifiConfig s event = false
  | _ => True

/-- Processing an event keeps the sessions apart, unless the event leads on. -/
theorem sessionRest_process {event : SmEvent} {notified : List (List Call)}
    {posting : List (List FreeCall)} {script : List SmAct} {final : WifiState}
    (hreceived : s.received = some event)
    (hawaited : StopAwaited env inPlace s (.handle notified posting))
    (hscript : script ∈ processScripts s.state event)
    (hplays : Plays (Acts env) script (handling s event notified posting) final)
    (hrest : SessionRest ((session env inPlace s).2, true) s.state) :
    SessionRest
      (script.foldl followSession
        ((sessionAfter env inPlace (session env inPlace s) (.processing s.state event)).2, true))
      (script.foldl leadsTo s.state) := by
  by_cases hopen :
      (sessionAfter env inPlace (session env inPlace s) (.processing s.state event)).2 = true
  · have hboth : (session env inPlace s).2 = true ∧ event ≠ .provStopped := by
      cases event with
      | provStopped => cases hopen
      | connected =>
          have hwas := (Bool.and_eq_true_iff.mp hopen).1
          exact ⟨hwas, fun hreport => by cases hreport⟩
      | _ => exact ⟨hopen, fun hreport => by cases hreport⟩
    rw [hopen]
    exact sessionRest_open (s := handling s event notified posting) (hrest.2 hboth.1) hboth.2
      (hawaited event hreceived hopen) hscript hplays
  · rw [Bool.not_eq_true] at hopen
    rw [hopen]
    exact sessionRest_closed s.state event script hscript

/-- The pass over the record finds the sessions apart so far. -/
def CountedRest (seen : (ℕ × Bool) × Bool) (state : SmState) : Prop :=
  SessionRest (seen.1.2, seen.2) state

/-- In a run in which no event leads on while a session stays open, the sessions are
apart, and an open session is awaited in a provisioning state. -/
theorem sessionsApart_of_stopAwaited (hstarted : Started env s) {acts : List WifiAct}
    (hsteps : StepsSatisfy (step env) (StopAwaited env inPlace) s acts) :
    StatesSatisfy (step env) (SessionsApart env inPlace) s acts := by
  have hstates : StatesSatisfy (step env)
      (fun s => CountedRest
        (watched (watchBad (sessionAfter env inPlace) (startsOpen env)) ((0, false), true) s)
        s.state) s acts := by
    apply watched_run watchesRun_session (echoes_session (callbacks s)) _ rfl hstarted _ hsteps
    · intro s event notified posting script final _ hreceived hawaited hscript hplays hrest
      have hseen :
          (watched (watchBad (sessionAfter env inPlace) (startsOpen env)) ((0, false), true) s).1 =
            session env inPlace s :=
        (foldl_watchBad (sessionAfter env inPlace) (startsOpen env) (0, false) s.outputs).1
      rw [CountedRest] at hrest
      have hkept := hrest.1
      have hprinted : watchBad (sessionAfter env inPlace) (startsOpen env)
          (watched (watchBad (sessionAfter env inPlace) (startsOpen env)) ((0, false), true) s)
            (.processing s.state event) =
          (sessionAfter env inPlace (session env inPlace s) (.processing s.state event), true) := by
        rw [watchBad, hseen, hkept]
        rfl
      rw [CountedRest, hprinted, foldl_followCounted]
      rw [hseen, hkept] at hrest
      exact sessionRest_process hreceived hawaited hscript hplays hrest
    · exact ⟨rfl, fun hopen => by cases hopen⟩
  intro before hbefore reached hreached
  have hrest := hstates before hbefore reached hreached
  have hpass := foldl_watchBad (sessionAfter env inPlace) (startsOpen env) (0, false)
    reached.outputs
  refine ⟨hpass.2.mp hrest.1, fun hopen => hrest.2 ?_⟩
  rw [session, ← hpass.1] at hopen
  exact hopen

/-- A profile that is added while the stop of the provisioning is awaited. -/
def lateProfile : AddProfile where
  profile := ⟨[0x61], none, 0, [], [], [], 0⟩
  extParams := false
  nonPersistent := false
  added := -2014
  allocated := true

/-- The machine does not await the stop if a profile is added, and starts to provision
again. -/
theorem sessionsApart_broken :
    Started obedientNwp (started obedientNwp true false) ∧
      ¬StatesSatisfy (step obedientNwp) (SessionsApart obedientNwp fun _ => false)
        (started obedientNwp true false)
        (untilProvisioning ++ posted (.free .disable) ++ posted (.addProfile lateProfile)) := by
  refine ⟨⟨powerOn, true, false, rfl, rfl⟩, ?_⟩
  apply Transition.not_statesSatisfy_of_any fun s =>
    (session obedientNwp (fun _ => false) s).2 && !SmState.ofProvisioning s.state
  · intro s hfails hapart
    rw [Bool.and_eq_true] at hfails
    rw [hapart.2 hfails.1] at hfails
    cases hfails.2
  · decide +kernel

/-- The condition, computed. -/
def stopAwaited (env : WifiEnv) (inPlace : ℕ → Bool) (s : WifiState) : WifiAct → Bool
  | .handle _ _ => s.received.all fun event =>
      !(sessionAfter env inPlace (session env inPlace s) (.processing s.state event)).2 ||
        !leadsOn env.toWifiConfig s event
  | _ => true

theorem stopAwaited_sound (s : WifiState) (act : WifiAct)
    (hcheck : stopAwaited env inPlace s act = true) : StopAwaited env inPlace s act := by
  cases act with
  | handle notified posting =>
      intro event hreceived hopen
      simpa [stopAwaited, hreceived, hopen] using hcheck
  | _ => trivial

/-- A session is stopped by its timer, and another one is started behind its report. -/
theorem sessionsApart_again :
    StatesSatisfy (step obedientNwp) (SessionsApart obedientNwp fun _ => false)
      (started obedientNwp true false)
      (untilProvisioning ++ posted (.free .timerExpires) ++
        posted (.free (.provisioningStatus (.stopped roleAp false))) ++
        [.receive, .handle [] []] ++ posted (.addProfile lateProfile) ++
        posted (.free .timerExpires)) :=
  sessionsApart_of_stopAwaited ⟨powerOn, true, false, rfl, rfl⟩
    (Transition.stepsSatisfy_of_check (stopAwaited obedientNwp fun _ => false) stopAwaited_sound
      (by decide +kernel))

end Runs

end SimpleLinkHost.WifiSession
