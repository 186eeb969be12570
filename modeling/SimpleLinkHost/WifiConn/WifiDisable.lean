import SimpleLinkHost.Core.Monitor
import SimpleLinkHost.WifiConn.WifiRuns

/-!
# Disabled until enabled

A DISABLE event that was processed, be it by deferring it, keeps the machine from
`CONNECTED` as long as nothing overtakes it in `PROV_STOPPING`.  There the reports of
the provisioning that is being stopped, a timeout, an error and an added profile all
lead on without a look at the deferred events.
-/

namespace SimpleLinkHost.WifiDisable

open CallOutcome ProgramInvariant ProgramScript Monitor WifiContext WifiApi WifiMachine WifiFrames
open WifiScripts WifiRuns
open Transition (StatesSatisfy StepsSatisfy)

variable {env : WifiEnv} {s : WifiState}

section Property

/-- Whether a DISABLE event was processed, and no ENABLE event since. -/
def downAfter (down : Bool) : Output → Bool
  | .processing _ .disable => true
  | .processing _ .enable => false
  | _ => down

/-- The machine enters `CONNECTED`, or reports an address, while it is down. -/
def connectsWhile (down : Bool) : Output → Bool
  | .entered .connected | .netIf .ipAquired => down
  | _ => false

def isDown (s : WifiState) : Bool := s.outputs.foldl downAfter false

/-- Once a DISABLE event was processed, nothing connects until an ENABLE event is. -/
def StaysDown (s : WifiState) : Prop := NeverBad downAfter connectsWhile false s.outputs

def followDown (callbacks : Bool × Bool) (seen : Bool × Bool) : SmAct → Bool × Bool
  | .tells .ipAquired => (seen.1, seen.2 && !(callbacks.1 && seen.1))
  | .enters .connected => (seen.1, seen.2 && !seen.1)
  | _ => seen

theorem watchesRun_down : WatchesRun env (watchBad downAfter connectsWhile) := by
  intro seen output houtput
  cases output with
  | netIf | app | processing | entered => cases houtput
  | _ => simp [watchBad, downAfter, connectsWhile]

theorem echoes_down (callbacks : Bool × Bool) :
    Echoes env callbacks (watchBad downAfter connectsWhile) (followDown callbacks) := by
  intro seen act said hvoices
  obtain ⟨netIfCBSet, appCBSet⟩ := callbacks
  cases hvoices with
  | @tells event =>
      cases event <;> cases netIfCBSet <;>
        simp [heardBy, watchBad, downAfter, connectsWhile, followDown]
  | informs | informsStarted | informsStats =>
      cases appCBSet <;> simp [heardBy, watchBad, downAfter, connectsWhile, followDown]
  | @enters state =>
      cases state <;> simp [heardBy, watchBad, downAfter, connectsWhile, followDown]
  | _ => simp [heardBy, watchBad, downAfter, connectsWhile, followDown]

end Property

section Table

/-- While the machine is down it is in `OFF` or awaits the stop of the provisioning. -/
def DownRest (seen : Bool × Bool) (state : SmState) : Prop :=
  seen.2 = true ∧ (seen.1 = true → state = .off ∨ state = .provStopping)

instance (seen : Bool × Bool) (state : SmState) : Decidable (DownRest seen state) :=
  inferInstanceAs (Decidable (_ ∧ _))

/-- Nothing is bad while the machine is not down. -/
theorem followDown_up (callbacks : Bool × Bool) (script : List SmAct) :
    script.foldl (followDown callbacks) (false, true) = (false, true) := by
  induction script with
  | nil => rfl
  | cons act rest ih =>
      have hact : followDown callbacks (false, true) act = (false, true) := by
        unfold followDown
        split <;> simp
      rw [List.foldl_cons, hact, ih]

/-- A DISABLE event leads from everywhere to `OFF` or to the stop of the provisioning. -/
theorem downRest_disable (callbacks : Bool × Bool) (state : SmState) :
    ∀ script ∈ processScripts state .disable,
      DownRest (script.foldl (followDown callbacks) (true, true)) (script.foldl leadsTo state) := by
  obtain ⟨netIfCBSet, appCBSet⟩ := callbacks
  cases state <;> cases netIfCBSet <;> cases appCBSet <;> decide

/-- In `OFF` only an ENABLE event does anything. -/
theorem downRest_off (callbacks : Bool × Bool) {event : SmEvent} (hevent : event ≠ .enable) :
    ∀ script ∈ processScripts .off event,
      DownRest (script.foldl (followDown callbacks) (true, true)) (script.foldl leadsTo .off) := by
  obtain ⟨netIfCBSet, appCBSet⟩ := callbacks
  cases event with
  | enable => exact absurd rfl hevent
  | _ => cases netIfCBSet <;> cases appCBSet <;> decide

/-- The events that overtake a deferred DISABLE event in `PROV_STOPPING`. -/
def overtakes : SmEvent → Bool
  | .connected | .extProvCompleted | .addProfile | .error | .timeout => true
  | _ => false

/-- No other event leads out of `PROV_STOPPING`, where a deferred event is replayed. -/
theorem downRest_provStopping (callbacks : Bool × Bool) {event : SmEvent}
    (hevent : overtakes event = false) :
    ∀ script ∈ processScripts .provStopping event, .drains false ∉ script →
      DownRest (script.foldl (followDown callbacks) (true, true))
        (script.foldl leadsTo .provStopping) := by
  obtain ⟨netIfCBSet, appCBSet⟩ := callbacks
  cases event with
  | connected | extProvCompleted | addProfile | error | timeout => cases hevent
  | _ => cases netIfCBSet <;> cases appCBSet <;> decide

/-- The scripts of a reported stop inform the application first. -/
theorem provStopped_drains :
    ∀ script ∈ processScripts .provStopping .provStopped, .drains false ∈ script →
      script.take 2 = [.informs (.provisioningStopped .stopped), .drains false] := by
  decide

end Table

section Runs

/-- In `PROV_STOPPING`, while the machine is down, nothing overtakes the deferred events:
the stop of the provisioning is reported with an event to replay, and none of the five
events that lead on is processed. -/
def NotOvertaken (s : WifiState) : WifiAct → Prop
  | .handle _ _ => isDown s → s.state = .provStopping → ∀ event, s.received = some event →
      overtakes event = false ∧ (event = .provStopped → s.deferredEventQ ≠ [])
  | _ => True

/-- With an event to replay, the connection is not tried in place of it. -/
theorem not_drains_false {event : SmEvent} {script : List SmAct} {after : WifiState}
    (hscript : script ∈ processScripts .provStopping event) (hevent : overtakes event = false)
    (hdeferred : event = .provStopped → s.deferredEventQ ≠ [])
    (hplays : Plays (Acts env) script s after) : .drains false ∉ script := by
  intro hdrains
  have hstopped : event = .provStopped := by
    by_contra hother
    have hnone : ∀ script ∈ processScripts .provStopping event, .drains false ∉ script := by
      cases event with
      | connected | extProvCompleted | addProfile | error | timeout => cases hevent
      | provStopped => exact absurd rfl hother
      | _ => decide
    exact hnone script hscript hdrains
  subst hstopped
  have hsplit : script =
      .informs (.provisioningStopped .stopped) :: .drains false :: script.drop 2 := by
    have htake := provStopped_drains script hscript hdrains
    rw [← List.take_append_drop 2 script, htake]
    rfl
  rw [hsplit, plays_cons] at hplays
  obtain ⟨informed, hinforms, hrest⟩ := hplays
  obtain ⟨drained, hdrain, -⟩ := plays_cons.mp hrest
  have hempty : informed.deferredEventQ = [] := by
    by_contra hnonempty
    exact Bool.false_ne_true ((drains_iff hdrain).mpr hnonempty)
  have hkept := informs_keeps_deferred hinforms
  rw [hempty, List.prefix_nil] at hkept
  exact hdeferred rfl hkept

/-- Processing an event keeps the machine down, unless the event overtakes. -/
theorem downRest_process {cbs : Bool × Bool} {event : SmEvent}
    {notified : List (List Call)} {posting : List (List FreeCall)} {script : List SmAct}
    {final : WifiState}
    (hreceived : s.received = some event) (hcondition : NotOvertaken s (.handle notified posting))
    (hscript : script ∈ processScripts s.state event)
    (hplays : Plays (Acts env) script (handling s event notified posting) final)
    (hrest : DownRest (watched (watchBad downAfter connectsWhile) (false, true) s) s.state) :
    DownRest (script.foldl (followDown cbs)
        (watchBad downAfter connectsWhile
          (watched (watchBad downAfter connectsWhile) (false, true) s)
          (.processing s.state event)))
      (script.foldl leadsTo s.state) := by
  have hdown : (watched (watchBad downAfter connectsWhile) (false, true) s).1 = isDown s :=
    (foldl_watchBad downAfter connectsWhile false s.outputs).1
  obtain ⟨hkept, hstate⟩ := hrest
  rw [hdown] at hstate
  have hprinted : watchBad downAfter connectsWhile
      (watched (watchBad downAfter connectsWhile) (false, true) s) (.processing s.state event) =
        (downAfter (isDown s) (.processing s.state event), true) := by
    rw [watchBad, hdown, hkept]
    rfl
  rw [hprinted]
  by_cases hdisable : event = .disable
  · subst hdisable
    exact downRest_disable cbs s.state script hscript
  by_cases hafter : downAfter (isDown s) (.processing s.state event) = true
  · have hboth : isDown s = true ∧ event ≠ .enable := by
      cases event with
      | enable => cases hafter
      | disable => exact absurd rfl hdisable
      | _ => exact ⟨hafter, fun henable => by cases henable⟩
    rw [hafter]
    cases hstate hboth.1 with
    | inl hoff =>
        rw [hoff] at hscript ⊢
        exact downRest_off cbs hboth.2 script hscript
    | inr hstopping =>
        obtain ⟨hevent, hdeferred⟩ := hcondition hboth.1 hstopping event hreceived
        rw [hstopping] at hscript ⊢
        apply downRest_provStopping cbs hevent script hscript
        have hqueue : event = .provStopped →
            (handling s event notified posting).deferredEventQ ≠ [] := hdeferred
        exact not_drains_false hscript hevent hqueue hplays
  · rw [Bool.not_eq_true] at hafter
    rw [hafter, followDown_up]
    exact ⟨rfl, fun hdown => by cases hdown⟩

/-- As long as no event overtakes a deferred DISABLE event in `PROV_STOPPING`, the
machine stays down in every run. -/
theorem staysDown_of_notOvertaken (hstarted : Started env s) {acts : List WifiAct}
    (hsteps : StepsSatisfy (step env) NotOvertaken s acts) :
    StatesSatisfy (step env) StaysDown s acts := by
  have hstates : StatesSatisfy (step env)
      (fun s => DownRest (watched (watchBad downAfter connectsWhile) (false, true) s) s.state)
      s acts := by
    apply watched_run watchesRun_down (echoes_down (callbacks s)) _ rfl hstarted _ hsteps
    · intro s event notified posting script final _ hreceived hcondition hscript hplays hrest
      exact downRest_process hreceived hcondition hscript hplays hrest
    · exact ⟨rfl, fun hdown => by cases hdown⟩
  intro before hbefore reached hreached
  exact (foldl_watchBad downAfter connectsWhile false _).2.mp
    (hstates before hbefore reached hreached).1

/-- The provisioning that a DISABLE event stops may have connected already. -/
theorem staysDown_broken :
    Started obedientNwp (started obedientNwp true false) ∧
      ¬StatesSatisfy (step obedientNwp) StaysDown (started obedientNwp true false)
        (untilProvisioning ++ posted (.free .disable) ++
          posted (.free (.provisioningStatus (.stopped roleSta true)))) := by
  refine ⟨⟨powerOn, true, false, rfl, rfl⟩, ?_⟩
  apply Transition.not_statesSatisfy_of_any
    (fun s => !(s.outputs.foldl (watchBad downAfter connectsWhile) (false, true)).2)
  · intro s hfails hdown
    rw [(foldl_watchBad downAfter connectsWhile false s.outputs).2.mpr hdown] at hfails
    cases hfails
  · decide +kernel

/-- The condition, computed. -/
def notOvertaken (s : WifiState) : WifiAct → Bool
  | .handle _ _ => !isDown s || s.state ≠ .provStopping || s.received.all fun event =>
      !overtakes event && (event ≠ .provStopped || !s.deferredEventQ.isEmpty)
  | _ => true

theorem notOvertaken_sound (s : WifiState) (act : WifiAct) (hcheck : notOvertaken s act = true) :
    NotOvertaken s act := by
  cases act with
  | handle notified posting =>
      intro hdown hstate event hreceived
      simpa [notOvertaken, hdown, hstate, hreceived, imp_iff_not_or] using hcheck
  | _ => trivial

/-- A DISABLE event that is deferred, replayed and processed again. -/
theorem staysDown_replayed :
    StatesSatisfy (step obedientNwp) StaysDown (started obedientNwp true false)
      (untilProvisioning ++ posted (.free .disable) ++
        posted (.free (.provisioningStatus (.stopped roleAp false))) ++
        [.receive, .handle [] []]) :=
  staysDown_of_notOvertaken ⟨powerOn, true, false, rfl, rfl⟩
    (Transition.stepsSatisfy_of_check notOvertaken notOvertaken_sound (by decide +kernel))

end Runs

end SimpleLinkHost.WifiDisable
