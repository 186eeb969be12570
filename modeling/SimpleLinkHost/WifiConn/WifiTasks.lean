import SimpleLinkHost.WifiConn.WifiRuns

/-!
# The tasks of the application

In `EXT_PROVISIONING` the application runs a task of its own, which it is asked to start on
entry: the external provisioning, or the cloud confirmation.  The machine may leave the
state without asking for that task to be stopped.
-/

namespace SimpleLinkHost.WifiTasks

open CallOutcome ProgramInvariant ProgramScript WifiContext WifiApi WifiMachine WifiFrames
open WifiScripts WifiRuns
open Transition (StatesSatisfy StepsSatisfy)

variable {env : WifiEnv} {s after : WifiState}

section Property

inductive ExternalTask
  | provisioning
  | confirmation
deriving DecidableEq

/-- The task that the application was asked to start, until it is asked to stop it or the
events come that end it. -/
def taskAfter (task : Option ExternalTask) : Output → Option ExternalTask
  | .app .externalProvisioningStartReq => some .provisioning
  | .app .cloudConfirmationStartReq => some .confirmation
  | .app .externalProvisioningStopReq => if task = some .provisioning then none else task
  | .app .cloudConfirmationStopReq => if task = some .confirmation then none else task
  | .processing .extProvisioning .extProvCompleted | .processing .extProvisioning .addProfile =>
      none
  | _ => task

def task (s : WifiState) : Option ExternalTask := s.outputs.foldl taskAfter none

/-- Outside of `EXT_PROVISIONING`, no task is left running. -/
def TaskStopped (s : WifiState) : Prop := s.state ≠ .extProvisioning → task s = none

/-- The events that leave `EXT_PROVISIONING` with the task stopped, or that stay there. -/
def stops (config : WifiConfig) (s : WifiState) (started : ExternalTask) : SmEvent → Bool
  | .timeout =>
      (started = .confirmation) = (s.provFlags = config.provisioningFlagExternalConfirmation)
  | .resetRequest => started = .provisioning
  | .disable => false
  | _ => true

/-- What is handled in `EXT_PROVISIONING` stops the task that was started, or stays there. -/
def StopsTask (env : WifiEnv) (s : WifiState) : WifiAct → Prop
  | .handle _ _ => s.state = .extProvisioning → ∀ event started, s.received = some event →
      task s = some started → stops env.toWifiConfig s started event = true
  | _ => True

/-- What an act starts and stops. -/
def followTask (appCBSet : Bool) (task : Option ExternalTask) : SmAct → Option ExternalTask
  | .informs event => if appCBSet then taskAfter task (.app event) else task
  | _ => task

theorem watchesRun_task : WatchesRun env taskAfter := by
  intro seen output houtput
  cases output with
  | app | processing | entered => cases houtput
  | _ => rfl

theorem echoes_task (callbacks : Bool × Bool) :
    Echoes env callbacks taskAfter (followTask callbacks.2) := by
  intro seen act said hvoices
  obtain ⟨netIfCBSet, appCBSet⟩ := callbacks
  cases hvoices with
  | tells => cases netIfCBSet <;> rfl
  | informs | informsStarted | informsStats => cases appCBSet <;> rfl
  | _ => rfl

end Property

section Table

variable {script : List SmAct}

/-- Without an application no task is started. -/
theorem foldl_followTask_unset (script : List SmAct) :
    script.foldl (followTask false) none = none := by
  induction script with
  | nil => rfl
  | cons act rest ih =>
      have hnone : followTask false none act = none := by cases act <;> rfl
      rw [List.foldl_cons, hnone]
      exact ih

/-- No other state is left with a task. -/
theorem task_elsewhere (state : SmState) (event : SmEvent) (hstate : state ≠ .extProvisioning) :
    ∀ script ∈ processScripts state event,
      script.foldl leadsTo state ≠ .extProvisioning →
        script.foldl (followTask true) none = none := by
  revert hstate
  cases state <;> cases event <;> decide +kernel

/-- The events that stay in `EXT_PROVISIONING`, or end its task. -/
theorem task_ended (event : SmEvent) (task : Option ExternalTask)
    (hevent : event ≠ .timeout ∧ event ≠ .resetRequest ∧ event ≠ .disable) :
    ∀ script ∈ processScripts .extProvisioning event,
      script.foldl leadsTo .extProvisioning ≠ .extProvisioning →
        script.foldl (followTask true) (taskAfter task (.processing .extProvisioning event)) =
          none := by
  revert hevent
  rcases task with _ | started
  · cases event <;> decide +kernel
  · cases started <;> cases event <;> decide +kernel

/-- A reset stops the external provisioning. -/
theorem task_reset (task : Option ExternalTask) :
    ∀ script ∈ processScripts .extProvisioning .resetRequest,
      script.foldl leadsTo .extProvisioning = .provisioning ∧
        script.foldl (followTask true) task =
          taskAfter task (.app .externalProvisioningStopReq) := by
  rcases task with _ | started
  · decide +kernel
  · cases started <;> decide +kernel

/-- A DISABLE event stops no task. -/
theorem task_disabled (task : Option ExternalTask) :
    ∀ script ∈ processScripts .extProvisioning .disable,
      script.foldl leadsTo .extProvisioning = .off ∧
        script.foldl (followTask true) task = task := by
  rcases task with _ | started
  · decide +kernel
  · cases started <;> decide +kernel

end Table

section Timeout

/-- The task that the timeout asks the application to stop. -/
def timedOutTask (config : WifiConfig) (s : WifiState) : ExternalTask :=
  if s.provFlags = config.provisioningFlagExternalConfirmation then .confirmation
  else .provisioning

def stopRequest : ExternalTask → WifiConnEvent
  | .provisioning => .externalProvisioningStopReq
  | .confirmation => .cloudConfirmationStopReq

/-- A timeout asks for a stop, and reports the failure. -/
def timeoutScripts (stopped : ExternalTask) : List (List SmAct) :=
  inOrder [only (.informs (stopRequest stopped)), only (.informs (.provisioningStopped .failed)),
    provStoppingScripts (some .timeout)]

theorem task_timedOut (stopped : ExternalTask) (task : Option ExternalTask) :
    ∀ script ∈ timeoutScripts stopped,
      script.foldl leadsTo .extProvisioning = .provStopping ∧
        script.foldl (followTask true) task = taskAfter task (.app (stopRequest stopped)) := by
  rcases task with _ | started
  · cases stopped <;> decide +kernel
  · cases stopped <;> cases started <;> decide +kernel

theorem follows_timeout (env : WifiEnv) (s : WifiState) :
    FollowsFrom (acting env) s (timeoutScripts (timedOutTask env.toWifiConfig s))
      (smStateExtProvisioning env .timeout) := by
  apply followsFrom_get
  have hrequest : (if s.provFlags = env.provisioningFlagExternalConfirmation then
      WifiConnEvent.cloudConfirmationStopReq else .externalProvisioningStopReq) =
        stopRequest (timedOutTask env.toWifiConfig s) := by
    rw [timedOutTask]
    split <;> rfl
  rw [hrequest]
  have hrest : Follows (acting env) (timeoutScripts (timedOutTask env.toWifiConfig s)) (do
      notifyWifiApp env (stopRequest (timedOutTask env.toWifiConfig s))
      notifyProvisioningStatus env .failed
      enterProvStopping env (some .timeout)
      return (0 : ℤ)) := by
    apply (follows_notifyWifiApp env _).next
    intro _
    apply (follows_notifyWifiApp env _).next
    exact fun _ => ((follows_enterProvStopping env _).returning fun _ => follows_pure).last
  exact hrest s

/-- A request to stop leaves no task exactly when it fits the task that runs. -/
theorem taskAfter_stopRequest_eq_none_iff (stopped : ExternalTask) (task : Option ExternalTask) :
    taskAfter task (.app (stopRequest stopped)) = none ↔
      ∀ started, task = some started → started = stopped := by
  rcases task with _ | started
  · cases stopped <;> simp [stopRequest, taskAfter]
  · cases stopped <;> cases started <;> simp [stopRequest, taskAfter]

theorem stops_timeout_iff (config : WifiConfig) (started : ExternalTask) :
    stops config s started .timeout = true ↔ started = timedOutTask config s := by
  rw [timedOutTask]
  split
  · rename_i hflags
    simp [stops, hflags]
  · rename_i hflags
    cases started <;> simp [stops, hflags]

end Timeout

section Runs

variable {event : SmEvent} {notified : List (List Call)} {posting : List (List FreeCall)}
variable {script : List SmAct} {final : WifiState}

theorem task_final
    (hplays : Plays (Acts env) script (handling s event notified posting) final) :
    task final = script.foldl (followTask s.appCBSet)
        (taskAfter (task s) (.processing s.state event)) ∧
      final.state = script.foldl leadsTo s.state ∧ callbacks final = callbacks s := by
  have hwatch : WatchesRun env taskAfter := watchesRun_task
  exact handling_watched hwatch.machine (echoes_task (callbacks s)) rfl hplays

/-- Without an application, no task runs. -/
def NoneUnset (s : WifiState) : Prop := s.appCBSet = false → task s = none

theorem noneUnset_step {act : WifiAct} (hunset : NoneUnset s)
    (hstep : step env s act = some after) : NoneUnset after := by
  have hwatch : WatchesRun env taskAfter := watchesRun_task
  have hother (hsame : SameWatched taskAfter none s after) : NoneUnset after := by
    intro happ
    have hbefore : s.appCBSet = false := (congrArg Prod.snd hsame.2.2).symm.trans happ
    exact hsame.1.trans (hunset hbefore)
  cases stepCase_of_step hstep with
  | call hrun => exact hother (call_watched hwatch.machine hrun)
  | receive => exact hunset
  | @process event _ _ script final _ _ _ hplays =>
      intro happ
      obtain ⟨htask, -, hsame⟩ := task_final hplays
      have hbefore : s.appCBSet = false := (congrArg Prod.snd hsame).symm.trans happ
      have hprocessed : taskAfter none (.processing s.state event) = none := by
        cases s.state <;> cases event <;> rfl
      change task final = none
      rw [htask, hbefore, hunset hbefore, hprocessed]
      exact foldl_followTask_unset script
  | destroy _ hrun => exact hother (destroy_watched hwatch hrun)

/-- The timeout in `EXT_PROVISIONING` asks for one stop. -/
theorem taskStopped_timeout (hset : s.appCBSet = true) (hstate : s.state = .extProvisioning)
    (hreceived : s.received = some .timeout)
    (hstep : step env s (.handle notified posting) = some after) :
    TaskStopped after ↔
      ∀ started, task s = some started → started = timedOutTask env.toWifiConfig s := by
  have hhandler : Ensures (smHandler env s.state .timeout) (handling s .timeout notified posting)
      fun _ final => ∃ script ∈ timeoutScripts (timedOutTask env.toWifiConfig s),
        Plays (Acts env) script (handling s .timeout notified posting) final := by
    rw [hstate]
    exact (follows_timeout env (handling s .timeout notified posting)).ensures
  obtain ⟨final, ⟨script, hscript, hplays⟩, hafter⟩ :=
    handled_of_smHandler hreceived (by decide) (by decide) hhandler hstep
  obtain ⟨htask, hleads, -⟩ := task_final hplays
  rw [hstate] at htask hleads
  rw [hset] at htask
  obtain ⟨hstopping, hstopped⟩ := task_timedOut _ (task s) script hscript
  have hfinal : task final = script.foldl (followTask true) (task s) := htask
  have hleft : final.state ≠ .extProvisioning := by
    rw [hleads, hstopping]
    decide
  rw [← taskAfter_stopRequest_eq_none_iff, ← hstopped, hafter, ← hfinal]
  exact ⟨fun htaskStopped => htaskStopped hleft, fun hnone _ => hnone⟩

theorem stopsTask_iff (hreceived : s.received = some event) (hstate : s.state = .extProvisioning) :
    StopsTask env s (.handle notified posting) ↔
      ∀ started, task s = some started → stops env.toWifiConfig s started event = true := by
  constructor
  · exact fun hstops started => hstops hstate event started hreceived
  · intro hstops _ other started hother
    rw [hreceived, Option.some.injEq] at hother
    exact hother ▸ hstops started

/-- What is processed in `EXT_PROVISIONING` leaves no task exactly if it stops it. -/
theorem taskStopped_extProvisioning (hset : s.appCBSet = true)
    (hstate : s.state = .extProvisioning) (hreceived : s.received = some event)
    (hscript : script ∈ processScripts s.state event)
    (hplays : Plays (Acts env) script (handling s event notified posting) final)
    (hstep : step env s (.handle notified posting) = some (handled final)) :
    TaskStopped (handled final) ↔
      ∀ started, task s = some started → stops env.toWifiConfig s started event = true := by
  obtain ⟨htask, hleads, -⟩ := task_final hplays
  rw [hstate] at hscript htask hleads
  rw [hset] at htask
  have hstopped : TaskStopped (handled final) ↔
      (script.foldl leadsTo .extProvisioning ≠ .extProvisioning →
        script.foldl (followTask true)
          (taskAfter (task s) (.processing .extProvisioning event)) = none) := by
    rw [← htask, ← hleads]
    rfl
  by_cases htimeout : event = .timeout
  · subst htimeout
    rw [taskStopped_timeout hset hstate hreceived hstep]
    simp only [stops_timeout_iff]
  by_cases hreset : event = .resetRequest
  · subst hreset
    obtain ⟨hprovisioning, hreset⟩ := task_reset (task s) script hscript
    have hiff := taskAfter_stopRequest_eq_none_iff .provisioning (task s)
    rw [hstopped, hprovisioning]
    simpa [taskAfter, stops, hreset, stopRequest] using hiff
  by_cases hdisable : event = .disable
  · subst hdisable
    obtain ⟨hoff, hkept⟩ := task_disabled (task s) script hscript
    rw [hstopped, hoff]
    simp [taskAfter, stops, hkept, Option.eq_none_iff_forall_ne_some]
  · refine iff_of_true (hstopped.mpr ?_) fun started _ => ?_
    · exact task_ended event (task s) ⟨htimeout, hreset, hdisable⟩ script hscript
    · cases event <;> first | rfl | contradiction

/-- An event leaves no task outside of `EXT_PROVISIONING` exactly if it stops it. -/
theorem taskStopped_process (hunset : NoneUnset s) (hstopped : TaskStopped s)
    (hreceived : s.received = some event) (hscript : script ∈ processScripts s.state event)
    (hplays : Plays (Acts env) script (handling s event notified posting) final)
    (hstep : step env s (.handle notified posting) = some (handled final)) :
    TaskStopped (handled final) ↔ StopsTask env s (.handle notified posting) := by
  obtain ⟨htask, hleads, hsame⟩ := task_final hplays
  cases hset : s.appCBSet with
  | false =>
      have hafter : final.appCBSet = false := (congrArg Prod.snd hsame).trans hset
      refine iff_of_true (fun _ => noneUnset_step hunset hstep hafter) fun _ _ started _ hsome => ?_
      rw [hunset hset] at hsome
      cases hsome
  | true =>
      by_cases hstate : s.state = .extProvisioning
      · rw [stopsTask_iff hreceived hstate]
        exact taskStopped_extProvisioning hset hstate hreceived hscript hplays hstep
      · refine iff_of_true (fun hafter => ?_) fun hstate' => absurd hstate' hstate
        have hprocessed : taskAfter none (.processing s.state event) = none := by
          cases s.state <;> cases event <;> rfl
        rw [hstopped hstate, hprocessed, hset] at htask
        rw [show (handled final).state = final.state from rfl, hleads] at hafter
        exact htask.trans (task_elsewhere s.state event hstate script hscript hafter)

/-- Outside of `EXT_PROVISIONING` no task runs behind a step exactly if the step stops it. -/
theorem taskStopped_step {act : WifiAct} (hunset : NoneUnset s) (hstopped : TaskStopped s)
    (hstep : step env s act = some after) : TaskStopped after ↔ StopsTask env s act := by
  have hwatch : WatchesRun env taskAfter := watchesRun_task
  have hother (hsame : SameWatched taskAfter none s after) : TaskStopped after := by
    intro hstate
    rw [hsame.2.1] at hstate
    exact hsame.1.trans (hstopped hstate)
  cases stepCase_of_step hstep with
  | call hrun => exact iff_of_true (hother (call_watched hwatch.machine hrun)) trivial
  | receive => exact iff_of_true hstopped trivial
  | @process event notified posting script final hreceived _ hscript hplays =>
      exact taskStopped_process hunset hstopped hreceived hscript hplays hstep
  | @destroy _ _ _ hreceived hrun =>
      refine iff_of_true (hother (destroy_watched hwatch hrun)) fun _ event _ hevent _ => ?_
      rw [hreceived, Option.some.injEq] at hevent
      rw [← hevent]
      rfl

/-- In any run, the tasks are stopped outside of `EXT_PROVISIONING` exactly if each step in
that state stops the task that was started, or stays. -/
theorem taskStopped_iff (hstarted : Started env s) {acts : List WifiAct} :
    StatesSatisfy (step env) TaskStopped s acts ↔
      StepsSatisfy (step env) (StopsTask env) s acts := by
  have hnone : task s = none := hstarted.watched watchesRun_task
  apply Transition.states_iff_steps
  · exact fun _ _ _ hunset hstep => noneUnset_step hunset hstep
  · exact fun _ _ _ hunset hstopped hstep => taskStopped_step hunset hstopped hstep
  · exact fun _ => hnone
  · exact fun _ => hnone

/-- The cloud confirmation is started, and the NWP asks to be reset. -/
def resetsInConfirmation : List WifiAct :=
  posted (.enableProvisioning .on 0 provFlagExternalConfirmation) ++ posted (.free .enable) ++
    posted (.free .timerExpires) ++
    posted (.free (.provisioningStatus .confirmationIpAcquired)) ++
    posted (.free .deviceResetRequest)

/-- The reset stops the other task, and leaves the cloud confirmation running. -/
theorem taskStopped_broken :
    Started obedientNwp (started obedientNwp true false) ∧
      ¬StatesSatisfy (step obedientNwp) TaskStopped (started obedientNwp true false)
        resetsInConfirmation := by
  refine ⟨⟨powerOn, true, false, rfl, rfl⟩, ?_⟩
  apply Transition.not_statesSatisfy_of_any fun s =>
    s.state ≠ .extProvisioning && task s = some .confirmation
  · intro s hfails hstopped
    rw [Bool.and_eq_true] at hfails
    have hnone := hstopped (of_decide_eq_true hfails.1)
    rw [of_decide_eq_true hfails.2] at hnone
    cases hnone
  · decide +kernel

/-- The condition, computed. -/
def stopsTask (env : WifiEnv) (s : WifiState) : WifiAct → Bool
  | .handle _ _ => s.state ≠ .extProvisioning || s.received.all fun event =>
      (task s).all fun started => stops env.toWifiConfig s started event
  | _ => true

theorem stopsTask_sound (s : WifiState) (act : WifiAct) (hcheck : stopsTask env s act = true) :
    StopsTask env s act := by
  cases act with
  | handle notified posting =>
      intro hstate event started hreceived htask
      simpa [stopsTask, hstate, hreceived, htask] using hcheck
  | _ => trivial

/-- The cloud confirmation is stopped by its timeout. -/
theorem taskStopped_timesOut :
    StatesSatisfy (step obedientNwp) TaskStopped (started obedientNwp true false)
      (posted (.enableProvisioning .on 0 provFlagExternalConfirmation) ++ posted (.free .enable) ++
        posted (.free .timerExpires) ++
        posted (.free (.provisioningStatus .confirmationIpAcquired)) ++
        posted (.free .timerExpires)) :=
  (taskStopped_iff ⟨powerOn, true, false, rfl, rfl⟩).mpr
    (Transition.stepsSatisfy_of_check (stopsTask obedientNwp) stopsTask_sound
      (by decide +kernel))

end Runs

end SimpleLinkHost.WifiTasks
