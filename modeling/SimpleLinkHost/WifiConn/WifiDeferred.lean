import SimpleLinkHost.WifiConn.WifiRuns

/-!
# The queue of deferred events

Events are deferred in the provisioning states, and replayed on the way to
`WAIT_FOR_CONN` or when the NWP reports that the provisioning has stopped.  The other
ways out of the provisioning states leave them in the queue for a later session, and
so does a profile that is deferred outside of them.
-/

namespace SimpleLinkHost.WifiDeferred

open CallOutcome ProgramInvariant ProgramScript WifiContext WifiApi WifiMachine WifiFrames
open WifiScripts WifiRuns
open Transition (StatesSatisfy StepsSatisfy states_of_steps)

variable {env : WifiEnv} {s after : WifiState}

/-- Events are deferred in the provisioning states only. -/
def NoneLeft (s : WifiState) : Prop :=
  s.deferredEventQ = [] ∨ SmState.ofProvisioning s.state = true

/-- No call in the notifications of a handler defers a profile. -/
def QuietCalls (env : WifiEnv) (notified : List (List Call)) : Prop :=
  ∀ calls ∈ notified, ∀ call ∈ calls, ¬defers env call

/-- The handlers that end in a provisioning state, or replay the deferred events as the
last thing they do with them. -/
def settlesAlways : SmState → SmEvent → Bool
  | .off, event => event = .enable
  | .idle, event => event = .enableProvisioning ∨ event = .addProfile ∨ event = .timeout
  | .waitForConn, event => event = .addProfile
  | .waitForIp, event => event = .timeout ∨ event = .disconnect
  | .connected, event => event = .disconnect ∨ event = .resetRequest
  | .provisioning, event => event ≠ .provStopped
  | .provStopping, event => event ≠ .connected ∧ event ≠ .timeout ∧ event ≠ .disable
  | .extProvisioning, event => event ≠ .disable

/-- So does a timeout of the connection, unless it leads to `IDLE`. -/
def settles (s : WifiState) (event : SmEvent) : Bool :=
  settlesAlways s.state event ||
    s.state = .waitForConn && event = .timeout && (s.bWlanConnectUsed || s.provMode ≠ .off)

/-- The steps that leave nothing in the queue: those that settle, those that find the
queue empty and defer nothing, and the profiles that are deferred in a provisioning
state. -/
def LeavesNone (env : WifiEnv) (s : WifiState) : WifiAct → Prop
  | .call call => defers env call → SmState.ofProvisioning s.state = true
  | .receive => True
  | .handle notified _ => ∀ event, s.received = some event →
      settles s event ∨ s.deferredEventQ = [] ∧ QuietCalls env notified

section Acts

/-- The queue is empty if it is said to be, and no call defers a profile if none is
said to. -/
def QueueSeen (env : WifiEnv) (quiet : Bool) (empty : Bool) (s : WifiState) : Prop :=
  (empty = true → s.deferredEventQ = []) ∧ (quiet = true → QuietCalls env s.notified)

/-- What an act does to an empty queue. -/
def followQueue (quiet : Bool) (empty : Bool) : SmAct → Bool
  | .drains _ => true
  | .defers _ => false
  | .tells _ | .informs _ | .informsStarted | .informsStats => empty && quiet
  | _ => empty

theorem queueSeen_of_eq {quiet empty : Bool} (hseen : QueueSeen env quiet empty s)
    (hqueue : after.deferredEventQ = s.deferredEventQ) (hnotified : after.notified = s.notified) :
    QueueSeen env quiet empty after := by
  rwa [QueueSeen, hqueue, hnotified]

theorem queueSeen_of_reset {α : Type} {program : Sm α} {value : α} {quiet empty : Bool}
    (hprogram : Leaves resetView program) (hrun : program.run s = .ok value after)
    (hseen : QueueSeen env quiet empty s) : QueueSeen env quiet empty after := by
  have hview := hprogram.of_run hrun
  exact queueSeen_of_eq hseen (congrArg (·.2) hview) (congrArg (·.1.2.2.2.1) hview)

theorem queueSeen_nwpCall {call : NwpCall} {retVal : ℤ} {quiet empty : Bool}
    (hrun : (nwpCall env call).run s = .ok retVal after)
    (hseen : QueueSeen env quiet empty s) : QueueSeen env quiet empty after := by
  have hview := (leaves_nwpCall env (rfl : deaf (.nwp call) = false)).of_run hrun
  exact queueSeen_of_eq hseen (congrArg (·.1.deferredEventQ) hview) (congrArg (·.1.notified) hview)

/-- While a notification is made, calls may defer a profile unless none is said to. -/
theorem queueSeen_letOthersCall {quiet empty : Bool} (hseen : QueueSeen env quiet empty s) :
    Ensures (letOthersCall env) s fun _ after => QueueSeen env quiet (empty && quiet) after := by
  cases quiet with
  | false =>
      apply ensures_run.mono
      intro _ _ _
      refine ⟨fun hempty => ?_, fun hquiet => by cases hquiet⟩
      rw [Bool.and_false] at hempty
      cases hempty
  | true =>
      rw [Bool.and_true, Ensures, letOthersCall, ends_bind, ends_get]
      have hquiet := hseen.2 rfl
      cases hnotified : s.notified with
      | nil => exact hseen
      | cons calls rest =>
          rw [hnotified] at hquiet
          rw [ends_bind, ends_modify]
          have hcalls := leaves_runCalls_of_not_defers env (hquiet calls List.mem_cons_self)
          apply hcalls.ensures.mono
          intro _ final hview
          have hqueue : final.deferredEventQ = s.deferredEventQ := congrArg (·.2) hview
          have hrest : final.notified = rest := congrArg (·.1.2.2.2.1) hview
          refine ⟨fun hempty => hqueue.trans (hseen.1 hempty), fun _ => ?_⟩
          rw [hrest]
          exact fun other hother => hquiet other (List.mem_cons_of_mem calls hother)

theorem queueSeen_notifyNetIf {event : NetIfEvent} {quiet empty : Bool}
    (hrun : (notifyNetIf env event).run s = .ok () after) (hseen : QueueSeen env quiet empty s) :
    QueueSeen env quiet (empty && quiet) after := by
  have hnotify : Ensures (notifyNetIf env event) s fun _ after =>
      QueueSeen env quiet (empty && quiet) after := by
    rw [Ensures, notifyNetIf, ends_bind, ends_get, ends_runIf]
    split
    · rw [emit, ends_bind, ends_modify]
      exact queueSeen_letOthersCall hseen
    · exact ⟨fun hempty => hseen.1 (Bool.and_eq_true_iff.mp hempty).1, hseen.2⟩
  exact hnotify.of_run hrun

theorem queueSeen_notifyWifiApp {event : WifiConnEvent} {quiet empty : Bool}
    (hrun : (notifyWifiApp env event).run s = .ok () after) (hseen : QueueSeen env quiet empty s) :
    QueueSeen env quiet (empty && quiet) after := by
  have hnotify : Ensures (notifyWifiApp env event) s fun _ after =>
      QueueSeen env quiet (empty && quiet) after := by
    rw [Ensures, notifyWifiApp, ends_bind, ends_get, ends_runIf]
    split
    · rw [emit, ends_bind, ends_modify]
      exact queueSeen_letOthersCall hseen
    · exact ⟨fun hempty => hseen.1 (Bool.and_eq_true_iff.mp hempty).1, hseen.2⟩
  exact hnotify.of_run hrun

theorem write_queue (write : Write) (s : WifiState) :
    (write.apply s).deferredEventQ = s.deferredEventQ ∧ (write.apply s).notified = s.notified :=
  Prod.mk.inj (Write.frame (fun s => (s.deferredEventQ, s.notified))
    (fun _ _ _ _ _ _ _ => rfl) write s)

/-- What is seen of the queue can be computed along a script. -/
theorem queueSeen_acts (quiet empty : Bool) (act : SmAct) (s after : WifiState)
    (hact : Acts env act s after) (hseen : QueueSeen env quiet empty s) :
    QueueSeen env quiet (followQueue quiet empty act) after := by
  cases hact with
  | tells hrun => exact queueSeen_notifyNetIf hrun hseen
  | informs hrun | informsStarted hrun | informsStats hrun =>
      exact queueSeen_notifyWifiApp hrun hseen
  | enters hrun =>
      injection hrun with _ hafter
      subst hafter
      exact queueSeen_of_eq hseen rfl rfl
  | defers hrun =>
      have hview := (leaves_deferredEventEnqueue _ _).of_run hrun
      have hnotified : after.notified = s.notified := congrArg (·.1.2.2.2.1) hview
      exact ⟨fun hempty => (by cases hempty), fun hquiet => hnotified ▸ hseen.2 hquiet⟩
  | drains hrun =>
      have hview := leaves_deferredEventProcess.of_run hrun
      have hnotified : after.notified = s.notified := congrArg (·.2.2.1) hview
      exact ⟨fun _ => drains_empty (.drains hrun), fun hquiet => hnotified ▸ hseen.2 hquiet⟩
  | arms hrun | disarms hrun =>
      exact queueSeen_of_reset (resets (leaves_startAsyncEvtTimer _)) hrun hseen
  | asks _ hrun | connects hrun | setsApSsid hrun | setsApSecType hrun | setsApPassword hrun
  | startsProvisioning _ hrun | stopsProvisioning hrun => exact queueSeen_nwpCall hrun hseen
  | resets hrun =>
      exact queueSeen_of_reset
        (resets_of_context (leaves_resetNWP env ofMachine_of_reset)) hrun hseen
  | resetsRole hrun =>
      exact queueSeen_of_reset
        (resets_of_context (leaves_resetNWPRole env ofMachine_of_reset)) hrun hseen
  | setsRole hrun =>
      exact queueSeen_of_reset
        (resets_of_context (leaves_setRole env ofMachine_of_reset _)) hrun hseen
  | suspends hrun =>
      exact queueSeen_of_reset
        (resets (quiets (leaves_suspendNWPPolicy env ofMachine_of_reset))) hrun hseen
  | resumes hrun =>
      exact queueSeen_of_reset
        (resets (quiets (leaves_resumeNWPPolicy env ofMachine_of_reset))) hrun hseen
  | sleeps hrun => exact queueSeen_of_reset (resets (quiets (leaves_emit rfl))) hrun hseen
  | @writes write _ =>
      exact queueSeen_of_eq hseen (write_queue write s).1 (write_queue write s).2
  | finds => exact hseen

end Acts

section Table

/-- The handler ends in a provisioning state, or with an empty queue. -/
def EndsClean (quiet empty : Bool) (state : SmState) (script : List SmAct) : Prop :=
  SmState.ofProvisioning (script.foldl leadsTo state) = true ∨
    script.foldl (followQueue quiet) empty = true

instance (quiet empty : Bool) (state : SmState) (script : List SmAct) :
    Decidable (EndsClean quiet empty state script) :=
  inferInstanceAs (Decidable (_ ∨ _))

/-- A step that starts with an empty queue and hears of no profile ends clean. -/
theorem endsClean_of_empty (state : SmState) (event : SmEvent) :
    ∀ script ∈ processScripts state event, EndsClean true true state script := by
  cases state <;> cases event <;> decide +kernel

/-- The scripts of the handlers that settle, whatever is heard meanwhile. -/
theorem endsClean_of_settles (state : SmState) (event : SmEvent)
    (hsettles : settlesAlways state event = true) :
    ∀ script ∈ processScripts state event, EndsClean false false state script := by
  revert hsettles
  cases state <;> cases event <;> decide +kernel

/-- A timeout of the connection settles, unless both tests fail. -/
theorem endsClean_of_timeout :
    ∀ script ∈ processScripts .waitForConn .timeout,
      EndsClean false false .waitForConn script ∨
        script.take 2 = [.finds .connectUsed false, .finds .provisions false] := by
  decide +kernel

end Table

section Runs

theorem queueSeen_plays {quiet empty : Bool} {script : List SmAct}
    (hplays : Plays (Acts env) script s after) (hseen : QueueSeen env quiet empty s) :
    QueueSeen env quiet (script.foldl (followQueue quiet) empty) after :=
  hplays.tracks (queueSeen_acts quiet) hseen

/-- Two tests decide where a timeout of the connection leads. -/
theorem tests_fail {rest : List SmAct}
    (hplays : Plays (Acts env) (.finds .connectUsed false :: .finds .provisions false :: rest) s
      after) : s.bWlanConnectUsed = false ∧ s.provMode = .off := by
  obtain ⟨tested, hconnect, hrest⟩ := plays_cons.mp hplays
  obtain ⟨_, hprovisions, -⟩ := plays_cons.mp hrest
  obtain ⟨hsame, hunused⟩ := finds_iff hconnect
  obtain ⟨-, hoff⟩ := finds_iff hprovisions
  rw [hsame] at hoff
  exact ⟨hunused, by simpa [Test.passes] using hoff⟩

/-- A handler that settles leaves nothing in the queue, whatever it hears. -/
theorem noneLeft_of_settles {event : SmEvent} {script : List SmAct}
    (hsettles : settles s event = true) (hscript : script ∈ processScripts s.state event)
    (hplays : Plays (Acts env) script s after) : NoneLeft after := by
  have hclean : EndsClean false false s.state script := by
    rw [settles, Bool.or_eq_true] at hsettles
    cases hsettles with
    | inl halways => exact endsClean_of_settles s.state event halways script hscript
    | inr hconn =>
        simp only [Bool.and_eq_true, decide_eq_true_eq, Bool.or_eq_true] at hconn
        obtain ⟨⟨hstate, htimeout⟩, hpasses⟩ := hconn
        rw [hstate] at hscript ⊢
        subst htimeout
        cases endsClean_of_timeout script hscript with
        | inl hclean => exact hclean
        | inr htests =>
            rw [← List.take_append_drop 2 script, htests] at hplays
            obtain ⟨hunused, hoff⟩ := tests_fail hplays
            rw [hunused, hoff] at hpasses
            simp at hpasses
  have hseen : QueueSeen env false false s :=
    ⟨fun hempty => (by cases hempty), fun hquiet => by cases hquiet⟩
  cases hclean with
  | inl hstate => exact .inr (plays_state hplays ▸ hstate)
  | inr hempty => exact .inl ((queueSeen_plays hplays hseen).1 hempty)

/-- A handler that finds the queue empty and hears of no profile leaves nothing in it. -/
theorem noneLeft_of_empty {event : SmEvent} {script : List SmAct}
    (hempty : s.deferredEventQ = []) (hquiet : QuietCalls env s.notified)
    (hscript : script ∈ processScripts s.state event)
    (hplays : Plays (Acts env) script s after) : NoneLeft after := by
  have hseen : QueueSeen env true true s := ⟨fun _ => hempty, fun _ => hquiet⟩
  cases endsClean_of_empty s.state event script hscript with
  | inl hstate => exact .inr (plays_state hplays ▸ hstate)
  | inr hempty => exact .inl ((queueSeen_plays hplays hseen).1 hempty)

theorem noneLeft_step {act : WifiAct} (hnone : NoneLeft s) (hleaves : LeavesNone env s act)
    (hstep : step env s act = some after) : NoneLeft after := by
  cases stepCase_of_step hstep with
  | @call call _ hrun =>
      have hview : machineView after = machineView s := (leaves_runCall env call).of_run hrun
      have hstate : after.state = s.state := congrArg (·.2.1) hview
      by_cases hdefers : defers env call = true
      · exact .inr (hstate ▸ hleaves hdefers)
      · have hreset := (leaves_runCall_of_not_defers env hdefers).of_run hrun
        have hqueue : after.deferredEventQ = s.deferredEventQ := congrArg (·.2) hreset
        rwa [NoneLeft, hqueue, hstate]
  | receive _ _ => exact hnone
  | @process event notified posting script final hreceived _ hscript hplays =>
      cases hleaves event hreceived with
      | inl hsettles =>
          have hnone : NoneLeft final :=
            noneLeft_of_settles (s := handling s event notified posting) hsettles hscript hplays
          exact hnone
      | inr hempty =>
          have hnone : NoneLeft final := noneLeft_of_empty
            (s := handling s event notified posting) hempty.1 hempty.2 hscript hplays
          exact hnone
  | destroy _ hrun =>
      injection hrun with _ hfinal
      subst hfinal
      exact .inl rfl

/-- In a run whose steps all leave nothing in the queue, deferred events wait only in the
provisioning states. -/
theorem noneLeft_of_leavesNone (hstarted : Started env s) {acts : List WifiAct}
    (hsteps : StepsSatisfy (step env) (LeavesNone env) s acts) :
    StatesSatisfy (step env) NoneLeft s acts := by
  obtain ⟨boot, appCBSet, -, hcontext⟩ := hstarted.context ofRun_of_init
  have hempty : s.deferredEventQ = [] := congrArg (·.deferredEventQ) hcontext
  exact states_of_steps (fun _ _ _ => noneLeft_step) (.inl hempty) hsteps

/-- The condition, computed. -/
def leavesNone (env : WifiEnv) (s : WifiState) : WifiAct → Bool
  | .call call => !defers env call || SmState.ofProvisioning s.state
  | .receive => true
  | .handle notified _ => s.received.all fun event =>
      settles s event || s.deferredEventQ.isEmpty &&
        notified.all fun calls => calls.all fun call => !defers env call

theorem leavesNone_sound (s : WifiState) (act : WifiAct) (hcheck : leavesNone env s act = true) :
    LeavesNone env s act := by
  cases act with
  | call call =>
      intro hdefers
      simpa [leavesNone, hdefers] using hcheck
  | receive => trivial
  | handle notified posting =>
      intro event hreceived
      simpa [leavesNone, hreceived, QuietCalls] using hcheck

/-- The TIMEOUT event that a timeout of the provisioning defers stays in the queue if the
NWP has connected meanwhile. -/
theorem noneLeft_broken :
    Started obedientNwp (started obedientNwp true false) ∧
      ¬StatesSatisfy (step obedientNwp) NoneLeft (started obedientNwp true false)
        (untilProvisioning ++ posted (.free .timerExpires) ++
          posted (.free (.provisioningStatus (.stopped roleSta true)))) := by
  refine ⟨⟨powerOn, true, false, rfl, rfl⟩, ?_⟩
  apply Transition.not_statesSatisfy_of_any
    fun s => !s.deferredEventQ.isEmpty && !SmState.ofProvisioning s.state
  · intro s hfails hnone
    cases hnone with
    | inl hempty => simp [hempty] at hfails
    | inr hstate => simp [hstate] at hfails
  · decide +kernel

/-- A provisioning whose stop is reported replays its timeout. -/
theorem noneLeft_replayed :
    StatesSatisfy (step obedientNwp) NoneLeft (started obedientNwp true false)
      (untilProvisioning ++ posted (.free .timerExpires) ++
        posted (.free (.provisioningStatus (.stopped roleAp false))) ++
        [.receive, .handle [] []]) :=
  noneLeft_of_leavesNone ⟨powerOn, true, false, rfl, rfl⟩
    (Transition.stepsSatisfy_of_check (leavesNone obedientNwp) leavesNone_sound
      (by decide +kernel))

end Runs

end SimpleLinkHost.WifiDeferred
