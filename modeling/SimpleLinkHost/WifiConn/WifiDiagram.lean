import SimpleLinkHost.Core.Simulation
import SimpleLinkHost.WifiConn.WifiRuns

/-!
# The diagram of the connection manager

The states of the connection manager and the events that lead from one to another, as a
diagram.  Every run of the system walks in the diagram, and every edge of it is taken in
some run.
-/

namespace SimpleLinkHost.WifiDiagram

open CallOutcome ProgramInvariant ProgramScript Simulation WifiContext WifiApi WifiMachine
open WifiFrames WifiScripts WifiRuns
open Transition (run StepsSatisfy)

variable {env : WifiEnv} {s after : WifiState}

section Diagram

/-- The states to which an event leads; it stays where it means nothing. -/
def nextStates : SmState → SmEvent → List SmState
  | .off, .enable => [.waitForConn]
  | .provisioning, .disable => [.provStopping]
  | _, .disable => [.off]
  | .idle, .connected => [.waitForIp]
  | .idle, .enableProvisioning | .idle, .addProfile | .idle, .timeout => [.waitForConn]
  | .waitForConn, .connected => [.waitForIp, .connected]
  | .waitForConn, .ipAcquired => [.connected]
  | .waitForConn, .timeout => [.waitForConn, .idle, .provisioning, .extProvisioning]
  | .waitForIp, .disconnect | .waitForIp, .timeout => [.waitForConn]
  | .waitForIp, .ipAcquired => [.connected]
  | .connected, .disconnect | .connected, .resetRequest => [.waitForConn]
  | .connected, .ipLost => [.waitForIp]
  | .provisioning, .provSuccess | .provisioning, .addProfile | .provisioning, .timeout
  | .provisioning, .error => [.provStopping]
  | .provisioning, .provStopped => [.idle]
  | .provisioning, .provExtConfigReady | .provisioning, .provCloudConfirmReady =>
      [.extProvisioning]
  | .provStopping, .connected => [.connected]
  | .provStopping, .provStopped => [.provStopping, .waitForConn]
  | .provStopping, .addProfile | .provStopping, .extProvCompleted => [.waitForConn]
  | .provStopping, .timeout => [.idle]
  | .provStopping, .error => [.provisioning, .extProvisioning]
  | .extProvisioning, .addProfile | .extProvisioning, .extProvCompleted
  | .extProvisioning, .timeout => [.provStopping]
  | .extProvisioning, .resetRequest => [.provisioning]
  | state, _ => [state]

def Edge (state : SmState) (event : SmEvent) (next : SmState) : Prop :=
  next ∈ nextStates state event

/-- The event that a step processes, if any. -/
def processes (s : WifiState) : WifiAct → Option SmEvent
  | .handle _ _ => s.received.filter (· ≠ .destroy)
  | _ => none

theorem processes_eq_some {act : WifiAct} {event : SmEvent} :
    processes s act = some event ↔
      ∃ notified posting, act = .handle notified posting ∧ s.received = some event ∧
        event ≠ .destroy := by
  cases act with
  | handle notified posting => simp [processes, Option.filter_eq_some_iff]
  | _ => simp [processes]

/-- An event leads where the script that its handler plays leads. -/
theorem state_of_process {event : SmEvent} {notified : List (List Call)}
    {posting : List (List FreeCall)} {script : List SmAct} {final : WifiState}
    (hplays : Plays (Acts env) script (handling s event notified posting) final) :
    final.state = script.foldl leadsTo s.state := by
  have hstate := plays_state hplays
  exact hstate

/-- The scripts of the transition table lead along the edges. -/
theorem edge_of_script (state : SmState) (event : SmEvent) :
    ∀ script ∈ processScripts state event, Edge state event (script.foldl leadsTo state) := by
  unfold Edge
  cases state <;> cases event <;> decide +kernel

/-- An event is processed along an edge, whatever other threads do meanwhile. -/
theorem edge_of_step {act : WifiAct} {event : SmEvent} (hprocesses : processes s act = some event)
    (hstep : step env s act = some after) : Edge s.state event after.state := by
  obtain ⟨notified, posting, rfl, hreceived, hdestroy⟩ := processes_eq_some.mp hprocesses
  cases stepCase_of_step hstep with
  | @process other _ _ script final hreceived' _ hscript hplays =>
      rw [hreceived, Option.some.injEq] at hreceived'
      subst hreceived'
      change Edge s.state event final.state
      rw [state_of_process hplays]
      exact edge_of_script s.state event script hscript
  | destroy hreceived' _ =>
      rw [hreceived, Option.some.injEq] at hreceived'
      exact absurd hreceived' hdestroy

/-- No other step changes the state. -/
theorem state_of_silent {act : WifiAct} (hsilent : processes s act = none)
    (hstep : step env s act = some after) : after.state = s.state := by
  cases stepCase_of_step hstep with
  | call hrun => exact congrArg (·.2.1) ((leaves_runCall env _).of_run hrun)
  | receive _ _ => rfl
  | @process event _ _ script final hreceived _ hscript hplays =>
      have hdestroy : event = .destroy := by
        simpa [processes, hreceived] using hsilent
      subst hdestroy
      have hstays : ∀ script ∈ processScripts s.state .destroy,
          script.foldl leadsTo s.state = s.state := by
        cases s.state <;> decide +kernel
      change final.state = s.state
      rw [state_of_process hplays]
      exact hstays script hscript
  | destroy _ hrun =>
      injection hrun with _ hfinal
      subst hfinal
      rfl

end Diagram

section Runs

/-- Every step walks in the diagram. -/
theorem walk_of_step (act : WifiAct) (hstep : step env s act = some after) :
    Walk Edge s.state (processes s act).toList after.state := by
  cases hprocesses : processes s act with
  | none =>
      rw [state_of_silent hprocesses hstep]
      exact .nil
  | some event => exact .single (edge_of_step hprocesses hstep)

/-- The events that a run processes, in order. -/
def processed (env : WifiEnv) (s : WifiState) (acts : List WifiAct) : List SmEvent :=
  trace (step env) processes s acts

/-- Every run walks in the diagram, along the events that it processes. -/
theorem walk_of_acts {acts : List WifiAct} (hrun : run (step env) s acts = some after) :
    Walk Edge s.state (processed env s acts) after.state :=
  walk_of_run (fun _ _ _ _ _ => trivial) (fun _ act _ (_ : True) => walk_of_step act) trivial hrun

end Runs

section Scenarios

/-- An NWP with a static address. -/
def staticNwp : WifiEnv := { obedientNwp with staticIp := fun _ => some 0 }

def someProfile : Profile := ⟨[1], none, 0, [], [], [], 0⟩

/-- The call that posts the event, in a state that lets it. -/
def callOf : SmEvent → Call
  | .enable => .free .enable
  | .disable => .free .disable
  | .connected => .free (.wlanConnect [])
  | .disconnect => .free .wlanDisconnect
  | .ipAcquired => .free (.netApp .ipv4Acquired)
  | .ipLost => .free (.netApp .ipv4Lost)
  | .provSuccess => .free (.provisioningStatus .confirmationStatusSuccess)
  | .provStopped => .free (.provisioningStatus (.stopped roleAp false))
  | .provExtConfigReady => .free (.provisioningStatus .externalConfigurationReady)
  | .provCloudConfirmReady => .free (.provisioningStatus .confirmationIpAcquired)
  | .enableProvisioning => .enableProvisioning .off 0 1
  | .addProfile => .addProfile ⟨someProfile, false, false, 0, true⟩
  | .extProvCompleted => .free .externalProvsioningCompleted
  | .timeout => .free .timerExpires
  | .error => .free (.provisioningStatus .generalError)
  | .resetRequest => .free .requestReset
  | .destroy => .free .deinit

/-- The machine waits for a connection, with provisioning enabled in some mode. -/
def untilWaiting (mode : ProvMode) (command : Byte) : List WifiAct :=
  posted (.enableProvisioning mode command 1) ++ posted (.free .enable)

def untilSession (command : Byte) : List WifiAct :=
  untilWaiting .on command ++ posted (.free .timerExpires)

/-- A way into each state. -/
def untilState : SmState → List WifiAct
  | .off => untilWaiting .off 0 ++ posted (.free .disable)
  | .idle => untilWaiting .off 0 ++ posted (.free .timerExpires)
  | .waitForConn => untilWaiting .off 0
  | .waitForIp => untilWaiting .off 0 ++ posted (callOf .connected)
  | .connected =>
      untilWaiting .off 0 ++ posted (callOf .connected) ++ posted (callOf .ipAcquired) ++
        [.call (.enableStats 10)]
  | .provisioning => untilSession 0
  | .provStopping => untilSession 0 ++ posted (callOf .provSuccess)
  | .extProvisioning => untilSession 0 ++ posted (callOf .provExtConfigReady)

/-- A run after which the event is received in the state, and leads to the next one. -/
def untilEdge (state : SmState) (event : SmEvent) (next : SmState) : List WifiAct :=
  match state, event, next with
  | .waitForConn, .timeout, .waitForConn =>
      untilWaiting .off 0 ++ posted (.addProfile ⟨someProfile, false, true, 0, true⟩) ++
        [.call (callOf .timeout), .receive]
  | .waitForConn, .timeout, .provisioning =>
      untilWaiting .on 0 ++ [.call (callOf .timeout), .receive]
  | .waitForConn, .timeout, .extProvisioning =>
      untilWaiting .on 10 ++ [.call (callOf .timeout), .receive]
  | .provStopping, .provStopped, .provStopping =>
      untilSession 0 ++ posted (callOf .timeout) ++ [.call (callOf .provStopped), .receive]
  | .provStopping, .timeout, .idle =>
      untilSession 0 ++ posted (callOf .timeout) ++ posted (callOf .provStopped) ++ [.receive]
  | .provStopping, .error, .extProvisioning =>
      untilSession 10 ++ posted (callOf .extProvCompleted) ++ [.call (callOf .error), .receive]
  | state, event, _ => untilState state ++ [.call (callOf event), .receive]

def nwpOf : SmState → SmEvent → SmState → WifiEnv
  | .waitForConn, .connected, .connected => staticNwp
  | _, _, _ => obedientNwp

/-- The event is received in the state and leads to the next one. -/
def takes (env : WifiEnv) (event : SmEvent) (state next : SmState) (s : WifiState) : Bool :=
  s.state = state && s.received = some event &&
    (step env s (.handle [] [])).any fun after => after.state = next

/-- Every edge is taken in some run. -/
theorem takes_untilEdge (state : SmState) (event : SmEvent) (hdestroy : event ≠ .destroy) :
    ∀ next ∈ nextStates state event,
      (run (step (nwpOf state event next)) (WifiMachine.started (nwpOf state event next) true false)
        (untilEdge state event next)).any (takes (nwpOf state event next) event state next) =
          true := by
  cases state <;> cases event <;> first | exact absurd rfl hdestroy | decide +kernel

/-- The runs of the connection manager are walks in the diagram from OFF, and no edge of it
could be left out. -/
theorem events_walk_exactly :
    (∀ env s acts after, Started env s → run (step env) s acts = some after →
      Walk Edge .off (processed env s acts) after.state) ∧
    ∀ state event next, event ≠ .destroy → Edge state event next →
      ∃ env s acts before after, Started env s ∧ run (step env) s acts = some before ∧
        before.state = state ∧ before.received = some event ∧
          step env before (.handle [] []) = some after ∧ after.state = next := by
  constructor
  · intro env s acts after hstarted hrun
    rw [← hstarted.off]
    exact walk_of_acts hrun
  · intro state event next hdestroy hedge
    have htaken := takes_untilEdge state event hdestroy next hedge
    rw [Option.any_eq_true] at htaken
    obtain ⟨before, hrun, htakes⟩ := htaken
    rw [takes, Bool.and_eq_true, Bool.and_eq_true, Option.any_eq_true] at htakes
    obtain ⟨⟨hstate, hreceived⟩, after, hstep, hnext⟩ := htakes
    refine ⟨_, _, _, before, after, ⟨powerOn, true, false, rfl, ?_⟩, hrun,
      of_decide_eq_true hstate, of_decide_eq_true hreceived, hstep, of_decide_eq_true hnext⟩
    unfold nwpOf
    split <;> rfl

end Scenarios

section History

variable {acts : List WifiAct}

/-- A provisioning session of the NWP, in the states of the connection manager. -/
def inSession (s : WifiState) : Prop := SmState.ofProvisioning s.state = true

/-- A script that leads into a session is one of the connection timeout, behind its tests. -/
theorem startTests_of_script (state : SmState) (event : SmEvent)
    (hbefore : SmState.ofProvisioning state = false) :
    ∀ script ∈ processScripts state event,
      SmState.ofProvisioning (script.foldl leadsTo state) = true →
        state = .waitForConn ∧ event = .timeout ∧ script.take 2 = startTests := by
  cases state with
  | provisioning | provStopping | extProvisioning => cases hbefore
  | _ => cases event <;> decide +kernel

/-- The last entry into a session is the timeout of a connection that was not asked for,
with the provisioning enabled. -/
def EnteredByTimeout (env : WifiEnv) (s : WifiState) (acts : List WifiAct) : Prop :=
  ∃ earlier before notified posting entered later,
    acts = earlier ++ .handle notified posting :: later ∧
      LastEntry (step env) inSession s earlier before (.handle notified posting) entered later ∧
        before.state = .waitForConn ∧ before.received = some .timeout ∧
          before.bWlanConnectUsed = false ∧ before.provMode ≠ .off

/-- Every session begins so. -/
theorem session_entered (hstarted : Started env s) (hrun : run (step env) s acts = some after)
    (hsession : inSession after) : EnteredByTimeout env s acts := by
  have houtside : ¬inSession s := by
    rw [inSession, hstarted.off]
    decide
  obtain ⟨earlier, before, act, entered, later, hsplit, hentry⟩ :=
    exists_lastEntry houtside hsession hrun
  have hinside : SmState.ofProvisioning entered.state = true := hentry.entered
  have hbefore : SmState.ofProvisioning before.state = false := by
    simpa [inSession] using hentry.outside
  have hprocesses : processes before act ≠ none := by
    intro hsilent
    rw [state_of_silent hsilent hentry.taken, hbefore] at hinside
    cases hinside
  cases stepCase_of_step hentry.taken with
  | call | receive => exact absurd rfl hprocesses
  | destroy hreceived _ => exact absurd (by simp [processes, hreceived]) hprocesses
  | @process event notified posting script final hreceived _ hscript hplays =>
      have hfinal : SmState.ofProvisioning (script.foldl leadsTo before.state) = true := by
        rw [← state_of_process hplays]
        exact hinside
      obtain ⟨hstate, hevent, htests⟩ :=
        startTests_of_script before.state event hbefore script hscript hfinal
      obtain ⟨hused, hmode, -⟩ := startTests_plays htests hplays
      exact ⟨earlier, before, notified, posting, _, later, hsplit, hentry, hstate,
        hevent ▸ hreceived, hused, hmode⟩

/-- A session that is stopped by its timer. -/
theorem session_entered_stopping :
    EnteredByTimeout obedientNwp (WifiMachine.started obedientNwp true false)
      (untilState .provStopping) := by
  have hany : (run (step obedientNwp) (WifiMachine.started obedientNwp true false)
      (untilState .provStopping)).any (fun after => SmState.ofProvisioning after.state) = true := by
    decide +kernel
  rw [Option.any_eq_true] at hany
  obtain ⟨after, hrun, hsession⟩ := hany
  exact session_entered ⟨powerOn, true, false, rfl, rfl⟩ hrun hsession

/-- What ends a connection. -/
def losses : List SmEvent := [.disconnect, .ipLost, .resetRequest, .disable]

/-- The edges into CONNECTED. -/
theorem edge_to_connected (state : SmState) (event : SmEvent) (hstate : state ≠ .connected)
    (hedge : Edge state event .connected) :
    event = .ipAcquired ∧ (state = .waitForConn ∨ state = .waitForIp) ∨
      event = .connected ∧ (state = .waitForConn ∨ state = .provStopping) := by
  revert hstate hedge
  unfold Edge
  cases state <;> cases event <;> decide

theorem not_edge_of_loss : ∀ loss ∈ losses, ¬Edge .connected loss .connected := by
  unfold Edge losses
  decide

def isConnected (s : WifiState) : Prop := s.state = .connected

/-- The last entry into CONNECTED is an address that was acquired or a connection that was
reported, and no loss has been processed since. -/
def ConnectedSince (env : WifiEnv) (s : WifiState) (acts : List WifiAct) : Prop :=
  ∃ earlier before notified posting event entered later,
    acts = earlier ++ .handle notified posting :: later ∧
      LastEntry (step env) isConnected s earlier before (.handle notified posting) entered later ∧
        before.received = some event ∧
          (event = .ipAcquired ∧ (before.state = .waitForConn ∨ before.state = .waitForIp) ∨
            event = .connected ∧
              (before.state = .waitForConn ∨ before.state = .provStopping)) ∧
          StepsSatisfy (step env) (fun s act => ∀ loss ∈ losses, processes s act ≠ some loss)
            entered later

/-- The machine is connected since then. -/
theorem connected_entered (hstarted : Started env s)
    (hrun : run (step env) s acts = some after) (hconnected : isConnected after) :
    ConnectedSince env s acts := by
  have houtside : ¬isConnected s := by
    rw [isConnected, hstarted.off]
    decide
  obtain ⟨earlier, before, act, entered, later, hsplit, hentry⟩ :=
    exists_lastEntry houtside hconnected hrun
  have hbefore : before.state ≠ .connected := hentry.outside
  have hentered : entered.state = .connected := hentry.entered
  have hstays : StepsSatisfy (step env) (fun s act => ∀ loss ∈ losses, processes s act ≠ some loss)
      entered later := by
    refine stepsSatisfy_of_stays hentry.stays ?_
    intro s act next hstep hinside hinside' loss hloss hprocesses
    have hedge := edge_of_step hprocesses hstep
    rw [hinside, hinside'] at hedge
    exact not_edge_of_loss loss hloss hedge
  cases hprocesses : processes before act with
  | none =>
      rw [state_of_silent hprocesses hentry.taken] at hentered
      exact absurd hentered hbefore
  | some event =>
      have hedge := edge_of_step hprocesses hentry.taken
      rw [hentered] at hedge
      obtain ⟨notified, posting, rfl, hreceived, -⟩ := processes_eq_some.mp hprocesses
      exact ⟨earlier, before, notified, posting, event, entered, later, hsplit, hentry, hreceived,
        edge_to_connected before.state event hbefore hedge, hstays⟩

/-- A connection behind the loss of an address. -/
theorem connected_entered_again :
    ConnectedSince obedientNwp (WifiMachine.started obedientNwp true false)
      (untilState .connected ++ posted (callOf .ipLost) ++ posted (callOf .ipAcquired)) := by
  have hany : (run (step obedientNwp) (WifiMachine.started obedientNwp true false)
      (untilState .connected ++ posted (callOf .ipLost) ++ posted (callOf .ipAcquired))).any
        (fun after => after.state = .connected) = true := by
    decide +kernel
  rw [Option.any_eq_true] at hany
  obtain ⟨after, hrun, hconnected⟩ := hany
  have hstate : after.state = .connected := of_decide_eq_true hconnected
  exact connected_entered ⟨powerOn, true, false, rfl, rfl⟩ hrun hstate

end History

end SimpleLinkHost.WifiDiagram
