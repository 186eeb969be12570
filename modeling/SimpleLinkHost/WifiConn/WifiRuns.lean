import SimpleLinkHost.Core.Transition
import SimpleLinkHost.WifiConn.WifiFrames
import SimpleLinkHost.WifiConn.WifiScripts

/-!
# The runs of the connection manager

The ways in which the system takes a step, and the state in which
`SlWifiConn_init` leaves it.  What holds then, and is kept by every call and along
every script of the transition table, holds in every state of every run.
-/

namespace SimpleLinkHost.WifiRuns

open CallOutcome ProgramInvariant ProgramScript WifiContext WifiApi WifiMachine WifiFrames
open WifiScripts

variable {env : WifiEnv} {s after : WifiState}

section Steps

/-- The state in which a handler starts, behind the debug print of `ProcessEvent`. -/
def handling (s : WifiState) (event : SmEvent) (notified : List (List Call))
    (posting : List (List FreeCall)) : WifiState :=
  { s with
    received := none
    notified := notified
    posting := posting
    outputs := s.outputs ++ [.processing s.state event] }

/-- The state at the end of `SlWifiConn_process`. -/
def handled (s : WifiState) : WifiState := { s with notified := [], posting := [] }

/-- The ways in which the system takes a step. -/
inductive StepCase (env : WifiEnv) (s : WifiState) : WifiAct → WifiState → Prop
  | call {call : Call} {after : WifiState} (hrun : (runCall env call).run s = .ok () after) :
      StepCase env s (.call call) after
  | receive {event : SmEvent} {rest : List SmEvent} (hreceived : s.received = none)
      (heventQ : s.eventQ = event :: rest) :
      StepCase env s .receive { s with received := some event, eventQ := rest }
  | process {event : SmEvent} {notified : List (List Call)} {posting : List (List FreeCall)}
      {script : List SmAct} {final : WifiState} (hreceived : s.received = some event)
      (hinstalled : SmState.ofProvisioning s.state → s.provisioningInstalled)
      (hscript : script ∈ processScripts s.state event)
      (hplays : Plays (Acts env) script (handling s event notified posting) final) :
      StepCase env s (.handle notified posting) (handled final)
  | destroy {notified : List (List Call)} {posting : List (List FreeCall)} {final : WifiState}
      (hreceived : s.received = some .destroy)
      (hrun : (deinit env).run { s with received := none, notified := notified,
                                        posting := posting } = .ok () final) :
      StepCase env s (.handle notified posting) (handled final)

theorem completed_eq_some {program : Sm Unit} :
    completed program s = some after ↔ program.run s = .ok () after := by
  rw [completed]
  cases program.run s with
  | ok value final => simp
  | error ret final => simp

/-- `ProcessEvent` prints, finds its handler and follows the transition table. -/
theorem ensures_processEvent (event : SmEvent) :
    Ensures (processEvent env event) s fun _ final =>
      (SmState.ofProvisioning s.state → s.provisioningInstalled) ∧
        ∃ script ∈ processScripts s.state event,
          Plays (Acts env) script
            { s with outputs := s.outputs ++ [.processing s.state event] } final := by
  rw [Ensures, processEvent, ends_bind, ends_get, emit, ends_bind, ends_modify]
  apply ensures_assertThat.bind
  intro _ checked hchecked
  obtain ⟨hinstalled, hsame⟩ := hchecked
  rw [hsame]
  apply (follows_handle env s.state event _).ensures.mono
  exact fun _ final hfinal => ⟨hinstalled, hfinal⟩

theorem stepCase_of_step {act : WifiAct} (hstep : step env s act = some after) :
    StepCase env s act after := by
  cases act with
  | call call => exact .call (completed_eq_some.mp hstep)
  | receive =>
      simp only [step, receive] at hstep
      split at hstep
      · rename_i event rest hreceived heventQ
        rw [Option.some.injEq] at hstep
        exact hstep ▸ .receive hreceived heventQ
      · cases hstep
  | handle notified posting =>
      simp only [step] at hstep
      split at hstep
      · cases hstep
      rename_i event hreceived
      have hends : Ensures (handleEvent env event)
          { s with received := none, notified := notified, posting := posting }
          fun _ after => StepCase env s (.handle notified posting) after := by
        rw [handleEvent]
        split
        · rename_i hdestroy
          apply ensures_run.bind
          intro _ final hdeinit
          exact .destroy (hdestroy ▸ hreceived) hdeinit
        · apply (ensures_processEvent event).bind
          intro _ final hprocessed
          obtain ⟨hinstalled, script, hscript, hplays⟩ := hprocessed
          exact .process hreceived hinstalled hscript hplays
      exact hends.of_run (completed_eq_some.mp hstep)

/-- What the handler of the state ensures holds at the end of the step, up to the calls that
were to come with it. -/
theorem handled_of_smHandler {event : SmEvent} {notified : List (List Call)}
    {posting : List (List FreeCall)} {ends : WifiState → Prop} (hreceived : s.received = some event)
    (hdestroy : event ≠ .destroy) (hdisable : event ≠ .disable)
    (hhandler : Ensures (smHandler env s.state event) (handling s event notified posting)
      fun _ final => ends final)
    (hstep : step env s (.handle notified posting) = some after) :
    ∃ final, ends final ∧ after = handled final := by
  have hprocess : Ensures (processEvent env event)
      { s with received := none, notified := notified, posting := posting }
      fun _ final => ends final := by
    rw [Ensures, processEvent, ends_bind, ends_get, emit, ends_bind, ends_modify]
    apply ensures_assertThat.bind
    intro _ checked hchecked
    rw [hchecked.2]
    apply hhandler.bind
    intro retVal final hfinal
    rw [Ensures, ends_runIf, if_neg fun hboth => hdisable hboth.2]
    exact hfinal
  have hhandle : Ensures (handleEvent env event)
      { s with received := none, notified := notified, posting := posting }
      fun _ after => ∃ final, ends final ∧ after = handled final := by
    rw [handleEvent, if_neg hdestroy]
    exact hprocess.bind fun _ final hfinal => ⟨final, hfinal, rfl⟩
  simp only [step, hreceived] at hstep
  exact hhandle.of_run (completed_eq_some.mp hstep)

end Steps

section Said

/-- The callbacks that are set, the state, and what only the state machine says. -/
def saidView (s : WifiState) : (Bool × Bool × Bool) × SmState × List Output :=
  ((s.initialized, s.netIfCBSet, s.appCBSet), s.state, s.outputs.filter ofMachine)

/-- The output that an act causes itself, if any. -/
inductive Voices (env : WifiEnv) : SmAct → Option Output → Prop
  | tells {event} : Voices env (.tells event) (some (.netIf event))
  | informs {event} : Voices env (.informs event) (some (.app event))
  | informsStarted {cmd} :
      Voices env .informsStarted (some (.app (.provisioningStarted cmd)))
  | informsStats {bssid mgMnt dataCtrl} :
      Voices env .informsStats (some (.app (.statsResult bssid mgMnt dataCtrl)))
  | enters {state} : Voices env (.enters state) (some (.entered state))
  | asks {call} (hplain : isProvisioning call = false) (hcall : ofMachine (.nwp call) = true) :
      Voices env (.asks call) (some (.nwp call))
  | asksSilently {call} (hcall : ofMachine (.nwp call) = false) : Voices env (.asks call) none
  | connects {profile ext} :
      Voices env .connects (some (.nwp (.wlanConnect profile ext)))
  | setsApSsid {ssid} : Voices env .setsAp (some (.nwp (.setApSsid ssid)))
  | setsApSecType {secType} : Voices env .setsAp (some (.nwp (.setApSecType secType)))
  | setsApPassword {password} : Voices env .setsAp (some (.nwp (.setApPassword password)))
  | startsProvisioning {cmd timeout key flags} (hcmd : cmd ≠ env.provisioningCmdStop) :
      Voices env .startsProvisioning (some (.nwp (.provisioning cmd roleSta timeout key flags)))
  | stopsProvisioning {role timeout key flags} :
      Voices env .stopsProvisioning
        (some (.nwp (.provisioning env.provisioningCmdStop role timeout key flags)))
  | defers {event} : Voices env (.defers event) none
  | drains {replayed} : Voices env (.drains replayed) none
  | arms : Voices env .arms none
  | disarms : Voices env .disarms none
  | resets : Voices env .resets none
  | resetsRole : Voices env .resetsRole none
  | setsRole : Voices env .setsRole none
  | suspends : Voices env .suspends none
  | resumes : Voices env .resumes none
  | sleeps : Voices env .sleeps none
  | writes {write} : Voices env (.writes write) none
  | finds {test holds} : Voices env (.finds test holds) none

/-- The callbacks of the interface and of the application. -/
def callbacks (s : WifiState) : Bool × Bool := (s.netIfCBSet, s.appCBSet)

/-- A notification is said if its callback is set. -/
def heardBy (callbacks : Bool × Bool) : Option Output → List Output
  | none => []
  | some (.netIf event) => if callbacks.1 then [.netIf event] else []
  | some (.app event) => if callbacks.2 then [.app event] else []
  | some output => [output]

/-- The state behind an act. -/
def leadsTo (state : SmState) : SmAct → SmState
  | .enters entered => entered
  | _ => state

theorem leaves_said_of_machine {α : Type} {program : Sm α}
    (hprogram : Leaves machineView program) : Leaves saidView program :=
  hprogram.project fun view => (view.1, view.2.1, view.2.2.2.2.2)

theorem leaves_said_of_context {α : Type} {program : Sm α}
    (hprogram : Leaves (contextView ofMachine) program) : Leaves saidView program :=
  hprogram.project fun view =>
    ((view.initialized, view.netIfCBSet, view.appCBSet), view.state, view.outputs)

theorem leaves_said_of_quiet {α : Type} {program : Sm α}
    (hprogram : Leaves quietView program) : Leaves saidView program :=
  leaves_said_of_machine (hprogram.project Prod.fst)

theorem leaves_said_letOthersCall : Leaves saidView (letOthersCall env) := by
  apply leaves_get.bind
  intro s
  split
  · exact leaves_pure
  · exact Leaves.bind (leaves_modify fun _ => rfl) fun _ =>
      leaves_said_of_machine (leaves_runCalls env _)

/-- What replaying the deferred events leaves. -/
def drainView (s : WifiState) :=
  (saidView s, s.received, s.notified, (s.role, s.nwp))

theorem leaves_drain_of_quiet {α : Type} {program : Sm α} (hprogram : Leaves quietView program) :
    Leaves drainView program :=
  hprogram.project fun view => ((view.1.1, view.1.2.1, view.1.2.2.2.2.2), view.1.2.2.1,
    view.1.2.2.2.1, view.2.1)

theorem leaves_drain_letOthersPost : Leaves drainView (letOthersPost env) := by
  apply leaves_get.bind
  intro s
  split
  · exact leaves_pure
  · exact Leaves.bind (leaves_modify fun _ => rfl) fun _ =>
      leaves_drain_of_quiet (leaves_runFreeCalls env _)

theorem leaves_drain_deferredEventsProcess (events : List DeferredEvent) :
    Leaves drainView (deferredEventsProcess env events) := by
  induction events with
  | nil => exact leaves_pure
  | cons deferred rest ih =>
      refine Leaves.bind (leaves_modify fun _ => rfl) fun _ => ?_
      apply (leaves_drain_of_quiet (leaves_addDeferredProfile env deferred)).bind
      intro _
      apply leaves_drain_letOthersPost.bind
      intro _
      apply (leaves_drain_of_quiet (leaves_signalEvent deferred.event)).bind
      exact fun _ => leaves_assertThat.bind fun _ => ih

theorem leaves_deferredEventProcess : Leaves drainView (deferredEventProcess env) := by
  apply leaves_get.bind
  exact fun s => (leaves_drain_deferredEventsProcess s.deferredEventQ).bind fun _ => leaves_pure

theorem leaves_said_write (write : Write) : Leaves saidView (modify write.apply : Sm PUnit) :=
  leaves_modify (Write.frame saidView (fun _ _ _ _ _ _ _ => rfl) write)

/-- What an act says, and where it leads. -/
def Speaks (s : WifiState) (act : SmAct) (said : Option Output) (after : WifiState) : Prop :=
  saidView after = ((s.initialized, s.netIfCBSet, s.appCBSet), leadsTo s.state act,
    s.outputs.filter ofMachine ++ heardBy (callbacks s) said)

theorem speaks_of_leaves {α : Type} {program : Sm α} {value : α} {act : SmAct}
    (hprogram : Leaves saidView program) (hrun : program.run s = .ok value after)
    (hleads : leadsTo s.state act = s.state) : Speaks s act none after := by
  rw [Speaks, hprogram.of_run hrun, hleads]
  simp [saidView, heardBy]

/-- A call of the NWP that only the state machine makes. -/
theorem speaks_nwpCall {call : NwpCall} {retVal : ℤ} {act : SmAct}
    (hrun : (nwpCall env call).run s = .ok retVal after)
    (hcall : ofMachine (.nwp call) = true) (hleads : leadsTo s.state act = s.state) :
    Speaks s act (some (.nwp call)) after := by
  have hafter : after = { s with outputs := s.outputs ++ [.nwp call] } := by
    injection hrun with _ hafter
    exact hafter.symm
  rw [Speaks, hafter, hleads]
  simp [saidView, heardBy, hcall]

theorem speaks_notifyNetIf {event : NetIfEvent}
    (hrun : (notifyNetIf env event).run s = .ok () after) :
    Speaks s (.tells event) (some (.netIf event)) after := by
  have hspeaks : Ensures (notifyNetIf env event) s fun _ after =>
      Speaks s (.tells event) (some (.netIf event)) after := by
    rw [Ensures, notifyNetIf, ends_bind, ends_get, ends_runIf]
    split
    · rename_i hset
      rw [emit, ends_bind, ends_modify]
      apply leaves_said_letOthersCall.ensures.mono
      intro _ final hfinal
      rw [Speaks, hfinal]
      simp [saidView, heardBy, callbacks, hset, ofMachine, leadsTo]
    · rename_i hunset
      simp [Speaks, saidView, heardBy, callbacks, hunset, leadsTo]
  exact hspeaks.of_run hrun

theorem speaks_notifyWifiApp {event : WifiConnEvent} {act : SmAct}
    (hrun : (notifyWifiApp env event).run s = .ok () after)
    (hleads : leadsTo s.state act = s.state) : Speaks s act (some (.app event)) after := by
  have hspeaks : Ensures (notifyWifiApp env event) s fun _ after =>
      Speaks s act (some (.app event)) after := by
    rw [Ensures, notifyWifiApp, ends_bind, ends_get, ends_runIf]
    split
    · rename_i hset
      rw [emit, ends_bind, ends_modify]
      apply leaves_said_letOthersCall.ensures.mono
      intro _ final hfinal
      rw [Speaks, hfinal, hleads]
      simp [saidView, heardBy, callbacks, hset, ofMachine]
    · rename_i hunset
      simp [Speaks, saidView, heardBy, callbacks, hunset, hleads]
  exact hspeaks.of_run hrun

theorem speaks_setState {state : SmState} (hrun : (setState state).run s = .ok () after) :
    Speaks s (.enters state) (some (.entered state)) after := by
  injection hrun with _ hafter
  subst hafter
  simp [Speaks, saidView, heardBy, leadsTo, ofMachine]

theorem speaks_quietly {α : Type} {program : Sm α} {value : α} {act : SmAct}
    (hprogram : Leaves quietView program) (hrun : program.run s = .ok value after)
    (hleads : leadsTo s.state act = s.state) : Speaks s act none after :=
  speaks_of_leaves (leaves_said_of_quiet hprogram) hrun hleads

theorem speaks_reset {α : Type} {program : Sm α} {value : α} {act : SmAct}
    (hprogram : Leaves (contextView ofMachine) program) (hrun : program.run s = .ok value after)
    (hleads : leadsTo s.state act = s.state) : Speaks s act none after :=
  speaks_of_leaves (leaves_said_of_context hprogram) hrun hleads

/-- Every act says what it may say, and leads where it leads, whatever other threads do
meanwhile. -/
theorem acts_speak {act : SmAct} (hact : Acts env act s after) :
    ∃ said, Voices env act said ∧ Speaks s act said after := by
  cases hact with
  | tells hrun => exact ⟨_, .tells, speaks_notifyNetIf hrun⟩
  | informs hrun => exact ⟨_, .informs, speaks_notifyWifiApp hrun rfl⟩
  | informsStarted hrun => exact ⟨_, .informsStarted, speaks_notifyWifiApp hrun rfl⟩
  | informsStats hrun => exact ⟨_, .informsStats, speaks_notifyWifiApp hrun rfl⟩
  | enters hrun => exact ⟨_, .enters, speaks_setState hrun⟩
  | defers hrun =>
      exact ⟨none, .defers, speaks_of_leaves
        (leaves_said_of_machine ((leaves_deferredEventEnqueue _ _).project Prod.fst)) hrun rfl⟩
  | drains hrun =>
      exact ⟨none, .drains,
        speaks_of_leaves (leaves_deferredEventProcess.project Prod.fst) hrun rfl⟩
  | arms hrun => exact ⟨none, .arms, speaks_quietly (leaves_startAsyncEvtTimer _) hrun rfl⟩
  | disarms hrun => exact ⟨none, .disarms, speaks_quietly (leaves_startAsyncEvtTimer 0) hrun rfl⟩
  | @asks call _ _ _ hplain hrun =>
      by_cases hcall : ofMachine (.nwp call) = true
      · exact ⟨_, .asks hplain hcall, speaks_nwpCall hrun hcall rfl⟩
      · rw [Bool.not_eq_true] at hcall
        exact ⟨none, .asksSilently hcall,
          speaks_quietly (quiets (leaves_nwpCall env hcall)) hrun rfl⟩
  | connects hrun => exact ⟨_, .connects, speaks_nwpCall hrun rfl rfl⟩
  | setsApSsid hrun => exact ⟨_, .setsApSsid, speaks_nwpCall hrun rfl rfl⟩
  | setsApSecType hrun => exact ⟨_, .setsApSecType, speaks_nwpCall hrun rfl rfl⟩
  | setsApPassword hrun => exact ⟨_, .setsApPassword, speaks_nwpCall hrun rfl rfl⟩
  | startsProvisioning hcmd hrun =>
      exact ⟨_, .startsProvisioning hcmd, speaks_nwpCall hrun rfl rfl⟩
  | stopsProvisioning hrun => exact ⟨_, .stopsProvisioning, speaks_nwpCall hrun rfl rfl⟩
  | resets hrun =>
      exact ⟨none, .resets, speaks_reset (leaves_resetNWP env ofMachine_of_reset) hrun rfl⟩
  | resetsRole hrun =>
      exact ⟨none, .resetsRole, speaks_reset (leaves_resetNWPRole env ofMachine_of_reset) hrun rfl⟩
  | setsRole hrun =>
      exact ⟨none, .setsRole, speaks_reset (leaves_setRole env ofMachine_of_reset _) hrun rfl⟩
  | suspends hrun =>
      exact ⟨none, .suspends,
        speaks_quietly (quiets (leaves_suspendNWPPolicy env ofMachine_of_reset)) hrun rfl⟩
  | resumes hrun =>
      exact ⟨none, .resumes,
        speaks_quietly (quiets (leaves_resumeNWPPolicy env ofMachine_of_reset)) hrun rfl⟩
  | sleeps hrun => exact ⟨none, .sleeps, speaks_quietly (quiets (leaves_emit rfl)) hrun rfl⟩
  | @writes write _ => exact ⟨none, .writes, speaks_of_leaves (leaves_said_write write) rfl rfl⟩
  | finds =>
      exact ⟨none, .finds, speaks_of_leaves (leaves_pure : Leaves saidView (pure ())) rfl rfl⟩

theorem plays_state {script : List SmAct} (hplays : Plays (Acts env) script s after) :
    after.state = script.foldl leadsTo s.state := by
  induction hplays with
  | nil => rfl
  | cons hact _ ih =>
      obtain ⟨said, -, hspeaks⟩ := acts_speak hact
      have hstate := congrArg (·.2.1) hspeaks
      rw [ih, List.foldl_cons]
      exact congrArg (List.foldl leadsTo · _) hstate

/-- The script finds the link up exactly where the state says so. -/
def fitsLink (state : SmState) : List SmAct → Bool
  | [] => true
  | .finds .linkUp holds :: rest =>
      holds = (decide (state = .waitForIp ∨ state = .connected)) && fitsLink state rest
  | act :: rest => fitsLink (leadsTo state act) rest

theorem plays_fitsLink {script : List SmAct} (hplays : Plays (Acts env) script s after) :
    fitsLink s.state script = true := by
  induction hplays with
  | nil => rfl
  | @cons act rest before middle final hact _ ih =>
      obtain ⟨said, -, hspeaks⟩ := acts_speak hact
      have hstate : middle.state = leadsTo before.state act := congrArg (·.2.1) hspeaks
      rw [hstate] at ih
      unfold fitsLink
      split
      · rfl
      · rename_i hscript
        injection hscript with hact' hrest
        subst hact' hrest
        cases hact with
        | finds => simpa [Test.passes, leadsTo] using ih
      · rename_i hscript
        injection hscript with hact' hrest
        subst hact' hrest
        exact ih

theorem finds_iff {test : Test} {holds : Bool} (hact : Acts env (.finds test holds) s after) :
    after = s ∧ test.passes env.toWifiConfig s = holds := by
  cases hact with
  | finds => exact ⟨rfl, rfl⟩

/-- The tests with which the connection timeout decides to start the provisioning. -/
def startTests : List SmAct := [.finds .connectUsed false, .finds .provisions true]

theorem startTests_plays {script : List SmAct} (htests : script.take 2 = startTests)
    (hplays : Plays (Acts env) script s after) :
    s.bWlanConnectUsed = false ∧ s.provMode ≠ .off ∧ Plays (Acts env) (script.drop 2) s after := by
  rw [← List.take_append_drop 2 script, htests, startTests, List.cons_append, plays_cons] at hplays
  obtain ⟨found, hused, hplays⟩ := hplays
  obtain ⟨hfound, hused⟩ := finds_iff hused
  rw [hfound, List.cons_append, plays_cons] at hplays
  obtain ⟨decided, hmode, hplays⟩ := hplays
  obtain ⟨hdecided, hmode⟩ := finds_iff hmode
  rw [hdecided] at hplays
  exact ⟨hused, of_decide_eq_true hmode, hplays⟩

end Said

section Deferred

/-- Deferred events are replayed exactly when there are any. -/
theorem drains_iff {replayed : Bool} (hact : Acts env (.drains replayed) s after) :
    replayed = true ↔ s.deferredEventQ ≠ [] := by
  cases hact with
  | drains hrun =>
      have hreplayed : Ensures (deferredEventProcess env) s fun replayed _ =>
          replayed = !s.deferredEventQ.isEmpty := by
        rw [Ensures, deferredEventProcess, ends_bind, ends_get]
        apply ensures_run.bind
        exact fun _ _ _ => rfl
      rw [hreplayed.of_run hrun]
      simp

/-- The deferred events are all replayed, each in front of the rest. -/
theorem ensures_deferredEventsProcess (events : List DeferredEvent)
    (hevents : s.deferredEventQ = events) :
    Ensures (deferredEventsProcess env events) s fun _ after => after.deferredEventQ = [] := by
  induction events generalizing s with
  | nil => exact hevents
  | cons deferred rest ih =>
      rw [Ensures, deferredEventsProcess, ends_bind, ends_modify]
      have hprofile : Leaves (·.deferredEventQ) (addDeferredProfile env deferred) :=
        leaves_deferred_of_quiet (leaves_addDeferredProfile env deferred)
      apply hprofile.ensures.bind
      intro _ added hadded
      apply (leaves_deferred_letOthersPost env).ensures.bind
      intro _ posted hposted
      apply (leaves_deferred_of_quiet (leaves_signalEvent deferred.event)).ensures.bind
      intro _ signalled hsignalled
      apply ensures_assertThat.bind
      intro _ checked hchecked
      rw [hchecked.2]
      apply ih
      calc signalled.deferredEventQ = posted.deferredEventQ := hsignalled
        _ = added.deferredEventQ := hposted
        _ = rest := hadded

theorem drains_empty {replayed : Bool} (hact : Acts env (.drains replayed) s after) :
    after.deferredEventQ = [] := by
  cases hact with
  | drains hrun =>
      have hempty : Ensures (deferredEventProcess env) s fun _ after =>
          after.deferredEventQ = [] := by
        rw [Ensures, deferredEventProcess, ends_bind, ends_get]
        exact (ensures_deferredEventsProcess _ rfl).bind fun _ _ hafter => hafter
      exact hempty.of_run hrun

/-- A notification does not take deferred events out of the queue. -/
theorem informs_keeps_deferred {event : WifiConnEvent}
    (hact : Acts env (.informs event) s after) : s.deferredEventQ <+: after.deferredEventQ := by
  cases hact with
  | informs hrun =>
      have hkeeps : Keeps (fun after => s.deferredEventQ <+: after.deferredEventQ)
          (notifyWifiApp env event) := by
        apply keeps_get.bind
        intro _
        apply keeps_runIf
        refine Keeps.bind (keeps_modify fun _ hprefix => hprefix) fun _ => ?_
        apply keeps_get.bind
        intro _
        split
        · exact keeps_pure
        · refine Keeps.bind (keeps_modify fun _ hprefix => hprefix) fun _ => ?_
          exact keeps_deferred_runCalls env _ _
      exact hkeeps.of_run hrun List.prefix_rfl

end Deferred

section Watched

variable {Seen : Type} {watch : Seen → Output → Seen} {first : Seen}
variable {follow : Seen → SmAct → Seen} {script : List SmAct}

/-- What a watch has seen of the outputs. -/
def watched (watch : Seen → Output → Seen) (first : Seen) (s : WifiState) : Seen :=
  s.outputs.foldl watch first

/-- A watch of the state machine does not see what other threads may cause. -/
def WatchesMachine (watch : Seen → Output → Seen) : Prop :=
  ∀ seen output, ofMachine output = false → watch seen output = seen

/-- Nor does it see what `SlWifiConn_init` says. -/
def WatchesRun (env : WifiEnv) (watch : Seen → Output → Seen) : Prop :=
  ∀ seen output, ofRun env output = false → watch seen output = seen

theorem WatchesRun.machine (hwatch : WatchesRun env watch) : WatchesMachine watch :=
  fun seen output houtput => hwatch seen output (ofRun_of_others output houtput)

/-- The module has just started, with nothing in the record. -/
def Started (env : WifiEnv) (s : WifiState) : Prop :=
  ∃ boot appCBSet deleteProfiles, boot.outputs = [] ∧
    (slWifiConnInit env appCBSet deleteProfiles).run boot = .ok (.value 0) s

theorem Started.context {heard : Output → Bool} (hstarted : Started env s)
    (hheard : ∀ output, ofInit env output = true → heard output = false) :
    ∃ boot appCBSet, boot.outputs = [] ∧
      contextView heard s = contextView heard (freshContext appCBSet boot) := by
  obtain ⟨boot, appCBSet, deleteProfiles, houtputs, hinit⟩ := hstarted
  exact ⟨boot, appCBSet, houtputs,
    (ensures_slWifiConnInit env hheard appCBSet deleteProfiles).of_run hinit rfl⟩

theorem Started.off (hstarted : Started env s) : s.state = .off := by
  obtain ⟨boot, appCBSet, -, hcontext⟩ := hstarted.context ofRun_of_init
  exact congrArg (·.state) hcontext

theorem Started.watched (hwatch : WatchesRun env watch) (hstarted : Started env s) :
    s.outputs.foldl watch first = first := by
  obtain ⟨boot, appCBSet, houtputs, hcontext⟩ := hstarted.context ofRun_of_init
  have hsaid : s.outputs.filter (ofRun env) = [] := by
    have hfresh : s.outputs.filter (ofRun env) = boot.outputs.filter (ofRun env) :=
      congrArg (·.outputs) hcontext
    rw [hfresh, houtputs, List.filter_nil]
  have hignored : ∀ output ∈ s.outputs, ofRun env output = false := by
    intro output houtput
    have hmember := List.filter_eq_nil_iff.mp hsaid output houtput
    exact Bool.eq_false_iff.mpr hmember
  revert hignored
  induction s.outputs with
  | nil => exact fun _ => rfl
  | cons output rest ih =>
      intro hignored
      rw [List.foldl_cons, hwatch first output (hignored output List.mem_cons_self)]
      exact ih fun other hother => hignored other (List.mem_cons_of_mem output hother)

/-- The acts are followed as they are heard. -/
def Echoes (env : WifiEnv) (callbacks : Bool × Bool) (watch : Seen → Output → Seen)
    (follow : Seen → SmAct → Seen) : Prop :=
  ∀ seen act said, Voices env act said →
    (heardBy callbacks said).foldl watch seen = follow seen act

theorem watched_eq (hwatch : WatchesMachine watch) (s : WifiState) :
    watched watch first s = (s.outputs.filter ofMachine).foldl watch first := by
  rw [watched, List.foldl_filter]
  congr 1
  funext seen output
  by_cases houtput : ofMachine output = true
  · rw [if_pos houtput]
  · rw [if_neg houtput, hwatch seen output (Bool.eq_false_iff.mpr houtput)]

theorem watched_congr (hwatch : WatchesMachine watch) (hsaid : saidView after = saidView s) :
    watched watch first after = watched watch first s := by
  rw [watched_eq hwatch, watched_eq hwatch]
  exact congrArg (·.2.2.foldl watch first) hsaid

/-- Along a script a watch sees what the acts voice. -/
theorem plays_watched {cbs : Bool × Bool} (hwatch : WatchesMachine watch)
    (hechoes : Echoes env cbs watch follow) (hcbs : callbacks s = cbs)
    (hplays : Plays (Acts env) script s after) :
    watched watch first after = script.foldl follow (watched watch first s) ∧
      after.state = script.foldl leadsTo s.state ∧ callbacks after = cbs := by
  induction hplays with
  | nil => exact ⟨rfl, rfl, hcbs⟩
  | @cons act rest before middle final hact _ ih =>
      obtain ⟨said, hvoices, hspeaks⟩ := acts_speak hact
      have hcallbacks : callbacks middle = callbacks before :=
        congrArg (fun view => (view.1.2.1, view.1.2.2)) hspeaks
      have hstate : middle.state = leadsTo before.state act := congrArg (·.2.1) hspeaks
      have houtputs : middle.outputs.filter ofMachine =
          before.outputs.filter ofMachine ++ heardBy (callbacks before) said :=
        congrArg (·.2.2) hspeaks
      have hwatched : watched watch first middle =
          follow (watched watch first before) act := by
        rw [watched_eq hwatch, watched_eq hwatch, houtputs, List.foldl_append, hcbs]
        exact hechoes _ act said hvoices
      rw [List.foldl_cons, List.foldl_cons, ← hwatched, ← hstate]
      exact ih (hcallbacks.trans hcbs)

/-- What a watch and the machine are, is the same behind a step that processes no event. -/
def SameWatched (watch : Seen → Output → Seen) (first : Seen) (s after : WifiState) : Prop :=
  watched watch first after = watched watch first s ∧ after.state = s.state ∧
    callbacks after = callbacks s

theorem call_watched {call : Call} (hwatch : WatchesMachine watch)
    (hrun : (runCall env call).run s = .ok () after) : SameWatched watch first s after := by
  have hsaid : saidView after = saidView s :=
    (leaves_said_of_machine (leaves_runCall env call)).of_run hrun
  exact ⟨watched_congr hwatch hsaid, congrArg (·.2.1) hsaid,
    congrArg (fun view => (view.1.2.1, view.1.2.2)) hsaid⟩

theorem destroy_watched {notified : List (List Call)} {posting : List (List FreeCall)}
    {final : WifiState} (hwatch : WatchesRun env watch)
    (hrun : (deinit env).run { s with received := none, notified := notified,
                                      posting := posting } = .ok () final) :
    SameWatched watch first s (handled final) := by
  injection hrun with _ hfinal
  subst hfinal
  have hdeinit (seen : Seen) :
      watch (watch seen (.nwp .unregisterHandlers)) (.nwp .stop) = seen := by
    rw [hwatch _ (.nwp .stop) rfl, hwatch _ (.nwp .unregisterHandlers) rfl]
  exact ⟨by simp [watched, handled, hdeinit], rfl, rfl⟩

/-- Behind the debug print of `ProcessEvent`, a watch sees what the acts voice. -/
theorem handling_watched {cbs : Bool × Bool} {event : SmEvent} {notified : List (List Call)}
    {posting : List (List FreeCall)} {final : WifiState} (hwatch : WatchesMachine watch)
    (hechoes : Echoes env cbs watch follow) (hcbs : callbacks s = cbs)
    (hplays : Plays (Acts env) script (handling s event notified posting) final) :
    watched watch first final =
        script.foldl follow (watch (watched watch first s) (.processing s.state event)) ∧
      final.state = script.foldl leadsTo s.state ∧ callbacks final = cbs := by
  have hhandling : callbacks (handling s event notified posting) = cbs := hcbs
  have hplayed : watched watch first final = _ ∧ final.state = _ ∧ callbacks final = cbs :=
    plays_watched hwatch hechoes hhandling hplays
  have hprinted : watched watch first (handling s event notified posting) =
      watch (watched watch first s) (.processing s.state event) := by
    simp [watched, handling]
  rwa [hprinted] at hplayed

/-- A relation between what a watch has seen and the state of the machine holds in every
state of a run if it holds behind every event that is processed. -/
theorem watched_run_of_final {cbs : Bool × Bool} {good : Seen → SmState → Prop}
    {condition : WifiState → WifiAct → Prop} {acts : List WifiAct}
    (hwatch : WatchesRun env watch) (hechoes : Echoes env cbs watch follow)
    (hprocess : ∀ s event notified posting script final, callbacks s = cbs →
      s.received = some event → condition s (.handle notified posting) →
      step env s (.handle notified posting) = some (handled final) →
      script ∈ processScripts s.state event →
      Plays (Acts env) script (handling s event notified posting) final →
      good (watched watch first s) s.state → good (watched watch first final) final.state)
    (hcbs : callbacks s = cbs) (hstarted : Started env s) (hstart : good first .off)
    (hsteps : Transition.StepsSatisfy (step env) condition s acts) :
    Transition.StatesSatisfy (step env) (fun s => good (watched watch first s) s.state) s acts := by
  have hstates : Transition.StatesSatisfy (step env)
      (fun s => callbacks s = cbs ∧ good (watched watch first s) s.state) s acts := by
    have hfirst : good (watched watch first s) s.state := by
      rw [watched, hstarted.watched hwatch, hstarted.off]
      exact hstart
    refine Transition.states_of_steps ?_ ⟨hcbs, hfirst⟩ hsteps
    intro s act next hboth hcondition hstep
    obtain ⟨hcbs, hgood⟩ := hboth
    cases stepCase_of_step hstep with
    | call hrun =>
        obtain ⟨hseen, hstate, hsame⟩ := call_watched hwatch.machine hrun
        refine ⟨hsame.trans hcbs, ?_⟩
        rw [hseen, hstate]
        exact hgood
    | receive _ _ => exact ⟨hcbs, hgood⟩
    | @process event notified posting script final hreceived _ hscript hplays =>
        have hplayed : watched watch first final = _ ∧ final.state = _ ∧ callbacks final = cbs :=
          handling_watched hwatch.machine hechoes hcbs hplays
        refine ⟨hplayed.2.2, ?_⟩
        exact hprocess s event notified posting script final hcbs hreceived hcondition hstep
          hscript hplays hgood
    | destroy _ hrun =>
        obtain ⟨hseen, hstate, hsame⟩ := destroy_watched hwatch hrun
        refine ⟨hsame.trans hcbs, ?_⟩
        rw [hseen, hstate]
        exact hgood
  exact fun before hbefore reached hreached => (hstates before hbefore reached hreached).2

/-- A relation between what a watch has seen and the state of the machine holds in every
state of a run if every event that is processed keeps it. -/
theorem watched_run {cbs : Bool × Bool} {good : Seen → SmState → Prop}
    {condition : WifiState → WifiAct → Prop} {acts : List WifiAct}
    (hwatch : WatchesRun env watch) (hechoes : Echoes env cbs watch follow)
    (hprocess : ∀ s event notified posting script final, callbacks s = cbs →
      s.received = some event → condition s (.handle notified posting) →
      script ∈ processScripts s.state event →
      Plays (Acts env) script (handling s event notified posting) final →
      good (watched watch first s) s.state →
      good (script.foldl follow (watch (watched watch first s) (.processing s.state event)))
        (script.foldl leadsTo s.state))
    (hcbs : callbacks s = cbs) (hstarted : Started env s) (hstart : good first .off)
    (hsteps : Transition.StepsSatisfy (step env) condition s acts) :
    Transition.StatesSatisfy (step env) (fun s => good (watched watch first s) s.state) s acts := by
  refine watched_run_of_final hwatch hechoes ?_ hcbs hstarted hstart hsteps
  intro s event notified posting script final hcbs hreceived hcondition _ hscript hplays hgood
  obtain ⟨hseen, hstate, -⟩ := handling_watched hwatch.machine hechoes hcbs hplays
  rw [hseen, hstate]
  exact hprocess s event notified posting script final hcbs hreceived hcondition hscript hplays
    hgood

end Watched

end SimpleLinkHost.WifiRuns
