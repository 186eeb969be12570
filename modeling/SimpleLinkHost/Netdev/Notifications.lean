import Mathlib.Data.List.Chain
import SimpleLinkHost.Netdev.FatalReset

/-!
# What the listener is told

The listener of the network device hears of a connection in `NOTIFY_UP` and of its loss in
`NOTIFY_DOWN`.  The states around them go to whatever stands in `nstate`; what can stand
there is found once, and the order of the notifications follows from it.
-/

namespace SimpleLinkHost.Notifications

open CallOutcome ProgramInvariant Cc3220sf FatalReset

variable {rebootOnFatalError : Bool} {d after : Desc} {acts : List NetAct}

section Told

/-- The notifications among what the thread has done. -/
def notifications (outputs : List Output) : List NetworkEvent :=
  outputs.filterMap fun
    | .notified event => some event
    | _ => none

theorem notifications_append (earlier later : List Output) :
    notifications (earlier ++ later) = notifications earlier ++ notifications later :=
  List.filterMap_append

/-- The notifications alternate, and the first one is of a connection. -/
def Alternates (events : List NetworkEvent) : Prop :=
  events.IsChain (· ≠ ·) ∧ ∀ first ∈ events.head?, first = .connected

/-- The last the listener has heard is of a connection. -/
def ToldUp (d : Desc) : Prop :=
  (notifications d.outputs).getLast? = some .connected

/-- What the listener is told in a state. -/
def told : Cc3220sfState → List NetworkEvent
  | .notifyUp => [.connected]
  | .notifyDown => [.disconnected]
  | _ => []

/-- The states, with what stands in `nstate` then, to which a call may take the machine. -/
def successors (state nstate : Cc3220sfState) : List (Cc3220sfState × Cc3220sfState) :=
  match state with
  | .init => [(.start, nstate)]
  | .start => [(.waitFwInstall, nstate), (.wait4Start, .checkProfiles)]
  | .wait4Start => [(nstate, nstate), (.sleep, .init), (.wait4Start, nstate)]
  | .stop => [(.init, nstate)]
  | .checkProfiles => [(.startNetwork, nstate)]
  | .startNetwork => [(.waitProvision, nstate), (.waitConnectAp, nstate)]
  | .waitConnectAp => [(.waitIp, nstate), (.error, nstate), (.waitConnectAp, nstate)]
  | .waitIp => [(.startHttp, nstate), (.error, nstate), (.waitIp, nstate)]
  | .startHttp => [(.notifyUp, .idle)]
  | .notifyUp | .notifyDown => [(nstate, nstate)]
  | .idle => [(.httpMessage, nstate), (.handleEvent, nstate), (.idle, nstate)]
  | .handleEvent => [(.notifyDown, .stop), (.idle, nstate)]
  | .httpMessage | .checkConnection => [(.idle, nstate)]
  | .sleep => [(nstate, nstate), (.sleep, nstate)]
  | .error => [(.sleep, .stop)]
  | .waitFwInstall => [(.waitFwInstall, nstate)]
  | .waitProvision => [(.waitProvision, nstate)]
  | .ready | .getStatistics | .startProv => [(.error, nstate)]

end Told

section Handlers

/-- `nstate`, and what the listener has been told. -/
def outlook (d : Desc) : Cc3220sfState × List NetworkEvent :=
  (d.nstate, notifications d.outputs)

theorem leaves_emit {output : Output} (houtput : notifications [output] = []) :
    Leaves outlook (emit output) := by
  apply leaves_modify
  intro d
  rw [outlook, notifications_append, houtput, List.append_nil]
  rfl

theorem leaves_recvEvent : Leaves outlook (recvEvent rebootOnFatalError) := by
  intro value
  apply keeps_recvEvent
  intro d event rest houtlook
  rw [← houtlook, outlook, outlook]
  cases event <;> simp [countEvent, notifications]

theorem leaves_awaitStopped (tries : ℕ) :
    Leaves outlook (awaitStopped rebootOnFatalError tries) :=
  fun value => keeps_awaitStopped (leaves_recvEvent value)
    (leaves_letOthersSend (fun _ _ _ => rfl) value) tries

/-- A call in `state` tells the listener what it should, and goes on to a successor. -/
def Moves (state : Cc3220sfState) (d : Desc) (next : Cc3220sfState) (after : Desc) : Prop :=
  notifications after.outputs = notifications d.outputs ++ told state ∧
    (next, after.nstate) ∈ successors state d.nstate

/-- A handler that begins with a receive sees the same outlook behind it. -/
theorem moves_recvEvent {state : Cc3220sfState} {next : Cc3220sfEvent → Net Cc3220sfState}
    (hnext : ∀ event received, outlook received = outlook d →
      Ensures (next event) received (Moves state received)) :
    Ensures (recvEvent rebootOnFatalError >>= next) d (Moves state d) := by
  apply Ensures.bind leaves_recvEvent.ensures
  intro event received houtlook
  apply (hnext event received houtlook).mono
  intro value after hmoves
  have hsame := Prod.mk.inj houtlook
  rw [Moves, hsame.1, hsame.2] at hmoves
  exact hmoves

theorem moves_smHandleEvent :
    Ensures (smHandleEvent rebootOnFatalError) d (Moves .handleEvent d) := by
  have hdown (d : Desc) : Ensures notifyDownThenStop d (Moves .handleEvent d) := by
    rw [Ensures, notifyDownThenStop, ends_bind, ends_modify, ends_pure]
    exact ⟨(List.append_nil _).symm, List.mem_cons_self⟩
  apply moves_recvEvent
  intro event received _
  cases event with
  | fwInstall => exact hdown received
  | fatalError =>
      apply (leaves_emit rfl).ensures.bind
      intro _ asked hasked
      apply (hdown asked).mono
      intro next after hmoves
      have hsame := Prod.mk.inj hasked
      rwa [Moves, hsame.1, hsame.2] at hmoves
  | _ =>
      rw [Ensures, rebootOrIdle, ends_bind, ends_get, ends_ite]
      split
      · exact hdown received
      · exact ⟨(List.append_nil _).symm, by simp [successors]⟩

/-- A call that changes nothing the listener or a later state sees. -/
theorem moves_of_outlook {state next : Cc3220sfState} (houtlook : outlook after = outlook d)
    (htold : told state = []) (hnext : (next, d.nstate) ∈ successors state d.nstate) :
    Moves state d next after := by
  have hsame := Prod.mk.inj houtlook
  rw [Moves, htold, List.append_nil, hsame.1]
  exact ⟨hsame.2, hnext⟩

theorem moves_smHandler (state : Cc3220sfState) :
    Ensures (smHandler rebootOnFatalError state) d (Moves state d) := by
  cases state with
  | init =>
      rw [Ensures, smHandler, smInit, ends_bind, ends_get, ends_bind, ends_runIf]
      split
      · trivial
      · exact moves_of_outlook rfl rfl List.mem_cons_self
  | start =>
      apply moves_recvEvent
      intro event received _
      rw [Ensures, ends_bind, ends_get, ends_ite]
      split
      · apply (leaves_emit rfl).ensures.bind
        intro _ installed hinstalled
        apply (leaves_emit rfl).ensures.bind
        intro _ stopped hstopped
        exact moves_of_outlook (hstopped.trans hinstalled) rfl (by simp [successors])
      · apply (leaves_runIf (leaves_emit rfl)).ensures.bind
        intro _ enabled henabled
        have hsame := Prod.mk.inj henabled
        have houtputs : notifications enabled.outputs = notifications received.outputs ++ [] :=
          hsame.2.trans (List.append_nil _).symm
        exact ⟨houtputs, by simp [successors]⟩
  | wait4Start =>
      apply moves_recvEvent
      intro event received _
      rw [Ensures, ends_bind, ends_get, ends_ite, ends_ite]
      split
      · exact moves_of_outlook rfl rfl (by simp [successors])
      · split
        · exact ⟨(List.append_nil _).symm, by simp [successors]⟩
        · exact moves_of_outlook rfl rfl (by simp [successors])
  | stop =>
      apply moves_recvEvent
      intro event received _
      apply (leaves_emit rfl).ensures.bind
      intro _ disabled hdisabled
      apply (leaves_awaitStopped 10).ensures.bind
      intro _ stopped hstopped
      exact moves_of_outlook (hstopped.trans hdisabled) rfl (by simp [successors])
  | startNetwork =>
      rw [Ensures, smHandler, smStartNetwork, ends_bind, ends_get, ends_ite]
      split
      · apply (leaves_emit rfl).ensures.bind
        intro _ disabled hdisabled
        exact moves_of_outlook hdisabled rfl (by simp [successors])
      · exact moves_of_outlook rfl rfl (by simp [successors])
  | waitConnectAp =>
      apply moves_recvEvent
      intro event received _
      rw [Ensures, ends_bind, ends_get, ends_ite, ends_ite]
      split
      · exact moves_of_outlook rfl rfl (by simp [successors])
      · split
        · exact moves_of_outlook rfl rfl (by simp [successors])
        · exact moves_of_outlook rfl rfl (by simp [successors])
  | waitIp =>
      apply moves_recvEvent
      intro event received _
      rw [Ensures, ends_bind, ends_get, ends_ite, ends_ite]
      split
      · exact moves_of_outlook rfl rfl (by simp [successors])
      · split
        · exact moves_of_outlook rfl rfl (by simp [successors])
        · exact moves_of_outlook rfl rfl (by simp [successors])
  | startHttp => exact ⟨(List.append_nil _).symm, List.mem_cons_self⟩
  | notifyUp =>
      rw [Ensures, smHandler, smNotifyup, ends_bind, ends_modify, ends_bind, ends_get, ends_bind,
        ends_runIf]
      split
      · exact ⟨notifications_append _ _, List.mem_cons_self⟩
      · exact ⟨notifications_append _ _, List.mem_cons_self⟩
  | notifyDown => exact ⟨notifications_append _ _, List.mem_cons_self⟩
  | idle =>
      rw [Ensures, smHandler, smIdle, ends_bind, ends_get, ends_ite, ends_ite, ends_bind,
        ends_runIf]
      split
      · exact moves_of_outlook rfl rfl (by simp [successors])
      · split
        · exact moves_of_outlook rfl rfl (by simp [successors])
        · split
          · exact moves_of_outlook rfl rfl (by simp [successors])
          · exact moves_of_outlook rfl rfl (by simp [successors])
  | sleep =>
      rw [Ensures, smHandler, smSleep, ends_bind, ends_get, ends_pure]
      split
      · exact moves_of_outlook rfl rfl (by simp [successors])
      · exact moves_of_outlook rfl rfl (by simp [successors])
  | handleEvent => exact moves_smHandleEvent
  | waitFwInstall =>
      apply moves_recvEvent
      intro event received _
      rw [Ensures, ends_bind, ends_get]
      apply (leaves_runIf (leaves_emit rfl)).ensures.bind
      intro _ restarted hrestarted
      exact moves_of_outlook hrestarted rfl List.mem_cons_self
  | waitProvision =>
      have hprovision : Leaves outlook (do
          emit (.slWifiConnEnableProvisioning WifiApi.provFlagForceProvisioning)
          modify fun d => { d with wlanStatus := insert .provMode d.wlanStatus }
          emit .slWifiConnEnable) := by
        apply (leaves_emit rfl).bind
        exact fun _ => Leaves.bind (leaves_modify fun _ => rfl) fun _ => leaves_emit rfl
      apply moves_recvEvent
      intro event received _
      rw [Ensures, ends_bind, ends_get]
      apply (leaves_runIf hprovision).ensures.bind
      intro _ provisioned hprovisioned
      exact moves_of_outlook hprovisioned rfl List.mem_cons_self
  | checkProfiles | checkConnection | httpMessage =>
      exact moves_of_outlook rfl rfl List.mem_cons_self
  | error => exact ⟨(List.append_nil _).symm, List.mem_cons_self⟩
  | ready | getStatistics | startProv => exact moves_of_outlook rfl rfl List.mem_cons_self

theorem moves_exec (delay : BitVec 32) :
    Ensures (exec rebootOnFatalError delay) d fun _ after => Moves d.state d after.state after := by
  rw [Ensures, exec, ends_bind, ends_modify, ends_bind, ends_get]
  apply Ensures.bind (moves_smHandler d.state)
  intro next handled hmoves
  rw [Ensures, ends_bind, ends_modify, ends_modify]
  split
  · exact hmoves
  · exact hmoves

/-- A step of another party leaves what the thread goes by. -/
theorem leaves_step {act : NetAct} (hact : isExec act = false)
    (hstep : step rebootOnFatalError d act = some after) :
    after.state = d.state ∧ after.nstate = d.nstate ∧ after.wlanStatus = d.wlanStatus ∧
      after.outputs = d.outputs := by
  obtain ⟨event, -, rfl⟩ | ⟨-, -, rfl⟩ | ⟨-, rfl⟩ := other_of_step hact hstep
  · rw [sendEvent]
    split
    · exact ⟨rfl, rfl, rfl, rfl⟩
    · exact ⟨rfl, rfl, rfl, rfl⟩
  · exact ⟨rfl, rfl, rfl, rfl⟩
  · exact ⟨rfl, rfl, rfl, rfl⟩

theorem moves_step {delay : BitVec 32} {arriving : List (List Cc3220sfEvent)}
    (hstep : step rebootOnFatalError d (.exec delay arriving) = some after) :
    Moves d.state d after.state after := by
  obtain ⟨final, hrun, hafter⟩ := exec_of_step hstep
  have hmoves : Moves d.state { d with arriving := arriving } final.state final :=
    (moves_exec delay).of_run hrun
  rw [hafter]
  exact hmoves

end Handlers

section Order

/-- The states in which the listener takes the device for connected. -/
def isUp : Cc3220sfState → Bool
  | .idle | .handleEvent | .httpMessage | .notifyDown => true
  | _ => false

/-- What can stand in `nstate` while a state may go on to it. -/
def mayReturnTo : Cc3220sfState → List Cc3220sfState
  | .wait4Start => [.checkProfiles]
  | .notifyUp => [.idle]
  | .notifyDown => [.stop]
  | .sleep => [.init, .stop]
  | _ => []

/-- The states that go on to what stands in `nstate`. -/
def returns : Cc3220sfState → Bool
  | .wait4Start | .notifyUp | .notifyDown | .sleep => true
  | _ => false

/-- The states that no state goes on to. -/
def unused : Cc3220sfState → Bool
  | .ready | .getStatistics | .startProv | .checkConnection => true
  | _ => false

/-- The listener has been told, in turn, of connections and losses, and takes the device for
connected in the right states. -/
structure InOrder (d : Desc) : Prop where
  alternates : Alternates (notifications d.outputs)
  toldUp_iff : ToldUp d ↔ isUp d.state = true
  nstate_mem : returns d.state = true → d.nstate ∈ mayReturnTo d.state
  used : unused d.state = false

theorem Alternates.concat {events : List NetworkEvent} {event : NetworkEvent}
    (halternates : Alternates events)
    (hevent : event = .connected ↔ events.getLast? ≠ some .connected) :
    Alternates (events ++ [event]) := by
  constructor
  · rw [List.isChain_append]
    refine ⟨halternates.1, List.isChain_singleton _, ?_⟩
    intro last hlast first hfirst hsame
    rw [List.head?_cons, Option.mem_some_iff] at hfirst
    rw [hsame, ← hfirst, Option.mem_def] at hlast
    cases event with
    | connected => exact hevent.mp rfl hlast
    | disconnected =>
        have hconnected := hevent.mpr (by rw [hlast]; decide)
        cases hconnected
  · cases events with
    | nil =>
        intro first hfirst
        rw [List.nil_append, List.head?_cons, Option.mem_some_iff] at hfirst
        rw [← hfirst, hevent]
        simp
    | cons first rest => exact halternates.2

/-- Whether the listener takes the device for connected behind a call in a state. -/
def upBehind : Cc3220sfState → Bool
  | .notifyUp => true
  | .notifyDown => false
  | state => isUp state

/-- Wherever a call leads, the listener has been told what the state there supposes, and
`nstate` is right for it. -/
theorem successors_in_order {state nstate : Cc3220sfState}
    (hnstate : returns state = true → nstate ∈ mayReturnTo state) (hused : unused state = false) :
    ∀ next ∈ successors state nstate, isUp next.1 = upBehind state ∧
      (returns next.1 = true → next.2 ∈ mayReturnTo next.1) ∧ unused next.1 = false := by
  cases state with
  | wait4Start | notifyUp | notifyDown =>
      have hreturn := List.mem_singleton.mp (hnstate rfl)
      subst hreturn
      decide
  | sleep =>
      have hreturn : nstate = .init ∨ nstate = .stop := by simpa [mayReturnTo] using hnstate rfl
      cases hreturn with
      | inl hreturn => subst hreturn; decide
      | inr hreturn => subst hreturn; decide
  | ready | getStatistics | startProv | checkConnection => cases hused
  | _ => simp [successors, isUp, upBehind, returns, unused, mayReturnTo]

theorem toldUp_iff_of_told {state : Cc3220sfState}
    (htold : notifications after.outputs = notifications d.outputs ++ told state)
    (hup : ToldUp d ↔ isUp state = true) : ToldUp after ↔ upBehind state = true := by
  cases state with
  | notifyUp | notifyDown => simp [ToldUp, htold, told, upBehind]
  | _ => rwa [ToldUp, htold, told, List.append_nil] <;> simp

theorem inOrder_step {act : NetAct} (hinOrder : InOrder d)
    (hstep : step rebootOnFatalError d act = some after) : InOrder after := by
  cases hact : isExec act with
  | false =>
      have hleaves := leaves_step hact hstep
      refine ⟨?_, ?_, ?_, ?_⟩
      · rw [hleaves.2.2.2]
        exact hinOrder.alternates
      · rw [ToldUp, hleaves.2.2.2, hleaves.1]
        exact hinOrder.toldUp_iff
      · rw [hleaves.2.1, hleaves.1]
        exact hinOrder.nstate_mem
      · rw [hleaves.1]
        exact hinOrder.used
  | true =>
      obtain ⟨delay, arriving, rfl⟩ := exec_of_isExec hact
      have hmoves := moves_step hstep
      have hnext := successors_in_order hinOrder.nstate_mem hinOrder.used _ hmoves.2
      refine ⟨?_, ?_, hnext.2.1, hnext.2.2⟩
      · rw [hmoves.1]
        cases hstate : d.state with
        | notifyUp | notifyDown =>
            apply hinOrder.alternates.concat
            have hup := hinOrder.toldUp_iff
            rw [ToldUp, hstate] at hup
            simp [hup, isUp]
        | _ =>
            rw [told, List.append_nil]
            · exact hinOrder.alternates
            all_goals simp
      · have hup := toldUp_iff_of_told hmoves.1 hinOrder.toldUp_iff
        rwa [hnext.1]

variable {totalFatalErrors totalRecoveries totalDisconnects : BitVec 32} {doProvisioning : Bool}

theorem inOrder_started :
    InOrder (started totalFatalErrors totalRecoveries totalDisconnects doProvisioning) := by
  have halternates : Alternates [] := ⟨List.isChain_nil, fun _ hfirst => by cases hfirst⟩
  refine ⟨halternates, ?_, fun hreturns => ?_, rfl⟩
  · simp [ToldUp, notifications, started, isUp]
  · cases hreturns

theorem inOrder_run
    (hrun : Transition.run (step rebootOnFatalError)
      (started totalFatalErrors totalRecoveries totalDisconnects doProvisioning) acts = some d) :
    InOrder d :=
  Transition.run_invariant (fun _ _ _ => inOrder_step) inOrder_started hrun

/-- In every run from the start of the device, the listener hears in turn of connections and
of their losses, of a connection first. -/
theorem notifications_alternate
    (hrun : Transition.run (step rebootOnFatalError)
      (started totalFatalErrors totalRecoveries totalDisconnects doProvisioning) acts = some d) :
    Alternates (notifications d.outputs) :=
  (inOrder_run hrun).alternates

/-- The device comes up, and goes down for the installation of a firmware. -/
def upAndDown : List NetAct :=
  [.exec 100 [], .exec 100 [], .send .running, .exec 100 [], .exec 100 [], .exec 100 [],
    .send .connected, .exec 100 [], .send .ipAcquired, .exec 100 [], .exec 100 [], .exec 100 [],
    .send .fwInstall, .exec 100 [], .exec 100 [], .exec 100 []]

theorem alternates_upAndDown :
    ∃ d, Transition.run (step false) (started 0 0 0 false) upAndDown = some d ∧
      notifications d.outputs = [.connected, .disconnected] ∧
        Alternates (notifications d.outputs) := by
  have hchecks : (Transition.run (step false) (started 0 0 0 false) upAndDown).any
      fun d => notifications d.outputs = [.connected, .disconnected] := by
    decide +kernel
  rw [Option.any_eq_true] at hchecks
  obtain ⟨d, hrun, htold⟩ := hchecks
  exact ⟨d, hrun, of_decide_eq_true htold, notifications_alternate hrun⟩

end Order

end SimpleLinkHost.Notifications
