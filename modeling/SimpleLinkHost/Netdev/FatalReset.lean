import SimpleLinkHost.Core.Transition
import SimpleLinkHost.Netdev.Cc3220sf
import SimpleLinkHost.WifiConn.WifiRecord
import SimpleLinkHost.WifiConn.WifiRuns

/-!
# The reset behind a fatal error

A fatal error of the NWP is an event to the driver's thread, which asks the connection
manager for a reset; the request is an event to the connection manager in turn.  Either
event is lost where the machine that receives it does nothing about it.
-/

namespace SimpleLinkHost.FatalReset

open CallOutcome ProgramInvariant Cc3220sf
open WifiContext (SmState SmEvent WifiEnv WifiState)
open WifiRecord (Restarted)

variable {rebootOnFatalError : Bool} {d after : Desc}

section Property

/-- The states of the driver that receive events. -/
def receives : Cc3220sfState → Bool
  | .start | .wait4Start | .stop | .waitConnectAp | .waitIp | .handleEvent | .waitFwInstall
  | .waitProvision => true
  | _ => false

/-- The call that comes first, of those that ask the connection manager to enable the NWP
or to reset it. -/
def firstCall (outputs : List Output) : Option Output :=
  outputs.find? fun output => output = .slWifiConnEnable || output = .slWifiConnRequestReset

def isExec : NetAct → Bool
  | .exec _ _ => true
  | _ => false

theorem exec_of_isExec {act : NetAct} (hact : isExec act = true) :
    ∃ delay arriving, act = .exec delay arriving := by
  cases act with
  | exec delay arriving => exact ⟨delay, arriving, rfl⟩
  | _ => cases hact

/-- Within a bounded number of steps of its thread, the driver requests a reset, and does
not enable the NWP before. -/
def Requests (rebootOnFatalError : Bool) (d : Desc) : Prop :=
  ∃ bound, ∀ acts final, bound ≤ acts.countP isExec →
    Transition.run (step rebootOnFatalError) d acts = some final →
      firstCall (final.outputs.drop d.outputs.length) = some .slWifiConnRequestReset

/-- `ProcessEvent` restarts the NWP for a RESET_REQUEST in this state. -/
def CarriesOut (state : SmState) : Prop :=
  ∀ (env : WifiEnv) (s after : WifiState), s.state = state →
    (WifiMachine.processEvent env .resetRequest).run s = .ok () after → Restarted s after

/-- A FATAL_ERROR that the driver receives in the one state leads to a request that the
connection manager carries out in the other. -/
def LeadsToReset (state : Cc3220sfState) (wifi : SmState) : Prop :=
  (∀ rebootOnFatalError d rest, d.state = state → d.eventQ = .fatalError :: rest →
    Requests rebootOnFatalError d) ∧ CarriesOut wifi

end Property

section Frames

variable {inv : Desc → Prop} {View : Type} {view : Desc → View}

/-- A receive keeps what no event changes. -/
theorem keeps_recvEvent (hreceive : ∀ d event rest, inv d → inv (countEvent event
      { d with
        eventQ := rest
        outputs := d.outputs ++ [.consumed event]
        wlanStatus := statusAfter event d.wlanStatus })) :
    Keeps inv (recvEvent rebootOnFatalError) := by
  intro d hinv
  rw [Ensures, recvEvent, ends_bind, ends_get]
  split
  · exact hinv
  · rename_i event rest _
    simp only [emit, ends_bind, ends_modify, ends_get, ends_runIf]
    split
    · trivial
    · exact hreceive d event rest hinv

/-- What the others send changes nothing but the queue. -/
theorem keeps_letOthersSend
    (hqueue : ∀ d queue arriving, inv d → inv { d with eventQ := queue, arriving := arriving }) :
    Keeps inv letOthersSend := by
  have hsends (events : List Cc3220sfEvent) (d : Desc) (hinv : inv d) :
      inv (events.foldl (fun d event => sendEvent event d) d) := by
    induction events generalizing d with
    | nil => exact hinv
    | cons event events ih =>
        rw [List.foldl_cons]
        apply ih
        rw [sendEvent]
        split
        · exact hqueue d _ d.arriving hinv
        · exact hinv
  apply keeps_modify
  intro d hinv
  split
  · exact hinv
  · rename_i rest _
    exact hsends _ _ (hqueue d d.eventQ rest hinv)

theorem leaves_letOthersSend
    (hview : ∀ d queue arriving, view { d with eventQ := queue, arriving := arriving } = view d) :
    Leaves view letOthersSend :=
  fun _ => keeps_letOthersSend fun d queue arriving hvalue => (hview d queue arriving).trans hvalue

theorem keeps_awaitStopped (hreceives : Keeps inv (recvEvent rebootOnFatalError))
    (hsends : Keeps inv letOthersSend) (tries : ℕ) :
    Keeps inv (awaitStopped rebootOnFatalError tries) := by
  induction tries with
  | zero => exact keeps_pure
  | succ tries ih =>
      apply keeps_get.bind
      intro d
      apply keeps_ite
      · exact hsends.bind fun _ => hreceives.bind fun _ => ih
      · exact keeps_pure

/-- Only a receive, and the end of STOP, can touch the invariant. -/
structure Spared (inv : Desc → Prop) : Prop where
  emit : ∀ d output, (∀ event, output ≠ .consumed event) → inv d →
    inv { d with outputs := d.outputs ++ [output] }
  provMode : ∀ d, inv d → inv { d with wlanStatus := insert .provMode d.wlanStatus }
  of_view : ∀ d after, (after.outputs, after.wlanStatus) = (d.outputs, d.wlanStatus) → inv d →
    inv after

theorem Spared.keeps_modify (hspared : Spared inv) {change : Desc → Desc}
    (hchange : ∀ d, ((change d).outputs, (change d).wlanStatus) = (d.outputs, d.wlanStatus)) :
    Keeps inv (modify change : Net PUnit) :=
  ProgramInvariant.keeps_modify fun d => hspared.of_view d (change d) (hchange d)

theorem Spared.keeps_emit (hspared : Spared inv) {output : Output}
    (houtput : ∀ event, output ≠ .consumed event) : Keeps inv (Cc3220sf.emit output) :=
  ProgramInvariant.keeps_modify fun d => hspared.emit d output houtput

theorem Spared.keeps_notifyDownThenStop (hspared : Spared inv) : Keeps inv notifyDownThenStop :=
  Keeps.bind (hspared.keeps_modify fun _ => rfl) fun _ => keeps_pure

/-- A handler that does not receive keeps what is spared. -/
theorem Spared.keeps_smHandler (hspared : Spared inv) {state : Cc3220sfState}
    (hreceives : receives state = false) : Keeps inv (smHandler rebootOnFatalError state) := by
  have hset {change : Desc → Desc} {next : Cc3220sfState}
      (hchange : ∀ d, ((change d).outputs, (change d).wlanStatus) = (d.outputs, d.wlanStatus)) :
      Keeps inv (do modify change; return next : Net Cc3220sfState) :=
    Keeps.bind (hspared.keeps_modify hchange) fun _ => keeps_pure
  cases state with
  | init =>
      apply keeps_get.bind
      intro d
      apply (keeps_runIf ((hspared.keeps_emit (by simp)).bind fun _ => keeps_throw)).bind
      exact fun _ => keeps_pure
  | startNetwork =>
      apply keeps_get.bind
      exact fun _ => keeps_ite ((hspared.keeps_emit (by simp)).bind fun _ => keeps_pure) keeps_pure
  | notifyUp =>
      refine Keeps.bind (hspared.keeps_modify fun _ => rfl) fun _ => ?_
      apply keeps_get.bind
      intro d
      refine Keeps.bind (keeps_runIf (hspared.keeps_modify fun _ => rfl)) fun _ => ?_
      refine Keeps.bind (hspared.keeps_modify fun _ => rfl) fun _ => ?_
      exact (hspared.keeps_emit (by simp)).bind fun _ => keeps_pure
  | notifyDown =>
      apply (hspared.keeps_emit (by simp)).bind
      intro _
      refine Keeps.bind (hspared.keeps_modify fun _ => rfl) fun _ => ?_
      exact keeps_get.bind fun _ => keeps_pure
  | idle =>
      apply keeps_get.bind
      intro d
      apply keeps_ite keeps_pure
      apply keeps_ite keeps_pure
      exact Keeps.bind (keeps_runIf (hspared.keeps_modify fun _ => rfl)) fun _ => keeps_pure
  | sleep => exact keeps_get.bind fun _ => keeps_pure
  | checkProfiles | startHttp | checkConnection | httpMessage | error => exact hset fun _ => rfl
  | ready | getStatistics | startProv => exact keeps_pure
  | start | wait4Start | stop | waitConnectAp | waitIp | handleEvent | waitFwInstall
  | waitProvision => cases hreceives

/-- A handler that receives does so first, and but for STOP keeps what is spared behind it. -/
theorem smHandler_receives {state : Cc3220sfState} (hreceives : receives state = true)
    (hstop : state ≠ .stop) :
    ∃ next : Cc3220sfEvent → Net Cc3220sfState,
      smHandler rebootOnFatalError state = recvEvent rebootOnFatalError >>= next ∧
        ∀ {inv : Desc → Prop}, Spared inv → ∀ event, Keeps inv (next event) := by
  cases state with
  | start =>
      refine ⟨_, rfl, fun hspared event => ?_⟩
      apply keeps_get.bind
      intro d
      apply keeps_ite
      · apply (hspared.keeps_emit (by simp)).bind
        intro _
        apply (hspared.keeps_emit (by simp)).bind
        exact fun _ => Keeps.bind (hspared.keeps_modify fun _ => rfl) fun _ => keeps_pure
      · apply (keeps_runIf (hspared.keeps_emit (by simp))).bind
        exact fun _ => Keeps.bind (hspared.keeps_modify fun _ => rfl) fun _ => keeps_pure
  | wait4Start =>
      refine ⟨_, rfl, fun hspared event => ?_⟩
      apply keeps_get.bind
      intro d
      apply keeps_ite
      · exact Keeps.bind (hspared.keeps_modify fun _ => rfl) fun _ => keeps_pure
      · apply keeps_ite
        · exact Keeps.bind (hspared.keeps_modify fun _ => rfl) fun _ => keeps_pure
        · exact keeps_pure
  | waitConnectAp =>
      refine ⟨_, rfl, fun hspared event => ?_⟩
      apply keeps_get.bind
      intro d
      apply keeps_ite
      · exact Keeps.bind (hspared.keeps_modify fun _ => rfl) fun _ => keeps_pure
      · exact keeps_ite keeps_pure keeps_pure
  | waitIp =>
      refine ⟨_, rfl, fun hspared event => ?_⟩
      apply keeps_get.bind
      exact fun _ => keeps_ite keeps_pure (keeps_ite keeps_pure keeps_pure)
  | handleEvent =>
      refine ⟨_, rfl, fun hspared event => ?_⟩
      cases event with
      | fwInstall => exact hspared.keeps_notifyDownThenStop
      | fatalError =>
          apply (hspared.keeps_emit (by simp)).bind
          exact fun _ => hspared.keeps_notifyDownThenStop
      | _ =>
          apply keeps_get.bind
          exact fun _ => keeps_ite hspared.keeps_notifyDownThenStop keeps_pure
  | waitFwInstall =>
      refine ⟨_, rfl, fun hspared event => ?_⟩
      apply keeps_get.bind
      exact fun _ => (keeps_runIf (hspared.keeps_emit (by simp))).bind fun _ => keeps_pure
  | waitProvision =>
      refine ⟨_, rfl, fun {inv} hspared event => ?_⟩
      have hprovision : Keeps inv (do
          emit (.slWifiConnEnableProvisioning WifiApi.provFlagForceProvisioning)
          modify fun d => { d with wlanStatus := insert .provMode d.wlanStatus }
          emit .slWifiConnEnable) := by
        apply (hspared.keeps_emit (by simp)).bind
        intro _
        refine Keeps.bind (ProgramInvariant.keeps_modify hspared.provMode) fun _ => ?_
        exact hspared.keeps_emit (by simp)
      apply keeps_get.bind
      exact fun _ => (keeps_runIf hprovision).bind fun _ => keeps_pure
  | stop => exact absurd rfl hstop
  | _ => cases hreceives

end Frames

section Record

variable {base : List Output} {α : Type}

/-- The driver takes nothing back of what it has done. -/
def Grown (base : List Output) (d : Desc) : Prop := base <+: d.outputs

theorem spared_grown : Spared (Grown base) where
  emit := fun _ _ _ hgrown => hgrown.trans (List.prefix_append _ _)
  provMode := fun _ hgrown => hgrown
  of_view := by
    intro d after hview hgrown
    rwa [Grown, (Prod.mk.inj hview).1]

theorem grows_recvEvent : Keeps (Grown base) (recvEvent rebootOnFatalError) := by
  apply keeps_recvEvent
  intro d event rest hgrown
  have hlonger : base <+: d.outputs ++ [.consumed event] := hgrown.trans (List.prefix_append _ _)
  cases event <;> exact hlonger

theorem grows_smHandler (state : Cc3220sfState) :
    Keeps (Grown base) (smHandler rebootOnFatalError state) := by
  cases hreceives : receives state with
  | false => exact spared_grown.keeps_smHandler hreceives
  | true =>
      by_cases hstop : state = .stop
      · subst hstop
        have hsends : Keeps (Grown base) letOthersSend :=
          keeps_letOthersSend fun _ _ _ hgrown => hgrown
        apply grows_recvEvent.bind
        intro _
        apply (spared_grown.keeps_emit (by simp)).bind
        intro _
        apply (keeps_awaitStopped grows_recvEvent hsends 10).bind
        exact fun _ => Keeps.bind (keeps_modify fun _ hgrown => hgrown) fun _ => keeps_pure
      · obtain ⟨next, hnext, hkeeps⟩ := smHandler_receives hreceives hstop
        rw [hnext]
        exact grows_recvEvent.bind fun event => hkeeps spared_grown event

theorem grows_exec (delay : BitVec 32) : Keeps (Grown base) (exec rebootOnFatalError delay) := by
  refine Keeps.bind (keeps_modify fun _ hgrown => hgrown) fun _ => ?_
  apply keeps_get.bind
  intro d
  apply (grows_smHandler d.state).bind
  intro _
  refine Keeps.bind (keeps_modify fun _ hgrown => hgrown) fun _ => keeps_modify fun d hgrown => ?_
  split
  · exact hgrown
  · exact hgrown

theorem sendEvent_outputs (event : Cc3220sfEvent) (d : Desc) :
    (sendEvent event d).outputs = d.outputs := by
  rw [sendEvent]
  split <;> rfl

/-- A step of the thread, as its run. -/
theorem exec_of_step {delay : BitVec 32} {arriving : List (List Cc3220sfEvent)}
    (hstep : step rebootOnFatalError d (.exec delay arriving) = some after) :
    ∃ final, (exec rebootOnFatalError delay).run { d with arriving := arriving } = .ok () final ∧
      after = { final with arriving := [] } := by
  rw [step] at hstep
  split at hstep
  · rename_i final hrun
    rw [Option.some.injEq] at hstep
    exact ⟨final, hrun, hstep.symm⟩
  · cases hstep

/-- A step that is not the thread's: an event is sent, a page is requested, or the
provisioning is asked for. -/
theorem other_of_step {act : NetAct} (hact : isExec act = false)
    (hstep : step rebootOnFatalError d act = some after) :
    (∃ event, act = .send event ∧ after = sendEvent event d) ∨
    (act = .request ∧ d.httpserverQueue < 1 ∧
      after = { d with httpserverQueue := d.httpserverQueue + 1 }) ∨
    (act = .provision ∧ after = { d with doProvisioning := true }) := by
  cases act with
  | send event =>
      rw [step, Option.some.injEq] at hstep
      exact .inl ⟨event, rfl, hstep.symm⟩
  | request =>
      rw [step, Option.ite_none_right_eq_some, Option.some.injEq] at hstep
      exact .inr (.inl ⟨rfl, hstep.1, hstep.2.symm⟩)
  | provision =>
      rw [step, Option.some.injEq] at hstep
      exact .inr (.inr ⟨rfl, hstep.symm⟩)
  | exec => cases hact

theorem grown_step {act : NetAct} (hstep : step rebootOnFatalError d act = some after)
    (hgrown : Grown base d) : Grown base after := by
  cases hact : isExec act with
  | false =>
      obtain ⟨event, -, rfl⟩ | ⟨-, -, rfl⟩ | ⟨-, rfl⟩ := other_of_step hact hstep
      · rw [Grown, sendEvent_outputs]
        exact hgrown
      · exact hgrown
      · exact hgrown
  | true =>
      obtain ⟨delay, arriving, rfl⟩ := exec_of_isExec hact
      obtain ⟨final, hrun, hafter⟩ := exec_of_step hstep
      have hfinal : Grown base final := (grows_exec delay).of_run hrun hgrown
      exact hafter ▸ hfinal

theorem grown_run {acts : List NetAct}
    (hrun : Transition.run (step rebootOnFatalError) d acts = some after) :
    d.outputs <+: after.outputs := by
  have hkeeps : ∀ s act s', Grown d.outputs s → step rebootOnFatalError s act = some s' →
      Grown d.outputs s' :=
    fun _ _ _ hgrown hstep => grown_step hstep hgrown
  have hstart : Grown d.outputs d := List.prefix_refl d.outputs
  have hfinal : Grown d.outputs after := Transition.run_invariant hkeeps hstart hrun
  exact hfinal

end Record

section Request

variable {rest : List Cc3220sfEvent}

/-- In `HANDLE_EVENT` the reset is requested at once. -/
theorem ensures_exec_handleEvent {delay : BitVec 32} (hstate : d.state = .handleEvent)
    (hqueue : d.eventQ = .fatalError :: rest) :
    Ensures (exec rebootOnFatalError delay) d fun _ after =>
      after.outputs = d.outputs ++ [.consumed .fatalError, .slWifiConnRequestReset] := by
  rw [Ensures, exec, ends_bind, ends_modify, ends_bind, ends_get, ends_bind]
  simp only [hstate, smHandler, smHandleEvent, recvEvent, hqueue, ends_bind, ends_get, ends_modify,
    emit, ends_runIf]
  split
  · trivial
  · simp only [notifyDownThenStop, ends_pure, ends_bind, ends_modify, countEvent,
      List.append_assoc, List.singleton_append]
    split <;> rfl

/-- The event is the next one to be received in `HANDLE_EVENT`. -/
def Pending (d : Desc) : Prop :=
  d.state = .handleEvent ∧ ∃ rest, d.eventQ = .fatalError :: rest

/-- Until the thread takes its step, the event stays in front of the queue. -/
theorem pending_step {act : NetAct} (hact : isExec act = false) (hpending : Pending d)
    (hstep : step rebootOnFatalError d act = some after) :
    Pending after ∧ after.outputs = d.outputs := by
  obtain ⟨hstate, rest, hqueue⟩ := hpending
  obtain ⟨event, -, rfl⟩ | ⟨-, -, rfl⟩ | ⟨-, rfl⟩ := other_of_step hact hstep
  · rw [sendEvent]
    split
    · exact ⟨⟨hstate, rest ++ [event], by simp [hqueue]⟩, rfl⟩
    · exact ⟨⟨hstate, rest, hqueue⟩, rfl⟩
  · exact ⟨⟨hstate, rest, hqueue⟩, rfl⟩
  · exact ⟨⟨hstate, rest, hqueue⟩, rfl⟩

theorem requests_handleEvent (hpending : Pending d) : Requests rebootOnFatalError d := by
  refine ⟨1, fun acts final hexecs hrun => ?_⟩
  have hrecord : d.outputs ++ [.consumed .fatalError, .slWifiConnRequestReset] <+:
      final.outputs := by
    induction acts generalizing d with
    | nil => simp at hexecs
    | cons act acts ih =>
        rw [Transition.run_cons, Option.bind_eq_some_iff] at hrun
        obtain ⟨next, hstep, hrun⟩ := hrun
        cases hact : isExec act with
        | false =>
            obtain ⟨hnext, houtputs⟩ := pending_step hact hpending hstep
            rw [List.countP_cons_of_neg (by simp [hact])] at hexecs
            exact houtputs ▸ ih hnext hexecs hrun
        | true =>
            obtain ⟨delay, arriving, rfl⟩ := exec_of_isExec hact
            obtain ⟨stepped, hexec, hnext⟩ := exec_of_step hstep
            obtain ⟨hstate, rest, hqueue⟩ := hpending
            have hexecuted : Ensures (exec rebootOnFatalError delay)
                { d with arriving := arriving } fun _ after => after.outputs =
                  d.outputs ++ [.consumed .fatalError, .slWifiConnRequestReset] :=
              ensures_exec_handleEvent hstate hqueue
            have hgrown := grown_run hrun
            rw [hnext] at hgrown
            exact hexecuted.of_run hexec ▸ hgrown
  obtain ⟨more, hmore⟩ := hrecord
  rw [← hmore, List.append_assoc, List.drop_left]
  rfl

end Request

section Lost

/-- No event waits, and the thread goes on without a reset. -/
structure Quiet (d : Desc) : Prop where
  eventQ : d.eventQ = []
  stopped : .running ∉ d.wlanStatus
  unasked : .slWifiConnRequestReset ∉ d.outputs

theorem Quiet.recvEvent (hquiet : Quiet d) {α : Type} {next : Cc3220sfEvent → Net α}
    {falls : α → Desc → Prop} (hnext : Completes (next .invalid) d falls) :
    Completes (recvEvent false >>= next) d falls := by
  rw [Completes, ends_bind, Cc3220sf.recvEvent, ends_bind, ends_get, hquiet.eventQ]
  exact hnext

theorem Quiet.emit (hquiet : Quiet d) {output : Output}
    (houtput : output ≠ .slWifiConnRequestReset) :
    Quiet { d with outputs := d.outputs ++ [output] } := by
  refine ⟨hquiet.eventQ, hquiet.stopped, ?_⟩
  rw [List.mem_append, List.mem_singleton]
  exact fun hasked => hasked.elim hquiet.unasked fun hsame => houtput hsame.symm

theorem Quiet.of_view (hquiet : Quiet d)
    (hview : (after.eventQ, after.wlanStatus, after.outputs) =
      (d.eventQ, d.wlanStatus, d.outputs)) : Quiet after := by
  obtain ⟨hqueue, hview⟩ := Prod.mk.inj hview
  obtain ⟨hstatus, houtputs⟩ := Prod.mk.inj hview
  exact ⟨hqueue ▸ hquiet.eventQ, hstatus ▸ hquiet.stopped, houtputs ▸ hquiet.unasked⟩

theorem Quiet.awaitStopped (hquiet : Quiet d) (tries : ℕ) :
    Completes (awaitStopped false tries) d fun _ after => Quiet after := by
  cases tries with
  | zero => exact hquiet
  | succ tries =>
      rw [Completes, Cc3220sf.awaitStopped, ends_bind, ends_get, if_neg hquiet.stopped]
      exact hquiet

/-- Where no event waits, the thread takes its step, and requests no reset. -/
theorem quiet_smHandler (state : Cc3220sfState) (hquiet : Quiet d) :
    Completes (smHandler false state) d fun _ after => Quiet after := by
  cases state with
  | init =>
      rw [Completes, smHandler, smInit, ends_bind, ends_get, runIf, if_neg hquiet.stopped]
      exact hquiet
  | start =>
      apply hquiet.recvEvent
      rw [Completes, ends_bind, ends_get, ends_ite]
      split
      · have hinstall : Quiet
            { d with outputs := d.outputs ++ [.otaInstall] ++ [.slWifiConnDeinit] } :=
          (hquiet.emit (by decide)).emit (by decide)
        exact hinstall.of_view rfl
      · rw [runIf, if_pos hquiet.stopped]
        have henable : Quiet { d with outputs := d.outputs ++ [.slWifiConnEnable] } :=
          hquiet.emit (by decide)
        exact henable.of_view rfl
  | wait4Start =>
      apply hquiet.recvEvent
      rw [Completes, ends_bind, ends_get, if_neg hquiet.stopped, ends_ite]
      split
      · exact hquiet.of_view rfl
      · exact hquiet
  | stop =>
      apply hquiet.recvEvent
      have hdisable : Quiet { d with outputs := d.outputs ++ [.slWifiConnDisable] } :=
        hquiet.emit (by decide)
      rw [Completes, Cc3220sf.emit, ends_bind, ends_modify]
      apply (hdisable.awaitStopped 10).bind
      intro _ awaited hawaited
      refine ⟨hawaited.eventQ, fun hrunning => hawaited.stopped ?_, hawaited.unasked⟩
      exact (Finset.mem_inter.mp hrunning).1
  | startNetwork =>
      rw [Completes, smHandler, smStartNetwork, ends_bind, ends_get, ends_ite]
      split
      · exact hquiet.emit (by decide)
      · exact hquiet
  | waitConnectAp =>
      apply hquiet.recvEvent
      rw [Completes, ends_bind, ends_get, ends_ite, ends_ite]
      split
      · exact hquiet.of_view rfl
      · split <;> exact hquiet
  | waitIp =>
      apply hquiet.recvEvent
      rw [Completes, ends_bind, ends_get, ends_ite, ends_ite]
      split
      · exact hquiet
      · split <;> exact hquiet
  | notifyUp =>
      have hnotify : Quiet { d with outputs := d.outputs ++ [.notified .connected] } :=
        hquiet.emit (by decide)
      rw [Completes, smHandler, smNotifyup, ends_bind, ends_modify, ends_bind, ends_get, ends_bind,
        ends_runIf]
      split <;> exact hnotify.of_view rfl
  | notifyDown =>
      have hnotify : Quiet { d with outputs := d.outputs ++ [.notified .disconnected] } :=
        hquiet.emit (by decide)
      exact hnotify.of_view rfl
  | idle =>
      rw [Completes, smHandler, smIdle, ends_bind, ends_get, ends_ite]
      split
      · exact hquiet
      · rw [if_neg (by simp [hquiet.eventQ]), ends_bind, ends_runIf]
        split
        · exact hquiet.of_view rfl
        · exact hquiet
  | handleEvent =>
      apply hquiet.recvEvent
      rw [Completes, rebootOrIdle, ends_bind, ends_get, ends_ite]
      split
      · exact hquiet.of_view rfl
      · exact hquiet
  | waitFwInstall =>
      apply hquiet.recvEvent
      rw [Completes, ends_bind, ends_get, ends_bind, ends_runIf]
      split
      · exact hquiet.emit (by decide)
      · exact hquiet
  | waitProvision =>
      apply hquiet.recvEvent
      rw [Completes, ends_bind, ends_get, ends_bind, ends_runIf]
      split
      · have henable : Quiet { d with outputs := d.outputs ++
            [.slWifiConnEnableProvisioning WifiApi.provFlagForceProvisioning] ++
              [.slWifiConnEnable] } :=
          (hquiet.emit (by simp)).emit (by decide)
        refine ⟨hquiet.eventQ, ?_, henable.unasked⟩
        simpa using hquiet.stopped
      · exact hquiet
  | checkProfiles | startHttp | checkConnection | httpMessage | error => exact hquiet.of_view rfl
  | sleep | ready | getStatistics | startProv => exact hquiet

theorem quiet_exec (delay : BitVec 32) (hquiet : Quiet d) :
    Completes (exec false delay) d fun _ after => Quiet after := by
  rw [Completes, exec, ends_bind, ends_modify, ends_bind, ends_get]
  have htimed : Quiet { d with timer := d.timer + delay } := hquiet.of_view rfl
  apply (quiet_smHandler d.state htimed).bind
  intro state handled hhandled
  rw [ends_bind, ends_modify, ends_modify]
  split <;> exact hhandled.of_view rfl

theorem quiet_step (delay : BitVec 32) (hquiet : Quiet d) :
    ∃ after, step false d (.exec delay []) = some after ∧ Quiet after := by
  have hstart : Quiet { d with arriving := [] } := hquiet.of_view rfl
  have hexec := quiet_exec delay hstart
  rw [Completes, Ends] at hexec
  rw [step]
  split at hexec
  · rename_i final hrun
    rw [hrun]
    exact ⟨_, rfl, hexec.of_view rfl⟩
  · exact hexec.elim

/-- The thread goes on for any number of steps of 100 ms. -/
theorem quiet_run (hquiet : Quiet d) (steps : ℕ) :
    ∃ final, Transition.run (step false) d (List.replicate steps (.exec 100 [])) = some final ∧
      Quiet final := by
  induction steps generalizing d with
  | zero => exact ⟨d, rfl, hquiet⟩
  | succ steps ih =>
      obtain ⟨next, hstep, hnext⟩ := quiet_step 100 hquiet
      obtain ⟨final, hrun, hfinal⟩ := ih hnext
      refine ⟨final, ?_, hfinal⟩
      rw [List.replicate_succ, Transition.run_cons, hstep]
      exact hrun

theorem firstCall_of_unasked {outputs : List Output}
    (hunasked : .slWifiConnRequestReset ∉ outputs) :
    firstCall outputs ≠ some .slWifiConnRequestReset :=
  fun hfirst => hunasked (List.mem_of_find?_eq_some hfirst)

/-- A driver that has only a FATAL_ERROR to receive. -/
def struck (state : Cc3220sfState) : Desc :=
  { started 0 0 0 false with state := state, wlanStatus := {.running}, eventQ := [.fatalError] }

/-- Outside of `HANDLE_EVENT`, the event is received and forgotten. -/
theorem not_requests {state : Cc3220sfState} (hreceives : receives state = true)
    (hstate : state ≠ .handleEvent) : ¬Requests false (struck state) := by
  rintro ⟨bound, hrequests⟩
  have hfirst : ∃ next, step false (struck state) (.exec 100 []) = some next ∧ Quiet next := by
    have hchecks : (step false (struck state) (.exec 100 [])).any fun next =>
        next.eventQ = [] ∧ .running ∉ next.wlanStatus ∧
          .slWifiConnRequestReset ∉ next.outputs := by
      cases state with
      | handleEvent => exact absurd rfl hstate
      | start | wait4Start | stop | waitConnectAp | waitIp | waitFwInstall | waitProvision =>
          decide +kernel
      | _ => cases hreceives
    rw [Option.any_eq_true] at hchecks
    obtain ⟨next, hnext, hquiet⟩ := hchecks
    obtain ⟨hqueue, hstopped, hunasked⟩ := of_decide_eq_true hquiet
    exact ⟨next, hnext, hqueue, hstopped, hunasked⟩
  obtain ⟨next, hstep, hquiet⟩ := hfirst
  obtain ⟨final, hrun, hfinal⟩ := quiet_run hquiet bound
  have hmany :
      bound ≤ (NetAct.exec 100 [] :: List.replicate bound (.exec 100 [])).countP isExec := by
    have hexec : isExec (.exec 100 []) = true := rfl
    rw [List.countP_cons_of_pos hexec, List.countP_replicate, if_pos hexec]
    exact Nat.le_succ bound
  have hcalls := hrequests (.exec 100 [] :: List.replicate bound (.exec 100 [])) final hmany
    (by rw [Transition.run_cons, hstep]; exact hrun)
  exact firstCall_of_unasked hfinal.unasked hcalls

end Lost

section Discarded

/-- A module in one of its states, with its handlers installed. -/
def enabled (state : SmState) : WifiState :=
  { WifiMachine.powerOn with
    initialized := true
    state := state
    provisioningInstalled := true }

theorem resets_process {state : SmState} (hstate : state = .connected ∨ state = .extProvisioning) :
    ∀ script ∈ WifiScripts.processScripts state .resetRequest, .resets ∈ script := by
  cases hstate with
  | inl hstate => subst hstate; decide
  | inr hstate => subst hstate; decide

/-- A RESET_REQUEST resets the NWP in two states, and is not supported in the others. -/
theorem carriesOut_iff (state : SmState) :
    CarriesOut state ↔ state = .connected ∨ state = .extProvisioning := by
  constructor
  · intro hcarries
    by_contra hneither
    have hrun : ∃ after, (WifiMachine.processEvent WifiMachine.obedientNwp .resetRequest).run
        (enabled state) = .ok () after ∧ after.outputs = [.processing state .resetRequest] := by
      cases state with
      | connected => exact absurd (.inl rfl) hneither
      | extProvisioning => exact absurd (.inr rfl) hneither
      | _ => exact ⟨_, rfl, rfl⟩
    obtain ⟨after, hrun, houtputs⟩ := hrun
    obtain ⟨before, stopped, -, hstopped, hstarted⟩ :=
      hcarries WifiMachine.obedientNwp (enabled state) after rfl hrun
    have hlong := hstopped.length_le
    have hlonger : (stopped ++ [WifiContext.Output.nwp .start]).length ≤ after.outputs.length :=
      hstarted.length_le
    rw [houtputs] at hlonger
    simp only [List.length_append, List.length_singleton] at hlong hlonger
    omega
  · intro hstate env s after hs hrun
    obtain ⟨-, script, hscript, hplays⟩ := (WifiRuns.ensures_processEvent .resetRequest).of_run hrun
    rw [hs] at hscript
    obtain ⟨before, stopped, hbefore, hrest⟩ :=
      WifiRecord.restarted_plays hplays (resets_process hstate script hscript)
    exact ⟨before, stopped, (List.prefix_append _ _).trans hbefore, hrest⟩

end Discarded

section Result

/-- A fatal error leads to a reset exactly where the driver receives it in `HANDLE_EVENT`
and the connection manager is connected or in the external provisioning. -/
theorem leadsToReset_iff {state : Cc3220sfState} {wifi : SmState}
    (hreceives : receives state = true) :
    LeadsToReset state wifi ↔
      state = .handleEvent ∧ (wifi = .connected ∨ wifi = .extProvisioning) := by
  constructor
  · intro hleads
    refine ⟨?_, (carriesOut_iff wifi).mp hleads.2⟩
    by_contra hstate
    exact not_requests hreceives hstate (hleads.1 false (struck state) [] rfl rfl)
  · intro hboth
    refine ⟨fun rebootOnFatalError d rest hstate hqueue => ?_, (carriesOut_iff wifi).mpr hboth.2⟩
    exact requests_handleEvent ⟨hstate.trans hboth.1, rest, hqueue⟩

/-- In `HANDLE_EVENT` and `CONNECTED` the NWP is reset. -/
theorem leadsToReset_connected : LeadsToReset .handleEvent .connected :=
  (leadsToReset_iff rfl).mpr ⟨rfl, .inl rfl⟩

/-- Received in `START`, a fatal error leads to no request; requested in `WAIT_FOR_CONN`, a
reset is not carried out. -/
theorem leadsToReset_broken :
    ¬LeadsToReset .start .connected ∧ ¬LeadsToReset .handleEvent .waitForConn := by
  constructor
  · intro hleads
    exact not_requests rfl (by decide) (hleads.1 false (struck .start) [] rfl rfl)
  · intro hleads
    have hstate := (carriesOut_iff .waitForConn).mp hleads.2
    simp at hstate

end Result

end SimpleLinkHost.FatalReset
