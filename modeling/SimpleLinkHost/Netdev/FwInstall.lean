import SimpleLinkHost.Netdev.LinkStatus

/-!
# A firmware waits to be installed

The request to install a firmware is one status bit, and it has to last until the device has
been shut down and started again.  `netdev_wlan_cc3220sf_sm_stop` receives up to eleven events
in one call, so the calls are cut at each receive here.
-/

namespace SimpleLinkHost.FwInstall

open CallOutcome ProgramInvariant Cc3220sf FatalReset Notifications LinkReport LinkStatus
open LastWrite

variable {rebootOnFatalError : Bool} {d after : Desc}

section System

/-- The driver, and how often it still goes round the loop of
`netdev_wlan_cc3220sf_sm_stop` while it is in there. -/
structure Cut where
  desc : Desc
  tries : Option ℕ
deriving DecidableEq

/-- A step as before, cut in STOP in front of the loop, or the way on to the next receive of
the loop, or out of it. -/
inductive CutAct
  | act (act : NetAct)
  | goOn

variable (rebootOnFatalError : Bool)

/-- A call in STOP, up to its loop. -/
def enterStop (delay : BitVec 32) : Net Unit := do
  modify fun d => { d with timer := d.timer + delay }
  let _ ← recvEvent rebootOnFatalError
  emit .slWifiConnDisable

/-- Once round the loop. -/
def awaitEvent : Net Unit := do
  letOthersSend
  let _ ← recvEvent rebootOnFatalError

/-- The rest of the call, which finds the device unconnected. -/
def leaveStop (d : Desc) : Desc :=
  { d with wlanStatus := d.wlanStatus ∩ {.fwInstall}, state := .init, arriving := [] }

def afterRun (program : Net Unit) (d : Desc) : Option Desc :=
  match program.run d with
  | .ok _ after => some after
  | .error _ _ => none

/-- Nobody but the thread itself takes a step inside of STOP; what the others send there comes
with its step. -/
def cutStep (cut : Cut) (act : CutAct) : Option Cut :=
  match cut.tries, act with
  | none, .act (.exec delay arriving) =>
      if cut.desc.state = .stop then
        (afterRun (enterStop rebootOnFatalError delay) { cut.desc with arriving := arriving }).map
          fun d => ⟨d, some 10⟩
      else (step rebootOnFatalError cut.desc (.exec delay arriving)).map fun d => ⟨d, none⟩
  | none, .act act => (step rebootOnFatalError cut.desc act).map fun d => ⟨d, none⟩
  | some tries, .goOn =>
      if .running ∈ cut.desc.wlanStatus ∧ 0 < tries then
        (afterRun (awaitEvent rebootOnFatalError) cut.desc).map fun d => ⟨d, some (tries - 1)⟩
      else some ⟨leaveStop cut.desc, none⟩
  | _, _ => none

end System

section Refinement

/-- A sequence that completes, as the runs of its parts. -/
theorem run_bind_ok {program : Net Unit} {α : Type} {next : Unit → Net α} {value : α}
    (hrun : (program >>= next).run d = .ok value after) :
    ∃ middle, program.run d = .ok () middle ∧ (next ()).run middle = .ok value after := by
  rw [EStateM.run_bind] at hrun
  cases hfirst : program.run d with
  | ok _ middle =>
      rw [hfirst] at hrun
      exact ⟨middle, rfl, hrun⟩
  | error halt stuck =>
      rw [hfirst] at hrun
      cases hrun

theorem cutStep_goOn (tries : ℕ) :
    cutStep rebootOnFatalError ⟨d, some tries⟩ .goOn =
      if .running ∈ d.wlanStatus ∧ 0 < tries then
        (afterRun (awaitEvent rebootOnFatalError) d).map fun d => ⟨d, some (tries - 1)⟩
      else some ⟨leaveStop d, none⟩ := rfl

/-- The loop, cut at its receives. -/
theorem cut_awaitStopped {tries : ℕ}
    (hrun : (awaitStopped rebootOnFatalError tries).run d = .ok () after) :
    ∃ acts, Transition.run (cutStep rebootOnFatalError) ⟨d, some tries⟩ acts =
      some ⟨leaveStop after, none⟩ := by
  induction tries generalizing d with
  | zero =>
      have hsame : d = after := by
        injection hrun
      refine ⟨[.goOn], ?_⟩
      rw [Transition.run_singleton, cutStep_goOn, if_neg (fun hgo => absurd hgo.2 (by decide)),
        hsame]
  | succ tries ih =>
      by_cases hrunning : .running ∈ d.wlanStatus
      · have hround : (awaitEvent rebootOnFatalError >>= fun _ =>
            awaitStopped rebootOnFatalError tries).run d = .ok () after := by
          rw [awaitStopped, EStateM.run_bind] at hrun
          simp only [EStateM.run_get, if_pos hrunning] at hrun
          simpa only [awaitEvent, bind_assoc, pure_bind] using hrun
        obtain ⟨middle, hmiddle, hrest⟩ := run_bind_ok hround
        obtain ⟨acts, hacts⟩ := ih hrest
        refine ⟨.goOn :: acts, ?_⟩
        rw [Transition.run_cons, cutStep_goOn, if_pos ⟨hrunning, Nat.succ_pos tries⟩, afterRun,
          hmiddle]
        exact hacts
      · have hsame : d = after := by
          rw [awaitStopped, EStateM.run_bind] at hrun
          simp only [EStateM.run_get, if_neg hrunning] at hrun
          injection hrun
        refine ⟨[.goOn], ?_⟩
        rw [Transition.run_singleton, cutStep_goOn, if_neg (fun hgo => hrunning hgo.1), hsame]

/-- What follows the loop in a call of `netdev_wlan_cc3220sf_exec`. -/
def finish (delay : BitVec 32) : Net Unit := do
  modify fun d => { d with wlanStatus := d.wlanStatus ∩ {.fwInstall} }
  modify fun d => { d with state := .init }
  modify fun d =>
    if .connected ∈ d.wlanStatus then { d with connectedTime := d.connectedTime + delay } else d

theorem exec_stop {delay : BitVec 32} (hstate : d.state = .stop) :
    (exec rebootOnFatalError delay).run d =
      (enterStop rebootOnFatalError delay >>= fun _ =>
        awaitStopped rebootOnFatalError 10 >>= fun _ => finish delay).run d := by
  simp only [exec, enterStop, finish, EStateM.run_bind, EStateM.run_modify, EStateM.run_get,
    hstate, smHandler, smStop, bind_assoc, pure_bind]

theorem finish_run (delay : BitVec 32) :
    ∃ final, (finish delay).run d = .ok () final ∧
      { final with arriving := [] } = leaveStop d := by
  have hconnected : .connected ∉ d.wlanStatus ∩ {StatusBit.fwInstall} := by
    simp
  refine ⟨_, rfl, ?_⟩
  rw [leaveStop]
  simp only [if_neg hconnected]

/-- A step of the driver, cut at its receives. -/
theorem cut_of_step {act : NetAct} (hstep : step rebootOnFatalError d act = some after) :
    ∃ acts, Transition.run (cutStep rebootOnFatalError) ⟨d, none⟩ acts = some ⟨after, none⟩ := by
  by_cases hstop : isExec act = true ∧ d.state = .stop
  · cases act with
    | exec delay arriving =>
        obtain ⟨final, hrun, hafter⟩ := exec_of_step hstep
        have hstate : { d with arriving := arriving }.state = .stop := hstop.2
        rw [exec_stop hstate] at hrun
        obtain ⟨entered, hentered, hrest⟩ := run_bind_ok hrun
        obtain ⟨awaited, hawaited, hrest⟩ := run_bind_ok hrest
        obtain ⟨acts, hacts⟩ := cut_awaitStopped hawaited
        obtain ⟨finished, hfinished, hleft⟩ := finish_run (d := awaited) delay
        rw [hrest] at hfinished
        injection hfinished with _ hfinal
        rw [← hfinal, ← hafter] at hleft
        refine ⟨.act (.exec delay arriving) :: acts, ?_⟩
        rw [Transition.run_cons]
        simp only [cutStep, if_pos hstop.2, afterRun, hentered, Option.map_some, Option.bind_some]
        rw [hacts, hleft]
    | _ => cases hstop.1
  · refine ⟨[.act act], ?_⟩
    rw [Transition.run_singleton]
    cases act with
    | exec delay arriving =>
        have hstate : d.state ≠ .stop := fun hstate => hstop ⟨rfl, hstate⟩
        simp only [cutStep, if_neg hstate, hstep, Option.map_some]
    | send | request | provision => simp only [cutStep, hstep, Option.map_some]

end Refinement

section Property

/-- A firmware is to be installed, by what the driver has received. -/
def Requested (outputs : List Output) : Prop :=
  flagBehind (fun event => event ∈ [.fwInstall, .fwUpgrade]) (fun event => event = .fwInstall)
    (consumed outputs) false = true

/-- Until it waits for the installation, the driver remembers that one has been requested. -/
def Remembers (cut : Cut) : Prop :=
  cut.desc.state ≠ .waitFwInstall → Requested cut.desc.outputs →
    .fwInstall ∈ cut.desc.wlanStatus

/-- What a step is going to receive. -/
def taken (cut : Cut) : CutAct → List Cc3220sfEvent
  | .act (.exec _ _) => if receives cut.desc.state then cut.desc.eventQ.take 1 else []
  | .act _ => []
  | .goOn =>
      if .running ∈ cut.desc.wlanStatus ∧ cut.tries ≠ some 0 then
        match letOthersSend.run cut.desc with
        | .ok _ d => d.eventQ.take 1
        | .error _ _ => []
      else []

/-- Neither error is received while a request waits for the driver to shut down. -/
def SparesRequest (cut : Cut) (act : CutAct) : Prop :=
  cut.desc.state ≠ .waitFwInstall → Requested cut.desc.outputs →
    .error ∉ taken cut act ∧ .fatalError ∉ taken cut act

end Property

section Handlers

/-- What has been received, and whether a request is remembered. -/
def memory (d : Desc) : List Cc3220sfEvent × Bool :=
  (consumed d.outputs, .fwInstall ∈ d.wlanStatus)

/-- The status bits behind events. -/
def behind (events : List Cc3220sfEvent) (status : Finset StatusBit) : Finset StatusBit :=
  events.foldl (fun status event => statusAfter event status) status

/-- A piece of a call receives the events and does nothing else to the request. -/
def Takes (events : List Cc3220sfEvent) (d after : Desc) : Prop :=
  memory after = (consumed d.outputs ++ events, decide (.fwInstall ∈ behind events d.wlanStatus))

theorem takes_nil (hmemory : memory after = memory d) : Takes [] d after := by
  rw [Takes, hmemory, List.append_nil]
  rfl

theorem takes_recvEvent :
    Ensures (recvEvent rebootOnFatalError) d fun _ after => Takes (d.eventQ.take 1) d after := by
  apply ensures_recvEvent.mono
  intro event after hreceived
  rw [Takes, memory, hreceived.2.2, hreceived.2.1, consumed_append, consumed_map, received]
  cases d.eventQ <;> rfl

/-- What follows a receive leaves the request alone. -/
theorem takes_bind {α : Type} {next : Cc3220sfEvent → Net α}
    (hnext : ∀ event, Leaves memory (next event)) :
    Ensures (recvEvent rebootOnFatalError >>= next) d
      fun _ after => Takes (d.eventQ.take 1) d after := by
  apply takes_recvEvent.bind
  intro event received htakes
  apply (hnext event).ensures.mono
  intro value after hleaves
  rw [Takes, hleaves]
  exact htakes

theorem leaves_emit {output : Output} (houtput : consumed [output] = []) :
    Leaves memory (emit output) := by
  apply leaves_modify
  intro d
  rw [memory, consumed_append, houtput, List.append_nil]
  rfl

theorem spared_memory (value : List Cc3220sfEvent × Bool) : Spared fun d => memory d = value where
  emit := by
    intro d output houtput hmemory
    have hnone : consumed [output] = [] := by
      cases output with
      | consumed event => exact absurd rfl (houtput event)
      | _ => rfl
    rw [← hmemory, memory, consumed_append, hnone, List.append_nil]
    rfl
  provMode := by
    intro d hmemory
    simpa [memory] using hmemory
  of_view := by
    intro d after hview hmemory
    rw [← hmemory, memory, (Prod.mk.inj hview).1, (Prod.mk.inj hview).2]
    rfl

/-- A handler that is not cut receives at most one event. -/
theorem takes_smHandler {state : Cc3220sfState} (hstate : state ≠ .stop) :
    Ensures (smHandler rebootOnFatalError state) d fun _ after =>
      Takes (if receives state then d.eventQ.take 1 else []) d after := by
  cases hreceives : receives state with
  | false =>
      have hleaves : Leaves memory (smHandler rebootOnFatalError state) :=
        fun value => (spared_memory value).keeps_smHandler hreceives
      exact hleaves.ensures.mono fun _ _ hmemory => takes_nil hmemory
  | true =>
      obtain ⟨next, hnext, hkeeps⟩ := smHandler_receives hreceives hstate
      rw [hnext]
      exact takes_bind fun event value => hkeeps (spared_memory value) event

/-- The way to `WAIT_FW_INSTALL` needs the request. -/
theorem installs_smStart :
    Ensures (smStart rebootOnFatalError) d fun next after =>
      next = .waitFwInstall → .fwInstall ∈ after.wlanStatus := by
  rw [Ensures, smStart, ends_bind]
  apply takes_recvEvent.mono
  intro event received _
  rw [ends_bind, ends_get, ends_ite]
  split
  · rename_i hinstall
    exact fun _ => hinstall
  · rw [ends_bind, ends_runIf]
    split
    · intro hnext
      cases hnext
    · intro hnext
      cases hnext

/-- Where the driver is. -/
def place (d : Desc) : Cc3220sfState × Cc3220sfState := (d.state, d.nstate)

theorem place_recvEvent : Leaves place (recvEvent rebootOnFatalError) := by
  intro value
  apply keeps_recvEvent
  intro d event rest hplace
  rw [← hplace]
  cases event <;> rfl

end Handlers

section Steps

variable {cut next : Cut} {act : CutAct}

/-- The driver is in STOP while its call is cut there, and never on the way back to
`WAIT_FW_INSTALL`. -/
structure Sound (cut : Cut) : Prop where
  nstate : cut.desc.nstate ≠ .waitFwInstall
  stopping : cut.tries ≠ none → cut.desc.state = .stop

/-- What a step does to the request. -/
structure Steps (cut : Cut) (act : CutAct) (next : Cut) : Prop where
  takes : Takes (taken cut act) cut.desc next.desc
  installs : next.desc.state = .waitFwInstall →
    cut.desc.state = .waitFwInstall ∨ .fwInstall ∈ next.desc.wlanStatus
  waits : cut.desc.state = .waitFwInstall → next.desc.state = .waitFwInstall
  sound : Sound next

theorem successors_install {state nstate : Cc3220sfState} (hnstate : nstate ≠ .waitFwInstall) :
    ∀ next ∈ successors state nstate, next.2 ≠ .waitFwInstall ∧
      (next.1 = .waitFwInstall → state = .start ∨ state = .waitFwInstall) ∧
        (state = .waitFwInstall → next.1 = .waitFwInstall) := by
  cases state <;> simp [successors, hnstate]

theorem installs_smHandler {state : Cc3220sfState} :
    Ensures (smHandler rebootOnFatalError state) d fun next after =>
      state = .start → next = .waitFwInstall → .fwInstall ∈ after.wlanStatus := by
  by_cases hstart : state = .start
  · subst hstart
    exact installs_smStart.mono fun _ _ hinstalls _ => hinstalls
  · exact ensures_run.mono fun _ _ _ hstate => absurd hstate hstart

theorem steps_exec {delay : BitVec 32} {arriving : List (List Cc3220sfEvent)}
    (hnstate : d.nstate ≠ .waitFwInstall) (hstate : d.state ≠ .stop)
    (hstep : step rebootOnFatalError d (.exec delay arriving) = some after) :
    Steps ⟨d, none⟩ (.act (.exec delay arriving)) ⟨after, none⟩ := by
  have hmoves := successors_install hnstate _ (moves_step hstep).2
  obtain ⟨final, hrun, hafter⟩ := exec_of_step hstep
  have hexec : Ensures (exec rebootOnFatalError delay) { d with arriving := arriving }
      fun _ after => Takes (taken ⟨d, none⟩ (.act (.exec delay arriving))) d after ∧
        (d.state = .start → after.state = .waitFwInstall → .fwInstall ∈ after.wlanStatus) := by
    rw [Ensures, exec, ends_bind, ends_modify, ends_bind, ends_get]
    apply Ensures.bind ((takes_smHandler hstate).and installs_smHandler)
    intro next handled hhandled
    rw [Ensures, ends_bind, ends_modify, ends_modify]
    split
    · exact hhandled
    · exact hhandled
  have hfinal := hexec.of_run hrun
  subst hafter
  refine ⟨hfinal.1, fun hinstall => ?_, hmoves.2.2, hmoves.1, fun htries => absurd rfl htries⟩
  cases hmoves.2.1 hinstall with
  | inl hstart => exact .inr (hfinal.2 hstart hinstall)
  | inr hwaits => exact .inl hwaits

theorem steps_other {act : NetAct} (hnstate : d.nstate ≠ .waitFwInstall)
    (hact : isExec act = false) (hstep : step rebootOnFatalError d act = some after) :
    Steps ⟨d, none⟩ (.act act) ⟨after, none⟩ := by
  have hleaves := leaves_step hact hstep
  have hrecord : memory after = memory d := by
    rw [memory, hleaves.2.2.2, hleaves.2.2.1]
    rfl
  have htaken : taken ⟨d, none⟩ (.act act) = [] := by
    cases act with
    | exec => cases hact
    | _ => rfl
  refine ⟨?_, ?_, ?_, ?_, fun htries => absurd rfl htries⟩
  · rw [htaken]
    exact takes_nil hrecord
  · intro hinstall
    exact .inl (hleaves.1.symm.trans hinstall)
  · exact fun hwaits => hleaves.1.trans hwaits
  · exact fun hreturn => hnstate (hleaves.2.1.symm.trans hreturn)

theorem steps_enterStop {delay : BitVec 32} {arriving : List (List Cc3220sfEvent)}
    (hnstate : d.nstate ≠ .waitFwInstall) (hstate : d.state = .stop)
    (hrun : (enterStop rebootOnFatalError delay).run { d with arriving := arriving } =
      .ok () after) :
    Steps ⟨d, none⟩ (.act (.exec delay arriving)) ⟨after, some 10⟩ := by
  have hplace : Leaves place (enterStop rebootOnFatalError delay) :=
    Leaves.bind (leaves_modify fun _ => rfl) fun _ =>
      place_recvEvent.bind fun _ => leaves_modify fun _ => rfl
  have hsame := Prod.mk.inj (hplace.of_run hrun)
  have htakes : Ensures (enterStop rebootOnFatalError delay) { d with arriving := arriving }
      fun _ after => Takes (d.eventQ.take 1) d after := by
    rw [Ensures, enterStop, ends_bind, ends_modify]
    exact takes_bind fun _ => leaves_emit rfl
  have hreceives : taken ⟨d, none⟩ (.act (.exec delay arriving)) = d.eventQ.take 1 := by
    rw [taken, hstate]
    rfl
  refine ⟨?_, ?_, ?_, ?_, fun _ => hsame.1.trans hstate⟩
  · rw [hreceives]
    exact htakes.of_run hrun
  · intro hinstall
    exact .inl (hsame.1.symm.trans hinstall)
  · exact fun hwaits => hsame.1.trans hwaits
  · exact fun hreturn => hnstate (hsame.2.symm.trans hreturn)

theorem steps_awaitEvent {tries : ℕ} (hsound : Sound ⟨d, some tries⟩)
    (hgo : .running ∈ d.wlanStatus ∧ 0 < tries)
    (hrun : (awaitEvent rebootOnFatalError).run d = .ok () after) :
    Steps ⟨d, some tries⟩ .goOn ⟨after, some (tries - 1)⟩ := by
  have hstate := hsound.stopping (by simp)
  have hplace : Leaves place (awaitEvent rebootOnFatalError) :=
    (leaves_letOthersSend fun _ _ _ => rfl).bind fun _ => place_recvEvent.bind fun _ => leaves_pure
  have hsame := Prod.mk.inj (hplace.of_run hrun)
  have htakes : Ensures (awaitEvent rebootOnFatalError) d
      fun _ after => Takes (taken ⟨d, some tries⟩ .goOn) d after := by
    apply ensures_run.bind
    intro _ sent hsent
    have hleft : Leaves (fun d => (d.outputs, d.wlanStatus)) letOthersSend :=
      leaves_letOthersSend fun _ _ _ => rfl
    have hrecord := Prod.mk.inj (hleft.of_run hsent)
    have htries : some tries ≠ some 0 := fun hzero => absurd hgo.2 (by simp_all)
    rw [taken, if_pos ⟨hgo.1, htries⟩, hsent]
    apply (takes_bind fun _ => leaves_pure).mono
    intro _ after htakes
    rw [Takes, hrecord.1, hrecord.2] at htakes
    exact htakes
  refine ⟨htakes.of_run hrun, ?_, ?_, ?_, fun _ => hsame.1.trans hstate⟩
  · intro hinstall
    exact .inl (hsame.1.symm.trans hinstall)
  · exact fun hwaits => hsame.1.trans hwaits
  · exact fun hreturn => hsound.nstate (hsame.2.symm.trans hreturn)

theorem steps_leaveStop {tries : ℕ} (hsound : Sound ⟨d, some tries⟩)
    (hleave : ¬(.running ∈ d.wlanStatus ∧ 0 < tries)) :
    Steps ⟨d, some tries⟩ .goOn ⟨leaveStop d, none⟩ := by
  have hstate := hsound.stopping (by simp)
  have htaken : taken ⟨d, some tries⟩ .goOn = [] := by
    rw [taken, if_neg]
    intro hgo
    apply hleave ⟨hgo.1, Nat.pos_of_ne_zero fun hzero => hgo.2 (by rw [hzero])⟩
  refine ⟨?_, fun hinstall => ?_, fun hwaits => ?_, hsound.nstate, fun htries => absurd rfl htries⟩
  · rw [htaken]
    apply takes_nil
    simp [memory, leaveStop]
  · cases hinstall
  · have hboth := hstate.symm.trans hwaits
    cases hboth

theorem run_of_afterRun {program : Net Unit} (hrun : afterRun program d = some after) :
    program.run d = .ok () after := by
  rw [afterRun] at hrun
  split at hrun
  · rename_i hok
    rw [Option.some.injEq] at hrun
    exact hrun ▸ hok
  · cases hrun

theorem steps_cutStep (hsound : Sound cut)
    (hstep : cutStep rebootOnFatalError cut act = some next) : Steps cut act next := by
  obtain ⟨d, tries⟩ := cut
  cases tries with
  | none =>
      cases act with
      | goOn => cases hstep
      | act act =>
          cases hact : isExec act with
          | false =>
              have hother : (step rebootOnFatalError d act).map (fun d => Cut.mk d none) =
                  some next := by
                cases act with
                | exec => cases hact
                | _ => exact hstep
              obtain ⟨after, hafter, hnext⟩ := Option.map_eq_some_iff.mp hother
              exact hnext ▸ steps_other hsound.nstate hact hafter
          | true =>
              obtain ⟨delay, arriving, rfl⟩ := exec_of_isExec hact
              simp only [cutStep] at hstep
              split at hstep
              · rename_i hstate
                obtain ⟨after, hafter, hnext⟩ := Option.map_eq_some_iff.mp hstep
                exact hnext ▸ steps_enterStop hsound.nstate hstate (run_of_afterRun hafter)
              · rename_i hstate
                obtain ⟨after, hafter, hnext⟩ := Option.map_eq_some_iff.mp hstep
                exact hnext ▸ steps_exec hsound.nstate hstate hafter
  | some tries =>
      cases act with
      | act act => cases hstep
      | goOn =>
          rw [cutStep_goOn] at hstep
          split at hstep
          · rename_i hgo
            obtain ⟨after, hafter, hnext⟩ := Option.map_eq_some_iff.mp hstep
            exact hnext ▸ steps_awaitEvent hsound hgo (run_of_afterRun hafter)
          · rename_i hleave
            rw [Option.some.injEq] at hstep
            exact hstep ▸ steps_leaveStop hsound hleave

end Steps

section Runs

variable {cut next : Cut} {act : CutAct} {acts : List CutAct}

theorem taken_cases (cut : Cut) (act : CutAct) :
    taken cut act = [] ∨ ∃ event, taken cut act = [event] := by
  have htake (queue : List Cc3220sfEvent) :
      queue.take 1 = [] ∨ ∃ event, queue.take 1 = [event] := by
    cases queue with
    | nil => exact .inl rfl
    | cons event rest => exact .inr ⟨event, rfl⟩
  cases act with
  | act act =>
      cases act with
      | exec delay arriving =>
          rw [taken]
          split
          · exact htake _
          · exact .inl rfl
      | _ => exact .inl rfl
  | goOn =>
      rw [taken]
      split
      · split
        · exact htake _
        · exact .inl rfl
      · exact .inl rfl

/-- The events that leave a request, and the bit, as they are. -/
def sparing : Cc3220sfEvent → Bool
  | .fwInstall | .fwUpgrade | .error | .fatalError => false
  | _ => true

theorem install_behind_iff {event : Cc3220sfEvent} {status : Finset StatusBit}
    (hsparing : sparing event = true) :
    .fwInstall ∈ statusAfter event status ↔ .fwInstall ∈ status := by
  cases event with
  | fwInstall | fwUpgrade | error | fatalError => cases hsparing
  | _ => simp [statusAfter]

theorem requested_iff_of_concat {event : Cc3220sfEvent} {earlier later : List Output}
    (hconsumed : consumed later = consumed earlier ++ [event])
    (hevent : event ≠ .fwInstall ∧ event ≠ .fwUpgrade) : Requested later ↔ Requested earlier := by
  rw [Requested, hconsumed, flagBehind_concat_of_not_writes (by simp [hevent]), Requested]

theorem remembers_step_iff (hsound : Sound cut) (hremembers : Remembers cut)
    (hstep : cutStep rebootOnFatalError cut act = some next) :
    Remembers next ↔ SparesRequest cut act := by
  have hsteps := steps_cutStep hsound hstep
  by_cases hwaits : cut.desc.state = .waitFwInstall
  · have hnext : Remembers next := fun hstate => absurd (hsteps.waits hwaits) hstate
    have hspares : SparesRequest cut act := fun hstate => absurd hwaits hstate
    exact iff_of_true hnext hspares
  · have htakes := Prod.mk.inj hsteps.takes
    have hbit := decide_eq_decide.mp htakes.2
    cases taken_cases cut act with
    | inl hnone =>
        rw [hnone, List.append_nil] at htakes
        rw [hnone] at hbit
        have hnext : Remembers next := by
          intro _ hrequested
          rw [Requested, htakes.1] at hrequested
          exact hbit.mpr (hremembers hwaits hrequested)
        have hspares : SparesRequest cut act := by
          intro _ _
          rw [hnone]
          exact ⟨List.not_mem_nil, List.not_mem_nil⟩
        exact iff_of_true hnext hspares
    | inr hone =>
        obtain ⟨event, hevent⟩ := hone
        rw [hevent] at htakes hbit
        have hrequested := requested_iff_of_concat htakes.1
        cases hsparing : sparing event with
        | true =>
            have hother : event ≠ .fwInstall ∧ event ≠ .fwUpgrade ∧ event ≠ .error ∧
                event ≠ .fatalError := by
              cases event with
              | fwInstall | fwUpgrade | error | fatalError => cases hsparing
              | _ => decide
            have hnext : Remembers next := by
              intro _ hafter
              have hbefore := (hrequested ⟨hother.1, hother.2.1⟩).mp hafter
              exact hbit.mpr ((install_behind_iff hsparing).mpr (hremembers hwaits hbefore))
            have hspares : SparesRequest cut act := by
              intro _ _
              rw [hevent, List.mem_singleton, List.mem_singleton]
              exact ⟨hother.2.2.1.symm, hother.2.2.2.symm⟩
            exact iff_of_true hnext hspares
        | false =>
            cases event with
            | fwInstall =>
                have hnext : Remembers next := fun _ _ => hbit.mpr (by simp [behind, statusAfter])
                have hspares : SparesRequest cut act := by
                  intro _ _
                  rw [hevent]
                  decide
                exact iff_of_true hnext hspares
            | fwUpgrade =>
                have hnext : Remembers next := by
                  intro _ hafter
                  rw [Requested, htakes.1, flagBehind_concat_of_writes (by decide)] at hafter
                  cases hafter
                have hspares : SparesRequest cut act := by
                  intro _ _
                  rw [hevent]
                  decide
                exact iff_of_true hnext hspares
            | error | fatalError =>
                have hlost : .fwInstall ∉ next.desc.wlanStatus := by
                  rw [hbit]
                  simp [behind, statusAfter]
                have hstate : next.desc.state ≠ .waitFwInstall := fun hinstall =>
                  (hsteps.installs hinstall).elim hwaits hlost
                rw [Remembers, SparesRequest, hevent, hrequested (by decide)]
                simp [hstate, hlost, hwaits]
            | _ => cases hsparing

variable {totalFatalErrors totalRecoveries totalDisconnects : BitVec 32} {doProvisioning : Bool}

/-- A requested installation is remembered exactly in the runs that receive neither error
between the request and the way to `WAIT_FW_INSTALL`. -/
theorem remembers_iff :
    Transition.StatesSatisfy (cutStep rebootOnFatalError) Remembers
        ⟨started totalFatalErrors totalRecoveries totalDisconnects doProvisioning, none⟩ acts ↔
      Transition.StepsSatisfy (cutStep rebootOnFatalError) SparesRequest
        ⟨started totalFatalErrors totalRecoveries totalDisconnects doProvisioning, none⟩ acts := by
  apply Transition.states_iff_steps (fun _ _ _ hsound hstep => (steps_cutStep hsound hstep).sound)
    (fun _ _ _ => remembers_step_iff)
  · exact ⟨by simp [started], fun htries => absurd rfl htries⟩
  · intro _ hrequested
    cases hrequested

/-- The request is received in IDLE, and the NWP breaks down while it is stopped. -/
def brokenDown : List CutAct :=
  [.act (.exec 100 []), .act (.exec 100 []), .act (.send .running), .act (.exec 100 []),
    .act (.exec 100 []), .act (.exec 100 []), .act (.send .connected), .act (.exec 100 []),
    .act (.send .ipAcquired), .act (.exec 100 []), .act (.exec 100 []), .act (.exec 100 []),
    .act (.send .fwInstall), .act (.exec 100 []), .act (.exec 100 []), .act (.send .fatalError),
    .act (.exec 100 []), .act (.exec 100 [])]

theorem not_remembers_brokenDown :
    ¬Transition.StatesSatisfy (cutStep false) Remembers ⟨started 0 0 0 false, none⟩
      brokenDown := by
  apply Transition.not_statesSatisfy_of_any fun cut =>
    cut.desc.state = .stop && .fwInstall ∉ cut.desc.wlanStatus &&
      flagBehind (fun event => event ∈ [.fwInstall, .fwUpgrade]) (fun event => event = .fwInstall)
        (consumed cut.desc.outputs) false
  · intro cut hfails hremembers
    simp only [Bool.and_eq_true, decide_eq_true_eq] at hfails
    have hbit := hremembers (by rw [hfails.1.1]; decide) hfails.2
    exact hfails.1.2 hbit
  · decide +kernel

end Runs

end SimpleLinkHost.FwInstall
