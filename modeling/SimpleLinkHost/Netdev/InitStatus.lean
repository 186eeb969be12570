import SimpleLinkHost.Netdev.Notifications

/-!
# The NWP in INIT

In INIT the driver's thread waits for the NWP to stop, if the status bit has it run.  The
thread takes no events there, so that the bit would stay.  INIT is reached from STOP,
which clears the bit, and from a sleep that follows a start that was never confirmed.
-/

namespace SimpleLinkHost.InitStatus

open CallOutcome ProgramInvariant Cc3220sf FatalReset Notifications
open Transition (AttemptsSatisfy StatesSatisfy StepsSatisfy)

variable {rebootOnFatalError : Bool} {d after : Desc} {acts : List NetAct}

section Property

/-- In INIT, the NWP is stopped. -/
def StoppedInInit (d : Desc) : Prop := d.state = .init → .running ∉ d.wlanStatus

/-- A call does not wait for the bit. -/
def NeverWaits (rebootOnFatalError : Bool) (d : Desc) : NetAct → Prop
  | .exec delay arriving => ∀ after,
      (exec rebootOnFatalError delay).run { d with arriving := arriving } ≠ .error .waits after
  | _ => True

end Property

section Waits

variable {state : Cc3220sfState}

/-- A receive waits for nothing but the reboot. -/
theorem avoids_recvEvent : Avoids .waits (recvEvent rebootOnFatalError) := by
  apply avoids_get.bind
  intro d
  split
  · exact avoids_pure
  · refine Avoids.bind avoids_modify fun _ => ?_
    refine Avoids.bind avoids_modify fun _ => ?_
    refine Avoids.bind avoids_modify fun _ => ?_
    apply avoids_get.bind
    intro received
    have hreboots : Avoids .waits (throw .reboots : Net PUnit) := avoids_throw (by decide)
    exact (avoids_runIf hreboots).bind fun _ => avoids_pure

theorem avoids_awaitStopped (tries : ℕ) :
    Avoids .waits (awaitStopped rebootOnFatalError tries) := by
  induction tries with
  | zero => exact avoids_pure
  | succ tries ih =>
      apply avoids_get.bind
      intro d
      apply avoids_ite
      · refine Avoids.bind avoids_modify fun _ => ?_
        exact avoids_recvEvent.bind fun _ => ih
      · exact avoids_pure

theorem avoids_emit {output : Output} : Avoids .waits (emit output) := avoids_modify

theorem avoids_notifyDownThenStop : Avoids .waits notifyDownThenStop :=
  Avoids.bind avoids_modify fun _ => avoids_pure

/-- Out of INIT, no handler waits for the bit. -/
theorem avoids_smHandler (hstate : state ≠ .init) :
    Avoids .waits (smHandler rebootOnFatalError state) := by
  cases state with
  | init => exact absurd rfl hstate
  | start =>
      refine Avoids.bind avoids_recvEvent fun _ => avoids_get.bind fun d => avoids_ite ?_ ?_
      · refine Avoids.bind avoids_emit fun _ => Avoids.bind avoids_emit fun _ => ?_
        exact Avoids.bind avoids_modify fun _ => avoids_pure
      · refine Avoids.bind (avoids_runIf avoids_emit) fun _ => ?_
        exact Avoids.bind avoids_modify fun _ => avoids_pure
  | wait4Start =>
      refine Avoids.bind avoids_recvEvent fun _ => avoids_get.bind fun d => avoids_ite ?_ ?_
      · exact Avoids.bind avoids_modify fun _ => avoids_pure
      · exact avoids_ite (Avoids.bind avoids_modify fun _ => avoids_pure) avoids_pure
  | stop =>
      refine Avoids.bind avoids_recvEvent fun _ => Avoids.bind avoids_emit fun _ => ?_
      refine Avoids.bind (avoids_awaitStopped 10) fun _ => ?_
      exact Avoids.bind avoids_modify fun _ => avoids_pure
  | startNetwork =>
      refine avoids_get.bind fun d => avoids_ite ?_ avoids_pure
      exact Avoids.bind avoids_emit fun _ => avoids_pure
  | waitConnectAp =>
      refine Avoids.bind avoids_recvEvent fun _ => avoids_get.bind fun d => avoids_ite ?_ ?_
      · exact Avoids.bind avoids_modify fun _ => avoids_pure
      · exact avoids_ite avoids_pure avoids_pure
  | waitIp =>
      refine Avoids.bind avoids_recvEvent fun _ => avoids_get.bind fun d => ?_
      exact avoids_ite avoids_pure (avoids_ite avoids_pure avoids_pure)
  | notifyUp =>
      refine Avoids.bind avoids_modify fun _ => avoids_get.bind fun d => ?_
      refine Avoids.bind (avoids_runIf avoids_modify) fun _ => ?_
      refine Avoids.bind avoids_modify fun _ => ?_
      exact Avoids.bind avoids_emit fun _ => avoids_pure
  | notifyDown =>
      refine Avoids.bind avoids_emit fun _ => Avoids.bind avoids_modify fun _ => ?_
      exact avoids_get.bind fun _ => avoids_pure
  | idle =>
      refine avoids_get.bind fun d => avoids_ite avoids_pure (avoids_ite avoids_pure ?_)
      exact Avoids.bind (avoids_runIf avoids_modify) fun _ => avoids_pure
  | sleep => exact avoids_get.bind fun _ => avoids_pure
  | handleEvent =>
      refine Avoids.bind avoids_recvEvent fun event => ?_
      cases event with
      | fwInstall => exact avoids_notifyDownThenStop
      | fatalError => exact Avoids.bind avoids_emit fun _ => avoids_notifyDownThenStop
      | _ => exact avoids_get.bind fun d => avoids_ite avoids_notifyDownThenStop avoids_pure
  | waitFwInstall =>
      refine Avoids.bind avoids_recvEvent fun _ => avoids_get.bind fun d => ?_
      exact Avoids.bind (avoids_runIf avoids_emit) fun _ => avoids_pure
  | waitProvision =>
      refine Avoids.bind avoids_recvEvent fun _ => avoids_get.bind fun d => ?_
      refine Avoids.bind (avoids_runIf ?_) fun _ => avoids_pure
      exact Avoids.bind avoids_emit fun _ => Avoids.bind avoids_modify fun _ => avoids_emit
  | checkProfiles | startHttp | checkConnection | httpMessage | error =>
      exact Avoids.bind avoids_modify fun _ => avoids_pure
  | ready | getStatistics | startProv => exact avoids_pure

/-- While the bit is not set in INIT, no call waits for it. -/
theorem neverWaits_of_stopped (hstopped : StoppedInInit d) (act : NetAct) :
    NeverWaits rebootOnFatalError d act := by
  cases act with
  | exec delay arriving =>
      have hhandler (d' : Desc) (hstatus : d'.wlanStatus = d.wlanStatus) :
          Ends (smHandler rebootOnFatalError d.state) d' (fun _ _ => True)
            fun halt _ => halt ≠ .waits := by
        by_cases hstate : d.state = .init
        · rw [hstate, smHandler, smInit, ends_bind, ends_get, ends_bind, ends_runIf, hstatus,
            if_neg (hstopped hstate)]
          trivial
        · exact avoids_smHandler hstate d'
      have hexec : Ends (exec rebootOnFatalError delay) { d with arriving := arriving }
          (fun _ _ => True) fun halt _ => halt ≠ .waits := by
        rw [exec, ends_bind, ends_modify, ends_bind, ends_get]
        have hcall := hhandler { d with arriving := arriving, timer := d.timer + delay } rfl
        exact hcall.bind fun _ _ _ => trivial
      exact fun after hrun => hexec.of_error hrun rfl
  | _ => trivial

end Waits

section Run

/-- The machine is in INIT, or about to enter it. -/
def headsInit (state nstate : Cc3220sfState) : Bool :=
  state = .init || (state = .sleep && nstate = .init)

/-- Wherever the machine heads for INIT, the NWP is stopped. -/
def Stopped (d : Desc) : Prop := headsInit d.state d.nstate = true → .running ∉ d.wlanStatus

theorem Stopped.inInit (hstopped : Stopped d) : StoppedInInit d := by
  intro hstate
  apply hstopped
  rw [hstate]
  rfl

/-- The states from which the machine may head for INIT. -/
def leadsToInit : Cc3220sfState → Bool
  | .wait4Start | .stop | .sleep => true
  | _ => false

/-- From the other states the machine does not head for INIT. -/
theorem successors_not_init {state nstate : Cc3220sfState}
    (hnstate : returns state = true → nstate ∈ mayReturnTo state)
    (hleads : leadsToInit state = false) :
    ∀ next ∈ successors state nstate, headsInit next.1 next.2 = false := by
  cases state with
  | wait4Start | stop | sleep => cases hleads
  | notifyUp | notifyDown =>
      have hreturn := List.mem_singleton.mp (hnstate rfl)
      subst hreturn
      decide
  | _ => simp [successors, headsInit]

/-- STOP leaves the bit clear. -/
theorem ensures_smStop :
    Ensures (smStop rebootOnFatalError) d fun _ after => .running ∉ after.wlanStatus := by
  apply ensures_run.bind
  intro _ received _
  apply ensures_run.bind
  intro _ disabled _
  apply ensures_run.bind
  intro _ stopped _
  rw [Ensures, ends_bind, ends_modify, ends_pure]
  simp

/-- A start that is not confirmed in time goes to sleep, with the bit clear. -/
theorem ensures_smWait4Start :
    Ensures (smWait4Start rebootOnFatalError) d fun next after =>
      next = .sleep → after.nstate = .init → .running ∉ after.wlanStatus := by
  apply ensures_run.bind
  intro event received _
  rw [Ensures, ends_bind, ends_get, ends_ite, ends_ite]
  split
  · intro hsleep hinit
    have hsame : received.nstate = .init := hinit
    rw [hsame] at hsleep
    cases hsleep
  · rename_i hclear
    split
    · exact fun _ _ => hclear
    · exact fun hsleep => by cases hsleep

/-- A sleep changes nothing. -/
theorem leaves_smSleep : Leaves (fun d => (d.nstate, d.wlanStatus)) smSleep :=
  leaves_get.bind fun _ => leaves_pure

/-- Wherever a call leads, the NWP is stopped if INIT is next. -/
def StopsBehind (next : Cc3220sfState) (after : Desc) : Prop :=
  headsInit next after.nstate = true → .running ∉ after.wlanStatus

theorem stopsBehind_smWait4Start (hnstate : d.nstate = .checkProfiles) :
    Ensures (smHandler rebootOnFatalError .wait4Start) d StopsBehind := by
  have hmoves : Ensures (smHandler rebootOnFatalError .wait4Start) d (Moves .wait4Start d) :=
    moves_smHandler .wait4Start
  apply (hmoves.and ensures_smWait4Start).mono
  intro next after hboth hheads
  obtain ⟨⟨-, hmoved⟩, hclear⟩ := hboth
  rw [successors, hnstate] at hmoved
  simp only [List.mem_cons, List.not_mem_nil, or_false, Prod.mk.injEq] at hmoved
  rcases hmoved with ⟨hnext, hafter⟩ | ⟨hnext, hafter⟩ | ⟨hnext, hafter⟩
  · rw [hnext, hafter] at hheads
    cases hheads
  · exact hclear hnext hafter
  · rw [hnext, hafter] at hheads
    cases hheads

/-- A sleep leads to INIT only if that is in `nstate`. -/
theorem stopsBehind_smSleep (hclear : d.nstate = .init → .running ∉ d.wlanStatus) :
    Ensures (smHandler rebootOnFatalError .sleep) d StopsBehind := by
  have hmoves : Ensures (smHandler rebootOnFatalError .sleep) d (Moves .sleep d) :=
    moves_smHandler .sleep
  apply (hmoves.and leaves_smSleep.ensures).mono
  intro next after hboth hheads
  obtain ⟨⟨-, hmoved⟩, hsame⟩ := hboth
  obtain ⟨hnstate, hstatus⟩ := Prod.mk.inj hsame
  rw [hstatus]
  apply hclear
  simp only [successors, List.mem_cons, List.not_mem_nil, or_false, Prod.mk.injEq] at hmoved
  simp only [headsInit, Bool.or_eq_true, Bool.and_eq_true, decide_eq_true_eq, hnstate] at hheads
  rcases hmoved with ⟨hnext, -⟩ | ⟨hnext, -⟩
  · rw [hnext] at hheads
    rcases hheads with hinit | ⟨-, hinit⟩
    · exact hinit
    · exact hinit
  · rw [hnext] at hheads
    rcases hheads with hinit | ⟨-, hinit⟩
    · cases hinit
    · exact hinit

theorem stopsBehind_smHandler (hinOrder : InOrder d) (hstopped : Stopped d) :
    Ensures (smHandler rebootOnFatalError d.state) d StopsBehind := by
  cases hleads : leadsToInit d.state with
  | false =>
      apply (moves_smHandler d.state).mono
      intro next after hmoved hheads
      rw [successors_not_init hinOrder.nstate_mem hleads _ hmoved.2] at hheads
      cases hheads
  | true =>
      cases hstate : d.state with
      | stop =>
          apply ensures_smStop.mono
          exact fun _ _ hclear _ => hclear
      | wait4Start =>
          apply stopsBehind_smWait4Start
          have hmem := hinOrder.nstate_mem (by rw [hstate]; rfl)
          rw [hstate] at hmem
          exact List.mem_singleton.mp hmem
      | sleep =>
          apply stopsBehind_smSleep
          intro hinit
          apply hstopped
          rw [hstate, hinit]
          rfl
      | _ =>
          rw [hstate] at hleads
          cases hleads

theorem stopped_step {act : NetAct} (hinOrder : InOrder d) (hstopped : Stopped d)
    (hstep : step rebootOnFatalError d act = some after) : Stopped after := by
  cases hact : isExec act with
  | false =>
      obtain ⟨hstate, hnstate, hstatus, -⟩ := leaves_step hact hstep
      rw [Stopped, hstate, hnstate, hstatus]
      exact hstopped
  | true =>
      obtain ⟨delay, arriving, rfl⟩ := exec_of_isExec hact
      obtain ⟨final, hrun, hafter⟩ := exec_of_step hstep
      have hexec : Ensures (exec rebootOnFatalError delay) { d with arriving := arriving }
          fun _ after => Stopped after := by
        rw [Ensures, exec, ends_bind, ends_modify, ends_bind, ends_get]
        have hcalled : InOrder { d with arriving := arriving, timer := d.timer + delay } :=
          ⟨hinOrder.alternates, hinOrder.toldUp_iff, hinOrder.nstate_mem, hinOrder.used⟩
        apply Ensures.bind (stopsBehind_smHandler hcalled hstopped)
        intro next handled hclear
        rw [Ensures, ends_bind, ends_modify, ends_modify]
        split
        · exact hclear
        · exact hclear
      have hfinal : Stopped final := hexec.of_run hrun
      rw [hafter]
      exact hfinal

/-- The order of the states, and the bit, on the way to INIT. -/
def InOrderAndStopped (d : Desc) : Prop := InOrder d ∧ Stopped d

variable {totalFatalErrors totalRecoveries totalDisconnects : BitVec 32} {doProvisioning : Bool}

theorem inOrderAndStopped_run
    (hrun : Transition.run (step rebootOnFatalError)
      (started totalFatalErrors totalRecoveries totalDisconnects doProvisioning) acts = some d) :
    InOrderAndStopped d := by
  have hstart : Stopped (started totalFatalErrors totalRecoveries totalDisconnects
      doProvisioning) := fun _ => by simp [started]
  have hkeeps (s : Desc) (act : NetAct) (next : Desc) (hboth : InOrderAndStopped s)
      (hstep : step rebootOnFatalError s act = some next) : InOrderAndStopped next :=
    ⟨inOrder_step hboth.1 hstep, stopped_step hboth.1 hboth.2 hstep⟩
  exact Transition.run_invariant hkeeps ⟨inOrder_started, hstart⟩ hrun

/-- In every run from the start of the device, the bit is clear in INIT, and no call waits for
it. -/
theorem stoppedInInit (acts : List NetAct) :
    StatesSatisfy (step rebootOnFatalError) StoppedInInit
      (started totalFatalErrors totalRecoveries totalDisconnects doProvisioning) acts ∧
    AttemptsSatisfy (step rebootOnFatalError) (NeverWaits rebootOnFatalError)
      (started totalFatalErrors totalRecoveries totalDisconnects doProvisioning) acts := by
  constructor
  · exact fun before _ reached hreached => (inOrderAndStopped_run hreached).2.inInit
  · intro before act _ reached hreached
    exact neverWaits_of_stopped (inOrderAndStopped_run hreached).2.inInit act

end Run

end SimpleLinkHost.InitStatus
