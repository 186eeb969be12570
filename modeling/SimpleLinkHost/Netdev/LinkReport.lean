import SimpleLinkHost.Netdev.Notifications

/-!
# What a reported connection stands for

The listener is told of a connection once the device is associated and has an address.
The status bits of both belong to the events; the states on the way to the notification and
behind it receive events too, and not all of them look at the bits again.
-/

namespace SimpleLinkHost.LinkReport

open CallOutcome ProgramInvariant Cc3220sf FatalReset Notifications

variable {rebootOnFatalError : Bool} {d after : Desc} {acts : List NetAct}

section Property

/-- A connection that has been reported is there, or its loss is about to be reported. -/
def LinkKnown (d : Desc) : Prop :=
  ToldUp d → .connected ∈ d.wlanStatus ∧ .ipAcquired ∈ d.wlanStatus ∨ d.state = .notifyDown

/-- What the next receive gives. -/
def received (d : Desc) : Cc3220sfEvent := d.eventQ.headD .invalid

/-- A call reports a connection only where the link is there, and receives no ERROR behind the
report, and no DISCONNECT unless it reboots anyway. -/
def KeepsLink (d : Desc) (act : NetAct) : Prop :=
  isExec act = true →
    (d.state = .notifyUp → .connected ∈ d.wlanStatus ∧ .ipAcquired ∈ d.wlanStatus) ∧
      (d.state = .handleEvent → received d ≠ .error ∧
        (received d = .disconnect → .rebootRequired ∈ d.wlanStatus))

end Property

section Status

theorem countEvent_wlanStatus (event : Cc3220sfEvent) (d : Desc) :
    (countEvent event d).wlanStatus = d.wlanStatus := by
  cases event <;> rfl

theorem countEvent_outputs (event : Cc3220sfEvent) (d : Desc) :
    (countEvent event d).outputs = d.outputs := by
  cases event <;> rfl

/-- A receive takes the first event off the queue, and the status bits follow it. -/
theorem ensures_recvEvent :
    Ensures (recvEvent rebootOnFatalError) d fun event after =>
      event = received d ∧ after.wlanStatus = statusAfter (received d) d.wlanStatus ∧
        after.outputs = d.outputs ++ (d.eventQ.take 1).map .consumed := by
  rw [Ensures, recvEvent, ends_bind, ends_get]
  cases hqueue : d.eventQ with
  | nil =>
      rw [received, hqueue]
      exact ⟨rfl, rfl, (List.append_nil _).symm⟩
  | cons event rest =>
      rw [received, hqueue]
      simp only [emit, ends_bind, ends_modify, ends_get, ends_runIf]
      split
      · trivial
      · exact ⟨rfl, countEvent_wlanStatus _ _, countEvent_outputs _ _⟩

/-- The state behind `HANDLE_EVENT`. -/
def behindEvent (event : Cc3220sfEvent) (status : Finset StatusBit) : Cc3220sfState :=
  if event = .fwInstall ∨ event = .fatalError ∨ .rebootRequired ∈ status then .notifyDown
  else .idle

theorem ensures_smHandleEvent :
    Ensures (smHandleEvent rebootOnFatalError) d fun next after =>
      after.wlanStatus = statusAfter (received d) d.wlanStatus ∧
        next = behindEvent (received d) (statusAfter (received d) d.wlanStatus) := by
  apply ensures_recvEvent.bind
  intro event handled hreceived
  rw [← hreceived.2.1, ← hreceived.1]
  cases event with
  | fwInstall | fatalError => exact ⟨rfl, rfl⟩
  | _ =>
      rw [Ensures, rebootOrIdle, ends_bind, ends_get, ends_ite, behindEvent]
      simp only [reduceCtorEq, false_or]
      split
      · exact ⟨rfl, rfl⟩
      · exact ⟨rfl, rfl⟩

/-- What a call does to the status bits that leaves the listener with a connection, and where
it leads from `HANDLE_EVENT`. -/
def StatusBehind (state : Cc3220sfState) (d : Desc) (next : Cc3220sfState) (after : Desc) : Prop :=
  if state = .handleEvent then
    after.wlanStatus = statusAfter (received d) d.wlanStatus ∧
      next = behindEvent (received d) (statusAfter (received d) d.wlanStatus)
  else after.wlanStatus = d.wlanStatus

theorem ensures_smHandler_up {state : Cc3220sfState} (hup : upBehind state = true) :
    Ensures (smHandler rebootOnFatalError state) d (StatusBehind state d) := by
  cases state with
  | notifyUp =>
      rw [Ensures, smHandler, smNotifyup, ends_bind, ends_modify, ends_bind, ends_get, ends_bind,
        ends_runIf]
      split
      · exact rfl
      · exact rfl
  | idle =>
      rw [Ensures, smHandler, smIdle, ends_bind, ends_get, ends_ite, ends_ite, ends_bind,
        ends_runIf]
      split
      · exact rfl
      · split
        · exact rfl
        · split
          · exact rfl
          · exact rfl
  | handleEvent => exact ensures_smHandleEvent
  | httpMessage => exact rfl
  | _ => cases hup

theorem status_step_up {delay : BitVec 32} {arriving : List (List Cc3220sfEvent)}
    (hup : upBehind d.state = true)
    (hstep : step rebootOnFatalError d (.exec delay arriving) = some after) :
    StatusBehind d.state d after.state after := by
  obtain ⟨final, hrun, hafter⟩ := exec_of_step hstep
  have hstatus : Ensures (exec rebootOnFatalError delay) { d with arriving := arriving }
      fun _ after => StatusBehind d.state d after.state after := by
    rw [Ensures, exec, ends_bind, ends_modify, ends_bind, ends_get]
    apply Ensures.bind (ensures_smHandler_up hup)
    intro next handled hhandled
    rw [Ensures, ends_bind, ends_modify, ends_modify]
    split
    · exact hhandled
    · exact hhandled
  have hfinal := hstatus.of_run hrun
  rw [hafter]
  exact hfinal

end Status

section Runs

/-- The events that HANDLE_EVENT may receive while the link stays known. -/
theorem linkKnown_behindEvent_iff (event : Cc3220sfEvent) {status : Finset StatusBit}
    (hconnected : .connected ∈ status) (hacquired : .ipAcquired ∈ status) :
    .connected ∈ statusAfter event status ∧ .ipAcquired ∈ statusAfter event status ∨
        behindEvent event (statusAfter event status) = .notifyDown ↔
      event ≠ .error ∧ (event = .disconnect → .rebootRequired ∈ status) := by
  cases event <;> simp [statusAfter, behindEvent, hconnected, hacquired]

theorem linkKnown_step_iff {act : NetAct} (hinOrder : InOrder d) (hknown : LinkKnown d)
    (hstep : step rebootOnFatalError d act = some after) : LinkKnown after ↔ KeepsLink d act := by
  cases hact : isExec act with
  | false =>
      have hleaves := leaves_step hact hstep
      have hsame : LinkKnown after := by
        rw [LinkKnown, ToldUp, hleaves.2.2.2, hleaves.1, hleaves.2.2.1]
        exact hknown
      have hkeeps : KeepsLink d act := fun hexec => absurd (hact.symm.trans hexec) (by decide)
      exact iff_of_true hsame hkeeps
  | true =>
      obtain ⟨delay, arriving, rfl⟩ := exec_of_isExec hact
      have hmoves := moves_step hstep
      have htold := toldUp_iff_of_told hmoves.1 hinOrder.toldUp_iff
      cases hup : upBehind d.state with
      | false =>
          have hsame : LinkKnown after := by
            intro hafter
            rw [htold, hup] at hafter
            cases hafter
          have hkeeps : KeepsLink d (.exec delay arriving) := by
            intro _
            constructor
            · intro hstate
              rw [hstate] at hup
              cases hup
            · intro hstate
              rw [hstate] at hup
              cases hup
          exact iff_of_true hsame hkeeps
      | true =>
          have hafter : ToldUp after := htold.mpr hup
          have hstatus := status_step_up hup hstep
          cases hstate : d.state with
          | handleEvent =>
              have hbits := hknown (hinOrder.toldUp_iff.mpr (by rw [hstate]; rfl))
              rw [hstate] at hbits
              have hboth := hbits.resolve_right (by decide)
              rw [StatusBehind, if_pos hstate] at hstatus
              have hiff := linkKnown_behindEvent_iff (received d) hboth.1 hboth.2
              rw [← hstatus.2, ← hstatus.1] at hiff
              simp only [LinkKnown, KeepsLink, isExec, hafter, hstate, forall_const, ← hiff,
                reduceCtorEq, false_implies, true_and]
          | notifyUp =>
              rw [StatusBehind, if_neg (by rw [hstate]; decide)] at hstatus
              have hnstate := hinOrder.nstate_mem (by rw [hstate]; rfl)
              rw [hstate, mayReturnTo, List.mem_singleton] at hnstate
              have hnext := hmoves.2
              rw [hstate, successors, List.mem_singleton, hnstate, Prod.mk.injEq] at hnext
              simp [LinkKnown, KeepsLink, isExec, hafter, hstate, hstatus, hnext.1]
          | idle | httpMessage =>
              rw [StatusBehind, if_neg (by rw [hstate]; decide)] at hstatus
              have hbits := hknown (hinOrder.toldUp_iff.mpr (by rw [hstate]; rfl))
              rw [hstate] at hbits
              have hboth := hbits.resolve_right (by decide)
              simp [LinkKnown, KeepsLink, isExec, hstate, hstatus, hboth]
          | _ =>
              rw [hstate] at hup
              cases hup

variable {totalFatalErrors totalRecoveries totalDisconnects : BitVec 32} {doProvisioning : Bool}

/-- A connection that has been reported is lost in HANDLE_EVENT. -/
def lostWhileUp : List NetAct :=
  [.exec 100 [], .exec 100 [], .send .running, .exec 100 [], .exec 100 [], .exec 100 [],
    .send .connected, .exec 100 [], .send .ipAcquired, .exec 100 [], .exec 100 [], .exec 100 [],
    .send .disconnect, .exec 100 [], .exec 100 []]

end Runs

end SimpleLinkHost.LinkReport
