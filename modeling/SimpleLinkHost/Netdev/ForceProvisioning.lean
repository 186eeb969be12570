import SimpleLinkHost.Netdev.LinkReport
import SimpleLinkHost.Netdev.Statistics

/-!
# Provisioning that deletes the profiles

In `WAIT_PROVISION` the driver starts the provisioning with the flag by which the connection
manager deletes all profiles.  A status bit keeps it from starting once more; the machine
stays in that state, where the bit goes the way of all bits behind an error.
-/

namespace SimpleLinkHost.ForceProvisioning

open CallOutcome ProgramInvariant Cc3220sf FatalReset Notifications LinkReport Statistics

variable {rebootOnFatalError : Bool} {d after : Desc} {acts : List NetAct}

section Property

/-- `SlWifiConn_enableProvisioning` with `SLWIFICONN_PROV_FLAG_FORCE_PROVISIONING` -/
def forced : Output := .slWifiConnEnableProvisioning WifiApi.provFlagForceProvisioning

def ForcedOnce (d : Desc) : Prop := d.outputs.count forced ≤ 1

/-- Behind the call, `WAIT_PROVISION` receives no event that clears the status bits. -/
def KeepsProvMode (d : Desc) (act : NetAct) : Prop :=
  isExec act = true → d.state = .waitProvision → forced ∈ d.outputs →
    received d ≠ .error ∧ received d ≠ .fatalError

end Property

section Calls

/-- Behind the call, the machine waits with the bit set. -/
def Waiting (d : Desc) : Prop :=
  forced ∈ d.outputs → d.state = .waitProvision ∧ .provMode ∈ d.wlanStatus

theorem provMode_statusAfter_iff (event : Cc3220sfEvent) {status : Finset StatusBit}
    (hmode : .provMode ∈ status) :
    .provMode ∈ statusAfter event status ↔ event ≠ .error ∧ event ≠ .fatalError := by
  cases event <;> simp [statusAfter, hmode]

theorem undisturbed_unforced : Undisturbed fun d => forced ∉ d.outputs where
  of_counters d after hcounters hnone := by
    have houtputs : after.outputs = d.outputs := congrArg (·.2.2.2) hcounters
    rw [houtputs]
    exact hnone
  emit d output hplain hnone := by
    have hother : forced ≠ output := by
      rintro rfl
      cases hplain
    simp [hnone, hother]
  receive d event rest hnone := by
    have hother : forced ≠ .consumed event := by
      rintro ⟨⟩
    rw [countEvent_outputs]
    simp [hnone, hother]

/-- No other handler makes the call. -/
theorem unforced_step {delay : BitVec 32} {arriving : List (List Cc3220sfEvent)}
    (hstate : d.state ≠ .waitProvision) (hnone : forced ∉ d.outputs)
    (hstep : step rebootOnFatalError d (.exec delay arriving) = some after) :
    forced ∉ after.outputs := by
  by_cases hup : d.state = .notifyUp
  · have houtputs : after.outputs = d.outputs ++ [.notified .connected] :=
      congrArg (·.2.2.2) (notifyUp_step hup hstep)
    have hother : forced ≠ .notified .connected := by
      rintro ⟨⟩
    rw [houtputs]
    simp [hnone, hother]
  · exact undisturbed_unforced.exec (undisturbed_unforced.keeps_smHandler hup hstate) hnone hstep

/-- What a call does in `WAIT_PROVISION`, by the bit behind its receive. -/
def Provisions (d : Desc) (next : Cc3220sfState) (after : Desc) : Prop :=
  next = .waitProvision ∧
    if .provMode ∈ statusAfter (received d) d.wlanStatus then
      after.wlanStatus = statusAfter (received d) d.wlanStatus ∧
        after.outputs = d.outputs ++ (d.eventQ.take 1).map .consumed
    else
      after.wlanStatus = insert .provMode (statusAfter (received d) d.wlanStatus) ∧
        after.outputs = d.outputs ++ (d.eventQ.take 1).map .consumed ++ [forced, .slWifiConnEnable]

theorem ensures_smWaitProvisioning :
    Ensures (smWaitProvisioning rebootOnFatalError) d (Provisions d) := by
  apply ensures_recvEvent.bind
  intro event received hreceived
  obtain ⟨-, hstatus, houtputs⟩ := hreceived
  rw [Ensures, ends_bind, ends_get, ends_bind, ends_runIf]
  split
  · rename_i hmode
    simp only [emit, ends_bind, ends_modify, ends_pure]
    rw [hstatus] at hmode
    refine ⟨rfl, ?_⟩
    rw [if_neg hmode, ← hstatus, ← houtputs]
    exact ⟨rfl, List.append_assoc _ _ _⟩
  · rename_i hmode
    rw [hstatus] at hmode
    refine ⟨rfl, ?_⟩
    rw [if_pos (not_not.mp hmode)]
    exact ⟨hstatus, houtputs⟩

theorem provisions_step {delay : BitVec 32} {arriving : List (List Cc3220sfEvent)}
    (hstate : d.state = .waitProvision)
    (hstep : step rebootOnFatalError d (.exec delay arriving) = some after) :
    Provisions d after.state after := by
  obtain ⟨final, hrun, hafter⟩ := exec_of_step hstep
  have hexec : Ensures (exec rebootOnFatalError delay) { d with arriving := arriving }
      fun _ after => Provisions d after.state after := by
    rw [Ensures, exec, ends_bind, ends_modify, ends_bind, ends_get]
    simp only [hstate, smHandler]
    apply ensures_smWaitProvisioning.bind
    intro next handled hhandled
    rw [Ensures, ends_bind, ends_modify, ends_modify]
    split
    · exact hhandled
    · exact hhandled
  have hfinal := hexec.of_run hrun
  rw [hafter]
  exact hfinal

end Calls

section Runs

theorem count_consumed (events : List Cc3220sfEvent) :
    (events.map Output.consumed).count forced = 0 := by
  apply List.count_eq_zero_of_not_mem
  simp [forced]

theorem waiting_step {act : NetAct} (hwaiting : Waiting d)
    (hstep : step rebootOnFatalError d act = some after) : Waiting after := by
  cases hact : isExec act with
  | false =>
      have hleaves := leaves_step hact hstep
      rw [Waiting, hleaves.2.2.2, hleaves.1, hleaves.2.2.1]
      exact hwaiting
  | true =>
      obtain ⟨delay, arriving, rfl⟩ := exec_of_isExec hact
      by_cases hstate : d.state = .waitProvision
      · intro _
        obtain ⟨hnext, hmode⟩ := provisions_step hstate hstep
        refine ⟨hnext, ?_⟩
        split at hmode
        · rename_i hset
          rw [hmode.1]
          exact hset
        · rw [hmode.1]
          exact Finset.mem_insert_self _ _
      · have hnone : forced ∉ d.outputs := fun hforced => hstate (hwaiting hforced).1
        exact fun hforced => absurd hforced (unforced_step hstate hnone hstep)

theorem forcedOnce_step_iff {act : NetAct} (hwaiting : Waiting d) (honce : ForcedOnce d)
    (hstep : step rebootOnFatalError d act = some after) :
    ForcedOnce after ↔ KeepsProvMode d act := by
  cases hact : isExec act with
  | false =>
      have hleaves := leaves_step hact hstep
      have hsame : ForcedOnce after := by
        rw [ForcedOnce, hleaves.2.2.2]
        exact honce
      have hkeeps : KeepsProvMode d act := fun hexec => absurd (hact.symm.trans hexec) (by decide)
      exact iff_of_true hsame hkeeps
  | true =>
      obtain ⟨delay, arriving, rfl⟩ := exec_of_isExec hact
      by_cases hstate : d.state = .waitProvision
      · obtain ⟨-, hmode⟩ := provisions_step hstate hstep
        by_cases hforced : forced ∈ d.outputs
        · have hcount : d.outputs.count forced = 1 :=
            Nat.le_antisymm honce (List.count_pos_iff.mpr hforced)
          have hkept := provMode_statusAfter_iff (received d) (hwaiting hforced).2
          split at hmode
          · rename_i hset
            have hsame : ForcedOnce after := by
              rw [ForcedOnce, hmode.2, List.count_append, count_consumed, hcount]
            exact iff_of_true hsame fun _ _ _ => hkept.mp hset
          · rename_i hcleared
            have htwice : ¬ForcedOnce after := by
              rw [ForcedOnce, hmode.2, List.count_append, List.count_append, count_consumed, hcount]
              decide
            exact iff_of_false htwice fun hkeeps =>
              hcleared (hkept.mpr (hkeeps rfl hstate hforced))
        · have hcount : d.outputs.count forced = 0 := List.count_eq_zero_of_not_mem hforced
          have hfirst : ForcedOnce after := by
            split at hmode
            · rw [ForcedOnce, hmode.2, List.count_append, count_consumed, hcount]
              decide
            · rw [ForcedOnce, hmode.2, List.count_append, List.count_append, count_consumed, hcount]
              decide
          exact iff_of_true hfirst fun _ _ hmem => absurd hmem hforced
      · have hnone : forced ∉ d.outputs := fun hforced => hstate (hwaiting hforced).1
        have hafter : ForcedOnce after := by
          rw [ForcedOnce, List.count_eq_zero_of_not_mem (unforced_step hstate hnone hstep)]
          decide
        exact iff_of_true hafter fun _ hprovision => absurd hprovision hstate

variable {totalFatalErrors totalRecoveries totalDisconnects : BitVec 32} {doProvisioning : Bool}

/-- The profiles are deleted at most once exactly in the runs in which `WAIT_PROVISION`, behind
the call, receives neither ERROR nor FATAL_ERROR. -/
theorem forcedOnce_iff :
    Transition.StatesSatisfy (step rebootOnFatalError) ForcedOnce
        (started totalFatalErrors totalRecoveries totalDisconnects doProvisioning) acts ↔
      Transition.StepsSatisfy (step rebootOnFatalError) KeepsProvMode
        (started totalFatalErrors totalRecoveries totalDisconnects doProvisioning) acts := by
  have hwaiting : Waiting
      (started totalFatalErrors totalRecoveries totalDisconnects doProvisioning) := by
    rintro ⟨⟩
  exact Transition.states_iff_steps (fun _ _ _ => waiting_step) (fun _ _ _ => forcedOnce_step_iff)
    hwaiting (Nat.zero_le 1)

/-- The application asks for a provisioning, and an ERROR comes behind its start. -/
def forcedByError : List NetAct :=
  [.exec 100 [], .exec 100 [], .send .running, .exec 100 [], .exec 100 [], .exec 100 [],
    .exec 100 [], .send .error, .exec 100 []]

theorem forcedOnce_broken :
    ¬Transition.StatesSatisfy (step false) ForcedOnce (started 0 0 0 true) forcedByError := by
  apply Transition.not_statesSatisfy_of_any fun d => d.outputs.count forced = 2
  · intro d htwice honce
    rw [decide_eq_true_eq] at htwice
    rw [ForcedOnce, htwice] at honce
    cases honce with
    | step hle => cases hle
  · decide +kernel

end Runs

end SimpleLinkHost.ForceProvisioning
