import SimpleLinkHost.Netdev.Notifications

/-!
# The field statistics

The driver counts the fatal errors of the NWP and the recoveries from them.  The recoveries
are found by a counter of eight bits that each fatal error increments and each `NOTIFY_UP`
step clears; the totals are wide enough, the counter in between is not.
-/

namespace SimpleLinkHost.Statistics

open CallOutcome ProgramInvariant Cc3220sf FatalReset Notifications

variable {rebootOnFatalError : Bool} {d after : Desc} {acts : List NetAct}

section Property

/-- What a record has of fatal errors: all of them, those behind the last `NOTIFY_UP` step, and
the `NOTIFY_UP` steps that come behind one. -/
structure Tally where
  fatalErrors : ℕ
  sinceUp : ℕ
  recoveries : ℕ

/-- The listener is told of a connection in a `NOTIFY_UP` step, and nowhere else. -/
def Tally.add (tally : Tally) : Output → Tally
  | .consumed .fatalError =>
      { tally with fatalErrors := tally.fatalErrors + 1, sinceUp := tally.sinceUp + 1 }
  | .notified .connected =>
      { tally with
        sinceUp := 0
        recoveries := if 0 < tally.sinceUp then tally.recoveries + 1 else tally.recoveries }
  | _ => tally

def tallyOf (outputs : List Output) : Tally := outputs.foldl Tally.add ⟨0, 0, 0⟩

/-- The statistics have grown by what the record has, and no fatal error is left to recover
from behind a `NOTIFY_UP` step. -/
structure CountsRight (totalFatalErrors totalRecoveries : BitVec 32) (d : Desc) : Prop where
  fatalErrors : d.totalFatalErrors =
    totalFatalErrors + BitVec.ofNat 32 (tallyOf d.outputs).fatalErrors
  recoveries : d.totalRecoveries =
    totalRecoveries + BitVec.ofNat 32 (tallyOf d.outputs).recoveries
  cleared : (tallyOf d.outputs).sinceUp = 0 → d.fatalErrorCount = 0

/-- The counter shows in a `NOTIFY_UP` step whether there was a fatal error. -/
def ShowsErrors (d : Desc) (act : NetAct) : Prop :=
  isExec act = true → d.state = .notifyUp → 256 ∣ (tallyOf d.outputs).sinceUp →
    (tallyOf d.outputs).sinceUp = 0

end Property

section Frames

variable {inv : Desc → Prop}

/-- The outputs that have no part in what the driver counts. -/
def plain : Output → Bool
  | .consumed _ | .notified .connected | .slWifiConnEnableProvisioning _ => false
  | _ => true

/-- The counters of fatal errors and the record. -/
def counters (d : Desc) : BitVec 8 × BitVec 32 × BitVec 32 × List Output :=
  (d.fatalErrorCount, d.totalFatalErrors, d.totalRecoveries, d.outputs)

/-- Only a receive and the handlers of `NOTIFY_UP` and `WAIT_PROVISION` touch the counters. -/
structure Undisturbed (inv : Desc → Prop) : Prop where
  of_counters : ∀ d after, counters after = counters d → inv d → inv after
  emit : ∀ d output, plain output = true → inv d →
    inv { d with outputs := d.outputs ++ [output] }
  receive : ∀ d event rest, inv d → inv (countEvent event
    { d with
      eventQ := rest
      outputs := d.outputs ++ [.consumed event]
      wlanStatus := statusAfter event d.wlanStatus })

theorem Undisturbed.keeps_modify (hundisturbed : Undisturbed inv) {change : Desc → Desc}
    (hchange : ∀ d, counters (change d) = counters d) : Keeps inv (modify change : Net PUnit) :=
  ProgramInvariant.keeps_modify fun d => hundisturbed.of_counters d (change d) (hchange d)

theorem Undisturbed.keeps_emit (hundisturbed : Undisturbed inv) {output : Output}
    (houtput : plain output = true) : Keeps inv (Cc3220sf.emit output) :=
  ProgramInvariant.keeps_modify fun d => hundisturbed.emit d output houtput

theorem Undisturbed.keeps_recvEvent (hundisturbed : Undisturbed inv) :
    Keeps inv (recvEvent rebootOnFatalError) :=
  FatalReset.keeps_recvEvent hundisturbed.receive

theorem Undisturbed.keeps_notifyDownThenStop (hundisturbed : Undisturbed inv) :
    Keeps inv notifyDownThenStop :=
  Keeps.bind (hundisturbed.keeps_modify fun _ => rfl) fun _ => keeps_pure

/-- Every other handler keeps what only receives change. -/
theorem Undisturbed.keeps_smHandler (hundisturbed : Undisturbed inv) {state : Cc3220sfState}
    (hup : state ≠ .notifyUp) (hprovision : state ≠ .waitProvision) :
    Keeps inv (smHandler rebootOnFatalError state) := by
  have hset {change : Desc → Desc} {next : Cc3220sfState}
      (hchange : ∀ d, counters (change d) = counters d) :
      Keeps inv (do modify change; return next : Net Cc3220sfState) :=
    Keeps.bind (hundisturbed.keeps_modify hchange) fun _ => keeps_pure
  cases state with
  | notifyUp => exact absurd rfl hup
  | waitProvision => exact absurd rfl hprovision
  | init =>
      apply keeps_get.bind
      intro d
      apply (keeps_runIf ((hundisturbed.keeps_emit rfl).bind fun _ => keeps_throw)).bind
      exact fun _ => keeps_pure
  | start =>
      apply hundisturbed.keeps_recvEvent.bind
      intro event
      apply keeps_get.bind
      intro d
      apply keeps_ite
      · apply (hundisturbed.keeps_emit rfl).bind
        exact fun _ => (hundisturbed.keeps_emit rfl).bind fun _ => hset fun _ => rfl
      · apply (keeps_runIf (hundisturbed.keeps_emit rfl)).bind
        exact fun _ => hset fun _ => rfl
  | wait4Start =>
      apply hundisturbed.keeps_recvEvent.bind
      intro event
      apply keeps_get.bind
      exact fun d => keeps_ite (hset fun _ => rfl) (keeps_ite (hset fun _ => rfl) keeps_pure)
  | stop =>
      have hsends : Keeps inv letOthersSend :=
        keeps_letOthersSend fun d _ _ => hundisturbed.of_counters d _ rfl
      apply hundisturbed.keeps_recvEvent.bind
      intro event
      apply (hundisturbed.keeps_emit rfl).bind
      intro _
      apply (keeps_awaitStopped hundisturbed.keeps_recvEvent hsends 10).bind
      exact fun _ => hset fun _ => rfl
  | startNetwork =>
      apply keeps_get.bind
      exact fun d => keeps_ite ((hundisturbed.keeps_emit rfl).bind fun _ => keeps_pure) keeps_pure
  | waitConnectAp =>
      apply hundisturbed.keeps_recvEvent.bind
      intro event
      apply keeps_get.bind
      exact fun d => keeps_ite (hset fun _ => rfl) (keeps_ite keeps_pure keeps_pure)
  | waitIp =>
      apply hundisturbed.keeps_recvEvent.bind
      intro event
      apply keeps_get.bind
      exact fun d => keeps_ite keeps_pure (keeps_ite keeps_pure keeps_pure)
  | notifyDown =>
      apply (hundisturbed.keeps_emit rfl).bind
      intro _
      refine Keeps.bind (hundisturbed.keeps_modify fun _ => rfl) fun _ => ?_
      exact keeps_get.bind fun _ => keeps_pure
  | idle =>
      apply keeps_get.bind
      intro d
      apply keeps_ite keeps_pure
      apply keeps_ite keeps_pure
      exact Keeps.bind (keeps_runIf (hundisturbed.keeps_modify fun _ => rfl)) fun _ => keeps_pure
  | sleep => exact keeps_get.bind fun _ => keeps_pure
  | handleEvent =>
      apply hundisturbed.keeps_recvEvent.bind
      intro event
      cases event with
      | fwInstall => exact hundisturbed.keeps_notifyDownThenStop
      | fatalError =>
          apply (hundisturbed.keeps_emit rfl).bind
          exact fun _ => hundisturbed.keeps_notifyDownThenStop
      | _ =>
          apply keeps_get.bind
          exact fun d => keeps_ite hundisturbed.keeps_notifyDownThenStop keeps_pure
  | waitFwInstall =>
      apply hundisturbed.keeps_recvEvent.bind
      intro event
      apply keeps_get.bind
      exact fun d => (keeps_runIf (hundisturbed.keeps_emit rfl)).bind fun _ => keeps_pure
  | checkProfiles | startHttp | checkConnection | httpMessage | error => exact hset fun _ => rfl
  | ready | getStatistics | startProv => exact keeps_pure

/-- Where the start of the provisioning changes nothing either, only `NOTIFY_UP` is left. -/
theorem Undisturbed.keeps_smHandler_of_forces (hundisturbed : Undisturbed inv)
    (hforces : ∀ d, inv d → inv { d with
      outputs := d.outputs ++ [.slWifiConnEnableProvisioning WifiApi.provFlagForceProvisioning] })
    {state : Cc3220sfState} (hup : state ≠ .notifyUp) :
    Keeps inv (smHandler rebootOnFatalError state) := by
  by_cases hprovision : state = .waitProvision
  · subst hprovision
    apply hundisturbed.keeps_recvEvent.bind
    intro event
    apply keeps_get.bind
    intro d
    refine Keeps.bind (keeps_runIf ?_) fun _ => keeps_pure
    refine Keeps.bind (ProgramInvariant.keeps_modify hforces) fun _ => ?_
    refine Keeps.bind (hundisturbed.keeps_modify fun _ => rfl) fun _ => ?_
    exact hundisturbed.keeps_emit rfl
  · exact hundisturbed.keeps_smHandler hup hprovision

/-- A call does to the counters what its handler does. -/
theorem counters_of_exec {delay : BitVec 32} {arriving : List (List Cc3220sfEvent)}
    (hcounters : ∀ d after, counters after = counters d → inv d → inv after)
    (hhandler : ∀ called, counters called = counters d →
      Ensures (smHandler rebootOnFatalError d.state) called fun _ after => inv after)
    (hstep : step rebootOnFatalError d (.exec delay arriving) = some after) : inv after := by
  obtain ⟨final, hrun, rfl⟩ := exec_of_step hstep
  have hexec : Ensures (exec rebootOnFatalError delay) { d with arriving := arriving }
      fun _ after => inv after := by
    rw [Ensures, exec, ends_bind, ends_modify, ends_bind, ends_get]
    apply Ensures.bind (hhandler { d with arriving := arriving, timer := d.timer + delay } rfl)
    intro next handled hhandled
    rw [Ensures, ends_bind, ends_modify, ends_modify]
    apply hcounters handled _ _ hhandled
    split
    · rfl
    · rfl
  exact hcounters final _ rfl (hexec.of_run hrun)

/-- An exec step keeps what its handler keeps. -/
theorem Undisturbed.exec {delay : BitVec 32} {arriving : List (List Cc3220sfEvent)}
    (hundisturbed : Undisturbed inv) (hkeeps : Keeps inv (smHandler rebootOnFatalError d.state))
    (hinv : inv d) (hstep : step rebootOnFatalError d (.exec delay arriving) = some after) :
    inv after := by
  apply counters_of_exec hundisturbed.of_counters _ hstep
  intro called hcalled
  exact hkeeps called (hundisturbed.of_counters d called hcalled hinv)

/-- A step of another party leaves the counters. -/
theorem counters_of_other {act : NetAct} (hact : isExec act = false)
    (hstep : step rebootOnFatalError d act = some after) : counters after = counters d := by
  obtain ⟨event, -, rfl⟩ | ⟨-, -, rfl⟩ | ⟨-, rfl⟩ := other_of_step hact hstep
  · rw [sendEvent]
    split
    · rfl
    · rfl
  · rfl
  · rfl

end Frames

section Counts

variable {totalFatalErrors totalRecoveries totalDisconnects : BitVec 32} {doProvisioning : Bool}

theorem tallyOf_concat (outputs : List Output) (output : Output) :
    tallyOf (outputs ++ [output]) = (tallyOf outputs).add output := by
  rw [tallyOf, List.foldl_append]
  rfl

theorem Tally.add_plain (tally : Tally) {output : Output} (hplain : plain output = true) :
    tally.add output = tally := by
  cases output with
  | consumed | slWifiConnEnableProvisioning => cases hplain
  | notified event =>
      cases event with
      | connected => cases hplain
      | disconnected => rfl
  | _ => rfl

/-- The counter of eight bits and the total go with the record, whatever the recoveries. -/
structure Counted (totalFatalErrors : BitVec 32) (d : Desc) : Prop where
  fatalErrorCount : d.fatalErrorCount = BitVec.ofNat 8 (tallyOf d.outputs).sinceUp
  fatalErrors : d.totalFatalErrors =
    totalFatalErrors + BitVec.ofNat 32 (tallyOf d.outputs).fatalErrors

/-- The recoveries that have been counted are those of the record. -/
def Recovered (totalRecoveries : BitVec 32) (d : Desc) : Prop :=
  d.totalRecoveries = totalRecoveries + BitVec.ofNat 32 (tallyOf d.outputs).recoveries

theorem undisturbed_counted : Undisturbed (Counted totalFatalErrors) where
  of_counters d after hcounters hcounted := by
    simp only [counters, Prod.mk.injEq] at hcounters
    obtain ⟨hcount, htotal, -, houtputs⟩ := hcounters
    constructor
    · rw [hcount, houtputs]
      exact hcounted.fatalErrorCount
    · rw [htotal, houtputs]
      exact hcounted.fatalErrors
  emit d output hplain hcounted := by
    constructor
    · rw [tallyOf_concat, Tally.add_plain _ hplain]
      exact hcounted.fatalErrorCount
    · rw [tallyOf_concat, Tally.add_plain _ hplain]
      exact hcounted.fatalErrors
  receive d event rest hcounted := by
    obtain ⟨hcount, htotal⟩ := hcounted
    cases event with
    | fatalError =>
        constructor
        · calc d.fatalErrorCount + 1 = BitVec.ofNat 8 (tallyOf d.outputs).sinceUp + 1 := by
                rw [hcount]
            _ = BitVec.ofNat 8 ((tallyOf d.outputs).sinceUp + 1) := (BitVec.ofNat_add ..).symm
            _ = BitVec.ofNat 8 (tallyOf (d.outputs ++ [.consumed .fatalError])).sinceUp := by
                rw [tallyOf_concat, Tally.add]
        · calc d.totalFatalErrors + 1
              = totalFatalErrors + BitVec.ofNat 32 (tallyOf d.outputs).fatalErrors + 1 := by
                rw [htotal]
            _ = totalFatalErrors + BitVec.ofNat 32 ((tallyOf d.outputs).fatalErrors + 1) := by
                rw [BitVec.ofNat_add, ← BitVec.add_assoc]
                rfl
            _ = totalFatalErrors + BitVec.ofNat 32
                  (tallyOf (d.outputs ++ [.consumed .fatalError])).fatalErrors := by
                rw [tallyOf_concat, Tally.add]
    | _ =>
        constructor
        · simp only [countEvent, tallyOf_concat, Tally.add, hcount]
        · simp only [countEvent, tallyOf_concat, Tally.add, htotal]

theorem undisturbed_recovered : Undisturbed (Recovered totalRecoveries) where
  of_counters d after hcounters hrecovered := by
    simp only [counters, Prod.mk.injEq] at hcounters
    rw [Recovered, hcounters.2.2.1, hcounters.2.2.2]
    exact hrecovered
  emit d output hplain hrecovered := by
    rw [Recovered, tallyOf_concat, Tally.add_plain _ hplain]
    exact hrecovered
  receive d event rest hrecovered := by
    rw [Recovered] at hrecovered
    cases event <;> simp only [Recovered, countEvent, tallyOf_concat, Tally.add, hrecovered]

theorem tallyOf_forces (flags : BitVec 32) (outputs : List Output) :
    tallyOf (outputs ++ [.slWifiConnEnableProvisioning flags]) = tallyOf outputs :=
  tallyOf_concat _ _

theorem keeps_counted {state : Cc3220sfState} (hup : state ≠ .notifyUp) :
    Keeps (Counted totalFatalErrors) (smHandler rebootOnFatalError state) := by
  apply undisturbed_counted.keeps_smHandler_of_forces _ hup
  intro d hcounted
  constructor
  · rw [tallyOf_forces]
    exact hcounted.fatalErrorCount
  · rw [tallyOf_forces]
    exact hcounted.fatalErrors

theorem keeps_recovered {state : Cc3220sfState} (hup : state ≠ .notifyUp) :
    Keeps (Recovered totalRecoveries) (smHandler rebootOnFatalError state) := by
  apply undisturbed_recovered.keeps_smHandler_of_forces _ hup
  intro d hrecovered
  rw [Recovered, tallyOf_forces]
  exact hrecovered

/-- What a `NOTIFY_UP` step does to the counters. -/
theorem ensures_smNotifyup :
    Ensures smNotifyup d fun _ after => counters after =
      (0, d.totalFatalErrors,
        if 0 < d.fatalErrorCount.toNat then d.totalRecoveries + 1 else d.totalRecoveries,
        d.outputs ++ [.notified .connected]) := by
  rw [Ensures, smNotifyup, ends_bind, ends_modify, ends_bind, ends_get, ends_bind, ends_runIf]
  split
  · rename_i hcount
    simp only [ends_bind, ends_modify, emit, ends_pure, counters]
  · rename_i hcount
    have hzero : d.fatalErrorCount = 0 := by
      apply BitVec.eq_of_toNat_eq
      exact Nat.eq_zero_of_not_pos hcount
    simp only [ends_bind, ends_modify, emit, ends_pure, counters]
    rw [hzero]

theorem notifyUp_step {delay : BitVec 32} {arriving : List (List Cc3220sfEvent)}
    (hstate : d.state = .notifyUp)
    (hstep : step rebootOnFatalError d (.exec delay arriving) = some after) :
    counters after = (0, d.totalFatalErrors,
      if 0 < d.fatalErrorCount.toNat then d.totalRecoveries + 1 else d.totalRecoveries,
      d.outputs ++ [.notified .connected]) := by
  apply @counters_of_exec _ _ _ (fun after => counters after = _) _ _ _ _ hstep
  · exact fun _ _ hsame hcounters => hsame.trans hcounters
  · intro called hcalled
    simp only [counters, Prod.mk.injEq] at hcalled
    obtain ⟨hcount, htotal, hrecoveries, houtputs⟩ := hcalled
    rw [hstate, ← hcount, ← htotal, ← hrecoveries, ← houtputs]
    exact ensures_smNotifyup

theorem counted_step {act : NetAct} (hcounted : Counted totalFatalErrors d)
    (hstep : step rebootOnFatalError d act = some after) : Counted totalFatalErrors after := by
  cases hact : isExec act with
  | false =>
      exact undisturbed_counted.of_counters d after (counters_of_other hact hstep) hcounted
  | true =>
      obtain ⟨delay, arriving, rfl⟩ := exec_of_isExec hact
      by_cases hup : d.state = .notifyUp
      · have hcounters := notifyUp_step hup hstep
        simp only [counters, Prod.mk.injEq] at hcounters
        obtain ⟨hcount, htotal, -, houtputs⟩ := hcounters
        constructor
        · rw [hcount, houtputs, tallyOf_concat]
          rfl
        · rw [htotal, houtputs, tallyOf_concat]
          exact hcounted.fatalErrors
      · exact undisturbed_counted.exec (keeps_counted hup) hcounted hstep

/-- The counter is zero where the fatal errors make up whole rounds of it. -/
theorem Counted.count_pos_iff (hcounted : Counted totalFatalErrors d) :
    0 < d.fatalErrorCount.toNat ↔ ¬256 ∣ (tallyOf d.outputs).sinceUp := by
  rw [hcounted.fatalErrorCount, BitVec.toNat_ofNat, Nat.dvd_iff_mod_eq_zero, Nat.pos_iff_ne_zero]

theorem Counted.cleared (hcounted : Counted totalFatalErrors d)
    (hnone : (tallyOf d.outputs).sinceUp = 0) : d.fatalErrorCount = 0 := by
  rw [hcounted.fatalErrorCount, hnone]
  rfl

theorem recovered_notifyUp_iff (hcounted : Counted totalFatalErrors d)
    (hrecovered : Recovered totalRecoveries d)
    (hcounters : counters after = (0, d.totalFatalErrors,
      if 0 < d.fatalErrorCount.toNat then d.totalRecoveries + 1 else d.totalRecoveries,
      d.outputs ++ [.notified .connected])) :
    Recovered totalRecoveries after ↔
      (256 ∣ (tallyOf d.outputs).sinceUp → (tallyOf d.outputs).sinceUp = 0) := by
  simp only [counters, Prod.mk.injEq, hcounted.count_pos_iff] at hcounters
  obtain ⟨-, -, hrecoveries, houtputs⟩ := hcounters
  rw [Recovered, hrecoveries, houtputs, tallyOf_concat, Tally.add, hrecovered]
  by_cases hnone : (tallyOf d.outputs).sinceUp = 0
  · simp [hnone]
  have hsome : 0 < (tallyOf d.outputs).sinceUp := Nat.pos_of_ne_zero hnone
  by_cases hround : 256 ∣ (tallyOf d.outputs).sinceUp
  · -- the counter has come round to zero, and the recovery is not seen
    have hmissed : ¬totalRecoveries + BitVec.ofNat 32 (tallyOf d.outputs).recoveries =
        totalRecoveries + BitVec.ofNat 32 ((tallyOf d.outputs).recoveries + 1) := by
      rw [BitVec.ofNat_add, ← BitVec.add_assoc]
      simp
    simpa [hround, hsome, hnone] using hmissed
  · simp only [hround, not_false_eq_true, if_true, hsome, BitVec.ofNat_add, ← BitVec.add_assoc,
      false_implies, iff_true]
    rfl

theorem recovered_step_iff {act : NetAct} (hcounted : Counted totalFatalErrors d)
    (hrecovered : Recovered totalRecoveries d)
    (hstep : step rebootOnFatalError d act = some after) :
    Recovered totalRecoveries after ↔ ShowsErrors d act := by
  cases hact : isExec act with
  | false =>
      have hsame : Recovered totalRecoveries after :=
        undisturbed_recovered.of_counters d after (counters_of_other hact hstep) hrecovered
      have hshows : ShowsErrors d act := fun hexec => absurd (hact.symm.trans hexec) (by decide)
      exact iff_of_true hsame hshows
  | true =>
      obtain ⟨delay, arriving, rfl⟩ := exec_of_isExec hact
      by_cases hup : d.state = .notifyUp
      · rw [recovered_notifyUp_iff hcounted hrecovered (notifyUp_step hup hstep), ShowsErrors]
        simp only [hact, hup, forall_const]
      · have hkept : Recovered totalRecoveries after :=
          undisturbed_recovered.exec (keeps_recovered hup) hrecovered hstep
        exact iff_of_true hkept fun _ hstate => absurd hstate hup

theorem countsRight_of_counted (hcounted : Counted totalFatalErrors d) :
    CountsRight totalFatalErrors totalRecoveries d ↔ Recovered totalRecoveries d :=
  ⟨fun hright => hright.recoveries,
    fun hrecovered => ⟨hcounted.fatalErrors, hrecovered, hcounted.cleared⟩⟩

/-- The statistics count right exactly in the runs in which no `NOTIFY_UP` step comes behind
256 fatal errors, or a multiple of that, since the one before. -/
theorem countsRight_iff :
    Transition.StatesSatisfy (step false) (CountsRight totalFatalErrors totalRecoveries)
        (started totalFatalErrors totalRecoveries totalDisconnects doProvisioning) acts ↔
      Transition.StepsSatisfy (step false) ShowsErrors
        (started totalFatalErrors totalRecoveries totalDisconnects doProvisioning) acts := by
  have hstarted : Counted totalFatalErrors
      (started totalFatalErrors totalRecoveries totalDisconnects doProvisioning) :=
    ⟨rfl, (BitVec.add_zero _).symm⟩
  apply Transition.states_iff_steps (fun _ _ _ => counted_step) _ hstarted
  · rw [countsRight_of_counted hstarted]
    exact (BitVec.add_zero _).symm
  · intro d act after hcounted hright hstep
    rw [countsRight_of_counted (counted_step hcounted hstep)]
    exact recovered_step_iff hcounted hright.recoveries hstep

/-- A callback sends a FATAL_ERROR and the next step receives it. -/
def failsOnce : List NetAct := [.send .fatalError, .exec 100 []]

/-- From START through the timeout of `WAIT_4_START` back to START, with 21 fatal errors. -/
def failsToStart : List NetAct :=
  (List.replicate 21 failsOnce).flatten ++ List.replicate 11 (.exec 100 [])

/-- A connection behind 256 fatal errors. -/
def recoversUnseen : List NetAct :=
  [.exec 100 []] ++ (List.replicate 12 failsToStart).flatten ++
    (List.replicate 4 failsOnce).flatten ++
    [.send .running, .exec 100 [], .exec 100 [], .exec 100 [], .send .connected, .exec 100 [],
      .send .ipAcquired, .exec 100 [], .exec 100 [], .exec 100 []]

theorem countsRight_broken :
    ¬Transition.StatesSatisfy (step false) (CountsRight 0 0) (started 0 0 0 false)
      recoversUnseen := by
  apply Transition.not_statesSatisfy_of_any fun d =>
    d.totalRecoveries = 0 && (tallyOf d.outputs).recoveries = 1
  · intro d hfails hright
    simp only [Bool.and_eq_true, decide_eq_true_eq] at hfails
    have hrecoveries := hright.recoveries
    rw [hfails.1, hfails.2] at hrecoveries
    cases hrecoveries
  · decide +kernel

end Counts

end SimpleLinkHost.Statistics
