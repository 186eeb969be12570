import SimpleLinkHost.WifiConn.WifiProvisioning

/-!
# One cycle of provisioning

In the mode `ONE_SHOT` the machine is to go from `WAIT_FOR_CONN` into provisioning once.  The
mode is taken back where the NWP is asked to provision, but not where the application is
asked to configure the device from outside.
-/

namespace SimpleLinkHost.WifiOneShot

open CallOutcome ProgramInvariant ProgramScript WifiContext WifiApi WifiMachine WifiFrames
open WifiScripts WifiCalls WifiActs WifiRuns WifiProvisioning
open Transition (StatesSatisfy StepsSatisfy)

variable {env : WifiEnv} {s after : WifiState}

section Property

/-- What is seen since the last call of `SlWifiConn_enableProvisioning`. -/
structure CycleSeen where
  /-- The event that is processed since was received in `WAIT_FOR_CONN`. -/
  waiting : Bool
  /-- An ERROR event was processed. -/
  erred : Bool
  /-- How often the machine went from `WAIT_FOR_CONN` into provisioning. -/
  entries : ℕ

/-- Nothing is seen. -/
def newCycle : CycleSeen := ⟨false, false, 0⟩

def cycleAfter (seen : CycleSeen) : Output → CycleSeen
  | .posted .enableProvisioning => newCycle
  | .processing state event =>
      { seen with waiting := state = .waitForConn, erred := seen.erred || event = .error }
  | .entered .provisioning | .entered .extProvisioning =>
      { seen with entries := seen.entries + seen.waiting.toNat }
  | _ => seen

def cycle (s : WifiState) : CycleSeen := s.outputs.foldl cycleAfter newCycle

/-- Without an ERROR event, provisioning was entered at most once since the call, unless the
call was for the mode `ON`. -/
def OnceUnlessOn (s : WifiState) : Prop :=
  (cycle s).erred = false → s.provMode ≠ .on → (cycle s).entries ≤ 1

/-- In the mode `ONE_SHOT`, the connection timeout does not start an external
configuration. -/
def TakesOneShot (env : WifiEnv) (s : WifiState) : WifiAct → Prop
  | .handle _ _ => s.received = some .timeout → s.state = .waitForConn →
      s.bWlanConnectUsed = false → s.provMode = .oneShot →
        s.provCmd ≠ env.provisioningCmdExternalConfiguration
  | _ => True

end Property

section Cycles

variable {good : CycleSeen → ProvMode → Prop}

/-- What is seen since the call, and the mode, are good. -/
def Cycles (good : CycleSeen → ProvMode → Prop) (s : WifiState) : Prop :=
  good (cycle s) s.provMode

theorem cycle_eq (s : WifiState) :
    cycle s = (s.outputs.filter ofProv).foldl cycleAfter newCycle := by
  rw [cycle, List.foldl_filter]
  congr 1
  funext seen output
  cases output with
  | posted event => cases event <;> rfl
  | _ => rfl

theorem cycle_append (s : WifiState) (output : Output) :
    cycle { s with outputs := s.outputs ++ [output] } = cycleAfter (cycle s) output := by
  simp [cycle]

theorem cycles_congr (hview : provView after = provView s) :
    cycle after = cycle s ∧ after.provMode = s.provMode := by
  have houtputs : after.outputs.filter ofProv = s.outputs.filter ofProv := congrArg (·.2.2) hview
  have hmode : after.provMode = s.provMode := congrArg (·.1.2.1) hview
  rw [cycle_eq, cycle_eq, houtputs]
  exact ⟨rfl, hmode⟩

/-- A call begins a new cycle. -/
theorem provisioned_cycles (hnew : ∀ mode, good newCycle mode) : Provisioned env (Cycles good) where
  view s after hview hgood := by
    obtain ⟨hcycle, hmode⟩ := cycles_congr hview
    rw [Cycles, hcycle, hmode]
    exact hgood
  enables s mode command flags _ := by
    have hcycle : cycle (provEnabled env mode command flags s) = newCycle :=
      cycle_append (installProvisioning env mode command flags s) _
    rw [Cycles, hcycle]
    exact hnew mode
  posts s _ := by
    rw [Cycles, cycle_append]
    exact hnew s.provMode

end Cycles

section Mode

/-- The calls of `SlWifiConn_enableProvisioning` that were accepted. -/
def calls (s : WifiState) : ℕ := s.outputs.count (.posted .enableProvisioning)

/-- The mode is `ON` only if it was so, or behind a call. -/
def OnByCall (before s : WifiState) : Prop :=
  calls before ≤ calls s ∧ (s.provMode = .on → before.provMode = .on ∨ calls before < calls s)

theorem calls_of_prov (hview : provView after = provView s) : calls after = calls s := by
  have hcalls (s : WifiState) :
      calls s = (s.outputs.filter ofProv).count (.posted .enableProvisioning) :=
    (List.count_filter rfl).symm
  have houtputs : after.outputs.filter ofProv = s.outputs.filter ofProv := congrArg (·.2.2) hview
  rw [hcalls, hcalls, houtputs]

theorem provisioned_onByCall (before : WifiState) : Provisioned env (OnByCall before) where
  view s after hview hon := by
    rw [OnByCall, calls_of_prov hview, (cycles_congr hview).2]
    exact hon
  enables s mode command flags hon := by
    have hcalls : calls (provEnabled env mode command flags s) = calls s + 1 := by
      simp [calls, provEnabled]
    rw [OnByCall, hcalls]
    exact ⟨Nat.le_succ_of_le hon.1, fun _ => .inr (Nat.lt_succ_of_le hon.1)⟩
  posts s hon := by
    have hcalls : calls { s with outputs := s.outputs ++ [.posted .enableProvisioning] } =
        calls s + 1 := by
      simp [calls]
    rw [OnByCall, hcalls]
    exact ⟨Nat.le_succ_of_le hon.1, fun _ => .inr (Nat.lt_succ_of_le hon.1)⟩

theorem onByCall_writes {before : WifiState} {act : SmAct} (hwrite : WriteCase env s act after)
    (hon : OnByCall before s) : OnByCall before after := by
  cases hwrite with
  | @writes write =>
      have hcalls : calls (write.apply s) = calls s :=
        Write.frame calls (fun _ _ _ _ _ _ _ => rfl) write s
      rw [OnByCall, hcalls]
      refine ⟨hon.1, fun hafter => hon.2 ?_⟩
      cases write with
      | oneShotTaken | oneShotGiven | errorsForgotten =>
          rw [Write.apply] at hafter
          split at hafter
          · first | exact hafter | cases hafter
          · exact hafter
      | _ => exact hafter
  | _ => simpa [OnByCall, calls] using hon

/-- No step makes the mode `ON` without a call. -/
theorem onByCall_step {act : WifiAct} (hstep : step env s act = some after) : OnByCall s after := by
  have hprov : Provisioned env (OnByCall s) := provisioned_onByCall s
  have hstart : OnByCall s s := ⟨le_rfl, .inl⟩
  cases stepCase_of_step hstep with
  | call hrun => exact (hprov.runCall _).of_run hrun hstart
  | receive => exact hstart
  | @process event notified posting script final _ _ hscript hplays =>
      have hhandling : OnByCall s (handling s event notified posting) := by
        simp [OnByCall, handling, calls]
      have hfinal := (hprov.kept.plays hplays (asksPlainly_process s.state event script hscript)
        (fun _ _ => hprov.replays) (fun _ _ _ _ hwrite hon => onByCall_writes hwrite hon)
        ⟨hhandling, allAllowed_anyCall notified posting⟩).1
      exact hprov.view final _ rfl hfinal
  | destroy _ hrun =>
      have hfinal := (hprov.leaves leaves_prov_deinit).of_run hrun (hprov.view s _ rfl hstart)
      exact hprov.view _ _ rfl hfinal

end Mode

section Phases

variable {script : List SmAct} {seen : CycleSeen} {mode : ProvMode}

/-- The mode `ONE_SHOT` is there for a cycle that was not entered, and every cycle is entered
once. -/
def spent (seen : CycleSeen) (mode : ProvMode) : Prop :=
  seen.erred = true ∨ mode = .on ∨
    (seen.entries ≤ 1 ∧ (mode = .oneShot → seen.entries = 0))

/-- Where a script stands. -/
inductive Phase
  /-- Provisioning is not entered. -/
  | still
  /-- Provisioning may be entered, but not from `WAIT_FOR_CONN`. -/
  | calm
  /-- An ERROR event is processed, and gives the mode back. -/
  | erring
  /-- The connection timeout starts the provisioning. -/
  | decided
  /-- The external configuration is started. -/
  | configuring
  /-- The NWP is asked to provision. -/
  | commanding
  /-- The NWP provisions, and the mode is still to be taken. -/
  | taking

/-- What holds in a phase, of what is seen since the call and of the mode. -/
def Phase.good : Phase → CycleSeen → ProvMode → Prop
  | .still, seen, mode | .decided, seen, mode => spent seen mode
  | .calm, seen, mode => spent seen mode ∧ seen.waiting = false
  | .erring, seen, _ => seen.erred = true ∧ seen.waiting = false
  | .configuring, seen, mode =>
      seen.erred = true ∨ mode = .on ∨ (seen.entries = 0 ∧ seen.waiting = false)
  | .commanding, seen, mode => seen.erred = true ∨ mode = .on ∨ seen.entries = 0
  | .taking, seen, mode => seen.erred = true ∨ mode = .on ∨ seen.entries ≤ 1

/-- The phase behind an act, unless the act does not come in the phase. -/
def Phase.next : Phase → SmAct → Option Phase
  | .erring, .writes .oneShotGiven => some .calm
  | .decided, .finds .external true => some .configuring
  | .decided, .finds .external false => some .commanding
  | .erring, _ | .decided, _ => none
  | .configuring, .enters .extProvisioning => some .still
  | .commanding, .enters .provisioning => some .taking
  | .taking, .writes .oneShotTaken => some .still
  | .configuring, .enters _ | .configuring, .writes _ | .commanding, .enters _
  | .commanding, .writes _ | .taking, .enters _ | .taking, .writes _
  | .still, .enters .provisioning | .still, .enters .extProvisioning
  | .still, .writes .oneShotGiven | .calm, .writes .oneShotGiven => none
  | phase, _ => some phase

/-- The phases that last. -/
def Phase.lasts : Phase → Bool
  | .erring | .decided => false
  | _ => true

theorem good_newCycle {phase : Phase} (hlasts : phase.lasts = true) (mode : ProvMode) :
    phase.good newCycle mode := by
  cases phase <;> simp_all [Phase.lasts, Phase.good, spent, newCycle]

theorem spent_newCycle (mode : ProvMode) : spent newCycle mode :=
  .inr (.inr ⟨Nat.zero_le 1, fun _ => rfl⟩)

/-- The mode behind a write. -/
def modeAfter (mode : ProvMode) : Write → ProvMode
  | .oneShotTaken => if mode = .oneShot then .off else mode
  | .oneShotGiven => if mode = .off then .oneShot else mode
  | _ => mode

theorem cycles_write (write : Write) (s : WifiState) :
    cycle (write.apply s) = cycle s ∧ (write.apply s).provMode = modeAfter s.provMode write := by
  refine ⟨Write.frame cycle (fun _ _ _ _ _ _ _ => rfl) write s, ?_⟩
  cases write with
  | oneShotTaken | oneShotGiven => rw [Write.apply, modeAfter]; split <;> rfl
  | errorsForgotten => rw [Write.apply]; split <;> rfl
  | _ => rfl

theorem good_enters {phase last : Phase} {state : SmState}
    (hnext : phase.next (.enters state) = some last) (hgood : phase.good seen mode) :
    last.good (cycleAfter seen (.entered state)) mode := by
  cases phase with
  | still => cases state <;> cases hnext <;> exact hgood
  | calm =>
      obtain ⟨hspent, hwaiting⟩ := hgood
      have hsame : cycleAfter seen (.entered state) = seen := by
        cases seen
        cases state <;> simp_all [cycleAfter]
      rw [hsame]
      cases state <;> cases hnext <;> exact ⟨hspent, hwaiting⟩
  | configuring =>
      cases state with
      | extProvisioning =>
          cases hnext
          rcases hgood with herred | hon | ⟨hnone, hwaiting⟩
          · exact .inl herred
          · exact .inr (.inl hon)
          · exact .inr (.inr (by simp [cycleAfter, hnone, hwaiting]))
      | _ => cases hnext
  | commanding =>
      cases state with
      | provisioning =>
          cases hnext
          rcases hgood with herred | hon | hnone
          · exact .inl herred
          · exact .inr (.inl hon)
          · exact .inr (.inr (by simp [cycleAfter, hnone, Bool.toNat_le]))
      | _ => cases hnext
  | erring | decided => cases hnext
  | taking => cases state <;> cases hnext

theorem spent_modeAfter {write : Write} (hwrite : write ≠ .oneShotGiven)
    (hspent : spent seen mode) : spent seen (modeAfter mode write) := by
  cases write with
  | oneShotTaken =>
      rcases hspent with herred | hon | ⟨honce, -⟩
      · exact .inl herred
      · exact .inr (.inl (by simp [modeAfter, hon]))
      · refine .inr (.inr ⟨honce, fun hgiven => ?_⟩)
        cases mode <;> cases hgiven
  | oneShotGiven => exact absurd rfl hwrite
  | _ => exact hspent

theorem good_writes {phase last : Phase} {write : Write}
    (hnext : phase.next (.writes write) = some last) (hgood : phase.good seen mode) :
    last.good seen (modeAfter mode write) := by
  cases phase with
  | still =>
      have hwrite : write ≠ .oneShotGiven := by
        rintro rfl
        cases hnext
      cases write <;> cases hnext <;> exact spent_modeAfter hwrite hgood
  | calm =>
      have hwrite : write ≠ .oneShotGiven := by
        rintro rfl
        cases hnext
      cases write <;> cases hnext <;> exact ⟨spent_modeAfter hwrite hgood.1, hgood.2⟩
  | erring =>
      cases write with
      | oneShotGiven =>
          cases hnext
          exact ⟨.inl hgood.1, hgood.2⟩
      | _ => cases hnext
  | taking =>
      cases write with
      | oneShotTaken =>
          cases hnext
          rcases hgood with herred | hon | honce
          · exact .inl herred
          · exact .inr (.inl (by simp [modeAfter, hon]))
          · refine .inr (.inr ⟨honce, fun hgiven => ?_⟩)
            cases mode <;> cases hgiven
      | _ => cases hnext
  | decided => cases hnext
  | configuring | commanding => cases write <;> cases hnext

/-- What holds of the state in a phase. -/
def Phase.Holds (env : WifiEnv) (phase : Phase) (s : WifiState) : Prop :=
  phase.good (cycle s) s.provMode ∧
    (phase = .decided → s.provMode ≠ .off ∧
      (s.provMode = .oneShot → s.provCmd ≠ env.provisioningCmdExternalConfiguration))

theorem next_ne_decided {phase last : Phase} {act : SmAct} (hnext : phase.next act = some last) :
    last ≠ .decided := by
  unfold Phase.next at hnext
  split at hnext <;> cases hnext <;> simp_all

/-- In a phase that lasts, the acts that neither enter a state nor write leave it. -/
theorem next_eq_self {phase last : Phase} {act : SmAct} (hlasts : phase.lasts = true)
    (henters : ∀ state, act ≠ .enters state) (hwrites : ∀ write, act ≠ .writes write)
    (hnext : phase.next act = some last) : last = phase := by
  unfold Phase.next at hnext
  split at hnext <;> simp_all [Phase.lasts]

end Phases

section Scripts

variable {script : List SmAct} {phase last : Phase}

/-- The command with which the provisioning was decided. -/
theorem holds_decided {act : SmAct} (hact : Acts env act s after)
    (hnext : Phase.decided.next act = some last) (hholds : Phase.decided.Holds env s) :
    after = s ∧ last.Holds env after := by
  obtain ⟨hspent, hdecided⟩ := hholds
  obtain ⟨hmode, hcommand⟩ := hdecided rfl
  have hgiven : (cycle s).erred = true ∨ s.provMode = .on ∨
      (s.provMode = .oneShot ∧ (cycle s).entries = 0) := by
    rcases hspent with herred | hon | ⟨-, honce⟩
    · exact .inl herred
    · exact .inr (.inl hon)
    · cases hcases : s.provMode with
      | off => exact absurd hcases hmode
      | oneShot => exact .inr (.inr ⟨rfl, honce hcases⟩)
      | on => exact .inr (.inl rfl)
  cases act with
  | finds test holds =>
      obtain ⟨hsame, hpasses⟩ := finds_iff hact
      subst hsame
      refine ⟨rfl, ?_, fun hlast => absurd hlast (next_ne_decided hnext)⟩
      cases test with
      | external =>
          cases holds with
          | true =>
              cases hnext
              have hexternal := of_decide_eq_true hpasses
              rcases hgiven with herred | hon | ⟨hshot, -⟩
              · exact .inl herred
              · exact .inr (.inl hon)
              · exact absurd hexternal (hcommand hshot)
          | false =>
              cases hnext
              rcases hgiven with herred | hon | ⟨-, hnone⟩
              · exact .inl herred
              · exact .inr (.inl hon)
              · exact .inr (.inr hnone)
      | _ => cases hnext
  | _ => cases hnext

/-- What the acts that write do to what is seen and to the mode. -/
theorem good_writeCase {act : SmAct} (hwrite : WriteCase env s act after)
    (hphase : phase ≠ .decided) (hnext : phase.next act = some last)
    (hgood : phase.good (cycle s) s.provMode) : last.good (cycle after) after.provMode := by
  have hother (hview : provView after = provView s) (henters : ∀ state, act ≠ .enters state)
      (hwrites : ∀ write, act ≠ .writes write) : last.good (cycle after) after.provMode := by
    have hsame : last = phase := by
      cases phase with
      | erring =>
          unfold Phase.next at hnext
          split at hnext <;> simp_all
      | decided => exact absurd rfl hphase
      | _ => exact next_eq_self rfl henters hwrites hnext
    obtain ⟨hcycle, hmode⟩ := cycles_congr hview
    rw [hsame, hcycle, hmode]
    exact hgood
  cases hwrite with
  | @enters state =>
      have hcycle : cycle { s with state := state, outputs := s.outputs ++ [.entered state] } =
          cycleAfter (cycle s) (.entered state) := cycle_append s _
      rw [hcycle]
      exact good_enters hnext hgood
  | @writes write =>
      obtain ⟨hcycle, hmode⟩ := cycles_write write s
      rw [hcycle, hmode]
      exact good_writes hnext hgood
  | arms | disarms | defers | startsProvisioning | stopsProvisioning =>
      refine hother ?_ (fun _ hsame => by cases hsame) fun _ hsame => by cases hsame
      simp [provView, ofProv]

/-- An act leads from phase to phase, with all that other threads do meanwhile. -/
theorem holds_act {act : SmAct} (hact : Acts env act s after)
    (hasks : asksPlainly act = true) (hnext : phase.next act = some last)
    (hboth : phase.Holds env s ∧ Scheduled anyCall s) :
    last.Holds env after ∧ Scheduled anyCall after := by
  by_cases hdecided : phase = .decided
  · subst hdecided
    obtain ⟨hsame, hholds⟩ := holds_decided hact hnext hboth.1
    subst hsame
    exact ⟨hholds, hboth.2⟩
  by_cases hplain : plainAct act = true
  · have hlasts : phase.lasts = true := by
      cases phase with
      | erring =>
          unfold Phase.next at hnext
          split at hnext <;> simp_all [plainAct]
      | decided => exact absurd rfl hdecided
      | _ => rfl
    have hsame : last = phase :=
      next_eq_self hlasts (fun _ henters => by subst henters; cases hplain)
        (fun _ hwrites => by subst hwrites; cases hplain) hnext
    have hprov : Provisioned env (Cycles phase.good) := provisioned_cycles (good_newCycle hlasts)
    have hafter := hprov.kept.act hact hplain (fun _ _ => hprov.replays) ⟨hboth.1.1, hboth.2⟩
    rw [hsame]
    exact ⟨⟨hafter.1, fun hlast => absurd hlast hdecided⟩, hafter.2⟩
  · rw [Bool.not_eq_true] at hplain
    have hwrite : WriteCase env s act after := by
      apply writeCase_of_acts hact hplain
      intro call hcall
      subst hcall
      exact absurd (hasks.symm.trans hplain) (by simp)
    exact ⟨⟨good_writeCase hwrite hdecided hnext hboth.1.1, fun hlast =>
      absurd hlast (next_ne_decided hnext)⟩, scheduled_of_writes hwrite hboth.2⟩

/-- A script leads from phase to phase. -/
theorem holds_plays (hplays : Plays (Acts env) script s after)
    (hasks : script.all asksPlainly = true) (hphases : script.foldlM Phase.next phase = some last)
    (hboth : phase.Holds env s ∧ Scheduled anyCall s) : last.Holds env after := by
  induction hplays generalizing phase with
  | nil =>
      cases hphases
      exact hboth.1
  | cons hact _ ih =>
      rw [List.all_cons, Bool.and_eq_true] at hasks
      rw [List.foldlM_cons, Option.bind_eq_bind, Option.bind_eq_some_iff] at hphases
      obtain ⟨middle, hnext, hrest⟩ := hphases
      exact ih hasks.2 hrest (holds_act hact hasks.1 hnext hboth)

/-- The script ends where a cycle is entered once. -/
def settles (phase : Phase) (script : List SmAct) : Bool :=
  match script.foldlM Phase.next phase with
  | some .still | some .calm => true
  | _ => false

theorem spent_of_settles (hplays : Plays (Acts env) script s after)
    (hasks : script.all asksPlainly = true) (hsettles : settles phase script = true)
    (hboth : phase.Holds env s ∧ Scheduled anyCall s) : spent (cycle after) after.provMode := by
  unfold settles at hsettles
  split at hsettles
  · rename_i hlast
    have hholds : Phase.still.Holds env after := holds_plays hplays hasks hlast hboth
    exact hholds.1
  · rename_i hlast
    have hholds : Phase.calm.Holds env after := holds_plays hplays hasks hlast hboth
    exact hholds.1.1
  · cases hsettles

/-- The phase in which an event is processed. -/
def firstPhase : SmState → SmEvent → Phase
  | .waitForConn, _ => .still
  | .provisioning, .error => .erring
  | _, _ => .calm

theorem settles_process (state : SmState) (event : SmEvent) :
    ∀ script ∈ processScripts state event,
      settles (firstPhase state event) script = true ∨
        (state = .waitForConn ∧ event = .timeout ∧ script.take 2 = startTests ∧
          settles .decided (script.drop 2) = true) := by
  cases state <;> cases event <;> decide +kernel

end Scripts

section Runs

variable {event : SmEvent} {notified : List (List Call)} {posting : List (List FreeCall)}
variable {script : List SmAct} {final : WifiState}

theorem good_handling (hspent : spent (cycle s) s.provMode) :
    (firstPhase s.state event).good (cycle (handling s event notified posting))
      (handling s event notified posting).provMode := by
  have hcycle : cycle (handling s event notified posting) =
      cycleAfter (cycle s) (.processing s.state event) := cycle_append s _
  have hkept : spent (cycleAfter (cycle s) (.processing s.state event)) s.provMode := by
    rcases hspent with herred | hon | honce
    · exact .inl (by simp [cycleAfter, herred])
    · exact .inr (.inl hon)
    · exact .inr (.inr honce)
  rw [hcycle]
  cases hstate : s.state with
  | waitForConn =>
      rw [hstate] at hkept
      exact hkept
  | provisioning =>
      rw [hstate] at hkept
      cases event with
      | error => exact ⟨by simp [cycleAfter], by simp [cycleAfter]⟩
      | _ => exact ⟨hkept, by simp [cycleAfter]⟩
  | _ =>
      rw [hstate] at hkept
      exact ⟨hkept, by simp [cycleAfter]⟩

/-- An event that takes the mode back where it enters, leaves it for one cycle. -/
theorem spent_process (hspent : spent (cycle s) s.provMode)
    (htakes : TakesOneShot env s (.handle notified posting)) (hreceived : s.received = some event)
    (hscript : script ∈ processScripts s.state event)
    (hplays : Plays (Acts env) script (handling s event notified posting) final) :
    spent (cycle final) final.provMode := by
  have hasks := asksPlainly_process s.state event script hscript
  have hallowed := allAllowed_anyCall notified posting
  have hgood : (firstPhase s.state event).good (cycle (handling s event notified posting))
      (handling s event notified posting).provMode := good_handling hspent
  rcases settles_process s.state event script hscript with hsettles | hstarts
  · apply spent_of_settles hplays hasks hsettles
    refine ⟨⟨hgood, fun hdecided => ?_⟩, hallowed⟩
    cases hstate : s.state <;> rw [hstate] at hdecided <;> cases event <;> cases hdecided
  · obtain ⟨hstate, htimeout, htests, hsettles⟩ := hstarts
    subst htimeout
    obtain ⟨hused, hmode, hrest⟩ := startTests_plays htests hplays
    rw [hstate] at hgood
    have hdecided : Phase.decided.Holds env (handling s .timeout notified posting) :=
      ⟨hgood, fun _ => ⟨hmode, htakes hreceived hstate hused⟩⟩
    have hasks' : (script.drop 2).all asksPlainly = true := by
      rw [List.all_eq_true] at hasks ⊢
      exact fun act hact => hasks act (List.mem_of_mem_drop hact)
    exact spent_of_settles hrest hasks' hsettles ⟨hdecided, hallowed⟩

theorem spent_step {act : WifiAct} (hspent : spent (cycle s) s.provMode)
    (htakes : TakesOneShot env s act) (hstep : step env s act = some after) :
    spent (cycle after) after.provMode := by
  have hprov : Provisioned env (Cycles spent) :=
    provisioned_cycles spent_newCycle
  cases stepCase_of_step hstep with
  | call hrun => exact (hprov.runCall _).of_run hrun hspent
  | receive => exact hspent
  | process hreceived _ hscript hplays =>
      have hfinal := spent_process hspent htakes hreceived hscript hplays
      exact hfinal
  | destroy _ hrun =>
      have hfinal := (hprov.leaves leaves_prov_deinit).of_run hrun (hprov.view s _ rfl hspent)
      exact hfinal

/-- In a run in which the external configuration does not start in the mode `ONE_SHOT`, each
call lets the machine enter the provisioning once, unless it is for the mode `ON`. -/
theorem onceUnlessOn_of_takesOneShot (hstarted : Started env s) {acts : List WifiAct}
    (hsteps : StepsSatisfy (step env) (TakesOneShot env) s acts) :
    StatesSatisfy (step env) OnceUnlessOn s acts := by
  have hdeaf (output : Output) (houtput : ofInit env output = true) : ofProv output = false := by
    cases output <;> first | rfl | cases houtput
  obtain ⟨boot, appCBSet, houtputs, hcontext⟩ := hstarted.context hdeaf
  have hcycle : cycle s = newCycle := by
    have hsame : s.outputs.filter ofProv = boot.outputs.filter ofProv :=
      congrArg (·.outputs) hcontext
    rw [cycle_eq, hsame, houtputs]
    rfl
  have hinit : spent (cycle s) s.provMode := by
    rw [hcycle]
    exact spent_newCycle s.provMode
  have hstates := Transition.states_of_steps
    (fun _ _ _ hspent htakes hstep => spent_step hspent htakes hstep) hinit hsteps
  intro before hbefore reached hreached herred hmode
  rcases hstates before hbefore reached hreached with herred' | hon | honce
  · rw [herred] at herred'
    cases herred'
  · exact absurd hon hmode
  · exact honce.1

/-- The external configuration is started for one cycle, times out, and is started again. -/
def configuresTwice : List WifiAct :=
  posted (.enableProvisioning .oneShot obedientNwp.provisioningCmdExternalConfiguration 0) ++
    posted (.free .enable) ++ posted (.free .timerExpires) ++ posted (.free .timerExpires) ++
    posted (.free (.provisioningStatus (.stopped roleAp false))) ++ [.receive, .handle [] []] ++
    posted (.free .timerExpires) ++ posted (.free .timerExpires)

/-- The mode `ONE_SHOT` is not taken back. -/
theorem onceUnlessOn_broken :
    Started obedientNwp (started obedientNwp true false) ∧
      ¬StatesSatisfy (step obedientNwp) OnceUnlessOn (started obedientNwp true false)
        configuresTwice := by
  refine ⟨⟨powerOn, true, false, rfl, rfl⟩, ?_⟩
  apply Transition.not_statesSatisfy_of_any fun s =>
    !(cycle s).erred && s.provMode = .oneShot && (cycle s).entries = 2
  · intro s hfails honce
    simp only [Bool.and_eq_true, Bool.not_eq_true', decide_eq_true_eq] at hfails
    obtain ⟨⟨herred, hmode⟩, htwice⟩ := hfails
    have hmost := honce herred (by simp [hmode])
    omega
  · decide +kernel

/-- The condition, computed. -/
def takesOneShot (env : WifiEnv) (s : WifiState) : WifiAct → Bool
  | .handle _ _ => s.state ≠ .waitForConn || s.provMode ≠ .oneShot ||
      s.provCmd ≠ env.provisioningCmdExternalConfiguration
  | _ => true

theorem takesOneShot_sound (s : WifiState) (act : WifiAct)
    (hcheck : takesOneShot env s act = true) : TakesOneShot env s act := by
  cases act with
  | handle notified posting =>
      intro _ hstate _ hmode hexternal
      simp [takesOneShot, hstate, hmode, hexternal] at hcheck
  | _ => trivial

/-- The NWP provisions for one cycle; the connection timeout after that leads to `IDLE`. -/
theorem onceUnlessOn_provisioned :
    StatesSatisfy (step obedientNwp) OnceUnlessOn (started obedientNwp true false)
      (posted (.enableProvisioning .oneShot 0 0) ++ posted (.free .enable) ++
        posted (.free .timerExpires) ++ posted (.free .timerExpires) ++
        posted (.free (.provisioningStatus (.stopped roleAp false))) ++
        [.receive, .handle [] []] ++ posted (.free .timerExpires) ++
        posted (.free .timerExpires)) :=
  onceUnlessOn_of_takesOneShot ⟨powerOn, true, false, rfl, rfl⟩
    (Transition.stepsSatisfy_of_check (takesOneShot obedientNwp) takesOneShot_sound
      (by decide +kernel))

end Runs

end SimpleLinkHost.WifiOneShot
