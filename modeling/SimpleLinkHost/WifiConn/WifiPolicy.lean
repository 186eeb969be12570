import SimpleLinkHost.WifiConn.WifiCalls
import SimpleLinkHost.WifiConn.WifiRuns

/-!
# The connection policy of the NWP

The NWP connects on its own unless the machine is in `OFF` or `IDLE`.  The policy is set
in front of the change of state, so that a reset of the NWP in between, by a call that
comes with the notification, restores the policy of the old state.  A connection that
is reported in `IDLE` leads on without a change of the policy.
-/

namespace SimpleLinkHost.WifiPolicy

open CallOutcome ProgramInvariant ProgramScript WifiContext WifiApi WifiMachine WifiFrames
open WifiScripts WifiCalls WifiRuns
open Transition (StatesSatisfy StepsSatisfy states_of_steps)

variable {env : WifiEnv} {s after : WifiState} {enabled : Bool}

section Property

def policyAfter (last : Option Byte) : Output → Option Byte
  | .nwp (.connectionPolicySet policy _) => some policy
  | _ => last

/-- The connection policy that was last set; every `sl_WlanPolicySet` is assumed to
succeed. -/
def lastPolicy (s : WifiState) : Option Byte := s.outputs.foldl policyAfter none

/-- The policy is disabled in `OFF` and `IDLE`, and enabled elsewhere. -/
def PolicyFits (s : WifiState) : Prop :=
  lastPolicy s =
    some (if s.state = .off ∨ s.state = .idle then s.disabledPolicy else s.enabledPolicy)

/-- The states in which the NWP connects. -/
def connectsIn (state : SmState) : Bool := state ≠ .off ∧ state ≠ .idle

def PolicyIs (enabled : Bool) (s : WifiState) : Prop :=
  lastPolicy s = some (if enabled then s.enabledPolicy else s.disabledPolicy)

theorem policyFits_iff : PolicyFits s ↔ PolicyIs (connectsIn s.state) s := by
  rw [PolicyFits, PolicyIs, connectsIn]
  cases s.state <;> simp

end Property

section Frame

/-- What the policy, and a change of it, depend on. -/
def policyView (s : WifiState) :=
  (lastPolicy s, (s.disabledPolicy, s.enabledPolicy), s.state, (s.initialized, s.role), s.appCBSet,
    s.notified)

theorem lastPolicy_append {outputs : List Output} {output : Output}
    (houtput : ∀ last, policyAfter last output = last) :
    (outputs ++ [output]).foldl policyAfter none = outputs.foldl policyAfter none := by
  rw [List.foldl_append, List.foldl_cons, List.foldl_nil, houtput]

theorem leaves_policy_emit {output : Output} (houtput : ∀ last, policyAfter last output = last) :
    Leaves policyView (emit output) := by
  apply leaves_modify
  intro s
  simp only [policyView, lastPolicy, lastPolicy_append houtput]

theorem leaves_policy_nwpCall {call : NwpCall}
    (hcall : ∀ last, policyAfter last (.nwp call) = last) : Leaves policyView (nwpCall env call) :=
  leaves_get.bind fun _ => (leaves_policy_emit hcall).bind fun _ => leaves_pure

theorem policyIs_of_view (hview : policyView after = policyView s) (hpolicy : PolicyIs enabled s) :
    PolicyIs enabled after := by
  have hlast : lastPolicy after = lastPolicy s := congrArg (·.1) hview
  have hpolicies : (after.disabledPolicy, after.enabledPolicy) =
      (s.disabledPolicy, s.enabledPolicy) := congrArg (·.2.1) hview
  obtain ⟨hdisabled, henabled⟩ := Prod.mk.inj hpolicies
  rwa [PolicyIs, hlast, hdisabled, henabled]

/-- The acts that do not touch the NWP. -/
def leavesNwp : CallAct → Bool
  | .resets | .setsRole _ => false
  | _ => true

theorem policyView_of_act {act : CallAct} (hact : CallActs env act s after)
    (hleaves : leavesNwp act = true) : policyView after = policyView s := by
  cases hact with
  | configures hview | measures hview =>
      have hpolicy : policyView (configView after) = policyView (configView s) :=
        congrArg policyView hview
      exact hpolicy
  | resets | setsRole => cases hleaves
  | sets | defers | takes => rfl
  | _ => simp [policyView, lastPolicy, policyAfter]

end Frame

section Reset

theorem policyIs_suspend :
    Ensures (suspendNWPPolicy env) s fun _ after => PolicyIs false after := by
  simp [Ensures, suspendNWPPolicy, nwpCall, emit, PolicyIs, lastPolicy, policyAfter]

theorem policyIs_resume :
    Ensures (resumeNWPPolicy env) s fun _ after => PolicyIs true after := by
  simp [Ensures, resumeNWPPolicy, nwpCall, emit, PolicyIs, lastPolicy, policyAfter]

theorem policyIs_restore :
    Ensures (restoreNWPPolicy env) s fun _ after => PolicyIs (connectsIn s.state) after := by
  rw [Ensures, restoreNWPPolicy, ends_bind, ends_get, ends_ite]
  split
  · rename_i hstate
    have hconnects : connectsIn s.state = false := by
      cases hstate with
      | inl hoff => simp [connectsIn, hoff]
      | inr hidle => simp [connectsIn, hidle]
    rw [hconnects]
    exact policyIs_suspend
  · rename_i hstate
    have hconnects : connectsIn s.state = true := by
      simpa [connectsIn] using hstate
    rw [hconnects]
    exact policyIs_resume

theorem state_of_context {α : Type} {program : Sm α} {heard : Output → Bool}
    (hprogram : Leaves (contextView heard) program) : Leaves (·.state) program :=
  hprogram.project (·.state)

theorem policyIs_settle :
    Ensures (settleNWP env) s fun _ after => PolicyIs (connectsIn s.state) after := by
  have hsleep : Leaves (·.state) (emit (.sleep 2)) :=
    state_of_context (contexts (leaves_emit (rfl : deaf _ = false)))
  have hpolicy : Leaves (·.state) (initNWPConnPolicy env) :=
    state_of_context (contexts (leaves_initNWPConnPolicy env deaf_to_reset))
  have hlatency : Leaves (·.state) (nwpCall env .lowLatencyPolicySet) :=
    state_of_context (contexts (leaves_nwpCall env (rfl : deaf _ = false)))
  apply hsleep.ensures.bind
  intro _ slept hslept
  apply hpolicy.ensures.bind
  intro _ inited hinited
  apply hlatency.ensures.bind
  intro _ set hset
  have hstate : set.state = s.state :=
    calc set.state = inited.state := hset
      _ = slept.state := hinited
      _ = s.state := hslept
  rw [← hstate]
  exact policyIs_restore.bind fun _ _ hafter => hafter

/-- A reset of the NWP ends with the policy of the state in which it is made. -/
theorem policyIs_reset :
    Ensures (resetNWP env) s fun _ after => PolicyIs (connectsIn s.state) after := by
  have hstop : Leaves (·.state) (stopNWP env) :=
    state_of_context (contexts (leaves_stopNWP env deaf_to_reset))
  have hstart : Leaves (·.state) (slStart env) :=
    state_of_context (leaves_slStart env deaf_to_reset)
  apply hstop.ensures.bind
  intro _ stopped hstopped
  apply hstart.ensures.bind
  intro retVal started hstarted
  apply ensures_assertThat.bind
  intro _ checked hchecked
  rw [hchecked.2, Ensures, ends_bind, ends_modify, ← hstopped, ← hstarted]
  exact policyIs_settle.bind fun _ _ hafter => hafter

theorem policyIs_resetRole :
    Ensures (resetNWPRole env) s fun _ after => PolicyIs (connectsIn s.state) after :=
  policyIs_reset.bind fun _ _ hafter => hafter

/-- A change of the role resets the NWP, unless it is in the role. -/
theorem policyIs_setRole (role : Byte) :
    Ensures (setRole env role) s fun retVal after => retVal = 0 ∧
      if role ≠ s.role then PolicyIs (connectsIn s.state) after else after = s := by
  rw [Ensures, setRole, ends_bind, ends_get, ends_bind, ends_runIf]
  split
  · rw [slWlanSetMode, ends_bind, ends_bind, emit, ends_modify, ends_modify]
    apply policyIs_resetRole.bind
    intro _ reset hreset
    apply ensures_assertThat.mono
    intro _ checked hchecked
    rw [hchecked.2]
    exact ⟨rfl, hreset⟩
  · exact ⟨rfl, rfl⟩

end Reset

section Calls

/-- The calls that make a reset of the NWP. -/
def asksNwp : Call → Bool
  | .reset | .setRole _ => true
  | _ => false

theorem leaves_policy_call {call : Call} (hcall : asksNwp call = false) :
    Leaves policyView (runCall env call) := by
  have honly : OnlyActs (leavesNwp · = true) (callScripts env call) := by
    refine (onlyActs_call call).mono fun act hact => ?_
    cases act with
    | resets | setsRole =>
        cases call with
        | reset | setRole => cases hcall
        | free call => cases call <;> cases hact
        | _ => cases hact
    | _ => rfl
  intro view
  refine keeps_of_follows ?_ (follows_runCall env call) honly
  exact fun act s s' hstep hleaves hview => (policyView_of_act hstep hleaves).trans hview

/-- The state admits the change, or the policy is the one of the state already. -/
def Settled (enabled : Bool) (state : SmState) : Prop :=
  enabled = connectsIn state ∨ state ≠ .off ∧ state ≠ .extProvisioning

/-- While the policy is settled, no call changes it for good. -/
theorem keeps_policy_call {state : SmState} (hsettled : Settled enabled state) (call : Call) :
    Keeps (fun s => PolicyIs enabled s ∧ s.state = state) (runCall env call) := by
  have hadmits (hstate : state = .off ∨ state = .extProvisioning) :
      enabled = connectsIn state := by
    cases hsettled with
    | inl hfits => exact hfits
    | inr hother =>
        cases hstate with
        | inl hoff => exact absurd hoff hother.1
        | inr hext => exact absurd hext hother.2
  have honly : OnlyActs (fun _ => True) (callScripts env call) := fun _ _ _ _ => trivial
  refine keeps_of_follows ?_ (follows_runCall env call) honly
  intro act s s' hact _ hboth
  obtain ⟨hpolicy, hstate⟩ := hboth
  by_cases hleaves : leavesNwp act = true
  · have hview := policyView_of_act hact hleaves
    exact ⟨policyIs_of_view hview hpolicy, (congrArg (·.2.2.1) hview).trans hstate⟩
  cases hact with
  | resets hoff hrun =>
      have hafter := policyIs_reset.of_run hrun
      have hleaves := (state_of_context (leaves_resetNWP env deaf_to_reset)).of_run hrun
      rw [hstate] at hafter hleaves hoff
      exact ⟨hadmits (.inl hoff) ▸ hafter, hleaves⟩
  | @setsRole role _ _ after hadmitted hrun =>
      have hafter := ((policyIs_setRole role).of_run hrun).2
      have hleaves := (state_of_context (leaves_setRole env deaf_to_reset role)).of_run hrun
      rw [hstate] at hafter hleaves hadmitted
      rw [hadmits hadmitted] at hpolicy ⊢
      refine ⟨?_, hleaves⟩
      have hpolicy' : PolicyIs (connectsIn state) after := by
        split at hafter
        · exact hafter
        · rwa [hafter]
      exact hpolicy'
  | _ => exact absurd rfl hleaves

/-- No call resets the NWP: those that would are not accepted, or ask for the role that
it is in. -/
def keepsRole (state : SmState) (role : Byte) : List Call → Bool
  | [] => true
  | .setRole asked :: rest => asked = role && keepsRole state roleSta rest
  | .reset :: rest => state ≠ .off && keepsRole state role rest
  | _ :: rest => keepsRole state role rest

/-- The policy is not that of the state yet, and none of the calls to come makes it so. -/
def Undisturbed (enabled : Bool) (state : SmState) (calls : List Call) (s : WifiState) : Prop :=
  PolicyIs enabled s ∧ s.state = state ∧
    ∃ role, (s.initialized = true → s.role = role) ∧ keepsRole state role calls = true

theorem undisturbed_setRole {state : SmState} {role : Byte} {rest : List Call}
    (hstate : state = .off ∨ state = .extProvisioning)
    (hundisturbed : Undisturbed enabled state (.setRole role :: rest) s) :
    Ensures (runCall env (.setRole role)) s fun _ after =>
      Undisturbed enabled state rest after := by
  obtain ⟨hpolicy, hin, recorded, hrecorded, hquiet⟩ := hundisturbed
  rw [keepsRole, Bool.and_eq_true, decide_eq_true_eq] at hquiet
  obtain ⟨hasked, hrest⟩ := hquiet
  rw [Ensures, runCall, ignoreRet, ends_bind, slWifiConnSetRole, ends_bind, ends_get, ends_ite]
  split
  · rename_i hnone
    refine ⟨hpolicy, hin, roleSta, fun hinitialized => ?_, hrest⟩
    rw [hinitialized] at hnone
    cases hnone
  · rename_i hinitialized
    rw [hin, if_pos hstate]
    have hrole : role = s.role := by
      rw [hasked, hrecorded (by simpa using hinitialized)]
    rw [ends_bind]
    apply (policyIs_setRole role).mono
    intro retVal after hafter
    obtain ⟨hzero, hsame⟩ := hafter
    rw [if_neg (not_not.mpr hrole)] at hsame
    rw [hzero, hsame]
    exact ⟨hpolicy, hin, roleSta, fun _ => rfl, hrest⟩

theorem undisturbed_reset {state : SmState} {rest : List Call}
    (hundisturbed : Undisturbed enabled state (.reset :: rest) s) :
    Ensures (runCall env .reset) s fun _ after => Undisturbed enabled state rest after := by
  obtain ⟨hpolicy, hin, recorded, hrecorded, hquiet⟩ := hundisturbed
  rw [keepsRole, Bool.and_eq_true, decide_eq_true_eq] at hquiet
  have hkept : Undisturbed enabled state rest s := ⟨hpolicy, hin, recorded, hrecorded, hquiet.2⟩
  rw [Ensures, runCall, ignoreRet, ends_bind, slWifiConnReset, ends_bind, ends_get, ends_ite]
  split
  · exact hkept
  · rw [hin, if_neg hquiet.1]
    exact hkept

theorem undisturbed_call {state : SmState} {call : Call} {rest : List Call}
    (hstate : state = .off ∨ state = .extProvisioning)
    (hundisturbed : Undisturbed enabled state (call :: rest) s) :
    Ensures (runCall env call) s fun _ after => Undisturbed enabled state rest after := by
  by_cases hasks : asksNwp call = true
  · cases call with
    | setRole role => exact undisturbed_setRole hstate hundisturbed
    | reset => exact undisturbed_reset hundisturbed
    | _ => cases hasks
  · rw [Bool.not_eq_true] at hasks
    obtain ⟨hpolicy, hin, recorded, hrecorded, hquiet⟩ := hundisturbed
    apply (leaves_policy_call hasks).ensures.mono
    intro _ after hview
    have hrole : (after.initialized, after.role) = (s.initialized, s.role) :=
      congrArg (·.2.2.2.1) hview
    obtain ⟨hinitialized, hrole⟩ := Prod.mk.inj hrole
    refine ⟨policyIs_of_view hview hpolicy, (congrArg (·.2.2.1) hview).trans hin, recorded, ?_, ?_⟩
    · rw [hinitialized, hrole]
      exact hrecorded
    · cases call with
      | setRole | reset => cases hasks
      | _ => exact hquiet

theorem undisturbed_calls {state : SmState} {calls : List Call}
    (hstate : state = .off ∨ state = .extProvisioning)
    (hundisturbed : Undisturbed enabled state calls s) :
    Ensures (runCalls env calls) s fun _ after => PolicyIs enabled after := by
  induction calls generalizing s with
  | nil => exact hundisturbed.1
  | cons call rest ih =>
      exact (undisturbed_call hstate hundisturbed).bind fun _ _ hafter => ih hafter

end Calls

section Acts

/-- What is known of the policy: the state, the policy that was set, and whether the
calls of the next notification to the application leave the role. -/
def PolicySeen (seen : SmState × Option Bool × Bool) (s : WifiState) : Prop :=
  s.state = seen.1 ∧ (∀ enabled, seen.2.1 = some enabled → PolicyIs enabled s) ∧
    (seen.2.2 = true → s.appCBSet = true →
      keepsRole s.state s.role (s.notified.headD []) = true)

/-- What a notification leaves of it. -/
def heldPolicy (seen : SmState × Option Bool × Bool) (quiet : Bool) : Option Bool :=
  if seen.2.1 = some (connectsIn seen.1) ∨ (seen.1 ≠ .off ∧ seen.1 ≠ .extProvisioning) ∨
      quiet = true then seen.2.1
  else none

def followPolicy (seen : SmState × Option Bool × Bool) : SmAct → SmState × Option Bool × Bool
  | .suspends => (seen.1, some false, seen.2.2)
  | .resumes => (seen.1, some true, seen.2.2)
  | .resets | .resetsRole => (seen.1, some (connectsIn seen.1), false)
  | .setsRole => (seen.1, if seen.2.1 = some (connectsIn seen.1) then seen.2.1 else none, false)
  | .tells _ => (seen.1, heldPolicy seen false, false)
  | .informs _ | .informsStarted | .informsStats => (seen.1, heldPolicy seen seen.2.2, false)
  | .enters state => (state, seen.2.1, false)
  | .asks (.connectionPolicySet _ _) => (seen.1, none, false)
  | _ => seen

variable {seen : SmState × Option Bool × Bool}

theorem policySeen_of_view (hview : policyView after = policyView s) (hseen : PolicySeen seen s) :
    PolicySeen seen after := by
  have hrole : (after.initialized, after.role) = (s.initialized, s.role) :=
    congrArg (·.2.2.2.1) hview
  have hcalls : (after.appCBSet, after.notified) = (s.appCBSet, s.notified) :=
    congrArg (·.2.2.2.2) hview
  have hstate : after.state = s.state := congrArg (·.2.2.1) hview
  obtain ⟨-, hrole⟩ := Prod.mk.inj hrole
  obtain ⟨hset, hnotified⟩ := Prod.mk.inj hcalls
  refine ⟨hstate.trans hseen.1, ?_, ?_⟩
  · exact fun enabled henabled => policyIs_of_view hview (hseen.2.1 enabled henabled)
  · rw [hstate, hrole, hset, hnotified]
    exact hseen.2.2

theorem keeps_policy_calls {state : SmState} (hsettled : Settled enabled state)
    (calls : List Call) :
    Keeps (fun s => PolicyIs enabled s ∧ s.state = state) (runCalls env calls) := by
  induction calls with
  | nil => exact keeps_pure
  | cons call calls ih => exact (keeps_policy_call hsettled call).bind fun _ => ih

/-- The calls that come with a notification leave the policy, if the state does not admit
their changes or they make none. -/
theorem policyIs_letOthersCall (hpolicy : PolicyIs enabled s)
    (hheld : Settled enabled s.state ∨ keepsRole s.state s.role (s.notified.headD []) = true) :
    Ensures (letOthersCall env) s fun _ after => PolicyIs enabled after := by
  rw [Ensures, letOthersCall, ends_bind, ends_get]
  cases hcalls : s.notified with
  | nil => exact hpolicy
  | cons calls rest =>
      rw [ends_bind, ends_modify]
      by_cases hsettled : Settled enabled s.state
      · have hstart : PolicyIs enabled { s with notified := rest } ∧
            ({ s with notified := rest } : WifiState).state = s.state := ⟨hpolicy, rfl⟩
        apply Ends.mono (keeps_policy_calls hsettled calls _ hstart)
        · exact fun _ _ hafter => hafter.1
        · exact fun _ _ _ => trivial
      · have hquiet : keepsRole s.state s.role calls = true := by
          rw [hcalls] at hheld
          exact hheld.resolve_left hsettled
        have hadmits : s.state = .off ∨ s.state = .extProvisioning := by
          by_contra hother
          exact hsettled (.inr (not_or.mp hother))
        exact undisturbed_calls hadmits ⟨hpolicy, rfl, s.role, fun _ => rfl, hquiet⟩

theorem policyIs_notify {set : Bool} {output : Output}
    (houtput : ∀ last, policyAfter last output = last) (hpolicy : PolicyIs enabled s)
    (hheld : Settled enabled s.state ∨
      (set = true → keepsRole s.state s.role (s.notified.headD []) = true)) :
    Ensures (runIf set (do
      emit output
      letOthersCall env)) s fun _ after => PolicyIs enabled after := by
  rw [Ensures, ends_runIf]
  split
  · rename_i hset
    rw [emit, ends_bind, ends_modify]
    apply policyIs_letOthersCall
    · rwa [PolicyIs, lastPolicy, lastPolicy_append houtput]
    · exact hheld.imp_right fun hquiet => hquiet hset
  · exact hpolicy

theorem settled_of_held {quiet : Bool} (hheld : heldPolicy seen quiet = some enabled) :
    seen.2.1 = some enabled ∧ (Settled enabled seen.1 ∨ quiet = true) := by
  rw [heldPolicy] at hheld
  split at hheld
  · rename_i hcases
    refine ⟨hheld, ?_⟩
    rw [Settled]
    cases hcases with
    | inl hfits =>
        rw [hheld, Option.some.injEq] at hfits
        exact .inl (.inl hfits)
    | inr hother =>
        cases hother with
        | inl hadmits => exact .inl (.inr hadmits)
        | inr hquiet => exact .inr hquiet
  · cases hheld

/-- A notification leaves what is held. -/
theorem policySeen_notifyNetIf {event : NetIfEvent} (hseen : PolicySeen seen s)
    (hrun : (notifyNetIf env event).run s = .ok () after)
    (hheld : heldPolicy seen false = some enabled) : PolicyIs enabled after := by
  obtain ⟨hpolicy, hsettled⟩ := settled_of_held hheld
  have hnotify : Ensures (notifyNetIf env event) s fun _ after => PolicyIs enabled after := by
    rw [Ensures, notifyNetIf, ends_bind, ends_get]
    apply policyIs_notify (fun _ => rfl) (hseen.2.1 enabled hpolicy)
    rw [hseen.1]
    exact hsettled.imp_right fun hquiet => by cases hquiet
  exact hnotify.of_run hrun

theorem policySeen_notifyWifiApp {event : WifiConnEvent} (hseen : PolicySeen seen s)
    (hrun : (notifyWifiApp env event).run s = .ok () after)
    (hheld : heldPolicy seen seen.2.2 = some enabled) : PolicyIs enabled after := by
  obtain ⟨hpolicy, hsettled⟩ := settled_of_held hheld
  have hnotify : Ensures (notifyWifiApp env event) s fun _ after => PolicyIs enabled after := by
    rw [Ensures, notifyWifiApp, ends_bind, ends_get]
    apply policyIs_notify (fun _ => rfl) (hseen.2.1 enabled hpolicy)
    cases hsettled with
    | inl hsettled => exact .inl (hseen.1 ▸ hsettled)
    | inr hquiet => exact .inr (hseen.2.2 hquiet)
  exact hnotify.of_run hrun

theorem leaves_policy_letOthersPost : Leaves policyView (letOthersPost env) := by
  intro view
  apply keeps_letOthersPost
  · intro s _ calls _ call _
    exact leaves_policy_call (rfl : asksNwp (.free call) = false) view
  · exact fun s calls rest hview _ => hview

theorem leaves_policy_drains : Leaves policyView (deferredEventProcess env) := by
  intro view
  refine keeps_deferredEventProcess (replays_of_acts ?_) (leaves_policy_letOthersPost view)
  intro act s s' hact hreplay hview
  apply (policyView_of_act hact _).trans hview
  cases act with
  | resets | setsRole => cases hreplay
  | _ => rfl

theorem leaves_policy_timer (duration : ℕ) : Leaves policyView (startAsyncEvtTimer duration) :=
  (leaves_policy_emit fun _ => rfl).bind fun _ => leaves_modify fun _ => rfl

theorem leaves_policy_write (write : Write) :
    Leaves policyView (modify write.apply : Sm PUnit) :=
  leaves_modify (Write.frame policyView (fun _ _ _ _ _ _ _ => rfl) write)

theorem policySeen_of_leaves {α : Type} {program : Sm α} {value : α}
    (hprogram : Leaves policyView program) (hrun : program.run s = .ok value after)
    (hseen : PolicySeen seen s) : PolicySeen seen after :=
  policySeen_of_view (hprogram.of_run hrun) hseen

/-- What a command of the policy leaves as it is. -/
theorem quiet_of_leaves {α : Type} {program : Sm α} {value : α}
    (hprogram : Leaves (nwpView deaf) program) (hrun : program.run s = .ok value after)
    (hseen : PolicySeen seen s) :
    after.state = seen.1 ∧ (seen.2.2 = true → after.appCBSet = true →
      keepsRole after.state after.role (after.notified.headD []) = true) := by
  have hview := hprogram.of_run hrun
  have hstate : after.state = s.state := congrArg (·.1.state) hview
  have hset : after.appCBSet = s.appCBSet := congrArg (·.1.appCBSet) hview
  have hnotified : after.notified = s.notified := congrArg (·.1.notified) hview
  have hrole : after.role = s.role := congrArg (·.2.1) hview
  refine ⟨hstate.trans hseen.1, ?_⟩
  rw [hstate, hset, hnotified, hrole]
  exact hseen.2.2

/-- A program that leaves the state and ends with one policy. -/
theorem policySeen_of_ensures {α : Type} {program : Sm α} {value : α} {policy : Option Bool}
    (hprogram : Leaves (contextView deaf) program) (hrun : program.run s = .ok value after)
    (hseen : PolicySeen seen s)
    (hpolicy : ∀ enabled, policy = some enabled → PolicyIs enabled after) :
    PolicySeen (seen.1, policy, false) after :=
  ⟨((state_of_context hprogram).of_run hrun).trans hseen.1, hpolicy, fun hquiet => by cases hquiet⟩

/-- Every act leaves the policy that is computed for it. -/
theorem policySeen_act {act : SmAct} (hact : Acts env act s after) (hseen : PolicySeen seen s) :
    PolicySeen (followPolicy seen act) after := by
  have hnothing {P : Prop} (hfalse : false = true) : P := by cases hfalse
  have hstate : after.state = leadsTo s.state act := by
    obtain ⟨said, -, hspeaks⟩ := acts_speak hact
    exact congrArg (·.2.1) hspeaks
  cases hact with
  | tells hrun =>
      exact ⟨hstate.trans hseen.1, fun _ hheld => policySeen_notifyNetIf hseen hrun hheld, hnothing⟩
  | informs hrun | informsStarted hrun | informsStats hrun =>
      exact ⟨hstate.trans hseen.1, fun _ hheld => policySeen_notifyWifiApp hseen hrun hheld,
        hnothing⟩
  | enters hrun =>
      injection hrun with _ hafter
      subst hafter
      refine ⟨rfl, fun enabled henabled => ?_, hnothing⟩
      have hpolicy := hseen.2.1 enabled henabled
      rwa [PolicyIs, lastPolicy, lastPolicy_append fun _ => rfl]
  | @defers event _ _ hrun =>
      have hleaves : Leaves policyView (deferredEventEnqueue event none) :=
        leaves_get.bind fun _ => leaves_ite (leaves_modify fun _ => rfl) leaves_throw
      exact policySeen_of_leaves hleaves hrun hseen
  | drains hrun => exact policySeen_of_leaves leaves_policy_drains hrun hseen
  | arms hrun => exact policySeen_of_leaves (leaves_policy_timer _) hrun hseen
  | disarms hrun => exact policySeen_of_leaves (leaves_policy_timer 0) hrun hseen
  | @asks call retVal _ _ hplain hrun =>
      cases call with
      | connectionPolicySet =>
          refine ⟨hstate.trans hseen.1, fun enabled henabled => ?_, hnothing⟩
          cases henabled
      | _ => exact policySeen_of_leaves (leaves_policy_nwpCall fun _ => rfl) hrun hseen
  | connects hrun | setsApSsid hrun | setsApSecType hrun | setsApPassword hrun
  | startsProvisioning _ hrun | stopsProvisioning hrun =>
      exact policySeen_of_leaves (leaves_policy_nwpCall fun _ => rfl) hrun hseen
  | sleeps hrun => exact policySeen_of_leaves (leaves_policy_emit fun _ => rfl) hrun hseen
  | @writes write _ => exact policySeen_of_leaves (leaves_policy_write write) rfl hseen
  | finds => exact hseen
  | resets hrun =>
      apply policySeen_of_ensures (leaves_resetNWP env deaf_to_reset) hrun hseen
      intro enabled henabled
      rw [Option.some.injEq] at henabled
      rw [← henabled, ← hseen.1]
      exact policyIs_reset.of_run hrun
  | resetsRole hrun =>
      apply policySeen_of_ensures (leaves_resetNWPRole env deaf_to_reset) hrun hseen
      intro enabled henabled
      rw [Option.some.injEq] at henabled
      rw [← henabled, ← hseen.1]
      exact policyIs_resetRole.of_run hrun
  | setsRole hrun =>
      apply policySeen_of_ensures (leaves_setRole env deaf_to_reset roleSta) hrun hseen
      intro enabled henabled
      split at henabled
      · rename_i hfits
        have hpolicy := hseen.2.1 _ henabled
        rw [hfits, Option.some.injEq, ← hseen.1] at henabled
        have hset := ((policyIs_setRole roleSta).of_run hrun).2
        split at hset
        · exact henabled ▸ hset
        · exact hset ▸ hpolicy
      · cases henabled
  | suspends hrun =>
      obtain ⟨hin, hquiet⟩ := quiet_of_leaves (leaves_suspendNWPPolicy env deaf_to_reset) hrun hseen
      refine ⟨hin, fun enabled henabled => ?_, hquiet⟩
      rw [← Option.some.inj henabled]
      exact policyIs_suspend.of_run hrun
  | resumes hrun =>
      obtain ⟨hin, hquiet⟩ := quiet_of_leaves (leaves_resumeNWPPolicy env deaf_to_reset) hrun hseen
      refine ⟨hin, fun enabled henabled => ?_, hquiet⟩
      rw [← Option.some.inj henabled]
      exact policyIs_resume.of_run hrun

end Acts

section Runs

/-- The events that are notified of before the change of a state in which the role can be
changed. -/
def asksQuiet : SmState → SmEvent → Bool
  | .off, .enable | .extProvisioning, .disable => true
  | _, _ => false

/-- Every transition sets the policy of the state that it leads to, except the one to
`WAIT_FOR_IP` out of `IDLE`. -/
theorem policy_process {state : SmState} {event : SmEvent}
    (hsets : ¬(state = .idle ∧ event = .connected)) :
    ∀ script ∈ processScripts state event, fitsLink state script = true →
      (script.foldl followPolicy (state, some (connectsIn state), asksQuiet state event)).2.1 =
        some (connectsIn (script.foldl leadsTo state)) := by
  revert hsets
  cases state <;> cases event <;> decide +kernel

/-- CONNECTED is not processed in `IDLE`, and no call resets the NWP during the
notification of an ENABLE in `OFF` or a DISABLE in `EXT_PROVISIONING`. -/
def PolicyChanges (s : WifiState) : WifiAct → Prop
  | .handle notified _ => ∀ event, s.received = some event →
      ¬(s.state = .idle ∧ event = .connected) ∧
        (asksQuiet s.state event = true → s.appCBSet = true →
          keepsRole s.state s.role (notified.headD []) = true)
  | _ => True

theorem followPolicy_fst (script : List SmAct) (seen : SmState × Option Bool × Bool) :
    (script.foldl followPolicy seen).1 = script.foldl leadsTo seen.1 := by
  induction script generalizing seen with
  | nil => rfl
  | cons act rest ih =>
      rw [List.foldl_cons, List.foldl_cons, ih]
      congr 1
      cases act with
      | asks call => cases call <;> rfl
      | _ => rfl

/-- Processing an event keeps the policy that of the state. -/
theorem policyIs_process {event : SmEvent} {notified : List (List Call)}
    {posting : List (List FreeCall)} {script : List SmAct} {final : WifiState}
    (hreceived : s.received = some event) (hcondition : PolicyChanges s (.handle notified posting))
    (hscript : script ∈ processScripts s.state event)
    (hplays : Plays (Acts env) script (handling s event notified posting) final)
    (hpolicy : PolicyIs (connectsIn s.state) s) : PolicyIs (connectsIn final.state) final := by
  obtain ⟨hsets, hquiet⟩ := hcondition event hreceived
  have hstart : PolicySeen (s.state, some (connectsIn s.state), asksQuiet s.state event)
      (handling s event notified posting) := by
    refine ⟨rfl, fun enabled henabled => ?_, hquiet⟩
    rw [← Option.some.inj henabled, PolicyIs, lastPolicy, handling, lastPolicy_append fun _ => rfl]
    exact hpolicy
  have hseen := hplays.tracks (fun seen act s s' => policySeen_act) hstart
  have hfits := plays_fitsLink hplays
  rw [hseen.1, followPolicy_fst]
  exact hseen.2.1 _ (policy_process hsets script hscript hfits)

/-- `SlWifiConn_init` ends with the policy of `OFF`. -/
theorem Started.policy (hstarted : Started env s) : PolicyIs (connectsIn s.state) s := by
  rw [hstarted.off]
  obtain ⟨boot, appCBSet, deleteProfiles, -, hinit⟩ := hstarted
  have hends : Ensures (slWifiConnInit env appCBSet deleteProfiles) boot fun ret after =>
      ret = .value 0 → PolicyIs false after := by
    rw [Ensures, slWifiConnInit, ends_bind, ends_get, ends_ite]
    split
    · intro hret
      cases hret
    rw [ends_bind, ends_modify]
    apply ensures_run.bind
    intro started first _
    apply ensures_run.bind
    intro retVal inited _
    apply ensures_run.bind
    intro _ deleted _
    have hsettled : Ensures (settleInit env) deleted fun _ after => PolicyIs false after := by
      rw [settleInit]
      apply ensures_run.bind
      intro count counted _
      rw [Ensures, ends_bind, ends_modify]
      apply ensures_run.bind
      intro _ latent _
      rw [Ensures, ends_bind, ends_modify]
      exact policyIs_suspend.bind fun _ _ hafter => hafter
    apply hsettled.bind
    intro _ settled hpolicy
    rw [Ensures, ends_bind, ends_runIf]
    split
    · rename_i hnegative
      apply Ends.mono (ensures_run : Ensures (deinit env) settled _) _ fun _ _ htrue => htrue
      intro _ _ _ hret
      injection hret with hzero
      omega
    · exact fun _ => hpolicy
  exact hends.of_run hinit rfl

/-- In every run in which the transitions set the policy, undisturbed by other calls, it
is that of the state at each boundary between events. -/
theorem policyFits_of_policyChanges (hstarted : Started env s) {acts : List WifiAct}
    (hsteps : StepsSatisfy (step env) PolicyChanges s acts) :
    StatesSatisfy (step env) PolicyFits s acts := by
  apply states_of_steps _ (policyFits_iff.mpr (Started.policy hstarted)) hsteps
  intro s act next hfits hcondition hstep
  rw [policyFits_iff] at hfits ⊢
  cases stepCase_of_step hstep with
  | @call call _ hrun =>
      have hsettled : Settled (connectsIn s.state) s.state := .inl rfl
      have hkept := (keeps_policy_call hsettled call).of_run hrun ⟨hfits, rfl⟩
      rw [hkept.2]
      exact hkept.1
  | receive _ _ => exact hfits
  | @process _ _ _ _ final hreceived _ hscript hplays =>
      have hpolicy : PolicyIs (connectsIn final.state) final :=
        policyIs_process hreceived hcondition hscript hplays hfits
      exact hpolicy
  | @destroy notified posting final _ hrun =>
      injection hrun with _ hfinal
      subst hfinal
      have hlast (outputs : List Output) : (outputs ++ [Output.nwp .unregisterHandlers] ++
          [Output.nwp .stop]).foldl policyAfter none = outputs.foldl policyAfter none := by
        rw [lastPolicy_append fun _ => rfl, lastPolicy_append fun _ => rfl]
      rw [PolicyIs, lastPolicy] at hfits ⊢
      exact (hlast s.outputs).trans hfits

/-- A connection that is late for the connection timeout leads on with the policy still
disabled. -/
theorem policyFits_broken :
    Started obedientNwp (started obedientNwp true false) ∧
      ¬StatesSatisfy (step obedientNwp) PolicyFits (started obedientNwp true false)
        (posted (.free .enable) ++ posted (.free .timerExpires) ++
          posted (.free (.wlanConnect []))) := by
  refine ⟨⟨powerOn, true, false, rfl, rfl⟩, ?_⟩
  apply Transition.not_statesSatisfy_of_any fun s =>
    !decide (lastPolicy s =
      some (if s.state = .off ∨ s.state = .idle then s.disabledPolicy else s.enabledPolicy))
  · intro s hfails hfits
    rw [PolicyFits] at hfits
    simp [hfits] at hfails
  · decide +kernel

/-- The condition, computed. -/
def policyChanges (s : WifiState) : WifiAct → Bool
  | .handle notified _ => s.received.all fun event =>
      !(s.state = .idle && event = .connected) &&
        (!asksQuiet s.state event || !s.appCBSet ||
          keepsRole s.state s.role (notified.headD []))
  | _ => true

theorem policyChanges_sound (s : WifiState) (act : WifiAct)
    (hcheck : policyChanges s act = true) : PolicyChanges s act := by
  cases act with
  | handle notified posting =>
      intro event hreceived
      simp only [policyChanges, hreceived, Option.all_some, Bool.and_eq_true] at hcheck
      refine ⟨fun hboth => ?_, fun hquiet hset => ?_⟩
      · simp [hboth] at hcheck
      · simpa [hquiet, hset] using hcheck.2
  | _ => trivial

/-- A connection timeout, a profile that is added, a connection and a reset of the NWP. -/
theorem policyFits_again :
    StatesSatisfy (step obedientNwp) PolicyFits (started obedientNwp true false)
      (posted (.free .enable) ++ posted (.free .timerExpires) ++ posted (.free .timerExpires) ++
        posted (.free (.wlanConnect [])) ++ posted (.free (.netApp .ipv4Acquired)) ++
        posted (.free .requestReset)) :=
  policyFits_of_policyChanges ⟨powerOn, true, false, rfl, rfl⟩
    (Transition.stepsSatisfy_of_check policyChanges policyChanges_sound (by decide +kernel))

end Runs

end SimpleLinkHost.WifiPolicy
