import SimpleLinkHost.WifiConn.WifiRuns

/-!
# The recorded role

Every reset of the NWP records the role that it starts in, so that `g_ctx->role` and
the role of the NWP agree after it.  `SlWifiConn_setRole` then overwrites the record
with the result of `SetRole`, which is always zero, and the deletion of the profiles
in `SlWifiConn_init` leaves the NWP in another role than the recorded one.
-/

namespace SimpleLinkHost.WifiRole

open CallOutcome ProgramInvariant ProgramScript WifiContext WifiApi WifiMachine WifiFrames
open WifiScripts WifiRuns
open Transition (StatesSatisfy StepsSatisfy states_of_steps)

/-- The recorded role is the one that the NWP runs in. -/
def InRole (s : WifiState) : Prop := s.initialized → s.role = s.nwp.role

/-- A call that does not ask for a role other than `ROLE_STA`. -/
def KeepsSta : Call → Prop
  | .setRole role => role = roleSta
  | _ => True

/-- The roles agree, and go on doing so during the notifications of the running
handler. -/
def RoleInv (s : WifiState) : Prop :=
  s.role = s.nwp.role ∧ ∀ calls ∈ s.notified, ∀ call ∈ calls, KeepsSta call

variable {env : WifiEnv} {s : WifiState}

theorem keeps_of_roleView {α : Type} {program : Sm α} (hprogram : Leaves roleView program) :
    Keeps RoleInv program := by
  intro before hinv
  apply hprogram.ensures.mono
  intro _ after hafter
  have hrole : after.role = before.role := congrArg (·.2.1) hafter
  have hnwp : after.nwp = before.nwp := congrArg (·.2.2) hafter
  have hnotified : after.notified = before.notified := congrArg (·.1.2.2.2.1) hafter
  rwa [RoleInv, hrole, hnwp, hnotified]

theorem keeps_quiet {α : Type} {program : Sm α} (hprogram : Leaves quietView program) :
    Keeps RoleInv program :=
  keeps_of_roleView (quiet_role hprogram)

/-- A change of fields that the invariant does not mention. -/
theorem keeps_change {change : WifiState → WifiState}
    (hchange : ∀ s, ((change s).role, (change s).nwp, (change s).notified) =
      (s.role, s.nwp, s.notified)) : Keeps RoleInv (modify change : Sm PUnit) := by
  apply keeps_modify
  intro s hs
  have hview := hchange s
  simp only [Prod.mk.injEq] at hview
  rwa [RoleInv, hview.1, hview.2.1, hview.2.2]

theorem leaves_notified {α : Type} {program : Sm α} (hprogram : Leaves resetView program) :
    Leaves (·.notified) program :=
  hprogram.project fun view => view.1.2.2.2.1

/-- A program that ends with the roles in agreement and leaves what others will do. -/
theorem keeps_of_synced {α : Type} {program : Sm α} (hprogram : Leaves resetView program)
    (hsynced : ∀ s, s.role = s.nwp.role →
      Ensures program s fun _ after => after.role = after.nwp.role) :
    Keeps RoleInv program := by
  intro before hinv
  apply ((hsynced before hinv.1).and (leaves_notified hprogram).ensures).mono
  intro _ after hafter
  exact ⟨hafter.1, hafter.2 ▸ hinv.2⟩

theorem keeps_nwp {α : Type} {program : Sm α} (hprogram : Leaves (nwpView deaf) program) :
    Keeps RoleInv program := by
  intro before hinv
  apply hprogram.ensures.mono
  intro _ after hafter
  have hrole : after.role = before.role := congrArg (·.2.1) hafter
  have hnwp : after.nwp = before.nwp := congrArg (·.2.2) hafter
  have hnotified : after.notified = before.notified := congrArg (·.1.notified) hafter
  rwa [RoleInv, hrole, hnwp, hnotified]

/-- Commands to the NWP leave the roles. -/
theorem roles_of_nwp {α : Type} {heard : Output → Bool} {program : Sm α}
    (hprogram : Leaves (nwpView heard) program) : Leaves (fun s => (s.role, s.nwp)) program :=
  hprogram.project Prod.snd

theorem roles_nwpCall (call : NwpCall) : Leaves (fun s => (s.role, s.nwp)) (nwpCall env call) :=
  roles_of_nwp (leaves_nwpCall env (rfl : deaf _ = false))

theorem keeps_ignoreRet {program : Sm ApiRet} (hprogram : Keeps RoleInv program) :
    Keeps RoleInv (ignoreRet program) :=
  hprogram.bind fun _ => keeps_pure

/-- The states in which `SlWifiConn_setRole` is accepted. -/
def acceptsRole (s : WifiState) : Bool :=
  s.initialized && (s.state = .off || s.state = .extProvisioning)

theorem ofInt_toNat (role : Byte) : BitVec.ofInt 8 role.toNat = role := by simp

section Reset

variable (hstarts : ∀ place, env.startError place = none)

include hstarts

theorem ensures_slStart :
    Ensures (slStart env) s fun retVal after => retVal = s.nwp.mode.toNat ∧
      after.nwp = ⟨s.nwp.mode, s.nwp.mode⟩ ∧ after.role = s.role := by
  simp only [Ensures, slStart, ends_bind, ends_get, emit, ends_modify, hstarts]
  exact ⟨rfl, rfl, rfl⟩

/-- A reset starts the stored role, records it and returns it. -/
theorem ensures_resetNWP :
    Ensures (resetNWP env) s fun retVal after => retVal = s.nwp.mode.toNat ∧
      after.role = s.nwp.mode ∧ after.nwp = ⟨s.nwp.mode, s.nwp.mode⟩ := by
  have hstop : Leaves (fun s => (s.role, s.nwp)) (stopNWP env) :=
    roles_of_nwp (leaves_stopNWP env deaf_to_reset)
  have hsettle : Leaves (fun s => (s.role, s.nwp)) (settleNWP env) :=
    roles_of_nwp (leaves_settleNWP env deaf_to_reset)
  apply hstop.ensures.bind
  intro _ stopped hstopped
  apply (ensures_slStart hstarts).bind
  intro retVal started hstarted
  obtain ⟨hretVal, hnwp, -⟩ := hstarted
  have hmode : stopped.nwp.mode = s.nwp.mode := congrArg (·.2.mode) hstopped
  rw [hmode] at hretVal hnwp
  apply ensures_assertThat.bind
  intro _ checked hchecked
  rw [hchecked.2]
  rw [Ensures, ends_bind, ends_modify]
  apply hsettle.ensures.bind
  intro _ settled hsettled
  obtain ⟨hrole, hsettledNwp⟩ := Prod.mk.inj hsettled
  refine ⟨hretVal, ?_, hsettledNwp.trans hnwp⟩
  rw [hrole, hretVal]
  exact ofInt_toNat _

theorem ensures_resetNWPRole :
    Ensures (resetNWPRole env) s fun retVal after => retVal = s.nwp.mode ∧
      after.role = s.nwp.mode ∧ after.nwp = ⟨s.nwp.mode, s.nwp.mode⟩ := by
  apply (ensures_resetNWP hstarts).bind
  intro retVal reset hreset
  rw [hreset.1, ofInt_toNat, Ensures, ends_bind, ends_modify]
  exact ⟨rfl, rfl, hreset.2.2⟩

/-- `SetRole` makes the NWP run in the role, and its result does not say which. -/
theorem ensures_setRole (role : Byte) (hrole : s.role = s.nwp.role) :
    Ensures (setRole env role) s fun retVal after =>
      retVal = 0 ∧ after.role = role ∧ after.nwp.role = role ∧
        (after.nwp = ⟨role, role⟩ ∨ after = s) := by
  rw [Ensures, setRole, ends_bind, ends_get, ends_bind, ends_runIf]
  split
  · rw [slWlanSetMode, ends_bind, ends_bind, emit, ends_modify, ends_modify]
    apply (ensures_resetNWPRole hstarts).bind
    intro stored reset hreset
    obtain ⟨-, hresetRole, hnwp⟩ := hreset
    apply ensures_assertThat.mono
    intro _ checked hchecked
    rw [hchecked.2]
    exact ⟨rfl, hresetRole, by rw [hnwp], .inl hnwp⟩
  · rename_i hsame
    rw [not_not] at hsame
    exact ⟨rfl, hsame.symm, by rw [← hrole, hsame], .inr rfl⟩

theorem keeps_resetNWP : Keeps RoleInv (resetNWP env) := by
  apply keeps_of_synced (resets_of_context (leaves_resetNWP env ofMachine_of_reset))
  intro s _
  apply (ensures_resetNWP hstarts).mono
  intro _ after hafter
  rw [hafter.2.1, hafter.2.2]

theorem keeps_resetNWPRole : Keeps RoleInv (resetNWPRole env) := by
  apply keeps_of_synced (resets_of_context (leaves_resetNWPRole env ofMachine_of_reset))
  intro s _
  apply (ensures_resetNWPRole hstarts).mono
  intro _ after hafter
  rw [hafter.2.1, hafter.2.2]

theorem keeps_setRole (role : Byte) : Keeps RoleInv (setRole env role) := by
  apply keeps_of_synced (resets_of_context (leaves_setRole env ofMachine_of_reset role))
  intro s hrole
  apply (ensures_setRole hstarts role hrole).mono
  intro _ after hafter
  rw [hafter.2.1, hafter.2.2.1]

/-- An accepted `SlWifiConn_setRole` records `ROLE_STA`, whatever role the NWP runs in
then. -/
theorem ensures_slWifiConnSetRole (role : Byte) (hrole : s.role = s.nwp.role) :
    Ensures (slWifiConnSetRole env role) s fun _ after =>
      if acceptsRole s then after.role = roleSta ∧ after.nwp.role = role else after = s := by
  rw [Ensures, slWifiConnSetRole, ends_bind, ends_get, ends_ite]
  by_cases hinitialized : s.initialized
  · rw [if_neg (by simp [hinitialized]), ends_ite]
    by_cases hstate : s.state = .off ∨ s.state = .extProvisioning
    · have haccepts : acceptsRole s = true := by simpa [acceptsRole, hinitialized] using hstate
      simp only [haccepts, if_true, if_pos hstate]
      apply (ensures_setRole hstarts role hrole).bind
      intro retVal changed hchanged
      rw [hchanged.1, Ensures, ends_bind, ends_modify]
      exact ⟨rfl, hchanged.2.2.1⟩
    · have haccepts : ¬acceptsRole s = true := by simpa [acceptsRole, hinitialized] using hstate
      simp only [haccepts, if_neg hstate]
      rfl
  · have haccepts : ¬acceptsRole s = true := by simp [acceptsRole, hinitialized]
    rw [if_pos (by simpa using hinitialized)]
    simp only [haccepts]
    rfl

theorem keeps_slWifiConnSetRole : Keeps RoleInv (slWifiConnSetRole env roleSta) := by
  apply keeps_of_synced (leaves_slWifiConnSetRole env roleSta)
  intro s hrole
  apply (ensures_slWifiConnSetRole hstarts roleSta hrole).mono
  intro _ after hafter
  split at hafter
  · rw [hafter.1, hafter.2]
  · rw [hafter, hrole]

/-- Every call keeps the roles in agreement, unless it sets another role than
`ROLE_STA`. -/
theorem keeps_runCall {call : Call} (hcall : KeepsSta call) : Keeps RoleInv (runCall env call) := by
  cases call with
  | free call => exact keeps_quiet (leaves_runFreeCall env call)
  | enableProvisioning mode command flags =>
      exact keeps_ignoreRet
        (keeps_quiet (leaves_slWifiConnEnableProvisioning env mode command flags))
  | addProfile call =>
      exact keeps_ignoreRet (keeps_of_roleView (leaves_slWifiConnAddProfile env call))
  | setRole role =>
      rw [hcall]
      exact keeps_ignoreRet (keeps_slWifiConnSetRole hstarts)
  | reset =>
      apply keeps_ignoreRet
      apply keeps_get.bind
      intro s
      apply keeps_ite keeps_pure
      apply keeps_ite
      · exact (keeps_resetNWP hstarts).bind fun _ => keeps_pure
      · exact keeps_pure
  | enableStats interval =>
      exact keeps_runIf (keeps_ignoreRet (keeps_quiet (leaves_slWifiConnEnableStats interval)))
  | disableStats => exact keeps_runIf (keeps_ignoreRet (keeps_quiet leaves_slWifiConnDisableStats))

theorem keeps_runCalls {calls : List Call} (hcalls : ∀ call ∈ calls, KeepsSta call) :
    Keeps RoleInv (runCalls env calls) := by
  induction calls with
  | nil => exact keeps_pure
  | cons call calls ih =>
      apply (keeps_runCall hstarts (hcalls call List.mem_cons_self)).bind
      exact fun _ => ih fun other hother => hcalls other (List.mem_cons_of_mem call hother)

theorem keeps_letOthersCall : Keeps RoleInv (letOthersCall env) := by
  intro before hinv
  rw [Ensures, letOthersCall, ends_bind, ends_get]
  cases hnotified : before.notified with
  | nil => exact hinv
  | cons calls rest =>
      rw [RoleInv, hnotified] at hinv
      rw [ends_bind, ends_modify]
      apply keeps_runCalls hstarts (hinv.2 calls List.mem_cons_self)
      exact ⟨hinv.1, fun other hother => hinv.2 other (List.mem_cons_of_mem calls hother)⟩

end Reset

section Acts

variable (hstarts : ∀ place, env.startError place = none)

theorem keeps_deferredEventProcess : Keeps RoleInv (deferredEventProcess env) := by
  intro before hinv
  apply leaves_deferredEventProcess.ensures.mono
  intro _ after hafter
  have hrole : after.role = before.role := congrArg (·.2.2.2.1) hafter
  have hnwp : after.nwp = before.nwp := congrArg (·.2.2.2.2) hafter
  have hnotified : after.notified = before.notified := congrArg (·.2.2.1) hafter
  rwa [RoleInv, hrole, hnwp, hnotified]

theorem keeps_setState (state : SmState) : Keeps RoleInv (setState state) :=
  Keeps.bind (keeps_change fun _ => rfl) fun _ => keeps_change fun _ => rfl

/-- The bookkeeping of the handlers does not touch the role. -/
theorem write_role (write : Write) (s : WifiState) :
    ((write.apply s).role, (write.apply s).nwp, (write.apply s).notified) =
      (s.role, s.nwp, s.notified) :=
  Write.frame (fun s => (s.role, s.nwp, s.notified)) (fun _ _ _ _ _ _ _ => rfl) write s

include hstarts

theorem keeps_notifyNetIf (event : NetIfEvent) : Keeps RoleInv (notifyNetIf env event) :=
  keeps_get.bind fun _ => keeps_runIf
    (Keeps.bind (keeps_change fun _ => rfl) fun _ => keeps_letOthersCall hstarts)

theorem keeps_notifyWifiApp (event : WifiConnEvent) : Keeps RoleInv (notifyWifiApp env event) :=
  keeps_get.bind fun _ => keeps_runIf
    (Keeps.bind (keeps_change fun _ => rfl) fun _ => keeps_letOthersCall hstarts)

/-- Every act of the state machine keeps the roles in agreement. -/
theorem role_acts {act : SmAct} {after : WifiState} (hact : Acts env act s after)
    (hinv : RoleInv s) : RoleInv after := by
  cases hact with
  | tells hrun => exact (keeps_notifyNetIf hstarts _).of_run hrun hinv
  | informs hrun | informsStarted hrun | informsStats hrun =>
      exact (keeps_notifyWifiApp hstarts _).of_run hrun hinv
  | enters hrun => exact (keeps_setState _).of_run hrun hinv
  | defers hrun => exact (keeps_of_roleView (leaves_deferredEventEnqueue _ _)).of_run hrun hinv
  | drains hrun => exact keeps_deferredEventProcess.of_run hrun hinv
  | arms hrun | disarms hrun =>
      exact (keeps_quiet (leaves_startAsyncEvtTimer _)).of_run hrun hinv
  | asks _ hrun | connects hrun | setsApSsid hrun | setsApSecType hrun | setsApPassword hrun
  | startsProvisioning _ hrun | stopsProvisioning hrun =>
      exact (keeps_nwp (leaves_nwpCall env rfl)).of_run hrun hinv
  | resets hrun => exact (keeps_resetNWP hstarts).of_run hrun hinv
  | resetsRole hrun => exact (keeps_resetNWPRole hstarts).of_run hrun hinv
  | setsRole hrun => exact (keeps_setRole hstarts _).of_run hrun hinv
  | suspends hrun => exact (keeps_nwp (leaves_suspendNWPPolicy env deaf_to_reset)).of_run hrun hinv
  | resumes hrun => exact (keeps_nwp (leaves_resumeNWPPolicy env deaf_to_reset)).of_run hrun hinv
  | sleeps hrun => exact (keeps_nwp (leaves_emit rfl)).of_run hrun hinv
  | @writes write => exact keeps_change (write_role write) s hinv
  | finds => exact hinv

end Acts

section Init

variable (hstarts : ∀ place, env.startError place = none)

include hstarts

/-- The first start of the NWP ends in the station role. -/
theorem ensures_initRole (hmode : s.nwp.mode = s.nwp.role) :
    Ensures (initRole env s.nwp.role.toNat) s fun retVal after =>
      retVal = 0 → after.role = roleSta ∧ after.nwp = ⟨roleSta, roleSta⟩ := by
  have hstarted : (s.nwp.role.toNat : ℤ) ≠ env.provisioningInProgress := by
    have hneg := env.provisioningInProgress_neg
    omega
  rw [initRole, if_neg hstarted, Ensures, ends_bind, ends_modify]
  apply (roles_of_nwp (leaves_initNWPConnPolicy env deaf_to_reset)).ensures.bind
  intro retVal inited hinited
  rw [ofInt_toNat] at hinited
  have hrole : inited.role = s.nwp.role := congrArg Prod.fst hinited
  have hnwp : inited.nwp = ⟨inited.role, inited.role⟩ :=
    calc inited.nwp = ⟨s.nwp.mode, s.nwp.role⟩ := congrArg Prod.snd hinited
      _ = ⟨inited.role, inited.role⟩ := by rw [hmode, hrole]
  rw [Ensures, ends_bind, ends_get, ends_bind, ends_runIf]
  split
  · have hagree : inited.role = inited.nwp.role := by rw [hnwp]
    rw [ends_bind]
    apply (ensures_setRole hstarts roleSta hagree).mono
    intro _ final hfinal
    obtain ⟨-, hfinalRole, -, hfinalNwp | hsame⟩ := hfinal
    · exact fun _ => ⟨hfinalRole, hfinalNwp⟩
    · subst hsame
      exact fun _ => ⟨hfinalRole, by rw [hnwp, hfinalRole]⟩
  · rename_i hunswitched
    intro hzero
    have hsta : inited.role = roleSta := by
      by_contra hother
      exact hunswitched ⟨hzero, hother⟩
    exact ⟨hsta, by rw [hnwp, hsta]⟩

/-- The NWP is started in the access point role, whatever role is recorded. -/
theorem ensures_startInApRole (hmode : s.nwp.mode = s.nwp.role) :
    Ensures (startInApRole env s.nwp.role.toNat) s fun retVal after =>
      retVal = roleAp.toNat ∧ after.role = s.role ∧ after.nwp.mode = roleAp := by
  rw [startInApRole, Ensures, ends_ite]
  split
  · rename_i hap
    have hnwpRole : s.nwp.role = roleAp := BitVec.eq_of_toNat_eq (Int.ofNat.inj hap)
    exact ⟨hap, rfl, hmode.trans hnwpRole⟩
  · rw [ends_bind, slWlanSetMode, ends_bind, emit, ends_modify, ends_modify]
    apply (roles_nwpCall _).ensures.bind
    intro _ stopped hstopped
    have hstoppedRole : stopped.role = s.role := congrArg Prod.fst hstopped
    have hstoppedMode : stopped.nwp.mode = roleAp := congrArg (·.2.mode) hstopped
    rw [Ensures, ends_bind, emit, ends_modify]
    apply (ensures_slStart hstarts).mono
    intro retVal started hafter
    obtain ⟨hretVal, hnwp, hrole⟩ := hafter
    refine ⟨?_, hrole.trans hstoppedRole, ?_⟩
    · rw [hretVal, hstoppedMode]
    · rw [hnwp]
      exact hstoppedMode

/-- The deletion of the profiles ends in the access point role, whatever is recorded. -/
theorem ensures_resetNWPProfileForProvisioning :
    Ensures (resetNWPProfileForProvisioning env) s fun _ after =>
      after.role = s.role ∧ after.nwp.mode = roleAp := by
  apply (roles_nwpCall _).ensures.bind
  intro _ stopped hstopped
  have hstoppedRole : stopped.role = s.role := congrArg Prod.fst hstopped
  rw [Ensures, ends_bind, emit, ends_modify]
  apply (ensures_slStart hstarts).bind
  intro started restarted hrestarted
  obtain ⟨hstarted, hnwp, hrole⟩ := hrestarted
  have hnonneg : 0 ≤ started := by omega
  rw [Ensures, ends_runIf, if_pos hnonneg, ends_bind]
  have hstartedRole : started = restarted.nwp.role.toNat := by rw [hstarted, hnwp]
  rw [hstartedRole]
  apply Ends.mono (ensures_startInApRole hstarts (by rw [hnwp])) _ fun _ _ htrue => htrue
  intro retVal inAp hinAp
  obtain ⟨hretVal, hinApRole, hinApMode⟩ := hinAp
  rw [ends_runIf, if_pos hretVal]
  apply (roles_of_nwp (leaves_deleteProfilesInApRole env ofRun_of_init)).ensures.mono
  intro _ deleted hdeleted
  have hdeletedRole : deleted.role = inAp.role := congrArg Prod.fst hdeleted
  have hdeletedMode : deleted.nwp.mode = inAp.nwp.mode := congrArg (·.2.mode) hdeleted
  refine ⟨?_, hdeletedMode.trans hinApMode⟩
  calc deleted.role = inAp.role := hdeletedRole
    _ = restarted.role := hinApRole
    _ = stopped.role := hrole
    _ = s.role := hstoppedRole

/-- A module that has started agrees with the NWP on the role, unless profiles were
deleted. -/
theorem ensures_slWifiConnInit (appCBSet deleteProfiles : Bool) :
    Ensures (slWifiConnInit env appCBSet deleteProfiles) s fun ret after =>
      ret = .value 0 →
        after.role = roleSta ∧ after.nwp.role = if deleteProfiles then roleAp else roleSta := by
  rw [Ensures, slWifiConnInit, ends_bind, ends_get, ends_ite]
  split
  · intro hret
    cases hret
  rw [ends_bind, ends_modify]
  apply (ensures_slStart hstarts).bind
  intro started first hfirst
  obtain ⟨hstarted, hfirstNwp, -⟩ := hfirst
  have hstartedRole : started = first.nwp.role.toNat := by rw [hstarted, hfirstNwp]
  rw [hstartedRole]
  apply (ensures_initRole hstarts (by rw [hfirstNwp])).bind
  intro retVal inited hinited
  have hdelete : Ensures (runIf deleteProfiles (do
        resetNWPProfileForProvisioning env
        let _ ← slStart env)) inited fun _ after =>
      after.role = inited.role ∧
        after.nwp.role = if deleteProfiles then roleAp else inited.nwp.role := by
    rw [Ensures, ends_runIf]
    split
    · rename_i hdeletes
      apply (ensures_resetNWPProfileForProvisioning hstarts).bind
      intro _ deleted hdeleted
      apply (ensures_slStart hstarts).bind
      intro _ final hfinal
      exact ⟨hfinal.2.2.trans hdeleted.1, by rw [hfinal.2.1, hdeleted.2]⟩
    · exact ⟨rfl, rfl⟩
  apply hdelete.bind
  intro _ deleted hdeleted
  apply (roles_of_nwp (leaves_settleInit env ofRun_of_init)).ensures.bind
  intro _ settled hsettled
  have hrole : settled.role = deleted.role := congrArg Prod.fst hsettled
  have hnwp : settled.nwp = deleted.nwp := congrArg Prod.snd hsettled
  rw [Ensures, ends_bind, ends_runIf]
  split
  · rename_i hnegative
    apply Ends.mono (ensures_run : Ensures (deinit env) settled _) _ fun _ _ htrue => htrue
    intro _ _ _ hret
    injection hret with hzero
    omega
  · intro hret
    injection hret with hzero
    obtain ⟨hinitedRole, hinitedNwp⟩ := hinited hzero
    rw [hrole, hnwp, hdeleted.1, hdeleted.2, hinitedRole, hinitedNwp]
    exact ⟨rfl, rfl⟩

end Init

section Runs

/-- Calls that others make during the notifications of a handler. -/
def NotifiedKeepSta : WifiAct → Prop
  | .handle notified _ => ∀ calls ∈ notified, ∀ call ∈ calls, KeepsSta call
  | _ => True

/-- Every accepted `SlWifiConn_setRole` asks for the role that the NWP runs in from
the start. -/
def AsksSta (s : WifiState) : WifiAct → Prop
  | .call (.setRole role) => acceptsRole s → role = roleSta
  | act => NotifiedKeepSta act

/-- The roles agree between the steps of the system. -/
def RoleRest (s : WifiState) : Prop := s.role = s.nwp.role ∧ s.notified = []

theorem RoleRest.inv (hrest : RoleRest s) : RoleInv s := by
  refine ⟨hrest.1, ?_⟩
  rw [hrest.2]
  exact fun _ hcalls => absurd hcalls List.not_mem_nil

theorem role_call {call : Call} {after : WifiState}
    (hstarts : ∀ place, env.startError place = none) (hrest : RoleRest s)
    (hasks : AsksSta s (.call call)) (hrun : (runCall env call).run s = .ok () after) :
    RoleRest after := by
  have hview : machineView after = machineView s := (leaves_runCall env call).of_run hrun
  have hnotified : after.notified = s.notified := congrArg (·.2.2.2.1) hview
  refine ⟨?_, hnotified.trans hrest.2⟩
  have hkeeps (hcall : KeepsSta call) : after.role = after.nwp.role :=
    ((keeps_runCall hstarts hcall).of_run hrun hrest.inv).1
  cases call with
  | setRole role =>
      by_cases haccepts : acceptsRole s
      · exact hkeeps (hasks haccepts)
      · have hset : Ensures (runCall env (.setRole role)) s fun _ final => final = s := by
          apply (ensures_slWifiConnSetRole hstarts role hrest.1).bind
          intro _ final hfinal
          rwa [if_neg haccepts] at hfinal
        rw [hset.of_run hrun]
        exact hrest.1
  | _ => exact hkeeps trivial

theorem role_step {act : WifiAct} {after : WifiState}
    (hstarts : ∀ place, env.startError place = none) (hrest : RoleRest s)
    (hasks : AsksSta s act) (hstep : step env s act = some after) : RoleRest after := by
  cases stepCase_of_step hstep with
  | call hrun => exact role_call hstarts hrest hasks hrun
  | receive _ _ => exact hrest
  | process _ _ _ hplays =>
      have hinv := hplays.keeps (fun _ _ _ _ => role_acts hstarts) ⟨hrest.1, hasks⟩
      exact ⟨hinv.1, rfl⟩
  | destroy _ hrun =>
      have hdeinit : Leaves (fun s => (s.role, s.nwp)) (deinit env) := by
        refine Leaves.bind (leaves_modify fun _ => rfl) fun _ => ?_
        exact (roles_nwpCall _).bind fun _ => leaves_modify fun _ => rfl
      have hroles := hdeinit.of_run hrun
      simp only [Prod.mk.injEq] at hroles
      constructor
      · calc _ = s.role := hroles.1
          _ = s.nwp.role := hrest.1
          _ = _ := congrArg Nwp.role hroles.2.symm
      · rfl

/-- A call that sets another role leaves the roles apart. -/
theorem asksSta_of_inRole {role : Byte} {after : WifiState}
    (hstarts : ∀ place, env.startError place = none) (hbefore : InRole s) (hafter : InRole after)
    (hstep : step env s (.call (.setRole role)) = some after) (haccepts : acceptsRole s) :
    role = roleSta := by
  have hinitialized : s.initialized = true := by
    rw [acceptsRole, Bool.and_eq_true] at haccepts
    exact haccepts.1
  have hrun := completed_eq_some.mp hstep
  have hset : Ensures (runCall env (.setRole role)) s fun _ final =>
      final.role = roleSta ∧ final.nwp.role = role := by
    apply (ensures_slWifiConnSetRole hstarts role (hbefore hinitialized)).bind
    intro _ final hfinal
    rwa [if_pos haccepts] at hfinal
  obtain ⟨hrole, hnwp⟩ := hset.of_run hrun
  have hview : machineView after = machineView s := (leaves_runCall env _).of_run hrun
  have hstays : after.initialized = s.initialized := congrArg (·.1.1) hview
  rw [← hnwp, ← hafter (hstays.trans hinitialized), hrole]

/-- The recorded role is that of the NWP in every state of a run that starts without
deleting profiles and in which only `ROLE_STA` is set.  As far as the notifications of
the handlers set no other role, these are the only such runs. -/
theorem inRole_iff {boot : WifiState} {appCBSet deleteProfiles : Bool}
    (hstarts : ∀ place, env.startError place = none)
    (hinit : (slWifiConnInit env appCBSet deleteProfiles).run boot = .ok (.value 0) s)
    (acts : List WifiAct) :
    (deleteProfiles = false → StepsSatisfy (step env) AsksSta s acts →
        StatesSatisfy (step env) InRole s acts) ∧
      ((∀ act ∈ acts, NotifiedKeepSta act) → StatesSatisfy (step env) InRole s acts →
        deleteProfiles = false ∧ StepsSatisfy (step env) AsksSta s acts) := by
  have hcontext :=
    (WifiFrames.ensures_slWifiConnInit env ofRun_of_init appCBSet deleteProfiles).of_run hinit rfl
  have hnotified : s.notified = [] := congrArg (·.notified) hcontext
  have hinitialized : s.initialized = true := congrArg (·.initialized) hcontext
  obtain ⟨hrole, hnwp⟩ :=
    (ensures_slWifiConnInit hstarts appCBSet deleteProfiles).of_run hinit rfl
  constructor
  · intro hkeepsProfiles hsteps
    have hrest : RoleRest s := ⟨by rw [hrole, hnwp, hkeepsProfiles]; rfl, hnotified⟩
    have hstates := states_of_steps (fun _ _ _ => role_step hstarts) hrest hsteps
    exact fun before hbefore reached hreached _ => (hstates before hbefore reached hreached).1
  · intro hkeep hstates
    constructor
    · have hstart := hstates [] List.nil_prefix s rfl hinitialized
      rw [hrole, hnwp] at hstart
      cases deleteProfiles with
      | false => rfl
      | true => cases hstart
    · intro before act hprefix reached next hreached hnext
      have hbefore : before <+: acts := (List.prefix_append before [act]).trans hprefix
      have hact : act ∈ acts :=
        List.IsPrefix.subset hprefix (List.mem_append_right before List.mem_cons_self)
      have hinRole := hstates before hbefore reached hreached
      have hinRole' := hstates _ hprefix next (by rw [Transition.run_concat, hreached]; exact hnext)
      cases act with
      | call call =>
          cases call with
          | setRole role => exact asksSta_of_inRole hstarts hinRole hinRole' hnext
          | _ => trivial
      | receive => trivial
      | handle notified posting => exact hkeep _ hact

/-- One accepted `SlWifiConn_setRole`, or the deletion of the profiles at the start, sets
the record and the NWP apart. -/
theorem inRole_broken :
    (slWifiConnInit obedientNwp false false).run powerOn =
        .ok (.value 0) (started obedientNwp false false) ∧
      ¬StatesSatisfy (step obedientNwp) InRole (started obedientNwp false false)
        [.call (.setRole roleAp)] ∧
      (slWifiConnInit obedientNwp false true).run powerOn =
        .ok (.value 0) (started obedientNwp false true) ∧
      ¬InRole (started obedientNwp false true) := by
  refine ⟨rfl, fun hstates => ?_, rfl, fun hinRole => ?_⟩
  · have hroles : roleSta = roleAp := hstates _ (List.prefix_refl _) _ rfl rfl
    cases hroles
  · have hroles : roleSta = roleAp := hinRole rfl
    cases hroles

/-- A start without deleting profiles, a reset and a role that does not change. -/
theorem inRole_iff_reset :
    StatesSatisfy (step obedientNwp) InRole (started obedientNwp false false)
      [.call .reset, .call (.setRole roleSta)] := by
  have hkeeps : ∀ act ∈ ([.call .reset, .call (.setRole roleSta)] : List WifiAct),
      ∀ s, AsksSta s act := by
    intro act hact s
    simp only [List.mem_cons, List.not_mem_nil, or_false] at hact
    cases hact with
    | inl hreset => exact hreset ▸ trivial
    | inr hset => exact hset ▸ fun _ => rfl
  have hinit : (slWifiConnInit obedientNwp false false).run powerOn =
      .ok (.value 0) (started obedientNwp false false) := rfl
  apply (inRole_iff (fun _ => rfl) hinit _).1 rfl
  intro before act hprefix reached _ _ _
  have hact := List.IsPrefix.subset hprefix (List.mem_append_right before List.mem_cons_self)
  exact hkeeps act hact reached

end Runs

end SimpleLinkHost.WifiRole
