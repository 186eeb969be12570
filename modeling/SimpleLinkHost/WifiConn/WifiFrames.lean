import SimpleLinkHost.WifiConn.WifiMachine

/-!
# What calls leave as it is

No call of another thread moves the state machine.  Only two kinds of calls change
anything else that its handlers depend on: those that reset the NWP may change the
role, and an added profile may be deferred.
-/

namespace SimpleLinkHost.WifiFrames

open CallOutcome ProgramInvariant WifiContext WifiApi WifiMachine

/-- What only the state machine says: the rest of the outputs other threads may cause. -/
def ofMachine : Output → Bool
  | .nwp .start | .nwp .stop | .nwp (.setMode _) | .nwp .policyGet
  | .nwp (.connectionPolicySet _ _) | .nwp .lowLatencyPolicySet | .nwp (.profileAdd _ _)
  | .sleep _ | .timer _ | .expired | .posted _ | .freed _ => false
  | _ => true

/-- What `SlWifiConn_init` does not say. -/
def ofRun (env : WifiEnv) : Output → Bool
  | .nwp (.provisioning cmd _ _ _ _) => cmd ≠ env.provisioningCmdStop
  | .nwp _ | .sleep _ | .timer _ | .expired | .posted _ | .freed _ => false
  | _ => true

/-- What a reset of the NWP says. -/
def ofReset : Output → Bool
  | .nwp .start | .nwp .stop | .nwp (.setMode _) | .nwp .policyGet
  | .nwp (.connectionPolicySet _ _) | .nwp .lowLatencyPolicySet | .sleep _ => true
  | _ => false

/-- A listener that hears nothing. -/
def deaf (_ : Output) : Bool := false

theorem deaf_to_reset (output : Output) (_ : ofReset output = true) : deaf output = false := rfl

/-- A reset only calls the NWP, or sleeps. -/
theorem kind_of_reset {output : Output} (houtput : ofReset output = true) :
    (∃ call, output = .nwp call) ∨ ∃ seconds, output = .sleep seconds := by
  cases output with
  | nwp call => exact .inl ⟨call, rfl⟩
  | sleep seconds => exact .inr ⟨seconds, rfl⟩
  | _ => cases houtput

theorem ofMachine_of_reset (output : Output) (houtput : ofReset output = true) :
    ofMachine output = false := by
  obtain ⟨call, rfl⟩ | ⟨seconds, rfl⟩ := kind_of_reset houtput
  · cases call <;> first | rfl | cases houtput
  · rfl

/-- The part of the state that only the state machine changes. -/
def machineView (s : WifiState) :
    (Bool × Bool × Bool) × SmState × Option SmEvent × List (List Call) ×
      List (List FreeCall) × List Output :=
  ((s.initialized, s.netIfCBSet, s.appCBSet), s.state, s.received, s.notified, s.posting,
    s.outputs.filter ofMachine)

/-- This part, the role and the NWP, and the deferred events. -/
def quietView (s : WifiState) :=
  (machineView s, (s.role, s.nwp), s.deferredEventQ)

/-- What a reset of the NWP leaves. -/
def resetView (s : WifiState) := (machineView s, s.deferredEventQ)

/-- Everything but what a reset of the NWP writes, to a listener of some outputs. -/
def contextView (heard : Output → Bool) (s : WifiState) : WifiState :=
  { s with
    role := 0
    disabledPolicy := 0
    enabledPolicy := 0
    fatalErrorCount := 0
    recoveryDelayLevel := 0
    profileCount := 0
    nwp := ⟨0, 0⟩
    outputs := s.outputs.filter heard }

/-- Everything but what a command to the NWP writes. -/
def nwpView (heard : Output → Bool) (s : WifiState) := (contextView heard s, (s.role, s.nwp))

variable (env : WifiEnv)

section Nwp

variable {heard : Output → Bool}

theorem leaves_emit {output : Output} (houtput : heard output = false) :
    Leaves (nwpView heard) (emit output) := by
  apply leaves_modify
  intro s
  simp [nwpView, contextView, houtput]

theorem leaves_nwpCall {call : NwpCall} (hcall : heard (.nwp call) = false) :
    Leaves (nwpView heard) (nwpCall env call) :=
  leaves_get.bind fun _ => (leaves_emit hcall).bind fun _ => leaves_pure

theorem leaves_assertThat {View : Type} {view : WifiState → View} {cond : Prop} [Decidable cond] :
    Leaves view (assertThat cond) :=
  leaves_runIf leaves_throw

theorem ensures_assertThat {s : WifiState} {cond : Prop} [Decidable cond] :
    Ensures (assertThat cond) s fun _ after => cond ∧ after = s := by
  rw [Ensures, assertThat, ends_runIf]
  split
  · trivial
  · rename_i hcond
    exact ⟨not_not.mp hcond, rfl⟩

theorem quiets {α : Type} {program : Sm α} (hprogram : Leaves (nwpView ofMachine) program) :
    Leaves quietView program :=
  hprogram.project fun view =>
    (((view.1.initialized, view.1.netIfCBSet, view.1.appCBSet), view.1.state, view.1.received,
      view.1.notified, view.1.posting, view.1.outputs), view.2, view.1.deferredEventQ)

theorem contexts {α : Type} {program : Sm α} (hprogram : Leaves (nwpView heard) program) :
    Leaves (contextView heard) program :=
  hprogram.project Prod.fst

theorem resets_of_context {α : Type} {program : Sm α}
    (hprogram : Leaves (contextView ofMachine) program) : Leaves resetView program :=
  hprogram.project fun view =>
    (((view.initialized, view.netIfCBSet, view.appCBSet), view.state, view.received,
      view.notified, view.posting, view.outputs),
      view.deferredEventQ)

section Heard

variable (hheard : ∀ output, ofReset output = true → heard output = false)

include hheard

theorem leaves_initNWPConnPolicy : Leaves (nwpView heard) (initNWPConnPolicy env) := by
  apply leaves_get.bind
  intro s
  apply (leaves_nwpCall env (hheard _ rfl)).bind
  intro retVal
  exact Leaves.bind (leaves_runIf (leaves_modify fun _ => rfl)) fun _ => leaves_pure

theorem leaves_suspendNWPPolicy : Leaves (nwpView heard) (suspendNWPPolicy env) :=
  leaves_get.bind fun _ => leaves_nwpCall env (hheard _ rfl)

theorem leaves_resumeNWPPolicy : Leaves (nwpView heard) (resumeNWPPolicy env) :=
  leaves_get.bind fun _ => leaves_nwpCall env (hheard _ rfl)

theorem leaves_restoreNWPPolicy : Leaves (nwpView heard) (restoreNWPPolicy env) :=
  leaves_get.bind fun _ => leaves_ite (leaves_suspendNWPPolicy env hheard)
    (leaves_resumeNWPPolicy env hheard)

theorem leaves_stopNWP : Leaves (nwpView heard) (stopNWP env) := by
  refine Leaves.bind (leaves_modify fun _ => rfl) ?_
  intro _
  apply leaves_get.bind
  intro s
  apply (leaves_nwpCall env (hheard _ rfl)).bind
  exact fun _ => leaves_assertThat.bind fun _ => leaves_emit (hheard _ rfl)

theorem leaves_settleNWP : Leaves (nwpView heard) (settleNWP env) := by
  apply (leaves_emit (hheard _ rfl)).bind
  intro _
  apply (leaves_initNWPConnPolicy env hheard).bind
  intro _
  apply (leaves_nwpCall env (hheard _ rfl)).bind
  exact fun _ => (leaves_restoreNWPPolicy env hheard).bind fun _ => leaves_pure

theorem leaves_slStart : Leaves (contextView heard) (slStart env) := by
  apply leaves_get.bind
  intro s
  apply (contexts (leaves_emit (hheard _ rfl))).bind
  intro _
  split
  · exact leaves_pure
  · exact Leaves.bind (leaves_modify fun _ => rfl) fun _ => leaves_pure

theorem leaves_slWlanSetMode (mode : Byte) : Leaves (contextView heard) (slWlanSetMode mode) :=
  (contexts (leaves_emit (hheard _ rfl))).bind fun _ => leaves_modify fun _ => rfl

theorem leaves_resetNWP : Leaves (contextView heard) (resetNWP env) := by
  apply (contexts (leaves_stopNWP env hheard)).bind
  intro _
  apply (leaves_slStart env hheard).bind
  intro retVal
  apply leaves_assertThat.bind
  intro _
  refine Leaves.bind (leaves_modify fun _ => rfl) ?_
  exact fun _ => (contexts (leaves_settleNWP env hheard)).bind fun _ => leaves_pure

theorem leaves_resetNWPRole : Leaves (contextView heard) (resetNWPRole env) := by
  apply (leaves_resetNWP env hheard).bind
  exact fun _ => Leaves.bind (leaves_modify fun _ => rfl) fun _ => leaves_pure

theorem leaves_setRole (role : Byte) : Leaves (contextView heard) (setRole env role) := by
  apply leaves_get.bind
  intro s
  apply Leaves.bind
  · apply leaves_runIf
    apply (leaves_slWlanSetMode hheard role).bind
    exact fun _ => (leaves_resetNWPRole env hheard).bind fun _ => leaves_assertThat
  · exact fun _ => leaves_pure

end Heard

end Nwp

section Init

variable {env}

theorem ofRun_of_others (output : Output) (houtput : ofMachine output = false) :
    ofRun env output = false := by
  cases output with
  | nwp call => cases call <;> first | rfl | cases houtput
  | _ => first | rfl | cases houtput

/-- What `SlWifiConn_init` says. -/
def ofInit (env : WifiEnv) : Output → Bool
  | .nwp (.provisioning cmd _ _ _ _) => cmd = env.provisioningCmdStop
  | .nwp (.profileAdd _ _) => false
  | .nwp _ | .sleep _ => true
  | _ => false

theorem ofInit_of_reset (output : Output) (houtput : ofReset output = true) :
    ofInit env output = true := by
  obtain ⟨call, rfl⟩ | ⟨seconds, rfl⟩ := kind_of_reset houtput
  · cases call <;> first | rfl | cases houtput
  · rfl

theorem ofRun_of_init (output : Output) (houtput : ofInit env output = true) :
    ofRun env output = false := by
  cases output with
  | nwp call =>
      cases call with
      | provisioning => simpa [ofInit, ofRun] using houtput
      | _ => rfl
  | sleep => rfl
  | _ => cases houtput

variable (env)
variable {heard : Output → Bool} (hinit : ∀ output, ofInit env output = true → heard output = false)

include hinit

theorem deaf_of_init (output : Output) (houtput : ofReset output = true) : heard output = false :=
  hinit output (ofInit_of_reset output houtput)

theorem leaves_countProfiles (count : ℕ) :
    Leaves (nwpView heard) (countProfiles env count) := by
  induction count with
  | zero => exact leaves_pure
  | succ count ih =>
      exact ih.bind fun _ => (leaves_nwpCall env (hinit _ rfl)).bind fun _ => leaves_pure

theorem leaves_initRole (started : ℤ) : Leaves (contextView heard) (initRole env started) := by
  apply leaves_ite
  · apply Leaves.bind
    · apply (contexts (leaves_nwpCall env (hinit _ (by simp [ofInit])))).bind
      exact fun _ => leaves_ite (contexts (leaves_initNWPConnPolicy env (deaf_of_init env hinit)))
        leaves_pure
    · exact fun _ => Leaves.bind (leaves_modify fun _ => rfl) fun _ => leaves_pure
  · refine Leaves.bind (leaves_modify fun _ => rfl) fun _ => ?_
    apply (contexts (leaves_initNWPConnPolicy env (deaf_of_init env hinit))).bind
    intro retVal
    apply leaves_get.bind
    intro s
    refine Leaves.bind (leaves_runIf ?_) fun _ => leaves_pure
    exact (leaves_setRole env (deaf_of_init env hinit) roleSta).bind fun _ => leaves_pure

theorem leaves_deleteProfilesInApRole :
    Leaves (nwpView heard) (deleteProfilesInApRole env) := by
  apply (leaves_nwpCall env (hinit _ rfl)).bind
  intro _
  apply (leaves_nwpCall env (hinit _ rfl)).bind
  intro _
  exact (leaves_nwpCall env (hinit _ rfl)).bind fun _ => leaves_emit (hinit _ rfl)

theorem leaves_startInApRole (started : ℤ) :
    Leaves (contextView heard) (startInApRole env started) := by
  apply leaves_ite leaves_pure
  apply (leaves_slWlanSetMode (deaf_of_init env hinit) roleAp).bind
  intro _
  apply (contexts (leaves_nwpCall env (hinit _ rfl))).bind
  exact fun _ => (contexts (leaves_emit (hinit _ rfl))).bind fun _ =>
    leaves_slStart env (deaf_of_init env hinit)

theorem leaves_resetNWPProfileForProvisioning :
    Leaves (contextView heard) (resetNWPProfileForProvisioning env) := by
  apply (contexts (leaves_nwpCall env (hinit _ rfl))).bind
  intro _
  apply (contexts (leaves_emit (hinit _ rfl))).bind
  intro _
  apply (leaves_slStart env (deaf_of_init env hinit)).bind
  intro started
  apply leaves_runIf
  apply (leaves_startInApRole env hinit started).bind
  exact fun _ => leaves_runIf (contexts (leaves_deleteProfilesInApRole env hinit))

theorem leaves_settleInit : Leaves (nwpView heard) (settleInit env) := by
  apply (leaves_countProfiles env hinit 8).bind
  intro count
  refine Leaves.bind (leaves_modify fun _ => rfl) fun _ => ?_
  apply (leaves_nwpCall env (hinit _ rfl)).bind
  intro _
  refine Leaves.bind (leaves_modify fun _ => rfl) fun _ => ?_
  exact (leaves_suspendNWPPolicy env (deaf_of_init env hinit)).bind fun _ => leaves_pure

/-- A module that has started is as `SlWifiConn_init` made it, up to what resets of the
NWP write. -/
theorem ensures_slWifiConnInit {s : WifiState} (appCBSet deleteProfiles : Bool) :
    Ensures (slWifiConnInit env appCBSet deleteProfiles) s fun ret after =>
      ret = .value 0 → contextView heard after =
        contextView heard (freshContext appCBSet s) := by
  rw [Ensures, slWifiConnInit, ends_bind, ends_get, ends_ite]
  split
  · intro hret
    cases hret
  rw [ends_bind, ends_modify]
  apply (leaves_slStart env (deaf_of_init env hinit)).ensures.bind
  intro started first hfirst
  apply (leaves_initRole env hinit started).ensures.bind
  intro retVal inited hinited
  have hdelete : Leaves (contextView heard) (runIf deleteProfiles (do
      resetNWPProfileForProvisioning env
      let _ ← slStart env)) := by
    apply leaves_runIf
    apply (leaves_resetNWPProfileForProvisioning env hinit).bind
    exact fun _ => (leaves_slStart env (deaf_of_init env hinit)).bind fun _ => leaves_pure
  apply hdelete.ensures.bind
  intro _ deleted hdeleted
  apply (contexts (leaves_settleInit env hinit)).ensures.bind
  intro _ settled hsettled
  rw [Ensures, ends_bind, ends_runIf]
  split
  · rename_i hnegative
    apply Ends.mono (ensures_run : Ensures (deinit env) settled _) _ fun _ _ htrue => htrue
    intro _ _ _ hret
    injection hret with hzero
    omega
  · intro _
    calc contextView heard settled = contextView heard deleted := hsettled
      _ = contextView heard inited := hdeleted
      _ = contextView heard first := hinited
      _ = contextView heard (freshContext appCBSet s) := hfirst

end Init

section Quiet

theorem leaves_signalEvent (event : SmEvent) : Leaves quietView (signalEvent event) := by
  apply leaves_get.bind
  intro s
  apply leaves_ite leaves_pure
  apply leaves_ite
  · refine Leaves.bind (leaves_modify fun _ => rfl) fun _ => ?_
    exact (quiets (leaves_emit rfl)).bind fun _ => leaves_pure
  · exact leaves_throw

theorem leaves_signalEventIfAny (event : Option SmEvent) :
    Leaves quietView (signalEventIfAny event) := by
  cases event with
  | none => exact leaves_pure
  | some event => exact (leaves_signalEvent event).bind fun _ => leaves_pure

theorem leaves_startAsyncEvtTimer (duration : ℕ) :
    Leaves quietView (startAsyncEvtTimer duration) :=
  (quiets (leaves_emit rfl)).bind fun _ => leaves_modify fun _ => rfl

theorem leaves_addDeferredProfile (deferred : DeferredEvent) :
    Leaves quietView (addDeferredProfile env deferred) := by
  rw [addDeferredProfile]
  split
  · exact (quiets (leaves_nwpCall env rfl)).bind fun _ => quiets (leaves_emit rfl)
  · exact leaves_pure

theorem leaves_asyncEvtTimerHandler : Leaves quietView asyncEvtTimerHandler := by
  apply leaves_get.bind
  intro _
  apply leaves_runIf
  apply (quiets (leaves_emit rfl)).bind
  exact fun _ => Leaves.bind (leaves_modify fun _ => rfl) fun _ => leaves_signalEventIfAny _

theorem leaves_slWifiConnEnable : Leaves quietView slWifiConnEnable :=
  leaves_get.bind fun _ => leaves_ite leaves_pure (leaves_ite leaves_pure (leaves_signalEvent _))

theorem leaves_slWifiConnDeinit : Leaves quietView slWifiConnDeinit :=
  leaves_get.bind fun _ => leaves_ite leaves_pure
    (leaves_ite ((leaves_signalEvent _).bind fun _ => leaves_pure) leaves_pure)

theorem leaves_slWifiConnSetConfiguration (settings : WifiConnSettings) :
    Leaves quietView (slWifiConnSetConfiguration settings) :=
  leaves_ite leaves_pure (Leaves.bind (leaves_modify fun _ => rfl) fun _ => leaves_pure)

theorem leaves_slWifiConnEnableProvisioning (mode : ProvMode) (command : Byte)
    (flags : BitVec 32) :
    Leaves quietView (slWifiConnEnableProvisioning env mode command flags) := by
  apply leaves_get.bind
  intro s
  apply leaves_ite leaves_pure
  apply leaves_ite leaves_pure
  refine Leaves.bind (leaves_modify fun _ => rfl) ?_
  exact fun _ => (leaves_signalEvent _).bind fun _ => leaves_pure

theorem leaves_slWifiConnEnableStats (interval : BitVec 16) :
    Leaves quietView (slWifiConnEnableStats interval) := by
  apply leaves_get.bind
  intro s
  apply leaves_ite leaves_pure
  apply leaves_ite leaves_pure
  refine Leaves.bind (leaves_modify fun _ => rfl) ?_
  exact fun _ => Leaves.bind (leaves_runIf (leaves_startAsyncEvtTimer _)) fun _ => leaves_pure

theorem leaves_slWifiConnDisableStats : Leaves quietView slWifiConnDisableStats := by
  apply leaves_get.bind
  intro s
  apply leaves_ite leaves_pure
  refine Leaves.bind (leaves_modify fun _ => rfl) ?_
  exact fun _ => Leaves.bind (leaves_runIf (leaves_startAsyncEvtTimer _)) fun _ => leaves_pure

theorem leaves_ignoreRet {View : Type} {view : WifiState → View} {program : Sm ApiRet}
    (hprogram : Leaves view program) : Leaves view (ignoreRet program) :=
  hprogram.bind fun _ => leaves_pure

theorem ends_outside {α : Type} {program : Sm α} {s : WifiState} {falls : α → WifiState → Prop}
    {returns : Stuck → WifiState → Prop} :
    Ends (outside program) s falls returns ↔
      Ends program s falls fun stuck after =>
        returns (if stuck = .queueFull then .awaitsRoom else stuck) after := by
  simp only [Ends, outside, EStateM.run]
  cases program s with
  | ok value after => rfl
  | error stuck after => cases stuck <;> rfl

theorem leaves_outside {α View : Type} {view : WifiState → View} {program : Sm α}
    (hprogram : Leaves view program) : Leaves view (outside program) :=
  fun value before hbefore => ends_outside.mpr (hprogram value before hbefore)

theorem leaves_runUnlocked (call : FreeCall) : Leaves quietView (runUnlocked env call) := by
  cases call with
  | enable => exact leaves_ignoreRet leaves_slWifiConnEnable
  | deinit => exact leaves_ignoreRet leaves_slWifiConnDeinit
  | setDeleteAllProfiles =>
      exact leaves_get.bind fun _ => leaves_runIf (leaves_modify fun _ => rfl)
  | setConfiguration settings =>
      exact leaves_ignoreRet (leaves_slWifiConnSetConfiguration settings)
  | wlanConnect bssid =>
      exact Leaves.bind (leaves_modify fun _ => rfl)
        fun _ => leaves_ignoreRet (leaves_signalEvent _)
  | provisioningStatus status =>
      exact leaves_get.bind fun _ => leaves_runIf (leaves_signalEventIfAny _)
  | netApp event =>
      exact leaves_get.bind fun _ => leaves_runIf (leaves_signalEventIfAny _)
  | timerExpires => exact leaves_asyncEvtTimerHandler
  | disable | externalProvsioningCompleted | requestReset | wlanDisconnect
  | deviceResetRequest => exact leaves_ignoreRet (leaves_signalEvent _)

theorem leaves_runFreeCall (call : FreeCall) : Leaves quietView (runFreeCall env call) :=
  leaves_outside (leaves_runUnlocked env call)

theorem leaves_runFreeCalls (calls : List FreeCall) :
    Leaves quietView (runFreeCalls env calls) := by
  induction calls with
  | nil => exact leaves_pure
  | cons call calls ih => exact (leaves_runFreeCall env call).bind fun _ => ih

theorem leaves_deferred_of_quiet {α : Type} {program : Sm α}
    (hprogram : Leaves quietView program) : Leaves (·.deferredEventQ) program :=
  hprogram.project (·.2.2)

theorem leaves_deferred_letOthersPost : Leaves (·.deferredEventQ) (letOthersPost env) := by
  apply leaves_get.bind
  intro _
  split
  · exact leaves_pure
  · exact Leaves.bind (leaves_modify fun _ => rfl) fun _ =>
      leaves_deferred_of_quiet (leaves_runFreeCalls env _)

end Quiet

section Reset

theorem resets {α : Type} {program : Sm α} (hprogram : Leaves quietView program) :
    Leaves resetView program :=
  hprogram.project fun view => (view.1, view.2.2)

theorem leaves_slWifiConnSetRole (role : Byte) :
    Leaves resetView (slWifiConnSetRole env role) := by
  apply leaves_get.bind
  intro s
  apply leaves_ite leaves_pure
  apply leaves_ite
  · apply (resets_of_context (leaves_setRole env ofMachine_of_reset role)).bind
    exact fun _ => Leaves.bind (leaves_modify fun _ => rfl) fun _ => leaves_pure
  · exact leaves_pure

theorem leaves_slWifiConnReset : Leaves resetView (slWifiConnReset env) := by
  apply leaves_get.bind
  intro s
  apply leaves_ite leaves_pure
  apply leaves_ite
  · exact (resets_of_context (leaves_resetNWP env ofMachine_of_reset)).bind fun _ => leaves_pure
  · exact leaves_pure

end Reset

section Calls

/-- What an added profile leaves, deferred or not. -/
def roleView (s : WifiState) := (machineView s, (s.role, s.nwp))

theorem quiet_role {α : Type} {program : Sm α} (hprogram : Leaves quietView program) :
    Leaves roleView program :=
  hprogram.project fun view => (view.1, view.2.1)

/-- The call is an added profile that the module defers. -/
def defers : Call → Bool
  | .addProfile call =>
      !call.nonPersistent && call.added = env.provisioningInProgress && call.allocated
  | _ => false

theorem leaves_deferredEventEnqueue (event : SmEvent) (pParams : Option Profile) :
    Leaves roleView (deferredEventEnqueue event pParams) :=
  leaves_get.bind fun _ => leaves_ite (leaves_modify fun _ => rfl) leaves_throw

theorem leaves_keepProfile (call : AddProfile) : Leaves roleView (keepProfile env call) := by
  apply leaves_assertThat.bind
  intro _
  apply leaves_ite
  · exact leaves_modify fun _ => rfl
  · exact leaves_deferredEventEnqueue _ _

/-- Where keeping the profile leaves a view that posting leaves too, adding does. -/
theorem leaves_addProfile {View : Type} (coarsen : _ → View) (call : AddProfile)
    (hkeep : (call.nonPersistent ∨ call.added = env.provisioningInProgress) → call.allocated →
      Leaves (fun s => coarsen (quietView s)) (keepProfile env call)) :
    Leaves (fun s => coarsen (quietView s)) (slWifiConnAddProfile env call) := by
  apply leaves_get.bind
  intro s
  apply leaves_ite leaves_pure
  refine Leaves.bind (leaves_runIf ((quiets (leaves_emit rfl)).project coarsen)) ?_
  intro _
  split
  · rename_i hkept
    split
    · exact leaves_pure
    · rename_i hallocated
      apply (hkeep hkept (by simpa using hallocated)).bind
      intro _
      exact ((leaves_signalEvent _).project coarsen).bind fun _ => leaves_pure
  · refine Leaves.bind (leaves_runIf ((leaves_signalEventIfAny _).project coarsen)) ?_
    exact fun _ => leaves_pure

theorem leaves_slWifiConnAddProfile (call : AddProfile) :
    Leaves roleView (slWifiConnAddProfile env call) :=
  leaves_addProfile env (fun view => (view.1, view.2.1)) call
    fun _ _ => leaves_keepProfile env call

theorem leaves_slWifiConnAddProfile_of_not_defers (call : AddProfile)
    (hcall : ¬defers env (.addProfile call)) :
    Leaves resetView (slWifiConnAddProfile env call) := by
  apply leaves_addProfile env (fun view => (view.1, view.2.2)) call
  intro hkept hallocated
  have hpersistent : call.nonPersistent := by
    by_contra hpersistent
    simp_all [defers]
  apply leaves_assertThat.bind
  intro _
  rw [if_pos hpersistent]
  exact leaves_modify fun _ => rfl

/-- No call moves the state machine. -/
theorem leaves_runCall (call : Call) : Leaves machineView (runCall env call) := by
  cases call with
  | free call => exact (leaves_runFreeCall env call).project Prod.fst
  | enableProvisioning mode command flags =>
      exact leaves_ignoreRet
        ((leaves_slWifiConnEnableProvisioning env mode command flags).project Prod.fst)
  | addProfile call =>
      exact leaves_ignoreRet ((leaves_slWifiConnAddProfile env call).project Prod.fst)
  | setRole role =>
      exact leaves_ignoreRet ((leaves_slWifiConnSetRole env role).project Prod.fst)
  | reset => exact leaves_ignoreRet ((leaves_slWifiConnReset env).project Prod.fst)
  | enableStats interval =>
      exact leaves_runIf (leaves_ignoreRet
        ((leaves_slWifiConnEnableStats interval).project Prod.fst))
  | disableStats =>
      exact leaves_runIf (leaves_ignoreRet (leaves_slWifiConnDisableStats.project Prod.fst))

theorem leaves_runCalls (calls : List Call) : Leaves machineView (runCalls env calls) := by
  induction calls with
  | nil => exact leaves_pure
  | cons call calls ih => exact (leaves_runCall env call).bind fun _ => ih

/-- Only a profile that is added during provisioning is deferred. -/
theorem leaves_runCall_of_not_defers {call : Call} (hcall : ¬defers env call) :
    Leaves resetView (runCall env call) := by
  cases call with
  | free call => exact resets (leaves_runFreeCall env call)
  | enableProvisioning mode command flags =>
      exact leaves_ignoreRet (resets (leaves_slWifiConnEnableProvisioning env mode command flags))
  | addProfile call =>
      exact leaves_ignoreRet (leaves_slWifiConnAddProfile_of_not_defers env call hcall)
  | setRole role => exact leaves_ignoreRet (leaves_slWifiConnSetRole env role)
  | reset => exact leaves_ignoreRet (leaves_slWifiConnReset env)
  | enableStats interval =>
      exact leaves_runIf (leaves_ignoreRet (resets (leaves_slWifiConnEnableStats interval)))
  | disableStats => exact leaves_runIf (leaves_ignoreRet (resets leaves_slWifiConnDisableStats))

theorem leaves_runCalls_of_not_defers {calls : List Call}
    (hcalls : ∀ call ∈ calls, ¬defers env call) : Leaves resetView (runCalls env calls) := by
  induction calls with
  | nil => exact leaves_pure
  | cons call calls ih =>
      apply (leaves_runCall_of_not_defers env (hcalls call List.mem_cons_self)).bind
      exact fun _ => ih fun other hother => hcalls other (List.mem_cons_of_mem call hother)

/-- No call takes a deferred event out of the queue. -/
theorem keeps_deferred_runCall (queue : List DeferredEvent) (call : Call) :
    Keeps (fun s => queue <+: s.deferredEventQ) (runCall env call) := by
  have hquiet {α : Type} {program : Sm α} (hprogram : Leaves quietView program) :
      Keeps (fun s => queue <+: s.deferredEventQ) program :=
    hprogram.keeps fun view => queue <+: view.2.2
  by_cases hcall : defers env call = true
  · cases call with
    | addProfile call =>
        apply Keeps.bind _ fun _ => keeps_pure
        apply keeps_get.bind
        intro s
        apply keeps_ite keeps_pure
        refine Keeps.bind (keeps_runIf (hquiet (quiets (leaves_emit rfl)))) fun _ => ?_
        have hkeep : Keeps (fun s => queue <+: s.deferredEventQ) (keepProfile env call) := by
          refine Keeps.bind (keeps_runIf keeps_throw) fun _ => ?_
          apply keeps_ite
          · exact keeps_modify fun _ hqueue => hqueue
          · apply keeps_get.bind
            intro s
            apply keeps_ite _ keeps_throw
            exact keeps_modify fun _ hqueue => hqueue.trans (List.prefix_append _ _)
        split
        · split
          · exact keeps_pure
          · apply hkeep.bind
            exact fun _ => (hquiet (leaves_signalEvent _)).bind fun _ => keeps_pure
        · refine Keeps.bind (keeps_runIf (hquiet (leaves_signalEventIfAny _))) fun _ => ?_
          exact keeps_pure
    | _ => cases hcall
  · exact (leaves_runCall_of_not_defers env hcall).keeps fun view => queue <+: view.2

theorem keeps_deferred_runCalls (queue : List DeferredEvent) (calls : List Call) :
    Keeps (fun s => queue <+: s.deferredEventQ) (runCalls env calls) := by
  induction calls with
  | nil => exact keeps_pure
  | cons call calls ih => exact (keeps_deferred_runCall env queue call).bind fun _ => ih

end Calls

end SimpleLinkHost.WifiFrames
