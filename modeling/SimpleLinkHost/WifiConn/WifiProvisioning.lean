import SimpleLinkHost.WifiConn.WifiActs
import SimpleLinkHost.WifiConn.WifiRuns

/-!
# The mode of the provisioning

`SlWifiConn_enableProvisioning` installs the handlers of the provisioning states, and writes
the mode and the command.  No other call does so, and of the handlers only two write the
mode.  Where the machine comes to a provisioning state, its handler is installed.
-/

namespace SimpleLinkHost.WifiProvisioning

open CallOutcome ProgramInvariant ProgramScript WifiContext WifiApi WifiMachine WifiFrames
open WifiScripts WifiCalls WifiActs WifiRuns
open Transition (AttemptsSatisfy)

variable {env : WifiEnv} {s after : WifiState} {inv : WifiState → Prop}

section Calls

/-- What is heard of the provisioning. -/
def ofProv : Output → Bool
  | .posted .enableProvisioning | .processing _ _ | .entered _ => true
  | _ => false

/-- What `SlWifiConn_enableProvisioning` writes, as far as the mode goes, the state, and what
is heard. -/
def provView (s : WifiState) :=
  ((s.provisioningInstalled, s.provMode, s.provCmd), s.state, s.outputs.filter ofProv)

/-- The state behind `SlWifiConn_enableProvisioning`, up to the queue. -/
def provEnabled (env : WifiEnv) (mode : ProvMode) (command : Byte) (flags : BitVec 32)
    (s : WifiState) : WifiState :=
  { installProvisioning env mode command flags s with
    outputs := s.outputs ++ [.posted .enableProvisioning] }

theorem leaves_prov_of_context {α : Type} {program : Sm α}
    (hprogram : Leaves (contextView ofProv) program) : Leaves provView program :=
  hprogram.project fun view =>
    ((view.provisioningInstalled, view.provMode, view.provCmd), view.state, view.outputs)

theorem leaves_prov_emit {output : Output} (houtput : ofProv output = false) :
    Leaves provView (emit output) :=
  leaves_prov_of_context (contexts (leaves_emit houtput))

theorem ofProv_of_reset (output : Output) (houtput : ofReset output = true) :
    ofProv output = false := by
  obtain ⟨call, rfl⟩ | ⟨seconds, rfl⟩ := kind_of_reset houtput
  · rfl
  · rfl

theorem leaves_prov_signalEvent {event : SmEvent} (hevent : event ≠ .enableProvisioning) :
    Leaves provView (signalEvent event) := by
  have hheard : ofProv (.posted event) = false := by cases event <;> first | rfl | contradiction
  apply leaves_get.bind
  intro s
  apply leaves_ite leaves_pure
  apply leaves_ite
  · refine Leaves.bind (leaves_modify fun _ => rfl) fun _ => ?_
    exact (leaves_prov_emit hheard).bind fun _ => leaves_pure
  · exact leaves_throw

theorem leaves_prov_signalEventIfAny {event : Option SmEvent}
    (hevent : event ≠ some .enableProvisioning) : Leaves provView (signalEventIfAny event) := by
  cases event with
  | none => exact leaves_pure
  | some event =>
      have hevent' : event ≠ .enableProvisioning := fun hsame => hevent (congrArg some hsame)
      exact (leaves_prov_signalEvent hevent').bind fun _ => leaves_pure

theorem leaves_prov_startTimer (duration : ℕ) : Leaves provView (startAsyncEvtTimer duration) :=
  (leaves_prov_emit rfl).bind fun _ => leaves_modify fun _ => rfl

theorem leaves_prov_runFreeCall (call : FreeCall) : Leaves provView (runFreeCall env call) := by
  have hsignal {event : SmEvent} (hevent : event ≠ .enableProvisioning) :
      Leaves provView (ignoreRet (signalEvent event)) :=
    leaves_ignoreRet (leaves_prov_signalEvent hevent)
  apply leaves_outside
  cases call with
  | enable =>
      apply leaves_ignoreRet
      exact leaves_get.bind fun _ => leaves_ite leaves_pure
        (leaves_ite leaves_pure (leaves_prov_signalEvent (by decide)))
  | deinit =>
      apply leaves_ignoreRet
      exact leaves_get.bind fun _ => leaves_ite leaves_pure
        (leaves_ite ((leaves_prov_signalEvent (by decide)).bind fun _ => leaves_pure) leaves_pure)
  | setDeleteAllProfiles =>
      exact leaves_get.bind fun _ => leaves_runIf (leaves_modify fun _ => rfl)
  | setConfiguration settings =>
      apply leaves_ignoreRet
      exact leaves_ite leaves_pure (Leaves.bind (leaves_modify fun _ => rfl) fun _ => leaves_pure)
  | wlanConnect bssid =>
      exact Leaves.bind (leaves_modify fun _ => rfl) fun _ => hsignal (by decide)
  | provisioningStatus status =>
      refine leaves_get.bind fun s => leaves_runIf (leaves_prov_signalEventIfAny ?_)
      cases status <;> simp only [provStatusEvent] <;> first | (split <;> decide) | decide
  | netApp event =>
      refine leaves_get.bind fun s => leaves_runIf (leaves_prov_signalEventIfAny ?_)
      cases event <;> decide
  | timerExpires =>
      apply leaves_get.bind
      intro s
      apply leaves_runIf
      apply (leaves_prov_emit rfl).bind
      intro _
      exact Leaves.bind (leaves_modify fun _ => rfl)
        fun _ => leaves_prov_signalEventIfAny (by decide)
  | disable | externalProvsioningCompleted | requestReset | wlanDisconnect
  | deviceResetRequest => exact hsignal (by decide)

theorem leaves_prov_addProfile (call : AddProfile) :
    Leaves provView (slWifiConnAddProfile env call) := by
  have hkeep : Leaves provView (keepProfile env call) := by
    apply leaves_assertThat.bind
    intro _
    apply leaves_ite
    · exact leaves_modify fun _ => rfl
    · exact leaves_get.bind fun _ => leaves_ite (leaves_modify fun _ => rfl) leaves_throw
  apply leaves_get.bind
  intro s
  apply leaves_ite leaves_pure
  refine Leaves.bind (leaves_runIf (leaves_prov_emit rfl)) fun _ => ?_
  apply leaves_ite
  · apply leaves_ite leaves_pure
    exact hkeep.bind fun _ => (leaves_prov_signalEvent (by decide)).bind fun _ => leaves_pure
  · exact (leaves_runIf (leaves_prov_signalEventIfAny (by decide))).bind fun _ => leaves_pure

theorem leaves_prov_stats {change : WifiState → WifiState} {cond : Prop} [Decidable cond]
    {duration : ℕ} (hchange : ∀ s, provView (change s) = provView s) :
    Leaves provView (do
      modify change
      runIf cond (startAsyncEvtTimer duration)
      return ApiRet.value 0) := by
  refine Leaves.bind (leaves_modify hchange) fun _ => ?_
  exact (leaves_runIf (leaves_prov_startTimer duration)).bind fun _ => leaves_pure

theorem leaves_prov_deinit : Leaves provView (deinit env) :=
  (leaves_prov_emit rfl).bind fun _ =>
    (leaves_prov_of_context (contexts (leaves_nwpCall env rfl))).bind fun _ =>
      leaves_modify fun _ => rfl

/-- Posting that the provisioning is enabled is all that the other calls do to it. -/
structure Provisioned (env : WifiEnv) (inv : WifiState → Prop) : Prop where
  view : ∀ s after, provView after = provView s → inv s → inv after
  enables : ∀ s mode command flags, inv s → inv (provEnabled env mode command flags s)
  posts : ∀ s, inv s → inv { s with outputs := s.outputs ++ [.posted .enableProvisioning] }

theorem Provisioned.leaves {α : Type} {program : Sm α} (hprov : Provisioned env inv)
    (hprogram : Leaves provView program) : Keeps inv program := by
  intro before hinv
  apply hprogram.ensures.mono
  exact fun _ after hview => hprov.view before after hview hinv

theorem Provisioned.signalEvent (hprov : Provisioned env inv) (event : SmEvent) :
    Keeps inv (signalEvent event) := by
  by_cases hevent : event = .enableProvisioning
  · subst hevent
    intro s hinv
    rw [Ensures, WifiContext.signalEvent, ends_bind, ends_get, ends_ite]
    split
    · exact hinv
    rw [ends_ite]
    split
    · apply hprov.view _ _ _ (hprov.posts s hinv)
      rfl
    · trivial
  · exact hprov.leaves (leaves_prov_signalEvent hevent)

theorem Provisioned.enableProvisioning (hprov : Provisioned env inv) (mode : ProvMode)
    (command : Byte) (flags : BitVec 32) :
    Keeps inv (slWifiConnEnableProvisioning env mode command flags) := by
  intro s hinv
  rw [Ensures, slWifiConnEnableProvisioning, ends_bind, ends_get, ends_ite]
  split
  · exact hinv
  rename_i hinitialized
  rw [ends_ite]
  split
  · exact hinv
  have hsignalled : (installProvisioning env mode command flags s).initialized = true := by
    simpa [installProvisioning] using hinitialized
  rw [ends_bind, ends_modify, WifiContext.signalEvent, ends_bind, ends_bind, ends_get,
    if_neg (by simp [hsignalled]), ends_ite]
  split
  · apply hprov.view _ _ _ (hprov.enables s mode command flags hinv)
    rfl
  · trivial

theorem Provisioned.runCall (hprov : Provisioned env inv) (call : Call) :
    Keeps inv (runCall env call) := by
  cases call with
  | free call => exact hprov.leaves (leaves_prov_runFreeCall call)
  | enableProvisioning mode command flags =>
      exact (hprov.enableProvisioning mode command flags).bind fun _ => keeps_pure
  | addProfile call => exact hprov.leaves (leaves_ignoreRet (leaves_prov_addProfile call))
  | setRole role =>
      apply hprov.leaves
      apply leaves_ignoreRet
      apply leaves_get.bind
      intro s
      apply leaves_ite leaves_pure
      apply leaves_ite _ leaves_pure
      apply (leaves_prov_of_context (leaves_setRole env ofProv_of_reset role)).bind
      exact fun _ => Leaves.bind (leaves_modify fun _ => rfl) fun _ => leaves_pure
  | reset =>
      apply hprov.leaves
      apply leaves_ignoreRet
      apply leaves_get.bind
      intro s
      apply leaves_ite leaves_pure
      apply leaves_ite _ leaves_pure
      exact (leaves_prov_of_context (leaves_resetNWP env ofProv_of_reset)).bind
        fun _ => leaves_pure
  | enableStats interval =>
      apply hprov.leaves
      refine leaves_runIf (leaves_ignoreRet (leaves_get.bind fun s => ?_))
      exact leaves_ite leaves_pure (leaves_ite leaves_pure (leaves_prov_stats fun _ => rfl))
  | disableStats =>
      apply hprov.leaves
      refine leaves_runIf (leaves_ignoreRet (leaves_get.bind fun s => ?_))
      exact leaves_ite leaves_pure (leaves_prov_stats fun _ => rfl)

/-- No call is excluded. -/
def anyCall (_ : Call) : Prop := True

theorem Provisioned.kept (hprov : Provisioned env inv) : Kept env ofProv anyCall inv where
  deaf output houtput := by cases output <;> first | rfl | cases houtput
  view s after hview hinv := by
    refine hprov.view s after ?_ hinv
    exact congrArg (fun view => ((view.provisioningInstalled, view.provMode, view.provCmd),
      view.state, view.outputs)) hview
  lists s notified posting hinv := hprov.view s _ rfl hinv
  call call _ := hprov.runCall call

theorem Provisioned.replays (hprov : Provisioned env inv) : Replays env inv where
  adds s deferred rest _ hinv := by
    have htaken : inv { s with deferredEventQ := rest } := hprov.view s _ rfl hinv
    have hadds : Leaves provView (addDeferredProfile env deferred) := by
      rw [addDeferredProfile]
      split
      · apply (leaves_prov_of_context (contexts (leaves_nwpCall env rfl))).bind
        exact fun _ => leaves_prov_emit rfl
      · exact leaves_pure
    exact hprov.leaves hadds _ htaken
  posts := hprov.signalEvent

theorem allAllowed_anyCall (notified : List (List Call)) (posting : List (List FreeCall)) :
    AllAllowed anyCall notified posting :=
  ⟨fun _ _ _ _ => trivial, fun _ _ _ _ => trivial⟩

end Calls

section Installed

variable {script : List SmAct} {event : SmEvent} {notified : List (List Call)}
variable {posting : List (List FreeCall)} {final : WifiState}

/-- The handlers of the provisioning are installed where the mode or the state needs them. -/
def Installed (s : WifiState) : Prop :=
  (s.provMode ≠ .off → s.provisioningInstalled = true) ∧
    (SmState.ofProvisioning s.state = true → s.provisioningInstalled = true)

/-- The handlers stay installed. -/
theorem provisioned_installed :
    Provisioned env fun s => s.provisioningInstalled = true where
  view _ _ hview hinstalled := (congrArg (·.1.1) hview).trans hinstalled
  enables _ _ _ _ _ := rfl
  posts _ hinstalled := hinstalled

theorem provisioned_mode :
    Provisioned env fun s => s.provMode ≠ .off → s.provisioningInstalled = true where
  view s after hview hmode := by
    have hfirst : (after.provisioningInstalled, after.provMode, after.provCmd) =
        (s.provisioningInstalled, s.provMode, s.provCmd) := congrArg Prod.fst hview
    obtain ⟨hinstalled, hrest⟩ := Prod.mk.inj hfirst
    rw [hinstalled, (Prod.mk.inj hrest).1]
    exact hmode
  enables _ _ _ _ _ _ := rfl
  posts _ hmode := hmode

theorem asksPlainly_of_mem (hscript : script ∈ processScripts s.state event) :
    script.all asksPlainly = true :=
  asksPlainly_process s.state event script hscript

/-- Outside of the provisioning states, the mode is given by no handler, and such a state is
entered by the connection timeout alone. -/
theorem entersNone_process (state : SmState) (event : SmEvent)
    (hstate : SmState.ofProvisioning state = false) :
    ∀ script ∈ processScripts state event,
      SmAct.writes .oneShotGiven ∉ script ∧
        (script.take 2 = startTests ∨
          SmState.ofProvisioning (script.foldl leadsTo state) = false) := by
  revert hstate
  cases state <;> cases event <;> decide +kernel

/-- No write but one gives the mode. -/
theorem provMode_write {write : Write} (hwrite : write ≠ .oneShotGiven)
    (hmode : (write.apply s).provMode ≠ .off) : s.provMode ≠ .off := by
  cases write with
  | oneShotGiven => exact absurd rfl hwrite
  | oneShotTaken =>
      intro hoff
      apply hmode
      rw [Write.apply, if_neg (by simp [hoff])]
      exact hoff
  | errorsForgotten =>
      rw [Write.apply] at hmode
      split at hmode <;> exact hmode
  | _ => exact hmode

theorem provisioningInstalled_write (write : Write) (s : WifiState) :
    (write.apply s).provisioningInstalled = s.provisioningInstalled :=
  Write.frame (·.provisioningInstalled) (fun _ _ _ _ _ _ _ => rfl) write s

theorem installed_process (hinstalled : Installed s)
    (hscript : script ∈ processScripts s.state event)
    (hplays : Plays (Acts env) script (handling s event notified posting) final) :
    Installed final := by
  have hasks := asksPlainly_of_mem hscript
  have hallowed := allAllowed_anyCall notified posting
  by_cases hbefore : s.provisioningInstalled = true
  · have hkept : Kept env ofProv anyCall fun s => s.provisioningInstalled = true :=
      provisioned_installed.kept
    have hwrites (act : SmAct) (_ : act ∈ script) (s after : WifiState)
        (hwrite : WriteCase env s act after) (hinstalled : s.provisioningInstalled = true) :
        after.provisioningInstalled = true := by
      cases hwrite with
      | writes => exact (provisioningInstalled_write _ s).trans hinstalled
      | _ => exact hinstalled
    have hfinal := (hkept.plays hplays hasks (fun _ _ => provisioned_installed.replays) hwrites
      ⟨hbefore, hallowed⟩).1
    exact ⟨fun _ => hfinal, fun _ => hfinal⟩
  · have hmode : s.provMode = .off := by
      by_contra hmode
      exact hbefore (hinstalled.1 hmode)
    have hstate : SmState.ofProvisioning s.state = false := by
      by_contra hstate
      rw [Bool.not_eq_false] at hstate
      exact hbefore (hinstalled.2 hstate)
    obtain ⟨hgiven, henters⟩ := entersNone_process s.state event hstate script hscript
    have hkept : Kept env ofProv anyCall
        fun s => s.provMode ≠ .off → s.provisioningInstalled = true :=
      provisioned_mode.kept
    have hwrites (act : SmAct) (hact : act ∈ script) (s after : WifiState)
        (hwrite : WriteCase env s act after)
        (hinstalled : s.provMode ≠ .off → s.provisioningInstalled = true) :
        after.provMode ≠ .off → after.provisioningInstalled = true := by
      cases hwrite with
      | @writes write =>
          intro hafter
          rw [provisioningInstalled_write]
          refine hinstalled (provMode_write ?_ hafter)
          rintro rfl
          exact hgiven hact
      | _ => exact hinstalled
    have hfinal := (hkept.plays hplays hasks (fun _ _ => provisioned_mode.replays) hwrites
      ⟨hinstalled.1, hallowed⟩).1
    refine ⟨hfinal, fun hafter => ?_⟩
    cases henters with
    | inl htests => exact absurd hmode (startTests_plays htests hplays).2.1
    | inr hleads =>
        rw [plays_state hplays] at hafter
        exact absurd (hleads.symm.trans hafter) (by decide)

/-- The handlers are installed in time by every step. -/
theorem installed_step {act : WifiAct} (hinstalled : Installed s)
    (hstep : step env s act = some after) : Installed after := by
  cases stepCase_of_step hstep with
  | @call call _ hrun =>
      have hstate : after.state = s.state :=
        congrArg (·.2.1) ((leaves_runCall env call).of_run hrun)
      refine ⟨(provisioned_mode.runCall call).of_run hrun hinstalled.1, fun hafter => ?_⟩
      rw [hstate] at hafter
      exact (provisioned_installed.runCall call).of_run hrun (hinstalled.2 hafter)
  | receive => exact hinstalled
  | process _ _ hscript hplays =>
      have hfinal := installed_process hinstalled hscript hplays
      exact hfinal
  | destroy _ hrun =>
      injection hrun with _ hfinal
      subst hfinal
      exact hinstalled

end Installed

section NullCalls

variable (env)

theorem avoids_null_signalEvent (event : SmEvent) : Avoids .nullCall (signalEvent event) := by
  apply avoids_get.bind
  intro s
  apply avoids_ite avoids_pure
  apply avoids_ite
  · exact avoids_modify.bind fun _ => avoids_emit.bind fun _ => avoids_pure
  · exact avoids_throw (by decide)

theorem avoids_null_signalEventIfAny (event : Option SmEvent) :
    Avoids .nullCall (signalEventIfAny event) := by
  cases event with
  | none => exact avoids_pure
  | some event => exact (avoids_null_signalEvent event).bind fun _ => avoids_pure

theorem avoids_null_ignoreRet {program : Sm ApiRet} (hprogram : Avoids Stuck.nullCall program) :
    Avoids .nullCall (ignoreRet program) :=
  hprogram.bind fun _ => avoids_pure

theorem avoids_null_outside {program : Sm Unit} (hprogram : Avoids Stuck.nullCall program) :
    Avoids .nullCall (outside program) := by
  intro before
  apply ends_outside.mpr
  apply (hprogram before).mono fun _ _ htrue => htrue
  intro stuck _ hstuck
  split
  · decide
  · exact hstuck

theorem avoids_null_deferredEventEnqueue (event : SmEvent) (pParams : Option Profile) :
    Avoids .nullCall (deferredEventEnqueue event pParams) :=
  avoids_get.bind fun _ => avoids_ite avoids_modify (avoids_throw (by decide))

theorem avoids_null_runFreeCall (call : FreeCall) : Avoids .nullCall (runFreeCall env call) := by
  have hsignal (event : SmEvent) : Avoids .nullCall (ignoreRet (signalEvent event)) :=
    avoids_null_ignoreRet (avoids_null_signalEvent event)
  apply avoids_null_outside
  cases call with
  | enable =>
      apply avoids_null_ignoreRet
      exact avoids_get.bind fun _ => avoids_ite avoids_pure
        (avoids_ite avoids_pure (avoids_null_signalEvent _))
  | deinit =>
      apply avoids_null_ignoreRet
      exact avoids_get.bind fun _ => avoids_ite avoids_pure
        (avoids_ite ((avoids_null_signalEvent _).bind fun _ => avoids_pure) avoids_pure)
  | setDeleteAllProfiles => exact avoids_get.bind fun _ => avoids_runIf avoids_modify
  | setConfiguration settings =>
      apply avoids_null_ignoreRet
      exact avoids_ite avoids_pure (avoids_modify.bind fun _ => avoids_pure)
  | wlanConnect bssid => exact avoids_modify.bind fun _ => hsignal _
  | provisioningStatus status =>
      exact avoids_get.bind fun _ => avoids_runIf (avoids_null_signalEventIfAny _)
  | netApp event => exact avoids_get.bind fun _ => avoids_runIf (avoids_null_signalEventIfAny _)
  | timerExpires =>
      apply avoids_get.bind
      intro s
      apply avoids_runIf
      exact avoids_emit.bind fun _ => avoids_modify.bind fun _ => avoids_null_signalEventIfAny _
  | disable | externalProvsioningCompleted | requestReset | wlanDisconnect
  | deviceResetRequest => exact hsignal _

theorem avoids_null_addProfile (call : AddProfile) :
    Avoids .nullCall (slWifiConnAddProfile env call) := by
  have hkeep : Avoids .nullCall (keepProfile env call) :=
    (avoids_assertThat (by decide)).bind fun _ =>
      avoids_ite avoids_modify (avoids_null_deferredEventEnqueue _ _)
  apply avoids_get.bind
  intro s
  apply avoids_ite avoids_pure
  apply (avoids_runIf avoids_emit).bind
  intro _
  apply avoids_ite
  · apply avoids_ite avoids_pure
    exact hkeep.bind fun _ => (avoids_null_signalEvent _).bind fun _ => avoids_pure
  · exact (avoids_runIf (avoids_null_signalEventIfAny _)).bind fun _ => avoids_pure

/-- No call of the API calls through a NULL pointer. -/
theorem avoids_null_runCall (call : Call) : Avoids .nullCall (runCall env call) := by
  have hstats {change : WifiState → WifiState} {cond : Prop} [Decidable cond] {duration : ℕ} :
      Avoids Stuck.nullCall (do
        modify change
        runIf cond (startAsyncEvtTimer duration)
        return ApiRet.value 0) :=
    avoids_modify.bind fun _ =>
      (avoids_runIf (avoids_startAsyncEvtTimer _)).bind fun _ => avoids_pure
  cases call with
  | free call => exact avoids_null_runFreeCall env call
  | enableProvisioning mode command flags =>
      apply avoids_null_ignoreRet
      apply avoids_get.bind
      intro s
      apply avoids_ite avoids_pure
      apply avoids_ite avoids_pure
      exact avoids_modify.bind fun _ => (avoids_null_signalEvent _).bind fun _ => avoids_pure
  | addProfile call => exact avoids_null_ignoreRet (avoids_null_addProfile env call)
  | setRole role =>
      apply avoids_null_ignoreRet
      apply avoids_get.bind
      intro s
      apply avoids_ite avoids_pure
      apply avoids_ite _ avoids_pure
      exact (avoids_setRole env (by decide) role).bind fun _ =>
        avoids_modify.bind fun _ => avoids_pure
  | reset =>
      apply avoids_null_ignoreRet
      apply avoids_get.bind
      intro s
      apply avoids_ite avoids_pure
      apply avoids_ite _ avoids_pure
      exact (avoids_resetNWP env (by decide)).bind fun _ => avoids_pure
  | enableStats interval =>
      exact avoids_runIf (avoids_null_ignoreRet (avoids_get.bind fun _ =>
        avoids_ite avoids_pure (avoids_ite avoids_pure hstats)))
  | disableStats =>
      exact avoids_runIf (avoids_null_ignoreRet (avoids_get.bind fun _ =>
        avoids_ite avoids_pure hstats))

theorem avoids_null_letOthersCall : Avoids .nullCall (letOthersCall env) := by
  have hcalls (calls : List Call) : Avoids .nullCall (runCalls env calls) := by
    induction calls with
    | nil => exact avoids_pure
    | cons call calls ih => exact (avoids_null_runCall env call).bind fun _ => ih
  apply avoids_get.bind
  intro s
  split
  · exact avoids_pure
  · exact avoids_modify.bind fun _ => hcalls _

theorem avoids_null_letOthersPost : Avoids .nullCall (letOthersPost env) := by
  have hcalls (calls : List FreeCall) : Avoids .nullCall (runFreeCalls env calls) := by
    induction calls with
    | nil => exact avoids_pure
    | cons call calls ih => exact (avoids_null_runFreeCall env call).bind fun _ => ih
  apply avoids_get.bind
  intro s
  split
  · exact avoids_pure
  · exact avoids_modify.bind fun _ => hcalls _

theorem avoids_null_notifyNetIf (event : NetIfEvent) : Avoids .nullCall (notifyNetIf env event) :=
  avoids_get.bind fun _ => avoids_runIf
    (avoids_emit.bind fun _ => avoids_null_letOthersCall env)

theorem avoids_null_notifyWifiApp (event : WifiConnEvent) :
    Avoids .nullCall (notifyWifiApp env event) :=
  avoids_get.bind fun _ => avoids_runIf
    (avoids_emit.bind fun _ => avoids_null_letOthersCall env)

theorem avoids_null_deferredEventProcess : Avoids .nullCall (deferredEventProcess env) := by
  have hevents (events : List DeferredEvent) :
      Avoids .nullCall (deferredEventsProcess env events) := by
    induction events with
    | nil => exact avoids_pure
    | cons deferred rest ih =>
        have hadd : Avoids .nullCall (addDeferredProfile env deferred) := by
          rw [addDeferredProfile]
          split
          · exact (avoids_nwpCall env _).bind fun _ => avoids_emit
          · exact avoids_pure
        apply avoids_modify.bind
        intro _
        apply hadd.bind
        intro _
        apply (avoids_null_letOthersPost env).bind
        intro _
        apply (avoids_null_signalEvent _).bind
        exact fun _ => (avoids_assertThat (by decide)).bind fun _ => ih
  exact avoids_get.bind fun s => (hevents s.deferredEventQ).bind fun _ => avoids_pure

theorem avoids_null_suspendNWP : Avoids .nullCall (suspendNWP env) :=
  (avoids_suspendNWPPolicy env).bind fun _ => avoids_runIf (avoids_null_notifyWifiApp env _)

theorem avoids_null_resumeNWP : Avoids .nullCall (resumeNWP env) :=
  (avoids_resumeNWPPolicy env).bind fun _ => avoids_runIf (avoids_null_notifyWifiApp env _)

theorem avoids_null_enterIdle : Avoids .nullCall (enterIdle env) := by
  apply (avoids_null_suspendNWP env).bind
  intro _
  apply avoids_get.bind
  intro s
  apply (avoids_startAsyncEvtTimer _).bind
  exact fun _ => avoids_modify.bind fun _ => avoids_setState _

theorem avoids_null_enterWaitForConn (timeout : BitVec 16) (bWlanDisconnect : Bool) :
    Avoids .nullCall (enterWaitForConn env timeout bWlanDisconnect) := by
  have hprofile : Avoids .nullCall (nonPersistentProfileProcess env bWlanDisconnect) := by
    apply avoids_get.bind
    intro s
    apply avoids_ite
    · exact (avoids_nwpCall env _).bind fun _ => avoids_modify
    · split
      · exact avoids_pure
      · exact (avoids_nwpCall env _).bind fun _ => avoids_modify
  apply (avoids_null_deferredEventProcess env).bind
  intro _
  apply hprofile.bind
  exact fun _ => (avoids_startAsyncEvtTimer _).bind fun _ => avoids_setState _

theorem avoids_null_enterConnected (bNotify : Bool) :
    Avoids .nullCall (enterConnected env bNotify) := by
  apply (avoids_startAsyncEvtTimer 0).bind
  intro _
  apply avoids_modify.bind
  intro _
  apply (avoids_runIf (avoids_null_notifyNetIf env _)).bind
  intro _
  apply avoids_modify.bind
  intro _
  apply avoids_get.bind
  intro s
  exact (avoids_runIf (avoids_startAsyncEvtTimer _)).bind fun _ => avoids_setState _

theorem avoids_null_enterWaitForIp : Avoids .nullCall (enterWaitForIp env) := by
  apply (avoids_null_notifyNetIf env _).bind
  intro _
  apply avoids_get.bind
  intro s
  apply (avoids_nwpCall env _).bind
  intro retVal
  apply avoids_ite (avoids_null_enterConnected env false)
  exact (avoids_startAsyncEvtTimer _).bind fun _ => avoids_setState _

theorem avoids_null_startNwpProvisioning (provisioningCmd : Byte) :
    Avoids .nullCall (startNwpProvisioning env provisioningCmd) := by
  have hssid (ssid : Option (List Byte)) : Avoids .nullCall (setApSsid env ssid) := by
    cases ssid with
    | none => exact avoids_pure
    | some ssid => exact (avoids_nwpCall env _).bind fun _ => avoids_pure
  have hparams : Avoids .nullCall (setApParams env) := by
    apply avoids_get.bind
    intro s
    apply (hssid _).bind
    intro _
    apply (avoids_nwpCall env _).bind
    intro _
    apply (avoids_runIf ((avoids_nwpCall env _).bind fun _ => avoids_pure)).bind
    intro _
    apply avoids_get.bind
    exact fun _ => avoids_runIf ((avoids_resetNWPRole env (by decide)).bind fun _ => avoids_pure)
  apply hparams.bind
  intro _
  apply avoids_get.bind
  intro s
  apply (avoids_nwpCall env _).bind
  intro retVal
  apply (avoids_assertThat (by decide)).bind
  intro _
  exact (avoids_setState _).bind fun _ => avoids_modify.bind fun _ => avoids_pure

theorem avoids_null_enterProvisioning : Avoids .nullCall (enterProvisioning env) := by
  have hexternal : Avoids .nullCall (startExternalConfiguration env) :=
    avoids_get.bind fun _ => (avoids_null_notifyWifiApp env _).bind fun _ =>
      (avoids_setState _).bind fun _ => avoids_pure
  apply avoids_get.bind
  intro s
  apply (avoids_ite hexternal (avoids_null_startNwpProvisioning env _)).bind
  intro retVal
  exact avoids_get.bind fun _ => (avoids_startAsyncEvtTimer _).bind fun _ => avoids_pure

theorem avoids_null_enterProvStopping (eventId : Option SmEvent) :
    Avoids .nullCall (enterProvStopping env eventId) := by
  have hdefer : Avoids .nullCall (deferEvent eventId) := by
    cases eventId with
    | none => exact avoids_pure
    | some event => exact avoids_null_deferredEventEnqueue event none
  apply (avoids_startAsyncEvtTimer 0).bind
  intro _
  apply hdefer.bind
  exact fun _ => (avoids_nwpCall env _).bind fun _ => avoids_setState _

/-- The connection timeout does not call through a NULL pointer if the handlers are
installed. -/
theorem ends_connectTimeoutExpired (hinstalled : Installed s) :
    Ends (connectTimeoutExpired env) s (fun _ _ => True) fun stuck _ => stuck ≠ .nullCall := by
  rw [connectTimeoutExpired, ends_bind, ends_get, ends_ite]
  split
  · exact ((avoids_null_enterWaitForConn env _ true).bind fun _ => avoids_pure) s
  rw [ends_ite]
  split
  · rename_i hmode
    rw [ends_bind, ends_runIf, if_neg (not_not.mpr (hinstalled.1 hmode))]
    apply Avoids.bind (avoids_null_enterProvisioning env)
    intro retVal
    apply avoids_get.bind
    exact fun _ => (avoids_runIf (avoids_null_notifyWifiApp env _)).bind fun _ => avoids_pure
  · exact ((avoids_null_enterIdle env).bind fun _ => avoids_pure) s

theorem avoids_null_connectionLost : Avoids .nullCall (connectionLost env) :=
  (avoids_null_notifyNetIf env _).bind fun _ =>
    avoids_get.bind fun _ => avoids_null_enterWaitForConn env _ _

theorem avoids_null_smStateOff (event : SmEvent) : Avoids .nullCall (smStateOff env event) := by
  cases event with
  | enable =>
      have hdelete : Avoids .nullCall (do
          let retVal ← nwpCall env .profileDelAll
          assertThat (retVal = 0)
          modify fun s => { s with bDeleteAllProfiles := false }) :=
        (avoids_nwpCall env _).bind fun _ =>
          (avoids_assertThat (by decide)).bind fun _ => avoids_modify
      apply avoids_modify.bind
      intro _
      apply avoids_get.bind
      intro s
      apply (avoids_runIf hdelete).bind
      intro _
      apply (avoids_null_resumeNWP env).bind
      intro _
      apply avoids_get.bind
      exact fun _ => (avoids_null_enterWaitForConn env _ _).bind fun _ => avoids_pure
  | _ => exact avoids_pure

theorem avoids_null_smStateIdle (event : SmEvent) : Avoids .nullCall (smStateIdle env event) := by
  cases event with
  | enableProvisioning | addProfile | timeout =>
      apply (avoids_null_resumeNWP env).bind
      intro _
      apply avoids_get.bind
      exact fun _ => (avoids_null_enterWaitForConn env _ _).bind fun _ => avoids_pure
  | connected =>
      apply (avoids_startAsyncEvtTimer 0).bind
      intro _
      apply avoids_get.bind
      intro s
      apply (avoids_startAsyncEvtTimer _).bind
      exact fun _ => (avoids_setState _).bind fun _ => avoids_pure
  | _ => exact avoids_pure

theorem ends_smStateWaitForConn (hinstalled : Installed s) (event : SmEvent) :
    Ends (smStateWaitForConn env event) s (fun _ _ => True) fun stuck _ => stuck ≠ .nullCall := by
  cases event with
  | addProfile =>
      apply Avoids.bind avoids_get
      exact fun _ => (avoids_null_enterWaitForConn env _ _).bind fun _ => avoids_pure
  | connected => exact ((avoids_null_enterWaitForIp env).bind fun _ => avoids_pure) s
  | ipAcquired => exact ((avoids_null_enterConnected env true).bind fun _ => avoids_pure) s
  | timeout => exact ends_connectTimeoutExpired env hinstalled
  | _ => trivial

theorem avoids_null_smStateWaitForIp (event : SmEvent) :
    Avoids .nullCall (smStateWaitForIp env event) := by
  cases event with
  | ipAcquired => exact (avoids_null_enterConnected env true).bind fun _ => avoids_pure
  | timeout =>
      apply (avoids_nwpCall env _).bind
      exact fun _ => (avoids_null_connectionLost env).bind fun _ => avoids_pure
  | disconnect => exact (avoids_null_connectionLost env).bind fun _ => avoids_pure
  | _ => exact avoids_pure

theorem avoids_null_collectAndNotifyStats : Avoids .nullCall (collectAndNotifyStats env) := by
  have hschedule (cond : Bool) : Avoids .nullCall (scheduleStats cond) :=
    avoids_get.bind fun _ => avoids_runIf (avoids_startAsyncEvtTimer _)
  have hresume : Avoids .nullCall (do
      notifyWifiApp env .statsResume
      scheduleStats true) :=
    (avoids_null_notifyWifiApp env _).bind fun _ => hschedule true
  have hnotify : Avoids .nullCall (notifyStats env) := by
    apply avoids_emit.bind
    intro _
    apply avoids_get.bind
    intro s
    apply (avoids_nwpCall env _).bind
    intro retVal
    apply (avoids_nwpCall env _).bind
    intro _
    apply (avoids_null_notifyWifiApp env _).bind
    intro _
    apply avoids_get.bind
    intro after
    apply (avoids_runIf (avoids_null_notifyWifiApp env _)).bind
    exact fun _ => avoids_get.bind fun _ => hschedule _
  apply avoids_get.bind
  intro s
  apply avoids_ite (hschedule true)
  apply (avoids_null_notifyWifiApp env _).bind
  intro _
  apply avoids_emit.bind
  intro _
  apply avoids_get.bind
  intro paused
  apply avoids_ite hresume
  exact (avoids_nwpCall env _).bind fun _ => avoids_ite hresume hnotify

theorem avoids_null_smStateConnected (event : SmEvent) :
    Avoids .nullCall (smStateConnected env event) := by
  have hstop : Avoids .nullCall (runIf env.wifiStats stopAsyncEvtTimer) :=
    avoids_runIf (avoids_startAsyncEvtTimer 0)
  cases event with
  | disconnect =>
      apply hstop.bind
      exact fun _ => (avoids_null_connectionLost env).bind fun _ => avoids_pure
  | ipLost =>
      apply hstop.bind
      intro _
      apply avoids_get.bind
      intro s
      apply (avoids_startAsyncEvtTimer _).bind
      exact fun _ => (avoids_setState _).bind fun _ => avoids_pure
  | resetRequest =>
      apply hstop.bind
      intro _
      apply (avoids_null_notifyNetIf env _).bind
      intro _
      apply (avoids_resetNWP env (by decide)).bind
      intro retVal
      apply (avoids_assertThat (by decide)).bind
      intro _
      apply avoids_get.bind
      exact fun _ => (avoids_null_enterWaitForConn env _ _).bind fun _ => avoids_pure
  | timeout =>
      apply avoids_get.bind
      exact fun _ => (avoids_runIf (avoids_null_collectAndNotifyStats env)).bind
        fun _ => avoids_pure
  | _ => exact avoids_pure

theorem avoids_null_smStateProvisioning (event : SmEvent) :
    Avoids .nullCall (smStateProvisioning env event) := by
  cases event with
  | provSuccess =>
      apply (avoids_startAsyncEvtTimer 0).bind
      exact fun _ => (avoids_setState _).bind fun _ => avoids_pure
  | disable | addProfile | timeout =>
      exact (avoids_null_enterProvStopping env _).bind fun _ => avoids_pure
  | error =>
      apply avoids_modify.bind
      exact fun _ => (avoids_null_enterProvStopping env _).bind fun _ => avoids_pure
  | provStopped =>
      apply (avoids_startAsyncEvtTimer 0).bind
      intro _
      apply (avoids_null_notifyWifiApp env _).bind
      exact fun _ => (avoids_null_enterIdle env).bind fun _ => avoids_pure
  | provExtConfigReady | provCloudConfirmReady =>
      apply (avoids_null_notifyWifiApp env _).bind
      exact fun _ => (avoids_setState _).bind fun _ => avoids_pure
  | _ => exact avoids_pure

theorem avoids_null_smStateExtProvisioning (event : SmEvent) :
    Avoids .nullCall (smStateExtProvisioning env event) := by
  cases event with
  | extProvCompleted | addProfile =>
      exact (avoids_null_enterProvStopping env _).bind fun _ => avoids_pure
  | timeout =>
      apply avoids_get.bind
      intro s
      apply (avoids_null_notifyWifiApp env _).bind
      intro _
      apply (avoids_null_notifyWifiApp env _).bind
      exact fun _ => (avoids_null_enterProvStopping env _).bind fun _ => avoids_pure
  | resetRequest =>
      apply (avoids_null_notifyWifiApp env _).bind
      intro _
      apply (avoids_resetNWP env (by decide)).bind
      intro retVal
      apply (avoids_assertThat (by decide)).bind
      exact fun _ => (avoids_setState _).bind fun _ => avoids_pure
  | _ => exact avoids_pure

theorem avoids_null_smStateProvStopping (event : SmEvent) :
    Avoids .nullCall (smStateProvStopping env event) := by
  have hwait : Avoids Stuck.nullCall (do
      let s ← get
      enterWaitForConn env s.settings.connectTimeout false
      return (0 : ℤ)) :=
    avoids_get.bind fun _ => (avoids_null_enterWaitForConn env _ _).bind fun _ => avoids_pure
  cases event with
  | connected =>
      apply (avoids_null_notifyWifiApp env _).bind
      intro _
      apply (avoids_null_notifyNetIf env _).bind
      exact fun _ => (avoids_null_enterConnected env true).bind fun _ => avoids_pure
  | provStopped =>
      have hreported : Avoids .nullCall (provStoppedReported env) := by
        apply (avoids_null_notifyWifiApp env _).bind
        intro _
        apply (avoids_null_deferredEventProcess env).bind
        intro replayed
        exact avoids_get.bind fun _ => avoids_runIf (avoids_null_enterWaitForConn env _ _)
      exact hreported.bind fun _ => avoids_pure
  | extProvCompleted => exact (avoids_setRole env (by decide) roleSta).bind fun _ => hwait
  | addProfile => exact hwait
  | error => exact (avoids_null_enterProvisioning env).bind fun _ => avoids_pure
  | timeout => exact (avoids_null_enterIdle env).bind fun _ => avoids_pure
  | _ => exact avoids_pure

theorem ends_smHandler (hinstalled : Installed s) (state : SmState) (event : SmEvent) :
    Ends (smHandler env state event) s (fun _ _ => True) fun stuck _ => stuck ≠ .nullCall := by
  cases state with
  | off => exact avoids_null_smStateOff env event s
  | idle => exact avoids_null_smStateIdle env event s
  | waitForConn => exact ends_smStateWaitForConn env hinstalled event
  | waitForIp => exact avoids_null_smStateWaitForIp env event s
  | connected => exact avoids_null_smStateConnected env event s
  | provisioning => exact avoids_null_smStateProvisioning env event s
  | provStopping => exact avoids_null_smStateProvStopping env event s
  | extProvisioning => exact avoids_null_smStateExtProvisioning env event s

/-- `ProcessEvent` does not call through a NULL pointer if the handlers are installed. -/
theorem ends_handleEvent (hinstalled : Installed s) (event : SmEvent) :
    Ends (handleEvent env event) s (fun _ _ => True) fun stuck _ => stuck ≠ .nullCall := by
  have hdisable : Avoids .nullCall (disableAnywhere env) := by
    apply (avoids_null_suspendNWP env).bind
    intro _
    apply avoids_get.bind
    intro s
    have hdisconnect : Avoids Stuck.nullCall (do
        let _ ← nwpCall env .wlanDisconnect
        notifyNetIf env .disconnect) :=
      (avoids_nwpCall env _).bind fun _ => avoids_null_notifyNetIf env _
    exact (avoids_runIf hdisconnect).bind fun _ => avoids_setState _
  have hprocess : Ends (processEvent env event) s (fun _ _ => True)
      fun stuck _ => stuck ≠ .nullCall := by
    have hprinted : Installed { s with outputs := s.outputs ++ [.processing s.state event] } :=
      hinstalled
    rw [processEvent, ends_bind, ends_get, emit, ends_bind, ends_modify, ends_bind, assertThat,
      ends_runIf]
    split
    · exact fun hnull => by cases hnull
    · exact (ends_smHandler env hprinted s.state event).bind
        fun _ _ _ => avoids_runIf hdisable _
  rw [handleEvent]
  split
  · have hdeinit : Avoids .nullCall (deinit env) :=
      avoids_emit.bind fun _ => (avoids_nwpCall env _).bind fun _ => avoids_modify
    exact (hdeinit.bind fun _ => avoids_modify) s
  · exact hprocess.bind fun _ _ _ => trivial

/-- The handler that an event is processed with is installed, and calls nothing that is
not. -/
def CallsInstalled (env : WifiEnv) (s : WifiState) : WifiAct → Prop
  | .handle notified posting => ∀ event, s.received = some event →
      (event ≠ .destroy → SmState.ofProvisioning s.state = true →
        s.provisioningInstalled = true) ∧
      ∀ after, (handleEvent env event).run
        { s with received := none, notified := notified, posting := posting } ≠
          .error .nullCall after
  | _ => True

variable {env}

/-- In every run of the module, no handler that is called is missing. -/
theorem callsInstalled_of_started (hstarted : Started env s) (acts : List WifiAct) :
    AttemptsSatisfy (step env) (CallsInstalled env) s acts := by
  have hinit : Installed s := by
    obtain ⟨boot, appCBSet, -, hcontext⟩ := hstarted.context ofRun_of_init
    have hmode : s.provMode = .off := congrArg (·.provMode) hcontext
    refine ⟨fun hgiven => absurd hmode hgiven, fun hstate => ?_⟩
    rw [hstarted.off] at hstate
    cases hstate
  intro before act _ reached hreached
  have hinstalled : Installed reached :=
    Transition.run_invariant (fun _ _ _ => installed_step) hinit hreached
  cases act with
  | handle notified posting =>
      intro event _
      refine ⟨fun _ => hinstalled.2, fun after hrun => ?_⟩
      have hstart : Installed
          { reached with received := none, notified := notified, posting := posting } :=
        hinstalled
      exact (ends_handleEvent env hstart event).of_error hrun rfl
  | _ => trivial

/-- The provisioning is enabled late, and reached. -/
theorem callsInstalled_late :
    AttemptsSatisfy (step obedientNwp) (CallsInstalled obedientNwp) (started obedientNwp true false)
      (posted (.free .enable) ++ posted (.free .timerExpires) ++ untilProvisioning) :=
  callsInstalled_of_started ⟨powerOn, true, false, rfl, rfl⟩ _

end NullCalls

end SimpleLinkHost.WifiProvisioning
