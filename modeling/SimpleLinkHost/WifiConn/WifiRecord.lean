import SimpleLinkHost.WifiConn.WifiCalls

/-!
# The record of the connection manager grows

Whatever the module does is added to the end of its record, so that what has been said
once is never taken back.
-/

namespace SimpleLinkHost.WifiRecord

open CallOutcome ProgramInvariant ProgramScript WifiContext WifiApi WifiMachine WifiFrames
open WifiScripts WifiCalls

variable {env : WifiEnv} {s after : WifiState} {base : List Output}

/-- The record starts with what it was at some time. -/
def Grown (base : List Output) (s : WifiState) : Prop := base <+: s.outputs

section Quiet

variable {inv : WifiState → Prop}

/-- The count of errors and the delay level, which only a reset of the NWP, a connection and
`SlWifiConn_init` write. -/
def errorCounters (s : WifiState) : Byte × Byte := (s.fatalErrorCount, s.recoveryDelayLevel)

/-- What is kept by everything that leaves the error counters and only adds to the record. -/
def Quiet (inv : WifiState → Prop) : Prop :=
  ∀ s after, errorCounters after = errorCounters s → s.outputs <+: after.outputs →
    inv s → inv after

theorem keeps_assertThat {cond : Prop} [Decidable cond] : Keeps inv (assertThat cond) :=
  keeps_runIf keeps_throw

namespace Quiet

variable (hquiet : Quiet inv)

include hquiet

theorem same (hcounters : errorCounters after = errorCounters s)
    (houtputs : after.outputs = s.outputs) (hinv : inv s) : inv after :=
  hquiet s after hcounters (houtputs ▸ List.prefix_refl _) hinv

theorem speaks {output : Output} (hcounters : errorCounters after = errorCounters s)
    (houtputs : after.outputs = s.outputs ++ [output]) (hinv : inv s) : inv after :=
  hquiet s after hcounters (houtputs ▸ List.prefix_append _ _) hinv

theorem modifies {change : WifiState → WifiState}
    (hcounters : ∀ s, errorCounters (change s) = errorCounters s)
    (houtputs : ∀ s, (change s).outputs = s.outputs) :
    Keeps inv (modify change : Sm PUnit) :=
  keeps_modify fun s hinv => hquiet.same (hcounters s) (houtputs s) hinv

theorem emit (output : Output) : Keeps inv (emit output) :=
  keeps_modify fun _ hinv => hquiet.speaks (by rfl) (by rfl) hinv

theorem nwpCall (call : NwpCall) : Keeps inv (nwpCall env call) :=
  keeps_get.bind fun _ => (hquiet.emit _).bind fun _ => keeps_pure

theorem startAsyncEvtTimer (duration : ℕ) : Keeps inv (startAsyncEvtTimer duration) :=
  (hquiet.emit _).bind fun _ => hquiet.modifies (fun _ => rfl) fun _ => rfl

theorem setState (state : SmState) : Keeps inv (setState state) :=
  (hquiet.emit _).bind fun _ => hquiet.modifies (fun _ => rfl) fun _ => rfl

theorem slStart : Keeps inv (slStart env) := by
  apply keeps_get.bind
  intro s
  apply (hquiet.emit _).bind
  intro _
  split
  · exact keeps_pure
  · exact Keeps.bind (hquiet.modifies (fun _ => rfl) fun _ => rfl) fun _ => keeps_pure

theorem slWlanSetMode (mode : Byte) : Keeps inv (slWlanSetMode mode) :=
  (hquiet.emit _).bind fun _ => hquiet.modifies (fun _ => rfl) fun _ => rfl

theorem initNWPConnPolicy : Keeps inv (initNWPConnPolicy env) := by
  apply keeps_get.bind
  intro s
  apply (hquiet.nwpCall _).bind
  exact fun _ => Keeps.bind (keeps_runIf (hquiet.modifies (fun _ => rfl) fun _ => rfl))
    fun _ => keeps_pure

theorem suspendNWPPolicy : Keeps inv (suspendNWPPolicy env) :=
  keeps_get.bind fun _ => hquiet.nwpCall _

theorem resumeNWPPolicy : Keeps inv (resumeNWPPolicy env) :=
  keeps_get.bind fun _ => hquiet.nwpCall _

theorem settleNWP : Keeps inv (settleNWP env) := by
  have hrestore : Keeps inv (restoreNWPPolicy env) :=
    keeps_get.bind fun _ => keeps_ite hquiet.suspendNWPPolicy hquiet.resumeNWPPolicy
  apply (hquiet.emit _).bind
  intro _
  apply hquiet.initNWPConnPolicy.bind
  intro _
  exact (hquiet.nwpCall _).bind fun _ => hrestore.bind fun _ => keeps_pure

theorem deinit : Keeps inv (deinit env) :=
  (hquiet.emit _).bind fun _ =>
    Keeps.bind (hquiet.nwpCall _) fun _ => hquiet.modifies (fun _ => rfl) fun _ => rfl

/-- `ResetNWP` behind `sl_Start`. -/
theorem restarted (retVal : ℤ) :
    Keeps inv (do
      assertThat (0 ≤ retVal)
      modify fun s => { s with role := BitVec.ofInt 8 retVal }
      WifiApi.settleNWP env
      return retVal) := by
  apply keeps_assertThat.bind
  intro _
  exact Keeps.bind (hquiet.modifies (fun _ => rfl) fun _ => rfl)
    fun _ => hquiet.settleNWP.bind fun _ => keeps_pure

end Quiet

end Quiet

section Nwp

theorem grown_outputs (hsame : after.outputs = s.outputs) (hgrown : Grown base s) :
    Grown base after := by
  rwa [Grown, hsame]

theorem quiet_grown : Quiet (Grown base) := fun _ _ _ houtputs hgrown => hgrown.trans houtputs

theorem grows_stopNWP : Keeps (Grown base) (stopNWP env) := by
  refine Keeps.bind (keeps_modify fun _ => grown_outputs rfl) fun _ => ?_
  apply keeps_get.bind
  intro s
  apply (quiet_grown.nwpCall _).bind
  exact fun _ => keeps_assertThat.bind fun _ => quiet_grown.emit _

theorem grows_resetNWP : Keeps (Grown base) (resetNWP env) := by
  apply grows_stopNWP.bind
  intro _
  exact quiet_grown.slStart.bind fun retVal => quiet_grown.restarted retVal

theorem ensures_nwpCall (call : NwpCall) :
    Ensures (nwpCall env call) s fun _ after => Grown (s.outputs ++ [.nwp call]) after :=
  List.prefix_refl _

theorem ensures_stopNWP :
    Ensures (stopNWP env) s fun _ after => Grown (s.outputs ++ [.nwp .stop]) after := by
  rw [Ensures, stopNWP, ends_bind, ends_modify, ends_bind, ends_get]
  apply (ensures_nwpCall .stop).bind
  intro retVal stopped hstopped
  exact (keeps_assertThat.bind fun _ => quiet_grown.emit _) stopped hstopped

theorem ensures_slStart :
    Ensures (slStart env) s fun _ after => Grown (s.outputs ++ [.nwp .start]) after := by
  rw [Ensures, slStart, ends_bind, ends_get, emit, ends_bind, ends_modify]
  split
  · exact List.prefix_refl _
  · exact List.prefix_refl _

/-- The NWP has been stopped, and then started, between two states. -/
def Restarted (s after : WifiState) : Prop :=
  ∃ before stopped : List Output, s.outputs <+: before ∧ before ++ [.nwp .stop] <+: stopped ∧
    Grown (stopped ++ [.nwp .start]) after

/-- `ResetNWP` stops the NWP and starts it again. -/
theorem restarted_resetNWP :
    Ensures (resetNWP env) s fun _ after => Restarted s after := by
  rw [resetNWP]
  apply ensures_stopNWP.bind
  intro _ stopped hstopped
  apply ensures_slStart.bind
  intro retVal started hstarted
  apply (quiet_grown.restarted retVal started hstarted).mono
  exact fun _ after hafter => ⟨s.outputs, stopped.outputs, List.prefix_refl _, hstopped, hafter⟩

end Nwp

section Tolerant

variable {inv : WifiState → Prop}

/-- What is also kept by a reset of the NWP, and where a connection clears the counters. -/
structure Tolerant (env : WifiEnv) (inv : WifiState → Prop) : Prop where
  quiet : Quiet inv
  resets : Keeps inv (resetNWP env)
  forgets : ∀ s, inv s → inv (Write.errorsForgotten.apply s)

namespace Tolerant

variable (htolerant : Tolerant env inv)

include htolerant

theorem resetNWPRole : Keeps inv (resetNWPRole env) :=
  htolerant.resets.bind fun _ =>
    Keeps.bind (htolerant.quiet.modifies (fun _ => rfl) fun _ => rfl) fun _ => keeps_pure

theorem setRole (role : Byte) : Keeps inv (setRole env role) := by
  apply keeps_get.bind
  intro s
  apply (keeps_runIf _).bind fun _ => keeps_pure
  apply (htolerant.quiet.slWlanSetMode role).bind
  exact fun _ => htolerant.resetNWPRole.bind fun _ => keeps_assertThat

theorem callAct {act : CallAct} (hact : CallActs env act s after) (hinv : inv s) :
    inv after := by
  cases hact with
  | posts | expires | times | adds | frees => exact htolerant.quiet.speaks (by rfl) (by rfl) hinv
  | sets | defers | takes => exact htolerant.quiet.same (by rfl) (by rfl) hinv
  | configures hview | measures hview =>
      have hcounters := congrArg errorCounters hview
      exact htolerant.quiet.same (by exact hcounters) (congrArg (·.outputs) hview) hinv
  | resets _ hrun => exact htolerant.resets.of_run hrun hinv
  | @setsRole role _ _ after _ hrun =>
      have hset : inv after := (htolerant.setRole role).of_run hrun hinv
      exact htolerant.quiet.same (by rfl) (by rfl) hset

theorem runCall (call : Call) : Keeps inv (runCall env call) := by
  have hany : OnlyActs (fun _ => True) (callScripts env call) := fun _ _ _ _ => trivial
  apply keeps_of_follows _ (follows_runCall env call) hany
  exact fun _ _ _ hact _ => htolerant.callAct hact

theorem letOthersCall : Keeps inv (letOthersCall env) :=
  keeps_letOthersCall (fun _ _ _ _ call _ => htolerant.runCall call)
    fun _ _ _ hinv _ => htolerant.quiet.same (by rfl) (by rfl) hinv

theorem notifyNetIf (event : NetIfEvent) : Keeps inv (notifyNetIf env event) :=
  keeps_get.bind fun _ =>
    keeps_runIf ((htolerant.quiet.emit _).bind fun _ => htolerant.letOthersCall)

theorem notifyWifiApp (event : WifiConnEvent) : Keeps inv (notifyWifiApp env event) :=
  keeps_get.bind fun _ =>
    keeps_runIf ((htolerant.quiet.emit _).bind fun _ => htolerant.letOthersCall)

theorem deferredEventProcess : Keeps inv (deferredEventProcess env) := by
  apply keeps_deferredEventProcess
  · exact replays_of_acts fun _ _ _ hact _ => htolerant.callAct hact
  · apply keeps_letOthersPost
    · exact fun _ _ _ _ call _ => htolerant.runCall (.free call)
    · exact fun _ _ _ hinv _ => htolerant.quiet.same (by rfl) (by rfl) hinv

theorem deferredEventEnqueue (event : SmEvent) (pParams : Option Profile) :
    Keeps inv (deferredEventEnqueue event pParams) :=
  keeps_get.bind fun _ =>
    keeps_ite (htolerant.quiet.modifies (fun _ => rfl) fun _ => rfl) keeps_throw

theorem act {act : SmAct} (hact : Acts env act s after) (hinv : inv s) : inv after := by
  cases hact with
  | tells hrun => exact (htolerant.notifyNetIf _).of_run hrun hinv
  | informs hrun | informsStarted hrun | informsStats hrun =>
      exact (htolerant.notifyWifiApp _).of_run hrun hinv
  | enters hrun => exact (htolerant.quiet.setState _).of_run hrun hinv
  | defers hrun => exact (htolerant.deferredEventEnqueue _ _).of_run hrun hinv
  | drains hrun => exact htolerant.deferredEventProcess.of_run hrun hinv
  | arms hrun | disarms hrun => exact (htolerant.quiet.startAsyncEvtTimer _).of_run hrun hinv
  | asks _ hrun | connects hrun | setsApSsid hrun | setsApSecType hrun | setsApPassword hrun
  | startsProvisioning _ hrun | stopsProvisioning hrun =>
      exact (htolerant.quiet.nwpCall _).of_run hrun hinv
  | resets hrun => exact htolerant.resets.of_run hrun hinv
  | resetsRole hrun => exact htolerant.resetNWPRole.of_run hrun hinv
  | setsRole hrun => exact (htolerant.setRole roleSta).of_run hrun hinv
  | suspends hrun => exact htolerant.quiet.suspendNWPPolicy.of_run hrun hinv
  | resumes hrun => exact htolerant.quiet.resumeNWPPolicy.of_run hrun hinv
  | sleeps hrun => exact (htolerant.quiet.emit _).of_run hrun hinv
  | @writes write s =>
      cases write with
      | errorsForgotten => exact htolerant.forgets s hinv
      | oneShotTaken | oneShotGiven =>
          rw [Write.apply]
          split
          · exact htolerant.quiet.same (by rfl) (by rfl) hinv
          · exact hinv
      | _ => exact htolerant.quiet.same (by rfl) (by rfl) hinv
  | finds => exact hinv

end Tolerant

end Tolerant

section Calls

theorem tolerant_grown : Tolerant env (Grown base) where
  quiet := quiet_grown
  resets := grows_resetNWP
  forgets := by
    intro s hgrown
    apply grown_outputs _ hgrown
    rw [Write.apply]
    split <;> rfl

theorem grown_plays {script : List SmAct} (hplays : Plays (Acts env) script s after) :
    s.outputs <+: after.outputs :=
  hplays.keeps (fun _ _ _ _ => tolerant_grown.act) (List.prefix_refl s.outputs)

/-- A script with a reset restarts the NWP. -/
theorem restarted_plays {script : List SmAct} (hplays : Plays (Acts env) script s after)
    (hresets : .resets ∈ script) : Restarted s after := by
  obtain ⟨first, rest, hscript⟩ := List.append_of_mem hresets
  rw [hscript, plays_append] at hplays
  obtain ⟨middle, hfirst, hplays⟩ := hplays
  rw [plays_cons] at hplays
  obtain ⟨reset, hreset, hrest⟩ := hplays
  cases hreset with
  | resets hrun =>
      obtain ⟨before, stopped, hbefore, hstopped, hstarted⟩ := restarted_resetNWP.of_run hrun
      exact ⟨before, stopped, (grown_plays hfirst).trans hbefore, hstopped,
        hstarted.trans (grown_plays hrest)⟩

end Calls

end SimpleLinkHost.WifiRecord
