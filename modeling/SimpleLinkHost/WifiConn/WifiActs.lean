import SimpleLinkHost.WifiConn.WifiCalls

/-!
# What the acts of the handlers keep

A handler notifies, asks the NWP and replays the deferred events.  What does not depend
on what it says there, and is kept by the acts of the calls that may come with the
notifications and the replay, is kept by these acts of the handler; the others set the
timer, defer an event, change the state or write to the context.
-/

namespace SimpleLinkHost.WifiActs

open CallOutcome ProgramInvariant ProgramScript WifiContext WifiApi WifiMachine WifiFrames
open WifiScripts WifiCalls

variable {env : WifiEnv} {s after : WifiState} {heard : Output → Bool}
variable {inv : WifiState → Prop}

/-- What the handlers say in notifications, in sleeps and to the NWP, up to the commands
that add a profile or control the provisioning. -/
def ofHandler : Output → Bool
  | .nwp (.profileAdd _ _) | .nwp (.provisioning _ _ _ _ _) => false
  | .nwp _ | .netIf _ | .app _ | .sleep _ => true
  | _ => false

theorem ofHandler_of_reset (output : Output) (houtput : ofReset output = true) :
    ofHandler output = true := by
  obtain ⟨call, rfl⟩ | ⟨seconds, rfl⟩ := kind_of_reset houtput
  · cases call <;> first | rfl | cases houtput
  · rfl

def AllAllowed (allowed : Call → Prop) (notified : List (List Call))
    (posting : List (List FreeCall)) : Prop :=
  (∀ calls ∈ notified, ∀ call ∈ calls, allowed call) ∧
    ∀ calls ∈ posting, ∀ call ∈ calls, allowed (.free call)

/-- The calls that are to come with the handler are allowed. -/
def Scheduled (allowed : Call → Prop) (s : WifiState) : Prop :=
  AllAllowed allowed s.notified s.posting

/-- What does not depend on what the handlers say, nor on what a reset writes, and is
kept by the calls that are allowed. -/
structure Kept (env : WifiEnv) (heard : Output → Bool) (allowed : Call → Prop)
    (inv : WifiState → Prop) : Prop where
  deaf : ∀ output, ofHandler output = true → heard output = false
  view : ∀ s after, contextView heard after = contextView heard s → inv s → inv after
  lists : ∀ s notified posting, inv s → inv { s with notified := notified, posting := posting }
  call : ∀ call, allowed call → Keeps inv (runCall env call)

/-- The acts that only notify, ask the NWP and replay. -/
def plainAct : SmAct → Bool
  | .enters _ | .arms | .disarms | .defers _ | .writes _ | .startsProvisioning
  | .stopsProvisioning => false
  | .asks call => ofHandler (.nwp call)
  | _ => true

section Programs

variable {allowed : Call → Prop}

theorem scheduled_of_machine {α : Type} {program : Sm α} (hprogram : Leaves machineView program) :
    Keeps (Scheduled allowed) program := by
  intro before hbefore
  apply hprogram.ensures.mono
  intro _ after hview
  have hnotified : after.notified = before.notified := congrArg (·.2.2.2.1) hview
  have hposting : after.posting = before.posting := congrArg (·.2.2.2.2.1) hview
  rwa [Scheduled, hnotified, hposting]

theorem Kept.leaves {α : Type} {program : Sm α} (hkept : Kept env heard allowed inv)
    (hprogram : Leaves (contextView heard) program) :
    Keeps (fun s => inv s ∧ Scheduled allowed s) program := by
  have hinv : Keeps inv program := by
    intro before hinv
    apply hprogram.ensures.mono
    exact fun _ after hview => hkept.view before after hview hinv
  apply hinv.and
  exact hprogram.keeps (Scheduled allowed)

theorem Kept.emit {output : Output} (hkept : Kept env heard allowed inv)
    (houtput : ofHandler output = true) :
    Keeps (fun s => inv s ∧ Scheduled allowed s) (emit output) :=
  hkept.leaves (contexts (leaves_emit (hkept.deaf output houtput)))

theorem Kept.nwpCall {call : NwpCall} (hkept : Kept env heard allowed inv)
    (hcall : ofHandler (.nwp call) = true) :
    Keeps (fun s => inv s ∧ Scheduled allowed s) (nwpCall env call) :=
  hkept.leaves (contexts (leaves_nwpCall env (hkept.deaf _ hcall)))

theorem Kept.reset (hkept : Kept env heard allowed inv) (output : Output)
    (houtput : ofReset output = true) : heard output = false :=
  hkept.deaf output (ofHandler_of_reset output houtput)

theorem Kept.runCall {call : Call} (hkept : Kept env heard allowed inv) (hcall : allowed call) :
    Keeps (fun s => inv s ∧ Scheduled allowed s) (runCall env call) :=
  (hkept.call call hcall).and (scheduled_of_machine (leaves_runCall env call))

theorem Kept.letOthersCall (hkept : Kept env heard allowed inv) :
    Keeps (fun s => inv s ∧ Scheduled allowed s) (letOthersCall env) := by
  apply keeps_letOthersCall
  · intro s hboth calls hcalls call hcall
    exact hkept.runCall (hboth.2.1 calls hcalls call hcall)
  · intro s calls rest hboth hnotified
    refine ⟨hkept.lists s rest s.posting hboth.1, fun others hothers => ?_, hboth.2.2⟩
    apply hboth.2.1 others
    rw [hnotified]
    exact List.mem_cons_of_mem calls hothers

theorem Kept.letOthersPost (hkept : Kept env heard allowed inv) :
    Keeps (fun s => inv s ∧ Scheduled allowed s) (letOthersPost env) := by
  apply keeps_letOthersPost
  · intro s hboth calls hcalls call hcall
    exact hkept.runCall (hboth.2.2 calls hcalls call hcall)
  · intro s calls rest hboth hposting
    refine ⟨hkept.lists s s.notified rest hboth.1, hboth.2.1, fun others hothers => ?_⟩
    apply hboth.2.2 others
    rw [hposting]
    exact List.mem_cons_of_mem calls hothers

theorem Kept.notifyNetIf (hkept : Kept env heard allowed inv) (event : NetIfEvent) :
    Keeps (fun s => inv s ∧ Scheduled allowed s) (notifyNetIf env event) := by
  apply keeps_get.bind
  intro s
  exact keeps_runIf ((hkept.emit rfl).bind fun _ => hkept.letOthersCall)

theorem Kept.notifyWifiApp (hkept : Kept env heard allowed inv) (event : WifiConnEvent) :
    Keeps (fun s => inv s ∧ Scheduled allowed s) (notifyWifiApp env event) := by
  apply keeps_get.bind
  intro s
  exact keeps_runIf ((hkept.emit rfl).bind fun _ => hkept.letOthersCall)

theorem Kept.drains (hkept : Kept env heard allowed inv) (hreplay : Replays env inv) :
    Keeps (fun s => inv s ∧ Scheduled allowed s) (deferredEventProcess env) := by
  have hquiet {α : Type} {program : Sm α} (hprogram : Leaves quietView program) :
      Keeps (Scheduled allowed) program :=
    scheduled_of_machine (hprogram.project Prod.fst)
  apply keeps_deferredEventProcess _ hkept.letOthersPost
  constructor
  · intro s deferred rest hqueue hboth
    apply (hreplay.adds s deferred rest hqueue hboth.1).and
    exact hquiet (leaves_addDeferredProfile env deferred) _ hboth.2
  · exact fun event => (hreplay.posts event).and (hquiet (leaves_signalEvent event))

/-- The plain acts keep it, if the replay does where there is one. -/
theorem Kept.act {act : SmAct} (hkept : Kept env heard allowed inv)
    (hact : Acts env act s after) (hplain : plainAct act = true)
    (hreplay : ∀ replayed, act = .drains replayed → Replays env inv)
    (hboth : inv s ∧ Scheduled allowed s) : inv after ∧ Scheduled allowed after := by
  cases hact with
  | tells hrun => exact (hkept.notifyNetIf _).of_run hrun hboth
  | informs hrun | informsStarted hrun | informsStats hrun =>
      exact (hkept.notifyWifiApp _).of_run hrun hboth
  | drains hrun => exact (hkept.drains (hreplay _ rfl)).of_run hrun hboth
  | asks _ hrun => exact (hkept.nwpCall hplain).of_run hrun hboth
  | connects hrun | setsApSsid hrun | setsApSecType hrun | setsApPassword hrun =>
      exact (hkept.nwpCall rfl).of_run hrun hboth
  | resets hrun => exact (hkept.leaves (leaves_resetNWP env hkept.reset)).of_run hrun hboth
  | resetsRole hrun => exact (hkept.leaves (leaves_resetNWPRole env hkept.reset)).of_run hrun hboth
  | setsRole hrun => exact (hkept.leaves (leaves_setRole env hkept.reset roleSta)).of_run hrun hboth
  | suspends hrun =>
      exact (hkept.leaves (contexts (leaves_suspendNWPPolicy env hkept.reset))).of_run hrun hboth
  | resumes hrun =>
      exact (hkept.leaves (contexts (leaves_resumeNWPPolicy env hkept.reset))).of_run hrun hboth
  | sleeps hrun => exact (hkept.emit rfl).of_run hrun hboth
  | finds => exact hboth
  | _ => cases hplain

end Programs

section Writes

variable {allowed : Call → Prop} {script : List SmAct}

/-- What the other acts do. -/
inductive WriteCase (env : WifiEnv) (s : WifiState) : SmAct → WifiState → Prop
  | enters {state : SmState} :
      WriteCase env s (.enters state)
        { s with state := state, outputs := s.outputs ++ [.entered state] }
  | arms {duration : ℕ} :
      WriteCase env s .arms
        { s with timer := duration, outputs := s.outputs ++ [.timer duration] }
  | disarms :
      WriteCase env s .disarms { s with timer := 0, outputs := s.outputs ++ [.timer 0] }
  | defers {event : SmEvent} :
      WriteCase env s (.defers event)
        { s with deferredEventQ := s.deferredEventQ ++ [⟨event, none⟩] }
  | writes {write : Write} : WriteCase env s (.writes write) (write.apply s)
  | startsProvisioning {cmd timeout key flags} (hcmd : cmd ≠ env.provisioningCmdStop) :
      WriteCase env s .startsProvisioning
        { s with outputs := s.outputs ++ [.nwp (.provisioning cmd roleSta timeout key flags)] }
  | stopsProvisioning {role timeout key flags} :
      WriteCase env s .stopsProvisioning
        { s with
          outputs := s.outputs ++
            [.nwp (.provisioning env.provisioningCmdStop role timeout key flags)] }

theorem writeCase_of_acts {act : SmAct} (hact : Acts env act s after)
    (hwrites : plainAct act = false) (hasked : ∀ call, act ≠ .asks call) :
    WriteCase env s act after := by
  cases hact with
  | enters hrun | arms hrun | disarms hrun =>
      injection hrun with _ hafter
      subst hafter
      constructor
  | @defers event _ _ hrun =>
      have hdefers : Ensures (deferredEventEnqueue event none) s fun _ after =>
          WriteCase env s (.defers event) after := by
        rw [Ensures, deferredEventEnqueue, ends_bind, ends_get, ends_ite]
        split
        · exact WriteCase.defers
        · trivial
      exact hdefers.of_run hrun
  | writes => exact .writes
  | startsProvisioning hcmd hrun =>
      injection hrun with _ hafter
      subst hafter
      exact .startsProvisioning hcmd
  | stopsProvisioning hrun =>
      injection hrun with _ hafter
      subst hafter
      exact .stopsProvisioning
  | asks => exact absurd rfl (hasked _)
  | _ => cases hwrites

/-- Everything but the bookkeeping of the handlers. -/
def bookView (s : WifiState) : WifiState :=
  { s with
    provMode := .off
    bDeleteAllProfiles := false
    idleInterval := 0
    bWlanConnectUsed := false
    fatalErrorCount := 0
    recoveryDelayLevel := 0 }

theorem bookView_write (write : Write) (s : WifiState) :
    bookView (write.apply s) = bookView s :=
  Write.frame bookView (fun _ _ _ _ _ _ _ => rfl) write s

theorem scheduled_of_writes {act : SmAct} (hwrites : WriteCase env s act after)
    (hscheduled : Scheduled allowed s) : Scheduled allowed after := by
  cases hwrites with
  | writes =>
      have hsame : Scheduled allowed (bookView s) := hscheduled
      rw [← bookView_write] at hsame
      exact hsame
  | _ => exact hscheduled

/-- The handlers neither add profiles nor control the provisioning by plain commands. -/
def asksPlainly : SmAct → Bool
  | .asks call => ofHandler (.nwp call)
  | _ => true

theorem asksPlainly_process (state : SmState) (event : SmEvent) :
    ∀ script ∈ processScripts state event, script.all asksPlainly = true := by
  cases state <;> cases event <;> decide +kernel

/-- What the acts of a script keep, with all that others do meanwhile, the script keeps. -/
theorem Kept.plays (hkept : Kept env heard allowed inv)
    (hplays : Plays (Acts env) script s after) (hasks : script.all asksPlainly = true)
    (hreplay : ∀ replayed, .drains replayed ∈ script → Replays env inv)
    (hwrites : ∀ act ∈ script, ∀ s after, WriteCase env s act after → inv s → inv after)
    (hboth : inv s ∧ Scheduled allowed s) : inv after ∧ Scheduled allowed after := by
  apply hplays.keeps _ hboth
  intro act hmem s s' hact hboth
  have hasked := List.all_eq_true.mp hasks act hmem
  by_cases hplain : plainAct act = true
  · apply hkept.act hact hplain _ hboth
    intro replayed hdrains
    subst hdrains
    exact hreplay replayed hmem
  · rw [Bool.not_eq_true] at hplain
    have hwrite : WriteCase env s act s' := by
      apply writeCase_of_acts hact hplain
      intro call hcall
      subst hcall
      exact absurd (hasked.symm.trans hplain) (by simp)
    exact ⟨hwrites act hmem s s' hwrite hboth.1, scheduled_of_writes hwrite hboth.2⟩

/-- Every act keeps what no output matters to, if the replay and the writes do. -/
theorem Kept.anyAct {act : SmAct} (hkept : Kept env WifiFrames.deaf allowed inv)
    (hact : Acts env act s after) (hreplay : Replays env inv)
    (hwrites : WriteCase env s act after → inv s → inv after)
    (hboth : inv s ∧ Scheduled allowed s) : inv after ∧ Scheduled allowed after := by
  by_cases hplain : plainAct act = true
  · exact hkept.act hact hplain (fun _ _ => hreplay) hboth
  rw [Bool.not_eq_true] at hplain
  by_cases hasks : ∃ call, act = .asks call
  · obtain ⟨call, hcall⟩ := hasks
    subst hcall
    cases hact with
    | asks _ hrun =>
        exact (hkept.leaves (contexts (leaves_nwpCall env rfl))).of_run hrun hboth
  · have hwrite : WriteCase env s act after :=
      writeCase_of_acts hact hplain fun call hcall => hasks ⟨call, hcall⟩
    exact ⟨hwrites hwrite hboth.1, scheduled_of_writes hwrite hboth.2⟩

end Writes

end SimpleLinkHost.WifiActs
