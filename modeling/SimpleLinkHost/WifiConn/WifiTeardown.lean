import SimpleLinkHost.WifiConn.WifiProvisioning

/-!
# The end of the module

`SlWifiConn_deinit` posts DESTROY in the state `OFF`, and the event is processed behind those
that were posted before it.  An ENABLE event among them takes the machine out of `OFF`
first.
-/

namespace SimpleLinkHost.WifiTeardown

open CallOutcome ProgramInvariant ProgramScript WifiContext WifiApi WifiMachine WifiFrames
open WifiScripts WifiCalls WifiActs WifiRuns WifiProvisioning
open Transition (AttemptsSatisfy StatesSatisfy StepsSatisfy)

variable {env : WifiEnv} {s after : WifiState}

section Property

/-- DESTROY is processed in `OFF`. -/
def DestroysOff (s : WifiState) : WifiAct → Prop
  | .handle _ _ => s.received = some .destroy → s.state = .off
  | _ => True

def isDeinit : Call → Bool
  | .free .deinit => true
  | _ => false

/-- An ENABLE event is handled with no DESTROY event behind it, and without a call of
`SlWifiConn_deinit` meanwhile. -/
def EnablesAlone (s : WifiState) : WifiAct → Prop
  | .handle notified posting => s.received = some .enable → s.state = .off →
      .destroy ∉ s.eventQ ∧ AllAllowed (fun call => isDeinit call = false) notified posting
  | _ => True

end Property

section Waits

/-- A DESTROY event was posted, and is not processed yet. -/
def DestroyWaits (s : WifiState) : Prop := .destroy ∈ s.eventQ ∨ s.received = some .destroy

/-- DESTROY is not deferred. -/
def NeverDeferred (s : WifiState) : Prop :=
  ∀ deferred ∈ s.deferredEventQ, deferred.event ≠ .destroy

/-- Neither is the state left nor DESTROY posted or deferred. -/
structure Unmoved (s after : WifiState) : Prop where
  state : after.state = s.state
  waits : DestroyWaits after ↔ DestroyWaits s
  deferred : NeverDeferred s → NeverDeferred after

/-- The queues, what was received, and the state. -/
def queueView (s : WifiState) := (s.state, s.received, s.eventQ, s.deferredEventQ)

theorem unmoved_of_queues (hview : queueView after = queueView s) : Unmoved s after := by
  have hreceived : after.received = s.received := congrArg (·.2.1) hview
  have heventQ : after.eventQ = s.eventQ := congrArg (·.2.2.1) hview
  have hdeferred : after.deferredEventQ = s.deferredEventQ := congrArg (·.2.2.2) hview
  refine ⟨congrArg (·.1) hview, ?_, fun hnever => ?_⟩
  · rw [DestroyWaits, hreceived, heventQ]
    rfl
  · rwa [NeverDeferred, hdeferred]

theorem unmoved_of_context {heard : Output → Bool}
    (hview : contextView heard after = contextView heard s) : Unmoved s after :=
  unmoved_of_queues (congrArg (fun view => (view.state, view.received, view.eventQ,
    view.deferredEventQ)) hview)

theorem unmoved_signalEvent {event : SmEvent} (hevent : event ≠ .destroy) :
    Ensures (signalEvent event) s fun _ after => Unmoved s after := by
  rw [Ensures, signalEvent, ends_bind, ends_get, ends_ite]
  split
  · exact unmoved_of_queues rfl
  rw [ends_ite]
  split
  · refine ⟨rfl, ?_, id⟩
    simp [DestroyWaits, hevent.symm]
  · trivial

theorem unmoved_of_act {act : CallAct} (hact : CallActs env act s after)
    (hpost : act ≠ .posts .destroy) : Unmoved s after := by
  cases hact with
  | @posts event =>
      have hevent : SmEvent.destroy ≠ event := fun hsame => hpost (hsame ▸ rfl)
      refine ⟨rfl, ?_, id⟩
      simp [DestroyWaits, hevent]
  | configures hview | measures hview =>
      have hsame : queueView (configView after) = queueView (configView s) :=
        congrArg queueView hview
      exact unmoved_of_queues hsame
  | defers =>
      refine ⟨rfl, Iff.rfl, fun hnever deferred hmem => ?_⟩
      rcases List.mem_append.mp hmem with hbefore | hlast
      · exact hnever deferred hbefore
      · rw [List.mem_singleton.mp hlast]
        exact fun hdestroy => by cases hdestroy
  | takes hqueue =>
      refine ⟨rfl, Iff.rfl, fun hnever deferred hmem => hnever deferred ?_⟩
      rw [hqueue]
      exact List.mem_cons_of_mem _ hmem
  | resets _ hrun => exact unmoved_of_context ((leaves_resetNWP env deaf_to_reset).of_run hrun)
  | @setsRole role _ _ after _ hrun =>
      have hsame := unmoved_of_context ((leaves_setRole env deaf_to_reset role).of_run hrun)
      exact ⟨hsame.state, hsame.waits, hsame.deferred⟩
  | _ => exact unmoved_of_queues rfl

/-- Only `SlWifiConn_deinit` posts DESTROY. -/
theorem onlyActs_notDestroy {call : Call} (hcall : isDeinit call = false) :
    OnlyActs (· ≠ .posts .destroy) (callScripts env call) := by
  have hposts {event : Option SmEvent} (hevent : event ≠ some .destroy) :
      OnlyActs (· ≠ .posts .destroy) (postScripts event) := by
    refine onlyActs_posts fun posted hposted hsame => hevent ?_
    injection hsame with hdestroy
    rw [hposted, hdestroy]
  have honly {act : CallAct} (hact : act ≠ .posts .destroy) :
      OnlyActs (· ≠ .posts .destroy) (only act) :=
    onlyActs_only hact
  have hthen {act : CallAct} {scripts : List (List CallAct)} (hact : act ≠ .posts .destroy)
      (hscripts : OnlyActs (· ≠ .posts .destroy) scripts) :
      OnlyActs (· ≠ .posts .destroy) (inOrder [only act, scripts]) :=
    onlyActs_andThen (honly hact) (onlyActs_andThen hscripts onlyActs_nil)
  cases call with
  | free call =>
      cases call with
      | deinit => cases hcall
      | setDeleteAllProfiles | setConfiguration =>
          exact onlyActs_perhaps (honly fun hsame => by cases hsame)
      | wlanConnect => exact hthen (fun hsame => by cases hsame) (hposts (by decide))
      | timerExpires =>
          exact onlyActs_perhaps (hthen (fun hsame => by cases hsame) (hposts (by decide)))
      | provisioningStatus status =>
          apply hposts
          cases status <;> simp only [provStatusEvent] <;> first | (split <;> decide) | decide
      | netApp event =>
          apply hposts
          cases event <;> decide
      | _ => exact onlyActs_post fun hsame => by cases hsame
  | enableProvisioning =>
      exact onlyActs_perhaps (hthen (fun hsame => by cases hsame) (hposts (by decide)))
  | addProfile call =>
      apply onlyActs_perhaps
      rw [addScripts]
      split
      · exact onlyActs_perhaps (hthen (fun hsame => by cases hsame) (hposts (by decide)))
      · apply hthen fun hsame => by cases hsame
        split
        · exact hthen (fun hsame => by cases hsame) (hposts (by decide))
        · exact hposts (by decide)
  | setRole | reset => exact onlyActs_perhaps (honly fun hsame => by cases hsame)
  | enableStats | disableStats =>
      exact onlyActs_perhaps (hthen (fun hsame => by cases hsame)
        (onlyActs_perhaps (honly fun hsame => by cases hsame)))

end Waits

section Guarded

variable {inv : WifiState → Prop} {allowed : Call → Prop}

/-- What does not depend on more than the queues and the state, and holds without a deferred
DESTROY event. -/
structure Guarded (env : WifiEnv) (allowed : Call → Prop) (inv : WifiState → Prop) : Prop where
  unmoved : ∀ s after, Unmoved s after → inv s → inv after
  deinit : allowed (.free .deinit) → Keeps inv (runCall env (.free .deinit))
  deferred : ∀ s, inv s → NeverDeferred s

theorem Guarded.runCall (hguarded : Guarded env allowed inv) {call : Call} (hcall : allowed call) :
    Keeps inv (runCall env call) := by
  by_cases hdeinit : isDeinit call = true
  · have hsame : call = .free .deinit := by
      unfold isDeinit at hdeinit
      split at hdeinit
      · rfl
      · cases hdeinit
    subst hsame
    exact hguarded.deinit hcall
  · rw [Bool.not_eq_true] at hdeinit
    apply keeps_of_follows _ (follows_runCall env call) (onlyActs_notDestroy hdeinit)
    exact fun act s s' hact hpost hinv => hguarded.unmoved s s' (unmoved_of_act hact hpost) hinv

theorem Guarded.kept (hguarded : Guarded env allowed inv) :
    Kept env WifiFrames.deaf allowed inv where
  deaf _ _ := rfl
  view s after hview := hguarded.unmoved s after (unmoved_of_context hview)
  lists s _ _ := hguarded.unmoved s _ (unmoved_of_queues rfl)
  call _ := hguarded.runCall

/-- The replay posts the deferred events, none of which is DESTROY. -/
theorem Guarded.drains (hguarded : Guarded env allowed inv) :
    Keeps (fun s => inv s ∧ Scheduled allowed s) (deferredEventProcess env) := by
  have hquiet {α : Type} {program : Sm α} (hprogram : Leaves quietView program) :
      Keeps (Scheduled allowed) program :=
    scheduled_of_machine (hprogram.project Prod.fst)
  have hposts (event : SmEvent) (hevent : event ≠ .destroy) :
      Keeps (fun s => inv s ∧ Scheduled allowed s) (signalEvent event) := by
    have hinv : Keeps inv (signalEvent event) := fun s hinv =>
      (unmoved_signalEvent hevent).mono fun _ after hsame => hguarded.unmoved s after hsame hinv
    exact hinv.and (hquiet (leaves_signalEvent event))
  have hnever (s : WifiState) (hboth : inv s ∧ Scheduled allowed s) :
      ∀ deferred ∈ s.deferredEventQ, deferred.event ≠ .destroy :=
    hguarded.deferred s hboth.1
  apply keeps_deferredEventProcess_of _ hnever hposts hguarded.kept.letOthersPost
  intro s deferred rest hqueue hboth
  have htakes : CallActs env .takes s { s with deferredEventQ := rest } := .takes hqueue
  have htaken := unmoved_of_act htakes fun hsame => by cases hsame
  have hadds : Keeps inv (addDeferredProfile env deferred) := by
    rw [addDeferredProfile]
    split
    · rename_i profile _ _
      have hadd : Leaves (contextView WifiFrames.deaf)
          (nwpCall env (.profileAdd profile (profile.secType = env.secTypeWpaEnt))) :=
        contexts (leaves_nwpCall env rfl)
      apply Keeps.bind
      · intro before hbefore
        apply hadd.ensures.mono
        exact fun _ after hview => hguarded.kept.view before after hview hbefore
      · exact fun _ => keeps_modify fun s hinv => hguarded.unmoved s _ (unmoved_of_queues rfl) hinv
    · exact keeps_pure
  exact (hadds.and (hquiet (leaves_addDeferredProfile env deferred))) _
    ⟨hguarded.unmoved s _ htaken hboth.1, hboth.2⟩

/-- The acts that neither enter a state nor defer DESTROY keep it. -/
theorem Guarded.act {act : SmAct} (hguarded : Guarded env allowed inv)
    (hact : Acts env act s after) (henters : ∀ state, act ≠ .enters state)
    (hdefers : act ≠ .defers .destroy) (hboth : inv s ∧ Scheduled allowed s) :
    inv after ∧ Scheduled allowed after := by
  by_cases hdrains : ∃ replayed, act = .drains replayed
  · obtain ⟨replayed, rfl⟩ := hdrains
    cases hact with
    | drains hrun => exact hguarded.drains.of_run hrun hboth
  by_cases hplain : plainAct act = true
  · apply hguarded.kept.act hact hplain _ hboth
    exact fun replayed hreplayed => absurd ⟨replayed, hreplayed⟩ hdrains
  rw [Bool.not_eq_true] at hplain
  by_cases hasks : ∃ call, act = .asks call
  · obtain ⟨call, rfl⟩ := hasks
    cases hact with
    | asks _ hrun =>
        exact (hguarded.kept.leaves (contexts (leaves_nwpCall env rfl))).of_run hrun hboth
  have hwrite : WriteCase env s act after :=
    writeCase_of_acts hact hplain fun call hcall => hasks ⟨call, hcall⟩
  refine ⟨hguarded.unmoved s after ?_ hboth.1, scheduled_of_writes hwrite hboth.2⟩
  cases hwrite with
  | enters => exact absurd rfl (henters _)
  | @defers event =>
      have hevent : event ≠ .destroy := fun hsame => hdefers (hsame ▸ rfl)
      refine ⟨rfl, Iff.rfl, fun hnever deferred hmem => ?_⟩
      rcases List.mem_append.mp hmem with hbefore | hlast
      · exact hnever deferred hbefore
      · rw [List.mem_singleton.mp hlast]
        exact hevent
  | writes =>
      exact unmoved_of_queues (Write.frame queueView (fun _ _ _ _ _ _ _ => rfl) _ s)
  | _ => exact unmoved_of_queues rfl

/-- A script that enters no state in which it would be lost, keeps it. -/
theorem Guarded.plays {script : List SmAct} (hguarded : Guarded env allowed inv)
    (hplays : Plays (Acts env) script s after) (hdefers : .defers .destroy ∉ script)
    (henters : ∀ state, .enters state ∈ script → ∀ s, inv s →
      inv { s with state := state, outputs := s.outputs ++ [.entered state] })
    (hboth : inv s ∧ Scheduled allowed s) : inv after ∧ Scheduled allowed after := by
  apply hplays.keeps _ hboth
  intro act hmem s s' hact hboth
  by_cases hstate : ∃ state, act = .enters state
  · obtain ⟨state, rfl⟩ := hstate
    cases hact with
    | enters hrun =>
        injection hrun with _ hafter
        subst hafter
        exact ⟨henters state hmem s hboth.1, hboth.2⟩
  · apply hguarded.act hact (fun state hsame => hstate ⟨state, hsame⟩) _ hboth
    rintro rfl
    exact hdefers hmem

end Guarded

section Tables

theorem destroy_not_deferred (state : SmState) (event : SmEvent) :
    ∀ script ∈ processScripts state event, .defers .destroy ∉ script := by
  cases state <;> cases event <;> decide +kernel

/-- In `OFF` only ENABLE does something. -/
theorem off_scripts {event : SmEvent} (hevent : event ≠ .enable) :
    ∀ script ∈ processScripts .off event, script = [] := by
  cases event <;> first | decide +kernel | exact absurd rfl hevent

/-- `OFF` is entered at the end. -/
theorem off_entered_last {state : SmState} (hstate : state ≠ .off) (event : SmEvent) :
    ∀ script ∈ processScripts state event, .enters .off ∉ script.dropLast := by
  cases state <;> first | exact absurd rfl hstate | (cases event <;> decide +kernel)

end Tables

section Runs

variable {event : SmEvent} {notified : List (List Call)} {posting : List (List FreeCall)}
variable {script : List SmAct} {final : WifiState}

/-- DESTROY waits in `OFF` only. -/
def WaitsOff (s : WifiState) : Prop := NeverDeferred s ∧ (DestroyWaits s → s.state = .off)

/-- No DESTROY event waits. -/
def NoneWaits (s : WifiState) : Prop := NeverDeferred s ∧ ¬DestroyWaits s

/-- No DESTROY event waits, and none can be posted. -/
def NonePosted (s : WifiState) : Prop := NoneWaits s ∧ s.state ≠ .off

theorem WaitsOff.none (hwaits : WaitsOff s) (hstate : s.state ≠ .off) : NonePosted s :=
  ⟨⟨hwaits.1, fun hdestroy => hstate (hwaits.2 hdestroy)⟩, hstate⟩

theorem NoneWaits.off (hnone : NoneWaits s) : WaitsOff s :=
  ⟨hnone.1, fun hwaits => absurd hwaits hnone.2⟩

theorem NoneWaits.unmoved (hsame : Unmoved s after) (hnone : NoneWaits s) : NoneWaits after :=
  ⟨hsame.deferred hnone.1, fun hwaits => hnone.2 (hsame.waits.mp hwaits)⟩

theorem ensures_deinit {ends : WifiState → Prop}
    (hdeinit : Ensures slWifiConnDeinit s fun _ after => ends after) :
    Ensures (runCall env (.free .deinit)) s fun _ after => ends after := by
  rw [Ensures, runCall, runFreeCall, ends_outside, runUnlocked, ignoreRet]
  exact hdeinit.bind fun _ _ hafter => hafter

theorem guarded_noneWaits : Guarded env (fun call => isDeinit call = false) NoneWaits where
  unmoved _ _ hsame hnone := hnone.unmoved hsame
  deinit hallowed := by cases hallowed
  deferred _ hnone := hnone.1

/-- Out of `OFF`, `SlWifiConn_deinit` is refused. -/
theorem guarded_nonePosted : Guarded env anyCall NonePosted where
  unmoved _ _ hsame hnone := ⟨hnone.1.unmoved hsame, fun hoff => hnone.2 (hsame.state ▸ hoff)⟩
  deinit _ := by
    intro s hnone
    have hrefused : Ensures slWifiConnDeinit s fun _ after => NonePosted after := by
      rw [Ensures, slWifiConnDeinit, ends_bind, ends_get, ends_ite]
      split
      · exact hnone
      · rw [ends_ite, if_neg hnone.2]
        exact hnone
    exact ensures_deinit hrefused
  deferred _ hnone := hnone.1.1

theorem waitsOff_signalEvent (hwaits : WaitsOff s) (hoff : s.state = .off) :
    Ensures (signalEvent .destroy) s fun _ after => WaitsOff after := by
  rw [Ensures, signalEvent, ends_bind, ends_get, ends_ite]
  split
  · exact hwaits
  rw [ends_ite]
  split
  · exact ⟨hwaits.1, fun _ => hoff⟩
  · trivial

theorem waitsOff_deinit : Keeps WaitsOff (runCall env (.free .deinit)) := by
  intro s hwaits
  have hdeinit : Ensures slWifiConnDeinit s fun _ after => WaitsOff after := by
    rw [Ensures, slWifiConnDeinit, ends_bind, ends_get, ends_ite]
    split
    · exact hwaits
    split
    · rename_i hoff
      exact (waitsOff_signalEvent hwaits hoff).bind fun _ _ hafter => hafter
    · exact hwaits
  exact ensures_deinit hdeinit

theorem guarded_waitsOff : Guarded env anyCall WaitsOff where
  unmoved _ _ hsame hwaits :=
    ⟨hsame.deferred hwaits.1, fun hafter => hsame.state.trans (hwaits.2 (hsame.waits.mp hafter))⟩
  deinit _ := waitsOff_deinit
  deferred _ hwaits := hwaits.1

/-- What was received waits no more. -/
theorem handling_notWaits (hwaits : ¬DestroyWaits s) :
    ¬DestroyWaits (handling s event notified posting) := by
  rintro (hqueued | hreceived)
  · exact hwaits (.inl hqueued)
  · cases hreceived

/-- Out of `OFF`, no DESTROY event is posted before the script ends, and `OFF` can be entered by
the last act only. -/
theorem waitsOff_leaves (hnone : NonePosted s) (hscript : script ∈ processScripts s.state event)
    (hplays : Plays (Acts env) script (handling s event notified posting) final) :
    WaitsOff final := by
  have hdefers := destroy_not_deferred s.state event script hscript
  have hhandling : NonePosted (handling s event notified posting) :=
    ⟨⟨hnone.1.1, handling_notWaits hnone.1.2⟩, hnone.2⟩
  rcases List.eq_nil_or_concat script with hempty | ⟨front, last, hsplit⟩
  · subst hempty
    cases hplays
    exact hhandling.1.off
  have hlast := off_entered_last hnone.2 event script hscript
  subst hsplit
  rw [List.concat_eq_append, List.dropLast_concat] at hlast
  rw [List.concat_eq_append] at hplays hdefers
  obtain ⟨middle, hfront, hplays⟩ := plays_append.mp hplays
  have henters (script : List SmAct) (hscript : .enters .off ∉ script) (state : SmState)
      (hmem : .enters state ∈ script) (s : WifiState) (hnone : NonePosted s) :
      NonePosted { s with state := state, outputs := s.outputs ++ [.entered state] } :=
    ⟨⟨hnone.1.1, hnone.1.2⟩, fun hentered : state = .off => hscript (hentered ▸ hmem)⟩
  have hmiddle := guarded_nonePosted.plays hfront
    (fun hmem => hdefers (List.mem_append_left _ hmem)) (henters front hlast)
    ⟨hhandling, allAllowed_anyCall notified posting⟩
  by_cases hoff : last = .enters .off
  · subst hoff
    obtain ⟨_, hact, hend⟩ := plays_cons.mp hplays
    cases hend
    cases hact with
    | enters hrun =>
        injection hrun with _ hfinal
        subst hfinal
        exact ⟨hmiddle.1.1.1, fun _ => rfl⟩
  · have hfinal := guarded_nonePosted.plays hplays
      (fun hmem => hdefers (List.mem_append_right _ hmem))
      (henters [last] fun hmem => hoff (List.mem_singleton.mp hmem).symm) hmiddle
    exact hfinal.1.1.off

theorem waitsOff_process (hwaits : WaitsOff s)
    (halone : EnablesAlone s (.handle notified posting)) (hreceived : s.received = some event)
    (hscript : script ∈ processScripts s.state event)
    (hplays : Plays (Acts env) script (handling s event notified posting) final) :
    WaitsOff final := by
  by_cases hoff : s.state = .off
  · by_cases henable : event = .enable
    · -- Only ENABLE leaves `OFF`, and by the condition nothing is behind it.
      subst henable
      obtain ⟨hqueue, hallowed⟩ := halone hreceived hoff
      have hnone : NoneWaits (handling s .enable notified posting) := by
        refine ⟨hwaits.1, ?_⟩
        rintro (hqueued | hdestroy)
        · exact hqueue hqueued
        · cases hdestroy
      have hfinal := guarded_noneWaits.plays hplays
        (destroy_not_deferred s.state .enable script hscript)
        (fun _ _ _ hnone => ⟨hnone.1, hnone.2⟩) ⟨hnone, hallowed⟩
      exact hfinal.1.off
    · rw [hoff] at hscript
      rw [off_scripts henable script hscript] at hplays
      cases hplays
      exact ⟨hwaits.1, fun _ => hoff⟩
  · exact waitsOff_leaves (hwaits.none hoff) hscript hplays

/-- In a run in which ENABLE is handled alone, DESTROY waits in `OFF` only. -/
theorem waitsOff_step {act : WifiAct} (hwaits : WaitsOff s) (halone : EnablesAlone s act)
    (hstep : step env s act = some after) : WaitsOff after := by
  cases stepCase_of_step hstep with
  | call hrun => exact (guarded_waitsOff.runCall trivial).of_run hrun hwaits
  | @receive event rest hreceived heventQ =>
      refine ⟨hwaits.1, fun hafter => hwaits.2 ?_⟩
      rw [DestroyWaits, heventQ, List.mem_cons]
      rcases hafter with hqueued | hdestroy
      · exact .inl (.inr hqueued)
      · injection hdestroy with hdestroy
        exact .inl (.inl hdestroy.symm)
  | process hreceived _ hscript hplays =>
      have hfinal := waitsOff_process hwaits halone hreceived hscript hplays
      exact hfinal
  | @destroy notified posting final _ hrun =>
      have hcleared : final.eventQ = [] ∧ final.deferredEventQ = [] ∧ final.received = none := by
        injection hrun with _ hfinal
        subst hfinal
        exact ⟨rfl, rfl, rfl⟩
      refine ⟨fun deferred hmem => ?_, ?_⟩
      · change deferred ∈ final.deferredEventQ at hmem
        rw [hcleared.2.1] at hmem
        cases hmem
      · change _ ∈ final.eventQ ∨ final.received = _ → _
        rw [hcleared.1, hcleared.2.2]
        simp

/-- DESTROY is posted behind ENABLE. -/
def deinitBehindEnable : List WifiAct :=
  [.call (.free .enable), .call (.free .deinit), .receive, .handle [] [], .receive]

/-- The condition, computed for handlers that nothing interrupts. -/
def enablesAlone (s : WifiState) : WifiAct → Bool
  | .handle notified posting =>
      !s.eventQ.contains .destroy && notified.isEmpty && posting.isEmpty
  | _ => true

theorem enablesAlone_sound (s : WifiState) (act : WifiAct) (hcheck : enablesAlone s act = true) :
    EnablesAlone s act := by
  cases act with
  | handle notified posting =>
      simp only [enablesAlone, Bool.and_eq_true, List.isEmpty_iff] at hcheck
      obtain ⟨⟨hqueue, hnotified⟩, hposting⟩ := hcheck
      subst hnotified hposting
      intro _ _
      refine ⟨?_, ⟨fun _ hmem => (by cases hmem), fun _ hmem => (by cases hmem)⟩⟩
      simpa using hqueue
  | _ => trivial

end Runs

end SimpleLinkHost.WifiTeardown
