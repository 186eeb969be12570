import Mathlib.Algebra.GroupWithZero.Nat
import SimpleLinkHost.WifiConn.WifiProfiles
import SimpleLinkHost.WifiConn.WifiSession

/-!
# Room in the queues

Both queues are bounded, and only the thread of the state machine empties them.  A call
that waits for room in the critical section, and a handler that waits for room in its own
queue, wait for ever.  Neither happens as long as the two queues have room for all that
a step can put into them.
-/

namespace SimpleLinkHost.WifiQueues

open CallOutcome ProgramInvariant ProgramScript WifiContext WifiApi WifiMachine WifiFrames
open WifiScripts WifiCalls WifiActs WifiRuns
open WifiProfiles (isDrain replaysDeferred connectUsed_process)
open WifiSession (lateProfile)
open Transition (AttemptsSatisfy)

variable {env : WifiEnv} {s after : WifiState}

section Property

/-- The program waits for room in a queue, in the critical section or in the thread of the
state machine. -/
def Waits (program : Sm Unit) (s : WifiState) : Prop :=
  ∃ after, program.run s = .error .queueFull after

/-- The step never completes, since it waits for room in a queue. -/
def Blocks (env : WifiEnv) (s : WifiState) : WifiAct → Prop
  | .call call => Waits (runCall env call) s
  | .receive => False
  | .handle notified posting => ∃ event, s.received = some event ∧
      Waits (handleEvent env event)
        { s with received := none, notified := notified, posting := posting }

end Property

section Calls

def isPost : CallAct → Bool
  | .posts _ => true
  | _ => false

def isDeferral : CallAct → Bool
  | .defers _ => true
  | _ => false

/-- The events that a call may post: one at most. -/
def posts (env : WifiEnv) (call : Call) : ℕ :=
  if (callScripts env call).any fun script => script.any isPost then 1 else 0

/-- The entries that a call may put into the queue of deferred events. -/
def deferrals (env : WifiEnv) (call : Call) : ℕ := if defers env call then 1 else 0

theorem posts_postScripts (event : Option SmEvent) :
    ∀ script ∈ postScripts event, script.countP isPost ≤ 1 ∧ script.countP isDeferral = 0 := by
  cases event <;> simp [postScripts, perhaps, only, isPost, isDeferral]

/-- No call posts more than one event. -/
theorem countP_call (call : Call) :
    ∀ script ∈ callScripts env call, script.countP isPost ≤ 1 ∧
      script.countP isDeferral ≤ deferrals env call := by
  have hposts (event : Option SmEvent) (script : List CallAct)
      (hscript : script ∈ postScripts event) (bound : ℕ) :
      script.countP isPost ≤ 1 ∧ script.countP isDeferral ≤ bound := by
    have hcount := posts_postScripts event script hscript
    exact ⟨hcount.1, hcount.2 ▸ Nat.zero_le _⟩
  cases call with
  | free call =>
      cases call with
      | provisioningStatus | netApp =>
          rw [callScripts, unlockedScripts]
          exact fun script hscript => hposts _ script hscript _
      | _ =>
          simp [callScripts, unlockedScripts, postScripts, perhaps, only, inOrder, andThen, isPost,
            isDeferral]
  | addProfile call =>
      simp only [callScripts, addScripts, perhaps, only, inOrder, andThen, postScripts]
      by_cases hpersistent : call.nonPersistent = true
      · simp [hpersistent, isPost, isDeferral]
      · by_cases hdefers : defers env (.addProfile call) = true
        · simp [hpersistent, hdefers, isPost, isDeferral, deferrals, List.countP_cons]
        · simp [hpersistent, hdefers, isPost, isDeferral]
  | _ =>
      simp [callScripts, postScripts, perhaps, only, inOrder, andThen, isPost, isDeferral]

theorem countP_posts_le {call : Call} {script : List CallAct}
    (hscript : script ∈ callScripts env call) :
    script.countP isPost ≤ posts env call := by
  rw [posts]
  split
  · exact (countP_call call script hscript).1
  · rename_i hnone
    rw [Nat.le_zero, List.countP_eq_zero]
    intro act hact hpost
    exact hnone (List.any_eq_true.mpr ⟨script, hscript, List.any_eq_true.mpr ⟨act, hact, hpost⟩⟩)

/-- The lengths of the two queues. -/
def lengths (s : WifiState) : ℕ × ℕ := (s.eventQ.length, s.deferredEventQ.length)

theorem lengths_act {act : CallAct} (hact : CallActs env act s after) :
    after.eventQ.length ≤ s.eventQ.length + [act].countP isPost ∧
      after.deferredEventQ.length ≤ s.deferredEventQ.length + [act].countP isDeferral := by
  have hsame (hlengths : lengths after = lengths s) :
      after.eventQ.length ≤ s.eventQ.length + [act].countP isPost ∧
        after.deferredEventQ.length ≤ s.deferredEventQ.length + [act].countP isDeferral := by
    obtain ⟨hevents, hdeferred⟩ := Prod.mk.inj hlengths
    exact ⟨by omega, by omega⟩
  cases hact with
  | posts | defers => simp [isPost, isDeferral]
  | takes hqueue =>
      simp only [hqueue, List.length_cons]
      exact ⟨by omega, by omega⟩
  | configures hview | measures hview =>
      have hlengths : lengths (configView after) = lengths (configView s) := congrArg lengths hview
      exact hsame hlengths
  | resets _ hrun =>
      have hlengths : lengths (contextView deaf after) = lengths (contextView deaf s) :=
        congrArg lengths ((leaves_resetNWP env deaf_to_reset).of_run hrun)
      exact hsame hlengths
  | @setsRole role _ _ after _ hrun =>
      have hlengths : lengths (contextView deaf after) = lengths (contextView deaf s) :=
        congrArg lengths ((leaves_setRole env deaf_to_reset role).of_run hrun)
      exact hsame hlengths
  | _ => exact hsame rfl

theorem lengths_plays {script : List CallAct} (hplays : Plays (CallActs env) script s after) :
    after.eventQ.length ≤ s.eventQ.length + script.countP isPost ∧
      after.deferredEventQ.length ≤ s.deferredEventQ.length + script.countP isDeferral := by
  induction hplays with
  | nil => exact ⟨le_rfl, le_rfl⟩
  | @cons act script _ _ _ hact _ ih =>
      have hfirst := lengths_act hact
      have hsplit : act :: script = [act] ++ script := rfl
      rw [hsplit, List.countP_append, List.countP_append]
      exact ⟨by omega, by omega⟩

/-- A call stops only where one of the queues has no room for all that it sends. -/
theorem full_of_breaks {script : List CallAct} (hbreaks : Breaks (callActing env) script s) :
    eventQMax < s.eventQ.length + script.countP isPost ∨
      deferredEventQMax < s.deferredEventQ.length + script.countP isDeferral := by
  induction hbreaks with
  | @here act script _ hstops =>
      have hsplit : act :: script = [act] ++ script := rfl
      rw [hsplit, List.countP_append, List.countP_append]
      cases hstops with
      | posts _ hfull =>
          left
          simp [isPost]
          omega
      | defers hfull =>
          right
          simp [isDeferral]
          omega
  | @later act script _ _ hact _ ih =>
      have hfirst := lengths_act hact
      have hsplit : act :: script = [act] ++ script := rfl
      rw [hsplit, List.countP_append, List.countP_append]
      omega

end Calls

section Spends

/-- All that comes with a handler and may post: the calls in the notifications, and, if it
replays the deferred events, these and the calls in front of them. -/
def postsIn (env : WifiEnv) (calls : List Call) : ℕ := (calls.map (posts env)).sum

def deferralsIn (env : WifiEnv) (calls : List Call) : ℕ := (calls.map (deferrals env)).sum

def freePostsIn (env : WifiEnv) (calls : List FreeCall) : ℕ :=
  (calls.map fun call => posts env (.free call)).sum

/-- The entries that the queue of events may have to take, those in it included. -/
def eventNeed (env : WifiEnv) (replays : Bool) (s : WifiState) : ℕ :=
  s.eventQ.length + (s.notified.map (postsIn env)).sum +
    if replays then
      s.deferredEventQ.length + (s.notified.map (deferralsIn env)).sum +
        (s.posting.map (freePostsIn env)).sum
    else 0

/-- The same of the queue of deferred events. -/
def deferNeed (env : WifiEnv) (s : WifiState) : ℕ :=
  s.deferredEventQ.length + (s.notified.map (deferralsIn env)).sum

/-- The program adds no more than it may to what the queues have to take, and stops at a
full queue only if that is too much for one of them. -/
def Spends (env : WifiEnv) (replays : Bool) (events deferred : ℕ) {α : Type} (program : Sm α)
    (s : WifiState) : Prop :=
  Ends program s
    (fun _ after => eventNeed env replays after ≤ eventNeed env replays s + events ∧
      deferNeed env after ≤ deferNeed env s + deferred)
    fun stuck _ => stuck = .queueFull →
      eventQMax < eventNeed env replays s + events ∨ deferredEventQMax < deferNeed env s + deferred

variable {replays : Bool} {events deferred events' deferred' : ℕ} {α β : Type} {program : Sm α}

theorem Spends.bind_of {next : α → Sm β} {falls : α → WifiState → Prop}
    (hprogram : Spends env replays events deferred program s) (hensures : Ensures program s falls)
    (hnext : ∀ value after, falls value after →
      Spends env replays events' deferred' (next value) after) :
    Spends env replays (events + events') (deferred + deferred') (program >>= next) s := by
  rw [Spends, ends_bind]
  apply (Ends.and hprogram hensures).mono
  · intro value middle hmiddle
    obtain ⟨hmiddle, hfalls⟩ := hmiddle
    apply (hnext value middle hfalls).mono
    · intro _ after hafter
      exact ⟨by omega, by omega⟩
    · intro stuck _ hfull hqueue
      have hfull := hfull hqueue
      omega
  · intro stuck _ hfull hqueue
    have hfull := hfull.1 hqueue
    omega

theorem Spends.bind {next : α → Sm β} (hprogram : Spends env replays events deferred program s)
    (hnext : ∀ value after, Spends env replays events' deferred' (next value) after) :
    Spends env replays (events + events') (deferred + deferred') (program >>= next) s :=
  hprogram.bind_of ensures_run fun value after _ => hnext value after

theorem Spends.mono (hprogram : Spends env replays events deferred program s)
    (hevents : events ≤ events') (hdeferred : deferred ≤ deferred') :
    Spends env replays events' deferred' program s := by
  apply Ends.mono hprogram
  · intro _ after hafter
    exact ⟨by omega, by omega⟩
  · intro stuck _ hfull hqueue
    have hfull := hfull hqueue
    omega

/-- What leaves the queues and the schedule, and never waits, spends nothing. -/
def queueView (s : WifiState) :=
  (s.eventQ, s.deferredEventQ, s.notified, s.posting)

theorem needs_of_view (env : WifiEnv) (replays : Bool) (hview : queueView after = queueView s) :
    eventNeed env replays after = eventNeed env replays s ∧
      deferNeed env after = deferNeed env s := by
  have hevents : after.eventQ = s.eventQ := congrArg (·.1) hview
  have hdeferred : after.deferredEventQ = s.deferredEventQ := congrArg (·.2.1) hview
  have hnotified : after.notified = s.notified := congrArg (·.2.2.1) hview
  have hposting : after.posting = s.posting := congrArg (·.2.2.2) hview
  rw [eventNeed, eventNeed, deferNeed, deferNeed, hevents, hdeferred, hnotified, hposting]
  exact ⟨rfl, rfl⟩

theorem spends_of_leaves (hleaves : Leaves queueView program)
    (havoids : Avoids .queueFull program) : Spends env replays 0 0 program s := by
  apply (Ends.and hleaves.ensures (havoids s)).mono
  · intro _ after hafter
    have hneeds := needs_of_view env replays hafter.1
    exact ⟨hneeds.1.le, hneeds.2.le⟩
  · exact fun stuck _ hstuck hqueue => absurd hqueue hstuck.2

/-- A call spends what its scripts send. -/
theorem spends_runCall (call : Call) :
    Spends env replays (posts env call + if replays then deferrals env call else 0)
      (deferrals env call) (runCall env call) s := by
  apply (Ends.and (follows_runCall env call s).2 (leaves_runCall env call).ensures).mono
  · intro _ after hafter
    obtain ⟨⟨script, hscript, hplays⟩, hview⟩ := hafter
    have hlengths := lengths_plays hplays
    have hposts := countP_posts_le hscript
    have hdefers := (countP_call call script hscript).2
    have hnotified : after.notified = s.notified := congrArg (·.2.2.2.1) hview
    have hposting : after.posting = s.posting := congrArg (·.2.2.2.2.1) hview
    rw [eventNeed, eventNeed, deferNeed, deferNeed, hnotified, hposting]
    refine ⟨?_, by omega⟩
    split <;> omega
  · intro stuck _ hstuck hqueue
    obtain ⟨script, hscript, hbreaks⟩ := hstuck.1 hqueue
    have hfull := full_of_breaks hbreaks
    have hposts := countP_posts_le hscript
    have hdefers := (countP_call call script hscript).2
    rw [eventNeed, deferNeed]
    omega

theorem spends_runCalls (calls : List Call) :
    Spends env replays (postsIn env calls + if replays then deferralsIn env calls else 0)
      (deferralsIn env calls) (runCalls env calls) s := by
  induction calls generalizing s with
  | nil => exact ⟨by omega, by omega⟩
  | cons call calls ih =>
      apply ((spends_runCall call).bind fun _ after => ih).mono
      · simp only [postsIn, deferralsIn, List.map_cons, List.sum_cons]
        split <;> omega
      · simp [deferralsIn]

theorem spends_letOthersCall : Spends env replays 0 0 (letOthersCall env) s := by
  rw [Spends, letOthersCall, ends_bind, ends_get]
  cases hcalls : s.notified with
  | nil => exact ⟨le_rfl, le_rfl⟩
  | cons calls rest =>
      rw [ends_bind, ends_modify]
      have hspends : Spends env replays (postsIn env calls + if replays then deferralsIn env calls
          else 0) (deferralsIn env calls) (runCalls env calls) { s with notified := rest } :=
        spends_runCalls calls
      have hneeds : eventNeed env replays { s with notified := rest } +
            (postsIn env calls + if replays then deferralsIn env calls else 0) =
              eventNeed env replays s ∧
          deferNeed env { s with notified := rest } + deferralsIn env calls = deferNeed env s := by
        simp only [eventNeed, deferNeed, hcalls, List.map_cons, List.sum_cons]
        refine ⟨?_, by omega⟩
        split <;> omega
      apply Ends.mono hspends
      · intro _ after hafter
        exact ⟨by omega, by omega⟩
      · intro stuck _ hfull hqueue
        have hfull := hfull hqueue
        omega

/-- The calls in front of a replayed event wait outside of the critical section. -/
theorem spends_letOthersPost : Spends env true 0 0 (letOthersPost env) s := by
  have hfree (calls : List FreeCall) (s : WifiState) :
      Spends env true (freePostsIn env calls) 0 (runFreeCalls env calls) s := by
    induction calls generalizing s with
    | nil => exact ⟨by omega, by omega⟩
    | cons call calls ih =>
        apply ((spends_runCall (.free call)).bind fun _ after => ih after).mono
        · simp [freePostsIn, deferrals, defers]
        · simp [deferrals, defers]
  rw [Spends, letOthersPost, ends_bind, ends_get]
  cases hcalls : s.posting with
  | nil => exact ⟨le_rfl, le_rfl⟩
  | cons calls rest =>
      rw [ends_bind, ends_modify]
      have hneeds : eventNeed env true { s with posting := rest } + freePostsIn env calls =
            eventNeed env true s ∧
          deferNeed env { s with posting := rest } = deferNeed env s := by
        simp only [eventNeed, deferNeed, hcalls, List.map_cons, List.sum_cons, if_true]
        exact ⟨by omega, trivial⟩
      apply Ends.mono (hfree calls { s with posting := rest })
      · intro _ after hafter
        exact ⟨by omega, by omega⟩
      · intro stuck _ hfull hqueue
        have hfull := hfull hqueue
        omega

theorem spends_signalEvent (event : SmEvent) :
    Spends env true 1 0 (signalEvent event) s := by
  have hcount (script : List CallAct) (hscript : script ∈ postScripts (some event)) :=
    posts_postScripts (some event) script hscript
  apply (Ends.and (follows_signalEvent env event s).2 (leaves_signalEvent event).ensures).mono
  · intro _ after hafter
    obtain ⟨⟨script, hscript, hplays⟩, hview⟩ := hafter
    have hlengths := lengths_plays hplays
    have hcounts := hcount script hscript
    have hnotified : after.notified = s.notified := congrArg (·.1.2.2.2.1) hview
    have hposting : after.posting = s.posting := congrArg (·.1.2.2.2.2.1) hview
    rw [eventNeed, eventNeed, deferNeed, deferNeed, hnotified, hposting]
    simp only [if_true]
    exact ⟨by omega, by omega⟩
  · intro stuck _ hstuck hqueue
    obtain ⟨script, hscript, hbreaks⟩ := hstuck.1 hqueue
    have hfull := full_of_breaks hbreaks
    have hcounts := hcount script hscript
    rw [eventNeed, deferNeed]
    omega

theorem queueView_of_context {α : Type} {program : Sm α}
    (hprogram : Leaves (contextView deaf) program) : Leaves queueView program :=
  hprogram.project queueView

theorem spends_addDeferredProfile (event : DeferredEvent) :
    Spends env replays 0 0 (addDeferredProfile env event) s := by
  rw [addDeferredProfile]
  split
  · have hcall (call : NwpCall) : Leaves queueView (nwpCall env call) :=
      queueView_of_context (contexts (leaves_nwpCall env rfl))
    have hemit (output : Output) : Leaves queueView (emit output) :=
      queueView_of_context (contexts (leaves_emit rfl))
    exact spends_of_leaves ((hcall _).bind fun _ => hemit _)
      ((avoids_nwpCall env _).bind fun _ => avoids_emit)
  · exact spends_of_leaves leaves_pure avoids_pure

/-- Replaying moves the deferred events to the other queue. -/
theorem spends_deferredEventsProcess (queue : List DeferredEvent)
    (hqueue : s.deferredEventQ = queue) :
    Spends env true 0 0 (deferredEventsProcess env queue) s := by
  induction queue generalizing s with
  | nil => exact ⟨le_rfl, le_rfl⟩
  | cons event rest ih =>
      have hrest : Spends env true (0 + (0 + (1 + (0 + 0)))) (0 + (0 + (0 + (0 + 0)))) (do
          addDeferredProfile env event
          letOthersPost env
          let retVal ← signalEvent event.event
          assertThat (retVal = .value 0)
          deferredEventsProcess env rest) { s with deferredEventQ := rest } := by
        apply (spends_addDeferredProfile event).bind_of
          (leaves_deferred_of_quiet (leaves_addDeferredProfile env event)).ensures
        intro _ added hadded
        apply spends_letOthersPost.bind_of (leaves_deferred_letOthersPost env).ensures
        intro _ waited hwaited
        apply (spends_signalEvent event.event).bind_of
          (leaves_deferred_of_quiet (leaves_signalEvent event.event)).ensures
        intro retVal posted hposted
        apply (spends_of_leaves leaves_assertThat (avoids_assertThat (by decide))).bind_of
          ensures_assertThat
        intro _ checked hchecked
        rw [hchecked.2]
        apply ih
        calc posted.deferredEventQ = waited.deferredEventQ := hposted
          _ = added.deferredEventQ := hwaited
          _ = rest := hadded
      have hneeds : eventNeed env true { s with deferredEventQ := rest } + 1 =
            eventNeed env true s ∧
          deferNeed env { s with deferredEventQ := rest } + 1 = deferNeed env s := by
        simp only [eventNeed, deferNeed, hqueue, List.length_cons, if_true]
        exact ⟨by omega, by omega⟩
      rw [Spends, deferredEventsProcess, ends_bind, ends_modify]
      apply Ends.mono hrest
      · intro _ after hafter
        exact ⟨by omega, by omega⟩
      · intro stuck _ hfull hqueue
        have hfull := hfull hqueue
        omega

theorem spends_deferredEventProcess : Spends env true 0 0 (deferredEventProcess env) s := by
  rw [Spends, deferredEventProcess, ends_bind, ends_get]
  have hevents : Spends env true 0 0 (deferredEventsProcess env s.deferredEventQ) s :=
    spends_deferredEventsProcess s.deferredEventQ rfl
  have hreturn (replayed : Bool) (_ : Unit) (after : WifiState) :
      Spends env true 0 0 (pure replayed) after :=
    spends_of_leaves leaves_pure avoids_pure
  exact hevents.bind (hreturn _)

theorem spends_notifyNetIf (event : NetIfEvent) :
    Spends env replays 0 0 (notifyNetIf env event) s := by
  rw [Spends, notifyNetIf, ends_bind, ends_get, ends_runIf]
  split
  · have hemit : Leaves queueView (emit (.netIf event)) :=
      queueView_of_context (contexts (leaves_emit rfl))
    exact (spends_of_leaves hemit avoids_emit).bind fun _ _ => spends_letOthersCall
  · exact ⟨le_rfl, le_rfl⟩

theorem spends_notifyWifiApp (event : WifiConnEvent) :
    Spends env replays 0 0 (notifyWifiApp env event) s := by
  rw [Spends, notifyWifiApp, ends_bind, ends_get, ends_runIf]
  split
  · have hemit : Leaves queueView (emit (.app event)) :=
      queueView_of_context (contexts (leaves_emit rfl))
    exact (spends_of_leaves hemit avoids_emit).bind fun _ _ => spends_letOthersCall
  · exact ⟨le_rfl, le_rfl⟩

end Spends

section Scripts

variable {replays : Bool} {script : List SmAct}

def isDefer : SmAct → Bool
  | .defers _ => true
  | _ => false

/-- The acts of the handlers leave the queues to the calls, the replay and the deferral. -/
theorem spends_act {act : SmAct} (hact : Acts env act s after)
    (hdrain : isDrain act = true → replays = true)
    (hdefer : replays = true → isDefer act = false) :
    eventNeed env replays after ≤ eventNeed env replays s ∧
      deferNeed env after ≤ deferNeed env s + [act].countP isDefer := by
  have hsame (hview : queueView after = queueView s) :
      eventNeed env replays after ≤ eventNeed env replays s ∧
        deferNeed env after ≤ deferNeed env s + [act].countP isDefer := by
    have hneeds := needs_of_view env replays hview
    exact ⟨hneeds.1.le, hneeds.2.le.trans (Nat.le_add_right _ _)⟩
  have hspends {α : Type} {program : Sm α} {value : α} (hprogram : Spends env replays 0 0 program s)
      (hrun : program.run s = .ok value after) :
      eventNeed env replays after ≤ eventNeed env replays s ∧
        deferNeed env after ≤ deferNeed env s + [act].countP isDefer := by
    rw [Spends, Ends, hrun] at hprogram
    exact ⟨hprogram.1, hprogram.2.trans (Nat.le_add_right _ _)⟩
  have hcontext {α : Type} {program : Sm α} {value : α}
      (hprogram : Leaves (contextView deaf) program) (hrun : program.run s = .ok value after) :
      queueView after = queueView s :=
    (queueView_of_context hprogram).of_run hrun
  cases hact with
  | tells hrun => exact hspends (spends_notifyNetIf _) hrun
  | informs hrun | informsStarted hrun | informsStats hrun =>
      exact hspends (spends_notifyWifiApp _) hrun
  | drains hrun =>
      have hreplays := hdrain rfl
      subst hreplays
      exact hspends spends_deferredEventProcess hrun
  | @defers event _ _ hrun =>
      have hnone : replays = false := by
        rw [Bool.eq_false_iff]
        intro hreplays
        cases hdefer hreplays
      have hdefers : Ensures (deferredEventEnqueue event none) s fun _ after =>
          eventNeed env replays after ≤ eventNeed env replays s ∧
            deferNeed env after ≤ deferNeed env s + 1 := by
        rw [Ensures, deferredEventEnqueue, ends_bind, ends_get, ends_ite]
        split
        · rw [ends_modify, hnone]
          refine ⟨le_rfl, ?_⟩
          simp only [deferNeed, List.length_append, List.length_singleton]
          omega
        · trivial
      exact hdefers.of_run hrun
  | enters hrun | arms hrun | disarms hrun =>
      injection hrun with _ hafter
      subst hafter
      exact hsame rfl
  | @writes write s =>
      have hview : queueView (bookView (write.apply s)) = queueView (bookView s) :=
        congrArg queueView (bookView_write write s)
      exact hsame hview
  | asks _ hrun | connects hrun | setsApSsid hrun | setsApSecType hrun | setsApPassword hrun
  | startsProvisioning _ hrun | stopsProvisioning hrun =>
      exact hsame (hcontext (contexts (leaves_nwpCall env rfl)) hrun)
  | resets hrun => exact hsame (hcontext (leaves_resetNWP env deaf_to_reset) hrun)
  | resetsRole hrun => exact hsame (hcontext (leaves_resetNWPRole env deaf_to_reset) hrun)
  | setsRole hrun => exact hsame (hcontext (leaves_setRole env deaf_to_reset roleSta) hrun)
  | suspends hrun =>
      exact hsame (hcontext (contexts (leaves_suspendNWPPolicy env deaf_to_reset)) hrun)
  | resumes hrun =>
      exact hsame (hcontext (contexts (leaves_resumeNWPPolicy env deaf_to_reset)) hrun)
  | sleeps hrun => exact hsame (hcontext (contexts (leaves_emit rfl)) hrun)
  | finds => exact hsame rfl

/-- An act stops only where one of the queues has not the room. -/
theorem full_of_stalls {act : SmAct} (hstalls : Stalls env act s)
    (hdrain : isDrain act = true → replays = true) :
    eventQMax < eventNeed env replays s ∨
      deferredEventQMax < deferNeed env s + [act].countP isDefer := by
  have hspends {α : Type} {program : Sm α} {after : WifiState}
      (hprogram : Spends env replays 0 0 program s)
      (hrun : program.run s = .error .queueFull after) :
      eventQMax < eventNeed env replays s ∨
        deferredEventQMax < deferNeed env s + [act].countP isDefer := by
    rw [Spends, Ends, hrun] at hprogram
    have hfull := hprogram rfl
    omega
  cases hstalls with
  | tells hrun => exact hspends (spends_notifyNetIf _) hrun
  | informs hrun | informsStarted hrun | informsStats hrun =>
      exact hspends (spends_notifyWifiApp _) hrun
  | drains hrun =>
      have hreplays := hdrain rfl
      subst hreplays
      exact hspends spends_deferredEventProcess hrun
  | @defers event _ after hrun =>
      have hfull : Ends (deferredEventEnqueue event none) s (fun _ _ => True) fun _ _ =>
          deferredEventQMax < deferNeed env s + 1 := by
        rw [deferredEventEnqueue, ends_bind, ends_get, ends_ite]
        split
        · trivial
        · rename_i hnone
          rw [ends_throw, deferNeed]
          omega
      exact .inr (hfull.of_error hrun)

theorem full_of_script (hbreaks : Breaks (acting env) script s)
    (hdrains : ∀ act ∈ script, isDrain act = true → replays = true)
    (hdefers : replays = true → ∀ act ∈ script, isDefer act = false) :
    eventQMax < eventNeed env replays s ∨
      deferredEventQMax < deferNeed env s + script.countP isDefer := by
  induction hbreaks with
  | @here act script _ hstops =>
      have hfull := full_of_stalls hstops (hdrains act List.mem_cons_self)
      have hsplit : act :: script = [act] ++ script := rfl
      rw [hsplit, List.countP_append]
      omega
  | @later act script _ _ hact _ ih =>
      have hfirst := spends_act hact (hdrains act List.mem_cons_self) fun hreplays =>
        hdefers hreplays act List.mem_cons_self
      have hrest := ih (fun other hother => hdrains other (List.mem_cons_of_mem act hother))
        fun hreplays other hother => hdefers hreplays other (List.mem_cons_of_mem act hother)
      have hsplit : act :: script = [act] ++ script := rfl
      rw [hsplit, List.countP_append]
      omega

end Scripts

section Runs

/-- The handler defers its event for the end of the provisioning. -/
def defersEvent (state : SmState) (event : SmEvent) : Bool :=
  (processScripts state event).any fun script => script.any isDefer

/-- No event is deferred twice, nor where the deferred events are replayed. -/
theorem defers_process (state : SmState) (event : SmEvent) :
    (∀ script ∈ processScripts state event,
        script.countP isDefer ≤ if defersEvent state event then 1 else 0) ∧
      ((processScripts state event).any (fun script => script.any isDrain) = true →
        ∀ script ∈ processScripts state event, script.all (!isDefer ·) = true) := by
  cases state <;> cases event <;> decide +kernel

/-- The deferred events are replayed by the scripts of an event that leads to it, and
where the connection timed out only if one was tried. -/
theorem replays_of_breaks {event : SmEvent} {script : List SmAct}
    (hscript : script ∈ processScripts s.state event) (hbreaks : Breaks (acting env) script s)
    {act : SmAct} (hact : act ∈ script) (hdrain : isDrain act = true) :
    replaysDeferred s event = true := by
  have hdrains : script.any isDrain = true := List.any_eq_true.mpr ⟨act, hact, hdrain⟩
  rw [replaysDeferred, Bool.and_eq_true]
  refine ⟨List.any_eq_true.mpr ⟨script, hscript, hdrains⟩, ?_⟩
  by_cases htimeout : s.state = .waitForConn ∧ event = .timeout
  · obtain ⟨hstate, hevent⟩ := htimeout
    rw [hstate, hevent] at hscript
    have hfirst := connectUsed_process script hscript hdrains
    rw [← List.take_append_drop 1 script, hfirst, List.singleton_append] at hbreaks
    have hused : s.bWlanConnectUsed = true := by
      cases hbreaks with
      | here hstops => cases hstops
      | later hfinds => exact (finds_iff hfinds).2
    simp [hused]
  · by_cases hstate : s.state = .waitForConn
    · have hevent : event ≠ .timeout := fun hevent => htimeout ⟨hstate, hevent⟩
      simp [hevent]
    · simp [hstate]

theorem avoids_deinit : Avoids .queueFull (deinit env) := by
  apply avoids_emit.bind
  intro _
  apply (avoids_nwpCall env _).bind
  exact fun _ => avoids_modify

/-- An event whose handling waits for room breaks off one of its scripts. -/
theorem breaks_of_waits {event : SmEvent} {notified : List (List Call)}
    {posting : List (List FreeCall)}
    (hwaits : Waits (handleEvent env event)
      { s with received := none, notified := notified, posting := posting }) :
    event ≠ .destroy ∧ ∃ script ∈ processScripts s.state event,
      Breaks (acting env) script (handling s event notified posting) := by
  have hends : Ends (handleEvent env event)
      { s with received := none, notified := notified, posting := posting } (fun _ _ => True)
      fun stuck _ => stuck = .queueFull → event ≠ .destroy ∧
        ∃ script ∈ processScripts s.state event,
          Breaks (acting env) script (handling s event notified posting) := by
    rw [handleEvent]
    split
    · rw [ends_bind]
      apply (avoids_deinit _).mono
      · exact fun _ _ _ => trivial
      · exact fun stuck _ hstuck hfull => absurd hfull hstuck
    · rename_i hdestroy
      rw [ends_bind, processEvent, ends_bind, ends_get, emit, ends_bind, ends_modify, ends_bind]
      have hasserted : Stuck.assertFailed ≠ .queueFull := by decide
      apply (Ends.and ensures_assertThat (avoids_assertThat hasserted _)).mono
      · intro _ checked hchecked
        rw [hchecked.1.2]
        apply (follows_handle env s.state event _).2.mono
        · exact fun _ _ _ => trivial
        · exact fun stuck _ hstuck hfull => ⟨hdestroy, hstuck hfull⟩
      · exact fun stuck _ hstuck hfull => absurd hfull hstuck.2
  obtain ⟨final, hrun⟩ := hwaits
  exact hends.of_error hrun rfl

/-- The queues have room for all that the step sends to them: the event and the deferred
entry of a call in the critical section; those of the calls in the notifications of a
handler, for the replayed events and for those in front of them, and for the event that
the handler defers. -/
def HasRoom (env : WifiEnv) (s : WifiState) : WifiAct → Prop
  | .call (.free _) => True
  | .call call => s.eventQ.length + posts env call ≤ eventQMax ∧
      s.deferredEventQ.length + deferrals env call ≤ deferredEventQMax
  | .receive => True
  | .handle notified posting => ∀ event, s.received = some event → event ≠ .destroy →
      eventNeed env (replaysDeferred s event) { s with notified := notified, posting := posting } ≤
          eventQMax ∧
        deferNeed env { s with notified := notified, posting := posting } +
          (if defersEvent s.state event then 1 else 0) ≤ deferredEventQMax

/-- A call that waits has found one of the queues too full. -/
theorem full_of_waits {call : Call} (hwaits : Waits (runCall env call) s) :
    eventQMax < s.eventQ.length + posts env call ∨
      deferredEventQMax < s.deferredEventQ.length + deferrals env call := by
  obtain ⟨final, hrun⟩ := hwaits
  have hfollows := (follows_runCall env call s).2
  obtain ⟨script, hscript, hbreaks⟩ := hfollows.of_error hrun rfl
  have hfull := full_of_breaks hbreaks
  have hposts := countP_posts_le hscript
  have hdefers := (countP_call call script hscript).2
  omega

theorem not_blocks_call {call : Call} (hroom : HasRoom env s (.call call)) :
    ¬Blocks env s (.call call) := by
  intro hwaits
  have hfull := full_of_waits hwaits
  cases call with
  | free call =>
      have hnever : Avoids .queueFull (runFreeCall env call) := by
        intro before
        rw [runFreeCall, ends_outside]
        apply ends_run.mono
        · exact fun _ _ _ => trivial
        · intro stuck _ _ hfull
          split at hfull
          · cases hfull
          · contradiction
      obtain ⟨final, hrun⟩ := hwaits
      exact hnever.run_ne hrun
  | _ =>
      obtain ⟨hevents, hdeferred⟩ := hroom
      omega

theorem not_blocks_handle {notified : List (List Call)} {posting : List (List FreeCall)}
    (hroom : HasRoom env s (.handle notified posting)) :
    ¬Blocks env s (.handle notified posting) := by
  rintro ⟨event, hreceived, hwaits⟩
  obtain ⟨hdestroy, script, hscript, hbreaks⟩ := breaks_of_waits hwaits
  obtain ⟨hevents, hdeferred⟩ := hroom event hreceived hdestroy
  have htable := defers_process s.state event
  have hcount := htable.1 script hscript
  have hfull : eventQMax < eventNeed env (replaysDeferred s event)
        { s with notified := notified, posting := posting } ∨
      deferredEventQMax <
        deferNeed env { s with notified := notified, posting := posting } +
          script.countP isDefer := by
    apply full_of_script hbreaks
    · exact fun act hact hdrain =>
        replays_of_breaks (s := handling s event notified posting) hscript hbreaks hact hdrain
    · intro hreplays act hact
      rw [replaysDeferred, Bool.and_eq_true] at hreplays
      have hnone := List.all_eq_true.mp (htable.2 hreplays.1 script hscript) act hact
      simpa using hnone
  omega

/-- In a run whose steps find room in the queues for all that they send, no thread waits
for room in the critical section or in the thread of the state machine. -/
theorem neverBlocks_of_hasRoom {acts : List WifiAct}
    (hroom : AttemptsSatisfy (step env) (HasRoom env) s acts) :
    AttemptsSatisfy (step env) (fun s act => ¬Blocks env s act) s acts := by
  intro before act hprefix reached hreached
  have hfits := hroom before act hprefix reached hreached
  cases act with
  | call call => exact not_blocks_call hfits
  | receive => exact id
  | handle notified posting => exact not_blocks_handle hfits

/-- A program that waits, computed. -/
def waits (program : Sm Unit) (s : WifiState) : Bool :=
  match program.run s with
  | .error .queueFull _ => true
  | _ => false

theorem waits_sound {program : Sm Unit} (hwaits : waits program s = true) : Waits program s := by
  rw [waits] at hwaits
  split at hwaits
  · exact ⟨_, ‹_›⟩
  · cases hwaits

/-- The fourth profile that is added during the provisioning finds the queue of the
deferred events full, and waits in the critical section. -/
theorem neverBlocks_broken :
    Started obedientNwp (started obedientNwp true false) ∧
      ¬AttemptsSatisfy (step obedientNwp) (fun s act => ¬Blocks obedientNwp s act)
        (started obedientNwp true false)
        (untilProvisioning ++ [.call (.addProfile lateProfile), .call (.addProfile lateProfile),
          .call (.addProfile lateProfile)] ++ [.call (.addProfile lateProfile)]) := by
  refine ⟨⟨powerOn, true, false, rfl, rfl⟩, ?_⟩
  apply Transition.not_attemptsSatisfy_of_any
    (waits (runCall obedientNwp (.addProfile lateProfile)))
  · exact fun s hwaits hfree => hfree (waits_sound hwaits)
  · decide +kernel

/-- The condition, computed. -/
def hasRoom (env : WifiEnv) (s : WifiState) : WifiAct → Bool
  | .call (.free _) | .receive => true
  | .call call => s.eventQ.length + posts env call ≤ eventQMax &&
      s.deferredEventQ.length + deferrals env call ≤ deferredEventQMax
  | .handle notified posting => s.received.all fun event =>
      eventNeed env (replaysDeferred s event)
          { s with notified := notified, posting := posting } ≤ eventQMax &&
        deferNeed env { s with notified := notified, posting := posting } +
          (if defersEvent s.state event then 1 else 0) ≤ deferredEventQMax

theorem hasRoom_sound (s : WifiState) (act : WifiAct) (hcheck : hasRoom env s act = true) :
    HasRoom env s act := by
  cases act with
  | call call =>
      cases call with
      | free call => trivial
      | _ => simpa [hasRoom, HasRoom] using hcheck
  | receive => trivial
  | handle notified posting =>
      intro event hreceived _
      simpa [hasRoom, hreceived] using hcheck

/-- Two profiles are added during the provisioning, one of them in a notification, and
both are replayed behind its stop. -/
theorem neverBlocks_again :
    AttemptsSatisfy (step obedientNwp) (fun s act => ¬Blocks obedientNwp s act)
      (started obedientNwp true false)
      (untilProvisioning ++ posted (.addProfile lateProfile) ++
        posted (.free (.provisioningStatus (.stopped roleAp false))) ++
        [.receive, .handle [[.addProfile lateProfile]] []]) :=
  neverBlocks_of_hasRoom (Transition.attemptsSatisfy_of_check (hasRoom obedientNwp)
    hasRoom_sound (by decide +kernel))

end Runs

end SimpleLinkHost.WifiQueues
