import SimpleLinkHost.WifiConn.WifiActs
import SimpleLinkHost.WifiConn.WifiRuns

/-!
# The timer and the TIMEOUT events in the queue

There is one timer, whose expiry only posts an event.  Setting it again, or stopping it,
does not take back the event of its last expiry: a TIMEOUT event that waits is then one
of a past timer.  No handler acts on such an event as long as the timer is set only where
none of its events waits.
-/

namespace SimpleLinkHost.WifiTimer

open CallOutcome ProgramInvariant ProgramScript WifiContext WifiApi WifiMachine WifiFrames
open WifiScripts WifiCalls WifiActs WifiRuns
open Transition (StatesSatisfy StepsSatisfy)

variable {env : WifiEnv} {s after : WifiState}

section Property

/-- Where a waiting event comes from. -/
inductive Origin
  | thread
  | timer
  | pastTimer
deriving DecidableEq

def Origin.aged : Origin → Origin
  | .timer => .pastTimer
  | origin => origin

/-- Whether the timer has called its handler just now, and the events that were posted and
not processed yet.  A TIMEOUT event of a thread is a deferred one. -/
def waitingAfter (seen : Bool × List (SmEvent × Origin)) :
    Output → Bool × List (SmEvent × Origin)
  | .expired => (true, seen.2)
  | .posted event => (false, seen.2 ++ [(event, if seen.1 then .timer else .thread)])
  | .timer _ => (seen.1, seen.2.map fun waiting => (waiting.1, waiting.2.aged))
  | .processing _ _ => (seen.1, seen.2.tail)
  | _ => seen

def timerSeen (s : WifiState) : Bool × List (SmEvent × Origin) :=
  s.outputs.foldl waitingAfter (false, [])

/-- The events that wait, the received one in front. -/
def waiting (s : WifiState) : List (SmEvent × Origin) := (timerSeen s).2

/-- The handlers act on a TIMEOUT event, except that of `OFF`, and that of `CONNECTED` if
the statistics are off. -/
def actsOnTimeout (config : WifiConfig) (s : WifiState) : Bool :=
  s.state ≠ .off && (s.state ≠ .connected || config.wifiStats && s.bStatsEnabled)

/-- A TIMEOUT event that a handler acts on was posted by the timer as it was set last, or
was deferred. -/
def ActsInTime (env : WifiEnv) (s : WifiState) : WifiAct → Prop
  | .handle _ _ => s.received = some .timeout → actsOnTimeout env.toWifiConfig s = true →
      (waiting s).head? = some (.timeout, .timer) ∨ (waiting s).head? = some (.timeout, .thread)
  | _ => True

end Property

section Queue

/-- What is heard of the timer and of the queue. -/
def ofTimer : Output → Bool
  | .timer _ | .expired | .posted _ | .processing _ _ => true
  | _ => false

theorem timerSeen_eq (s : WifiState) :
    timerSeen s = (s.outputs.filter ofTimer).foldl waitingAfter (false, []) := by
  rw [timerSeen, List.foldl_filter]
  congr 1
  funext seen output
  cases output <;> rfl

theorem ofTimer_of_handler (output : Output) (houtput : ofHandler output = true) :
    ofTimer output = false := by
  cases output <;> first | rfl | cases houtput

/-- The record agrees with the queue. -/
def QueueKnown (s : WifiState) : Prop :=
  if s.initialized then
    (timerSeen s).1 = false ∧ (waiting s).map Prod.fst = s.received.toList ++ s.eventQ
  else s.received = none ∧ s.eventQ = []

def NoTimer (s : WifiState) : Prop := ∀ event ∈ waiting s, event.2 = .thread

def NoPast (s : WifiState) : Prop := ∀ event ∈ waiting s, event.2 ≠ .pastTimer

/-- What the record of the timer, and the queue, depend on. -/
def timerView (s : WifiState) := (timerSeen s, s.initialized, s.received, s.eventQ)

theorem timerView_of_context (hview : contextView ofTimer after = contextView ofTimer s) :
    timerView after = timerView s := by
  have houtputs : after.outputs.filter ofTimer = s.outputs.filter ofTimer :=
    congrArg (·.outputs) hview
  have hqueue : (after.initialized, after.received, after.eventQ) =
      (s.initialized, s.received, s.eventQ) :=
    congrArg (fun view => (view.initialized, view.received, view.eventQ)) hview
  rw [timerView, timerView, timerSeen_eq, timerSeen_eq, houtputs, hqueue]

theorem queueKnown_of_view (hview : timerView after = timerView s) (hknown : QueueKnown s) :
    QueueKnown after := by
  have hseen : timerSeen after = timerSeen s := congrArg (·.1) hview
  have hinitialized : after.initialized = s.initialized := congrArg (·.2.1) hview
  have hreceived : after.received = s.received := congrArg (·.2.2.1) hview
  have hqueue : after.eventQ = s.eventQ := congrArg (·.2.2.2) hview
  rwa [QueueKnown, waiting, hseen, hinitialized, hreceived, hqueue]

theorem noTimer_of_view (hview : timerView after = timerView s) (hnone : NoTimer s) :
    NoTimer after := by
  have hseen : timerSeen after = timerSeen s := congrArg (·.1) hview
  rwa [NoTimer, waiting, hseen]

theorem noPast_of_view (hview : timerView after = timerView s) (hnone : NoPast s) :
    NoPast after := by
  have hseen : timerSeen after = timerSeen s := congrArg (·.1) hview
  rwa [NoPast, waiting, hseen]

theorem NoTimer.noPast (hnone : NoTimer s) : NoPast s := by
  intro event hevent hpast
  rw [hnone event hevent] at hpast
  cases hpast

end Queue

section Acts

/-- Setting the timer ages the events that wait. -/
theorem timerSeen_timer (duration : ℕ) (s : WifiState) :
    timerSeen { s with timer := duration, outputs := s.outputs ++ [.timer duration] } =
      ((timerSeen s).1, (waiting s).map fun event => (event.1, event.2.aged)) := by
  simp [timerSeen, waiting, waitingAfter]

theorem timerSeen_posted (event : SmEvent) (s : WifiState) :
    timerSeen { s with eventQ := s.eventQ ++ [event], outputs := s.outputs ++ [.posted event] } =
      (false, waiting s ++ [(event, if (timerSeen s).1 then .timer else .thread)]) := by
  rw [timerSeen, List.foldl_append]
  rfl

/-- The acts that neither post nor set the timer. -/
def leavesTimer : CallAct → Bool
  | .posts _ | .expires | .times => false
  | _ => true

theorem timerView_of_act {act : CallAct} (hact : CallActs env act s after)
    (hleaves : leavesTimer act = true) : timerView after = timerView s := by
  have hreset (output : Output) (houtput : ofReset output = true) : ofTimer output = false :=
    ofTimer_of_handler output (ofHandler_of_reset output houtput)
  cases hact with
  | configures hview | measures hview =>
      have hsame : timerView (configView after) = timerView (configView s) :=
        congrArg timerView hview
      exact hsame
  | resets _ hrun => exact timerView_of_context ((leaves_resetNWP env hreset).of_run hrun)
  | @setsRole role _ _ after _ hrun =>
      have hview : timerView after = timerView s :=
        timerView_of_context ((leaves_setRole env hreset role).of_run hrun)
      exact hview
  | sets | defers | takes => rfl
  | adds | frees => simp [timerView, timerSeen, waitingAfter]
  | _ => cases hleaves

theorem queueKnown_posts {event : SmEvent} (hinitialized : s.initialized = true)
    (hknown : QueueKnown s) :
    QueueKnown { s with eventQ := s.eventQ ++ [event],
                        outputs := s.outputs ++ [.posted event] } := by
  rw [QueueKnown, if_pos hinitialized] at hknown
  rw [QueueKnown, waiting, timerSeen_posted, if_pos (by exact hinitialized)]
  refine ⟨rfl, ?_⟩
  rw [List.map_append, hknown.2, List.append_assoc]
  rfl

theorem queueKnown_timer {duration : ℕ} (hknown : QueueKnown s) :
    QueueKnown { s with timer := duration, outputs := s.outputs ++ [.timer duration] } := by
  rw [QueueKnown, waiting, timerSeen_timer]
  rw [QueueKnown] at hknown
  split
  · rename_i hinitialized
    rw [if_pos (by exact hinitialized)] at hknown
    refine ⟨hknown.1, ?_⟩
    rw [List.map_map]
    exact hknown.2
  · rename_i hinitialized
    rwa [if_neg (by exact hinitialized)] at hknown

theorem noTimer_posts {event : SmEvent} (hinitialized : s.initialized = true)
    (hknown : QueueKnown s) (hnone : NoTimer s) :
    NoTimer { s with eventQ := s.eventQ ++ [event], outputs := s.outputs ++ [.posted event] } := by
  rw [QueueKnown, if_pos hinitialized] at hknown
  rw [NoTimer, waiting, timerSeen_posted, hknown.1]
  intro other hother
  rw [List.mem_append, List.mem_singleton] at hother
  cases hother with
  | inl hold => exact hnone other hold
  | inr hnew => rw [hnew]; rfl

theorem noPast_posts {event : SmEvent} (hnone : NoPast s) :
    NoPast { s with eventQ := s.eventQ ++ [event], outputs := s.outputs ++ [.posted event] } := by
  rw [NoPast, waiting, timerSeen_posted]
  intro other hother
  rw [List.mem_append, List.mem_singleton] at hother
  cases hother with
  | inl hold => exact hnone other hold
  | inr hnew =>
      rw [hnew]
      cases (timerSeen s).1 <;> simp

theorem noTimer_timer {duration : ℕ} (hnone : NoTimer s) :
    NoTimer { s with timer := duration, outputs := s.outputs ++ [.timer duration] } := by
  rw [NoTimer, waiting, timerSeen_timer]
  intro event hevent
  obtain ⟨other, hother, hevent⟩ := List.mem_map.mp hevent
  rw [← hevent, hnone other hother]
  rfl

/-- What an act of a call leaves of the record: nothing of a timer where none is, and
nothing of a past timer unless it sets the timer. -/
theorem queueKnown_act {act : CallAct} (hact : CallActs env act s after)
    (hallowed : act ≠ .expires) (hknown : QueueKnown s) :
    QueueKnown after ∧ (NoTimer s → NoTimer after) ∧
      (act ≠ .times → NoPast s → NoPast after) := by
  by_cases hleaves : leavesTimer act = true
  · have hview := timerView_of_act hact hleaves
    exact ⟨queueKnown_of_view hview hknown, noTimer_of_view hview, fun _ => noPast_of_view hview⟩
  cases hact with
  | posts hinitialized _ =>
      exact ⟨queueKnown_posts hinitialized hknown, noTimer_posts hinitialized hknown,
        fun _ => noPast_posts⟩
  | expires => exact absurd rfl hallowed
  | times => exact ⟨queueKnown_timer hknown, noTimer_timer, fun hnot => absurd rfl hnot⟩
  | _ => exact absurd rfl hleaves

end Acts

section Calls

theorem ensures_signalEvent (event : SmEvent) :
    Ensures (signalEvent event) s fun _ after =>
      s.initialized = true ∧ after =
        { s with eventQ := s.eventQ ++ [event], outputs := s.outputs ++ [.posted event] } ∨
      s.initialized = false ∧ after = s := by
  rw [Ensures, signalEvent, ends_bind, ends_get, ends_ite]
  split
  · rename_i hinitialized
    exact .inr ⟨by simpa using hinitialized, rfl⟩
  · rename_i hinitialized
    rw [ends_ite]
    split
    · exact .inl ⟨by simpa using hinitialized, rfl⟩
    · trivial

/-- The record once the timer has called its handler. -/
theorem timerSeen_expired (s : WifiState) :
    timerSeen { s with timer := 0, outputs := s.outputs ++ [.expired] } = (true, waiting s) := by
  rw [timerSeen, List.foldl_append]
  rfl

/-- The expiry posts an event of the timer. -/
theorem queueKnown_expires (hknown : QueueKnown s) :
    Ensures (runCall env (.free .timerExpires)) s fun _ after =>
      QueueKnown after ∧ (NoPast s → NoPast after) := by
  rw [Ensures, runCall, runFreeCall, ends_outside, runUnlocked, asyncEvtTimerHandler, ends_bind,
    ends_get, ends_runIf]
  split
  · rw [ends_bind, emit, ends_modify, ends_bind, ends_modify, signalEventIfAny]
    have hsignals := ensures_signalEvent
      (s := { s with timer := 0, outputs := s.outputs ++ [.expired] }) .timeout
    apply hsignals.bind
    intro _ after hafter
    have hexpired (hnone : NoPast s) :
        NoPast { s with timer := 0, outputs := s.outputs ++ [.expired] } := by
      rwa [NoPast, waiting, timerSeen_expired]
    rw [QueueKnown] at hknown
    rcases hafter with ⟨hinitialized, hafter⟩ | ⟨hinitialized, hafter⟩
    · rw [if_pos (by exact hinitialized)] at hknown
      rw [hafter]
      refine ⟨?_, fun hnone => noPast_posts (hexpired hnone)⟩
      rw [QueueKnown, if_pos (by exact hinitialized), waiting, timerSeen_posted]
      refine ⟨rfl, ?_⟩
      rw [waiting, timerSeen_expired, List.map_append, hknown.2, List.append_assoc]
      rfl
    · have hnot : ¬s.initialized = true := Bool.eq_false_iff.mp hinitialized
      rw [if_neg hnot] at hknown
      rw [hafter]
      refine ⟨?_, hexpired⟩
      rwa [QueueKnown, if_neg (by exact hnot)]
  · exact ⟨hknown, id⟩

/-- The calls that set the timer of a connection. -/
def setsStats : Call → Bool
  | .enableStats _ | .disableStats => true
  | _ => false

theorem onlyActs_of_not_expires {call : Call} (hcall : call ≠ .free .timerExpires) :
    OnlyActs (fun act => act ≠ .expires ∧ (act = .times → setsStats call = true))
      (callScripts env call) := by
  refine (onlyActs_call call).mono fun act hact => ?_
  cases act with
  | expires =>
      cases call with
      | free call =>
          cases call with
          | timerExpires => exact absurd rfl hcall
          | _ => cases hact
      | _ => cases hact
  | times =>
      refine ⟨fun hexpires => (by cases hexpires), fun _ => ?_⟩
      cases call with
      | enableStats | disableStats => rfl
      | free call => cases call <;> cases hact
      | _ => cases hact
  | _ => exact ⟨fun hexpires => (by cases hexpires), fun htimes => by cases htimes⟩

theorem keeps_queueKnown_call (call : Call) : Keeps QueueKnown (runCall env call) := by
  by_cases hcall : call = .free .timerExpires
  · subst hcall
    intro before hknown
    exact (queueKnown_expires hknown).mono fun _ _ hafter => hafter.1
  · refine keeps_of_follows ?_ (follows_runCall env call) (onlyActs_of_not_expires hcall)
    exact fun act s s' hact hallowed hknown => (queueKnown_act hact hallowed.1 hknown).1

theorem keeps_noTimer_call {call : Call} (hcall : call ≠ .free .timerExpires) :
    Keeps (fun s => QueueKnown s ∧ NoTimer s) (runCall env call) := by
  refine keeps_of_follows ?_ (follows_runCall env call) (onlyActs_of_not_expires hcall)
  intro act s s' hact hallowed hboth
  have hafter := queueKnown_act hact hallowed.1 hboth.1
  exact ⟨hafter.1, hafter.2.1 hboth.2⟩

/-- Only the calls for the statistics of a connection make a timer a past one. -/
theorem keeps_noPast_call {call : Call} {state : SmState}
    (hcall : setsStats call = true → state ≠ .connected) :
    Keeps (fun s => (QueueKnown s ∧ NoPast s) ∧ s.state = state) (runCall env call) := by
  by_cases hexpires : call = .free .timerExpires
  · subst hexpires
    intro before hboth
    have hstate : Leaves (·.state) (runCall env (.free .timerExpires)) :=
      (leaves_runCall env _).project (·.2.1)
    apply ((queueKnown_expires hboth.1.1).and hstate.ensures).mono
    intro _ after hafter
    exact ⟨⟨hafter.1.1, hafter.1.2 hboth.1.2⟩, hafter.2.trans hboth.2⟩
  · refine keeps_of_follows ?_ (follows_runCall env call) (onlyActs_of_not_expires hexpires)
    intro act s s' hact hallowed hboth
    have hafter := queueKnown_act hact hallowed.1 hboth.1.1
    have htimes : act ≠ .times := by
      intro htimes
      subst htimes
      cases hact with
      | times hconnected => exact hcall (hallowed.2 rfl) (hboth.2.symm.trans hconnected)
    exact ⟨⟨hafter.1, hafter.2.2 htimes hboth.1.2⟩, (state_of_act hact).trans hboth.2⟩

end Calls

section Handlers

theorem kept_queueKnown : Kept env ofTimer (fun _ => True) QueueKnown where
  deaf := ofTimer_of_handler
  view _ _ hview := queueKnown_of_view (timerView_of_context hview)
  lists _ _ _ hknown := hknown
  call call _ := keeps_queueKnown_call call

theorem kept_noTimer :
    Kept env ofTimer (· ≠ .free .timerExpires) fun s => QueueKnown s ∧ NoTimer s where
  deaf := ofTimer_of_handler
  view _ _ hview hboth := by
    have htimer := timerView_of_context hview
    exact ⟨queueKnown_of_view htimer hboth.1, noTimer_of_view htimer hboth.2⟩
  lists _ _ _ hboth := hboth
  call _ hcall := keeps_noTimer_call hcall

theorem kept_noPast :
    Kept env ofTimer (fun _ => True) fun s =>
      (QueueKnown s ∧ NoPast s) ∧ s.state ≠ .connected where
  deaf := ofTimer_of_handler
  view _ after hview hboth := by
    have htimer := timerView_of_context hview
    have hstate : after.state = _ := congrArg (·.state) hview
    refine ⟨⟨queueKnown_of_view htimer hboth.1.1, noPast_of_view htimer hboth.1.2⟩, ?_⟩
    rw [hstate]
    exact hboth.2
  lists _ _ _ hboth := hboth
  call call _ before hboth := by
    have hkeeps : Keeps (fun s => (QueueKnown s ∧ NoPast s) ∧ s.state = before.state)
        (runCall env call) :=
      keeps_noPast_call fun _ => hboth.2
    exact (hkeeps before ⟨hboth.1, rfl⟩).mono fun _ after hafter => ⟨hafter.1, hafter.2 ▸ hboth.2⟩

theorem replays_queueKnown : Replays env QueueKnown := by
  refine replays_of_acts ?_
  intro act s s' hact hreplay hknown
  apply (queueKnown_act hact _ hknown).1
  intro hexpires
  rw [hexpires] at hreplay
  cases hreplay

/-- What the other acts of a handler leave of the record. -/
theorem queueKnown_writes {act : SmAct} (hwrites : WriteCase env s act after)
    (hknown : QueueKnown s) :
    QueueKnown after ∧ (NoTimer s → NoTimer after) ∧
      (act ≠ .arms → act ≠ .disarms → NoPast s → NoPast after) := by
  have hviews (hview : timerView after = timerView s) :
      QueueKnown after ∧ (NoTimer s → NoTimer after) ∧
        (act ≠ .arms → act ≠ .disarms → NoPast s → NoPast after) :=
    ⟨queueKnown_of_view hview hknown, noTimer_of_view hview, fun _ _ => noPast_of_view hview⟩
  cases hwrites with
  | arms => exact ⟨queueKnown_timer hknown, noTimer_timer, fun hnot => absurd rfl hnot⟩
  | disarms => exact ⟨queueKnown_timer hknown, noTimer_timer, fun _ hnot => absurd rfl hnot⟩
  | defers => exact hviews rfl
  | @writes write =>
      have hsame : timerView (bookView (write.apply s)) = timerView (bookView s) :=
        congrArg timerView (bookView_write write s)
      exact hviews hsame
  | enters | startsProvisioning | stopsProvisioning =>
      exact hviews (by simp [timerView, timerSeen, waitingAfter])

theorem replays_noTimer : Replays env fun s => QueueKnown s ∧ NoTimer s := by
  refine replays_of_acts ?_
  intro act s s' hact hreplay hboth
  have hallowed : act ≠ .expires := by
    intro hexpires
    rw [hexpires] at hreplay
    cases hreplay
  have hafter := queueKnown_act hact hallowed hboth.1
  exact ⟨hafter.1, hafter.2.1 hboth.2⟩

theorem replays_noPast :
    Replays env fun s => (QueueKnown s ∧ NoPast s) ∧ s.state ≠ .connected := by
  refine replays_of_acts ?_
  intro act s s' hact hreplay hboth
  have hallowed : act ≠ .expires ∧ act ≠ .times := by
    constructor <;> intro hact <;> rw [hact] at hreplay <;> cases hreplay
  have hafter := queueKnown_act hact hallowed.1 hboth.1.1
  refine ⟨⟨hafter.1, hafter.2.2 hallowed.2 hboth.1.2⟩, ?_⟩
  rw [state_of_act hact]
  exact hboth.2

variable {script : List SmAct}

theorem plays_queueKnown (hplays : Plays (Acts env) script s after)
    (hasks : script.all asksPlainly = true) (hknown : QueueKnown s) : QueueKnown after := by
  have hscheduled : Scheduled (fun _ => True) s :=
    ⟨fun _ _ _ _ => trivial, fun _ _ _ _ => trivial⟩
  apply (kept_queueKnown.plays hplays hasks (fun _ _ => replays_queueKnown) _
    ⟨hknown, hscheduled⟩).1
  exact fun act _ s s' hwrites hknown => (queueKnown_writes hwrites hknown).1

theorem plays_noTimer (hplays : Plays (Acts env) script s after)
    (hasks : script.all asksPlainly = true) (hboth : QueueKnown s ∧ NoTimer s)
    (hscheduled : Scheduled (· ≠ .free .timerExpires) s) : NoTimer after := by
  have hafter := kept_noTimer.plays hplays hasks (fun _ _ => replays_noTimer)
    (fun act _ s s' hwrites hboth => by
      have hwritten := queueKnown_writes hwrites hboth.1
      exact ⟨hwritten.1, hwritten.2.1 hboth.2⟩) ⟨hboth, hscheduled⟩
  exact hafter.1.2

/-- The acts that neither set the timer nor enter `CONNECTED`. -/
def leavesTimerAct : SmAct → Bool
  | .arms | .disarms | .enters .connected => false
  | _ => true

theorem plays_noPast (hplays : Plays (Acts env) script s after)
    (hasks : script.all asksPlainly = true) (hleaves : script.all leavesTimerAct = true)
    (hboth : QueueKnown s ∧ NoPast s) (hstate : s.state ≠ .connected) : NoPast after := by
  have hscheduled : Scheduled (fun _ => True) s :=
    ⟨fun _ _ _ _ => trivial, fun _ _ _ _ => trivial⟩
  have hafter := kept_noPast.plays hplays hasks (fun _ _ => replays_noPast)
    (fun act hmem s s' hwrites hboth => by
      have hleft := List.all_eq_true.mp hleaves act hmem
      have hwritten := queueKnown_writes hwrites hboth.1.1
      have htimer : act ≠ .arms ∧ act ≠ .disarms := by
        constructor <;> intro hact <;> rw [hact] at hleft <;> cases hleft
      refine ⟨⟨hwritten.1, hwritten.2.2 htimer.1 htimer.2 hboth.1.2⟩, ?_⟩
      cases hwrites with
      | @enters state =>
          intro hconnected
          change state = .connected at hconnected
          rw [hconnected] at hleft
          cases hleft
      | @writes write =>
          have hsame : (write.apply s).state = s.state :=
            congrArg (·.state) (bookView_write write s)
          rw [hsame]
          exact hboth.2
      | _ => exact hboth.2) ⟨⟨hboth, hstate⟩, hscheduled⟩
  exact hafter.1.1.2

end Handlers

section Stats

def enablesStats : Call → Bool
  | .enableStats _ => true
  | _ => false

theorem statsOff_of_act {act : CallAct} (hact : CallActs env act s after)
    (hallowed : act ≠ .measures) (hoff : s.bStatsEnabled = false) :
    after.bStatsEnabled = false := by
  cases hact with
  | configures _ hstats => exact Bool.eq_false_iff.mpr fun hon => by simp [hstats hon] at hoff
  | measures => exact absurd rfl hallowed
  | resets _ hrun =>
      exact (congrArg (·.bStatsEnabled)
        ((leaves_resetNWP env deaf_to_reset).of_run hrun)).trans hoff
  | setsRole _ hrun =>
      exact (congrArg (·.bStatsEnabled)
        ((leaves_setRole env deaf_to_reset _).of_run hrun)).trans hoff
  | _ => exact hoff

theorem keeps_statsOff_call {call : Call} (hcall : enablesStats call = false) :
    Keeps (·.bStatsEnabled = false) (runCall env call) := by
  have honly : OnlyActs (· ≠ .measures) (callScripts env call) := by
    refine (onlyActs_call call).mono fun act hact hmeasures => ?_
    subst hmeasures
    cases call with
    | enableStats => cases hcall
    | free call => cases call <;> cases hact
    | _ => cases hact
  refine keeps_of_follows ?_ (follows_runCall env call) honly
  exact fun act s s' hact hallowed hoff => statsOff_of_act hact hallowed hoff

theorem kept_statsOff :
    Kept env ofTimer (enablesStats · = false) (·.bStatsEnabled = false) where
  deaf := ofTimer_of_handler
  view _ _ hview hoff := (congrArg (·.bStatsEnabled) hview).trans hoff
  lists _ _ _ hoff := hoff
  call _ hcall := keeps_statsOff_call hcall

theorem plays_statsOff {script : List SmAct} (hplays : Plays (Acts env) script s after)
    (hasks : script.all asksPlainly = true) (hoff : s.bStatsEnabled = false)
    (hscheduled : Scheduled (enablesStats · = false) s) : after.bStatsEnabled = false := by
  have hreplays : Replays env (·.bStatsEnabled = false) := by
    refine replays_of_acts ?_
    intro act s s' hact hreplay hoff
    apply statsOff_of_act hact _ hoff
    intro hmeasures
    rw [hmeasures] at hreplay
    cases hreplay
  have hafter := kept_statsOff.plays hplays hasks (fun _ _ => hreplays)
    (fun act _ s s' hwrites hoff => by
      cases hwrites with
      | @writes write => exact (congrArg (·.bStatsEnabled) (bookView_write write s)).trans hoff
      | _ => exact hoff) ⟨hoff, hscheduled⟩
  exact hafter.1

end Stats

section Table

/-- Some way through the transition sets or stops the timer. -/
def setsTimer (state : SmState) (event : SmEvent) : Bool :=
  (processScripts state event).any fun script =>
    script.any fun act => act = .arms || act = .disarms

/-- Every way through the transition ends in `CONNECTED`. -/
def restsConnected (state : SmState) (event : SmEvent) : Bool :=
  (processScripts state event).all fun script => script.foldl leadsTo state = .connected

/-- The DISABLE events that are taken anywhere lead to `OFF`. -/
theorem disable_process (state : SmState) (htakes : takesDisable state = false) :
    ∀ script ∈ processScripts state .disable, script.foldl leadsTo state = .off := by
  revert htakes
  cases state <;> decide +kernel

/-- The other transitions that do not set the timer do not enter `CONNECTED`. -/
theorem leavesTimer_process {state : SmState} {event : SmEvent}
    (hsets : setsTimer state event = false)
    (hdisable : ¬(event = .disable ∧ takesDisable state = false)) :
    (state = .off ∨ state = .connected → processScripts state event = [[]]) ∧
      ∀ script ∈ processScripts state event, script.all leavesTimerAct = true := by
  revert hsets hdisable
  cases state <;> cases event <;> decide +kernel

end Table

section Runs

/-- The statistics are on, or may be by the time that the handler ends. -/
def mayCollect (config : WifiConfig) (s : WifiState) (notified : List (List Call)) : Bool :=
  config.wifiStats && (s.bStatsEnabled || notified.any fun calls => calls.any enablesStats)

/-- Where a transition sets the timer, and ends in a state that acts on TIMEOUT events, none
of the timer waits behind the event, and the timer does not expire meanwhile; nor does
one wait where the statistics of a connection are enabled. -/
def SetInTime (env : WifiEnv) (s : WifiState) : WifiAct → Prop
  | .handle notified posting => ∀ event, s.received = some event →
      setsTimer s.state event = true →
        (restsConnected s.state event = true →
          mayCollect env.toWifiConfig s notified = true) →
        (∀ waits ∈ (waiting s).tail, waits.2 = .thread) ∧
          AllAllowed (· ≠ .free .timerExpires) notified posting
  | .call (.enableStats interval) => env.wifiStats = true → s.initialized = true →
      s.state = .connected → 10 ≤ interval.toNat → NoTimer s
  | _ => True

/-- The record agrees with the queue, and a TIMEOUT event of a past timer waits only where
it is not acted on. -/
def InTime (env : WifiEnv) (s : WifiState) : Prop :=
  QueueKnown s ∧ (actsOnTimeout env.toWifiConfig s = true → NoPast s)

theorem QueueKnown.initialized {event : SmEvent} (hknown : QueueKnown s)
    (hreceived : s.received = some event) : s.initialized = true := by
  by_contra hnot
  rw [QueueKnown, if_neg hnot, hreceived] at hknown
  cases hknown.1

theorem waiting_handling (event : SmEvent) (notified : List (List Call))
    (posting : List (List FreeCall)) :
    timerSeen (handling s event notified posting) = ((timerSeen s).1, (waiting s).tail) := by
  rw [timerSeen, handling, List.foldl_append]
  rfl

theorem queueKnown_handling {event : SmEvent} (notified : List (List Call))
    (posting : List (List FreeCall)) (hknown : QueueKnown s) (hreceived : s.received = some event) :
    QueueKnown (handling s event notified posting) := by
  have hinitialized := hknown.initialized hreceived
  rw [QueueKnown, if_pos hinitialized, hreceived] at hknown
  rw [QueueKnown, if_pos (by exact hinitialized), waiting, waiting_handling]
  refine ⟨hknown.1, ?_⟩
  rw [List.map_tail, hknown.2]
  rfl

theorem actsOnTimeout_eq_false (hstate : s.state = .connected)
    (hstats : env.wifiStats = true → s.bStatsEnabled = false) :
    actsOnTimeout env.toWifiConfig s = false := by
  rw [actsOnTimeout, hstate]
  cases hwifi : env.wifiStats with
  | false => rfl
  | true => rw [hstats hwifi]; rfl

/-- Processing an event leaves no TIMEOUT of a past timer where it is acted on. -/
theorem inTime_process {event : SmEvent} {notified : List (List Call)}
    {posting : List (List FreeCall)} {script : List SmAct} {final : WifiState}
    (hreceived : s.received = some event)
    (hcondition : SetInTime env s (.handle notified posting))
    (hscript : script ∈ processScripts s.state event)
    (hplays : Plays (Acts env) script (handling s event notified posting) final)
    (hinTime : InTime env s) : InTime env final := by
  have hasks := asksPlainly_process s.state event script hscript
  have hknown := queueKnown_handling notified posting hinTime.1 hreceived
  have hstate := plays_state hplays
  change final.state = script.foldl leadsTo s.state at hstate
  refine ⟨plays_queueKnown hplays hasks hknown, fun hacts => ?_⟩
  by_cases hsets : setsTimer s.state event = true
  · by_cases hexempt : restsConnected s.state event = true ∧
        mayCollect env.toWifiConfig s notified = false
    · -- the transition ends in `CONNECTED`, with the statistics off
      have hconnected : final.state = .connected := by
        rw [hstate]
        simpa using List.all_eq_true.mp hexempt.1 script hscript
      have hstats : env.wifiStats = true → final.bStatsEnabled = false := by
        intro hwifi
        have hnone := hexempt.2
        rw [mayCollect, hwifi, Bool.true_and, Bool.or_eq_false_iff] at hnone
        apply plays_statsOff hplays hasks hnone.1
        refine ⟨fun calls hcalls call hcall => ?_, fun _ _ _ _ => rfl⟩
        have hquiet := List.any_eq_false.mp hnone.2 calls hcalls
        rw [Bool.not_eq_true] at hquiet
        exact Bool.eq_false_iff.mpr (List.any_eq_false.mp hquiet call hcall)
      rw [actsOnTimeout_eq_false hconnected hstats] at hacts
      cases hacts
    · have hcollects : restsConnected s.state event = true →
          mayCollect env.toWifiConfig s notified = true := by
        intro hrests
        by_contra hnot
        exact hexempt ⟨hrests, Bool.eq_false_iff.mpr hnot⟩
      obtain ⟨hnone, hallowed⟩ := hcondition event hreceived hsets hcollects
      have hstart : NoTimer (handling s event notified posting) := by
        rw [NoTimer, waiting, waiting_handling]
        exact hnone
      exact (plays_noTimer hplays hasks ⟨hknown, hstart⟩ hallowed).noPast
  · rw [Bool.not_eq_true] at hsets
    by_cases hdisable : event = .disable ∧ takesDisable s.state = false
    · -- the transition ends in `OFF`
      obtain ⟨hevent, htakes⟩ := hdisable
      subst hevent
      rw [actsOnTimeout, hstate, disable_process s.state htakes script hscript] at hacts
      cases hacts
    · obtain ⟨hnothing, hleaves⟩ := leavesTimer_process hsets hdisable
      by_cases hresting : s.state = .off ∨ s.state = .connected
      · rw [hnothing hresting, List.mem_singleton] at hscript
        subst hscript
        cases hplays
        have hpast : NoPast s := hinTime.2 hacts
        rw [NoPast, waiting, waiting_handling]
        exact fun waits hwaits => hpast waits (List.mem_of_mem_tail hwaits)
      · have hconnected : s.state ≠ .connected := fun hconnected => hresting (.inr hconnected)
        have hpast : NoPast s := by
          apply hinTime.2
          have hoff : s.state ≠ .off := fun hoff => hresting (.inl hoff)
          simp [actsOnTimeout, hoff, hconnected]
        apply plays_noPast hplays hasks (hleaves script hscript) ⟨hknown, _⟩ hconnected
        rw [NoPast, waiting, waiting_handling]
        exact fun waits hwaits => hpast waits (List.mem_of_mem_tail hwaits)

/-- The state and the statistics decide whether TIMEOUT events are acted on. -/
theorem actsOnTimeout_of_le (hstate : after.state = s.state)
    (hstats : s.state = .connected → after.bStatsEnabled = true → s.bStatsEnabled = true)
    (hacts : actsOnTimeout env.toWifiConfig after = true) :
    actsOnTimeout env.toWifiConfig s = true := by
  rw [actsOnTimeout, hstate] at hacts
  rw [actsOnTimeout]
  by_cases hconnected : s.state = .connected
  · simp only [hconnected] at hacts hstats ⊢
    simp only [ne_eq, not_true_eq_false, decide_false, Bool.false_or, Bool.and_eq_true] at hacts ⊢
    exact ⟨hacts.1, hacts.2.1, hstats trivial hacts.2.2⟩
  · simpa [hconnected] using hacts

theorem inTime_of_noPast {call : Call} (hrun : (runCall env call).run s = .ok () after)
    (hcall : setsStats call = true → s.state ≠ .connected)
    (henables : enablesStats call = true → s.state ≠ .connected) (hinTime : InTime env s) :
    InTime env after := by
  have hstate : after.state = s.state := congrArg (·.2.1) ((leaves_runCall env call).of_run hrun)
  refine ⟨(keeps_queueKnown_call call).of_run hrun hinTime.1, fun hacts => ?_⟩
  have hactsBefore : actsOnTimeout env.toWifiConfig s = true := by
    apply actsOnTimeout_of_le hstate _ hacts
    intro hconnected hon
    by_contra hoff
    rw [Bool.not_eq_true] at hoff
    have hquiet : enablesStats call = false :=
      Bool.eq_false_iff.mpr fun henable => henables henable hconnected
    rw [(keeps_statsOff_call hquiet).of_run hrun hoff] at hon
    cases hon
  have hkeeps : Keeps (fun other => (QueueKnown other ∧ NoPast other) ∧ other.state = s.state)
      (runCall env call) :=
    keeps_noPast_call hcall
  exact (hkeeps.of_run hrun ⟨⟨hinTime.1, hinTime.2 hactsBefore⟩, rfl⟩).1.2

/-- The statistics of a connection are enabled only if the call is accepted. -/
theorem inTime_enableStats {interval : BitVec 16}
    (hrun : (runCall env (.enableStats interval)).run s = .ok () after)
    (hcondition : SetInTime env s (.call (.enableStats interval)))
    (hconnected : s.state = .connected) (hinTime : InTime env s) : InTime env after := by
  by_cases haccepted : env.wifiStats = true ∧ s.initialized = true ∧ 10 ≤ interval.toNat
  · obtain ⟨hwifi, hinitialized, hlong⟩ := haccepted
    have hnone : NoTimer s := hcondition hwifi hinitialized hconnected hlong
    have hcall : Call.enableStats interval ≠ .free .timerExpires := fun hcall => by cases hcall
    have hafter := (keeps_noTimer_call hcall).of_run hrun ⟨hinTime.1, hnone⟩
    exact ⟨hafter.1, fun _ => hafter.2.noPast⟩
  · have hsame : Ensures (runCall env (.enableStats interval)) s fun _ after => after = s := by
      rw [Ensures, runCall, ends_runIf]
      split
      · rename_i hwifi
        rw [ignoreRet, ends_bind, slWifiConnEnableStats, ends_bind, ends_get, ends_ite]
        split
        · rfl
        · rename_i hinitialized
          rw [ends_ite, if_pos]
          · rfl
          · by_contra hlong
            exact haccepted ⟨hwifi, by simpa using hinitialized, not_lt.mp hlong⟩
      · rfl
    rw [hsame.of_run hrun]
    exact hinTime

theorem inTime_disableStats (hrun : (runCall env .disableStats).run s = .ok () after)
    (hconnected : s.state = .connected) (hinTime : InTime env s) : InTime env after := by
  have hstops : Ensures (runCall env .disableStats) s fun _ after =>
      after = s ∨ after.bStatsEnabled = false := by
    rw [Ensures, runCall, ends_runIf]
    split
    · rw [ignoreRet, ends_bind, slWifiConnDisableStats, ends_bind, ends_get, ends_ite]
      split
      · exact .inl rfl
      · rw [ends_bind, ends_modify, ends_bind, ends_runIf, if_pos hconnected]
        exact .inr rfl
    · exact .inl rfl
  cases hstops.of_run hrun with
  | inl hsame => rwa [hsame]
  | inr hoff =>
      refine ⟨(keeps_queueKnown_call .disableStats).of_run hrun hinTime.1, fun hacts => ?_⟩
      have hstate : after.state = s.state :=
        congrArg (·.2.1) ((leaves_runCall env .disableStats).of_run hrun)
      rw [actsOnTimeout_eq_false (hstate.trans hconnected) fun _ => hoff] at hacts
      cases hacts

theorem inTime_call {call : Call} (hrun : (runCall env call).run s = .ok () after)
    (hcondition : SetInTime env s (.call call)) (hinTime : InTime env s) : InTime env after := by
  by_cases hstats : setsStats call = true ∧ s.state = .connected
  · obtain ⟨hsets, hconnected⟩ := hstats
    cases call with
    | enableStats => exact inTime_enableStats hrun hcondition hconnected hinTime
    | disableStats => exact inTime_disableStats hrun hconnected hinTime
    | _ => cases hsets
  · apply inTime_of_noPast hrun (fun hsets hconnected => hstats ⟨hsets, hconnected⟩) _ hinTime
    intro henables hconnected
    cases call with
    | enableStats => exact hstats ⟨rfl, hconnected⟩
    | _ => cases henables

theorem Started.inTime (hstarted : Started env s) : InTime env s := by
  have hdeaf (output : Output) (houtput : ofInit env output = true) : ofTimer output = false := by
    cases output <;> first | rfl | cases houtput
  obtain ⟨boot, appCBSet, houtputs, hcontext⟩ := hstarted.context hdeaf
  have hview := timerView_of_context hcontext
  have hseen : timerSeen (freshContext appCBSet boot) = (false, []) := by
    rw [timerSeen, freshContext, houtputs]
    rfl
  have hfresh : QueueKnown (freshContext appCBSet boot) ∧ NoPast (freshContext appCBSet boot) := by
    refine ⟨?_, ?_⟩
    · rw [QueueKnown, waiting, hseen]
      exact ⟨rfl, rfl⟩
    · rw [NoPast, waiting, hseen]
      exact fun _ hnone => by cases hnone
  exact ⟨queueKnown_of_view hview hfresh.1, fun _ => noPast_of_view hview hfresh.2⟩

/-- In every state of the run, no TIMEOUT event of a past timer waits where it is acted
on. -/
theorem inTime_of_setInTime (hstarted : Started env s) {acts : List WifiAct}
    (hsteps : StepsSatisfy (step env) (SetInTime env) s acts) :
    StatesSatisfy (step env) (InTime env) s acts := by
  apply Transition.states_of_steps _ (Started.inTime hstarted) hsteps
  intro s act next hinTime hcondition hstep
  cases stepCase_of_step hstep with
  | call hrun => exact inTime_call hrun hcondition hinTime
  | @receive event rest hreceived heventQ =>
      refine ⟨?_, hinTime.2⟩
      have hknown := hinTime.1
      rw [QueueKnown, hreceived, heventQ] at hknown
      rw [QueueKnown]
      split at hknown
      · rename_i hinitialized
        rwa [if_pos (by exact hinitialized)]
      · cases hknown.2
  | @process event notified posting script final hreceived _ hscript hplays =>
      have hafter : InTime env final :=
        inTime_process hreceived hcondition hscript hplays hinTime
      exact hafter
  | @destroy notified posting final hreceived hrun =>
      injection hrun with _ hfinal
      subst hfinal
      have hseen : timerSeen (handled
          { s with
            initialized := false
            eventQ := []
            deferredEventQ := []
            timer := 0
            pNonPersistentProfile := none
            received := none
            notified := notified
            posting := posting
            outputs := s.outputs ++ [.nwp .unregisterHandlers] ++ [.nwp .stop] }) =
          timerSeen s := by
        rw [timerSeen, handled, List.foldl_append, List.foldl_append]
        rfl
      refine ⟨⟨rfl, rfl⟩, fun hacts => ?_⟩
      have hpast : NoPast s := hinTime.2 hacts
      rw [NoPast, waiting] at hpast ⊢
      exact hseen ▸ hpast

theorem actsInTime_of_inTime (hinTime : InTime env s) (act : WifiAct) : ActsInTime env s act := by
  cases act with
  | handle notified posting =>
      intro hreceived hacts
      have hknown := hinTime.1
      have hpast := hinTime.2 hacts
      rw [QueueKnown, if_pos (hinTime.1.initialized hreceived), hreceived] at hknown
      obtain ⟨first, rest, hwaiting, hfirst, -⟩ := List.map_eq_cons_iff.mp hknown.2
      have hnew := hpast first (by rw [hwaiting]; exact List.mem_cons_self)
      obtain ⟨event, origin⟩ := first
      rw [hwaiting, List.head?_cons]
      change event = .timeout at hfirst
      subst hfirst
      cases origin with
      | thread => exact .inr rfl
      | timer => exact .inl rfl
      | pastTimer => exact absurd rfl hnew
  | _ => trivial

/-- A profile that the NWP stores at once. -/
def storedProfile : AddProfile where
  profile := ⟨[0x61], none, 0, [], [], [], 0⟩
  extParams := false
  nonPersistent := false
  added := 0
  allocated := true

/-- The condition, computed. -/
def setInTime (env : WifiEnv) (s : WifiState) : WifiAct → Bool
  | .handle notified posting => s.received.all fun event =>
      !setsTimer s.state event ||
        restsConnected s.state event && !mayCollect env.toWifiConfig s notified ||
          (waiting s).tail.all (·.2 = .thread) && notified.isEmpty && posting.isEmpty
  | .call (.enableStats _) => !env.wifiStats || s.state ≠ .connected
  | _ => true

theorem setInTime_sound (s : WifiState) (act : WifiAct) (hcheck : setInTime env s act = true) :
    SetInTime env s act := by
  cases act with
  | handle notified posting =>
      intro event hreceived hsets hcollects
      simp only [setInTime, hreceived, Option.all_some, hsets, Bool.not_true, Bool.false_or,
        Bool.or_eq_true, Bool.and_eq_true, List.isEmpty_iff] at hcheck
      cases hcheck with
      | inl hrests => simp [hcollects hrests.1] at hrests
      | inr hnone =>
          obtain ⟨⟨hnone, hnotified⟩, hposting⟩ := hnone
          subst hnotified hposting
          refine ⟨fun waits hwaits => ?_, fun _ hnil => (by cases hnil),
            fun _ hnil => by cases hnil⟩
          exact of_decide_eq_true (List.all_eq_true.mp hnone waits hwaits)
  | call call =>
      cases call with
      | enableStats =>
          intro hwifi _ hconnected
          simp [setInTime, hwifi, hconnected] at hcheck
      | _ => trivial
  | receive => trivial

end Runs

end SimpleLinkHost.WifiTimer
