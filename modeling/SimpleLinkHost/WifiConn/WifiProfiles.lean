import SimpleLinkHost.Core.Monitor
import SimpleLinkHost.WifiConn.WifiActs
import SimpleLinkHost.WifiConn.WifiRuns
import SimpleLinkHost.WifiConn.WifiSession

/-!
# Profiles that are added during provisioning

The NWP does not take a profile while its provisioning session is open.  A profile that
is added then is kept in the queue of deferred events, given to the NWP again when the
queue is replayed, and freed.  The replay is in time when it comes after the stop of the
session; entering `WAIT_FOR_CONN` replays the queue too, in whatever state the session
is.
-/

namespace SimpleLinkHost.WifiProfiles

open CallOutcome ProgramInvariant ProgramScript Monitor WifiContext WifiApi WifiMachine WifiFrames
open WifiScripts WifiCalls WifiActs WifiRuns
open WifiSession (lateProfile)
open Transition (StatesSatisfy StepsSatisfy)

variable {env : WifiEnv} {s after : WifiState} {inPlace : ℕ → Bool}

section Property

/-- How many CONNECTED events were posted, and whether the NWP's session is open: it is
closed at the latest when its report is posted, a CONNECTED event where `inPlace` says
so. -/
def nwpSession (env : WifiEnv) (inPlace : ℕ → Bool) (seen : ℕ × Bool) : Output → ℕ × Bool
  | .nwp (.provisioning cmd _ _ _ _) => (seen.1, seen.2 || cmd ≠ env.provisioningCmdStop)
  | .posted .provStopped => (seen.1, false)
  | .posted .connected => (seen.1 + 1, seen.2 && !inPlace seen.1)
  | _ => seen

/-- The profile that was given to the NWP last, and whether the NWP took it: it does so
exactly while no session is open. -/
def lastAdded (sessionOpen : Bool) (last : Option (Profile × Bool)) :
    Output → Option (Profile × Bool)
  | .nwp (.profileAdd profile _) => some (profile, !sessionOpen)
  | _ => last

def profilesAfter (env : WifiEnv) (inPlace : ℕ → Bool)
    (seen : (ℕ × Bool) × Option (Profile × Bool)) (output : Output) :
    (ℕ × Bool) × Option (Profile × Bool) :=
  (nwpSession env inPlace seen.1 output, lastAdded seen.1.2 seen.2 output)

/-- A profile is freed that the NWP has not taken. -/
def lost (seen : (ℕ × Bool) × Option (Profile × Bool)) : Output → Bool
  | .freed profile => seen.2 ≠ some (profile, true)
  | _ => false

/-- Each deferred profile that was freed had been given to the NWP just before, and the
NWP had taken it. -/
def ProfilesAdded (env : WifiEnv) (inPlace : ℕ → Bool) (s : WifiState) : Prop :=
  NeverBad (profilesAfter env inPlace) lost ((0, false), none) s.outputs

/-- What the record tells of the session and of the profiles. -/
def profilesSeen (env : WifiEnv) (inPlace : ℕ → Bool) (s : WifiState) :
    ((ℕ × Bool) × Option (Profile × Bool)) × Bool :=
  s.outputs.foldl (watchBad (profilesAfter env inPlace) lost) (((0, false), none), true)

def SessionOpen (env : WifiEnv) (inPlace : ℕ → Bool) (s : WifiState) : Prop :=
  (profilesSeen env inPlace s).1.1.2 = true

instance (s : WifiState) : Decidable (SessionOpen env inPlace s) :=
  inferInstanceAs (Decidable (_ = true))

def NoneLost (env : WifiEnv) (inPlace : ℕ → Bool) (s : WifiState) : Prop :=
  (profilesSeen env inPlace s).2 = true

theorem profilesAdded_iff : ProfilesAdded env inPlace s ↔ NoneLost env inPlace s :=
  (foldl_watchBad (profilesAfter env inPlace) lost ((0, false), none) s.outputs).2.symm

end Property

section Frame

def ofProfiles (env : WifiEnv) : Output → Bool
  | .nwp (.provisioning cmd _ _ _ _) => cmd ≠ env.provisioningCmdStop
  | .nwp (.profileAdd _ _) | .posted _ | .freed _ => true
  | _ => false

theorem watch_of_others {output : Output} (houtput : ofProfiles env output = false)
    (seen : ((ℕ × Bool) × Option (Profile × Bool)) × Bool) :
    watchBad (profilesAfter env inPlace) lost seen output = seen := by
  cases output with
  | nwp call =>
      cases call with
      | provisioning cmd role timeout key flags =>
          have hstop : cmd = env.provisioningCmdStop := by simpa [ofProfiles] using houtput
          simp [watchBad, profilesAfter, nwpSession, lastAdded, lost, hstop]
      | profileAdd => cases houtput
      | _ => simp [watchBad, profilesAfter, nwpSession, lastAdded, lost]
  | posted | freed => cases houtput
  | _ => simp [watchBad, profilesAfter, nwpSession, lastAdded, lost]

theorem profilesSeen_of_context
    (hview : contextView (ofProfiles env) after = contextView (ofProfiles env) s) :
    profilesSeen env inPlace after = profilesSeen env inPlace s := by
  have hfilter (s : WifiState) : profilesSeen env inPlace s =
      (s.outputs.filter (ofProfiles env)).foldl
        (watchBad (profilesAfter env inPlace) lost) (((0, false), none), true) := by
    rw [profilesSeen, List.foldl_filter]
    congr 1
    funext seen output
    by_cases houtput : ofProfiles env output = true
    · rw [if_pos houtput]
    · rw [if_neg houtput, watch_of_others (Bool.eq_false_iff.mpr houtput)]
  have houtputs : after.outputs.filter (ofProfiles env) = s.outputs.filter (ofProfiles env) :=
    congrArg (·.outputs) hview
  rw [hfilter, hfilter, houtputs]

theorem profilesSeen_emit (output : Output) {outputs : List Output}
    (hafter : after.outputs = outputs ++ [output]) (hbefore : s.outputs = outputs) :
    profilesSeen env inPlace after =
      watchBad (profilesAfter env inPlace) lost (profilesSeen env inPlace s) output := by
  rw [profilesSeen, hafter, List.foldl_append, ← hbefore]
  rfl

theorem ofProfiles_of_handler (output : Output) (houtput : ofHandler output = true) :
    ofProfiles env output = false := by
  cases output with
  | nwp call =>
      cases call with
      | provisioning | profileAdd => cases houtput
      | _ => rfl
  | netIf | app | sleep => rfl
  | _ => cases houtput

theorem ofProfiles_of_reset (output : Output) (houtput : ofReset output = true) :
    ofProfiles env output = false :=
  ofProfiles_of_handler output (ofHandler_of_reset output houtput)

/-- No session is opened, and nothing is lost. -/
def Safer (env : WifiEnv) (inPlace : ℕ → Bool) (s after : WifiState) : Prop :=
  (SessionOpen env inPlace after → SessionOpen env inPlace s) ∧
    (NoneLost env inPlace s → NoneLost env inPlace after)

theorem safer_of_seen (hseen : profilesSeen env inPlace after = profilesSeen env inPlace s) :
    Safer env inPlace s after := by
  rw [Safer, SessionOpen, SessionOpen, NoneLost, NoneLost, hseen]
  exact ⟨id, id⟩

theorem noneLost_of_emit (output : Output) {outputs : List Output}
    (hafter : after.outputs = outputs ++ [output]) (hbefore : s.outputs = outputs)
    (hloses : ∀ seen, lost seen output = false) (hnone : NoneLost env inPlace s) :
    NoneLost env inPlace after := by
  rw [NoneLost] at hnone
  rw [NoneLost, profilesSeen_emit output hafter hbefore, watchBad, hnone, hloses]
  rfl

theorem safer_of_emit (output : Output) {outputs : List Output}
    (hafter : after.outputs = outputs ++ [output]) (hbefore : s.outputs = outputs)
    (hopens : ∀ seen, (nwpSession env inPlace seen output).2 = true → seen.2 = true)
    (hloses : ∀ seen, lost seen output = false) : Safer env inPlace s after := by
  refine ⟨?_, noneLost_of_emit output hafter hbefore hloses⟩
  rw [SessionOpen, SessionOpen, profilesSeen_emit output hafter hbefore]
  exact hopens _

/-- The acts of the calls and of the replay are safe, up to the one that frees. -/
theorem safer_of_act {act : CallAct} (hact : CallActs env act s after)
    (hallowed : ∀ profile, act ≠ .frees profile) : Safer env inPlace s after := by
  cases hact with
  | @posts event =>
      apply safer_of_emit (.posted event) rfl rfl
      · intro seen hopen
        cases event with
        | connected => exact (Bool.and_eq_true_iff.mp hopen).1
        | provStopped => cases hopen
        | _ => exact hopen
      · exact fun _ => rfl
  | expires => exact safer_of_emit .expired rfl rfl (fun _ hopen => hopen) fun _ => rfl
  | @times duration =>
      exact safer_of_emit (.timer duration) rfl rfl (fun _ hopen => hopen) fun _ => rfl
  | @adds profile ext =>
      exact safer_of_emit (.nwp (.profileAdd profile ext)) rfl rfl (fun _ hopen => hopen)
        fun _ => rfl
  | sets | defers | takes => exact safer_of_seen rfl
  | configures hview | measures hview =>
      have hseen : profilesSeen env inPlace (configView after) =
          profilesSeen env inPlace (configView s) :=
        congrArg (profilesSeen env inPlace) hview
      exact safer_of_seen hseen
  | frees => exact absurd rfl (hallowed _)
  | resets _ hrun =>
      apply safer_of_seen
      exact profilesSeen_of_context ((leaves_resetNWP env ofProfiles_of_reset).of_run hrun)
  | @setsRole role _ _ after _ hrun =>
      have hseen : profilesSeen env inPlace after = profilesSeen env inPlace s :=
        profilesSeen_of_context ((leaves_setRole env ofProfiles_of_reset role).of_run hrun)
      exact safer_of_seen hseen

end Frame

section Calls

theorem onlyActs_of_not_frees (call : Call) :
    OnlyActs (fun act => (∀ profile, act ≠ .frees profile) ∧
      ∀ profile, act = .defers profile → defers env call = true) (callScripts env call) := by
  refine (onlyActs_call call).mono fun act hact => ?_
  cases act with
  | frees =>
      cases call with
      | free call => cases call <;> cases hact
      | _ => cases hact
  | defers =>
      refine ⟨fun _ hfrees => (by cases hfrees), fun _ _ => ?_⟩
      cases call with
      | addProfile => exact hact.2
      | free call => cases call <;> cases hact
      | _ => cases hact
  | _ => exact ⟨fun _ hfrees => (by cases hfrees), fun _ hdefers => by cases hdefers⟩

theorem keeps_noneLost_call (call : Call) :
    Keeps (NoneLost env inPlace) (runCall env call) := by
  refine keeps_of_follows ?_ (follows_runCall env call) (onlyActs_of_not_frees call)
  exact fun act s s' hact hallowed => (safer_of_act hact hallowed.1).2

/-- What is given to the NWP while its session is closed is not lost. -/
def Closed (env : WifiEnv) (inPlace : ℕ → Bool) (s : WifiState) : Prop :=
  NoneLost env inPlace s ∧ ¬SessionOpen env inPlace s

theorem closed_of_safer (hsafer : Safer env inPlace s after) (hclosed : Closed env inPlace s) :
    Closed env inPlace after :=
  ⟨hsafer.2 hclosed.1, fun hopen => hclosed.2 (hsafer.1 hopen)⟩

theorem keeps_closed_call (call : Call) : Keeps (Closed env inPlace) (runCall env call) := by
  refine keeps_of_follows ?_ (follows_runCall env call) (onlyActs_of_not_frees call)
  exact fun act s s' hact hallowed => closed_of_safer (safer_of_act hact hallowed.1)

/-- No deferred event carries a profile. -/
def Bare (env : WifiEnv) (inPlace : ℕ → Bool) (s : WifiState) : Prop :=
  NoneLost env inPlace s ∧ ∀ deferred ∈ s.deferredEventQ, deferred.pParams = none

theorem deferred_of_act {act : CallAct} (hact : CallActs env act s after)
    (hallowed : ∀ profile, act ≠ .defers profile)
    (hnone : ∀ deferred ∈ s.deferredEventQ, deferred.pParams = none) :
    ∀ deferred ∈ after.deferredEventQ, deferred.pParams = none := by
  have hsame (hqueue : after.deferredEventQ = s.deferredEventQ) :
      ∀ deferred ∈ after.deferredEventQ, deferred.pParams = none := by
    rwa [hqueue]
  cases hact with
  | defers => exact absurd rfl (hallowed _)
  | takes hqueue =>
      rw [hqueue] at hnone
      exact fun deferred hdeferred => hnone deferred (List.mem_cons_of_mem _ hdeferred)
  | configures hview | measures hview => exact hsame (congrArg (·.deferredEventQ) hview)
  | resets _ hrun =>
      exact hsame (congrArg (·.deferredEventQ) ((leaves_resetNWP env deaf_to_reset).of_run hrun))
  | setsRole _ hrun =>
      exact hsame (congrArg (·.deferredEventQ) ((leaves_setRole env deaf_to_reset _).of_run hrun))
  | _ => exact hnone

theorem keeps_bare_call {call : Call} (hcall : defers env call = false) :
    Keeps (Bare env inPlace) (runCall env call) := by
  refine keeps_of_follows ?_ (follows_runCall env call) (onlyActs_of_not_frees call)
  intro act s s' hact hallowed hbare
  refine ⟨(safer_of_act hact hallowed.1).2 hbare.1, deferred_of_act hact ?_ hbare.2⟩
  intro profile hdefers
  rw [hallowed.2 profile hdefers] at hcall
  cases hcall

end Calls

section Handlers

theorem kept_noneLost : Kept env (ofProfiles env) (fun _ => True) (NoneLost env inPlace) where
  deaf := ofProfiles_of_handler
  view _ _ hview := (safer_of_seen (profilesSeen_of_context hview)).2
  lists _ _ _ hnone := hnone
  call call _ := keeps_noneLost_call call

theorem kept_closed : Kept env (ofProfiles env) (fun _ => True) (Closed env inPlace) where
  deaf := ofProfiles_of_handler
  view _ _ hview := closed_of_safer (safer_of_seen (profilesSeen_of_context hview))
  lists _ _ _ hclosed := hclosed
  call call _ := keeps_closed_call call

theorem kept_bare :
    Kept env (ofProfiles env) (defers env · = false) (Bare env inPlace) where
  deaf := ofProfiles_of_handler
  view _ after hview hbare := by
    have hqueue : after.deferredEventQ = _ := congrArg (·.deferredEventQ) hview
    refine ⟨(safer_of_seen (profilesSeen_of_context hview)).2 hbare.1, ?_⟩
    rw [hqueue]
    exact hbare.2
  lists _ _ _ hbare := hbare
  call _ hcall := keeps_bare_call hcall

theorem keeps_signalEvent {inv : WifiState → Prop}
    (hposts : ∀ event s s', CallActs env (.posts event) s s' → inv s → inv s') (event : SmEvent) :
    Keeps inv (signalEvent event) := by
  have honly : OnlyActs (fun act => ∃ event, act = .posts event) (postScripts (some event)) :=
    onlyActs_post ⟨event, rfl⟩
  refine keeps_of_follows ?_ (follows_signalEvent env event) honly
  rintro _ s s' hact ⟨event, rfl⟩
  exact hposts event s s' hact

theorem closed_of_replayed {profile : Profile} {ext : Bool} (hclosed : Closed env inPlace s) :
    Closed env inPlace
      { s with outputs := s.outputs ++ [.nwp (.profileAdd profile ext)] ++ [.freed profile] } := by
  obtain ⟨hnone, hshut⟩ := hclosed
  rw [NoneLost] at hnone
  rw [SessionOpen, Bool.not_eq_true] at hshut
  have hseen : profilesSeen env inPlace
      { s with outputs := s.outputs ++ [.nwp (.profileAdd profile ext)] ++ [.freed profile] } =
        (((profilesSeen env inPlace s).1.1, some (profile, true)), true) := by
    rw [profilesSeen, List.foldl_append, List.foldl_append]
    change watchBad _ _ (watchBad _ _ (profilesSeen env inPlace s) _) _ = _
    simp [watchBad, profilesAfter, nwpSession, lastAdded, lost, hnone, hshut]
  rw [Closed, NoneLost, SessionOpen, hseen]
  exact ⟨rfl, by simp [hshut]⟩

/-- With the session closed, the NWP takes each profile that is replayed. -/
theorem replays_closed : Replays env (Closed env inPlace) where
  adds s deferred rest hqueue hclosed := by
    have htaken : Closed env inPlace { s with deferredEventQ := rest } :=
      closed_of_safer (safer_of_seen rfl) hclosed
    rw [addDeferredProfile]
    split
    · exact closed_of_replayed htaken
    · exact htaken
  posts := keeps_signalEvent fun event s s' hact =>
    closed_of_safer (safer_of_act hact fun _ hfrees => by cases hfrees)

/-- Deferred events without a profile are only posted. -/
theorem replays_bare : Replays env (Bare env inPlace) where
  adds s deferred rest hqueue hbare := by
    have hnone : deferred.pParams = none := by
      apply hbare.2
      rw [hqueue]
      exact List.mem_cons_self
    have htaken : Bare env inPlace { s with deferredEventQ := rest } := by
      refine ⟨hbare.1, fun other hother => hbare.2 other ?_⟩
      rw [hqueue]
      exact List.mem_cons_of_mem deferred hother
    rw [addDeferredProfile]
    rw [hnone]
    split
    · rename_i hsome
      cases hsome
    · exact htaken
  posts := keeps_signalEvent fun event s s' hact hbare => by
    have hsafer : Safer env inPlace s s' := safer_of_act hact fun _ hfrees => by cases hfrees
    exact ⟨hsafer.2 hbare.1, deferred_of_act hact (fun _ hdefers => by cases hdefers) hbare.2⟩

/-- The other acts of the handlers are safe, up to the one that starts a session. -/
theorem safer_of_writes {act : SmAct} (hwrites : WriteCase env s act after)
    (hact : act ≠ .startsProvisioning) : Safer env inPlace s after := by
  cases hwrites with
  | enters => exact safer_of_emit (.entered _) rfl rfl (fun _ hopen => hopen) fun _ => rfl
  | arms => exact safer_of_emit (.timer _) rfl rfl (fun _ hopen => hopen) fun _ => rfl
  | disarms => exact safer_of_emit (.timer 0) rfl rfl (fun _ hopen => hopen) fun _ => rfl
  | defers => exact safer_of_seen rfl
  | @writes write =>
      have hseen : profilesSeen env inPlace (bookView (write.apply s)) =
          profilesSeen env inPlace (bookView s) :=
        congrArg (profilesSeen env inPlace) (bookView_write write s)
      exact safer_of_seen hseen
  | startsProvisioning => exact absurd rfl hact
  | stopsProvisioning =>
      apply safer_of_emit (.nwp (.provisioning env.provisioningCmdStop _ _ _ _)) rfl rfl
      · intro seen hopen
        simpa [nwpSession] using hopen
      · exact fun _ => rfl

theorem noneLost_of_writes {act : SmAct} (hwrites : WriteCase env s act after)
    (hnone : NoneLost env inPlace s) : NoneLost env inPlace after := by
  by_cases hact : act = .startsProvisioning
  · subst hact
    cases hwrites with
    | startsProvisioning =>
        exact noneLost_of_emit (.nwp (.provisioning _ _ _ _ _)) rfl rfl (fun _ => rfl) hnone
  · exact (safer_of_writes hwrites hact).2 hnone

theorem bare_of_writes {act : SmAct} (hwrites : WriteCase env s act after)
    (hbare : Bare env inPlace s) : Bare env inPlace after := by
  refine ⟨noneLost_of_writes hwrites hbare.1, ?_⟩
  cases hwrites with
  | defers =>
      intro deferred hdeferred
      rw [List.mem_append, List.mem_singleton] at hdeferred
      cases hdeferred with
      | inl hold => exact hbare.2 deferred hold
      | inr hnew => rw [hnew]
  | @writes write =>
      have hqueue : (write.apply s).deferredEventQ = s.deferredEventQ :=
        congrArg (·.deferredEventQ) (bookView_write write s)
      rw [hqueue]
      exact hbare.2
  | _ => exact hbare.2

end Handlers

section Table

def isDrain : SmAct → Bool
  | .drains _ => true
  | _ => false

/-- The event leads to a replay of the deferred events. -/
def replaysDeferred (s : WifiState) (event : SmEvent) : Bool :=
  (processScripts s.state event).any (fun script => script.any isDrain) &&
    !(s.state = .waitForConn && event = .timeout && !s.bWlanConnectUsed)

/-- No session is started where the deferred events are replayed. -/
theorem drains_process (state : SmState) (event : SmEvent) :
    ∀ script ∈ processScripts state event, script.any isDrain = true →
      .startsProvisioning ∉ script := by
  cases state <;> cases event <;> decide +kernel

theorem connectUsed_process :
    ∀ script ∈ processScripts .waitForConn .timeout, script.any isDrain = true →
      script.take 1 = [.finds .connectUsed true] := by
  decide +kernel

/-- A script that replays is one of an event that does. -/
theorem replays_of_drains {event : SmEvent} {script : List SmAct}
    (hscript : script ∈ processScripts s.state event) (hplays : Plays (Acts env) script s after)
    (hdrains : script.any isDrain = true) : replaysDeferred s event = true := by
  rw [replaysDeferred, Bool.and_eq_true]
  refine ⟨List.any_eq_true.mpr ⟨script, hscript, hdrains⟩, ?_⟩
  by_cases htimeout : s.state = .waitForConn ∧ event = .timeout
  · obtain ⟨hstate, hevent⟩ := htimeout
    rw [hstate, hevent] at hscript
    have hfirst := connectUsed_process script hscript hdrains
    rw [← List.take_append_drop 1 script, hfirst, List.singleton_append, plays_cons] at hplays
    obtain ⟨_, hfinds, -⟩ := hplays
    have hused : s.bWlanConnectUsed = true := (finds_iff hfinds).2
    simp [hused]
  · by_cases hstate : s.state = .waitForConn
    · have hevent : event ≠ .timeout := fun hevent => htimeout ⟨hstate, hevent⟩
      simp [hevent]
    · simp [hstate]

end Table

section Runs

/-- While a session is open, the deferred events are not replayed if one of them carries a
profile, nor if one may be deferred with a profile by the time of the replay. -/
def ReplaysInTime (env : WifiEnv) (inPlace : ℕ → Bool) (s : WifiState) : WifiAct → Prop
  | .handle notified posting => ∀ event, s.received = some event →
      replaysDeferred s event = true → SessionOpen env inPlace s →
        (∀ deferred ∈ s.deferredEventQ, deferred.pParams = none) ∧
          AllAllowed (defers env · = false) notified posting
  | _ => True

theorem profilesSeen_handling (event : SmEvent) (notified : List (List Call))
    (posting : List (List FreeCall)) :
    profilesSeen env inPlace (handling s event notified posting) =
      profilesSeen env inPlace s := by
  rw [profilesSeen_emit (.processing s.state event) rfl rfl]
  exact watch_of_others rfl _

/-- Processing an event loses no profile, unless it replays them while the session is
open. -/
theorem noneLost_process {event : SmEvent} {notified : List (List Call)}
    {posting : List (List FreeCall)} {script : List SmAct} {final : WifiState}
    (hreceived : s.received = some event)
    (hcondition : ReplaysInTime env inPlace s (.handle notified posting))
    (hscript : script ∈ processScripts s.state event)
    (hplays : Plays (Acts env) script (handling s event notified posting) final)
    (hnone : NoneLost env inPlace s) : NoneLost env inPlace final := by
  have hasks := asksPlainly_process s.state event script hscript
  have hstart : Safer env inPlace s (handling s event notified posting) :=
    safer_of_seen (profilesSeen_handling event notified posting)
  have hscheduled : Scheduled (fun _ => True) (handling s event notified posting) :=
    ⟨fun _ _ _ _ => trivial, fun _ _ _ _ => trivial⟩
  by_cases hdrains : script.any isDrain = true
  · by_cases hopen : SessionOpen env inPlace s
    · have hreplays :=
        replays_of_drains (s := handling s event notified posting) hscript hplays hdrains
      obtain ⟨hbare, hallowed⟩ := hcondition event hreceived hreplays hopen
      have hafter := kept_bare.plays hplays hasks (fun _ _ => replays_bare)
        (fun _ _ _ _ => bare_of_writes) ⟨⟨hstart.2 hnone, hbare⟩, hallowed⟩
      exact hafter.1.1
    · have hafter := kept_closed.plays hplays hasks (fun _ _ => replays_closed)
        (fun act hact _ _ hwrites => closed_of_safer (safer_of_writes hwrites (by
          intro hstarts
          subst hstarts
          exact drains_process s.state event script hscript hdrains hact)))
        ⟨closed_of_safer hstart ⟨hnone, hopen⟩, hscheduled⟩
      exact hafter.1.1
  · have hafter := kept_noneLost.plays hplays hasks
      (fun replayed hact => absurd (List.any_eq_true.mpr ⟨_, hact, rfl⟩) hdrains)
      (fun _ _ _ _ => noneLost_of_writes) ⟨hstart.2 hnone, hscheduled⟩
    exact hafter.1

theorem Started.noneLost (hstarted : Started env s) : NoneLost env inPlace s := by
  have hdeaf (output : Output) (houtput : ofInit env output = true) :
      ofProfiles env output = false := by
    cases output with
    | nwp call =>
        cases call with
        | provisioning => simpa [ofInit, ofProfiles] using houtput
        | profileAdd => cases houtput
        | _ => rfl
    | sleep => rfl
    | _ => cases houtput
  obtain ⟨boot, appCBSet, houtputs, hcontext⟩ := hstarted.context hdeaf
  rw [NoneLost, profilesSeen_of_context hcontext, profilesSeen, freshContext, houtputs]
  rfl

/-- In every run in which the profiles are replayed in time, the NWP has taken each of them
before it is freed. -/
theorem profilesAdded_of_replaysInTime (hstarted : Started env s) {acts : List WifiAct}
    (hsteps : StepsSatisfy (step env) (ReplaysInTime env inPlace) s acts) :
    StatesSatisfy (step env) (ProfilesAdded env inPlace) s acts := by
  apply Transition.states_of_steps _ (profilesAdded_iff.mpr (Started.noneLost hstarted)) hsteps
  intro s act next hadded hcondition hstep
  rw [profilesAdded_iff] at hadded ⊢
  cases stepCase_of_step hstep with
  | call hrun => exact (keeps_noneLost_call _).of_run hrun hadded
  | receive _ _ => exact hadded
  | @process event notified posting script final hreceived _ hscript hplays =>
      have hafter : NoneLost env inPlace final :=
        noneLost_process hreceived hcondition hscript hplays hadded
      exact hafter
  | @destroy notified posting final _ hrun =>
      injection hrun with _ hfinal
      subst hfinal
      have hnone : NoneLost env inPlace
          { s with outputs := s.outputs ++ [.nwp .unregisterHandlers] ++ [.nwp .stop] } := by
        rw [NoneLost, profilesSeen, List.foldl_append, List.foldl_append]
        change (watchBad _ _ (watchBad _ _ (profilesSeen env inPlace s) _) _).2 = true
        rw [watch_of_others rfl, watch_of_others rfl]
        exact hadded
      exact hnone

/-- The NWP refuses a profile exactly while its session is open. -/
def addsAnswered (env : WifiEnv) (inPlace : ℕ → Bool) (s : WifiState) : WifiAct → Bool
  | .call (.addProfile call) =>
      decide (call.added = env.provisioningInProgress) = decide (SessionOpen env inPlace s)
  | _ => true

/-- Of two profiles that are added during the provisioning, the event of the second leads
to a replay before the session has stopped, and both are lost. -/
theorem profilesAdded_broken :
    Started obedientNwp (started obedientNwp true false) ∧
      StepsSatisfy (step obedientNwp)
        (fun s act => addsAnswered obedientNwp (fun _ => false) s act = true)
        (started obedientNwp true false)
        (untilProvisioning ++ posted (.addProfile lateProfile) ++
          posted (.addProfile lateProfile)) ∧
      ¬StatesSatisfy (step obedientNwp) (ProfilesAdded obedientNwp fun _ => false)
        (started obedientNwp true false)
        (untilProvisioning ++ posted (.addProfile lateProfile) ++
          posted (.addProfile lateProfile)) := by
  refine ⟨⟨powerOn, true, false, rfl, rfl⟩, ?_, ?_⟩
  · exact Transition.stepsSatisfy_of_check (addsAnswered obedientNwp fun _ => false)
      (fun _ _ hanswered => hanswered) (by decide +kernel)
  apply Transition.not_statesSatisfy_of_any fun s =>
    !(profilesSeen obedientNwp (fun _ => false) s).2
  · intro s hfails hadded
    rw [profilesAdded_iff, NoneLost] at hadded
    rw [hadded] at hfails
    cases hfails
  · decide +kernel

/-- The condition, computed. -/
def replaysInTime (env : WifiEnv) (inPlace : ℕ → Bool) (s : WifiState) : WifiAct → Bool
  | .handle notified posting => s.received.all fun event =>
      !replaysDeferred s event || !decide (SessionOpen env inPlace s) ||
        s.deferredEventQ.all (·.pParams = none) && notified.isEmpty && posting.isEmpty
  | _ => true

theorem replaysInTime_sound (s : WifiState) (act : WifiAct)
    (hcheck : replaysInTime env inPlace s act = true) : ReplaysInTime env inPlace s act := by
  cases act with
  | handle notified posting =>
      intro event hreceived hreplays hopen
      simp only [replaysInTime, hreceived, Option.all_some, hreplays, hopen, decide_true,
        Bool.not_true, Bool.false_or, Bool.and_eq_true, List.isEmpty_iff] at hcheck
      obtain ⟨⟨hbare, hnotified⟩, hposting⟩ := hcheck
      subst hnotified hposting
      refine ⟨fun deferred hdeferred => ?_, fun _ hnil => (by cases hnil),
        fun _ hnil => by cases hnil⟩
      exact of_decide_eq_true (List.all_eq_true.mp hbare deferred hdeferred)
  | _ => trivial

/-- A profile is deferred, and replayed behind the stop of the session. -/
theorem profilesAdded_again :
    StatesSatisfy (step obedientNwp) (ProfilesAdded obedientNwp fun _ => false)
      (started obedientNwp true false)
      (untilProvisioning ++ posted (.addProfile lateProfile) ++
        posted (.free (.provisioningStatus (.stopped roleAp false))) ++
        [.receive, .handle [] []]) :=
  profilesAdded_of_replaysInTime ⟨powerOn, true, false, rfl, rfl⟩
    (Transition.stepsSatisfy_of_check (replaysInTime obedientNwp fun _ => false)
      replaysInTime_sound (by decide +kernel))

end Runs

end SimpleLinkHost.WifiProfiles
