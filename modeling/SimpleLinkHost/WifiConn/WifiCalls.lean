import SimpleLinkHost.WifiConn.WifiFrames
import SimpleLinkHost.WifiConn.WifiScripts

/-!
# The scripts of the calls

What the calls of other threads come to, as sequences of a few acts.  A call posts at
most one event, and the acts before that configure the module, set the timer, keep a
profile for later or reset the NWP.  The replay of the deferred events and the
notifications are made of the same acts.
-/

namespace SimpleLinkHost.WifiCalls

open CallOutcome ProgramInvariant ProgramScript WifiContext WifiApi WifiMachine WifiFrames
open WifiScripts

/-- The acts of the calls, and of the replay of deferred events. -/
inductive CallAct
  | posts (event : SmEvent)
  | expires
  | times
  | sets (settings : WifiConnSettings)
  | configures
  | measures
  | adds (profile : Profile)
  | defers (profile : Profile)
  | takes
  | frees (profile : Profile)
  | resets
  | setsRole (role : Byte)

/-- Everything but what the application configures. -/
def configView (s : WifiState) : WifiState :=
  { s with
    bDeleteAllProfiles := false
    connectionBSSID := []
    provisioningInstalled := false
    provMode := .off
    provCmd := 0
    provFlags := 0
    bStatsEnabled := false
    statsInterval := 0
    pNonPersistentProfile := none }

variable (env : WifiEnv)

inductive CallActs : CallAct → WifiState → WifiState → Prop
  | posts {event s} (hinitialized : s.initialized = true)
      (hroom : s.eventQ.length < eventQMax) :
      CallActs (.posts event) s
        { s with eventQ := s.eventQ ++ [event], outputs := s.outputs ++ [.posted event] }
  | expires {s} (harmed : s.timer ≠ 0) :
      CallActs .expires s { s with timer := 0, outputs := s.outputs ++ [.expired] }
  | times {duration s} (hconnected : s.state = .connected) :
      CallActs .times s { s with timer := duration, outputs := s.outputs ++ [.timer duration] }
  | sets {settings s} : CallActs (.sets settings) s { s with settings := settings }
  | configures {s after} (hview : configView after = configView s)
      (hstats : after.bStatsEnabled = true → s.bStatsEnabled = true) :
      CallActs .configures s after
  | measures {s after} (hview : configView after = configView s) : CallActs .measures s after
  | adds {profile ext s} :
      CallActs (.adds profile) s { s with outputs := s.outputs ++ [.nwp (.profileAdd profile ext)] }
  | defers {profile s} (hroom : s.deferredEventQ.length < deferredEventQMax) :
      CallActs (.defers profile) s
        { s with deferredEventQ := s.deferredEventQ ++ [⟨.addProfile, some profile⟩] }
  | takes {deferred rest s} (hqueue : s.deferredEventQ = deferred :: rest) :
      CallActs .takes s { s with deferredEventQ := rest }
  | frees {profile s} :
      CallActs (.frees profile) s { s with outputs := s.outputs ++ [.freed profile] }
  | resets {s retVal after} (hstate : s.state = .off)
      (hrun : (resetNWP env).run s = .ok retVal after) : CallActs .resets s after
  | setsRole {role s retVal after} (hstate : s.state = .off ∨ s.state = .extProvisioning)
      (hrun : (setRole env role).run s = .ok retVal after) :
      CallActs (.setsRole role) s { after with role := BitVec.ofInt 8 retVal }

/-- The acts that wait for room in a queue. -/
inductive CallStalls : CallAct → WifiState → Prop
  | posts {event s} (hinitialized : s.initialized = true)
      (hfull : ¬s.eventQ.length < eventQMax) : CallStalls (.posts event) s
  | defers {profile s} (hfull : ¬s.deferredEventQ.length < deferredEventQMax) :
      CallStalls (.defers profile) s

abbrev callActing : Acting Stuck WifiState CallAct where
  acts := CallActs env
  stops := CallStalls
  stopped := (· = .queueFull)

section Table

def postScripts : Option SmEvent → List (List CallAct)
  | none => [[]]
  | some event => perhaps (only (.posts event))

def unlockedScripts : FreeCall → List (List CallAct)
  | .enable => postScripts (some .enable)
  | .disable => postScripts (some .disable)
  | .externalProvsioningCompleted => postScripts (some .extProvCompleted)
  | .requestReset | .deviceResetRequest => postScripts (some .resetRequest)
  | .deinit => postScripts (some .destroy)
  | .setDeleteAllProfiles => perhaps (only .configures)
  | .setConfiguration settings => perhaps (only (.sets settings))
  | .wlanConnect _ => inOrder [only .configures, postScripts (some .connected)]
  | .wlanDisconnect => postScripts (some .disconnect)
  | .provisioningStatus status =>
      postScripts (provStatusEvent env env.provisioningFlagExternalConfirmation status)
  | .netApp event => postScripts (netAppEventOf event)
  | .timerExpires => perhaps (inOrder [only .expires, postScripts (some .timeout)])

def addScripts (call : AddProfile) : List (List CallAct) :=
  if call.nonPersistent then
    perhaps (inOrder [only .configures, postScripts (some .addProfile)])
  else
    inOrder [only (.adds call.profile),
      if defers env (.addProfile call) then
        inOrder [only (.defers call.profile), postScripts (some .addProfile)]
      else postScripts (some .addProfile)]

def callScripts : Call → List (List CallAct)
  | .free call => unlockedScripts env call
  | .enableProvisioning _ _ _ =>
      perhaps (inOrder [only .configures, postScripts (some .enableProvisioning)])
  | .addProfile call => perhaps (addScripts env call)
  | .setRole role => perhaps (only (.setsRole role))
  | .reset => perhaps (only .resets)
  | .enableStats _ => perhaps (inOrder [only .measures, perhaps (only .times)])
  | .disableStats => perhaps (inOrder [only .configures, perhaps (only .times)])

end Table

section Parts

theorem follows_configures {change : WifiState → WifiState}
    (hchange : ∀ s, configView (change s) = configView s)
    (hstats : ∀ s, (change s).bStatsEnabled = s.bStatsEnabled) :
    Follows (callActing env) (only .configures) (modify change : Sm PUnit) :=
  follows_only fun before => CallActs.configures (hchange before) fun hafter =>
    (hstats before).symm.trans hafter

theorem follows_signalEvent (event : SmEvent) :
    Follows (callActing env) (postScripts (some event)) (signalEvent event) := by
  intro before
  refine ⟨List.cons_ne_nil _ _, ?_⟩
  rw [signalEvent, ends_bind, ends_get, ends_ite]
  split
  · exact ⟨[], List.mem_cons_self, .nil⟩
  rename_i hinitialized
  rw [Bool.not_eq_true, Bool.not_eq_false'] at hinitialized
  have hmem : [.posts event] ∈ postScripts (some event) :=
    List.mem_cons_of_mem _ (List.mem_singleton_self _)
  rw [ends_ite]
  split
  · rename_i hroom
    exact ⟨_, hmem, .single (.posts hinitialized hroom)⟩
  · rename_i hfull
    exact fun _ => ⟨_, hmem, .here (.posts hinitialized hfull)⟩

theorem follows_ignoreRet {scripts : List (List CallAct)} {program : Sm ApiRet}
    (hprogram : Follows (callActing env) scripts program) :
    Follows (callActing env) scripts (ignoreRet program) := by
  have hnonempty : Nonempty ApiRet := ⟨.apiAborted⟩
  exact hprogram.returning fun _ => follows_pure

theorem follows_signalEventIfAny (event : Option SmEvent) :
    Follows (callActing env) (postScripts event) (signalEventIfAny event) := by
  cases event with
  | none => exact follows_pure
  | some event => exact follows_ignoreRet env (follows_signalEvent env event)

theorem follows_outside {α : Type} {scripts : List (List CallAct)} {program : Sm α}
    (hprogram : Follows (callActing env) scripts program) :
    Follows (callActing env) scripts (outside program) := by
  intro before
  refine ⟨(hprogram before).1, ends_outside.mpr ?_⟩
  apply (hprogram before).2.mono
  · exact fun _ _ hafter => hafter
  · intro stuck _ _ hstopped
    split at hstopped <;> contradiction

end Parts

section Calls

/-- Most events of the provisioning do not depend on the flags. -/
theorem follows_provStatusHandler (status : NwpProvStatus) :
    Follows (callActing env) (unlockedScripts env (.provisioningStatus status))
      (provStatusHandler env status) := by
  have hevent (provFlags : Byte) :
      provStatusEvent env provFlags status = none ∨ provStatusEvent env provFlags status =
        provStatusEvent env env.provisioningFlagExternalConfirmation status := by
    cases status with
    | confirmationIpAcquired =>
        simp only [provStatusEvent]
        split <;> simp
    | _ => exact .inr rfl
  have hnone : [] ∈ unlockedScripts env (.provisioningStatus status) := by
    rw [unlockedScripts]
    cases provStatusEvent env env.provisioningFlagExternalConfirmation status <;>
      simp [postScripts, perhaps]
  apply follows_get
  intro s
  have hsignal : Follows (callActing env) (unlockedScripts env (.provisioningStatus status))
      (signalEventIfAny (provStatusEvent env s.provFlags status)) := by
    cases hevent s.provFlags with
    | inl hno =>
        rw [hno]
        exact follows_pure.mono (List.cons_subset.mpr ⟨hnone, List.nil_subset _⟩)
    | inr hsome =>
        rw [hsome]
        exact follows_signalEventIfAny env _
  rw [runIf]
  split
  · exact hsignal
  · exact follows_pure.mono (List.cons_subset.mpr ⟨hnone, List.nil_subset _⟩)

theorem nil_mem_postScripts (event : Option SmEvent) : [] ∈ postScripts event := by
  cases event <;> exact List.mem_cons_self

theorem follows_asyncEvtTimerHandler :
    Follows (callActing env) (unlockedScripts env .timerExpires) asyncEvtTimerHandler := by
  intro before
  apply followsFrom_get
  rw [runIf]
  split
  · rename_i harmed
    have hexpires : FollowsFrom (callActing env) before
        (andThen (only .expires) (postScripts (some .timeout))) (do
          modify fun s => { s with timer := 0, outputs := s.outputs ++ [.expired] }
          signalEventIfAny (some .timeout)) :=
      FollowsFrom.modify (.expires harmed) (follows_signalEventIfAny env (some .timeout) _)
    apply FollowsFrom.mono hexpires
    simp [unlockedScripts, perhaps, inOrder, andThen, only]
  · exact follows_pure.mono (by simp [unlockedScripts, perhaps]) before

theorem follows_runUnlocked (call : FreeCall) :
    Follows (callActing env) (unlockedScripts env call) (runUnlocked env call) := by
  have hsignal (event : SmEvent) : Follows (callActing env) (postScripts (some event))
      (ignoreRet (signalEvent event)) :=
    follows_ignoreRet env (follows_signalEvent env event)
  have hnonempty : Nonempty ApiRet := ⟨.apiAborted⟩
  cases call with
  | enable =>
      apply follows_ignoreRet
      apply follows_get
      intro s
      have hnone : [] ∈ unlockedScripts env .enable := nil_mem_postScripts (some .enable)
      exact follows_guard hnone (follows_guard hnone (follows_signalEvent env _))
  | deinit =>
      apply follows_ignoreRet
      apply follows_get
      intro s
      have hnone : [] ∈ unlockedScripts env .deinit := nil_mem_postScripts (some .destroy)
      apply follows_guard hnone
      split
      · exact (follows_signalEvent env _).returning fun _ => follows_pure
      · exact follows_pure.mono (List.cons_subset.mpr ⟨hnone, List.nil_subset _⟩)
  | setDeleteAllProfiles =>
      apply follows_get
      exact fun _ => follows_runIf (follows_configures env (fun _ => rfl) fun _ => rfl)
  | setConfiguration settings =>
      apply follows_ignoreRet
      apply follows_guard List.mem_cons_self
      have hsets : Follows (callActing env) (only (.sets settings))
          (modify fun s => { s with settings := settings } : Sm PUnit) :=
        follows_only fun before => CallActs.sets
      exact (hsets.returning fun _ => follows_pure).mono (List.subset_cons_self _ _)
  | wlanConnect bssid =>
      exact Follows.next (follows_configures env (fun _ => rfl) fun _ => rfl)
        fun _ => (hsignal _).last
  | provisioningStatus status => exact follows_provStatusHandler env status
  | netApp event =>
      apply follows_get
      intro s
      rw [runIf]
      split
      · exact follows_signalEventIfAny env _
      · exact follows_pure.mono (List.cons_subset.mpr ⟨nil_mem_postScripts _, List.nil_subset _⟩)
  | timerExpires => exact follows_asyncEvtTimerHandler env
  | disable | externalProvsioningCompleted | requestReset | wlanDisconnect
  | deviceResetRequest => exact hsignal _

theorem follows_runFreeCall (call : FreeCall) :
    Follows (callActing env) (unlockedScripts env call) (runFreeCall env call) :=
  follows_outside env (follows_runUnlocked env call)

theorem follows_keepProfile {call : AddProfile} (hpersistent : ¬call.nonPersistent) :
    Follows (callActing env) (only (.defers call.profile)) (keepProfile env call) := by
  have hdefer : Follows (callActing env) (only (.defers call.profile))
      (deferredEventEnqueue .addProfile (some call.profile)) := by
    intro before
    apply followsFrom_get
    apply followsFrom_only
    rw [ends_ite]
    split
    · rename_i hroom
      exact CallActs.defers hroom
    · rename_i hfull
      exact fun _ => CallStalls.defers hfull
  refine Follows.skip (follows_check fun hfull => by cases hfull) fun _ => ?_
  rw [if_neg hpersistent]
  exact hdefer

theorem follows_adds (call : AddProfile) :
    Follows (callActing env) (only (.adds call.profile))
      (emit (.nwp (.profileAdd call.profile call.extParams))) :=
  follows_only fun _ => CallActs.adds

/-- A profile that is kept for the connection, or posted as soon as the NWP has it. -/
theorem follows_slWifiConnAddProfile (call : AddProfile) :
    Follows (callActing env) (callScripts env (.addProfile call))
      (slWifiConnAddProfile env call) := by
  have hnonempty : Nonempty ApiRet := ⟨.apiAborted⟩
  have hposts {ret : ApiRet} : Follows (callActing env) (postScripts (some .addProfile)) (do
      let _ ← signalEvent .addProfile
      return ret) :=
    (follows_signalEvent env _).returning fun _ => follows_pure
  apply follows_get
  intro s
  apply follows_guard List.mem_cons_self
  apply Follows.mono _ (List.subset_cons_self _ _)
  rw [addScripts]
  by_cases hpersistent : call.nonPersistent = true
  · rw [if_pos hpersistent]
    apply Follows.skip
    · rw [runIf, if_neg (not_not.mpr hpersistent)]
      exact follows_pure
    intro _
    rw [if_pos (Or.inl hpersistent)]
    apply follows_guard List.mem_cons_self
    have hkeep : Follows (callActing env) (only .configures) (keepProfile env call) := by
      refine Follows.skip (follows_check fun hfull => by cases hfull) fun _ => ?_
      rw [if_pos hpersistent]
      exact follows_configures env (fun _ => rfl) fun _ => rfl
    exact (hkeep.next fun _ => hposts.last).mono (List.subset_cons_self _ _)
  · rw [if_neg hpersistent, runIf, if_pos hpersistent]
    apply (follows_adds env call).next
    intro _
    apply Follows.last
    by_cases hdefers : defers env (.addProfile call) = true
    · have hboth : call.added = env.provisioningInProgress ∧ call.allocated = true := by
        simp only [defers, Bool.and_eq_true, decide_eq_true_eq] at hdefers
        exact ⟨hdefers.1.2, hdefers.2⟩
      rw [if_pos hdefers, if_pos (Or.inr hboth.1), if_neg (by simp [hboth.2])]
      exact (follows_keepProfile env hpersistent).next fun _ => hposts.last
    · rw [if_neg hdefers]
      have hnone {ret : ApiRet} :
          Follows (callActing env) (postScripts (some .addProfile)) (pure ret : Sm ApiRet) :=
        follows_pure.mono (List.cons_subset.mpr ⟨nil_mem_postScripts _, List.nil_subset _⟩)
      split
      · rename_i hkept
        split
        · exact hnone
        · rename_i hallocated
          simp_all [defers]
      · rw [runIf]
        split
        · exact (follows_signalEventIfAny env _).returning fun _ => follows_pure
        · exact hnone

theorem follows_slWifiConnSetRole (role : Byte) :
    Follows (callActing env) (callScripts env (.setRole role)) (slWifiConnSetRole env role) := by
  intro before
  apply followsFrom_get
  split
  · exact follows_pure.mono (by simp [callScripts, perhaps]) before
  split
  · rename_i hstate
    refine FollowsFrom.mono (followsFrom_only ?_) (List.subset_cons_self [] _)
    rw [ends_bind]
    have havoids : Avoids Stuck.queueFull (setRole env role) := avoids_setRole env (by decide) role
    apply (ends_run.and (havoids before)).mono
    · intro retVal after hafter
      exact CallActs.setsRole hstate hafter.1
    · exact fun stuck _ hstuck hfull => absurd hfull hstuck.2
  · exact follows_pure.mono (by simp [callScripts, perhaps]) before

theorem follows_slWifiConnReset :
    Follows (callActing env) (callScripts env .reset) (slWifiConnReset env) := by
  intro before
  apply followsFrom_get
  split
  · exact follows_pure.mono (by simp [callScripts, perhaps]) before
  split
  · rename_i hstate
    refine FollowsFrom.mono (followsFrom_only ?_) (List.subset_cons_self [] _)
    rw [ends_bind]
    have havoids : Avoids Stuck.queueFull (resetNWP env) := avoids_resetNWP env (by decide)
    apply (ends_run.and (havoids before)).mono
    · intro retVal after hafter
      exact CallActs.resets hstate hafter.1
    · exact fun stuck _ hstuck hfull => absurd hfull hstuck.2
  · exact follows_pure.mono (by simp [callScripts, perhaps]) before

/-- The calls for the statistics set the timer of a connection. -/
theorem follows_configureStats {act : CallAct} {change : WifiState → WifiState} {duration : ℕ}
    (s : WifiState) (hchange : configView (change s) = configView s)
    (hact : CallActs env act s (change s)) :
    FollowsFrom (callActing env) s (perhaps (inOrder [only act, perhaps (only .times)])) (do
      modify change
      runIf (s.state = .connected) (startAsyncEvtTimer duration)
      return ApiRet.value 0) := by
  have htimes : FollowsFrom (callActing env) (change s) (perhaps (only .times))
      (runIf (s.state = .connected) (startAsyncEvtTimer duration)) := by
    rw [runIf]
    split
    · rename_i hconnected
      have hstate : (change s).state = .connected :=
        (congrArg (·.state) hchange).trans hconnected
      refine FollowsFrom.mono (followsFrom_only ?_) (List.subset_cons_self [] _)
      exact CallActs.times hstate
    · exact follows_pure.mono (by simp [perhaps]) _
  have hreturns : FollowsFrom (callActing env) (change s) (andThen (perhaps (only .times)) [[]]) (do
      runIf (s.state = .connected) (startAsyncEvtTimer duration)
      return ApiRet.value 0) :=
    htimes.bind fun _ => follows_pure
  apply (FollowsFrom.modify hact hreturns).mono
  simp [perhaps, inOrder, andThen, only]

theorem follows_slWifiConnEnableStats (interval : BitVec 16) :
    Follows (callActing env) (callScripts env (.enableStats interval))
      (slWifiConnEnableStats interval) := by
  intro before
  apply followsFrom_get
  split
  · exact follows_pure.mono (by simp [callScripts, perhaps]) before
  split
  · exact follows_pure.mono (by simp [callScripts, perhaps]) before
  · exact follows_configureStats env before rfl (.measures rfl)

theorem follows_slWifiConnDisableStats :
    Follows (callActing env) (callScripts env .disableStats) slWifiConnDisableStats := by
  intro before
  apply followsFrom_get
  split
  · exact follows_pure.mono (by simp [callScripts, perhaps]) before
  · exact follows_configureStats env before rfl (.configures rfl fun hnone => by cases hnone)

/-- Every call follows its scripts. -/
theorem follows_runCall (call : Call) :
    Follows (callActing env) (callScripts env call) (runCall env call) := by
  have hnonempty : Nonempty ApiRet := ⟨.apiAborted⟩
  cases call with
  | free call => exact follows_runFreeCall env call
  | enableProvisioning mode command flags =>
      apply follows_ignoreRet
      apply follows_get
      intro s
      apply follows_guard List.mem_cons_self
      apply follows_guard List.mem_cons_self
      refine Follows.mono
        (Follows.next (follows_configures env (fun _ => rfl) fun _ => rfl) fun _ => ?_)
        (List.subset_cons_self _ _)
      exact ((follows_signalEvent env _).returning fun _ => follows_pure).last
  | addProfile call => exact follows_ignoreRet env (follows_slWifiConnAddProfile env call)
  | setRole role => exact follows_ignoreRet env (follows_slWifiConnSetRole env role)
  | reset => exact follows_ignoreRet env (follows_slWifiConnReset env)
  | enableStats interval =>
      apply (follows_runIf
        (follows_ignoreRet env (follows_slWifiConnEnableStats env interval))).mono
      simp [callScripts, perhaps]
  | disableStats =>
      apply (follows_runIf (follows_ignoreRet env (follows_slWifiConnDisableStats env))).mono
      simp [callScripts, perhaps]

end Calls

section Others

variable {env}
variable {inv : WifiState → Prop} {allowed : CallAct → Prop}

/-- Every act that the scripts of a call contain is allowed. -/
def OnlyActs (allowed : CallAct → Prop) (scripts : List (List CallAct)) : Prop :=
  ∀ script ∈ scripts, ∀ act ∈ script, allowed act

theorem onlyActs_nil : OnlyActs allowed [[]] := by
  intro script hscript act hact
  rw [List.mem_singleton.mp hscript] at hact
  cases hact

theorem onlyActs_only {act : CallAct} (hact : allowed act) : OnlyActs allowed (only act) := by
  intro script hscript other hother
  rw [List.mem_singleton.mp hscript, List.mem_singleton] at hother
  rwa [hother]

theorem onlyActs_perhaps {scripts : List (List CallAct)} (hscripts : OnlyActs allowed scripts) :
    OnlyActs allowed (perhaps scripts) := by
  intro script hscript act hact
  cases List.mem_cons.mp hscript with
  | inl hnone =>
      rw [hnone] at hact
      cases hact
  | inr hsome => exact hscripts script hsome act hact

theorem onlyActs_andThen {scripts others : List (List CallAct)}
    (hscripts : OnlyActs allowed scripts) (hothers : OnlyActs allowed others) :
    OnlyActs allowed (andThen scripts others) := by
  intro script hscript act hact
  obtain ⟨first, hfirst, hscript⟩ := List.mem_flatMap.mp hscript
  obtain ⟨second, hsecond, hscript⟩ := List.mem_map.mp hscript
  rw [← hscript, List.mem_append] at hact
  cases hact with
  | inl hact => exact hscripts first hfirst act hact
  | inr hact => exact hothers second hsecond act hact

theorem onlyActs_posts {event : Option SmEvent}
    (hposts : ∀ posted, event = some posted → allowed (.posts posted)) :
    OnlyActs allowed (postScripts event) := by
  cases event with
  | none => exact onlyActs_nil
  | some event => exact onlyActs_perhaps (onlyActs_only (hposts event rfl))

theorem onlyActs_post {event : SmEvent} (hpost : allowed (.posts event)) :
    OnlyActs allowed (postScripts (some event)) :=
  onlyActs_perhaps (onlyActs_only hpost)

theorem OnlyActs.mono {scripts : List (List CallAct)} {other : CallAct → Prop}
    (hscripts : OnlyActs allowed scripts) (hallowed : ∀ act, allowed act → other act) :
    OnlyActs other scripts :=
  fun script hscript act hact => hallowed act (hscripts script hscript act hact)

/-- What a call without the critical section may do. -/
def mayDoFree : FreeCall → CallAct → Prop
  | .timerExpires, .posts event => event = .timeout
  | .timerExpires, .expires => True
  | .setConfiguration settings, .sets other => other = settings
  | _, .posts event => event ≠ .timeout
  | _, .configures => True
  | _, _ => False

/-- What a call may do; only the timer posts a TIMEOUT event. -/
def mayDo (env : WifiEnv) : Call → CallAct → Prop
  | .free call, act => mayDoFree call act
  | _, .posts event => event ≠ .timeout
  | _, .configures => True
  | .enableStats _, .measures => True
  | .enableStats _, .times | .disableStats, .times => True
  | .addProfile call, .adds profile => profile = call.profile
  | .addProfile call, .defers profile => profile = call.profile ∧ defers env (.addProfile call)
  | .reset, .resets => True
  | .setRole role, .setsRole other => other = role
  | _, _ => False

theorem onlyActs_unlocked (call : FreeCall) :
    OnlyActs (mayDoFree call) (unlockedScripts env call) := by
  cases call with
  | setDeleteAllProfiles => exact onlyActs_perhaps (onlyActs_only trivial)
  | setConfiguration => exact onlyActs_perhaps (onlyActs_only rfl)
  | wlanConnect =>
      refine onlyActs_andThen (onlyActs_only trivial) (onlyActs_andThen ?_ onlyActs_nil)
      exact onlyActs_post fun htimeout => by cases htimeout
  | timerExpires =>
      refine onlyActs_perhaps (onlyActs_andThen (onlyActs_only trivial) ?_)
      exact onlyActs_andThen (onlyActs_post rfl) onlyActs_nil
  | provisioningStatus status =>
      refine onlyActs_posts fun event hevent htimeout => ?_
      subst htimeout
      cases status <;> simp [provStatusEvent] at hevent
      split at hevent <;> cases hevent
  | netApp event =>
      refine onlyActs_posts fun posted hposted htimeout => ?_
      subst htimeout
      cases event <;> simp [netAppEventOf] at hposted
  | _ =>
      refine onlyActs_post ?_
      simp [mayDoFree]

theorem onlyActs_call (call : Call) : OnlyActs (mayDo env call) (callScripts env call) := by
  cases call with
  | free call => exact onlyActs_unlocked call
  | enableProvisioning =>
      refine onlyActs_perhaps (onlyActs_andThen (onlyActs_only trivial) ?_)
      refine onlyActs_andThen ?_ onlyActs_nil
      exact onlyActs_post fun htimeout => by cases htimeout
  | addProfile call =>
      have hadded : OnlyActs (mayDo env (.addProfile call)) (postScripts (some .addProfile)) :=
        onlyActs_post fun htimeout => by cases htimeout
      apply onlyActs_perhaps
      rw [addScripts]
      split
      · apply onlyActs_perhaps
        exact onlyActs_andThen (onlyActs_only trivial) (onlyActs_andThen hadded onlyActs_nil)
      · refine onlyActs_andThen (onlyActs_only rfl) (onlyActs_andThen ?_ onlyActs_nil)
        split
        · rename_i hdefers
          exact onlyActs_andThen (onlyActs_only ⟨rfl, hdefers⟩)
            (onlyActs_andThen hadded onlyActs_nil)
        · exact hadded
  | setRole role => exact onlyActs_perhaps (onlyActs_only rfl)
  | reset => exact onlyActs_perhaps (onlyActs_only trivial)
  | enableStats | disableStats =>
      refine onlyActs_perhaps (onlyActs_andThen (onlyActs_only trivial) ?_)
      exact onlyActs_andThen (onlyActs_perhaps (onlyActs_only trivial)) onlyActs_nil

/-- No act of a call moves the state machine. -/
theorem state_of_act {act : CallAct} {s after : WifiState} (hact : CallActs env act s after) :
    after.state = s.state := by
  cases hact with
  | configures hview | measures hview => exact congrArg (·.state) hview
  | resets _ hrun => exact congrArg (·.state) ((leaves_resetNWP env deaf_to_reset).of_run hrun)
  | setsRole _ hrun => exact congrArg (·.state) ((leaves_setRole env deaf_to_reset _).of_run hrun)
  | _ => rfl

/-- What the acts of a call keep, the call keeps. -/
theorem keeps_of_follows {α : Type} {scripts : List (List CallAct)} {program : Sm α}
    (hacts : ∀ act s s', CallActs env act s s' → allowed act → inv s → inv s')
    (hprogram : Follows (callActing env) scripts program) (hscripts : OnlyActs allowed scripts) :
    Keeps inv program := by
  intro before hinv
  apply (hprogram before).ensures.mono
  intro _ after hafter
  obtain ⟨script, hscript, hplays⟩ := hafter
  apply hplays.keeps _ hinv
  exact fun act hact s s' hstep => hacts act s s' hstep (hscripts script hscript act hact)

/-- The calls that the other threads make without the critical section. -/
theorem keeps_runFreeCalls {calls : List FreeCall}
    (hcalls : ∀ call ∈ calls, Keeps inv (runFreeCall env call)) :
    Keeps inv (runFreeCalls env calls) := by
  induction calls with
  | nil => exact keeps_pure
  | cons call calls ih =>
      apply (hcalls call List.mem_cons_self).bind
      exact fun _ => ih fun other hother => hcalls other (List.mem_cons_of_mem call hother)

theorem keeps_runCalls {calls : List Call} (hcalls : ∀ call ∈ calls, Keeps inv (runCall env call)) :
    Keeps inv (runCalls env calls) := by
  induction calls with
  | nil => exact keeps_pure
  | cons call calls ih =>
      apply (hcalls call List.mem_cons_self).bind
      exact fun _ => ih fun other hother => hcalls other (List.mem_cons_of_mem call hother)

/-- What is kept by the calls that come with a notification, it keeps. -/
theorem keeps_letOthersCall
    (hnotified : ∀ s, inv s → ∀ calls ∈ s.notified, ∀ call ∈ calls, Keeps inv (runCall env call))
    (hnext : ∀ s calls rest, inv s → s.notified = calls :: rest → inv { s with notified := rest }) :
    Keeps inv (letOthersCall env) := by
  intro before hinv
  rw [Ensures, letOthersCall, ends_bind, ends_get]
  cases hcalls : before.notified with
  | nil => exact hinv
  | cons calls rest =>
      rw [ends_bind, ends_modify]
      apply keeps_runCalls
      · apply hnotified before hinv
        rw [hcalls]
        exact List.mem_cons_self
      · exact hnext before calls rest hinv hcalls

theorem keeps_letOthersPost
    (hposting : ∀ s, inv s → ∀ calls ∈ s.posting, ∀ call ∈ calls,
      Keeps inv (runFreeCall env call))
    (hnext : ∀ s calls rest, inv s → s.posting = calls :: rest → inv { s with posting := rest }) :
    Keeps inv (letOthersPost env) := by
  intro before hinv
  rw [Ensures, letOthersPost, ends_bind, ends_get]
  cases hcalls : before.posting with
  | nil => exact hinv
  | cons calls rest =>
      rw [ends_bind, ends_modify]
      apply keeps_runFreeCalls
      · apply hposting before hinv
        rw [hcalls]
        exact List.mem_cons_self
      · exact hnext before calls rest hinv hcalls

/-- The replay takes a deferred event, adds its profile, and posts it. -/
structure Replays (env : WifiEnv) (inv : WifiState → Prop) : Prop where
  adds : ∀ s deferred rest, s.deferredEventQ = deferred :: rest → inv s →
    Ensures (addDeferredProfile env deferred) { s with deferredEventQ := rest }
      fun _ after => inv after
  posts : ∀ event, Keeps inv (signalEvent event)

def replayAct : CallAct → Bool
  | .takes | .adds _ | .frees _ | .posts _ => true
  | _ => false

theorem replays_of_acts
    (hacts : ∀ act s s', CallActs env act s s' → replayAct act = true → inv s → inv s') :
    Replays env inv where
  adds s deferred rest hqueue hinv := by
    have htaken : inv { s with deferredEventQ := rest } :=
      hacts .takes s _ (.takes hqueue) rfl hinv
    have hadds : Keeps inv (addDeferredProfile env deferred) := by
      rw [addDeferredProfile]
      split
      · rename_i profile _ _
        have hadd : Keeps inv
            (nwpCall env (.profileAdd profile (profile.secType = env.secTypeWpaEnt))) :=
          fun s hinv => hacts (.adds profile) s _ .adds rfl hinv
        apply hadd.bind
        exact fun _ s hinv => hacts (.frees profile) s _ .frees rfl hinv
      · exact keeps_pure
    exact hadds _ htaken
  posts event := keeps_of_follows hacts (follows_signalEvent env event)
    (onlyActs_posts fun event _ => rfl)

/-- The replay keeps what its parts keep, where the deferred events are good. -/
theorem keeps_deferredEventProcess_of {good : SmEvent → Prop}
    (hadds : ∀ s deferred rest, s.deferredEventQ = deferred :: rest → inv s →
      Ensures (addDeferredProfile env deferred) { s with deferredEventQ := rest }
        fun _ after => inv after)
    (hgood : ∀ s, inv s → ∀ deferred ∈ s.deferredEventQ, good deferred.event)
    (hposts : ∀ event, good event → Keeps inv (signalEvent event))
    (hpost : Keeps inv (letOthersPost env)) : Keeps inv (deferredEventProcess env) := by
  have hevents (events : List DeferredEvent) (s : WifiState) (hqueue : s.deferredEventQ = events)
      (hinv : inv s) :
      Ensures (deferredEventsProcess env events) s fun _ after => inv after := by
    induction events generalizing s with
    | nil => exact hinv
    | cons deferred rest ih =>
        have hevent : good deferred.event := by
          apply hgood s hinv deferred
          rw [hqueue]
          exact List.mem_cons_self
        rw [Ensures, deferredEventsProcess, ends_bind, ends_modify]
        apply ((hadds s deferred rest hqueue hinv).and
          (leaves_deferred_of_quiet (leaves_addDeferredProfile env deferred)).ensures).bind
        intro _ added hadded
        apply ((hpost added hadded.1).and (leaves_deferred_letOthersPost env).ensures).bind
        intro _ waited hwaited
        apply ((hposts deferred.event hevent waited hwaited.1).and
          (leaves_deferred_of_quiet (leaves_signalEvent deferred.event)).ensures).bind
        intro _ posted hposted
        apply ensures_assertThat.bind
        intro _ checked hchecked
        rw [hchecked.2]
        have hrest : posted.deferredEventQ = rest :=
          calc posted.deferredEventQ = waited.deferredEventQ := hposted.2
            _ = added.deferredEventQ := hwaited.2
            _ = rest := hadded.2
        exact ih posted hrest hposted.1
  intro before hinv
  rw [Ensures, deferredEventProcess, ends_bind, ends_get]
  exact (hevents _ before rfl hinv).bind fun _ _ hafter => hafter

/-- The replay of the deferred events keeps what its parts keep. -/
theorem keeps_deferredEventProcess (hreplay : Replays env inv)
    (hpost : Keeps inv (letOthersPost env)) : Keeps inv (deferredEventProcess env) := by
  have hposts (event : SmEvent) (_ : True) : Keeps inv (signalEvent event) := hreplay.posts event
  exact keeps_deferredEventProcess_of hreplay.adds (fun _ _ _ _ => trivial) hposts hpost

end Others

end SimpleLinkHost.WifiCalls
