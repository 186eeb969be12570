import SimpleLinkHost.WifiConn.WifiActs
import SimpleLinkHost.WifiConn.WifiRuns

/-!
# The watchdog of the waiting states

In the states that wait for the NWP or for the application, a timeout leads on.  The
timer is armed with durations of the configuration, and with the idle interval, which
is doubled in 16 bits whenever `IDLE` is entered; a duration of zero disarms it.  The
machine is never left without a timeout as long as no interval is doubled to zero.
-/

namespace SimpleLinkHost.WifiWatchdog

open CallOutcome ProgramInvariant ProgramScript WifiContext WifiApi WifiMachine WifiFrames
open WifiScripts WifiCalls WifiActs WifiRuns
open Transition (StatesSatisfy StepsSatisfy)

variable {env : WifiEnv} {s after : WifiState}

section Property

/-- The states that a timeout leads out of. -/
def guards : SmState → Bool
  | .idle | .waitForConn | .waitForIp | .provisioning | .extProvisioning => true
  | .off | .connected | .provStopping => false

/-- The timer runs, or the event of an expiry waits to be handled. -/
def Alert (s : WifiState) : Prop := s.timer ≠ 0 ∨ .timeout ∈ s.received.toList ++ s.eventQ

/-- The machine is not parked in a state that a timeout leads out of. -/
def Guarded (s : WifiState) : Prop :=
  s.initialized = true → guards s.state = true → Alert s

/-- A configuration without zero durations. -/
structure SoundSettings (settings : WifiConnSettings) : Prop where
  connectTimeout_ne : settings.connectTimeout ≠ 0
  ipTimeout_ne : settings.ipTimeout ≠ 0
  reconnectTimeout_ne : settings.reconnectTimeout ≠ 0
  provisioningTimeout_ne : settings.provisioningTimeout ≠ 0
  idleMinInterval_ne : settings.idleMinInterval ≠ 0
  idleMaxInterval_ne : settings.idleMaxInterval ≠ 0
  idle_le : settings.idleMinInterval ≤ settings.idleMaxInterval

/-- Every configuration that `SlWifiConn_setConfiguration` accepts is such a one. -/
def configuresSoundly : Call → Prop
  | .free (.setConfiguration settings) =>
      30 ≤ settings.provisioningTimeout.toNat → SoundSettings settings
  | _ => True

/-- This holds of the calls of a step. -/
def AllSound : WifiAct → Prop
  | .call call => configuresSoundly call
  | .receive => True
  | .handle notified posting => AllAllowed configuresSoundly notified posting

end Property

section Settings

/-- The configuration is sound, and remains so in the running handler. -/
def Sound (s : WifiState) : Prop := SoundSettings s.settings ∧ Scheduled configuresSoundly s

theorem settings_of_act {act : CallAct} (hact : CallActs env act s after)
    (hsets : ∀ settings, act ≠ .sets settings) : after.settings = s.settings := by
  cases hact with
  | sets => exact absurd rfl (hsets _)
  | configures hview | measures hview => exact congrArg (·.settings) hview
  | resets _ hrun =>
      exact congrArg (·.settings) ((leaves_resetNWP env deaf_to_reset).of_run hrun)
  | setsRole _ hrun =>
      exact congrArg (·.settings) ((leaves_setRole env deaf_to_reset _).of_run hrun)
  | _ => rfl

theorem keeps_settings_call (call : Call) (hcall : configuresSoundly call) :
    Keeps (fun s => SoundSettings s.settings) (runCall env call) := by
  have hacts (hnone : ∀ settings, ¬mayDo env call (.sets settings)) :
      Keeps (fun s => SoundSettings s.settings) (runCall env call) := by
    apply keeps_of_follows _ (follows_runCall env call) (onlyActs_call call)
    intro act s s' hact hmay hsound
    have hsame : s'.settings = s.settings := by
      apply settings_of_act hact
      intro settings hsets
      subst hsets
      exact hnone settings hmay
    rwa [hsame]
  cases call with
  | free call =>
      cases call with
      | setConfiguration settings =>
          intro s hsound
          rw [Ensures, runCall, runFreeCall, ends_outside, runUnlocked, ignoreRet, ends_bind,
            slWifiConnSetConfiguration, ends_ite]
          split
          · exact hsound
          · exact hcall (by omega)
      | _ => exact hacts fun _ hmay => hmay
  | _ => exact hacts fun _ hmay => hmay

theorem kept_settings (env : WifiEnv) :
    Kept env deaf configuresSoundly fun s => SoundSettings s.settings where
  deaf _ _ := rfl
  view s after hview hsound := by
    have hsame : after.settings = s.settings := congrArg (·.settings) hview
    rwa [hsame]
  lists _ _ _ hsound := hsound
  call := keeps_settings_call

theorem replays_settings : Replays env fun s => SoundSettings s.settings :=
  replays_of_acts fun act s s' hact hreplay hsound => by
    have hsame : s'.settings = s.settings := by
      apply settings_of_act hact
      intro settings hsets
      subst hsets
      cases hreplay
    rwa [hsame]

/-- No act of the handlers changes the configuration, but a call that comes with one. -/
theorem sound_act {act : SmAct} (hact : Acts env act s after) (hsound : Sound s) :
    Sound after := by
  apply (kept_settings env).anyAct hact replays_settings _ hsound
  intro hwrites hsound
  cases hwrites with
  | @writes write =>
      have hbook : SoundSettings (bookView s).settings := hsound
      rw [← bookView_write write] at hbook
      exact hbook
  | _ => exact hsound

theorem keeps_sound {α : Type} {program : Sm α} {scripts : List (List SmAct)}
    (hfollows : Follows (acting env) scripts program) : Keeps Sound program :=
  hfollows.keeps fun _ _ _ => sound_act

end Settings

section Watched

/-- What the calls of other threads keep: in `CONNECTED` they set the timer for the
statistics. -/
def Watched (s : WifiState) : Prop := s.initialized = true → s.state ≠ .connected → Alert s

theorem guarded_of_watched (hwatched : Watched s) : Guarded s := by
  intro hinitialized hguards
  apply hwatched hinitialized
  intro hconnected
  rw [hconnected] at hguards
  cases hguards

theorem watched_of_guarded (hguarded : Guarded s) (hguards : guards s.state = true) : Watched s :=
  fun hinitialized _ => hguarded hinitialized hguards

theorem guarded_of_timer (htimer : s.timer ≠ 0) : Guarded s := fun _ _ => .inl htimer

theorem guarded_of_state (hstate : guards s.state = false) : Guarded s := by
  intro _ hguards
  rw [hstate] at hguards
  cases hguards

theorem watched_of_timer (htimer : s.timer ≠ 0) : Watched s := fun _ _ => .inl htimer

/-- What the property depends on. -/
def watchView (s : WifiState) := (s.initialized, s.state, s.timer, s.received, s.eventQ)

theorem watched_of_view (hview : watchView after = watchView s) (hwatched : Watched s) :
    Watched after := by
  have hinitialized : after.initialized = s.initialized := congrArg (·.1) hview
  have hstate : after.state = s.state := congrArg (·.2.1) hview
  have htimer : after.timer = s.timer := congrArg (·.2.2.1) hview
  have hqueue : (after.received, after.eventQ) = (s.received, s.eventQ) :=
    congrArg (·.2.2.2) hview
  obtain ⟨hreceived, heventQ⟩ := Prod.mk.inj hqueue
  rwa [Watched, Alert, hinitialized, hstate, htimer, hreceived, heventQ]

theorem watched_of_act {act : CallAct} (hact : CallActs env act s after)
    (hallowed : act ≠ .expires) (hwatched : Watched s) : Watched after := by
  cases hact with
  | @posts event s _ _ =>
      intro hinitialized hconnected
      apply (hwatched hinitialized hconnected).imp_right
      intro hwaits
      rw [← List.append_assoc]
      exact List.mem_append_left _ hwaits
  | expires => exact absurd rfl hallowed
  | times hconnected => exact fun _ hother => absurd hconnected hother
  | configures hview | measures hview =>
      have hsame : watchView (configView after) = watchView (configView s) :=
        congrArg watchView hview
      exact watched_of_view hsame hwatched
  | resets _ hrun =>
      have hview := (leaves_resetNWP env deaf_to_reset).of_run hrun
      have hsame : watchView (contextView deaf after) = watchView (contextView deaf s) :=
        congrArg watchView hview
      exact watched_of_view hsame hwatched
  | @setsRole role _ _ after _ hrun =>
      have hview := (leaves_setRole env deaf_to_reset role).of_run hrun
      have hsame : watchView (contextView deaf after) = watchView (contextView deaf s) :=
        congrArg watchView hview
      exact watched_of_view hsame hwatched
  | _ => exact hwatched

/-- The timer is not armed any more when it expires, and its event waits. -/
theorem keeps_watched_expires : Keeps Watched (runFreeCall env .timerExpires) := by
  intro s hwatched
  rw [Ensures, runFreeCall, ends_outside, runUnlocked, asyncEvtTimerHandler, ends_bind, ends_get,
    ends_runIf]
  split
  · rw [emit, ends_bind, ends_modify, ends_bind, ends_modify, signalEventIfAny, ends_bind,
      signalEvent, ends_bind, ends_get]
    by_cases hinitialized : s.initialized = true
    · simp only [hinitialized, Bool.not_true, Bool.false_eq_true, if_false, ends_ite]
      split
      · exact fun _ _ => .inr (by simp)
      · trivial
    · rw [Bool.not_eq_true] at hinitialized
      simp only [hinitialized, Bool.not_false, if_true]
      exact fun hother => by cases hother
  · exact hwatched

theorem keeps_watched_call (call : Call) : Keeps Watched (runCall env call) := by
  have hacts (hnone : ¬mayDo env call .expires) : Keeps Watched (runCall env call) := by
    apply keeps_of_follows _ (follows_runCall env call) (onlyActs_call call)
    intro act s s' hact hmay
    apply watched_of_act hact
    intro hexpires
    subst hexpires
    exact hnone hmay
  cases call with
  | free call =>
      cases call with
      | timerExpires => exact keeps_watched_expires
      | _ => exact hacts fun hmay => hmay
  | _ => exact hacts fun hmay => hmay

theorem kept_watched (env : WifiEnv) : Kept env deaf configuresSoundly Watched where
  deaf _ _ := rfl
  view s after hview hwatched := by
    have hsame : watchView (contextView deaf after) = watchView (contextView deaf s) :=
      congrArg watchView hview
    exact watched_of_view hsame hwatched
  lists _ _ _ hwatched := hwatched
  call call _ := keeps_watched_call call

end Watched

section Idle

theorem idle_of_callAct {act : CallAct} (hact : CallActs env act s after) :
    after.idleInterval = s.idleInterval := by
  cases hact with
  | configures hview | measures hview => exact congrArg (·.idleInterval) hview
  | resets _ hrun =>
      exact congrArg (·.idleInterval) ((leaves_resetNWP env deaf_to_reset).of_run hrun)
  | setsRole _ hrun =>
      exact congrArg (·.idleInterval) ((leaves_setRole env deaf_to_reset _).of_run hrun)
  | _ => rfl

theorem kept_idle (env : WifiEnv) (idle : BitVec 16) :
    Kept env deaf (fun _ => True) fun s => s.idleInterval = idle where
  deaf _ _ := rfl
  view s after hview hidle := by
    have hsame : after.idleInterval = s.idleInterval := congrArg (·.idleInterval) hview
    exact hsame.trans hidle
  lists _ _ _ hidle := hidle
  call call _ := by
    have hany : OnlyActs (fun _ => True) (callScripts env call) := fun _ _ _ _ => trivial
    apply keeps_of_follows _ (follows_runCall env call) hany
    exact fun act s s' hact _ hidle => (idle_of_callAct hact).trans hidle

/-- The acts that write the idle interval. -/
def writesIdle : SmAct → Bool
  | .writes .idleReset | .writes .idleDoubled => true
  | _ => false

theorem idle_of_act {act : SmAct} (hact : Acts env act s after)
    (hwrites : writesIdle act = false) : after.idleInterval = s.idleInterval := by
  have hreplay : Replays env fun other => other.idleInterval = s.idleInterval :=
    replays_of_acts fun _ _ _ hact _ hidle => (idle_of_callAct hact).trans hidle
  have hscheduled : Scheduled (fun _ => True) s :=
    ⟨fun _ _ _ _ => trivial, fun _ _ _ _ => trivial⟩
  apply ((kept_idle env s.idleInterval).anyAct hact hreplay _ ⟨rfl, hscheduled⟩).1
  intro hwrite _
  cases hwrite with
  | @writes write =>
      cases write with
      | idleReset | idleDoubled => cases hwrites
      | errorsForgotten | oneShotTaken | oneShotGiven =>
          rw [Write.apply]
          split <;> rfl
      | _ => rfl
  | _ => rfl

/-- The scripts write no idle interval. -/
def leavesIdle (scripts : List (List SmAct)) : Bool :=
  scripts.all fun script => script.all (!writesIdle ·)

theorem idle_of_plays {script : List SmAct} (hplays : Plays (Acts env) script s after)
    (hwrites : script.all (!writesIdle ·) = true) : after.idleInterval = s.idleInterval := by
  have hkeeps : ∀ act ∈ script, ∀ before next, Acts env act before next →
      before.idleInterval = s.idleInterval → next.idleInterval = s.idleInterval := by
    intro act hact _ _ hacts hidle
    have hnone := List.all_eq_true.mp hwrites act hact
    exact (idle_of_act hacts (by simpa using hnone)).trans hidle
  exact hplays.keeps hkeeps rfl

theorem idle_of_follows {α : Type} {program : Sm α} {scripts : List (List SmAct)}
    (hfollows : Follows (acting env) scripts program) (hleaves : leavesIdle scripts = true) :
    Ensures program s fun _ after => after.idleInterval = s.idleInterval := by
  apply (hfollows s).ensures.mono
  intro _ after hafter
  obtain ⟨script, hscript, hplays⟩ := hafter
  exact idle_of_plays hplays (List.all_eq_true.mp hleaves script hscript)

end Idle

section Transitions

/-- The end of most transitions. -/
theorem guarded_arms {timeout : BitVec 16} (htimeout : timeout ≠ 0) (state : SmState) :
    Ensures (do
      startAsyncEvtTimer timeout.toNat
      setState state) s fun _ after => after.timer ≠ 0 := by
  have htimer : timeout.toNat ≠ 0 := fun hzero => htimeout (BitVec.eq_of_toNat_eq hzero)
  exact htimer

theorem arms_enterWaitForConn {timeout : BitVec 16} (htimeout : timeout ≠ 0)
    (bWlanDisconnect : Bool) :
    Ensures (enterWaitForConn env timeout bWlanDisconnect) s fun _ after => after.timer ≠ 0 := by
  apply ensures_run.bind
  intro _ _ _
  apply ensures_run.bind
  exact fun _ _ _ => guarded_arms htimeout .waitForConn

/-- The idle interval is still what it was before the notification. -/
theorem arms_enterIdle (hidle : s.idleInterval ≠ 0) :
    Ensures (enterIdle env) s fun _ after => after.timer ≠ 0 := by
  apply (idle_of_follows (follows_suspendNWP env) (by decide)).bind
  intro _ suspended hsame
  have htimer : suspended.idleInterval.toNat ≠ 0 := by
    rw [hsame]
    exact fun hzero => hidle (BitVec.eq_of_toNat_eq hzero)
  exact htimer

/-- A program whose scripts end in the other states parks the machine nowhere. -/
theorem guarded_of_follows {α : Type} {program : Sm α} {scripts : List (List SmAct)}
    (hfollows : Follows (acting env) scripts program)
    (hends : ∀ script ∈ scripts, guards (script.foldl leadsTo s.state) = false) :
    Ensures program s fun _ after => Guarded after := by
  apply (hfollows s).ensures.mono
  intro _ after hafter
  obtain ⟨script, hscript, hplays⟩ := hafter
  apply guarded_of_state
  rw [plays_state hplays]
  exact hends script hscript

theorem state_of_follows {α : Type} {program : Sm α} {scripts : List (List SmAct)}
    (hfollows : Follows (acting env) scripts program)
    (hstays : ∀ script ∈ scripts, script.foldl leadsTo s.state = s.state) :
    Ensures program s fun _ after => after.state = s.state := by
  apply (hfollows s).ensures.mono
  intro _ after hafter
  obtain ⟨script, hscript, hplays⟩ := hafter
  rw [plays_state hplays]
  exact hstays script hscript

/-- A timeout of the configuration is read when the connection is awaited. -/
theorem guarded_waitForConn (hsound : Sound s) {timeout : WifiConnSettings → BitVec 16}
    (htimeout : ∀ settings, SoundSettings settings → timeout settings ≠ 0)
    (bWlanDisconnect : Bool) (retVal : ℤ) :
    Ensures (do
      let s ← get
      enterWaitForConn env (timeout s.settings) bWlanDisconnect
      return retVal) s fun _ after => Guarded after := by
  rw [Ensures, ends_bind, ends_get]
  apply (arms_enterWaitForConn (htimeout s.settings hsound.1) bWlanDisconnect).bind
  exact fun _ _ htimer => guarded_of_timer htimer

theorem guarded_waitForIp (hsound : Sound s) :
    Ensures (do
      let s ← get
      startAsyncEvtTimer s.settings.ipTimeout.toNat
      setState .waitForIp
      return (0 : ℤ)) s fun _ after => Guarded after := by
  have htimer : s.settings.ipTimeout.toNat ≠ 0 :=
    fun hzero => hsound.1.ipTimeout_ne (BitVec.eq_of_toNat_eq hzero)
  exact guarded_of_timer htimer

theorem guarded_enterWaitForIp (hsound : Sound s) :
    Ensures (enterWaitForIp env) s fun _ after => Guarded after := by
  apply (keeps_sound (follows_notifyNetIf env .macConnect) s hsound).bind
  intro _ notified hnotified
  rw [Ensures, ends_bind, ends_get]
  apply ensures_run.bind
  intro retVal asked _
  rw [Ensures, ends_ite]
  split
  · apply guarded_of_follows (follows_enterConnected env false)
    have hends (state : SmState) :
        ∀ script ∈ connectedScripts false, guards (script.foldl leadsTo state) = false := by
      cases state <;> decide
    exact hends asked.state
  · have htimer : notified.settings.ipTimeout.toNat ≠ 0 :=
      fun hzero => hnotified.1.ipTimeout_ne (BitVec.eq_of_toNat_eq hzero)
    exact guarded_of_timer htimer

/-- The timer for the provisioning is armed in either of its states. -/
theorem arms_enterProvisioning (hsound : Sound s) :
    Ensures (enterProvisioning env) s fun _ after => after.timer ≠ 0 := by
  rw [Ensures, enterProvisioning, ends_bind, ends_get]
  have hstarts : Ensures (startProvisioning env s.provCmd) s fun _ after => Sound after := by
    rw [startProvisioning]
    split
    · exact keeps_sound (follows_startExternalConfiguration env) s hsound
    · exact keeps_sound (follows_startNwpProvisioning env s.provCmd) s hsound
  apply hstarts.bind
  intro retVal started hstarted
  have htimer : started.settings.provisioningTimeout.toNat ≠ 0 :=
    fun hzero => hstarted.1.provisioningTimeout_ne (BitVec.eq_of_toNat_eq hzero)
  exact htimer

/-- The notification of the application leaves the watch. -/
theorem watched_notifyWifiApp (event : WifiConnEvent) (hsound : Sound s) (hwatched : Watched s) :
    Ensures (notifyWifiApp env event) s fun _ after => Watched after ∧ after.state = s.state := by
  have hkeeps := (kept_watched env).notifyWifiApp event s ⟨hwatched, hsound.2⟩
  have hstate : Ensures (notifyWifiApp env event) s fun _ after => after.state = s.state :=
    state_of_follows (follows_notifyWifiApp env event) (by simp [only, leadsTo])
  apply (hkeeps.and hstate).mono
  exact fun _ after hafter => ⟨hafter.1.1, hafter.2⟩

end Transitions

section Handlers

variable {event : SmEvent}

theorem guarded_smStateOff (hsound : Sound s) (hstate : s.state = .off) :
    Ensures (smStateOff env event) s fun _ after => Guarded after := by
  have hkept : Guarded s := guarded_of_state (hstate ▸ rfl)
  cases event with
  | enable =>
      have hdelete (bDeleteAllProfiles : Bool) : Keeps Sound (runIf bDeleteAllProfiles (do
          let retVal ← nwpCall env .profileDelAll
          assertThat (retVal = 0)
          modify fun s => { s with bDeleteAllProfiles := false })) := by
        apply keeps_runIf
        apply (keeps_sound (follows_nwpCall env rfl)).bind
        intro retVal
        have hassert : Keeps Sound (assertThat (retVal = 0)) := keeps_runIf keeps_throw
        apply hassert.bind
        exact fun _ => keeps_modify fun _ hsound => hsound
      have hreset : Keeps Sound (modify fun s =>
          { s with idleInterval := s.settings.idleMinInterval } : Sm PUnit) :=
        keeps_modify fun _ hsound => hsound
      apply (hreset s hsound).bind
      intro _ reset hreset
      apply (keeps_get reset hreset).bind
      intro read same hsame
      apply (hdelete read.bDeleteAllProfiles same hsame).bind
      intro _ deleted hdeleted
      apply (keeps_sound (follows_resumeNWP env) deleted hdeleted).bind
      intro _ resumed hresumed
      exact guarded_waitForConn hresumed (fun _ hsettings => hsettings.connectTimeout_ne) false 0
  | _ => exact hkept

theorem guarded_smStateIdle (hsound : Sound s) (hguarded : event ≠ .timeout → Guarded s) :
    Ensures (smStateIdle env event) s fun _ after => Guarded after := by
  cases event with
  | enableProvisioning | addProfile | timeout =>
      apply (keeps_sound (follows_resumeNWP env) s hsound).bind
      intro _ resumed hresumed
      exact guarded_waitForConn hresumed (fun _ hsettings => hsettings.connectTimeout_ne) false 0
  | connected =>
      apply (keeps_sound (follows_stopTimer env) s hsound).bind
      intro _ stopped hstopped
      exact guarded_waitForIp hstopped
  | _ => exact hguarded (by simp)

/-- What follows the timeout of a connection, in each case with a timeout of its own. -/
theorem guarded_connectTimeoutExpired (hsound : Sound s) (hidle : s.idleInterval ≠ 0) :
    Ensures (connectTimeoutExpired env) s fun _ after => Guarded after := by
  rw [Ensures, connectTimeoutExpired, ends_bind, ends_get, ends_ite]
  split
  · apply (arms_enterWaitForConn hsound.1.connectTimeout_ne true).bind
    exact fun _ _ htimer => guarded_of_timer htimer
  rw [ends_ite]
  split
  · apply (keeps_runIf keeps_throw s hsound).bind
    intro _ checked hchecked
    have hentered := (arms_enterProvisioning hchecked).and
      (keeps_sound (follows_enterProvisioning env) checked hchecked)
    apply hentered.bind
    intro retVal entered hentered
    rw [Ensures, ends_bind, ends_get]
    have hnotified : Ensures (runIf (retVal = 0)
        (notifyWifiApp env (.provisioningStarted entered.provCmd))) entered
        fun _ after => Guarded after := by
      rw [Ensures, ends_runIf]
      split
      · apply (watched_notifyWifiApp _ hentered.2 (watched_of_timer hentered.1)).mono
        exact fun _ _ hafter => guarded_of_watched hafter.1
      · exact guarded_of_timer hentered.1
    apply hnotified.bind
    exact fun _ _ hafter => hafter
  · apply (arms_enterIdle hidle).bind
    exact fun _ _ htimer => guarded_of_timer htimer

theorem guarded_smStateWaitForConn (hsound : Sound s) (hidle : s.idleInterval ≠ 0)
    (hguarded : event ≠ .timeout → Guarded s) :
    Ensures (smStateWaitForConn env event) s fun _ after => Guarded after := by
  cases event with
  | addProfile =>
      exact guarded_waitForConn hsound (fun _ hsettings => hsettings.connectTimeout_ne) false 0
  | connected => exact (guarded_enterWaitForIp hsound).bind fun _ _ hafter => hafter
  | ipAcquired =>
      apply guarded_of_follows (follows_smStateWaitForConn env .ipAcquired)
      cases s.state <;> decide
  | timeout => exact guarded_connectTimeoutExpired hsound hidle
  | _ => exact hguarded (by simp)

/-- A lost connection is awaited again. -/
theorem guarded_connectionLost (hsound : Sound s) (retVal : ℤ) :
    Ensures (do
      connectionLost env
      return retVal) s fun _ after => Guarded after := by
  rw [connectionLost, bind_assoc]
  apply (keeps_sound (follows_notifyNetIf env .disconnect) s hsound).bind
  intro _ notified hnotified
  rw [bind_assoc]
  exact guarded_waitForConn hnotified (fun _ hsettings => hsettings.reconnectTimeout_ne) false
    retVal

theorem guarded_smStateWaitForIp (hsound : Sound s) (hguarded : event ≠ .timeout → Guarded s) :
    Ensures (smStateWaitForIp env event) s fun _ after => Guarded after := by
  cases event with
  | ipAcquired =>
      apply guarded_of_follows (follows_smStateWaitForIp env .ipAcquired)
      cases s.state <;> decide
  | timeout =>
      apply (keeps_sound (follows_nwpCall env rfl) s hsound).bind
      exact fun _ asked hasked => guarded_connectionLost hasked 0
  | disconnect => exact guarded_connectionLost hsound 0
  | _ => exact hguarded (by simp)

theorem keeps_sound_reset : Keeps Sound (resetNWP env) :=
  (kept_settings env).leaves (leaves_resetNWP env deaf_to_reset)

theorem guarded_smStateConnected (hsound : Sound s) (hstate : s.state = .connected) :
    Ensures (smStateConnected env event) s fun _ after => Guarded after := by
  have hkept : Guarded s := guarded_of_state (hstate ▸ rfl)
  have hstop : Keeps Sound (runIf (env.wifiStats = true) stopAsyncEvtTimer) :=
    keeps_runIf (keeps_sound (follows_stopTimer env))
  cases event with
  | disconnect =>
      apply (hstop s hsound).bind
      exact fun _ stopped hstopped => guarded_connectionLost hstopped 0
  | ipLost =>
      apply (hstop s hsound).bind
      exact fun _ stopped hstopped => guarded_waitForIp hstopped
  | resetRequest =>
      apply (hstop s hsound).bind
      intro _ stopped hstopped
      apply (keeps_sound (follows_notifyNetIf env .disconnect) stopped hstopped).bind
      intro _ notified hnotified
      apply (keeps_sound_reset notified hnotified).bind
      intro retVal reset hreset
      apply (keeps_runIf keeps_throw reset hreset).bind
      intro _ checked hchecked
      exact guarded_waitForConn hchecked (fun _ hsettings => hsettings.reconnectTimeout_ne) false
        retVal
  | timeout =>
      apply guarded_of_follows (follows_smStateConnected env .timeout)
      rw [hstate]
      decide
  | _ => exact hkept

/-- The idle interval is armed behind a notification. -/
theorem guarded_enterIdle {α : Type} {program : Sm α} {scripts : List (List SmAct)}
    (hfollows : Follows (acting env) scripts program) (hleaves : leavesIdle scripts = true)
    (hidle : s.idleInterval ≠ 0) :
    Ensures (do
      let _ ← program
      enterIdle env
      return (0 : ℤ)) s fun _ after => Guarded after := by
  apply (idle_of_follows hfollows hleaves).bind
  intro _ middle hsame
  apply (arms_enterIdle (hsame ▸ hidle)).bind
  exact fun _ _ htimer => guarded_of_timer htimer

/-- The watch is kept where the state changes behind a notification only. -/
theorem guarded_notifyWifiApp (event : WifiConnEvent) (hsound : Sound s) (hwatched : Watched s)
    (hstate : s.state ≠ .connected) (state : SmState) :
    Ensures (do
      notifyWifiApp env event
      setState state
      return (0 : ℤ)) s fun _ after => Guarded after := by
  apply (watched_notifyWifiApp event hsound hwatched).bind
  intro _ notified hnotified
  have halert (hinitialized : notified.initialized = true) : Alert notified :=
    hnotified.1 hinitialized (hnotified.2 ▸ hstate)
  exact fun hinitialized _ => halert hinitialized

theorem guarded_smStateProvisioning (hsound : Sound s) (hstate : s.state = .provisioning)
    (hidle : s.idleInterval ≠ 0) (hguarded : event ≠ .timeout → Guarded s) :
    Ensures (smStateProvisioning env event) s fun _ after => Guarded after := by
  have hwatched (hevent : event ≠ .timeout) : Watched s :=
    watched_of_guarded (hguarded hevent) (hstate ▸ rfl)
  have hconnected : s.state ≠ .connected := by simp [hstate]
  cases event with
  | provStopped =>
      have hreported : Follows (acting env)
          (inOrder [only .disarms, only (.informs (.provisioningStopped .failed))]) (do
            stopAsyncEvtTimer
            notifyProvisioningStatus env .failed) :=
        (follows_stopTimer env).next fun _ => (follows_notifyWifiApp env _).last
      have hidles := guarded_enterIdle hreported (by decide) hidle
      rw [bind_assoc] at hidles
      exact hidles
  | provExtConfigReady | provCloudConfirmReady =>
      exact guarded_notifyWifiApp _ hsound (hwatched (by simp)) hconnected _
  | provSuccess | disable | addProfile | timeout | error =>
      apply guarded_of_follows (follows_smStateProvisioning env _)
      rw [hstate]
      decide
  | _ => exact hguarded (by simp)

theorem guarded_smStateExtProvisioning (hsound : Sound s) (hstate : s.state = .extProvisioning)
    (hguarded : event ≠ .timeout → Guarded s) :
    Ensures (smStateExtProvisioning env event) s fun _ after => Guarded after := by
  have hwatched (hevent : event ≠ .timeout) : Watched s :=
    watched_of_guarded (hguarded hevent) (hstate ▸ rfl)
  have hconnected : s.state ≠ .connected := by simp [hstate]
  cases event with
  | resetRequest =>
      apply (watched_notifyWifiApp _ hsound (hwatched (by simp))).bind
      intro _ notified hnotified
      have hreset : Ensures (resetNWP env) notified fun _ after =>
          watchView after = watchView notified := by
        apply (leaves_resetNWP env deaf_to_reset).ensures.mono
        intro _ after hview
        have hsame : watchView (contextView deaf after) = watchView (contextView deaf notified) :=
          congrArg watchView hview
        exact hsame
      apply hreset.bind
      intro retVal reset hview
      have hstate : reset.state ≠ .connected := by
        have hsame : reset.state = notified.state := congrArg (·.2.1) hview
        rwa [hsame, hnotified.2]
      have halert (hinitialized : reset.initialized = true) : Alert reset :=
        watched_of_view hview hnotified.1 hinitialized hstate
      apply ensures_assertThat.bind
      intro _ checked hchecked
      rw [hchecked.2]
      exact fun hinitialized _ => halert hinitialized
  | extProvCompleted | addProfile | timeout =>
      apply guarded_of_follows (follows_smStateExtProvisioning env _)
      rw [hstate]
      decide
  | _ => exact hguarded (by simp)

theorem guarded_smStateProvStopping (hsound : Sound s) (hstate : s.state = .provStopping)
    (hidle : s.idleInterval ≠ 0) :
    Ensures (smStateProvStopping env event) s fun _ after => Guarded after := by
  have hkept : Guarded s := guarded_of_state (hstate ▸ rfl)
  cases event with
  | connected =>
      apply guarded_of_follows (follows_smStateProvStopping env .connected)
      rw [hstate]
      decide
  | provStopped =>
      rw [smStateProvStopping, provStoppedReported, bind_assoc]
      have hnotify := follows_notifyWifiApp env (.provisioningStopped .stopped)
      apply ((keeps_sound hnotify s hsound).and
        (state_of_follows hnotify (by simp [only, leadsTo]))).bind
      intro _ notified hnotified
      rw [bind_assoc]
      apply ((keeps_sound (follows_drains env) notified hnotified.1).and
        (state_of_follows (follows_drains env) (by simp [drainScripts, only, leadsTo]))).bind
      intro replayed drained hafter
      have hstays : guards drained.state = false := by
        rw [hafter.2, hnotified.2, hstate]
        rfl
      rw [bind_assoc, Ensures, ends_bind, ends_get]
      cases replayed with
      | true => exact guarded_of_state hstays
      | false =>
          apply (arms_enterWaitForConn hafter.1.1.connectTimeout_ne false).bind
          exact fun _ _ htimer => guarded_of_timer htimer
  | extProvCompleted =>
      apply ((kept_settings env).leaves (leaves_setRole env deaf_to_reset roleSta) s hsound).bind
      intro _ changed hchanged
      exact guarded_waitForConn hchanged (fun _ hsettings => hsettings.connectTimeout_ne) false 0
  | addProfile =>
      exact guarded_waitForConn hsound (fun _ hsettings => hsettings.connectTimeout_ne) false 0
  | error =>
      apply (arms_enterProvisioning hsound).bind
      exact fun _ _ htimer => guarded_of_timer htimer
  | timeout =>
      apply (arms_enterIdle hidle).bind
      exact fun _ _ htimer => guarded_of_timer htimer
  | _ => exact hkept

end Handlers

section Steps

variable {event : SmEvent} {notified : List (List Call)} {posting : List (List FreeCall)}

/-- Every handler leaves the machine guarded: it enters another state, or arms the timer,
or leaves the timer and the queue as they are. -/
theorem guarded_smHandler (hsound : Sound s) (hidle : s.state ≠ .off → s.idleInterval ≠ 0)
    (hguarded : event ≠ .timeout → Guarded s) :
    Ensures (smHandler env s.state event) s fun _ after => Guarded after := by
  have hready (hstate : s.state ≠ .off) : s.idleInterval ≠ 0 := hidle hstate
  cases hstate : s.state with
  | off => exact guarded_smStateOff hsound hstate
  | idle => exact guarded_smStateIdle hsound hguarded
  | waitForConn => exact guarded_smStateWaitForConn hsound (hready (by simp [hstate])) hguarded
  | waitForIp => exact guarded_smStateWaitForIp hsound hguarded
  | connected => exact guarded_smStateConnected hsound hstate
  | provisioning =>
      exact guarded_smStateProvisioning hsound hstate (hready (by simp [hstate])) hguarded
  | provStopping => exact guarded_smStateProvStopping hsound hstate (hready (by simp [hstate]))
  | extProvisioning => exact guarded_smStateExtProvisioning hsound hstate hguarded

theorem guarded_disableAnywhere :
    Ensures (disableAnywhere env) s fun _ after => Guarded after := by
  apply guarded_of_follows (follows_disableAnywhere env)
  have hends (state : SmState) :
      ∀ script ∈ disableScripts, guards (script.foldl leadsTo state) = false := by
    cases state <;> decide
  exact hends s.state

theorem alert_handling (hreceived : s.received = some event) (hevent : event ≠ .timeout)
    (hguarded : Guarded s) : Guarded (handling s event notified posting) := by
  intro hinitialized hguards
  apply (hguarded hinitialized hguards).imp_right
  intro hwaits
  rw [hreceived, Option.toList_some, List.singleton_append, List.mem_cons] at hwaits
  exact hwaits.resolve_left hevent.symm

theorem guarded_handleEvent (hreceived : s.received = some event) (hguarded : Guarded s)
    (hsettings : SoundSettings s.settings)
    (hallowed : AllAllowed configuresSoundly notified posting)
    (hidle : s.state ≠ .off → s.idleInterval ≠ 0) :
    Ensures (handleEvent env event)
      { s with received := none, notified := notified, posting := posting }
      fun _ after => Guarded after := by
  rw [handleEvent]
  split
  · have hdeinit : Ensures (deinit env)
        { s with received := none, notified := notified, posting := posting }
        fun _ after => after.initialized = false := rfl
    apply hdeinit.bind
    exact fun _ final hfinal hinitialized => by cases hfinal.symm.trans hinitialized
  · have hprocess : Ensures (processEvent env event)
        { s with received := none, notified := notified, posting := posting }
        fun _ after => Guarded after := by
      rw [Ensures, processEvent, ends_bind, ends_get, emit, ends_bind, ends_modify]
      apply ensures_assertThat.bind
      intro _ checked hchecked
      rw [hchecked.2]
      have hstart : Sound (handling s event notified posting) := ⟨hsettings, hallowed⟩
      apply (guarded_smHandler hstart hidle fun hevent =>
        alert_handling hreceived hevent hguarded).bind
      intro retVal handled hhandled
      rw [Ensures, ends_runIf]
      split
      · exact guarded_disableAnywhere
      · exact hhandled
    apply hprocess.bind
    exact fun _ final hfinal => hfinal

end Steps

section Runs

variable {event : SmEvent} {script : List SmAct}

/-- The events that lead to `IDLE`. -/
def entersIdle (s : WifiState) : SmEvent → Bool
  | .timeout => s.state = .provStopping ||
      s.state = .waitForConn && !s.bWlanConnectUsed && s.provMode = .off
  | .provStopped => s.state = .provisioning
  | _ => false

/-- An idle interval of 2^15 seconds is not doubled. -/
def DoublesInRange (s : WifiState) : WifiAct → Prop
  | .handle _ _ => ∀ event, s.received = some event → entersIdle s event = true →
      s.idleInterval ≠ 0x8000
  | _ => True

/-- The idle interval is doubled at the end of a script, behind tests that let the machine
be idle. -/
theorem doubles_process (state : SmState) (event : SmEvent) :
    ∀ script ∈ processScripts state event, .writes .idleDoubled ∈ script →
      (script = script.dropLast.dropLast ++ [.writes .idleDoubled, .enters .idle] ∧
          script.dropLast.dropLast.all (!writesIdle ·) = true) ∧
        (state = .provStopping ∧ event = .timeout ∨ state = .provisioning ∧ event = .provStopped ∨
          (state = .waitForConn ∧ event = .timeout) ∧
            script.take 2 = [.finds .connectUsed false, .finds .provisions false]) := by
  cases state <;> cases event <;> decide +kernel

theorem entersIdle_of_doubles (hscript : script ∈ processScripts s.state event)
    (hplays : Plays (Acts env) script s after) (hdoubles : .writes .idleDoubled ∈ script) :
    entersIdle s event = true := by
  obtain ⟨-, hevent⟩ := doubles_process s.state event script hscript hdoubles
  rcases hevent with ⟨hstate, hevent⟩ | ⟨hstate, hevent⟩ | ⟨⟨hstate, hevent⟩, hfirst⟩
  · simp [entersIdle, hstate, hevent]
  · simp [entersIdle, hstate, hevent]
  · rw [← List.take_append_drop 2 script, hfirst, List.cons_append, plays_cons] at hplays
    obtain ⟨tested, hused, hplays⟩ := hplays
    obtain ⟨hsame, hused⟩ := finds_iff hused
    rw [hsame, List.cons_append, plays_cons] at hplays
    obtain ⟨_, hprovisions, -⟩ := hplays
    have hprovisions := (finds_iff hprovisions).2
    simp only [Test.passes, ne_eq, decide_not, Bool.not_eq_false', decide_eq_true_eq]
      at hused hprovisions
    simp [entersIdle, hstate, hevent, hused, hprovisions]

/-- A doubled interval is zero only if it is zero, or 2^15. -/
theorem idle_doubled {idle idleMax : BitVec 16} (hidle : idle ≠ 0) (hrange : idle ≠ 0x8000)
    (hmax : idleMax ≠ 0) :
    (if idleMax.toNat < (idle * 2).toNat then idleMax else idle * 2) ≠ 0 := by
  split
  · exact hmax
  · bv_omega

/-- Out of `OFF` the machine comes with the shortest interval. -/
theorem reset_process (event : SmEvent) :
    ∀ script ∈ processScripts .off event, script = [] ∨
      script.take 1 = [.writes .idleReset] ∧ .writes .idleDoubled ∉ script := by
  cases event <;> decide +kernel

theorem idle_keeps {act : SmAct} (hact : Acts env act s after)
    (hdoubles : act ≠ .writes .idleDoubled) (hboth : Sound s ∧ s.idleInterval ≠ 0) :
    Sound after ∧ after.idleInterval ≠ 0 := by
  refine ⟨sound_act hact hboth.1, ?_⟩
  by_cases hwrites : writesIdle act = true
  · cases act with
    | writes write =>
        cases write with
        | idleReset =>
            cases hact
            exact hboth.1.1.idleMinInterval_ne
        | idleDoubled => exact absurd rfl hdoubles
        | _ => cases hwrites
    | _ => cases hwrites
  · rw [Bool.not_eq_true] at hwrites
    rw [idle_of_act hact hwrites]
    exact hboth.2

/-- The idle interval is not zero but in `OFF`. -/
theorem idle_process {final : WifiState} (hscript : script ∈ processScripts s.state event)
    (hplays : Plays (Acts env) script s final) (hsound : Sound s)
    (hidle : s.state ≠ .off → s.idleInterval ≠ 0)
    (hrange : entersIdle s event = true → s.idleInterval ≠ 0x8000)
    (hfinal : final.state ≠ .off) : final.idleInterval ≠ 0 := by
  by_cases hdoubles : .writes .idleDoubled ∈ script
  · obtain ⟨⟨hsplit, hleaves⟩, hevent⟩ := doubles_process s.state event script hscript hdoubles
    have hoff : s.state ≠ .off := by
      intro hoff
      simp [hoff] at hevent
    have hapart := hrange (entersIdle_of_doubles hscript hplays hdoubles)
    rw [hsplit, plays_append] at hplays
    obtain ⟨middle, hfirst, hplays⟩ := hplays
    rw [plays_cons] at hplays
    obtain ⟨doubled, hwrites, hplays⟩ := hplays
    have hmiddle : Sound middle := hfirst.keeps (fun _ _ _ _ => sound_act) hsound
    have hsame : middle.idleInterval = s.idleInterval := idle_of_plays hfirst hleaves
    have hdoubled : doubled.idleInterval ≠ 0 := by
      cases hwrites
      exact idle_doubled (hsame ▸ hidle hoff) (hsame ▸ hapart) hmiddle.1.idleMaxInterval_ne
    rwa [idle_of_plays hplays (by decide)]
  · have hkeeps : ∀ act ∈ script, ∀ before next, Acts env act before next →
        Sound before ∧ before.idleInterval ≠ 0 → Sound next ∧ next.idleInterval ≠ 0 := by
      intro act hact before next hacts
      apply idle_keeps hacts
      intro hdoubled
      exact hdoubles (hdoubled ▸ hact)
    by_cases hoff : s.state = .off
    · rw [hoff] at hscript
      cases reset_process event script hscript with
      | inl hnone =>
          subst hnone
          cases hplays
          exact absurd hoff hfinal
      | inr hreset =>
          rw [← List.take_append_drop 1 script, hreset.1, List.singleton_append, plays_cons]
            at hplays
          obtain ⟨reset, hwrites, hplays⟩ := hplays
          have hsoundly : Sound reset := sound_act hwrites hsound
          have hready : reset.idleInterval ≠ 0 := by
            cases hwrites
            exact hsound.1.idleMinInterval_ne
          exact (hplays.keeps (fun act hact => hkeeps act (List.mem_of_mem_drop hact))
            ⟨hsoundly, hready⟩).2
    · exact (hplays.keeps hkeeps ⟨hsound, hidle hoff⟩).2

/-- What holds between the steps. -/
structure Ready (s : WifiState) : Prop where
  guarded : Guarded s
  settings : SoundSettings s.settings
  idle : s.state ≠ .off → s.idleInterval ≠ 0

theorem ready_call {call : Call} (hcall : configuresSoundly call) (hready : Ready s)
    (hrun : (runCall env call).run s = .ok () after) : Ready after where
  guarded := by
    have hstate : after.state = s.state :=
      congrArg (·.2.1) ((leaves_runCall env call).of_run hrun)
    by_cases hguards : guards s.state = true
    · have hwatched : Watched s := watched_of_guarded hready.guarded hguards
      exact guarded_of_watched ((keeps_watched_call call).of_run hrun hwatched)
    · rw [Bool.not_eq_true] at hguards
      exact guarded_of_state (hstate ▸ hguards)
  settings := (keeps_settings_call call hcall).of_run hrun hready.settings
  idle hoff := by
    have hstate : after.state = s.state :=
      congrArg (·.2.1) ((leaves_runCall env call).of_run hrun)
    have hsame : after.idleInterval = s.idleInterval :=
      ((kept_idle env s.idleInterval).call call trivial).of_run hrun rfl
    rw [hsame]
    exact hready.idle (hstate ▸ hoff)

theorem ready_step {act : WifiAct} (hallowed : AllSound act) (hrange : DoublesInRange s act)
    (hready : Ready s) (hstep : step env s act = some after) : Ready after := by
  cases stepCase_of_step hstep with
  | call hrun => exact ready_call hallowed hready hrun
  | @receive event rest hreceived heventQ =>
      refine ⟨fun hinitialized hguards => ?_, hready.settings, hready.idle⟩
      apply (hready.guarded hinitialized hguards).imp_right
      intro hwaits
      rw [hreceived, heventQ] at hwaits
      exact hwaits
  | @process event notified posting script final hreceived _ hscript hplays =>
      have hguarded : Guarded (handled final) := by
        simp only [step, hreceived] at hstep
        exact (guarded_handleEvent hreceived hready.guarded hready.settings hallowed
          hready.idle).of_run (completed_eq_some.mp hstep)
      have hsound : Sound (handling s event notified posting) := ⟨hready.settings, hallowed⟩
      have hfinal : Sound final := hplays.keeps (fun _ _ _ _ => sound_act) hsound
      have hidle : final.state ≠ .off → final.idleInterval ≠ 0 :=
        idle_process (s := handling s event notified posting) hscript hplays hsound hready.idle
          (hrange event hreceived)
      exact ⟨hguarded, hfinal.1, hidle⟩
  | @destroy notified posting final _ hrun =>
      injection hrun with _ hfinal
      subst hfinal
      exact ⟨fun hinitialized => (by cases hinitialized), hready.settings, hready.idle⟩

/-- In a run under configurations without zero durations, in which no idle interval of
2^15 seconds is doubled, the machine is guarded in every state that is reached. -/
theorem guarded_of_doublesInRange (hstarted : Started env s) (hsettings : SoundSettings s.settings)
    {acts : List WifiAct} (hconfigures : ∀ act ∈ acts, AllSound act)
    (hsteps : StepsSatisfy (step env) DoublesInRange s acts) :
    StatesSatisfy (step env) Guarded s acts := by
  have hoff : s.state = .off := hstarted.off
  have hinit : Ready s :=
    ⟨guarded_of_state (hoff ▸ rfl), hsettings, fun hother => absurd hoff hother⟩
  have hboth : StepsSatisfy (step env) (fun s act => AllSound act ∧ DoublesInRange s act) s
      acts := by
    intro before act hprefix reached next hreached hnext
    have hmem : act ∈ acts :=
      List.IsPrefix.subset hprefix (List.mem_append_right before (List.mem_singleton_self act))
    exact ⟨hconfigures act hmem, hsteps before act hprefix reached next hreached hnext⟩
  have hready : StatesSatisfy (step env) Ready s acts := by
    apply Transition.states_of_steps _ hinit hboth
    exact fun s act next hready hcondition hstep =>
      ready_step hcondition.1 hcondition.2 hready hstep
  exact fun before hprefix reached hreached => (hready before hprefix reached hreached).guarded

/-- The connection times out three times: the machine is idle, tries again, and is idle
again. -/
def idlesTwice : List WifiAct :=
  posted (.free .enable) ++ posted (.free .timerExpires) ++ posted (.free .timerExpires) ++
    posted (.free .timerExpires)

theorem forall_idlesTwice {good : WifiAct → Prop} (henable : good (.call (.free .enable)))
    (hexpires : good (.call (.free .timerExpires))) (hreceive : good .receive)
    (hhandle : good (.handle [] [])) : ∀ act ∈ idlesTwice, good act := by
  simp [idlesTwice, posted, henable, hexpires, hreceive, hhandle]

theorem allAllowed_nil {allowed : Call → Prop} : AllAllowed allowed [] [] :=
  ⟨fun _ hnone => (by cases hnone), fun _ hnone => by cases hnone⟩

theorem allSound_idlesTwice : ∀ act ∈ idlesTwice, AllSound act :=
  forall_idlesTwice trivial trivial trivial allAllowed_nil

/-- The idle intervals are 2^15 seconds from the start. -/
def longIdle : WifiConnSettings :=
  { defaultSettings with idleMinInterval := 0x8000, idleMaxInterval := 0x8000 }

/-- An idle interval of 2^15 seconds is doubled to zero, and the next time the machine is
idle without a timeout. -/
theorem guarded_broken :
    Started obedientNwp (started obedientNwp true false) ∧
      SoundSettings (started obedientNwp true false).settings ∧
      (∀ act ∈ .call (.free (.setConfiguration longIdle)) :: idlesTwice, AllSound act) ∧
      ¬StatesSatisfy (step obedientNwp) Guarded (started obedientNwp true false)
        (.call (.free (.setConfiguration longIdle)) :: idlesTwice) := by
  have hlong : SoundSettings longIdle := by constructor <;> decide
  refine ⟨⟨powerOn, true, false, rfl, rfl⟩, by constructor <;> decide, ?_, ?_⟩
  · intro act hact
    cases List.mem_cons.mp hact with
    | inl hcall =>
        subst hcall
        exact fun _ => hlong
    | inr hidles => exact allSound_idlesTwice act hidles
  · apply Transition.not_statesSatisfy_of_any fun s =>
      s.initialized && guards s.state && s.timer = 0 && s.received.isNone && s.eventQ.isEmpty
    · intro s hfails hguarded
      simp only [Bool.and_eq_true, decide_eq_true_eq, Option.isNone_iff_eq_none,
        List.isEmpty_iff] at hfails
      obtain ⟨⟨⟨⟨hinitialized, hguards⟩, htimer⟩, hreceived⟩, heventQ⟩ := hfails
      have halert := hguarded hinitialized hguards
      rw [Alert, htimer, hreceived, heventQ] at halert
      simp at halert
    · decide +kernel

/-- The condition, computed. -/
def doublesInRange (s : WifiState) : WifiAct → Bool
  | .handle _ _ => s.received.all fun event => !entersIdle s event || s.idleInterval ≠ 0x8000
  | _ => true

theorem doublesInRange_sound (s : WifiState) (act : WifiAct)
    (hcheck : doublesInRange s act = true) : DoublesInRange s act := by
  cases act with
  | handle notified posting =>
      intro event hreceived henters
      simpa [doublesInRange, hreceived, henters] using hcheck
  | _ => trivial

/-- Under the default configuration the machine is idle for twenty seconds, and then for
forty. -/
theorem guarded_again :
    StatesSatisfy (step obedientNwp) Guarded (started obedientNwp true false) idlesTwice :=
  guarded_of_doublesInRange ⟨powerOn, true, false, rfl, rfl⟩ (by constructor <;> decide)
    allSound_idlesTwice
    (Transition.stepsSatisfy_of_check doublesInRange doublesInRange_sound (by decide +kernel))

end Runs

end SimpleLinkHost.WifiWatchdog
