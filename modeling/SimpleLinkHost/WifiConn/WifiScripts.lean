import SimpleLinkHost.Core.ProgramScript
import SimpleLinkHost.WifiConn.WifiMachine

/-!
# The scripts of the state machine

What the handler of each state does with each event, as the few sequences of acts
that it may come to: the transition table of the connection manager.  An act stands
for a piece of the code, with all that other threads do during it.
-/

namespace SimpleLinkHost.WifiScripts

open CallOutcome ProgramInvariant ProgramScript WifiContext WifiApi WifiMachine

/-- The bookkeeping of the handlers. -/
inductive Write
  | idleReset
  | idleDoubled
  | profilesDeleted
  | connectUsed (used : Bool)
  | errorsForgotten
  | oneShotTaken
  | oneShotGiven
deriving DecidableEq

/-- The tests that decide between transitions. -/
inductive Test
  | connectUsed
  | provisions
  | external
  | linkUp
deriving DecidableEq

/-- The acts of the handlers. -/
inductive SmAct
  | tells (event : NetIfEvent)
  | informs (event : WifiConnEvent)
  | informsStarted
  | informsStats
  | enters (state : SmState)
  | defers (event : SmEvent)
  | drains (replayed : Bool)
  | arms
  | disarms
  | asks (call : NwpCall)
  | connects
  | setsAp
  | startsProvisioning
  | stopsProvisioning
  | resets
  | resetsRole
  | setsRole
  | suspends
  | resumes
  | sleeps
  | writes (write : Write)
  | finds (test : Test) (holds : Bool)
deriving DecidableEq

def Write.apply : Write → WifiState → WifiState
  | .idleReset, s => { s with idleInterval := s.settings.idleMinInterval }
  | .idleDoubled, s =>
      { s with
        idleInterval :=
          if s.settings.idleMaxInterval.toNat < (s.idleInterval * 2).toNat then
            s.settings.idleMaxInterval
          else s.idleInterval * 2 }
  | .profilesDeleted, s => { s with bDeleteAllProfiles := false }
  | .connectUsed used, s => { s with bWlanConnectUsed := used }
  | .errorsForgotten, s =>
      if 0 < s.fatalErrorCount.toNat then { s with fatalErrorCount := 0, recoveryDelayLevel := 0 }
      else s
  | .oneShotTaken, s => if s.provMode = .oneShot then { s with provMode := .off } else s
  | .oneShotGiven, s => if s.provMode = .off then { s with provMode := .oneShot } else s

/-- What does not look at the bookkeeping of the handlers is the same behind it. -/
theorem Write.frame {View : Type} (view : WifiState → View)
    (hview : ∀ s provMode bDeleteAllProfiles idleInterval bWlanConnectUsed fatalErrorCount
      recoveryDelayLevel,
      view
        { s with
          provMode := provMode
          bDeleteAllProfiles := bDeleteAllProfiles
          idleInterval := idleInterval
          bWlanConnectUsed := bWlanConnectUsed
          fatalErrorCount := fatalErrorCount
          recoveryDelayLevel := recoveryDelayLevel } = view s)
    (write : Write) (s : WifiState) : view (write.apply s) = view s := by
  cases write with
  | errorsForgotten | oneShotTaken | oneShotGiven =>
      rw [Write.apply]
      split
      · exact hview s _ _ _ _ _ _
      · rfl
  | _ => exact hview s _ _ _ _ _ _

def Test.passes (config : WifiConfig) : Test → WifiState → Bool
  | .connectUsed, s => s.bWlanConnectUsed
  | .provisions, s => s.provMode ≠ .off
  | .external, s => s.provCmd = config.provisioningCmdExternalConfiguration
  | .linkUp, s => s.state = .waitForIp ∨ s.state = .connected

def isProvisioning : NwpCall → Bool
  | .provisioning _ _ _ _ _ => true
  | _ => false

variable (env : WifiEnv)

/-- The acts, as runs of the code that they stand for. -/
inductive Acts : SmAct → WifiState → WifiState → Prop
  | tells {event s after} (hrun : (notifyNetIf env event).run s = .ok () after) :
      Acts (.tells event) s after
  | informs {event s after} (hrun : (notifyWifiApp env event).run s = .ok () after) :
      Acts (.informs event) s after
  | informsStarted {cmd s after}
      (hrun : (notifyWifiApp env (.provisioningStarted cmd)).run s = .ok () after) :
      Acts .informsStarted s after
  | informsStats {bssid mgMnt dataCtrl s after}
      (hrun : (notifyWifiApp env (.statsResult bssid mgMnt dataCtrl)).run s = .ok () after) :
      Acts .informsStats s after
  | enters {state s after} (hrun : (setState state).run s = .ok () after) :
      Acts (.enters state) s after
  | defers {event s after} (hrun : (deferredEventEnqueue event none).run s = .ok () after) :
      Acts (.defers event) s after
  | drains {replayed s after} (hrun : (deferredEventProcess env).run s = .ok replayed after) :
      Acts (.drains replayed) s after
  | arms {duration s after} (hrun : (startAsyncEvtTimer duration).run s = .ok () after) :
      Acts .arms s after
  | disarms {s after} (hrun : stopAsyncEvtTimer.run s = .ok () after) : Acts .disarms s after
  | asks {call retVal s after} (hplain : isProvisioning call = false)
      (hrun : (nwpCall env call).run s = .ok retVal after) :
      Acts (.asks call) s after
  | connects {profile ext retVal s after}
      (hrun : (nwpCall env (.wlanConnect profile ext)).run s = .ok retVal after) :
      Acts .connects s after
  | setsApSsid {ssid retVal s after}
      (hrun : (nwpCall env (.setApSsid ssid)).run s = .ok retVal after) : Acts .setsAp s after
  | setsApSecType {secType retVal s after}
      (hrun : (nwpCall env (.setApSecType secType)).run s = .ok retVal after) :
      Acts .setsAp s after
  | setsApPassword {password retVal s after}
      (hrun : (nwpCall env (.setApPassword password)).run s = .ok retVal after) :
      Acts .setsAp s after
  | startsProvisioning {cmd timeout key flags retVal s after}
      (hcmd : cmd ≠ env.provisioningCmdStop)
      (hrun : (nwpCall env (.provisioning cmd roleSta timeout key flags)).run s =
        .ok retVal after) :
      Acts .startsProvisioning s after
  | stopsProvisioning {role timeout key flags retVal s after}
      (hrun : (nwpCall env
        (.provisioning env.provisioningCmdStop role timeout key flags)).run s = .ok retVal after) :
      Acts .stopsProvisioning s after
  | resets {retVal s after} (hrun : (resetNWP env).run s = .ok retVal after) :
      Acts .resets s after
  | resetsRole {role s after} (hrun : (resetNWPRole env).run s = .ok role after) :
      Acts .resetsRole s after
  | setsRole {retVal s after} (hrun : (setRole env roleSta).run s = .ok retVal after) :
      Acts .setsRole s after
  | suspends {retVal s after} (hrun : (suspendNWPPolicy env).run s = .ok retVal after) :
      Acts .suspends s after
  | resumes {retVal s after} (hrun : (resumeNWPPolicy env).run s = .ok retVal after) :
      Acts .resumes s after
  | sleeps {seconds s after} (hrun : (emit (.sleep seconds)).run s = .ok () after) :
      Acts .sleeps s after
  | writes {write s} : Acts (.writes write) s (write.apply s)
  | finds {test s} : Acts (.finds test (test.passes env.toWifiConfig s)) s s

/-- The acts that can find a queue full: they post, defer or replay events, or leave the
critical section to those who do. -/
inductive Stalls : SmAct → WifiState → Prop
  | tells {event s after} (hrun : (notifyNetIf env event).run s = .error .queueFull after) :
      Stalls (.tells event) s
  | informs {event s after} (hrun : (notifyWifiApp env event).run s = .error .queueFull after) :
      Stalls (.informs event) s
  | informsStarted {cmd s after}
      (hrun : (notifyWifiApp env (.provisioningStarted cmd)).run s = .error .queueFull after) :
      Stalls .informsStarted s
  | informsStats {bssid mgMnt dataCtrl s after}
      (hrun : (notifyWifiApp env (.statsResult bssid mgMnt dataCtrl)).run s =
        .error .queueFull after) :
      Stalls .informsStats s
  | defers {event s after}
      (hrun : (deferredEventEnqueue event none).run s = .error .queueFull after) :
      Stalls (.defers event) s
  | drains {replayed s after} (hrun : (deferredEventProcess env).run s = .error .queueFull after) :
      Stalls (.drains replayed) s

/-- The acts of the state machine, which stop at a full queue. -/
abbrev acting : Acting Stuck WifiState SmAct where
  acts := Acts env
  stops := Stalls env
  stopped := (· = .queueFull)

section Table

def suspendScripts : List (List SmAct) :=
  inOrder [only .suspends, perhaps (only (.informs .poweredDown))]

def resumeScripts : List (List SmAct) :=
  inOrder [only .resumes, perhaps (only (.informs .poweredUp))]

def profileScripts : Bool → List (List SmAct)
  | true => [[.asks .wlanDisconnect, .writes (.connectUsed false)]]
  | false => [[], [.connects, .writes (.connectUsed true)]]

def drainScripts : List (List SmAct) := only (.drains true) ++ only (.drains false)

def waitForConnScripts (bWlanDisconnect : Bool) : List (List SmAct) :=
  inOrder [drainScripts, profileScripts bWlanDisconnect, only .arms,
    only (.enters .waitForConn)]

def idleScripts : List (List SmAct) :=
  inOrder [suspendScripts, only .arms, only (.writes .idleDoubled), only (.enters .idle)]

def ipAquiredScripts : Bool → List (List SmAct)
  | true => only (.tells .ipAquired)
  | false => [[]]

def connectedScripts (bNotify : Bool) : List (List SmAct) :=
  inOrder [only .disarms, only (.writes .errorsForgotten), ipAquiredScripts bNotify,
    only (.writes .idleReset), perhaps (only .arms), only (.enters .connected)]

def waitForIpScripts : List (List SmAct) :=
  inOrder [only (.tells .macConnect), only (.asks .netCfgGet),
    connectedScripts false ++ inOrder [only .arms, only (.enters .waitForIp)]]

def apScripts : List (List SmAct) :=
  inOrder [perhaps (only .setsAp), only .setsAp, perhaps (only .setsAp),
    perhaps (only .resetsRole)]

def externalConfigurationScripts : List (List SmAct) :=
  inOrder [only (.informs .externalProvisioningStartReq), only (.enters .extProvisioning)]

/-- The command is the configured one, which may even be the command to stop. -/
def commandScripts : List (List SmAct) := only .startsProvisioning ++ only .stopsProvisioning

def nwpProvisioningScripts : List (List SmAct) :=
  inOrder [apScripts, commandScripts, only (.enters .provisioning),
    only (.writes .oneShotTaken)]

def provisioningScripts : List (List SmAct) :=
  inOrder [andThen (only (.finds .external true)) externalConfigurationScripts ++
    andThen (only (.finds .external false)) nwpProvisioningScripts, only .arms]

def deferScripts : Option SmEvent → List (List SmAct)
  | none => [[]]
  | some event => only (.defers event)

def provStoppingScripts (eventId : Option SmEvent) : List (List SmAct) :=
  inOrder [only .disarms, deferScripts eventId, only .stopsProvisioning,
    only (.enters .provStopping)]

def connectTimeoutScripts : List (List SmAct) :=
  andThen (only (.finds .connectUsed true)) (waitForConnScripts true) ++
    andThen (only (.finds .connectUsed false))
      (andThen (only (.finds .provisions true))
          (inOrder [provisioningScripts, perhaps (only .informsStarted)]) ++
        andThen (only (.finds .provisions false)) idleScripts)

def lostScripts : List (List SmAct) :=
  inOrder [only (.tells .disconnect), waitForConnScripts false]

def statsResumeScripts : List (List SmAct) :=
  inOrder [only (.informs .statsResume), perhaps (only .arms)]

def notifyStatsScripts : List (List SmAct) :=
  inOrder [only .sleeps, only (.asks .statGet), only (.asks .statStop),
    only (.informs .statsResume), perhaps (only .informsStats), perhaps (only .arms)]

def statsScripts : List (List SmAct) :=
  perhaps (only .arms) ++
    inOrder [only (.informs .statsPause), only .sleeps,
      statsResumeScripts ++
        inOrder [only (.asks .statStart), statsResumeScripts ++ notifyStatsScripts]]

def disableScripts : List (List SmAct) :=
  inOrder [suspendScripts,
    andThen (only (.finds .linkUp true))
        (inOrder [only (.asks .wlanDisconnect), only (.tells .disconnect)]) ++
      only (.finds .linkUp false),
    only (.enters .off)]

def offScripts : SmEvent → List (List SmAct)
  | .enable =>
      inOrder [only (.writes .idleReset),
        perhaps (inOrder [only (.asks .profileDelAll), only (.writes .profilesDeleted)]),
        resumeScripts, waitForConnScripts false]
  | _ => [[]]

def idleStateScripts : SmEvent → List (List SmAct)
  | .enableProvisioning | .addProfile | .timeout =>
      inOrder [resumeScripts, waitForConnScripts false]
  | .connected => inOrder [only .disarms, only .arms, only (.enters .waitForIp)]
  | _ => [[]]

def waitForConnStateScripts : SmEvent → List (List SmAct)
  | .addProfile => waitForConnScripts false
  | .connected => waitForIpScripts
  | .ipAcquired => connectedScripts true
  | .timeout => connectTimeoutScripts
  | _ => [[]]

def waitForIpStateScripts : SmEvent → List (List SmAct)
  | .ipAcquired => connectedScripts true
  | .timeout => inOrder [only (.asks .wlanDisconnect), lostScripts]
  | .disconnect => lostScripts
  | _ => [[]]

def connectedStateScripts : SmEvent → List (List SmAct)
  | .disconnect => inOrder [perhaps (only .disarms), lostScripts]
  | .ipLost => inOrder [perhaps (only .disarms), only .arms, only (.enters .waitForIp)]
  | .resetRequest =>
      inOrder [perhaps (only .disarms), only (.tells .disconnect), only .resets,
        waitForConnScripts false]
  | .timeout => perhaps statsScripts
  | _ => [[]]

def provisioningStateScripts : SmEvent → List (List SmAct)
  | .provSuccess => inOrder [only .disarms, only (.enters .provStopping)]
  | .disable => provStoppingScripts (some .disable)
  | .addProfile => provStoppingScripts none
  | .timeout => provStoppingScripts (some .timeout)
  | .error => inOrder [only (.writes .oneShotGiven), provStoppingScripts (some .error)]
  | .provStopped =>
      inOrder [only .disarms, only (.informs (.provisioningStopped .failed)), idleScripts]
  | .provExtConfigReady =>
      inOrder [only (.informs .externalProvisioningStartReq), only (.enters .extProvisioning)]
  | .provCloudConfirmReady =>
      inOrder [only (.informs .cloudConfirmationStartReq), only (.enters .extProvisioning)]
  | _ => [[]]

def extProvisioningStateScripts : SmEvent → List (List SmAct)
  | .extProvCompleted | .addProfile => provStoppingScripts (some .extProvCompleted)
  | .timeout =>
      inOrder [only (.informs .cloudConfirmationStopReq) ++
          only (.informs .externalProvisioningStopReq),
        only (.informs (.provisioningStopped .failed)), provStoppingScripts (some .timeout)]
  | .resetRequest =>
      inOrder [only (.informs .externalProvisioningStopReq), only .resets,
        only (.enters .provisioning)]
  | _ => [[]]

def provStoppingStateScripts : SmEvent → List (List SmAct)
  | .connected =>
      inOrder [only (.informs (.provisioningStopped .succeed)), only (.tells .macConnect),
        connectedScripts true]
  | .provStopped =>
      inOrder [only (.informs (.provisioningStopped .stopped)),
        andThen (only (.drains true)) [[]] ++
          andThen (only (.drains false)) (waitForConnScripts false)]
  | .extProvCompleted => inOrder [only .setsRole, waitForConnScripts false]
  | .addProfile => waitForConnScripts false
  | .error => provisioningScripts
  | .timeout => idleScripts
  | _ => [[]]

/-- The transition table. -/
def handlerScripts : SmState → SmEvent → List (List SmAct)
  | .off => offScripts
  | .idle => idleStateScripts
  | .waitForConn => waitForConnStateScripts
  | .waitForIp => waitForIpStateScripts
  | .connected => connectedStateScripts
  | .provisioning => provisioningStateScripts
  | .provStopping => provStoppingStateScripts
  | .extProvisioning => extProvisioningStateScripts

/-- The handler of the state takes a DISABLE event. -/
def takesDisable (state : SmState) : Bool := state = .off ∨ state = .provisioning

/-- The table with the DISABLE events that are taken anywhere. -/
def processScripts (state : SmState) (event : SmEvent) : List (List SmAct) :=
  if event = .disable ∧ ¬takesDisable state then disableScripts else handlerScripts state event

end Table

section Avoids

variable {bad : Stuck}

theorem avoids_emit {output : Output} : Avoids bad (emit output) := avoids_modify

theorem avoids_assertThat (hbad : .assertFailed ≠ bad) {cond : Prop} [Decidable cond] :
    Avoids bad (assertThat cond) :=
  avoids_runIf (avoids_throw hbad)

theorem avoids_startAsyncEvtTimer (duration : ℕ) :
    Avoids bad (startAsyncEvtTimer duration) :=
  avoids_emit.bind fun _ => avoids_modify

theorem avoids_setState (state : SmState) : Avoids bad (setState state) :=
  avoids_emit.bind fun _ => avoids_modify

theorem avoids_nwpCall (call : NwpCall) : Avoids bad (nwpCall env call) :=
  avoids_get.bind fun _ => avoids_emit.bind fun _ => avoids_pure

theorem avoids_suspendNWPPolicy : Avoids bad (suspendNWPPolicy env) :=
  avoids_get.bind fun _ => avoids_nwpCall env _

theorem avoids_resumeNWPPolicy : Avoids bad (resumeNWPPolicy env) :=
  avoids_get.bind fun _ => avoids_nwpCall env _

theorem avoids_stopNWP (hbad : .assertFailed ≠ bad) : Avoids bad (stopNWP env) := by
  apply avoids_modify.bind
  intro _
  apply avoids_get.bind
  intro _
  apply (avoids_nwpCall env _).bind
  exact fun _ => (avoids_assertThat hbad).bind fun _ => avoids_emit

theorem avoids_slStart : Avoids bad (slStart env) := by
  apply avoids_get.bind
  intro _
  apply avoids_emit.bind
  intro _
  split
  · exact avoids_pure
  · exact avoids_modify.bind fun _ => avoids_pure

theorem avoids_settleNWP : Avoids bad (settleNWP env) := by
  have hpolicy : Avoids bad (initNWPConnPolicy env) :=
    avoids_get.bind fun _ => (avoids_nwpCall env _).bind fun _ =>
      (avoids_runIf avoids_modify).bind fun _ => avoids_pure
  have hrestore : Avoids bad (restoreNWPPolicy env) :=
    avoids_get.bind fun _ => avoids_ite (avoids_suspendNWPPolicy env) (avoids_resumeNWPPolicy env)
  apply avoids_emit.bind
  intro _
  apply hpolicy.bind
  intro _
  apply (avoids_nwpCall env _).bind
  exact fun _ => hrestore.bind fun _ => avoids_pure

theorem avoids_resetNWP (hbad : .assertFailed ≠ bad) : Avoids bad (resetNWP env) := by
  apply (avoids_stopNWP env hbad).bind
  intro _
  apply (avoids_slStart env).bind
  intro _
  apply (avoids_assertThat hbad).bind
  intro _
  apply avoids_modify.bind
  exact fun _ => (avoids_settleNWP env).bind fun _ => avoids_pure

theorem avoids_resetNWPRole (hbad : .assertFailed ≠ bad) : Avoids bad (resetNWPRole env) :=
  (avoids_resetNWP env hbad).bind fun _ => avoids_modify.bind fun _ => avoids_pure

theorem avoids_setRole (hbad : .assertFailed ≠ bad) (role : Byte) :
    Avoids bad (setRole env role) := by
  apply avoids_get.bind
  intro _
  have hswitch : Avoids bad (do
      slWlanSetMode role
      let stored ← resetNWPRole env
      assertThat (role = stored)) :=
    (avoids_emit.bind fun _ => avoids_modify).bind fun _ =>
      (avoids_resetNWPRole env hbad).bind fun _ => avoids_assertThat hbad
  exact (avoids_runIf hswitch).bind fun _ => avoids_pure

end Avoids

section Parts

/-- A piece of code that posts no event follows its act. -/
theorem follows_act {α : Type} {act : SmAct} {program : Sm α}
    (havoids : Avoids Stuck.queueFull program)
    (hact : ∀ {value s after}, program.run s = .ok value after → Acts env act s after) :
    Follows (acting env) (only act) program := by
  apply follows_only
  intro before
  apply ends_run.mono
  · exact fun _ after hrun => hact hrun
  · intro stuck after hrun hfull
    subst hfull
    exact absurd hrun havoids.run_ne

/-- A piece of code that posts events stops where its act does. -/
theorem follows_sends {α : Type} {act : SmAct} {program : Sm α}
    (hact : ∀ {value s after}, program.run s = .ok value after → Acts env act s after)
    (hstalls : ∀ {s after}, program.run s = .error .queueFull after → Stalls env act s) :
    Follows (acting env) (only act) program := by
  apply follows_only
  intro before
  apply ends_run.mono
  · exact fun _ after hrun => hact hrun
  · intro stuck after hrun hfull
    subst hfull
    exact hstalls hrun

theorem follows_writes {change : WifiState → WifiState} (write : Write)
    (hchange : ∀ s, change s = write.apply s) :
    Follows (acting env) (only (.writes write)) (modify change : Sm PUnit) := by
  apply follows_only
  intro before
  change Acts env (.writes write) before (change before)
  rw [hchange]
  exact .writes

theorem follows_finds {α : Type} {program other : Sm α} {scripts others : List (List SmAct)}
    {cond : Prop} [Decidable cond] {s : WifiState} (test : Test)
    (hcond : cond ↔ test.passes env.toWifiConfig s = true)
    (hprogram : FollowsFrom (acting env) s scripts program)
    (hother : FollowsFrom (acting env) s others other) :
    FollowsFrom (acting env) s
      (andThen (only (.finds test true)) scripts ++ andThen (only (.finds test false)) others)
      (if cond then program else other) := by
  have hfinds (holds : Bool) (hholds : test.passes env.toWifiConfig s = holds) :
      Acts env (.finds test holds) s s :=
    hholds ▸ .finds
  apply followsFrom_test _ _ hprogram hother
  · exact fun hyes => hfinds true (hcond.mp hyes)
  · exact fun hno => hfinds false (Bool.eq_false_iff.mpr (mt hcond.mpr hno))

theorem follows_assertThat {cond : Prop} [Decidable cond] :
    Follows (acting env) [[]] (assertThat cond) :=
  follows_check fun hfull => by cases hfull

theorem follows_startTimer (duration : ℕ) :
    Follows (acting env) (only .arms) (startAsyncEvtTimer duration) :=
  follows_act env (avoids_startAsyncEvtTimer duration) .arms

theorem follows_stopTimer : Follows (acting env) (only .disarms) stopAsyncEvtTimer :=
  follows_act env (avoids_startAsyncEvtTimer 0) .disarms

theorem follows_setState (state : SmState) :
    Follows (acting env) (only (.enters state)) (setState state) :=
  follows_act env (avoids_setState state) .enters

theorem follows_notifyNetIf (event : NetIfEvent) :
    Follows (acting env) (only (.tells event)) (notifyNetIf env event) :=
  follows_sends env .tells .tells

theorem follows_notifyWifiApp (event : WifiConnEvent) :
    Follows (acting env) (only (.informs event)) (notifyWifiApp env event) :=
  follows_sends env .informs .informs

theorem follows_nwpCall {call : NwpCall} (hplain : isProvisioning call = false) :
    Follows (acting env) (only (.asks call)) (nwpCall env call) :=
  follows_act env (avoids_nwpCall env call) (.asks hplain)

theorem follows_suspendNWP : Follows (acting env) suspendScripts (suspendNWP env) := by
  apply (follows_act env (avoids_suspendNWPPolicy env) .suspends).next
  exact fun _ => (follows_runIf (follows_notifyWifiApp env _)).last

theorem follows_resumeNWP : Follows (acting env) resumeScripts (resumeNWP env) := by
  apply (follows_act env (avoids_resumeNWPPolicy env) .resumes).next
  exact fun _ => (follows_runIf (follows_notifyWifiApp env _)).last

theorem follows_nonPersistentProfileProcess (bWlanDisconnect : Bool) :
    Follows (acting env) (profileScripts bWlanDisconnect)
      (nonPersistentProfileProcess env bWlanDisconnect) := by
  apply follows_get
  intro s
  cases bWlanDisconnect with
  | true =>
      exact (follows_nwpCall env rfl).bind
        fun _ => follows_writes env (.connectUsed false) fun _ => rfl
  | false =>
      cases s.pNonPersistentProfile with
      | none => exact follows_pure.mono (by simp [profileScripts])
      | some profile =>
          refine Follows.mono
            (Follows.bind (follows_act env (avoids_nwpCall env _) .connects) fun _ =>
              follows_writes env (.connectUsed true) fun _ => rfl) ?_
          simp [profileScripts, andThen, only]

theorem follows_drains : Follows (acting env) drainScripts (deferredEventProcess env) := by
  intro before
  have hmem (replayed : Bool) : [.drains replayed] ∈ drainScripts := by
    cases replayed <;> simp [drainScripts, only]
  refine ⟨by simp [drainScripts, only], ends_run.mono ?_ ?_⟩
  · exact fun replayed after hrun => ⟨_, hmem replayed, .single (.drains hrun)⟩
  · intro stuck after hrun hfull
    subst hfull
    exact ⟨_, hmem true, .here (.drains hrun)⟩

theorem follows_enterWaitForConn (timeout : BitVec 16) (bWlanDisconnect : Bool) :
    Follows (acting env) (waitForConnScripts bWlanDisconnect)
      (enterWaitForConn env timeout bWlanDisconnect) := by
  apply (follows_drains env).next
  intro _
  apply (follows_nonPersistentProfileProcess env bWlanDisconnect).next
  intro _
  apply (follows_startTimer env _).next
  exact fun _ => (follows_setState env _).last

theorem follows_enterIdle : Follows (acting env) idleScripts (enterIdle env) := by
  apply (follows_suspendNWP env).next
  intro _
  apply follows_get
  intro s
  apply (follows_startTimer env _).next
  intro _
  apply (follows_writes env .idleDoubled fun _ => rfl).next
  exact fun _ => (follows_setState env _).last

theorem follows_enterConnected (bNotify : Bool) :
    Follows (acting env) (connectedScripts bNotify) (enterConnected env bNotify) := by
  apply (follows_stopTimer env).next
  intro _
  apply (follows_writes env .errorsForgotten fun _ => rfl).next
  intro _
  have hnotify : Follows (acting env) (ipAquiredScripts bNotify)
      (runIf bNotify (notifyNetIf env .ipAquired)) := by
    cases bNotify with
    | true => exact follows_notifyNetIf env _
    | false => exact follows_pure
  apply hnotify.next
  intro _
  apply (follows_writes env .idleReset fun _ => rfl).next
  intro _
  apply follows_get
  intro s
  apply (follows_runIf (follows_startTimer env _)).next
  exact fun _ => (follows_setState env _).last

theorem follows_enterWaitForIp : Follows (acting env) waitForIpScripts (enterWaitForIp env) := by
  apply (follows_notifyNetIf env _).next
  intro _
  apply follows_get
  intro s
  apply (follows_nwpCall env rfl).next
  intro retVal
  apply Follows.last
  apply follows_ite (follows_enterConnected env false)
  exact (follows_startTimer env _).next fun _ => (follows_setState env _).last

theorem follows_setApParams : Follows (acting env) apScripts (setApParams env) := by
  apply follows_get
  intro s
  have hssid : Follows (acting env) (perhaps (only .setsAp))
      (setApSsid env s.settings.provisioningApSsid) := by
    cases s.settings.provisioningApSsid with
    | none => exact follows_pure.mono (by simp [perhaps])
    | some ssid =>
        apply ((follows_act env (avoids_nwpCall env _) .setsApSsid).returning
          fun _ => follows_pure).mono
        exact List.subset_cons_self _ _
  apply hssid.next
  intro _
  apply (follows_act env (avoids_nwpCall env _) .setsApSecType).next
  intro _
  apply (follows_runIf ((follows_act env (avoids_nwpCall env _) .setsApPassword).returning
    fun _ => follows_pure)).next
  intro _
  apply follows_get
  exact fun _ => (follows_runIf
    ((follows_act env (avoids_resetNWPRole env (by decide)) .resetsRole).returning
      fun _ => follows_pure)).last

theorem follows_startExternalConfiguration :
    Follows (acting env) externalConfigurationScripts (startExternalConfiguration env) := by
  apply follows_get
  intro s
  apply (follows_notifyWifiApp env _).next
  exact fun _ => ((follows_setState env _).returning fun _ => follows_pure).last

theorem follows_startNwpProvisioning (provisioningCmd : Byte) :
    Follows (acting env) nwpProvisioningScripts (startNwpProvisioning env provisioningCmd) := by
  apply (follows_setApParams env).next
  intro _
  apply follows_get
  intro s
  have hcommand (role : Byte) (timeout : BitVec 16) (key : Option (List Byte)) (flags : Byte)
      (hrole : role = roleSta) : Follows (acting env) commandScripts
        (nwpCall env (.provisioning provisioningCmd role timeout key flags)) := by
    subst hrole
    by_cases hcmd : provisioningCmd = env.provisioningCmdStop
    · subst hcmd
      apply (follows_act env (avoids_nwpCall env _) .stopsProvisioning).mono
      exact List.subset_append_right _ _
    · apply (follows_act env (avoids_nwpCall env _) fun hrun => .startsProvisioning hcmd hrun).mono
      exact List.subset_append_left _ _
  apply (hcommand _ _ _ _ rfl).next
  intro retVal
  apply (follows_assertThat env).skip
  intro _
  apply (follows_setState env _).next
  exact fun _ => ((follows_writes env .oneShotTaken fun _ => rfl).returning
    fun _ => follows_pure).last

theorem follows_enterProvisioning :
    Follows (acting env) provisioningScripts (enterProvisioning env) := by
  intro s
  apply followsFrom_get
  refine FollowsFrom.bind ?_ fun _ => ?_
  · apply follows_finds env .external (by simp [Test.passes])
    · exact follows_startExternalConfiguration env s
    · exact follows_startNwpProvisioning env _ s
  · apply follows_get
    exact fun _ => ((follows_startTimer env _).returning fun _ => follows_pure).last

theorem follows_enterProvStopping (eventId : Option SmEvent) :
    Follows (acting env) (provStoppingScripts eventId) (enterProvStopping env eventId) := by
  apply (follows_stopTimer env).next
  intro _
  have hdefer : Follows (acting env) (deferScripts eventId) (deferEvent eventId) := by
    cases eventId with
    | none => exact follows_pure
    | some event => exact follows_sends env .defers .defers
  apply hdefer.next
  intro _
  apply (follows_act env (avoids_nwpCall env _) .stopsProvisioning).next
  exact fun _ => (follows_setState env _).last

end Parts

section Handlers

theorem follows_smStateOff (event : SmEvent) :
    Follows (acting env) (offScripts event) (smStateOff env event) := by
  cases event with
  | enable =>
      apply (follows_writes env .idleReset fun _ => rfl).next
      intro _
      apply follows_get
      intro s
      have hdelete : Follows (acting env)
          (inOrder [only (.asks .profileDelAll), only (.writes .profilesDeleted)]) (do
            let retVal ← nwpCall env .profileDelAll
            assertThat (retVal = 0)
            modify fun s => { s with bDeleteAllProfiles := false }) := by
        apply (follows_nwpCall env rfl).next
        intro _
        apply (follows_assertThat env).skip
        exact fun _ => (follows_writes env .profilesDeleted fun _ => rfl).last
      apply (follows_runIf hdelete).next
      intro _
      apply (follows_resumeNWP env).next
      intro _
      apply follows_get
      exact fun _ => ((follows_enterWaitForConn env _ _).returning fun _ => follows_pure).last
  | _ => exact follows_pure

theorem follows_smStateIdle (event : SmEvent) :
    Follows (acting env) (idleStateScripts event) (smStateIdle env event) := by
  cases event with
  | enableProvisioning | addProfile | timeout =>
      apply (follows_resumeNWP env).next
      intro _
      apply follows_get
      exact fun _ => ((follows_enterWaitForConn env _ _).returning fun _ => follows_pure).last
  | connected =>
      apply (follows_stopTimer env).next
      intro _
      apply follows_get
      intro s
      apply (follows_startTimer env _).next
      exact fun _ => ((follows_setState env _).returning fun _ => follows_pure).last
  | _ => exact follows_pure

theorem follows_connectTimeoutExpired :
    Follows (acting env) connectTimeoutScripts (connectTimeoutExpired env) := by
  intro s
  apply followsFrom_get
  apply follows_finds env .connectUsed Iff.rfl
  · exact (follows_enterWaitForConn env _ _).returning (fun _ => follows_pure) s
  apply follows_finds env .provisions (by simp [Test.passes])
  · apply Follows.skip (follows_check fun hfull => by cases hfull)
    intro _
    apply (follows_enterProvisioning env).next
    intro retVal
    apply follows_get
    exact fun _ => ((follows_runIf (follows_sends env .informsStarted .informsStarted)).returning
      fun _ => follows_pure).last
  · exact (follows_enterIdle env).returning (fun _ => follows_pure) s

theorem follows_smStateWaitForConn (event : SmEvent) :
    Follows (acting env) (waitForConnStateScripts event) (smStateWaitForConn env event) := by
  cases event with
  | addProfile =>
      apply follows_get
      exact fun _ => (follows_enterWaitForConn env _ _).returning fun _ => follows_pure
  | connected => exact (follows_enterWaitForIp env).returning fun _ => follows_pure
  | ipAcquired => exact (follows_enterConnected env true).returning fun _ => follows_pure
  | timeout => exact follows_connectTimeoutExpired env
  | _ => exact follows_pure

theorem follows_connectionLost : Follows (acting env) lostScripts (connectionLost env) := by
  apply (follows_notifyNetIf env _).next
  intro _
  apply follows_get
  exact fun _ => (follows_enterWaitForConn env _ _).last

theorem follows_smStateWaitForIp (event : SmEvent) :
    Follows (acting env) (waitForIpStateScripts event) (smStateWaitForIp env event) := by
  cases event with
  | ipAcquired => exact (follows_enterConnected env true).returning fun _ => follows_pure
  | timeout =>
      apply (follows_nwpCall env rfl).next
      exact fun _ => ((follows_connectionLost env).returning fun _ => follows_pure).last
  | disconnect => exact (follows_connectionLost env).returning fun _ => follows_pure
  | _ => exact follows_pure

theorem follows_scheduleStats (cond : Bool) :
    Follows (acting env) (perhaps (only .arms)) (scheduleStats cond) := by
  apply follows_get
  exact fun _ => follows_runIf (follows_startTimer env _)

theorem follows_notifyStats : Follows (acting env) notifyStatsScripts (notifyStats env) := by
  apply (follows_act env avoids_emit .sleeps).next
  intro _
  apply follows_get
  intro s
  apply (follows_nwpCall env rfl).next
  intro retVal
  apply (follows_nwpCall env rfl).next
  intro _
  apply (follows_notifyWifiApp env _).next
  intro _
  apply follows_get
  intro after
  apply (follows_runIf (follows_sends env .informsStats .informsStats)).next
  intro _
  apply follows_get
  exact fun _ => (follows_scheduleStats env _).last

theorem follows_collectAndNotifyStats :
    Follows (acting env) statsScripts (collectAndNotifyStats env) := by
  have hresume : Follows (acting env) statsResumeScripts (do
      notifyWifiApp env .statsResume
      scheduleStats true) :=
    (follows_notifyWifiApp env _).next fun _ => (follows_scheduleStats env _).last
  apply follows_get
  intro s
  apply follows_ite (follows_scheduleStats env _)
  apply (follows_notifyWifiApp env _).next
  intro _
  apply (follows_act env avoids_emit .sleeps).next
  intro _
  apply follows_get
  intro paused
  apply Follows.last
  apply follows_ite hresume
  apply (follows_nwpCall env rfl).next
  intro retVal
  exact (follows_ite hresume (follows_notifyStats env)).last

theorem follows_smStateConnected (event : SmEvent) :
    Follows (acting env) (connectedStateScripts event) (smStateConnected env event) := by
  have hstop : Follows (acting env) (perhaps (only .disarms))
      (runIf env.wifiStats stopAsyncEvtTimer) :=
    follows_runIf (follows_stopTimer env)
  cases event with
  | disconnect =>
      apply hstop.next
      exact fun _ => ((follows_connectionLost env).returning fun _ => follows_pure).last
  | ipLost =>
      apply hstop.next
      intro _
      apply follows_get
      intro s
      apply (follows_startTimer env _).next
      exact fun _ => ((follows_setState env _).returning fun _ => follows_pure).last
  | resetRequest =>
      apply hstop.next
      intro _
      apply (follows_notifyNetIf env _).next
      intro _
      apply (follows_act env (avoids_resetNWP env (by decide)) .resets).next
      intro retVal
      apply (follows_assertThat env).skip
      intro _
      apply follows_get
      exact fun _ => ((follows_enterWaitForConn env _ _).returning fun _ => follows_pure).last
  | timeout =>
      apply follows_get
      intro s
      exact (follows_runIf (follows_collectAndNotifyStats env)).returning fun _ => follows_pure
  | _ => exact follows_pure

theorem follows_smStateProvisioning (event : SmEvent) :
    Follows (acting env) (provisioningStateScripts event) (smStateProvisioning env event) := by
  cases event with
  | provSuccess =>
      apply (follows_stopTimer env).next
      exact fun _ => ((follows_setState env _).returning fun _ => follows_pure).last
  | disable | addProfile | timeout =>
      exact (follows_enterProvStopping env _).returning fun _ => follows_pure
  | error =>
      apply (follows_writes env .oneShotGiven fun _ => rfl).next
      exact fun _ => ((follows_enterProvStopping env _).returning fun _ => follows_pure).last
  | provStopped =>
      apply (follows_stopTimer env).next
      intro _
      apply (follows_notifyWifiApp env _).next
      exact fun _ => ((follows_enterIdle env).returning fun _ => follows_pure).last
  | provExtConfigReady | provCloudConfirmReady =>
      apply (follows_notifyWifiApp env _).next
      exact fun _ => ((follows_setState env _).returning fun _ => follows_pure).last
  | _ => exact follows_pure

theorem follows_smStateExtProvisioning (event : SmEvent) :
    Follows (acting env) (extProvisioningStateScripts event)
      (smStateExtProvisioning env event) := by
  cases event with
  | extProvCompleted | addProfile =>
      exact (follows_enterProvStopping env _).returning fun _ => follows_pure
  | timeout =>
      apply follows_get
      intro s
      have hstop (cond : Prop) [Decidable cond] : Follows (acting env)
          (only (.informs .cloudConfirmationStopReq) ++
            only (.informs .externalProvisioningStopReq))
          (notifyWifiApp env
            (if cond then .cloudConfirmationStopReq else .externalProvisioningStopReq)) := by
        split
        · exact (follows_notifyWifiApp env _).mono (List.subset_append_left _ _)
        · exact (follows_notifyWifiApp env _).mono (List.subset_append_right _ _)
      apply (hstop _).next
      intro _
      apply (follows_notifyWifiApp env _).next
      exact fun _ => ((follows_enterProvStopping env _).returning fun _ => follows_pure).last
  | resetRequest =>
      apply (follows_notifyWifiApp env _).next
      intro _
      apply (follows_act env (avoids_resetNWP env (by decide)) .resets).next
      intro retVal
      apply (follows_assertThat env).skip
      exact fun _ => ((follows_setState env _).returning fun _ => follows_pure).last
  | _ => exact follows_pure

theorem follows_smStateProvStopping (event : SmEvent) :
    Follows (acting env) (provStoppingStateScripts event) (smStateProvStopping env event) := by
  cases event with
  | connected =>
      apply (follows_notifyWifiApp env _).next
      intro _
      apply (follows_notifyNetIf env _).next
      exact fun _ => ((follows_enterConnected env true).returning fun _ => follows_pure).last
  | provStopped =>
      apply Follows.returning _ fun _ => follows_pure
      apply (follows_notifyWifiApp env _).next
      intro _
      apply Follows.last
      apply follows_bind_cond (· = true)
      · intro before
        apply ends_run.mono
        · intro replayed after hrun
          cases replayed with
          | true => exact ⟨fun _ => .drains hrun, fun hnot => absurd rfl hnot⟩
          | false => exact ⟨fun hreplayed => (by cases hreplayed), fun _ => .drains hrun⟩
        · intro stuck after hrun hfull
          subst hfull
          exact .drains hrun
      · exact List.cons_ne_nil _ _
      · intro replayed hreplayed
        apply follows_get
        intro s
        rw [runIf, if_neg (not_not.mpr hreplayed)]
        exact follows_pure
      · intro replayed hreplayed
        apply follows_get
        intro s
        rw [runIf, if_pos hreplayed]
        exact follows_enterWaitForConn env _ _
  | extProvCompleted =>
      apply (follows_act env (avoids_setRole env (by decide) roleSta) .setsRole).next
      intro _
      apply follows_get
      exact fun _ => ((follows_enterWaitForConn env _ _).returning fun _ => follows_pure).last
  | addProfile =>
      apply follows_get
      exact fun _ => (follows_enterWaitForConn env _ _).returning fun _ => follows_pure
  | error => exact (follows_enterProvisioning env).returning fun _ => follows_pure
  | timeout => exact (follows_enterIdle env).returning fun _ => follows_pure
  | _ => exact follows_pure

/-- Every handler follows the transition table. -/
theorem follows_smHandler (state : SmState) (event : SmEvent) :
    Follows (acting env) (handlerScripts state event) (smHandler env state event) := by
  cases state with
  | off => exact follows_smStateOff env event
  | idle => exact follows_smStateIdle env event
  | waitForConn => exact follows_smStateWaitForConn env event
  | waitForIp => exact follows_smStateWaitForIp env event
  | connected => exact follows_smStateConnected env event
  | provisioning => exact follows_smStateProvisioning env event
  | provStopping => exact follows_smStateProvStopping env event
  | extProvisioning => exact follows_smStateExtProvisioning env event

theorem follows_disableAnywhere : Follows (acting env) disableScripts (disableAnywhere env) := by
  apply (follows_suspendNWP env).next
  intro _
  have hdisconnect : Follows (acting env)
      (inOrder [only (.asks .wlanDisconnect), only (.tells .disconnect)]) (do
        let _ ← nwpCall env .wlanDisconnect
        notifyNetIf env .disconnect) :=
    (follows_nwpCall env rfl).next fun _ => (follows_notifyNetIf env _).last
  intro s
  apply followsFrom_get
  refine FollowsFrom.bind ?_ fun _ => (follows_setState env .off).last
  exact follows_finds env .linkUp (by simp [Test.passes]) (hdisconnect s) (follows_pure s)

/-- The body of `ProcessEvent`: the handlers with the DISABLE events that are taken
anywhere. -/
theorem follows_handle (state : SmState) (event : SmEvent) :
    Follows (acting env) (processScripts state event) (do
      let retVal ← smHandler env state event
      runIf (retVal < 0 ∧ event = .disable) (disableAnywhere env)) := by
  by_cases hdisable : event = .disable
  · subst hdisable
    have htaken {program : Sm Unit} {scripts : List (List SmAct)}
        (hprogram : Follows (acting env) scripts program) :
        Follows (acting env) scripts (do
          let retVal : ℤ ← (do
            program
            return 0)
          runIf (retVal < 0 ∧ SmEvent.disable = .disable) (disableAnywhere env)) := by
      rw [bind_assoc]
      apply hprogram.returning
      intro _
      rw [pure_bind, runIf, if_neg (by simp)]
      exact follows_pure
    cases state with
    | off => exact follows_pure
    | provisioning => exact htaken (follows_enterProvStopping env _)
    | _ => exact follows_disableAnywhere env
  · rw [processScripts, if_neg fun hboth => hdisable hboth.1]
    apply (follows_smHandler env state event).returning
    intro retVal
    rw [runIf, if_neg fun hboth => hdisable hboth.2]
    exact follows_pure

end Handlers

end SimpleLinkHost.WifiScripts
