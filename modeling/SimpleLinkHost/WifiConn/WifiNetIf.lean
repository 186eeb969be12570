import SimpleLinkHost.Core.Monitor
import SimpleLinkHost.WifiConn.WifiRuns

/-!
# What the network interface is told

The interface is reported up only in `WAIT_FOR_IP` and `CONNECTED`, since every way out
of these two states reports the disconnection.  The reports come in order as long as
the two states are entered with a report of the connection, which two transitions
leave out.
-/

namespace SimpleLinkHost.WifiNetIf

open CallOutcome ProgramInvariant ProgramScript Monitor WifiContext WifiApi WifiMachine WifiFrames
open WifiScripts WifiRuns
open Transition (StatesSatisfy StepsSatisfy)

variable {env : WifiEnv} {s : WifiState}

section LastReport

def lastAfter (last : Option NetIfEvent) : Output → Option NetIfEvent
  | .netIf event => some event
  | _ => last

/-- The last notification that was given to the interface. -/
def lastReport (s : WifiState) : Option NetIfEvent := s.outputs.foldl lastAfter none

/-- If the interface was last reported up, the station is connected. -/
def UpWhileLinked (s : WifiState) : Prop :=
  lastReport s = some .macConnect ∨ lastReport s = some .ipAquired →
    s.state = .waitForIp ∨ s.state = .connected

def followLast (netIfCBSet : Bool) (last : Option NetIfEvent) : SmAct → Option NetIfEvent
  | .tells event => if netIfCBSet then some event else last
  | _ => last

theorem watchesRun_last : WatchesRun env lastAfter := by
  intro seen output houtput
  cases output with
  | netIf | app | processing | entered => cases houtput
  | _ => rfl

theorem echoes_last (callbacks : Bool × Bool) :
    Echoes env callbacks lastAfter (followLast callbacks.1) := by
  intro seen act said hvoices
  obtain ⟨netIfCBSet, appCBSet⟩ := callbacks
  cases hvoices with
  | tells => cases netIfCBSet <;> rfl
  | informs | informsStarted | informsStats => cases appCBSet <;> rfl
  | _ => rfl

/-- What was last reported fits the state; nothing is without a callback. -/
def LastRest (netIfCBSet : Bool) (last : Option NetIfEvent) (state : SmState) : Prop :=
  (netIfCBSet = false → last = none) ∧
    (last = some .macConnect ∨ last = some .ipAquired → state = .waitForIp ∨ state = .connected)

instance (netIfCBSet : Bool) (last : Option NetIfEvent) (state : SmState) :
    Decidable (LastRest netIfCBSet last state) :=
  inferInstanceAs (Decidable (_ ∧ _))

def allReports : List (Option NetIfEvent) :=
  [none, some .disconnect, some .macConnect, some .ipAquired]

theorem mem_allReports (last : Option NetIfEvent) : last ∈ allReports := by
  rcases last with _ | event
  · decide
  · cases event <;> decide

/-- Every way out of the two states reports the disconnection. -/
theorem lastRest_process (state : SmState) (event : SmEvent) :
    ∀ netIfCBSet, ∀ last ∈ allReports, LastRest netIfCBSet last state →
      ∀ script ∈ processScripts state event, fitsLink state script = true →
        LastRest netIfCBSet (script.foldl (followLast netIfCBSet) last)
          (script.foldl leadsTo state) := by
  cases state <;> cases event <;> decide +kernel

/-- The interface is never left reported as up where the station is not connected. -/
theorem upWhileLinked (hstarted : Started env s) (acts : List WifiAct) :
    StatesSatisfy (step env) UpWhileLinked s acts := by
  have hstates : StatesSatisfy (step env)
      (fun after => LastRest (callbacks s).1 (watched lastAfter none after) after.state) s
      acts := by
    have hsteps : StepsSatisfy (step env) (fun _ _ => True) s acts :=
      fun _ _ _ _ _ _ _ => trivial
    apply watched_run watchesRun_last (echoes_last (callbacks s)) _ rfl hstarted _ hsteps
    · intro s event notified posting script final _ _ _ hscript hplays hrest
      have hfits := plays_fitsLink hplays
      exact lastRest_process s.state event _ _ (mem_allReports _) hrest script hscript hfits
    · exact ⟨fun _ => rfl, fun hup => by simp at hup⟩
  exact fun before hbefore reached hreached => (hstates before hbefore reached hreached).2

/-- A connection that is reported, acquires its address and is lost. -/
theorem upWhileLinked_lost :
    StatesSatisfy (step obedientNwp) UpWhileLinked (started obedientNwp true false)
      (posted (.free .enable) ++ posted (.free (.wlanConnect [])) ++
        posted (.free (.netApp .ipv4Acquired)) ++ posted (.free .wlanDisconnect)) :=
  upWhileLinked ⟨powerOn, true, false, rfl, rfl⟩ _

end LastReport

section Order

/-- Whether a connection was reported, and no disconnection since. -/
def linkAfter (linked : Bool) : Output → Bool
  | .netIf .macConnect => true
  | .netIf .disconnect => false
  | _ => linked

/-- A report that is out of order. -/
def outOfOrder (linked : Bool) : Output → Bool
  | .netIf .macConnect => linked
  | .netIf .ipAquired | .netIf .disconnect => !linked
  | _ => false

/-- An address and a disconnection are reported only of a connection that was, and two
connections only with a disconnection between them. -/
def ReportsInOrder (s : WifiState) : Prop := NeverBad linkAfter outOfOrder false s.outputs

def followLink (netIfCBSet : Bool) (seen : Bool × Bool) : SmAct → Bool × Bool
  | .tells .macConnect => if netIfCBSet then (true, seen.2 && !seen.1) else seen
  | .tells .ipAquired => if netIfCBSet then (seen.1, seen.2 && seen.1) else seen
  | .tells .disconnect => if netIfCBSet then (false, seen.2 && seen.1) else seen
  | _ => seen

theorem watchesRun_link : WatchesRun env (watchBad linkAfter outOfOrder) := by
  intro seen output houtput
  cases output with
  | netIf | app | processing | entered => cases houtput
  | _ => simp [watchBad, linkAfter, outOfOrder]

theorem echoes_link (callbacks : Bool × Bool) :
    Echoes env callbacks (watchBad linkAfter outOfOrder) (followLink callbacks.1) := by
  intro seen act said hvoices
  obtain ⟨netIfCBSet, appCBSet⟩ := callbacks
  cases hvoices with
  | @tells event =>
      cases event <;> cases netIfCBSet <;>
        simp [heardBy, watchBad, linkAfter, outOfOrder, followLink]
  | informs | informsStarted | informsStats =>
      cases appCBSet <;> simp [heardBy, watchBad, linkAfter, outOfOrder, followLink]
  | _ => simp [heardBy, watchBad, linkAfter, outOfOrder, followLink]

/-- The reports are in order so far, and a connection is reported in the two states in
which the station is connected. -/
def LinkRest (netIfCBSet : Bool) (seen : Bool × Bool) (state : SmState) : Prop :=
  seen.2 = true ∧
    (netIfCBSet = true → (seen.1 = true ↔ state = .waitForIp ∨ state = .connected))

instance (netIfCBSet : Bool) (seen : Bool × Bool) (state : SmState) :
    Decidable (LinkRest netIfCBSet seen state) :=
  inferInstanceAs (Decidable (_ ∧ _))

/-- The transitions into the two states that do not report the connection. -/
def skipsReport : SmState → SmEvent → Bool
  | .idle, .connected | .waitForConn, .ipAcquired => true
  | _, _ => false

/-- The other transitions report what they do. -/
theorem linkRest_process (state : SmState) (event : SmEvent) :
    ∀ netIfCBSet, (netIfCBSet = true → skipsReport state event = false) →
      ∀ linked, LinkRest netIfCBSet (linked, true) state →
        ∀ script ∈ processScripts state event, fitsLink state script = true →
          LinkRest netIfCBSet (script.foldl (followLink netIfCBSet) (linked, true))
            (script.foldl leadsTo state) := by
  cases state <;> cases event <;> decide +kernel

/-- With a network interface, CONNECTED is not processed in `IDLE`, nor IP_ACQUIRED in
`WAIT_FOR_CONN`. -/
def ConnectsInOrder (s : WifiState) : WifiAct → Prop
  | .handle _ _ => s.netIfCBSet = true → ∀ event, s.received = some event →
      skipsReport s.state event = false
  | _ => True

/-- As long as no transition skips the report of a connection, the reports of every run
are in order. -/
theorem reportsInOrder_of_connectsInOrder (hstarted : Started env s) {acts : List WifiAct}
    (hsteps : StepsSatisfy (step env) ConnectsInOrder s acts) :
    StatesSatisfy (step env) ReportsInOrder s acts := by
  have hstates : StatesSatisfy (step env)
      (fun after => LinkRest (callbacks s).1
        (watched (watchBad linkAfter outOfOrder) (false, true) after) after.state) s acts := by
    apply watched_run watchesRun_link (echoes_link (callbacks s)) _ rfl hstarted _ hsteps
    · intro s event notified posting script final hcbs hreceived hcondition hscript hplays hrest
      have hreports (hset : _ = true) : skipsReport s.state event = false :=
        hcondition ((congrArg Prod.fst hcbs).trans hset) event hreceived
      have hprinted : watchBad linkAfter outOfOrder
          (watched (watchBad linkAfter outOfOrder) (false, true) s) (.processing s.state event) =
            ((watched (watchBad linkAfter outOfOrder) (false, true) s).1, true) := by
        rw [watchBad, hrest.1]
        rfl
      have hfits := plays_fitsLink hplays
      rw [hprinted]
      exact linkRest_process s.state event _ hreports _ ⟨rfl, hrest.2⟩ script hscript hfits
    · exact ⟨rfl, fun _ => by simp⟩
  intro before hbefore reached hreached
  exact (foldl_watchBad linkAfter outOfOrder false _).2.mp
    (hstates before hbefore reached hreached).1

/-- A connection that is late for the connection timeout is not reported, and its address
is. -/
theorem reportsInOrder_broken :
    Started obedientNwp (started obedientNwp true false) ∧
      ¬StatesSatisfy (step obedientNwp) ReportsInOrder (started obedientNwp true false)
        (posted (.free .enable) ++ posted (.free .timerExpires) ++
          posted (.free (.wlanConnect [])) ++ posted (.free (.netApp .ipv4Acquired))) := by
  refine ⟨⟨powerOn, true, false, rfl, rfl⟩, ?_⟩
  apply Transition.not_statesSatisfy_of_any
    fun s => !(s.outputs.foldl (watchBad linkAfter outOfOrder) (false, true)).2
  · intro s hfails horder
    rw [(foldl_watchBad linkAfter outOfOrder false s.outputs).2.mpr horder] at hfails
    cases hfails
  · decide +kernel

/-- The condition, computed. -/
def connectsInOrder (s : WifiState) : WifiAct → Bool
  | .handle _ _ => !s.netIfCBSet || s.received.all fun event => !skipsReport s.state event
  | _ => true

theorem connectsInOrder_sound (s : WifiState) (act : WifiAct)
    (hcheck : connectsInOrder s act = true) : ConnectsInOrder s act := by
  cases act with
  | handle notified posting =>
      intro hset event hreceived
      simpa [connectsInOrder, hset, hreceived] using hcheck
  | _ => trivial

/-- A connection that is reported, acquires its address, and is lost and found again. -/
theorem reportsInOrder_again :
    StatesSatisfy (step obedientNwp) ReportsInOrder (started obedientNwp true false)
      (posted (.free .enable) ++ posted (.free (.wlanConnect [])) ++
        posted (.free (.netApp .ipv4Acquired)) ++ posted (.free .wlanDisconnect) ++
        posted (.free (.wlanConnect []))) :=
  reportsInOrder_of_connectsInOrder ⟨powerOn, true, false, rfl, rfl⟩
    (Transition.stepsSatisfy_of_check connectsInOrder connectsInOrder_sound (by decide +kernel))

end Order

end SimpleLinkHost.WifiNetIf
