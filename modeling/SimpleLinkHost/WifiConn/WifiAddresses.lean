import SimpleLinkHost.WifiConn.WifiRuns

/-!
# Addresses of two families

An address of either family that is acquired or lost is one event to the machine.  The
loss of one takes it out of `CONNECTED`, whatever the other family has, and back
comes it with the next address of either family, unless the timeout is first.
-/

namespace SimpleLinkHost.WifiAddresses

open CallOutcome ProgramInvariant ProgramScript WifiContext WifiApi WifiMachine WifiFrames
open WifiScripts WifiRuns
open Transition (StatesSatisfy StepsSatisfy)

variable {env : WifiEnv} {s after : WifiState} {acts others : List WifiAct}

section Families

inductive Family
  | ipv4
  | ipv6

def Family.other : Family → Family
  | .ipv4 => .ipv6
  | .ipv6 => .ipv4

def Family.lost : Family → NetAppEvent
  | .ipv4 => .ipv4Lost
  | .ipv6 => .ipv6Lost

/-- Whether the last event of the family was that it acquired an address. -/
def Family.heldAfter : Family → Bool → NetAppEvent → Bool
  | .ipv4, _, .ipv4Acquired | .ipv6, _, .ipv6Acquired => true
  | .ipv4, _, .ipv4Lost | .ipv6, _, .ipv6Lost => false
  | _, held, _ => held

def deliveredAfter (family : Family) (held : Bool) : WifiAct → Bool
  | .call (.free (.netApp event)) => family.heldAfter held event
  | _ => held

def held (family : Family) (acts : List WifiAct) : Bool :=
  acts.foldl (deliveredAfter family) false

/-- While the last event of one family is that it acquired an address, the loss of an address
of the other one does not take the machine out of `CONNECTED`. -/
def LossIgnored (env : WifiEnv) (s : WifiState) (acts : List WifiAct) : Prop :=
  ∀ family : Family, ∀ before middle reached,
    before ++ posted (.free (.netApp family.lost)) <+: acts →
      held family.other before = true → Transition.run (step env) s before = some middle →
        middle.state = .connected → middle.role = roleSta → middle.eventQ = [] →
          Transition.run (step env) middle (posted (.free (.netApp family.lost))) = some reached →
            reached.state = .connected

/-- The same kind of event, of either family. -/
def SameKind (event twin : NetAppEvent) : Prop := netAppEventOf event = netAppEventOf twin

/-- The acts are the same up to the families of the addresses that are acquired and lost. -/
inductive SameButFamily : WifiAct → WifiAct → Prop
  | same {act : WifiAct} : SameButFamily act act
  | netApp {event twin : NetAppEvent} (hkind : SameKind event twin) :
      SameButFamily (.call (.free (.netApp event))) (.call (.free (.netApp twin)))

end Families

section Step

variable {event : SmEvent} {script : List SmAct} {final : WifiState}

def disconnectsAfter (count : ℕ) : Output → ℕ
  | .nwp .wlanDisconnect => count + 1
  | _ => count

/-- How often the NWP was asked to disconnect. -/
def disconnects (s : WifiState) : ℕ := s.outputs.foldl disconnectsAfter 0

/-- What the events about addresses, and the timeout, do where the station is connected. -/
structure Follows (s : WifiState) (event : SmEvent) (after : WifiState) : Prop where
  lost : s.state = .connected → event = .ipLost →
    after.state = .waitForIp ∧ disconnects after = disconnects s
  acquired : s.state = .connected ∨ s.state = .waitForIp → event = .ipAcquired →
    after.state = .connected ∧ disconnects after = disconnects s
  timeout : s.state = .waitForIp → event = .timeout → disconnects after = disconnects s + 1
  others : s.state = .waitForIp → event ≠ .timeout → event ≠ .disable →
    disconnects after = disconnects s

/-- The step follows the addresses. -/
def FollowsAddresses (env : WifiEnv) (s : WifiState) (act : WifiAct) : Prop :=
  ∀ notified posting event after, act = .handle notified posting → s.received = some event →
    step env s act = some after → Follows s event after

def followDisconnects (count : ℕ) : SmAct → ℕ
  | .asks .wlanDisconnect => count + 1
  | _ => count

theorem watchesMachine_disconnects : WatchesMachine disconnectsAfter := by
  intro count output houtput
  unfold disconnectsAfter
  split
  · cases houtput
  · rfl

theorem echoes_disconnects (callbacks : Bool × Bool) :
    Echoes env callbacks disconnectsAfter followDisconnects := by
  intro count act said hvoices
  obtain ⟨netIfCBSet, appCBSet⟩ := callbacks
  cases hvoices with
  | tells => cases netIfCBSet <;> rfl
  | informs | informsStarted | informsStats => cases appCBSet <;> rfl
  | @asks call => cases call <;> rfl
  | @asksSilently call hcall =>
      cases call with
      | wlanDisconnect => cases hcall
      | _ => rfl
  | _ => rfl

theorem foldl_followDisconnects (script : List SmAct) (count : ℕ) :
    script.foldl followDisconnects count = count + script.count (.asks .wlanDisconnect) := by
  induction script generalizing count with
  | nil => rfl
  | cons act rest ih =>
      rw [List.foldl_cons, ih, List.count_cons]
      unfold followDisconnects
      split <;> simp_all [Nat.add_assoc, Nat.add_comm]

theorem lost_scripts :
    ∀ script ∈ processScripts .connected .ipLost,
      script.foldl leadsTo .connected = .waitForIp ∧
        script.count (.asks .wlanDisconnect) = 0 := by
  decide +kernel

theorem acquired_scripts {state : SmState} (hstate : state = .connected ∨ state = .waitForIp) :
    ∀ script ∈ processScripts state .ipAcquired,
      script.foldl leadsTo state = .connected ∧ script.count (.asks .wlanDisconnect) = 0 := by
  rcases hstate with hstate | hstate <;> subst hstate <;> decide +kernel

theorem timeout_scripts :
    ∀ script ∈ processScripts .waitForIp .timeout,
      script.count (.asks .wlanDisconnect) = 1 := by
  decide +kernel

theorem other_scripts (htimeout : event ≠ .timeout) (hdisable : event ≠ .disable) :
    ∀ script ∈ processScripts .waitForIp event, script.count (.asks .wlanDisconnect) = 0 := by
  cases event with
  | timeout => exact absurd rfl htimeout
  | disable => exact absurd rfl hdisable
  | _ => decide +kernel

theorem follows_process {notified : List (List Call)} {posting : List (List FreeCall)}
    (hscript : script ∈ processScripts s.state event)
    (hplays : Plays (Acts env) script (handling s event notified posting) final) :
    Follows s event (handled final) := by
  have hwatch : watched disconnectsAfter 0 final = _ ∧ final.state = _ ∧ _ :=
    handling_watched watchesMachine_disconnects (echoes_disconnects (callbacks s)) rfl hplays
  obtain ⟨hwatched, hleads, -⟩ := hwatch
  rw [foldl_followDisconnects] at hwatched
  have hseen : disconnects (handled final) =
      disconnects s + script.count (.asks .wlanDisconnect) := hwatched
  have hstate : (handled final).state = script.foldl leadsTo s.state := hleads
  constructor
  · intro hconnected hevent
    rw [hconnected, hevent] at hscript
    obtain ⟨hleads, hnone⟩ := lost_scripts script hscript
    rw [hstate, hseen, hconnected, hleads, hnone]
    exact ⟨rfl, rfl⟩
  · intro hlinked hevent
    rw [hevent] at hscript
    obtain ⟨hleads, hnone⟩ := acquired_scripts hlinked script hscript
    rw [hstate, hseen, hleads, hnone]
    exact ⟨rfl, rfl⟩
  · intro hwaiting hevent
    rw [hwaiting, hevent] at hscript
    rw [hseen, timeout_scripts script hscript]
  · intro hwaiting htimeout hdisable
    rw [hwaiting] at hscript
    rw [hseen, other_scripts htimeout hdisable script hscript, Nat.add_zero]

theorem followsAddresses (env : WifiEnv) (s : WifiState) (act : WifiAct) :
    FollowsAddresses env s act := by
  intro notified posting event after hact hreceived hstep
  subst hact
  cases stepCase_of_step hstep with
  | process hprocessed _ hscript hplays =>
      rw [hreceived, Option.some.injEq] at hprocessed
      subst hprocessed
      exact follows_process hscript hplays
  | destroy hdestroy hrun =>
      rw [hreceived, Option.some.injEq] at hdestroy
      subst hdestroy
      injection hrun with _ hfinal
      subst hfinal
      constructor
      · exact fun _ hevent => by cases hevent
      · exact fun _ hevent => by cases hevent
      · exact fun _ hevent => by cases hevent
      · intro _ _ _
        simp [disconnects, handled, disconnectsAfter]

end Step

section History

/-- Since the state was entered, an address was acquired, and one was lost. -/
structure Addresses where
  acquired : Bool
  lost : Bool
deriving DecidableEq

def noAddresses : Addresses := ⟨false, false⟩

def addressesAfter (seen : Addresses) : Output → Addresses
  | .entered _ => noAddresses
  | .processing _ .ipAcquired => { seen with acquired := true }
  | .processing _ .ipLost => { seen with lost := true }
  | _ => seen

def addresses (s : WifiState) : Addresses := s.outputs.foldl addressesAfter noAddresses

/-- Since `WAIT_FOR_IP` was entered no address of either family was acquired, and since
`CONNECTED` was entered none was lost. -/
def Settled (seen : Addresses) (state : SmState) : Prop :=
  (state = .waitForIp → seen.acquired = false) ∧ (state = .connected → seen.lost = false)

instance (seen : Addresses) (state : SmState) : Decidable (Settled seen state) :=
  inferInstanceAs (Decidable (_ ∧ _))

def followAddresses (seen : Addresses) : SmAct → Addresses
  | .enters _ => noAddresses
  | _ => seen

theorem watchesRun_addresses : WatchesRun env addressesAfter := by
  intro seen output houtput
  cases output with
  | entered | processing => cases houtput
  | _ => rfl

theorem echoes_addresses (callbacks : Bool × Bool) :
    Echoes env callbacks addressesAfter followAddresses := by
  intro seen act said hvoices
  obtain ⟨netIfCBSet, appCBSet⟩ := callbacks
  cases hvoices with
  | tells => cases netIfCBSet <;> rfl
  | informs | informsStarted | informsStats => cases appCBSet <;> rfl
  | _ => rfl

theorem settled_process (state : SmState) (event : SmEvent) (seen : Addresses) :
    ∀ script ∈ processScripts state event, Settled seen state →
      Settled (script.foldl followAddresses (addressesAfter seen (.processing state event)))
        (script.foldl leadsTo state) := by
  obtain ⟨acquired, lost⟩ := seen
  cases state <;> cases event <;> cases acquired <;> cases lost <;> decide +kernel

theorem settled_run (hstarted : Started env s) (acts : List WifiAct) :
    StatesSatisfy (step env) (fun s => Settled (addresses s) s.state) s acts := by
  have hsteps : StepsSatisfy (step env) (fun _ _ => True) s acts :=
    fun _ _ _ _ _ _ _ => trivial
  apply watched_run watchesRun_addresses (echoes_addresses (callbacks s)) _ rfl hstarted _ hsteps
  · intro s event notified posting script final _ _ _ hscript hplays hrest
    exact settled_process s.state event _ script hscript hrest
  · exact ⟨fun hstate => (by cases hstate), fun hstate => (by cases hstate)⟩

end History

section Runs

/-- An event has the same effect for both families. -/
theorem runCall_netApp {event twin : NetAppEvent} (hkind : SameKind event twin) :
    runCall env (.free (.netApp event)) = runCall env (.free (.netApp twin)) := by
  simp only [runCall, runFreeCall, runUnlocked, netAppEventHandler]
  rw [hkind]

theorem run_sameButFamily (hsame : List.Forall₂ SameButFamily acts others) (s : WifiState) :
    Transition.run (step env) s acts = Transition.run (step env) s others := by
  induction hsame generalizing s with
  | nil => rfl
  | @cons act twin rest rest' hact _ ih =>
      have hstep : step env s act = step env s twin := by
        cases hact with
        | same => rfl
        | netApp hkind => simp only [step, runCall_netApp hkind]
      rw [Transition.run_cons, Transition.run_cons, hstep]
      congr 1
      funext next
      exact ih next

/-- Both families have an address. -/
def bothAcquired : List WifiAct :=
  posted (.free .enable) ++ posted (.free (.wlanConnect [])) ++
    posted (.free (.netApp .ipv4Acquired)) ++ posted (.free (.netApp .ipv6Acquired))

/-- The one of IPv6 is lost. -/
def losesIpv6 : List WifiAct := bothAcquired ++ posted (.free (.netApp .ipv6Lost))

end Runs

end SimpleLinkHost.WifiAddresses
