import SimpleLinkHost.Core.Monitor
import SimpleLinkHost.WifiConn.WifiRuns

/-!
# The pauses of the statistics

The application stops its network clients while the statistics of the NWP are collected.
It is told to resume them before anything else happens, and gets a result behind that.
-/

namespace SimpleLinkHost.WifiStats

open ProgramScript Monitor WifiContext WifiMachine WifiScripts WifiRuns
open Transition (run StatesSatisfy StepsSatisfy)

variable {env : WifiEnv} {s : WifiState} {acts : List WifiAct} {script : List SmAct}

section Property

/-- What the application knows of its network clients. -/
inductive Clients
  | running
  | paused
  /-- They were just resumed, so that a result may come. -/
  | resumed
deriving DecidableEq

def clientsAfter (clients : Clients) : Output → Clients
  | .app .statsPause => .paused
  | .app .statsResume => .resumed
  | .app _ | .netIf _ | .entered _ | .processing _ _ => .running
  | _ => clients

/-- A pause within a pause, a resume or a result at the wrong time, or anything else that
happens while the clients are paused. -/
def outOfTurn (clients : Clients) : Output → Bool
  | .app .statsResume => clients ≠ .paused
  | .app (.statsResult _ _ _) => clients ≠ .resumed
  | .app _ | .netIf _ | .entered _ | .processing _ _ => clients = .paused
  | _ => false

/-- Every pause is answered by the resume next to it, and every result follows a resume. -/
structure PausesAnswered (s : WifiState) : Prop where
  inTurn : NeverBad clientsAfter outOfTurn .running s.outputs
  answered : s.outputs.foldl clientsAfter .running ≠ .paused

/-- What an act tells of the clients, and whether it does so in turn. -/
def followStats (callbacks : Bool × Bool) (seen : Clients × Bool) : SmAct → Clients × Bool
  | .tells event =>
      if callbacks.1 then watchBad clientsAfter outOfTurn seen (.netIf event) else seen
  | .informs event =>
      if callbacks.2 then watchBad clientsAfter outOfTurn seen (.app event) else seen
  | .informsStarted =>
      if callbacks.2 then watchBad clientsAfter outOfTurn seen (.app (.provisioningStarted 0))
      else seen
  | .informsStats =>
      if callbacks.2 then watchBad clientsAfter outOfTurn seen (.app (.statsResult [] 0 0))
      else seen
  | .enters state => watchBad clientsAfter outOfTurn seen (.entered state)
  | _ => seen

theorem watchesRun_clients : WatchesRun env (watchBad clientsAfter outOfTurn) := by
  intro seen output houtput
  cases output with
  | netIf | app | processing | entered => cases houtput
  | _ => simp [watchBad, clientsAfter, outOfTurn]

theorem echoes_stats (callbacks : Bool × Bool) :
    Echoes env callbacks (watchBad clientsAfter outOfTurn) (followStats callbacks) := by
  intro seen act said hvoices
  obtain ⟨netIfCBSet, appCBSet⟩ := callbacks
  cases hvoices with
  | tells => cases netIfCBSet <;> rfl
  | informs | informsStarted | informsStats => cases appCBSet <;> rfl
  | _ => simp [heardBy, watchBad, clientsAfter, outOfTurn, followStats]

end Property

section Table

/-- The clients run, in every state, and were told in turn. -/
def Running (seen : Clients × Bool) (_ : SmState) : Prop := seen.1 ≠ .paused ∧ seen.2 = true

instance (seen : Clients × Bool) (state : SmState) : Decidable (Running seen state) :=
  inferInstanceAs (Decidable (_ ∧ _))

/-- Every script tells the application in turn, and leaves the clients running. -/
theorem running_process (callbacks : Bool × Bool) (state : SmState) (event : SmEvent) :
    ∀ script ∈ processScripts state event,
      Running (script.foldl (followStats callbacks) (.running, true))
        (script.foldl leadsTo state) := by
  obtain ⟨netIfCBSet, appCBSet⟩ := callbacks
  cases netIfCBSet <;> cases appCBSet <;> cases state <;> cases event <;> decide +kernel

/-- The debug print of `ProcessEvent` finds the clients running. -/
theorem watchBad_processing {seen : Clients × Bool} {state : SmState} {event : SmEvent}
    (hrunning : Running seen state) :
    watchBad clientsAfter outOfTurn seen (.processing state event) = (.running, true) := by
  obtain ⟨clients, kept⟩ := seen
  obtain ⟨hclients, hkept⟩ := hrunning
  change kept = true at hkept
  change clients ≠ .paused at hclients
  simp [watchBad, clientsAfter, outOfTurn, hkept, hclients]

end Table

/-- In every run of the module, the application is told in turn to pause and to resume. -/
theorem pausesAnswered_always (hstarted : Started env s) :
    StatesSatisfy (step env) PausesAnswered s acts := by
  have hstates : StatesSatisfy (step env)
      (fun other => Running (watched (watchBad clientsAfter outOfTurn) (.running, true) other)
        other.state) s acts := by
    have hsteps : StepsSatisfy (step env) (fun _ _ => True) s acts :=
      fun _ _ _ _ _ _ _ => trivial
    apply watched_run watchesRun_clients (echoes_stats (callbacks s)) _ rfl hstarted _ hsteps
    · intro before event notified posting script final _ _ _ hscript _ hrunning
      rw [watchBad_processing hrunning]
      exact running_process (callbacks s) before.state event script hscript
    · decide
  intro before hbefore reached hreached
  have hrunning := hstates before hbefore reached hreached
  have hpass := foldl_watchBad clientsAfter outOfTurn .running reached.outputs
  constructor
  · exact hpass.2.mp hrunning.2
  · rw [← hpass.1]
    exact hrunning.1

/-- The machine is connected, and the timer of the statistics has expired. -/
def untilResult : List WifiAct :=
  posted (.enableProvisioning .off 0 1) ++ posted (.free .enable) ++
    posted (.free (.wlanConnect [])) ++ posted (.free (.netApp .ipv4Acquired)) ++
      [.call (.enableStats 10)] ++ posted (.free .timerExpires)

/-- A run whose record holds a result. -/
theorem pausesAnswered_result :
    ∃ after, run (step obedientNwp) (WifiMachine.started obedientNwp true false) untilResult =
      some after ∧ .app (.statsResult [] 0 0) ∈ after.outputs ∧ PausesAnswered after := by
  have hany : (run (step obedientNwp) (WifiMachine.started obedientNwp true false)
      untilResult).any (fun after => .app (.statsResult [] 0 0) ∈ after.outputs) = true := by
    decide +kernel
  rw [Option.any_eq_true] at hany
  obtain ⟨after, hrun, hresult⟩ := hany
  exact ⟨after, hrun, of_decide_eq_true hresult,
    pausesAnswered_always ⟨powerOn, true, false, rfl, rfl⟩ untilResult (List.prefix_rfl) after hrun⟩

end SimpleLinkHost.WifiStats
