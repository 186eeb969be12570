import SimpleLinkHost.Core.Simulation
import SimpleLinkHost.Netdev.Notifications

/-!
# The diagram of the network device driver

The states of the driver's thread and the calls of `netdev_wlan_cc3220sf_exec` that lead
from one to another.  Every run walks in the diagram and every edge of it is taken in some
run, so that four of the states are never entered and two are never left.
-/

namespace SimpleLinkHost.NetDiagram

open Simulation Cc3220sf FatalReset Notifications
open Transition (run)

variable {rebootOnFatalError : Bool} {d after : Desc} {acts : List NetAct}

section Diagram

/-- The states to which a call may lead. -/
def nextStates : Cc3220sfState → List Cc3220sfState
  | .init => [.start]
  | .start => [.wait4Start, .waitFwInstall]
  | .wait4Start => [.wait4Start, .checkProfiles, .sleep]
  | .checkProfiles => [.startNetwork]
  | .startNetwork => [.waitConnectAp, .waitProvision]
  | .waitConnectAp => [.waitConnectAp, .waitIp, .error]
  | .waitIp => [.waitIp, .startHttp, .error]
  | .startHttp => [.notifyUp]
  | .notifyUp => [.idle]
  | .idle => [.idle, .httpMessage, .handleEvent]
  | .httpMessage => [.idle]
  | .handleEvent => [.idle, .notifyDown]
  | .notifyDown => [.stop]
  | .stop => [.init]
  | .error => [.sleep]
  | .sleep => [.sleep, .init, .stop]
  | .waitFwInstall => [.waitFwInstall]
  | .waitProvision => [.waitProvision]
  | .ready | .checkConnection | .getStatistics | .startProv => []

/-- The edges, which any call may take. -/
def Edge (state : Cc3220sfState) (_ : NetAct) (next : Cc3220sfState) : Prop :=
  next ∈ nextStates state

/-- Where a call leads, if `nstate` is right for the state. -/
theorem edge_of_successor {state nstate : Cc3220sfState} {call : NetAct}
    (hnstate : returns state = true → nstate ∈ mayReturnTo state) (hused : unused state = false) :
    ∀ next ∈ successors state nstate, Edge state call next.1 := by
  unfold Edge
  cases state with
  | wait4Start | notifyUp | notifyDown =>
      have hreturn := List.mem_singleton.mp (hnstate rfl)
      subst hreturn
      decide
  | sleep =>
      have hreturn : nstate = .init ∨ nstate = .stop := by simpa [mayReturnTo] using hnstate rfl
      cases hreturn with
      | inl hreturn => subst hreturn; decide
      | inr hreturn => subst hreturn; decide
  | ready | getStatistics | startProv | checkConnection => cases hused
  | _ => simp [successors, nextStates]

theorem walk_of_step (act : NetAct) (hinOrder : InOrder d)
    (hstep : step rebootOnFatalError d act = some after) :
    Walk Edge d.state (Option.guard isExec act).toList after.state := by
  cases act with
  | exec delay arriving =>
      have hmoves := moves_step hstep
      exact .single (edge_of_successor hinOrder.nstate_mem hinOrder.used _ hmoves.2)
  | _ =>
      rw [(leaves_step rfl hstep).1]
      exact .nil

/-- Every run walks in the diagram, an edge for each call. -/
theorem walk_of_acts (hinOrder : InOrder d)
    (hrun : run (step rebootOnFatalError) d acts = some after) :
    Walk Edge d.state (acts.filter isExec) after.state := by
  have hwalk : Walk Edge d.state _ after.state :=
    walk_of_run (fun _ _ _ => inOrder_step) (fun _ act _ => walk_of_step act) hinOrder hrun
  rwa [trace_eq_filterMap hrun, List.filterMap_eq_filter] at hwalk

end Diagram

section Scenarios

/-- Calls with the delay of the driver. -/
def execs (count : ℕ) : List NetAct := List.replicate count (.exec 100 [])

/-- The NWP runs. -/
def untilRunning : List NetAct := execs 2 ++ .send .running :: execs 1

def untilConnecting : List NetAct := untilRunning ++ execs 2

def untilUp : List NetAct :=
  untilConnecting ++ .send .connected :: execs 1 ++ .send .ipAcquired :: execs 3

/-- The connection is given up for the installation of a firmware. -/
def untilDown : List NetAct := untilUp ++ .send .fwInstall :: execs 2

/-- A way into each state that is entered. -/
def untilState : Cc3220sfState → List NetAct
  | .init => []
  | .start => execs 1
  | .wait4Start => execs 2
  | .checkProfiles => untilRunning
  | .startNetwork => untilRunning ++ execs 1
  | .waitConnectAp => untilConnecting
  | .waitIp => untilConnecting ++ .send .connected :: execs 1
  | .startHttp => untilConnecting ++ .send .connected :: execs 1 ++ .send .ipAcquired :: execs 1
  | .notifyUp => untilConnecting ++ .send .connected :: execs 1 ++ .send .ipAcquired :: execs 2
  | .idle => untilUp
  | .httpMessage => untilUp ++ .request :: execs 1
  | .handleEvent => untilUp ++ .send .fwInstall :: execs 1
  | .notifyDown => untilDown
  | .stop => untilDown ++ execs 1
  | .error => untilConnecting ++ [.exec 10001 []]
  | .sleep => untilConnecting ++ .exec 10001 [] :: execs 1
  | .waitFwInstall => untilDown ++ execs 4
  | .waitProvision => .provision :: untilConnecting
  | .ready | .checkConnection | .getStatistics | .startProv => []

/-- A run behind which a call with the delay takes the edge. -/
def untilEdge : Cc3220sfState → Cc3220sfState → List NetAct × BitVec 32
  | .start, .waitFwInstall => (untilDown ++ execs 3, 100)
  | .wait4Start, .checkProfiles => (execs 2 ++ [.send .running], 100)
  | .wait4Start, .sleep => (execs 2, 2000)
  | .startNetwork, .waitProvision => (.provision :: untilState .startNetwork, 100)
  | .waitConnectAp, .waitIp => (untilConnecting ++ [.send .connected], 100)
  | .waitConnectAp, .error => (untilConnecting, 10001)
  | .waitIp, .startHttp => (untilState .waitIp ++ [.send .ipAcquired], 100)
  | .waitIp, .error => (untilState .waitIp, 5001)
  | .idle, .httpMessage => (untilUp ++ [.request], 100)
  | .idle, .handleEvent => (untilUp ++ [.send .fwInstall], 100)
  | .handleEvent, .idle => (untilUp ++ .send .timeout :: execs 1, 100)
  | .sleep, .init => (execs 2 ++ [.exec 2000 []], 1000)
  | .sleep, .stop => (untilState .sleep, 2000)
  | state, _ => (untilState state, 100)

/-- The call takes the edge. -/
def takes (rebootOnFatalError : Bool) (state next : Cc3220sfState) (delay : BitVec 32)
    (d : Desc) : Bool :=
  d.state = state &&
    (step rebootOnFatalError d (.exec delay [])).any fun after => after.state = next

/-- Every edge is taken in some run, in either build. -/
theorem takes_untilEdge (rebootOnFatalError : Bool) (state : Cc3220sfState) :
    ∀ next ∈ nextStates state,
      (run (step rebootOnFatalError) (started 0 0 0 false) (untilEdge state next).1).any
        (takes rebootOnFatalError state next (untilEdge state next).2) = true := by
  cases rebootOnFatalError <;> cases state <;> decide +kernel

/-- The runs of the driver's thread are walks in the diagram from INIT, an edge for each call,
and no edge of it could be left out. -/
theorem calls_walk_exactly (rebootOnFatalError : Bool) :
    (∀ totalFatalErrors totalRecoveries totalDisconnects doProvisioning acts after,
      run (step rebootOnFatalError)
          (started totalFatalErrors totalRecoveries totalDisconnects doProvisioning) acts =
        some after →
      Walk Edge .init (acts.filter isExec) after.state) ∧
    ∀ state next, next ∈ nextStates state →
      ∃ acts d delay after,
        run (step rebootOnFatalError) (started 0 0 0 false) acts = some d ∧ d.state = state ∧
          step rebootOnFatalError d (.exec delay []) = some after ∧ after.state = next := by
  constructor
  · intro totalFatalErrors totalRecoveries totalDisconnects doProvisioning acts after hrun
    exact walk_of_acts inOrder_started hrun
  · intro state next hedge
    have htaken := takes_untilEdge rebootOnFatalError state next hedge
    rw [Option.any_eq_true] at htaken
    obtain ⟨d, hrun, htakes⟩ := htaken
    rw [takes, Bool.and_eq_true, Option.any_eq_true] at htakes
    obtain ⟨hstate, after, hstep, hnext⟩ := htakes
    exact ⟨_, d, _, after, hrun, of_decide_eq_true hstate, hstep, of_decide_eq_true hnext⟩

end Scenarios

end SimpleLinkHost.NetDiagram
