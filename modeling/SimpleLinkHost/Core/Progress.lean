import Mathlib.Order.WellFounded
import SimpleLinkHost.Core.Transition

/-!
# Goals that can be reached

A goal can be reached from a state if some of the allowed actions lead from it to a state
that meets the goal.  A system that can always get closer to its goal, by a rank in a
well-founded order, can reach it.
-/

namespace SimpleLinkHost.Progress

open Transition

variable {State Action Rank : Type*} {step : State → Action → Option State}
variable {allowed : Action → Prop} {goal middle : State → Prop} {state next : State}

/-- Some of the allowed actions lead to the goal. -/
def CanReach (step : State → Action → Option State) (allowed : Action → Prop)
    (goal : State → Prop) (state : State) : Prop :=
  ∃ actions final, (∀ action ∈ actions, allowed action) ∧
    run step state actions = some final ∧ goal final

theorem CanReach.of_goal (hgoal : goal state) : CanReach step allowed goal state :=
  ⟨[], state, by simp, rfl, hgoal⟩

/-- It is enough to reach a state from which the goal can be reached. -/
theorem CanReach.trans (hfirst : CanReach step allowed middle state)
    (hsecond : ∀ reached, middle reached → CanReach step allowed goal reached) :
    CanReach step allowed goal state := by
  obtain ⟨actions, reached, hallowed, hrun, hmiddle⟩ := hfirst
  obtain ⟨more, final, hallowed', hmore, hgoal⟩ := hsecond reached hmiddle
  refine ⟨actions ++ more, final, ?_, ?_, hgoal⟩
  · exact List.forall_mem_append.mpr ⟨hallowed, hallowed'⟩
  · rw [run_append, hrun]
    exact hmore

theorem CanReach.of_step {action : Action} (hallowed : allowed action)
    (hstep : step state action = some next) (hnext : CanReach step allowed goal next) :
    CanReach step allowed goal state := by
  obtain ⟨actions, final, hactions, hrun, hgoal⟩ := hnext
  refine ⟨action :: actions, final, List.forall_mem_cons.mpr ⟨hallowed, hactions⟩, ?_, hgoal⟩
  rw [run_cons, hstep]
  exact hrun

/-- While the goal or a lower rank can be reached, the goal can. -/
theorem canReach_of_rank [LT Rank] [WellFoundedLT Rank] (rank : State → Rank)
    (hprogress : ∀ s, middle s →
      CanReach step allowed (fun s' => goal s' ∨ middle s' ∧ rank s' < rank s) s)
    (hmiddle : middle state) : CanReach step allowed goal state := by
  induction hrank : rank state using WellFoundedLT.induction generalizing state with
  | _ bound ih =>
      apply (hprogress state hmiddle).trans
      intro reached hreached
      rcases hreached with hgoal | ⟨hmiddle, hlower⟩
      · exact .of_goal hgoal
      · exact ih (rank reached) (hrank ▸ hlower) hmiddle rfl

end SimpleLinkHost.Progress
