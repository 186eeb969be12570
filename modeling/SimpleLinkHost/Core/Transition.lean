import Mathlib.Data.List.Induction
import Mathlib.Data.List.Infix

/-!
# Labelled transition systems

A system is a partial step function: `step s a = none` when action `a` is not
enabled in state `s`, or never completes there.  Properties of whole runs are
reduced to one step here, once: an invariant rule, and an exact rule for
properties that hold along a run precisely when every step of it meets a side
condition.
-/

namespace SimpleLinkHost.Transition

variable {State Action : Type*} (step : State → Action → Option State)

/-- Execute a list of actions; the run exists only if every step does. -/
def run : State → List Action → Option State
  | state, [] => some state
  | state, action :: rest => (step state action).bind fun next => run next rest

/-- `property` holds in every state the run passes through, the first and the
last one included. -/
def StatesSatisfy (property : State → Prop) (state : State)
    (actions : List Action) : Prop :=
  ∀ before, before <+: actions → ∀ reached, run step state before = some reached →
    property reached

/-- Every step that the run takes meets `condition`, which is judged on the
state in front of the step. -/
def StepsSatisfy (condition : State → Action → Prop) (state : State)
    (actions : List Action) : Prop :=
  ∀ before action, before ++ [action] <+: actions →
    ∀ reached next, run step state before = some reached →
      step reached action = some next → condition reached action

/-- Every step that the run attempts meets `condition`, the last one even if it does not
complete. -/
def AttemptsSatisfy (condition : State → Action → Prop) (state : State)
    (actions : List Action) : Prop :=
  ∀ before action, before ++ [action] <+: actions →
    ∀ reached, run step state before = some reached → condition reached action

variable {step}
variable {Inv property : State → Prop} {condition : State → Action → Prop}
variable {state final : State} {actions : List Action}

@[simp]
theorem run_nil : run step state [] = some state := rfl

theorem run_cons (action : Action) (rest : List Action) :
    run step state (action :: rest) =
      (step state action).bind fun next => run step next rest := rfl

theorem run_singleton (action : Action) : run step state [action] = step state action := by
  simp [run_cons]

theorem run_append (before after : List Action) :
    run step state (before ++ after) =
      (run step state before).bind fun middle => run step middle after := by
  induction before generalizing state with
  | nil => rfl
  | cons action rest ih =>
      rw [List.cons_append, run_cons, run_cons, Option.bind_assoc]
      congr 1
      funext next
      exact ih

theorem run_concat (before : List Action) (action : Action) :
    run step state (before ++ [action]) =
      (run step state before).bind fun middle => step middle action := by
  rw [run_append]
  congr 1
  funext middle
  simp [run_cons]

/-- The invariant rule: what one step preserves, a run preserves. -/
theorem run_invariant
    (hstep : ∀ s a s', Inv s → step s a = some s' → Inv s')
    (hinit : Inv state) (hrun : run step state actions = some final) :
    Inv final := by
  induction actions generalizing state with
  | nil =>
      rw [run_nil, Option.some.injEq] at hrun
      exact hrun ▸ hinit
  | cons action rest ih =>
      rw [run_cons, Option.bind_eq_some_iff] at hrun
      obtain ⟨next, hnext, hrest⟩ := hrun
      exact ih (hstep _ _ _ hinit hnext) hrest

/-- The invariant rule for runs all of whose steps meet a condition. -/
theorem states_of_steps
    (hstep : ∀ s a s', property s → condition s a → step s a = some s' → property s')
    (hinit : property state)
    (hsteps : StepsSatisfy step condition state actions) :
    StatesSatisfy step property state actions := by
  intro before
  induction before using List.reverseRecOn with
  | nil =>
      intro _ reached hreached
      rw [run_nil, Option.some.injEq] at hreached
      exact hreached ▸ hinit
  | append_singleton before action ih =>
      intro hprefix reached hreached
      rw [run_concat, Option.bind_eq_some_iff] at hreached
      obtain ⟨middle, hmiddle, hlast⟩ := hreached
      have hbefore : before <+: actions :=
        (List.prefix_append before [action]).trans hprefix
      exact hstep _ _ _ (ih hbefore middle hmiddle)
        (hsteps before action hprefix middle reached hmiddle hlast) hlast

/-- If, wherever the property holds, a step keeps it exactly under the
condition, then it holds along a run exactly when every step of the run meets
the condition.  What the run's states satisfy anyway may be used. -/
theorem states_iff_steps_of_states
    (hstates : StatesSatisfy step Inv state actions)
    (hstep : ∀ s a s', Inv s → property s → step s a = some s' →
      (property s' ↔ condition s a))
    (hproperty : property state) :
    StatesSatisfy step property state actions ↔
      StepsSatisfy step condition state actions := by
  constructor
  · intro hholds before action hprefix reached next hreached hnext
    have hbefore : before <+: actions :=
      (List.prefix_append before [action]).trans hprefix
    have hrun : run step state (before ++ [action]) = some next := by
      rw [run_concat, hreached]
      exact hnext
    exact (hstep _ _ _ (hstates before hbefore reached hreached)
      (hholds before hbefore reached hreached) hnext).mp
        (hholds _ hprefix next hrun)
  · intro hsteps before
    induction before using List.reverseRecOn with
    | nil =>
        intro _ reached hreached
        rw [run_nil, Option.some.injEq] at hreached
        exact hreached ▸ hproperty
    | append_singleton before action ih =>
        intro hprefix next hrun
        rw [run_concat, Option.bind_eq_some_iff] at hrun
        obtain ⟨reached, hreached, hnext⟩ := hrun
        have hbefore : before <+: actions :=
          (List.prefix_append before [action]).trans hprefix
        exact (hstep _ _ _ (hstates before hbefore reached hreached)
          (ih hbefore reached hreached) hnext).mpr
            (hsteps before action hprefix reached next hreached hnext)

/-- The exact rule, with an invariant. -/
theorem states_iff_steps
    (hinv : ∀ s a s', Inv s → step s a = some s' → Inv s')
    (hstep : ∀ s a s', Inv s → property s → step s a = some s' →
      (property s' ↔ condition s a))
    (hinit : Inv state) (hproperty : property state) :
    StatesSatisfy step property state actions ↔
      StepsSatisfy step condition state actions :=
  states_iff_steps_of_states (fun _ _ _ hreached => run_invariant hinv hinit hreached) hstep
    hproperty

/-- The exact rule for runs of allowed actions, with an invariant that holds as long as the
property does. -/
theorem states_iff_steps_while {allowed : Action → Prop}
    (hstep : ∀ s a s', allowed a → Inv s → property s → step s a = some s' →
      (property s' ↔ condition s a) ∧ (property s' → Inv s'))
    (hallowed : ∀ a ∈ actions, allowed a) (hinit : Inv state) (hproperty : property state) :
    StatesSatisfy step property state actions ↔
      StepsSatisfy step condition state actions := by
  have hmem {before : List Action} {action : Action} (htaken : before ++ [action] <+: actions) :
      allowed action :=
    hallowed action (htaken.subset (List.mem_append_right before (List.mem_singleton_self _)))
  constructor
  · intro hholds
    have hleads : StepsSatisfy step
        (fun s a => allowed a ∧ ∀ s', step s a = some s' → property s') state actions := by
      intro before action hprefix reached _ hreached _
      refine ⟨hmem hprefix, fun next hnext => hholds _ hprefix next ?_⟩
      rw [run_concat, hreached]
      exact hnext
    have hboth : StatesSatisfy step (fun s => Inv s ∧ property s) state actions := by
      refine states_of_steps (fun s a s' hboth hleads hnext => ?_) ⟨hinit, hproperty⟩ hleads
      have hnext' := hleads.2 s' hnext
      exact ⟨(hstep s a s' hleads.1 hboth.1 hboth.2 hnext).2 hnext', hnext'⟩
    intro before action hprefix reached next hreached hnext
    obtain ⟨hinv, hprop⟩ :=
      hboth before ((List.prefix_append before [action]).trans hprefix) reached hreached
    have hleads' := hleads before action hprefix reached next hreached hnext
    exact (hstep reached action next hleads'.1 hinv hprop hnext).1.mp (hleads'.2 next hnext)
  · intro hsteps
    have hboth : StepsSatisfy step (fun s a => allowed a ∧ condition s a) state actions :=
      fun before action hprefix reached next hreached hnext =>
        ⟨hmem hprefix, hsteps before action hprefix reached next hreached hnext⟩
    have hstates : StatesSatisfy step (fun s => Inv s ∧ property s) state actions := by
      refine states_of_steps (fun s a s' hstates hboth hnext => ?_) ⟨hinit, hproperty⟩ hboth
      obtain ⟨hiff, hinv⟩ := hstep s a s' hboth.1 hstates.1 hstates.2 hnext
      exact ⟨hinv (hiff.mpr hboth.2), hiff.mpr hboth.2⟩
    exact fun before hprefix reached hreached => (hstates before hprefix reached hreached).2

section Congr

variable {other : State → Action → Prop}

/-- Conditions that agree wherever the invariant holds are met by the same attempts. -/
theorem attemptsSatisfy_congr
    (hinv : ∀ s a s', Inv s → step s a = some s' → Inv s') (hinit : Inv state)
    (hiff : ∀ s a, Inv s → (condition s a ↔ other s a)) :
    AttemptsSatisfy step condition state actions ↔
      AttemptsSatisfy step other state actions := by
  constructor
  · intro hattempts before action hprefix reached hreached
    exact (hiff reached action (run_invariant hinv hinit hreached)).mp
      (hattempts before action hprefix reached hreached)
  · intro hattempts before action hprefix reached hreached
    exact (hiff reached action (run_invariant hinv hinit hreached)).mpr
      (hattempts before action hprefix reached hreached)

/-- Conditions that agree wherever the invariant holds are met by the same steps. -/
theorem stepsSatisfy_congr
    (hinv : ∀ s a s', Inv s → step s a = some s' → Inv s') (hinit : Inv state)
    (hiff : ∀ s a s', Inv s → step s a = some s' → (condition s a ↔ other s a)) :
    StepsSatisfy step condition state actions ↔ StepsSatisfy step other state actions := by
  constructor
  · intro hsteps before action hprefix reached next hreached hnext
    exact (hiff reached action next (run_invariant hinv hinit hreached) hnext).mp
      (hsteps before action hprefix reached next hreached hnext)
  · intro hsteps before action hprefix reached next hreached hnext
    exact (hiff reached action next (run_invariant hinv hinit hreached) hnext).mpr
      (hsteps before action hprefix reached next hreached hnext)

end Congr

section Check

variable (step)

/-- A check of every step of a run, by running it. -/
def stepsCheck (check : State → Action → Bool) : State → List Action → Bool
  | _, [] => true
  | state, action :: rest =>
      check state action && (step state action).all fun next => stepsCheck check next rest

variable {step}

theorem attemptsSatisfy_of_check (check : State → Action → Bool)
    (hcheck : ∀ state action, check state action = true → condition state action)
    (hsteps : stepsCheck step check state actions = true) :
    AttemptsSatisfy step condition state actions := by
  induction actions generalizing state with
  | nil =>
      intro before action hprefix
      simp at hprefix
  | cons first rest ih =>
      rw [stepsCheck, Bool.and_eq_true] at hsteps
      intro before last hprefix reached hreached
      cases before with
      | nil =>
          rw [run_nil, Option.some.injEq] at hreached
          have hlast : last = first := by simpa using hprefix
          rw [hlast, ← hreached]
          exact hcheck state first hsteps.1
      | cons other before =>
          rw [List.cons_append, List.cons_prefix_cons] at hprefix
          obtain ⟨hother, hprefix⟩ := hprefix
          rw [hother, run_cons, Option.bind_eq_some_iff] at hreached
          obtain ⟨next, hnext, hreached⟩ := hreached
          have hrest : stepsCheck step check next rest = true := by
            have hall := hsteps.2
            rw [hnext] at hall
            exact hall
          exact ih hrest before last hprefix reached hreached

theorem stepsSatisfy_of_check (check : State → Action → Bool)
    (hcheck : ∀ state action, check state action = true → condition state action)
    (hsteps : stepsCheck step check state actions = true) :
    StepsSatisfy step condition state actions :=
  fun before action hprefix reached _ hreached _ =>
    attemptsSatisfy_of_check check hcheck hsteps before action hprefix reached hreached

variable (step) in
/-- A check of every state of a run, by running it. -/
def statesCheck (check : State → Bool) : State → List Action → Bool
  | state, [] => check state
  | state, action :: rest =>
      check state && (step state action).all fun next => statesCheck check next rest

theorem statesSatisfy_of_check (check : State → Bool)
    (hcheck : ∀ state, check state = true → property state)
    (hstates : statesCheck step check state actions = true) :
    StatesSatisfy step property state actions := by
  induction actions generalizing state with
  | nil =>
      intro before hprefix reached hreached
      rw [List.prefix_nil.mp hprefix, run_nil, Option.some.injEq] at hreached
      exact hreached ▸ hcheck state hstates
  | cons first rest ih =>
      rw [statesCheck, Bool.and_eq_true] at hstates
      intro before hprefix reached hreached
      cases before with
      | nil =>
          rw [run_nil, Option.some.injEq] at hreached
          exact hreached ▸ hcheck state hstates.1
      | cons action before =>
          obtain ⟨hfirst, hbefore⟩ := List.cons_prefix_cons.mp hprefix
          rw [hfirst, run_cons, Option.bind_eq_some_iff] at hreached
          obtain ⟨next, hnext, hreached⟩ := hreached
          have hrest := hstates.2
          rw [hnext] at hrest
          exact ih hrest before hbefore reached hreached

/-- A run that ends where the property fails. -/
theorem not_statesSatisfy_of_any (fails : State → Bool)
    (hfails : ∀ state, fails state = true → ¬property state)
    (hany : (run step state actions).any fails = true) :
    ¬StatesSatisfy step property state actions := by
  intro hstates
  rw [Option.any_eq_true] at hany
  obtain ⟨reached, hreached, hfail⟩ := hany
  exact hfails reached hfail (hstates actions (List.prefix_refl actions) reached hreached)

/-- A run that takes its last step where the condition fails. -/
theorem not_stepsSatisfy_of_any {last : Action} (fails : State → Bool)
    (hfails : ∀ state, fails state = true → ¬condition state last)
    (hany : (run step state actions).any
      (fun reached => fails reached && (step reached last).isSome) = true) :
    ¬StepsSatisfy step condition state (actions ++ [last]) := by
  intro hsteps
  rw [Option.any_eq_true] at hany
  obtain ⟨reached, hreached, hboth⟩ := hany
  rw [Bool.and_eq_true, Option.isSome_iff_exists] at hboth
  obtain ⟨hfail, next, hnext⟩ := hboth
  exact hfails reached hfail
    (hsteps actions last (List.prefix_refl _) reached next hreached hnext)

/-- A run that attempts its last step where the condition fails. -/
theorem not_attemptsSatisfy_of_any {last : Action} (fails : State → Bool)
    (hfails : ∀ state, fails state = true → ¬condition state last)
    (hany : (run step state actions).any fails = true) :
    ¬AttemptsSatisfy step condition state (actions ++ [last]) := by
  intro hattempts
  rw [Option.any_eq_true] at hany
  obtain ⟨reached, hreached, hfail⟩ := hany
  exact hfails reached hfail (hattempts actions last (List.prefix_refl _) reached hreached)

end Check

end SimpleLinkHost.Transition
