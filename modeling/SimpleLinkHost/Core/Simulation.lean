import SimpleLinkHost.Core.Transition

/-!
# Simulation and history

A diagram is a graph with labelled edges.  A system walks in a diagram if each of its
steps is a walk between what is seen of the two states; a run is then a walk as well.  A
run that ends inside of a region it did not begin in has entered that region a last time.
-/

namespace SimpleLinkHost.Simulation

open Transition

variable {State Action Node Label : Type*}

/-- A walk along edges, with their labels. -/
inductive Walk (edge : Node → Label → Node → Prop) : Node → List Label → Node → Prop
  | nil {node : Node} : Walk edge node [] node
  | cons {before middle after : Node} {label : Label} {labels : List Label}
      (hedge : edge before label middle) (hwalk : Walk edge middle labels after) :
      Walk edge before (label :: labels) after

section Walks

variable {edge : Node → Label → Node → Prop} {before middle after : Node}
variable {label : Label} {labels others : List Label}

theorem Walk.single (hedge : edge before label after) : Walk edge before [label] after :=
  .cons hedge .nil

theorem Walk.append (hwalk : Walk edge before labels middle)
    (hother : Walk edge middle others after) : Walk edge before (labels ++ others) after := by
  induction hwalk with
  | nil => exact hother
  | cons hedge _ ih => exact .cons hedge (ih hother)

end Walks

section Runs

variable {step : State → Action → Option State} {edge : Node → Label → Node → Prop}
variable {Inv : State → Prop} {view : State → Node} {label : State → Action → Option Label}
variable {state final : State} {actions : List Action}

/-- The labels of the steps of a run that have one. -/
def trace (step : State → Action → Option State) (label : State → Action → Option Label) :
    State → List Action → List Label
  | _, [] => []
  | state, action :: rest =>
      (label state action).toList ++
        match step state action with
        | none => []
        | some next => trace step label next rest

theorem trace_cons {action : Action} {rest : List Action} {next : State}
    (hstep : step state action = some next) :
    trace step label state (action :: rest) =
      (label state action).toList ++ trace step label next rest := by
  rw [trace, hstep]

/-- Labels that do not depend on the states are read off the actions. -/
theorem trace_eq_filterMap {label : Action → Option Label}
    (hrun : run step state actions = some final) :
    trace step (fun _ action => label action) state actions = actions.filterMap label := by
  induction actions generalizing state with
  | nil => rfl
  | cons action rest ih =>
      rw [run_cons, Option.bind_eq_some_iff] at hrun
      obtain ⟨next, hnext, hrest⟩ := hrun
      rw [trace_cons hnext, ih hrest]
      cases hlabel : label action <;> simp [hlabel]

/-- A run walks in the diagram if its steps do. -/
theorem walk_of_run
    (hkeeps : ∀ s a s', Inv s → step s a = some s' → Inv s')
    (hwalks : ∀ s a s', Inv s → step s a = some s' →
      Walk edge (view s) (label s a).toList (view s'))
    (hinit : Inv state) (hrun : run step state actions = some final) :
    Walk edge (view state) (trace step label state actions) (view final) := by
  induction actions generalizing state with
  | nil =>
      rw [run_nil, Option.some.injEq] at hrun
      rw [hrun]
      exact .nil
  | cons action rest ih =>
      rw [run_cons, Option.bind_eq_some_iff] at hrun
      obtain ⟨next, hnext, hrest⟩ := hrun
      rw [trace_cons hnext]
      exact (hwalks state action next hinit hnext).append
        (ih (hkeeps state action next hinit hnext) hrest)

end Runs

section History

variable {step : State → Action → Option State} {inside : State → Prop}
variable {state final : State} {actions : List Action}

/-- A run takes a step into a region, and stays inside from there on. -/
structure LastEntry (step : State → Action → Option State) (inside : State → Prop)
    (state : State) (earlier : List Action) (before : State) (action : Action) (after : State)
    (later : List Action) : Prop where
  reached : run step state earlier = some before
  outside : ¬inside before
  taken : step before action = some after
  stays : StatesSatisfy step inside after later

/-- A run that ends inside of a region it did not begin in has entered it a last time. -/
theorem exists_lastEntry (houtside : ¬inside state) (hinside : inside final)
    (hrun : run step state actions = some final) :
    ∃ earlier before action after later, actions = earlier ++ action :: later ∧
      LastEntry step inside state earlier before action after later := by
  induction actions using List.reverseRecOn generalizing final with
  | nil =>
      rw [run_nil, Option.some.injEq] at hrun
      exact absurd (hrun ▸ hinside) houtside
  | append_singleton actions action ih =>
      rw [run_concat, Option.bind_eq_some_iff] at hrun
      obtain ⟨middle, hmiddle, hlast⟩ := hrun
      by_cases hbefore : inside middle
      · obtain ⟨earlier, before, entry, after, later, hsplit, hentry⟩ := ih hbefore hmiddle
        have htaken : run step after later = some middle := by
          rw [hsplit, run_append, hentry.reached, Option.bind_some, run_cons, hentry.taken,
            Option.bind_some] at hmiddle
          exact hmiddle
        have hstays : StatesSatisfy step inside after (later ++ [action]) := by
          intro taken hprefix reached hreached
          rcases List.prefix_concat_iff.mp hprefix with hall | hearlier
          · rw [hall, run_concat, htaken, Option.bind_some, hlast, Option.some.injEq] at hreached
            exact hreached ▸ hinside
          · exact hentry.stays taken hearlier reached hreached
        refine ⟨earlier, before, entry, after, later ++ [action], ?_, hentry.reached,
          hentry.outside, hentry.taken, hstays⟩
        rw [hsplit, List.append_assoc, List.cons_append]
      · have hstays : StatesSatisfy step inside final [] := by
          intro taken hprefix reached hreached
          rw [List.prefix_nil.mp hprefix, run_nil, Option.some.injEq] at hreached
          exact hreached ▸ hinside
        exact ⟨actions, middle, action, final, [], rfl, hmiddle, hbefore, hlast, hstays⟩

theorem LastEntry.entered {earlier later : List Action} {before after : State} {action : Action}
    (hentry : LastEntry step inside state earlier before action after later) : inside after :=
  hentry.stays [] List.nil_prefix after rfl

/-- A step that would leave the region is not taken behind the entry. -/
theorem stepsSatisfy_of_stays {condition : State → Action → Prop}
    (hstays : StatesSatisfy step inside state actions)
    (hleaves : ∀ s a s', step s a = some s' → inside s → inside s' → condition s a) :
    StepsSatisfy step condition state actions := by
  intro before action hprefix reached next hreached hnext
  have hbefore : before <+: actions := (List.prefix_append before [action]).trans hprefix
  have hafter : run step state (before ++ [action]) = some next := by
    rw [run_concat, hreached]
    exact hnext
  exact hleaves reached action next hnext (hstays before hbefore reached hreached)
    (hstays _ hprefix next hafter)

end History

end SimpleLinkHost.Simulation
