/-
This file is about systems that take labelled steps. It names no program.
`Reaches` restricts a run to the steps a condition allows, and `Reaches.invariant`
is the one induction over runs: what holds at the start and is kept by every
allowed step holds in every state reached. `Reaches.view` shows the runs of one
system as runs of another. Where an action has one outcome, a run is the fold over
its actions, and `Path` is a run with its actions where it has not.
-/

import Mathlib.Data.List.Induction

namespace Transition

variable {State Action : Type}

/-- A system of labelled steps. -/
structure System (State Action : Type) where
  start : State → Prop
  step : State → Action → State → Prop

/-- The states of the runs whose steps are all allowed. -/
inductive Reaches (system : System State Action) (allowed : State → Action → Prop) : State → Prop
  | start {state : State} (starts : system.start state) : Reaches system allowed state
  | step {state next : State} (reached : Reaches system allowed state) (action : Action)
      (permitted : allowed state action) (steps : system.step state action next) :
      Reaches system allowed next

variable {system : System State Action} {allowed : State → Action → Prop}

/-- What starts and is kept by every allowed step holds in every state reached. -/
theorem Reaches.invariant {holds : State → Prop}
    (starts : ∀ state, system.start state → holds state)
    (keeps : ∀ state action next, holds state → allowed state action →
      system.step state action next → holds next) {state : State}
    (reached : Reaches system allowed state) : holds state := by
  induction reached with
  | start started => exact starts _ started
  | step _ action permitted steps inductionHypothesis =>
    exact keeps _ action _ inductionHypothesis permitted steps

/-- A view of the states that takes every allowed step to an allowed step of another system, or to
none, takes the states that are reached to states that are reached. -/
theorem Reaches.view {Viewed ViewedAction : Type} {other : System Viewed ViewedAction}
    {permitted : Viewed → ViewedAction → Prop} (view : State → Viewed)
    (starts : ∀ state, system.start state → other.start (view state))
    (follows : ∀ state action next, Reaches system allowed state → allowed state action →
      system.step state action next → view next = view state ∨
        ∃ viewed, permitted (view state) viewed ∧ other.step (view state) viewed (view next))
    {state : State} (reached : Reaches system allowed state) :
    Reaches other permitted (view state) := by
  induction reached with
  | start started => exact .start (starts _ started)
  | step before action isAllowed steps inductionHypothesis =>
    rcases follows _ action _ before isAllowed steps with same | ⟨viewed, isPermitted, viewedStep⟩
    · rw [same]
      exact inductionHypothesis
    · exact .step inductionHypothesis viewed isPermitted viewedStep

/-- The runs from one state to another, by the actions that are taken. -/
inductive Path (system : System State Action) : State → List Action → State → Prop
  | nil (state : State) : Path system state [] state
  | cons {state middle final : State} {action : Action} {actions : List Action}
      (steps : system.step state action middle) (path : Path system middle actions final) :
      Path system state (action :: actions) final

/-- What every step of a path keeps holds at its end. -/
theorem Path.invariant {holds : State → Prop} {permitted : Action → Prop} {state final : State}
    {actions : List Action} (path : Path system state actions final)
    (keeps : ∀ state action next, holds state → permitted action →
      system.step state action next → holds next)
    (each : ∀ action ∈ actions, permitted action) (starts : holds state) : holds final := by
  induction path with
  | nil => exact starts
  | cons steps _ inductionHypothesis =>
    have first := each _ List.mem_cons_self
    exact inductionHypothesis (fun action member => each action (List.mem_cons_of_mem _ member))
      (keeps _ _ _ starts first steps)

/-- An action that spends what no step gives back, and that is not taken without it, is taken once
at most. -/
theorem Path.once {spent : State → Prop} {permitted : Action → Prop} {spends : Action → Bool}
    (keeps : ∀ state action next, spent state → permitted action →
      system.step state action next → spends action = false ∧ spent next)
    (first : ∀ state action next, spends action = true → system.step state action next →
      spent next) {state final : State} {actions : List Action}
    (path : Path system state actions final) (each : ∀ action ∈ actions, permitted action) :
    actions.countP spends ≤ 1 ∧ (spent state → actions.countP spends = 0) := by
  induction path with
  | nil => exact ⟨Nat.zero_le _, fun _ => rfl⟩
  | @cons state middle final action actions steps path inductionHypothesis =>
    obtain ⟨atMost, none⟩ := inductionHypothesis fun other member =>
      each other (List.mem_cons_of_mem _ member)
    refine ⟨?_, fun isSpent => ?_⟩
    · cases spending : spends action with
      | true =>
        have once : (action :: actions).countP spends = 1 := by
          rw [List.countP_cons_of_pos spending, none (first _ _ _ spending steps)]
        exact Nat.le_of_eq once
      | false => rwa [List.countP_cons_of_neg (by rw [spending]; decide)]
    · obtain ⟨notSpending, still⟩ := keeps _ _ _ isSpent (each _ List.mem_cons_self) steps
      rw [List.countP_cons_of_neg (by rw [notSpending]; decide)]
      exact none still

/-- A row of actions that are allowed where they are taken leads to a state that is reached. -/
theorem Reaches.foldl {next : State → Action → State}
    (steps : ∀ state action, system.step state action (next state action)) {state : State}
    (reached : Reaches system allowed state) {actions : List Action}
    (permitted : ∀ taken action, taken ++ [action] <+: actions →
      allowed (taken.foldl next state) action) :
    Reaches system allowed (actions.foldl next state) := by
  induction actions using List.reverseRecOn with
  | nil => exact reached
  | append_singleton earlier action inductionHypothesis =>
    rw [List.foldl_append]
    have before := inductionHypothesis fun taken other here =>
      permitted taken other (here.trans (List.prefix_append _ _))
    exact .step before action (permitted earlier action (List.prefix_rfl)) (steps _ action)

end Transition
