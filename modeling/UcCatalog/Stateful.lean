/-
This file is about programs that change a state and may fail, and that keep the
changes made up to the failure: `EStateM`. It names no program. `zoom` runs a
program on a part of a larger state, and `Keeps` is the rule for an invariant of
the state: the invariant survives the program whether it returns or fails, and a
returned value has the property claimed of it. There is one rule for each way
programs are put together. `Simulates` is the rule for a model beside a row of
programs, and `Commutes` the one for two programs on states of which one is made
of the other.
-/

import Mathlib.Logic.Basic

namespace Stateful

variable {Fault State Part First Second Value Item : Type}

/-- The state a program leaves behind. -/
def after : EStateM.Result Fault State Value → State
  | .ok _ state => state
  | .error _ state => state

/-- What a program returned or failed with. -/
def outcome : EStateM.Result Fault State Value → Except Fault Value
  | .ok value _ => .ok value
  | .error fault _ => .error fault

/-- The result with an outcome and a state. -/
def finish (ending : Except Fault Value) (state : State) : EStateM.Result Fault State Value :=
  match ending with
  | .ok value => .ok value state
  | .error fault => .error fault state

@[simp] theorem after_finish (ending : Except Fault Value) (state : State) :
    after (finish ending state) = state := by
  cases ending <;> rfl

@[simp] theorem outcome_finish (ending : Except Fault Value) (state : State) :
    outcome (finish ending state) = ending := by
  cases ending <;> rfl

/-- A program that does not touch the state. -/
def lift : Except Fault Value → EStateM Fault State Value
  | .ok value => pure value
  | .error fault => throw fault

/-- Run a program on a part of the state. -/
def zoom (view : State → Part) (put : Part → State → State) (program : EStateM Fault Part Value) :
    EStateM Fault State Value := fun state =>
  match program (view state) with
  | .ok value part => .ok value (put part state)
  | .error fault part => .error fault (put part state)

/-! ### Running -/

section Running

variable (state : State)

@[simp] theorem run_bind (first : EStateM Fault State First)
    (next : First → EStateM Fault State Second) :
    (first >>= next) state =
      match first state with
      | .ok value between => next value between
      | .error fault between => .error fault between := rfl

@[simp] theorem run_pure (value : Value) :
    (pure value : EStateM Fault State Value) state = .ok value state := rfl

@[simp] theorem run_throw (fault : Fault) :
    (throw fault : EStateM Fault State Value) state = .error fault state := rfl

@[simp] theorem run_get : (get : EStateM Fault State State) state = .ok state state := rfl

@[simp] theorem run_modify (change : State → State) :
    (modify change : EStateM Fault State PUnit) state = .ok ⟨⟩ (change state) := rfl

@[simp] theorem run_lift (outcome : Except Fault Value) :
    (lift outcome : EStateM Fault State Value) state =
      match outcome with
      | .ok value => .ok value state
      | .error fault => .error fault state := by
  cases outcome <;> rfl

@[simp] theorem run_ite (condition : Prop) [Decidable condition]
    (first second : EStateM Fault State Value) :
    (if condition then first else second) state =
      if condition then first state else second state := by
  split <;> rfl

end Running

theorem bind_of_ok {first : EStateM Fault State First} {state between : State} {value : First}
    (next : First → EStateM Fault State Second) (returned : first state = .ok value between) :
    (first >>= next) state = next value between := by
  rw [run_bind, returned]

theorem bind_of_error {first : EStateM Fault State First} {state between : State} {fault : Fault}
    (next : First → EStateM Fault State Second) (failed : first state = .error fault between) :
    (first >>= next) state = .error fault between := by
  rw [run_bind, failed]

/-- Two programs in a row return only if both do. -/
theorem of_bind_ok {first : EStateM Fault State First} {next : First → EStateM Fault State Second}
    {state final : State} {value : Second} (returned : (first >>= next) state = .ok value final) :
    ∃ got between, first state = .ok got between ∧ next got between = .ok value final := by
  rw [run_bind] at returned
  cases run : first state with
  | ok got between =>
    rw [run] at returned
    exact ⟨got, between, rfl, returned⟩
  | error fault between =>
    rw [run] at returned
    exact nomatch returned

/-- A value that is wrapped when there is one. -/
theorem bind_of_finish {first : EStateM Fault State First} {state final : State}
    {ending : Except Fault First} (wrap : First → Second)
    (ended : first state = finish ending final) :
    (first >>= fun value => pure (wrap value)) state = finish (ending.map wrap) final := by
  cases ending with
  | ok value => exact bind_of_ok _ ended
  | error fault => exact bind_of_error _ ended

theorem zoom_of_ok {view : State → Part} {put : Part → State → State}
    {program : EStateM Fault Part Value} {state : State} {value : Value} {part : Part}
    (returned : program (view state) = .ok value part) :
    zoom view put program state = .ok value (put part state) := by
  rw [zoom, returned]

theorem zoom_of_error {view : State → Part} {put : Part → State → State}
    {program : EStateM Fault Part Value} {state : State} {fault : Fault} {part : Part}
    (failed : program (view state) = .error fault part) :
    zoom view put program state = .error fault (put part state) := by
  rw [zoom, failed]

theorem of_zoom_ok {view : State → Part} {put : Part → State → State}
    {program : EStateM Fault Part Value} {state final : State} {value : Value}
    (returned : zoom view put program state = .ok value final) :
    ∃ part, program (view state) = .ok value part := by
  rw [zoom] at returned
  cases run : program (view state) with
  | ok got part =>
    rw [run] at returned
    cases returned
    exact ⟨part, rfl⟩
  | error fault part =>
    rw [run] at returned
    exact nomatch returned

theorem zoom_of_finish {view : State → Part} {put : Part → State → State}
    {program : EStateM Fault Part Value} {state : State} {ending : Except Fault Value} {part : Part}
    (ended : program (view state) = finish ending part) :
    zoom view put program state = finish ending (put part state) := by
  cases ending with
  | ok value => exact zoom_of_ok ended
  | error fault => exact zoom_of_error ended

/-- The state a part's program leaves, whether it returned or failed. -/
theorem after_zoom_bind (wrap : First → Second) (view : State → Part) (put : Part → State → State)
    (program : EStateM Fault Part First) (state : State) :
    after ((zoom view put program >>= fun value => pure (wrap value)) state) =
      put (after (program (view state))) state := by
  cases run : program (view state) with
  | ok value part =>
    rw [bind_of_ok _ (zoom_of_ok run)]
    rfl
  | error fault part =>
    rw [bind_of_error _ (zoom_of_error run)]
    rfl

/-! ### Invariants -/

/-- From a state of the invariant the program ends in a state of the invariant, also when it
fails, and a value it returns is good. -/
structure Keeps (holds : State → Prop) (good : Value → Prop) (program : EStateM Fault State Value) :
    Prop where
  invariant : ∀ state, holds state → holds (after (program state))
  returned : ∀ state value final, holds state → program state = .ok value final → good value

section Keeps

variable {holds : State → Prop} {good : Value → Prop}

theorem Keeps.pure {value : Value} (isGood : good value) :
    Keeps holds good (Pure.pure value : EStateM Fault State Value) where
  invariant _ kept := kept
  returned := by
    rintro _ _ _ _ ⟨⟩
    exact isGood

theorem Keeps.throw (fault : Fault) :
    Keeps holds good (MonadExcept.throw fault : EStateM Fault State Value) where
  invariant _ kept := kept
  returned := by
    rintro _ _ _ _ ⟨⟩

theorem Keeps.lift {outcome : Except Fault Value}
    (isGood : ∀ value, outcome = .ok value → good value) :
    Keeps holds good (lift outcome : EStateM Fault State Value) := by
  cases outcome with
  | ok value => exact .pure (isGood value rfl)
  | error fault => exact .throw fault

theorem Keeps.get : Keeps holds holds (MonadState.get : EStateM Fault State State) where
  invariant _ kept := kept
  returned := by
    rintro state _ _ kept ⟨⟩
    exact kept

theorem Keeps.modify {change : State → State} (step : ∀ state, holds state → holds (change state)) :
    Keeps holds (fun _ => True) (modify change : EStateM Fault State PUnit) where
  invariant := step
  returned := fun _ _ _ _ _ => trivial

theorem Keeps.bind {between : First → Prop} {isGood : Second → Prop}
    {first : EStateM Fault State First} {next : First → EStateM Fault State Second}
    (keepsFirst : Keeps holds between first)
    (keepsNext : ∀ value, between value → Keeps holds isGood (next value)) :
    Keeps holds isGood (first >>= next) where
  invariant state kept := by
    have reached := keepsFirst.invariant state kept
    cases run : first state with
    | ok value middle =>
      rw [run] at reached
      rw [bind_of_ok next run]
      exact (keepsNext value (keepsFirst.returned state value middle kept run)).invariant _ reached
    | error fault middle =>
      rw [run] at reached
      rwa [bind_of_error next run]
  returned state value final kept same := by
    have reached := keepsFirst.invariant state kept
    cases run : first state with
    | ok firstValue middle =>
      rw [run] at reached
      rw [bind_of_ok next run] at same
      exact (keepsNext firstValue (keepsFirst.returned state firstValue middle kept run)).returned
        _ _ _ reached same
    | error fault middle =>
      rw [bind_of_error next run] at same
      exact nomatch same

theorem Keeps.weaken {better : Value → Prop} {program : EStateM Fault State Value}
    (keeps : Keeps holds better program) (implies : ∀ value, better value → good value) :
    Keeps holds good program where
  invariant := keeps.invariant
  returned state value final kept same := implies value (keeps.returned state value final kept same)

/-- A program that keeps an invariant of the part keeps what the whole says about the part. -/
theorem Keeps.zoom {partHolds : Part → Prop} {view : State → Part} {put : Part → State → State}
    {program : EStateM Fault Part Value} (keeps : Keeps partHolds good program)
    (viewed : ∀ state, holds state → partHolds (view state))
    (restored : ∀ state part, holds state → partHolds part → holds (put part state)) :
    Keeps holds good (zoom view put program) where
  invariant state kept := by
    have reached := keeps.invariant (view state) (viewed state kept)
    cases run : program (view state) with
    | ok value part =>
      rw [run] at reached
      rw [zoom_of_ok run]
      exact restored state part kept reached
    | error fault part =>
      rw [run] at reached
      rw [zoom_of_error run]
      exact restored state part kept reached
  returned state value final kept same := by
    cases run : program (view state) with
    | ok other part =>
      rw [zoom_of_ok run] at same
      cases same
      exact keeps.returned _ _ _ (viewed state kept) run
    | error fault part =>
      rw [zoom_of_error run] at same
      exact nomatch same

end Keeps

/-! ### Rows of programs -/

section Trace

variable {Action Model : Type}

/-- The outcomes of a row of actions, each run from the state the one before leaves, whether that
returned or failed, and the state at the end. -/
def trace (run : Action → EStateM Fault State Value) :
    State → List Action → List (Except Fault Value) × State
  | state, [] => ([], state)
  | state, action :: actions =>
    let rest := trace run (after (run action state)) actions
    (outcome (run action state) :: rest.1, rest.2)

/-- The same for a model that has an answer and a next state for every action. -/
def modelTrace (step : Model → Action → Except Fault Value × Model) :
    Model → List Action → List (Except Fault Value) × Model
  | model, [] => ([], model)
  | model, action :: actions =>
    let rest := modelTrace step (step model action).2 actions
    ((step model action).1 :: rest.1, rest.2)

theorem modelTrace_append (step : Model → Action → Except Fault Value × Model) (model : Model)
    (earlier later : List Action) :
    (modelTrace step model (earlier ++ later)).2 =
      (modelTrace step (modelTrace step model earlier).2 later).2 := by
  induction earlier generalizing model with
  | nil => rfl
  | cons action earlier inductionHypothesis => exact inductionHypothesis (step model action).2

/-- From the state of a sound model every action ends as the model's step does, in the state of
the next model, and that is sound again. -/
structure Simulates (run : Action → EStateM Fault State Value)
    (step : Model → Action → Except Fault Value × Model) (view : Model → State)
    (sound : Model → Prop) : Prop where
  ends : ∀ model action, sound model →
    run action (view model) = finish (step model action).1 (view (step model action).2)
  keeps : ∀ model action, sound model → sound (step model action).2

/-- A row of actions then has the outcomes of the model and leaves its state. -/
theorem Simulates.trace {run : Action → EStateM Fault State Value}
    {step : Model → Action → Except Fault Value × Model} {view : Model → State}
    {sound : Model → Prop} (simulates : Simulates run step view sound) (actions : List Action)
    {model : Model} (isSound : sound model) :
    Stateful.trace run (view model) actions =
        ((modelTrace step model actions).1, view (modelTrace step model actions).2) ∧
      sound (modelTrace step model actions).2 := by
  induction actions generalizing model with
  | nil => exact ⟨rfl, isSound⟩
  | cons action actions inductionHypothesis =>
    obtain ⟨same, stillSound⟩ := inductionHypothesis (simulates.keeps model action isSound)
    refine ⟨?_, stillSound⟩
    rw [Stateful.trace, simulates.ends model action isSound, after_finish, outcome_finish, same]
    rfl

end Trace

/-! ### Faults -/

/-- The program fails with allowed faults only. -/
def FailsBy (allowed : Fault → Prop) (program : EStateM Fault State Value) : Prop :=
  ∀ state fault final, program state = .error fault final → allowed fault

section FailsBy

variable {allowed : Fault → Prop}

theorem FailsBy.get : FailsBy allowed (MonadState.get : EStateM Fault State State) := by
  rintro _ _ _ ⟨⟩

theorem FailsBy.modify (change : State → State) :
    FailsBy allowed (modify change : EStateM Fault State PUnit) := by
  rintro _ _ _ ⟨⟩

theorem FailsBy.pure (value : Value) :
    FailsBy allowed (Pure.pure value : EStateM Fault State Value) := by
  rintro _ _ _ ⟨⟩

theorem FailsBy.throw {fault : Fault} (isAllowed : allowed fault) :
    FailsBy allowed (MonadExcept.throw fault : EStateM Fault State Value) := by
  rintro _ _ _ ⟨⟩
  exact isAllowed

theorem FailsBy.lift {outcome : Except Fault Value}
    (all : ∀ fault, outcome = .error fault → allowed fault) :
    FailsBy allowed (lift outcome : EStateM Fault State Value) := by
  cases outcome with
  | ok value => exact .pure value
  | error fault => exact .throw (all fault rfl)

theorem FailsBy.bind {first : EStateM Fault State First}
    {next : First → EStateM Fault State Second} (failsFirst : FailsBy allowed first)
    (failsNext : ∀ value, FailsBy allowed (next value)) : FailsBy allowed (first >>= next) := by
  intro state fault final failed
  cases run : first state with
  | ok value between =>
    rw [bind_of_ok next run] at failed
    exact failsNext value _ _ _ failed
  | error firstFault between =>
    rw [bind_of_error next run] at failed
    cases failed
    exact failsFirst _ _ _ run

theorem FailsBy.zoom {view : State → Part} {put : Part → State → State}
    {program : EStateM Fault Part Value} (fails : FailsBy allowed program) :
    FailsBy allowed (zoom view put program) := by
  intro state fault final failed
  cases run : program (view state) with
  | ok value part =>
    rw [zoom_of_ok run] at failed
    exact nomatch failed
  | error partFault part =>
    rw [zoom_of_error run] at failed
    cases failed
    exact fails _ _ _ run

end FailsBy

/-! ### Programs under a change of the state -/

/-- From the image of a state the other program ends as the program does from the state, in the
image of the state that one leaves. -/
def Commutes {Target : Type} (image : State → Target) (program : EStateM Fault State Value)
    (other : EStateM Fault Target Value) : Prop :=
  ∀ state, other (image state) = finish (outcome (program state)) (image (after (program state)))

section Commutes

variable {Target PartTarget OtherFirst : Type} {image : State → Target}

theorem Commutes.pure (value : Value) :
    Commutes image (Pure.pure value : EStateM Fault State Value) (Pure.pure value) := fun _ => rfl

theorem Commutes.throw (fault : Fault) :
    Commutes image (MonadExcept.throw fault : EStateM Fault State Value)
      (MonadExcept.throw fault) := fun _ => rfl

theorem Commutes.lift (ending : Except Fault Value) :
    Commutes image (lift ending : EStateM Fault State Value) (Stateful.lift ending) := by
  cases ending with
  | ok value => exact .pure value
  | error fault => exact .throw fault

theorem Commutes.modify {change : State → State} {otherChange : Target → Target}
    (same : ∀ state, otherChange (image state) = image (change state)) :
    Commutes image (modify change : EStateM Fault State PUnit) (modify otherChange) :=
  fun state => congrArg (EStateM.Result.ok PUnit.unit) (same state)

theorem Commutes.bind {first : EStateM Fault State First} {other : EStateM Fault Target First}
    {next : First → EStateM Fault State Second} {otherNext : First → EStateM Fault Target Second}
    (commutesFirst : Commutes image first other)
    (commutesNext : ∀ value, Commutes image (next value) (otherNext value)) :
    Commutes image (first >>= next) (other >>= otherNext) := by
  intro state
  have ended := commutesFirst state
  cases run : first state with
  | ok value between =>
    rw [run] at ended
    rw [bind_of_ok next run, bind_of_ok otherNext ended]
    exact commutesNext value between
  | error fault between =>
    rw [run] at ended
    rw [bind_of_error next run, bind_of_error otherNext ended]
    rfl

/-- Programs that go on from the state they find. -/
theorem Commutes.get_bind {next : State → EStateM Fault State Value}
    {otherNext : Target → EStateM Fault Target Value}
    (commutesNext : ∀ state, Commutes image (next state) (otherNext (image state))) :
    Commutes image (get >>= next) (get >>= otherNext) := fun state => commutesNext state state

/-- Programs that go on from values of which one is an image of the other. -/
theorem Commutes.lift_bind {ending : Except Fault First} {change : First → OtherFirst}
    {next : First → EStateM Fault State Value} {otherNext : OtherFirst → EStateM Fault Target Value}
    (commutesNext : ∀ value, Commutes image (next value) (otherNext (change value))) :
    Commutes image (Stateful.lift ending >>= next)
      (Stateful.lift (ending.map change) >>= otherNext) := by
  cases ending with
  | ok value => exact commutesNext value
  | error fault => exact .throw fault

theorem Commutes.zoom {partImage : Part → PartTarget} {view : State → Part}
    {put : Part → State → State} {otherView : Target → PartTarget}
    {otherPut : PartTarget → Target → Target} {program : EStateM Fault Part Value}
    {other : EStateM Fault PartTarget Value} (commutes : Commutes partImage program other)
    (viewed : ∀ state, otherView (image state) = partImage (view state))
    (restored : ∀ part state, otherPut (partImage part) (image state) = image (put part state)) :
    Commutes image (Stateful.zoom view put program) (Stateful.zoom otherView otherPut other) := by
  intro state
  have ended := commutes (view state)
  rw [← viewed] at ended
  rw [zoom_of_finish ended, restored]
  cases run : program (view state) with
  | ok value part =>
    rw [zoom_of_ok run]
    rfl
  | error fault part =>
    rw [zoom_of_error run]
    rfl

theorem Commutes.forM {each : Item → EStateM Fault State PUnit}
    {other : Item → EStateM Fault Target PUnit}
    (commutes : ∀ item, Commutes image (each item) (other item)) (items : List Item) :
    Commutes image (forM items each) (ForM.forM items other) := by
  induction items with
  | nil => exact .pure _
  | cons item items inductionHypothesis =>
    rw [List.forM_cons, List.forM_cons]
    exact .bind (commutes item) fun _ => inductionHypothesis

/-- Rows of actions end alike, each in turn. -/
theorem Commutes.trace {Action OtherAction : Type} {run : Action → EStateM Fault State Value}
    {otherRun : OtherAction → EStateM Fault Target Value} {rename : Action → OtherAction}
    (commutes : ∀ action, Commutes image (run action) (otherRun (rename action)))
    (state : State) (actions : List Action) :
    Stateful.trace otherRun (image state) (actions.map rename) =
      ((Stateful.trace run state actions).1, image (Stateful.trace run state actions).2) := by
  induction actions generalizing state with
  | nil => rfl
  | cons action actions inductionHypothesis =>
    rw [List.map_cons, Stateful.trace, commutes action state, after_finish, outcome_finish,
      inductionHypothesis]
    rfl

end Commutes

end Stateful
