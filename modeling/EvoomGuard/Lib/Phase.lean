import Mathlib.Logic.Basic

/-!
Programs that thread a state and may leave early, and rules on how they end. A program that
leaves early keeps the state it left in.
-/

namespace EvoomGuard.Lib

variable {Exit State Value Next : Type}

abbrev Phase (Exit State Value : Type) := EStateM Exit State Value

namespace Phase

/-- Leaves early when there is something to leave with. -/
def refuse : Option Exit → Phase Exit State Unit
  | none => pure ()
  | some exit => throw exit

def ofPair (run : State → State × Except Exit Value) : Phase Exit State Value := fun before =>
  match run before with
  | (after, .ok value) => .ok value after
  | (after, .error exit) => .error exit after

/-- The state and the result of a program whose two ways of ending carry the same value. -/
def finish (program : Phase Value State Value) (before : State) : State × Value :=
  match program before with
  | .ok value after => (after, value)
  | .error exit after => (after, exit)

/-- Every way in which the program ends from the state is one that the two relations allow. -/
def Ends (program : Phase Exit State Value) (before : State) (exits : State → Exit → Prop)
    (returns : State → Value → Prop) : Prop :=
  match program before with
  | .ok value after => returns after value
  | .error exit after => exits after exit

theorem ends_pure (value : Value) (before : State) (exits : State → Exit → Prop)
    (returns : State → Value → Prop) (returned : returns before value) :
    Ends (pure value) before exits returns := returned

theorem ends_throw (exit : Exit) (before : State) (exits : State → Exit → Prop)
    (returns : State → Value → Prop) (left : exits before exit) :
    Ends (throw exit) before exits returns := left

theorem ends_bind (program : Phase Exit State Value) (continuation : Value → Phase Exit State Next)
    (before : State) (exits : State → Exit → Prop) (between : State → Value → Prop)
    (returns : State → Next → Prop) (first : Ends program before exits between)
    (rest : ∀ value state, between state value → Ends (continuation value) state exits returns) :
    Ends (program >>= continuation) before exits returns := by
  unfold Ends at first ⊢
  simp only [bind, EStateM.bind]
  cases ran : program before with
  | ok value after =>
    rw [ran] at first
    exact rest value after first
  | error exit after =>
    rw [ran] at first
    exact first

theorem ends_try (program : Phase Exit State Value) (handler : Exit → Phase Exit State Value)
    (before : State) (exits between : State → Exit → Prop) (returns : State → Value → Prop)
    (first : Ends program before between returns)
    (rest : ∀ exit state, between state exit → Ends (handler exit) state exits returns) :
    Ends (tryCatch program handler) before exits returns := by
  unfold Ends at first ⊢
  simp only [tryCatch, tryCatchThe, MonadExceptOf.tryCatch]
  unfold EStateM.tryCatch
  cases ran : program before with
  | ok value after =>
    rw [ran] at first
    exact first
  | error exit after =>
    rw [ran] at first
    exact rest exit after first

theorem ends_refuse (refusal : Option Exit) (before : State) (exits : State → Exit → Prop)
    (returns : State → Unit → Prop) (refused : ∀ exit, refusal = some exit → exits before exit)
    (passed : refusal = none → returns before ()) :
    Ends (refuse refusal) before exits returns := by
  cases refusal with
  | none => exact passed rfl
  | some exit => exact refused exit rfl

theorem ends_refuse_bind (refusal : Option Exit) (continuation : Unit → Phase Exit State Next)
    (before : State) (exits : State → Exit → Prop) (returns : State → Next → Prop)
    (refused : ∀ exit, refusal = some exit → exits before exit)
    (passed : refusal = none → Ends (continuation ()) before exits returns) :
    Ends (refuse refusal >>= continuation) before exits returns := by
  cases refusal with
  | none => exact passed rfl
  | some exit => exact refused exit rfl

theorem ends_modify_bind (change : State → State) (continuation : Unit → Phase Exit State Next)
    (before : State) (exits : State → Exit → Prop) (returns : State → Next → Prop)
    (rest : Ends (continuation ()) (change before) exits returns) :
    Ends (modify change >>= continuation) before exits returns := rest

theorem ends_modify_get_bind (change : State → Value × State)
    (continuation : Value → Phase Exit State Next) (before : State) (exits : State → Exit → Prop)
    (returns : State → Next → Prop)
    (rest : Ends (continuation (change before).1) (change before).2 exits returns) :
    Ends (modifyGet change >>= continuation) before exits returns := rest

theorem ends_of_pair (run : State → State × Except Exit Value) (before : State)
    (exits : State → Exit → Prop) (returns : State → Value → Prop)
    (refused : ∀ exit, (run before).2 = .error exit → exits (run before).1 exit)
    (returned : ∀ value, (run before).2 = .ok value → returns (run before).1 value) :
    Ends (ofPair run) before exits returns := by
  unfold Ends ofPair
  cases ran : run before with
  | mk after result =>
    rw [ran] at refused returned
    cases result with
    | ok value => exact returned value rfl
    | error exit => exact refused exit rfl

variable (program : Phase Exit State Value) (before : State)

theorem ends_weaken (exits weakerExits : State → Exit → Prop)
    (returns weakerReturns : State → Value → Prop)
    (ends : Ends program before exits returns)
    (left : ∀ after exit, exits after exit → weakerExits after exit)
    (returned : ∀ after value, returns after value → weakerReturns after value) :
    Ends program before weakerExits weakerReturns := by
  unfold Ends at ends ⊢
  cases ran : program before with
  | ok value after =>
    rw [ran] at ends
    exact returned after value ends
  | error exit after =>
    rw [ran] at ends
    exact left after exit ends

theorem ends_both (exits otherExits : State → Exit → Prop)
    (returns otherReturns : State → Value → Prop)
    (first : Ends program before exits returns)
    (second : Ends program before otherExits otherReturns) :
    Ends program before (fun after exit => exits after exit ∧ otherExits after exit)
      (fun after value => returns after value ∧ otherReturns after value) := by
  unfold Ends at first second ⊢
  cases ran : program before with
  | ok value after | error exit after =>
    rw [ran] at first second
    exact ⟨first, second⟩

theorem ends_of_fact (fact : Prop)
    (holds : fact) : Ends program before (fun _ _ => True) (fun _ _ => fact) := by
  unfold Ends
  cases program before with
  | ok value after => exact holds
  | error exit after => trivial

theorem finish_of_ends (program : Phase Value State Value) (before : State)
    (allowed : State → Value → Prop) (ends : Ends program before allowed allowed) :
    allowed (finish program before).1 (finish program before).2 := by
  unfold Ends at ends
  unfold finish
  cases ran : program before with
  | ok value after | error exit after =>
    rw [ran] at ends
    exact ends

end Phase

end EvoomGuard.Lib
