import Mathlib.Logic.Basic

/-!
Runs of a system that takes one action after another, in any order: an action that is not enabled
in a state gives no state. What every action keeps holds after every run.
-/

namespace EvoomGuard.Lib.Runs

variable {Action State : Type*}

/-- The state after the actions, when each was enabled where it was taken. -/
def run (step : Action → State → Option State) : List Action → State → Option State
  | [], state => some state
  | action :: rest, state => (step action state).bind (run step rest)

section Rules

variable {step : Action → State → Option State}

theorem run_cons {action : Action} {rest : List Action} {before after : State}
    (ran : run step (action :: rest) before = some after) :
    ∃ between, step action before = some between ∧ run step rest between = some after :=
  Option.bind_eq_some_iff.1 ran

theorem run_append (first second : List Action) (before : State) :
    run step (first ++ second) before = (run step first before).bind (run step second) := by
  induction first generalizing before with
  | nil => rfl
  | cons action rest ih =>
    rw [List.cons_append, run, run, Option.bind_assoc]
    exact congrArg (Option.bind _) (funext ih)

theorem run_keeps_among {Invariant : State → Prop} (actions : List Action)
    (kept : ∀ action ∈ actions, ∀ before after, step action before = some after →
      Invariant before → Invariant after) :
    ∀ before after, run step actions before = some after → Invariant before → Invariant after := by
  induction actions with
  | nil =>
    intro before after ran held
    cases ran
    exact held
  | cons action rest ih =>
    intro before after ran held
    obtain ⟨between, first, later⟩ := run_cons ran
    exact ih (fun other member => kept other (List.mem_cons_of_mem action member)) between after
      later (kept action List.mem_cons_self before between first held)

theorem run_keeps {Invariant : State → Prop}
    (kept : ∀ action before after, step action before = some after → Invariant before →
      Invariant after) (actions : List Action) :
    ∀ before after, run step actions before = some after → Invariant before → Invariant after :=
  run_keeps_among actions fun action _ => kept action

end Rules

end EvoomGuard.Lib.Runs
