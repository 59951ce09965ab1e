import Mathlib.Logic.Basic

/-!
Sequences of checks that stop at the first refusal, as a function that raises is written: what one
answered, each of its steps answered.
-/

namespace EvoomGuard.Lib.Checks

universe u v

variable {Problem : Type u} {Value Next : Type v}

/-- `if bad: raise problem`. -/
def refuse (bad : Prop) [Decidable bad] (problem : Problem) : Except Problem Unit :=
  if bad then .error problem else .ok ()

@[simp]
theorem refuse_ok (bad : Prop) [Decidable bad] (problem : Problem) (answer : Unit) :
    refuse bad problem = .ok answer ↔ ¬bad := by
  unfold refuse
  split
  · next refused => simp [refused]
  · next kept => simp [kept]

@[simp]
theorem bind_ok (first : Except Problem Value) (next : Value → Except Problem Next)
    (answer : Next) :
    (first >>= next) = .ok answer ↔ ∃ value, first = .ok value ∧ next value = .ok answer := by
  cases first with
  | error problem =>
    constructor
    · intro answered
      cases answered
    · intro found
      rcases found with ⟨value, impossible, _⟩
      cases impossible
  | ok value =>
    constructor
    · intro answered
      exact ⟨value, rfl, answered⟩
    · intro found
      rcases found with ⟨other, same, answered⟩
      cases same
      exact answered

@[simp]
theorem pure_ok (value answer : Value) :
    (pure value : Except Problem Value) = .ok answer ↔ value = answer := by
  constructor
  · intro same
    cases same
    rfl
  · intro same
    rw [same]
    rfl

def Raises (allowed : Problem → Prop) (check : Except Problem Value) : Prop :=
  ∀ problem, check = .error problem → allowed problem

section Raises

variable {allowed : Problem → Prop}

theorem raises_ok (value : Value) : Raises allowed (.ok value) := by
  intro problem raised
  cases raised

theorem raises_pure (value : Value) : Raises allowed (pure value) := raises_ok value

theorem raises_error {problem : Problem} (known : allowed problem) :
    Raises allowed (.error problem : Except Problem Value) := by
  intro other raised
  cases raised
  exact known

theorem raises_refuse {bad : Prop} [Decidable bad] {problem : Problem} (known : allowed problem) :
    Raises allowed (refuse bad problem) := by
  unfold refuse
  split
  · exact raises_error known
  · exact raises_ok ()

variable {first : Except Problem Value}

theorem raises_bind {next : Value → Except Problem Next}
    (head : Raises allowed first) (tail : ∀ value, Raises allowed (next value)) :
    Raises allowed (first >>= next) := by
  intro problem raised
  cases first with
  | error other =>
    cases raised
    exact head problem rfl
  | ok value => exact tail value problem raised

theorem raises_bind_of_ok {next : Value → Except Problem Next}
    (head : Raises allowed first)
    (tail : ∀ value, first = .ok value → Raises allowed (next value)) :
    Raises allowed (first >>= next) := by
  intro problem raised
  cases answered : first with
  | error other =>
    rw [answered] at raised
    cases raised
    exact head problem answered
  | ok value =>
    rw [answered] at raised
    exact tail value answered problem raised

theorem raises_map {change : Value → Next}
    (head : Raises allowed first) : Raises allowed (first.map change) := by
  intro problem raised
  cases first with
  | error other =>
    cases raised
    exact head problem rfl
  | ok value => cases raised

end Raises

end EvoomGuard.Lib.Checks
