import EvoomGuard.Lib.Json
import EvoomGuard.Application.DecisionGates

/-!
The exact comparison of a recorded coverage with its floor, `_coverage_meets_threshold` of
`record_verifier.py`, beside the gate that judged the run.
-/

namespace EvoomGuard.RecordVerifier

open Lib Domain Application

/-- `_is_int`: a boolean is no integer here. -/
def asInt? : Option Json → Option Int
  | some (.int value) => some value
  | _ => none

/-- `_is_number` with the ratio of what it accepts: an integer over one, a float as
`as_integer_ratio` gives it. -/
def integerRatio : Json → Option (Int × Nat)
  | .int value => some (value, 1)
  | .float value => some (value.num, value.den)
  | _ => none

def coverageMeetsThreshold (coverage : Option (List (Text × Json))) (threshold : Json) : Bool :=
  match coverage with
  | none => false
  | some fields =>
    if Json.field? fields "measured" ≠ some (.bool true) then false
    else
      match asInt? (Json.field? fields "executed"),
          asInt? (Json.field? fields "total"), integerRatio threshold with
      | some executed, some total, some (numerator, denominator) =>
        decide (numerator * total ≤ 100 * executed * denominator)
      | _, _, _ => false

/-- A floor as the caller gives it. -/
inductive CoverageFloor where
  | int (value : Int)
  | float (value : Rat)

def CoverageFloor.exact : CoverageFloor → Rat
  | .int value => value
  | .float value => value

def CoverageFloor.recorded : CoverageFloor → Json
  | .int value => .int value
  | .float value => .float value

/-- The evidence of a measured run, with what it displays. -/
def measuredCoverage (executed total : Nat) (percent : Json) (details : List (Text × Json)) :
    List (Text × Json) :=
  ("measured", .bool true) :: ("percent", percent) ::
    ("executed", .int executed) :: ("total", .int total) :: details

theorem integer_ratio_recorded (floor : CoverageFloor) :
    integerRatio floor.recorded = some (floor.exact.num, floor.exact.den) := by
  cases floor with
  | int value => simp [integerRatio, CoverageFloor.recorded, CoverageFloor.exact]
  | float value => rfl

theorem measured_fields (executed total : Nat) (percent : Json) (details : List (Text × Json)) :
    Json.field? (measuredCoverage executed total percent details) "measured" =
        some (.bool true) ∧
      Json.field? (measuredCoverage executed total percent details) "executed" =
        some (.int executed) ∧
      Json.field? (measuredCoverage executed total percent details) "total" =
        some (.int total) := by
  constructor
  · rfl
  constructor
  · rfl
  · rfl

theorem coverage_meets_threshold_measured (executed total : Nat) (percent : Json)
    (details : List (Text × Json)) (floor : CoverageFloor) :
    coverageMeetsThreshold (some (measuredCoverage executed total percent details))
        floor.recorded = true ↔
      floor.exact.num * (total : Int) ≤ 100 * (executed : Int) * floor.exact.den := by
  obtain ⟨measured, ofExecuted, ofTotal⟩ := measured_fields executed total percent details
  rw [coverageMeetsThreshold, measured, ofExecuted, ofTotal, integer_ratio_recorded]
  simp [asInt?]

/-- The producer's form of the comparison, with its own case for a change without an executable
line, decides as the verifier's does. -/
theorem coverage_below_floor_measured (executed total : Nat) (floor : Rat) :
    coverageBelowFloor executed total floor = false ↔
      floor.num * (total : Int) ≤ 100 * (executed : Int) * floor.den := by
  simp only [coverageBelowFloor, Bool.and_eq_false_iff, decide_eq_false_iff_not, not_lt]
  constructor
  · intro met
    cases met with
    | inl empty =>
      have none : total = 0 := Nat.le_zero.mp empty
      subst none
      rw [Nat.cast_zero, mul_zero]
      exact mul_nonneg (by omega) (by omega)
    | inr met => exact met
  · intro met
    exact Or.inr met

theorem coverage_gate_agrees_with_record (shown : Rat → Text) (reasonCode : ReasonCode)
    (reason percent : Text) (executed total : Nat) (displayed : Json)
    (details : List (Text × Json)) (floor : CoverageFloor) :
    ((applyDiffCoverageGate shown ⟨.pass, reasonCode, reason⟩ (.measured executed total percent)
        (some floor.exact)).verdict = .pass ↔
      coverageMeetsThreshold (some (measuredCoverage executed total displayed details))
        floor.recorded = true) ∧
    (coverageMeetsThreshold (some (measuredCoverage executed total displayed details))
        floor.recorded = true →
      applyDiffCoverageGate shown ⟨.pass, reasonCode, reason⟩ (.measured executed total percent)
        (some floor.exact) = ⟨.pass, reasonCode, reason⟩) := by
  have judged := coverage_below_floor_measured executed total floor.exact
  have recorded := coverage_meets_threshold_measured executed total displayed details floor
  rw [recorded, ← judged]
  simp only [applyDiffCoverageGate, ne_eq, not_true_eq_false, if_false]
  cases coverageBelowFloor executed total floor.exact with
  | true => simp
  | false => simp

/-- At the boundary itself, 9 of 10 lines under a floor of 90. -/
example : coverageMeetsThreshold (some (measuredCoverage 9 10 .null [])) (.int 90) = true := by
  decide

end EvoomGuard.RecordVerifier
