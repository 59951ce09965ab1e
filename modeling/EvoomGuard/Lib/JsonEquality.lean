import EvoomGuard.Lib.Json

/-!
Equality of decoded values as the language has it: a boolean is a number, a whole number equals the
same number with a fraction part, and the order of the keys of an object does not matter.
-/

namespace EvoomGuard.Lib

namespace Json

/-- The number a value stands for in a comparison. -/
def numeric? : Json → Option Rat
  | .bool value => some (if value then 1 else 0)
  | .int value => some value
  | .float value => some value
  | _ => none

mutual

/-- `left == right`. -/
def alike : Json → Json → Bool
  | .null, .null => true
  | .string left, .string right => left == right
  | .array left, .array right => alikeItems left right
  | .object left, .object right => left.length == right.length && alikeFields left right
  | .bool left, right => right.numeric? == some (if left then 1 else 0)
  | .int left, right => right.numeric? == some (left : Rat)
  | .float left, right => right.numeric? == some left
  | _, _ => false

def alikeItems : List Json → List Json → Bool
  | [], [] => true
  | left :: lefts, right :: rights => alike left right && alikeItems lefts rights
  | _, _ => false

/-- Every field has an equal one under its key. -/
def alikeFields : List (Text × Json) → List (Text × Json) → Bool
  | [], _ => true
  | (key, value) :: rest, others =>
    (match others.lookup key with
      | none => false
      | some other => alike value other) && alikeFields rest others

end

theorem alike_string (value : Json) (text : Text) :
    alike value (.string text) = true ↔ value = .string text := by
  cases value <;> simp [alike, numeric?]

theorem alike_of_string (value : Json) (text : Text) :
    alike (.string text) value = true ↔ value = .string text := by
  cases value <;> simp [alike]
  exact eq_comm

theorem alike_int_self (value : Int) : alike (.int value) (.int value) = true := by
  simp [alike, numeric?]

end Json

end EvoomGuard.Lib
