import EvoomGuard.Lib.Text

/-!
Decoded JSON documents. Objects keep the order of their keys and have no duplicate, as every
decoder in the repository insists; the decoders themselves belong to the standard library.
-/

namespace EvoomGuard.Lib

inductive Json where
  | null
  | bool (value : Bool)
  | int (value : Int)
  | float (value : Rat)
  | string (value : Text)
  | array (items : List Json)
  | object (fields : List (Text × Json))

namespace Json

/-- The name `type(value).__name__` gives. -/
def typeName : Json → Text
  | .null => "NoneType"
  | .bool _ => "bool"
  | .int _ => "int"
  | .float _ => "float"
  | .string _ => "str"
  | .array _ => "list"
  | .object _ => "dict"

def asString? : Json → Option Text
  | .string value => some value
  | _ => none

def field? (fields : List (Text × Json)) (key : Text) : Option Json := fields.lookup key

mutual

/-- Equality of documents, with the fields of an object in the same order. -/
def same : Json → Json → Bool
  | .null, .null => true
  | .bool left, .bool right => left == right
  | .int left, .int right => left == right
  | .float left, .float right => left == right
  | .string left, .string right => left == right
  | .array left, .array right => sameItems left right
  | .object left, .object right => sameFields left right
  | _, _ => false

def sameItems : List Json → List Json → Bool
  | [], [] => true
  | left :: lefts, right :: rights => same left right && sameItems lefts rights
  | _, _ => false

def sameFields : List (Text × Json) → List (Text × Json) → Bool
  | [], [] => true
  | (leftKey, left) :: lefts, (rightKey, right) :: rights =>
    leftKey == rightKey && same left right && sameFields lefts rights
  | _, _ => false

end

mutual

theorem same_iff (left right : Json) : same left right = true ↔ left = right := by
  cases left <;> cases right <;> simp [same, same_items_iff, same_fields_iff]

theorem same_items_iff (left right : List Json) : sameItems left right = true ↔ left = right := by
  cases left <;> cases right <;> simp [sameItems, same_iff, same_items_iff]

theorem same_fields_iff (left right : List (Text × Json)) :
    sameFields left right = true ↔ left = right := by
  cases left <;> cases right <;> simp [sameFields, same_iff, same_fields_iff, Prod.ext_iff]

end

instance : DecidableEq Json := fun left right => decidable_of_iff _ (same_iff left right)

end Json

section

variable {Key Value : Type*} [BEq Key] [LawfulBEq Key]

variable (fields : List (Key × Value))

theorem mem_of_lookup_eq (key : Key) (value : Value)
    (found : fields.lookup key = some value) : (key, value) ∈ fields := by
  rcases List.lookup_eq_some_iff.mp found with ⟨before, after, joined, _⟩
  simp [joined]

theorem lookup_eq_of_mem_iff (items : List (Key × Value)) (key : Key) (value : Option Value)
    (holds : ∀ found, (key, found) ∈ items ↔ value = some found) : items.lookup key = value := by
  cases looked : items.lookup key with
  | none =>
    cases value with
    | none => rfl
    | some found =>
      have absent := List.lookup_eq_none_iff.mp looked (key, found) ((holds found).mpr rfl)
      simp at absent
  | some found => exact ((holds found).mp (mem_of_lookup_eq items key found looked)).symm

theorem lookup_absent (key : Key)
    (outside : key ∉ fields.map Prod.fst) : fields.lookup key = none := by
  rw [List.lookup_eq_none_iff]
  intro field inside
  rw [bne_iff_ne]
  intro same
  exact outside (same ▸ List.mem_map_of_mem inside)

theorem lookup_of_mem (distinct : (fields.map Prod.fst).Nodup)
    (key : Key) (value : Value) (inside : (key, value) ∈ fields) :
    fields.lookup key = some value := by
  cases found : fields.lookup key with
  | none =>
    have absent := List.lookup_eq_none_iff.mp found (key, value) inside
    simp at absent
  | some other =>
    have listed := mem_of_lookup_eq fields key other found
    have same := List.inj_on_of_nodup_map distinct inside listed rfl
    rw [Prod.mk.injEq] at same
    rw [same.2]

end

end EvoomGuard.Lib
