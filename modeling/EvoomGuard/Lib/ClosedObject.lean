import EvoomGuard.Lib.Checks
import EvoomGuard.Lib.Json

/-!
JSON objects whose keys are exactly those of an enumeration. A check of such an object is a check
of its reading, which has a value for every key, so that the order of the fields never matters and
no proof about a check compares key texts.
-/

namespace EvoomGuard.Lib

open Lib.Checks

structure Schema (Key : Type) where
  keys : List Key
  name : Key → Text
  complete : ∀ key, key ∈ keys := by intro key; cases key <;> decide
  distinct : (keys.map name).Nodup := by decide

namespace Schema

variable {Key : Type} (schema : Schema Key)

/-- The object that holds one value under every key. -/
def object (value : Key → Json) : List (Text × Json) :=
  schema.keys.map fun key => (schema.name key, value key)

/-- `fields.get(key)`. -/
def get (fields : List (Text × Json)) (key : Key) : Json :=
  (fields.lookup (schema.name key)).getD .null

def missing (fields : List (Text × Json)) : List Text :=
  (schema.keys.map schema.name).filter fun name => !(fields.map Prod.fst).contains name

def unknown (fields : List (Text × Json)) : List Text :=
  (fields.map Prod.fst).filter fun name => !(schema.keys.map schema.name).contains name

def closed (fields : List (Text × Json)) : Bool :=
  (schema.missing fields).isEmpty && (schema.unknown fields).isEmpty

/-- `shown` is the text of a list of strings in a message. -/
def requireExactKeys (shown : List Text → Text) (label : Text) (fields : List (Text × Json)) :
    Except Text Unit :=
  refuse (schema.closed fields = false)
    (label ++ " keys are not canonical (missing=" ++
      shown (Text.sorted (schema.missing fields)) ++ ", unknown=" ++
      shown (Text.sorted (schema.unknown fields)) ++ ")")

/-- The check of an object: its keys, then its reading. -/
def validate {Value : Type} (shown : List Text → Text) (label : Text)
    (check : (Key → Json) → Except Text Value) (fields : List (Text × Json)) :
    Except Text Value := do
  schema.requireExactKeys shown label fields
  check (schema.get fields)

variable (value : Key → Json)

theorem object_keys :
    (schema.object value).map Prod.fst = schema.keys.map schema.name := by
  rw [object, List.map_map]
  rfl

theorem object_distinct : ((schema.object value).map Prod.fst).Nodup := by
  rw [object_keys]
  exact schema.distinct

@[simp]
theorem get_object : schema.get (schema.object value) = value := by
  funext key
  have listed : (schema.name key, value key) ∈ schema.object value :=
    List.mem_map.mpr ⟨key, schema.complete key, rfl⟩
  rw [get, lookup_of_mem _ (schema.object_distinct value) _ _ listed, Option.getD_some]

theorem closed_iff (fields : List (Text × Json)) :
    schema.closed fields = true ↔
      ∀ name, name ∈ fields.map Prod.fst ↔ name ∈ schema.keys.map schema.name := by
  rw [closed, Bool.and_eq_true, List.isEmpty_iff, List.isEmpty_iff, missing, unknown,
    List.filter_eq_nil_iff, List.filter_eq_nil_iff]
  constructor
  · intro both name
    constructor
    · intro present
      simpa using both.2 name present
    · intro expected
      simpa using both.1 name expected
  · intro same
    constructor
    · intro name expected
      simpa using (same name).mpr expected
    · intro name present
      simpa using (same name).mp present

@[simp]
theorem closed_object : schema.closed (schema.object value) = true := by
  rw [closed_iff, object_keys]
  intro name
  rfl

section Validate

variable {Value : Type} {shown : List Text → Text} {label : Text}
  {check : (Key → Json) → Except Text Value}

theorem validate_ok (fields : List (Text × Json)) (value : Value) :
    schema.validate shown label check fields = .ok value ↔
      schema.closed fields = true ∧ check (schema.get fields) = .ok value := by
  rw [validate, bind_ok]
  constructor
  · intro found
    obtain ⟨answer, accepted, checked⟩ := found
    rw [requireExactKeys, refuse_ok, Bool.not_eq_false] at accepted
    exact ⟨accepted, checked⟩
  · intro found
    refine ⟨(), ?_, found.2⟩
    rw [requireExactKeys, refuse_ok, Bool.not_eq_false]
    exact found.1

@[simp]
theorem validate_object (reading : Key → Json) :
    schema.validate shown label check (schema.object reading) = check reading := by
  have accepted : schema.requireExactKeys shown label (schema.object reading) = .ok () := by
    rw [requireExactKeys, refuse_ok, schema.closed_object]
    decide
  rw [validate, accepted, get_object]
  rfl

/-- A check that accepts exactly what the writer of a record writes, and only of valid records,
gives back the record its fields were written from. -/
theorem validate_written {Value : Type} {label : Text} {shown : List Text → Text}
    {check : (Key → Json) → Except Text Value} {value : Value → Key → Json} {valid : Value → Prop}
    (law : ∀ get found, check get = .ok found ↔ get = value found ∧ valid found)
    (injective : Function.Injective value) (written found : Value) :
    schema.validate shown label check (schema.object (value written)) = .ok found ↔
      found = written ∧ valid written := by
  rw [validate_object, law]
  constructor
  · intro both
    have same := injective both.1
    exact ⟨same.symm, same ▸ both.2⟩
  · intro both
    rw [both.1]
    exact ⟨rfl, both.2⟩

end Validate

end Schema

namespace Checks

variable {Problem : Type}

def textThat (accepts : Text → Bool) (problem : Problem) : Json → Except Problem Text
  | .string text => if accepts text then .ok text else .error problem
  | _ => .error problem

def intWithin (least most : Int) (problem : Problem) : Json → Except Problem Int
  | .int value => if least ≤ value ∧ value ≤ most then .ok value else .error problem
  | _ => .error problem

/-- `value != expected`, of a text. -/
def exactText (expected : Text) (problem : Problem) (value : Json) : Except Problem Unit :=
  refuse (value ≠ .string expected) problem

def objectOf (problem : Problem) : Json → Except Problem (List (Text × Json))
  | .object fields => .ok fields
  | _ => .error problem

@[simp]
theorem text_that_ok (accepts : Text → Bool) (problem : Problem) (value : Json) (text : Text) :
    textThat accepts problem value = .ok text ↔ value = .string text ∧ accepts text = true := by
  cases value with
  | string found =>
    rw [textThat, Json.string.injEq]
    by_cases accepted : accepts found = true
    · rw [if_pos accepted, Except.ok.injEq]
      constructor
      · intro same
        exact ⟨same, same ▸ accepted⟩
      · exact And.left
    · rw [if_neg accepted]
      constructor
      · intro impossible
        cases impossible
      · intro both
        exact absurd (both.1 ▸ both.2) accepted
  | _ => simp [textThat]

@[simp]
theorem int_within_ok (least most : Int) (problem : Problem) (value : Json) (number : Int) :
    intWithin least most problem value = .ok number ↔
      value = .int number ∧ least ≤ number ∧ number ≤ most := by
  cases value with
  | int found =>
    rw [intWithin, Json.int.injEq]
    by_cases accepted : least ≤ found ∧ found ≤ most
    · rw [if_pos accepted, Except.ok.injEq]
      constructor
      · intro same
        exact ⟨same, same ▸ accepted⟩
      · exact And.left
    · rw [if_neg accepted]
      constructor
      · intro impossible
        cases impossible
      · intro both
        exact absurd (both.1 ▸ both.2) accepted
  | _ => simp [intWithin]

@[simp]
theorem exact_text_ok (expected : Text) (problem : Problem) (value : Json) (answer : Unit) :
    exactText expected problem value = .ok answer ↔ value = .string expected := by
  rw [exactText, refuse_ok, not_not]

@[simp]
theorem object_of_ok (problem : Problem) (value : Json) (fields : List (Text × Json)) :
    objectOf problem value = .ok fields ↔ value = .object fields := by
  cases value <;> simp [objectOf]

end Checks

end EvoomGuard.Lib
