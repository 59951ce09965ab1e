import EvoomGuard.Lib.Json

/-!
Reading a key of a list of pairs after an assignment or a deletion.
-/

namespace EvoomGuard.Lib.Dict

variable {Key Value : Type*} [BEq Key] [LawfulBEq Key]

theorem lookup_first (head : Key) (found : Value) (rest : List (Key × Value)) (other : Key)
    [Decidable (other = head)] :
    ((head, found) :: rest).lookup other = if other = head then some found else rest.lookup other := by
  by_cases same : other = head
  · subst same
    rw [List.lookup_cons_self, if_pos rfl]
  · rw [List.lookup_cons, beq_false_of_ne same, if_neg same]

variable [DecidableEq Key]

theorem lookup_assign (key : Key) (value : Value) (entries : List (Key × Value)) (other : Key) :
    (assign key value entries).lookup other =
      if other = key then some value else entries.lookup other := by
  induction entries with
  | nil => rw [assign, lookup_first]
  | cons entry rest ih =>
    rw [assign, lookup_first]
    by_cases here : entry.1 = key
    · rw [if_pos here, lookup_first, here]
      by_cases same : other = key
      · rw [if_pos same, if_pos same]
      · rw [if_neg same, if_neg same, if_neg same]
    · rw [if_neg here, lookup_first, ih]
      by_cases own : other = entry.1
      · rw [if_pos own, if_pos own, if_neg (own ▸ here)]
      · rw [if_neg own, if_neg own]

theorem assign_same (key : Key) (value : Value) (entries : List (Key × Value))
    (held : entries.lookup key = some value) : assign key value entries = entries := by
  induction entries with
  | nil => cases held
  | cons entry rest ih =>
    rw [lookup_first] at held
    rw [assign]
    by_cases here : entry.1 = key
    · rw [if_pos here.symm, Option.some.injEq] at held
      rw [if_pos here, ← held, ← here]
    · rw [if_neg (Ne.symm here)] at held
      rw [if_neg here, ih held]

/-- `del entries[key]`. -/
def erase (key : Key) (entries : List (Key × Value)) : List (Key × Value) :=
  entries.filter fun entry => entry.1 != key

theorem lookup_erase (key : Key) (entries : List (Key × Value)) (other : Key) :
    (erase key entries).lookup other = if other = key then none else entries.lookup other := by
  induction entries with
  | nil => rw [erase, List.filter_nil, List.lookup_nil, ite_self]
  | cons entry rest ih =>
    rw [erase, List.filter_cons, lookup_first]
    rw [erase] at ih
    by_cases here : entry.1 = key
    · rw [if_neg (by simpa using here), ih]
      by_cases same : other = key
      · rw [if_pos same, if_pos same]
      · rw [if_neg same, if_neg same, if_neg (here.symm ▸ same)]
    · rw [if_pos (by simpa using here), lookup_first, ih]
      by_cases own : other = entry.1
      · rw [if_pos own, if_pos own, if_neg (own ▸ here)]
      · rw [if_neg own, if_neg own]

end EvoomGuard.Lib.Dict
