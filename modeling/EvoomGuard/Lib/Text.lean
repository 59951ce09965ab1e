import Mathlib.Data.List.Sort
import Mathlib.Tactic.Positivity

/-!
Texts as lists of Unicode scalar values, with the string operations of the
Python standard library that a path classifier is written in. Case mappings are a
parameter: the Unicode database belongs to the interpreter, and only its ASCII
part is fixed here. Lone surrogates, which a Python string can hold and a `Char`
cannot, are outside this library.
-/

namespace EvoomGuard.Lib

abbrev Text := List Char

instance : Coe String Text := ⟨String.toList⟩

-- Named, so that a decision about texts or bytes is one term in every module.
instance : LawfulBEq Text := inferInstance

instance bytesDecidable : DecidableEq ByteArray := ByteArray.instDecidableEq

namespace Text

/-- The characters `str.isspace` accepts, which are those of the regular expression
class `\s` and those `str.strip` removes. -/
def isSpace (character : Char) : Bool :=
  let code := character.toNat
  (9 ≤ code && code ≤ 13) || (28 ≤ code && code ≤ 32) || code == 0x85 || code == 0xa0 ||
    code == 0x1680 || (0x2000 ≤ code && code ≤ 0x200a) || code == 0x2028 ||
    code == 0x2029 || code == 0x202f || code == 0x205f || code == 0x3000

def lstripWhile (drop : Char → Bool) (text : Text) : Text := text.dropWhile drop

def rstripWhile (drop : Char → Bool) (text : Text) : Text :=
  (text.reverse.dropWhile drop).reverse

def stripWhile (drop : Char → Bool) (text : Text) : Text :=
  rstripWhile drop (lstripWhile drop text)

def strip (text : Text) : Text := stripWhile isSpace text

def startsWith (text head : Text) : Bool := head.isPrefixOf text

def endsWith (text tail : Text) : Bool := tail.isSuffixOf text

/-- `str.split(separator)` for a one-character separator. The result is never empty. -/
def split (separator : Char) : Text → List Text
  | [] => [[]]
  | character :: rest =>
    if character = separator then [] :: split separator rest
    else
      match split separator rest with
      | [] => [[character]]
      | part :: parts => (character :: part) :: parts

def join (separator : Text) : List Text → Text
  | [] => []
  | [part] => part
  | part :: next :: parts => part ++ separator ++ join separator (next :: parts)

/-- The last element of `text.split("/")`. -/
def lastSegment (text : Text) : Text := (split '/' text).getLastD []

/-- Code-point order, the order of Python strings. -/
def le : Text → Text → Bool
  | [], _ => true
  | _ :: _, [] => false
  | a :: as, b :: bs => if a = b then le as bs else a.toNat < b.toNat

/-- `sorted` on a list of strings. -/
def sorted (texts : List Text) : List Text :=
  texts.insertionSort fun left right => le left right = true

theorem mem_sorted {text : Text} {texts : List Text} :
    text ∈ sorted texts ↔ text ∈ texts := by
  simp [sorted]

theorem sorted_perm (texts : List Text) : (sorted texts).Perm texts :=
  List.perm_insertionSort _ texts

theorem sorted_eq_nil {texts : List Text} : sorted texts = [] ↔ texts = [] := by
  constructor
  · intro empty
    have same := (sorted_perm texts).length_eq
    rw [empty] at same
    exact List.eq_nil_of_length_eq_zero same.symm
  · rintro rfl
    rfl

/-- `sorted(set(texts))`. -/
def sortedSet (texts : List Text) : List Text := sorted texts.dedup

theorem mem_sorted_set {text : Text} {texts : List Text} :
    text ∈ sortedSet texts ↔ text ∈ texts := by
  rw [sortedSet, mem_sorted, List.mem_dedup]

theorem split_ne_nil (separator : Char) (text : Text) : split separator text ≠ [] := by
  cases text with
  | nil => simp [split]
  | cons character rest =>
    simp only [split]
    split
    · simp
    · split <;> simp

theorem join_split (separator : Char) (text : Text) :
    join [separator] (split separator text) = text := by
  induction text with
  | nil => rfl
  | cons character rest ih =>
    cases parts : split separator rest with
    | nil => exact absurd parts (split_ne_nil separator rest)
    | cons part others =>
      rw [parts] at ih
      by_cases same : character = separator
      · subst same
        simp only [split, if_true, parts, join, List.nil_append]
        rw [ih]
        rfl
      · simp only [split, if_neg same, parts]
        cases others with
        | nil => simpa only [join, List.cons.injEq, true_and] using ih
        | cons next more =>
          simp only [join, List.cons_append, List.cons.injEq, true_and] at ih ⊢
          exact ih

theorem split_injective (separator : Char) : Function.Injective (split separator) := by
  intro left right same
  rw [← join_split separator left, same, join_split]

end Text

theorem each_of_all {Item : Type*} (items : List Item) (holds : Item → Prop) [DecidablePred holds]
    (checked : (items.all fun item => decide (holds item)) = true) : ∀ item ∈ items, holds item := by
  intro item inside
  exact of_decide_eq_true (List.all_eq_true.mp checked item inside)

theorem length_dedup_iff {Item : Type*} [DecidableEq Item] (items : List Item) :
    items.dedup.length = items.length ↔ items.Nodup := by
  rw [← List.dedup_eq_self]
  constructor
  · intro same
    exact (List.dedup_sublist items).eq_of_length same
  · intro same
    rw [same]

/-- A case mapping of some Unicode database. `lower` and `casefold` are arbitrary
outside ASCII; on ASCII texts both are the ASCII mapping, as every version of the
database has it. -/
structure CaseMapping where
  lower : Text → Text
  casefold : Text → Text
  lower_ascii : ∀ text : Text, (∀ character ∈ text, character.toNat < 128) →
    lower text = text.map Char.toLower
  casefold_ascii : ∀ text : Text, (∀ character ∈ text, character.toNat < 128) →
    casefold text = text.map Char.toLower

/-- The mapping that leaves every character outside ASCII alone. -/
def asciiCase : CaseMapping where
  lower := List.map Char.toLower
  casefold := List.map Char.toLower
  lower_ascii := fun _ _ => rfl
  casefold_ascii := fun _ _ => rfl

/-- A Python dictionary: entries in insertion order, one for each key. -/
structure Dict (Key Value : Type*) where
  entries : List (Key × Value)
  nodup : (entries.map Prod.fst).Nodup

namespace Dict

variable {Key Value : Type*}

def empty : Dict Key Value := ⟨[], List.nodup_nil⟩

def keys (dict : Dict Key Value) : List Key := dict.entries.map Prod.fst

/-- Assignment replaces the value of a key in place, or appends a new entry. -/
def assign [DecidableEq Key] (key : Key) (value : Value) :
    List (Key × Value) → List (Key × Value)
  | [] => [(key, value)]
  | entry :: rest =>
    if entry.1 = key then (key, value) :: rest else entry :: assign key value rest

theorem mem_assign_keys [DecidableEq Key] (key : Key) (value : Value)
    (entries : List (Key × Value)) (other : Key) :
    other ∈ (assign key value entries).map Prod.fst ↔
      other = key ∨ other ∈ entries.map Prod.fst := by
  induction entries with
  | nil => simp [assign]
  | cons entry rest ih =>
    by_cases same : entry.1 = key
    · simp [assign, same]
    · simp only [assign, if_neg same, List.map_cons, List.mem_cons, ih]
      tauto

theorem assign_nodup [DecidableEq Key] (key : Key) (value : Value)
    (entries : List (Key × Value)) (distinct : (entries.map Prod.fst).Nodup) :
    ((assign key value entries).map Prod.fst).Nodup := by
  induction entries with
  | nil => simp [assign]
  | cons entry rest ih =>
    rw [List.map_cons, List.nodup_cons] at distinct
    by_cases same : entry.1 = key
    · simp only [assign, if_pos same, List.map_cons, List.nodup_cons]
      exact ⟨same ▸ distinct.1, distinct.2⟩
    · simp only [assign, if_neg same, List.map_cons, List.nodup_cons, mem_assign_keys]
      refine ⟨?_, ih distinct.2⟩
      rintro (equal | inside)
      · exact same equal
      · exact distinct.1 inside

def insert [DecidableEq Key] (dict : Dict Key Value) (key : Key) (value : Value) :
    Dict Key Value :=
  ⟨assign key value dict.entries, assign_nodup key value dict.entries dict.nodup⟩

def ofPairs [DecidableEq Key] (pairs : List (Key × Value)) : Dict Key Value :=
  pairs.foldl (fun dict pair => dict.insert pair.1 pair.2) empty

theorem assign_new [DecidableEq Key] (key : Key) (value : Value) (entries : List (Key × Value))
    (absent : key ∉ entries.map Prod.fst) : assign key value entries = entries ++ [(key, value)] := by
  induction entries with
  | nil => rfl
  | cons entry rest ih =>
    rw [List.map_cons, List.mem_cons, not_or] at absent
    rw [assign, if_neg (Ne.symm absent.1), ih absent.2]
    rfl

theorem of_pairs_entries [DecidableEq Key] (pairs : List (Key × Value))
    (distinct : (pairs.map Prod.fst).Nodup) : (ofPairs pairs).entries = pairs := by
  have after (pairs : List (Key × Value)) (dict : Dict Key Value)
      (distinct : ((dict.entries ++ pairs).map Prod.fst).Nodup) :
      (pairs.foldl (fun dict pair => dict.insert pair.1 pair.2) dict).entries =
        dict.entries ++ pairs := by
    induction pairs generalizing dict with
    | nil => simp
    | cons pair rest ih =>
      have fresh : pair.1 ∉ dict.entries.map Prod.fst := by
        rw [List.map_append, List.map_cons, List.nodup_append] at distinct
        intro inside
        exact distinct.2.2 pair.1 inside pair.1 List.mem_cons_self rfl
      have inserted : (dict.insert pair.1 pair.2).entries = dict.entries ++ [pair] :=
        assign_new pair.1 pair.2 dict.entries fresh
      rw [List.foldl_cons, ih]
      · rw [inserted]
        simp
      · rw [inserted]
        simpa using distinct
  exact after pairs empty (by simpa [empty] using distinct)

theorem entries_injective : Function.Injective (entries : Dict Key Value → List (Key × Value)) := by
  intro left right same
  cases left with
  | mk first firstDistinct =>
    cases right with
    | mk second secondDistinct =>
      cases same
      rfl

end Dict

theorem ok_of_read {Problem Value Reading : Type*} (answer : Except Problem Value)
    (read : Value → Reading) (faithful : Function.Injective read) (value : Value)
    (found : answer.toOption.map read = some (read value)) : answer = .ok value := by
  cases answer with
  | error problem => cases found
  | ok result =>
    rw [Except.toOption, Option.map_some, Option.some.injEq] at found
    rw [faithful found]

end EvoomGuard.Lib
