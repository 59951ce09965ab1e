import EvoomGuard.Lib.Text
import EvoomGuard.Lib.Occurrences

/-!
The search and replace transform of `candidate/patch.py`.
-/

namespace EvoomGuard.Candidate

open Lib Lib.Occurrences

inductive PatchError where
  | emptySearch
  | noMatch
  | ambiguousMatch (found : Nat)
  | invalidCount (count : Int)
  deriving DecidableEq, Repr

/-- `type(exc).__name__`. -/
def PatchError.name : PatchError → Text
  | .emptySearch => "ValueError"
  | .noMatch => "NoMatchError"
  | .ambiguousMatch _ => "AmbiguousMatchError"
  | .invalidCount _ => "ValueError"

def intDigits (value : Int) : Text :=
  if value < 0 then '-' :: Nat.toDigits 10 value.natAbs else Nat.toDigits 10 value.natAbs

def PatchError.text : PatchError → Text
  | .emptySearch => "search string cannot be empty"
  | .noMatch => "search string not found in source"
  | .ambiguousMatch found =>
    "search string found " ++ Nat.toDigits 10 found ++
      " times; count=1 requires unique anchor"
  | .invalidCount count => "invalid count: " ++ intDigits count

/-- `source.find(search, start)`, with no answer for `-1`. -/
def find (source search : Text) (start : Nat) : Option Nat :=
  (findIn search (source.drop start)).map (start + ·)

/-- The search loop. Every turn leaves a part of the source behind, so the length of the source
is fuel enough. -/
def positionsFrom (source search : Text) : Nat → Nat → List Nat
  | 0, _ => []
  | fuel + 1, start =>
    match find source search start with
    | none => []
    | some pos => pos :: positionsFrom source search fuel (pos + search.length)

def positions (source search : Text) : List Nat :=
  positionsFrom source search (source.length + 1) 0

/-- `result[:pos] + replace + result[pos + len(search):]`. -/
def replaceAt (search replace : Text) (pos : Nat) (result : Text) : Text :=
  result.take pos ++ replace ++ result.drop (pos + search.length)

/-- The loop over `reversed(positions)`, which keeps the earlier positions valid. -/
def replaceEach (search replace : Text) (found : List Nat) (source : Text) : Text :=
  found.foldr (replaceAt search replace) source

def applyPatch (source search replace : Text) (count : Int) : Except PatchError Text :=
  if search = [] then .error .emptySearch
  else
    match positions source search with
    | [] => .error .noMatch
    | first :: others =>
      if count = 1 then
        if others ≠ [] then .error (.ambiguousMatch (others.length + 1))
        else .ok (replaceAt search replace first source)
      else if count = -1 then .ok (replaceEach search replace (first :: others) source)
      else if 1 < count then
        .ok (replaceEach search replace ((first :: others).take count.toNat) source)
      else .error (.invalidCount count)

theorem find_after (before rest search : Text) :
    find (before ++ rest) search before.length = (findIn search rest).map (before.length + ·) := by
  rw [find, List.drop_left]

theorem positions_from_cuts {search rest : Text} {gaps : List Text} (nonempty : search ≠ [])
    (cuts : Cuts search rest gaps) :
    ∀ (before : Text) (fuel : Nat), rest.length < fuel →
      positionsFrom (before ++ rest) search fuel before.length =
        cutPositions search before.length gaps := by
  induction cuts with
  | last rest clear =>
    intro before fuel enough
    obtain ⟨fuel, rfl⟩ := Nat.exists_eq_succ_of_ne_zero (Nat.ne_zero_of_lt enough)
    rw [positionsFrom, find_after, find_in_clear nonempty clear]
    rfl
  | cut gap rest gaps first onward ih =>
    intro before fuel enough
    obtain ⟨fuel, rfl⟩ := Nat.exists_eq_succ_of_ne_zero (Nat.ne_zero_of_lt enough)
    have some := List.length_pos_iff.mpr nonempty
    have found := find_in_first nonempty (occurs_at_gap search gap rest) first
    have later := ih (before ++ gap ++ search) fuel (by
      simp only [List.length_append] at enough
      omega)
    have whole : before ++ (gap ++ search ++ rest) = before ++ gap ++ search ++ rest := by simp
    rw [positionsFrom, find_after, found, Option.map_some]
    dsimp only
    rw [cut_positions_cons search gap before.length (cuts_ne_nil onward), whole]
    rw [List.length_append, List.length_append] at later
    rw [later]

theorem positions_cuts {source search : Text} {gaps : List Text} (nonempty : search ≠ [])
    (cuts : Cuts search source gaps) : positions source search = cutPositions search 0 gaps :=
  positions_from_cuts nonempty cuts [] (source.length + 1) (Nat.lt_succ_self _)

theorem replace_each_cuts {search rest : Text} {gaps : List Text} (replace : Text)
    (cuts : Cuts search rest gaps) :
    ∀ (before : Text) (count : Nat),
      replaceEach search replace ((cutPositions search before.length gaps).take count)
          (before ++ rest) = before ++ weave search replace count gaps := by
  induction cuts with
  | last rest clear =>
    intro before count
    rw [weave_last]
    simp [cutPositions, replaceEach]
  | cut gap rest gaps first onward ih =>
    intro before count
    cases count with
    | zero =>
      rw [weave_none (Cuts.cut gap rest gaps first onward), List.take_zero]
      rfl
    | succ count =>
      have later := ih (before ++ gap ++ search) count
      have whole : before ++ (gap ++ search ++ rest) = before ++ gap ++ search ++ rest := by simp
      rw [List.length_append, List.length_append] at later
      rw [cut_positions_cons search gap before.length (cuts_ne_nil onward), List.take_succ_cons,
        weave_succ search replace gap count (cuts_ne_nil onward), replaceEach, List.foldr_cons,
        whole]
      change replaceAt search replace _ (replaceEach search replace _ _) = _
      rw [later, replaceAt, ← List.length_append, List.append_assoc _ search,
        List.take_left, ← List.append_assoc _ search, ← List.length_append, List.drop_left]
      simp

theorem replace_each_source {search source : Text} {gaps : List Text} (replace : Text)
    (cuts : Cuts search source gaps) (count : Nat) :
    replaceEach search replace ((cutPositions search 0 gaps).take count) source =
      weave search replace count gaps :=
  replace_each_cuts replace cuts [] count

theorem apply_patch_cuts {source search : Text} {gaps : List Text} (nonempty : search ≠ [])
    (cuts : Cuts search source gaps) (replace : Text) (count : Int) :
    applyPatch source search replace count =
      if gaps.length = 1 then .error .noMatch
      else if count = 1 then
        if gaps.length = 2 then .ok (weave search replace 1 gaps)
        else .error (.ambiguousMatch (gaps.length - 1))
      else if count = -1 then .ok (replace.intercalate gaps)
      else if 1 < count then .ok (weave search replace count.toNat gaps)
      else .error (.invalidCount count) := by
  have found := positions_cuts nonempty cuts
  have many := cut_positions_length search gaps 0
  have replaced := replace_each_source replace cuts
  have some := List.length_pos_iff.mpr (cuts_ne_nil cuts)
  rw [applyPatch, if_neg nonempty, found]
  generalize cutPositions search 0 gaps = cutsAt at many replaced
  cases cutsAt with
  | nil =>
    rw [List.length_nil] at many
    rw [if_pos (by omega)]
  | cons first others =>
    rw [List.length_cons] at many
    rw [if_neg (by omega)]
    dsimp only
    have all : (first :: others).take (others.length + 1) = first :: others :=
      List.take_of_length_le (by simp)
    have every := replaced (others.length + 1)
    rw [all, weave_all search replace gaps _ (by omega)] at every
    by_cases one : count = 1
    · rw [if_pos one, if_pos one]
      by_cases unique : others = []
      · subst unique
        have single := replaced 1
        rw [if_neg (by simp), if_pos (by simpa using many.symm), ← single]
        rfl
      · have more := List.length_pos_iff.mpr unique
        rw [if_pos unique, if_neg (by omega), many]
    · rw [if_neg one, if_neg one, every, replaced]

theorem apply_patch_unique {source search : Text} (replace : Text) {pos : Nat}
    (nonempty : search ≠ []) (unique : ∀ other, OccursAt search source other ↔ other = pos) :
    applyPatch source search replace 1 =
      .ok (source.take pos ++ replace ++ source.drop (pos + search.length)) := by
  obtain ⟨gaps, cuts⟩ := cuts_exist nonempty source
  have two : gaps = [source.take pos, source.drop (pos + search.length)] :=
    cuts_of_single nonempty cuts unique
  subst two
  rw [apply_patch_cuts nonempty cuts]
  exact congrArg Except.ok (weave_one_cut search replace _ _ 0)

theorem apply_patch_pieces {source search replace result : Text}
    (patched : applyPatch source search replace 1 = .ok result) :
    ∃ before after, source = before ++ search ++ after ∧ result = before ++ replace ++ after := by
  by_cases nonempty : search = []
  · rw [applyPatch, if_pos nonempty] at patched
    cases patched
  · obtain ⟨gaps, cuts⟩ := cuts_exist nonempty source
    have whole := weave_none cuts replace
    rw [apply_patch_cuts nonempty cuts, if_pos rfl] at patched
    split_ifs at patched with uncut two
    obtain ⟨before, after, rfl⟩ := List.length_eq_two.mp two
    injection patched with result_eq
    refine ⟨before, after, whole.symm, ?_⟩
    rw [← result_eq]
    exact weave_one_cut search replace before after 0

/-- What a patch does to a text, said of the gaps between the occurrences of its search text. -/
structure ReplacesCuts (source search replace : Text) (gaps : List Text) : Prop where
  cuts : Cuts search source gaps
  only : ∀ other, Cuts search source other → other = gaps
  whole : search.intercalate gaps = source
  every : applyPatch source search replace (-1) =
    if gaps.length = 1 then .error .noMatch else .ok (replace.intercalate gaps)
  firstFew : ∀ count : Int, 1 < count → applyPatch source search replace count =
    if gaps.length = 1 then .error .noMatch else .ok (weave search replace count.toNat gaps)
  unique : ∀ pos, (∀ other, OccursAt search source other ↔ other = pos) →
    applyPatch source search replace 1 =
      .ok (source.take pos ++ replace ++ source.drop (pos + search.length))
  absent : (∀ pos, ¬OccursAt search source pos) →
    applyPatch source search replace 1 = .error .noMatch
  repeated : ∀ first second, OccursAt search source first → OccursAt search source second →
    first + search.length ≤ second →
      applyPatch source search replace 1 = .error (.ambiguousMatch (gaps.length - 1))
  meaningless : ∀ count : Int, count ≠ -1 → count < 1 →
    ∃ error, applyPatch source search replace count = .error error

theorem apply_patch_exact (source search replace : Text) :
    (search = [] → ∀ count, applyPatch source search replace count = .error .emptySearch) ∧
      (search ≠ [] → ∃ gaps, ReplacesCuts source search replace gaps) := by
  constructor
  · intro empty count
    rw [applyPatch, if_pos empty]
  · intro nonempty
    obtain ⟨gaps, cuts⟩ := cuts_exist nonempty source
    have answers := apply_patch_cuts nonempty cuts replace
    apply Exists.intro gaps
    constructor
    · exact cuts
    · exact cuts_unique cuts
    · rw [← weave_all search search gaps gaps.length (Nat.le_succ _), weave_same]
      exact weave_none cuts search
    · rw [answers]
      rfl
    · intro count more
      have other : count ≠ 1 ∧ count ≠ -1 := by omega
      rw [answers, if_neg other.1, if_neg other.2, if_pos more]
    · intro pos unique
      exact apply_patch_unique replace nonempty unique
    · intro clear
      rw [answers, ← cuts_unique cuts _ (Cuts.last source clear)]
      rfl
    · intro first second here there apart
      have many := cuts_of_apart cuts here there apart
      rw [answers, if_neg (by omega), if_pos rfl, if_neg (by omega)]
    · intro count other small
      have single : count ≠ 1 := by omega
      rw [answers, if_neg single, if_neg other, if_neg (Int.not_lt.mpr (by omega))]
      by_cases uncut : gaps.length = 1
      · rw [if_pos uncut]
        exact ⟨_, rfl⟩
      · rw [if_neg uncut]
        exact ⟨_, rfl⟩

/-- A replacement that contains the search text is not replaced again. -/
example : applyPatch "abcb" ['b'] "xb" (-1) = .ok "axbcxb" := by decide

/-- A count above the number of occurrences is lenient. -/
theorem apply_patch_lenient :
    ¬∀ (source search replace : Text) (count : Int), 1 < count →
      ((positions source search).length : Int) < count →
        ∃ error, applyPatch source search replace count = .error error := by
  intro strict
  obtain ⟨error, failed⟩ := strict ['a', 'b', 'a'] ['a'] ['x'] 3 (by decide) (by decide)
  have replaced : applyPatch ['a', 'b', 'a'] ['a'] ['x'] 3 = .ok ['x', 'b', 'x'] := by decide
  rw [replaced] at failed
  cases failed

end EvoomGuard.Candidate
