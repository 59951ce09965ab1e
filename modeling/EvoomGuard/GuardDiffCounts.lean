import EvoomGuard.Lib.Lines
import EvoomGuard.Lib.Difflib

/-!
The changed lines of a file for the blast radius, as `_diff_counts` of `guard.py` reads them off
rendered diff lines.
-/

namespace EvoomGuard.GuardDiff

open Lib Lib.Difflib

def isAdded (line : Text) : Bool :=
  Text.startsWith line ['+'] && !Text.startsWith line "+++"

def isRemoved (line : Text) : Bool :=
  Text.startsWith line ['-'] && !Text.startsWith line "---"

/-- One turn of the loop of `_diff_counts`. -/
def countLine (counts : Nat × Nat) (line : Text) : Nat × Nat :=
  if isAdded line then (counts.1 + 1, counts.2)
  else if isRemoved line then (counts.1, counts.2 + 1)
  else counts

def diffCounts (old new : Text) : Nat × Nat :=
  (unifiedDiff (Text.splitlines old) (Text.splitlines new) 0).foldl countLine (0, 0)

theorem is_added_first (line : Text) (added : isAdded line = true) :
    ∃ rest, line = '+' :: rest := by
  cases line with
  | nil => cases added
  | cons first rest =>
    simp only [isAdded, Text.startsWith, Bool.and_eq_true, List.isPrefixOf_cons_cons, beq_iff_eq,
      List.isPrefixOf_nil_left, and_true] at added
    exact ⟨rest, by rw [added.1]⟩

theorem is_removed_not_added (line : Text) (removed : isRemoved line = true) :
    isAdded line = false := by
  by_contra other
  obtain ⟨rest, first⟩ := is_added_first line (by simpa using other)
  subst first
  cases removed

theorem count_lines (lines : List Text) :
    ∀ counts : Nat × Nat, lines.foldl countLine counts =
      (counts.1 + lines.countP isAdded, counts.2 + lines.countP isRemoved) := by
  induction lines with
  | nil => exact fun counts => rfl
  | cons line rest ih =>
    intro counts
    rw [List.foldl_cons, ih, countLine]
    by_cases added : isAdded line = true
    · have kept : isRemoved line = false := by
        by_contra removed
        have apart := is_removed_not_added line (by simpa using removed)
        rw [added] at apart
        cases apart
      rw [if_pos added, List.countP_cons_of_pos added,
        List.countP_cons_of_neg (ne_true_of_eq_false kept), Nat.add_assoc, Nat.add_comm 1]
    · rw [if_neg added, List.countP_cons_of_neg added]
      by_cases removed : isRemoved line = true
      · rw [if_pos removed, List.countP_cons_of_pos removed, Nat.add_assoc, Nat.add_comm 1]
      · rw [if_neg removed, List.countP_cons_of_neg removed]

/-- An inserted line that reads as a header once it is rendered. -/
def looksAdded (line : Text) : Bool := Text.startsWith line "++"

def looksRemoved (line : Text) : Bool := Text.startsWith line "--"

theorem is_added_rendered (line : Text) : isAdded ('+' :: line) = !looksAdded line := by
  simp [isAdded, looksAdded, Text.startsWith]

theorem is_removed_rendered (line : Text) : isRemoved ('-' :: line) = !looksRemoved line := by
  simp [isRemoved, looksRemoved, Text.startsWith]

theorem range_line_at (group : List Opcode) : ∃ rest, rangeLine group = '@' :: rest :=
  ⟨_, rfl⟩

section Rendered

variable (a b : List Text)

theorem code_lines_added (code : Opcode) :
    (codeLines a b code).countP isAdded = (code.inserted b).countP fun line => !looksAdded line := by
  rw [codeLines]
  split_ifs with same
  · have none : code.inserted b = [] := by simp [Opcode.inserted, same]
    rw [none, List.countP_map, List.countP_nil, List.countP_eq_zero]
    intro line _
    simp [isAdded, Text.startsWith]
  · rw [List.countP_append, List.countP_map, List.countP_map]
    have outs : (code.deleted a).countP (isAdded ∘ ('-' :: ·)) = 0 := by
      rw [List.countP_eq_zero]
      intro line _
      simp [isAdded, Text.startsWith]
    have ins : (isAdded ∘ ('+' :: ·)) = fun line => !looksAdded line :=
      funext is_added_rendered
    rw [outs, ins, Nat.zero_add]

theorem code_lines_removed (code : Opcode) :
    (codeLines a b code).countP isRemoved =
      (code.deleted a).countP fun line => !looksRemoved line := by
  rw [codeLines]
  split_ifs with same
  · have none : code.deleted a = [] := by simp [Opcode.deleted, same]
    rw [none, List.countP_map, List.countP_nil, List.countP_eq_zero]
    intro line _
    simp [isRemoved, Text.startsWith]
  · rw [List.countP_append, List.countP_map, List.countP_map]
    have ins : (code.inserted b).countP (isRemoved ∘ ('+' :: ·)) = 0 := by
      rw [List.countP_eq_zero]
      intro line _
      simp [isRemoved, Text.startsWith]
    have outs : (isRemoved ∘ ('-' :: ·)) = fun line => !looksRemoved line :=
      funext is_removed_rendered
    rw [ins, outs, Nat.add_zero]

theorem unified_diff_count (counts : Text → Bool) (changes : Opcode → List Text)
    (kept : Text → Bool) (n : Nat)
    (headers : counts "--- \n" = false ∧ counts "+++ \n".toList = false)
    (ranges : ∀ group, counts (rangeLine group) = false)
    (equal : ∀ code, code.tag = .equal → changes code = [])
    (rendered : ∀ code, (codeLines a b code).countP counts = (changes code).countP kept) :
    (unifiedDiff a b n).countP counts = ((opcodes a b).flatMap changes).countP kept := by
  have hunk (group : List Opcode) :
      (hunkLines a b group).countP counts = (group.flatMap changes).countP kept := by
    rw [hunkLines, List.countP_cons_of_neg (ne_true_of_eq_false (ranges group)),
      List.countP_flatMap, List.countP_flatMap]
    congr 1
    apply List.map_congr_left
    intro code _
    exact rendered code
  have groups (all : List (List Opcode)) :
      (all.flatMap (hunkLines a b)).countP counts =
        (all.flatMap (List.flatMap changes)).countP kept := by
    rw [List.countP_flatMap, List.countP_flatMap]
    congr 1
    apply List.map_congr_left
    intro group _
    exact hunk group
  rw [← grouped_changes changes equal n, unifiedDiff]
  cases groupedOpcodes n (opcodes a b) with
  | nil => rfl
  | cons group rest =>
    dsimp only
    rw [List.countP_cons_of_neg (ne_true_of_eq_false headers.1),
      List.countP_cons_of_neg (ne_true_of_eq_false headers.2), groups]

end Rendered

theorem diff_counts_script (old new : Text) :
    diffCounts old new =
      ((insertedItems (Text.splitlines old) (Text.splitlines new)).countP fun line =>
          !looksAdded line,
        (deletedItems (Text.splitlines old) (Text.splitlines new)).countP fun line =>
          !looksRemoved line) := by
  rw [diffCounts, count_lines, Nat.zero_add, Nat.zero_add]
  rw [unified_diff_count _ _ isAdded (Opcode.inserted (Text.splitlines new))
      (fun line => !looksAdded line) 0 (by decide) _ _ (code_lines_added _ _),
    unified_diff_count _ _ isRemoved (Opcode.deleted (Text.splitlines old))
      (fun line => !looksRemoved line) 0 (by decide) _ _ (code_lines_removed _ _)]
  · rfl
  · intro group
    obtain ⟨rest, first⟩ := range_line_at group
    rw [first]
    simp [isRemoved, Text.startsWith]
  · intro code same
    simp [Opcode.deleted, same]
  · intro group
    obtain ⟨rest, first⟩ := range_line_at group
    rw [first]
    simp [isAdded, Text.startsWith]
  · intro code same
    simp [Opcode.inserted, same]

/-- The counts of a change: its script's, and so the difference of the lengths. -/
structure ExactCounts (old new : Text) (counts : Nat × Nat) : Prop where
  balance : (counts.1 : Int) - counts.2 =
    (Text.splitlines new).length - (Text.splitlines old).length
  added : counts.1 = (insertedItems (Text.splitlines old) (Text.splitlines new)).length
  removed : counts.2 = (deletedItems (Text.splitlines old) (Text.splitlines new)).length

theorem count_all_iff (lines : List Text) (looks : Text → Bool) :
    (lines.countP fun line => !looks line) = lines.length ↔
      ∀ line ∈ lines, looks line = false := by
  rw [List.countP_eq_length]
  constructor
  · intro every line inside
    simpa using every line inside
  · intro none line inside
    simpa using none line inside

theorem diff_counts_exact_iff (old new : Text) :
    ExactCounts old new (diffCounts old new) ↔
      (∀ line ∈ insertedItems (Text.splitlines old) (Text.splitlines new),
        Text.startsWith line "++" = false) ∧
      ∀ line ∈ deletedItems (Text.splitlines old) (Text.splitlines new),
        Text.startsWith line "--" = false := by
  have balance := script_balance (Text.splitlines old) (Text.splitlines new)
  have added := count_all_iff (insertedItems (Text.splitlines old) (Text.splitlines new)) looksAdded
  have removed := count_all_iff (deletedItems (Text.splitlines old) (Text.splitlines new))
    looksRemoved
  constructor
  · intro exact
    have counted := exact.added
    have countedToo := exact.removed
    rw [diff_counts_script] at counted countedToo
    exact ⟨added.mp counted, removed.mp countedToo⟩
  · intro clear
    have counted := added.mpr clear.1
    have countedToo := removed.mpr clear.2
    rw [diff_counts_script]
    constructor
    · dsimp only
      omega
    · exact counted
    · exact countedToo

/-- An inserted increment statement is taken for a header. -/
theorem diff_counts_increment :
    ¬∀ old new : Text, ExactCounts old new (diffCounts old new) := by
  intro exact
  have counts := (exact [] "++i").added
  have missed : (diffCounts [] "++i").1 = 0 := by decide
  rw [missed] at counts
  revert counts
  decide

end EvoomGuard.GuardDiff
