import EvoomGuard.Evidence.DiffCoverage
import EvoomGuard.Lib.DiffScript
import EvoomGuard.Lib.PhysicalLines

/-!
The numbers of `changed_lines` against the physical lines of the new text. Both texts are split by
`str.splitlines`, which knows more line ends than the tokenizer and the coverage tool do.
-/

namespace EvoomGuard.Evidence.DiffCoverage

open Lib Lib.Difflib Lib.Text Verifiers

/-- A physical line of the new text, by its number, that the script keeps from no line of the
base. -/
def UnmatchedLine (base new : Text) (line : Nat) : Prop :=
  (0 < line ∧ line ≤ (physicalLines new).length) ∧
    ¬∃ code ∈ unfilteredOpcodes (physicalLines base) (physicalLines new), code.Keeps line

/-- The file under a path holds the base text, or there is none. -/
def ReadsBase (host : CoverageHost) (path base : Text) : Prop :=
  host.opened path = .ok (universalNewlines base) ∨
    host.opened path = .error .osError ∧ base = []

theorem physical_universal (text : Text) :
    physicalLines (universalNewlines text) = physicalLines text := by
  fun_induction universalNewlines text with
  | case1 => rfl
  | case2 rest ih =>
    have pair : physicalLines ('\r' :: '\n' :: rest) = [] :: physicalLines rest := rfl
    rw [pair, physical_end _ _ rfl fun same => absurd same (by decide), ih]
  | case3 rest apart ih =>
    rw [physical_end _ _ rfl fun same => absurd same (by decide), ih,
      physical_end '\r' rest rfl fun _ later second => apart later second]
  | case4 character rest _ carriage ih =>
    cases ends : isLineEnd character with
    | true =>
      rw [physical_end _ _ ends fun first => absurd first carriage,
        physical_end _ _ ends fun first => absurd first carriage, ih]
    | false => rw [physical_letter _ _ ends, physical_letter _ _ ends, ih]

theorem mem_universal (text : Text) : ∀ character ∈ universalNewlines text,
    character = '\n' ∨ character ∈ text := by
  fun_induction universalNewlines text with
  | case1 => exact fun character inside => absurd inside (by simp)
  | case2 rest ih | case3 rest apart ih =>
    intro character inside
    rcases List.mem_cons.1 inside with same | later
    · exact .inl same
    · exact (ih character later).imp id fun held => by simp [held]
  | case4 first rest _ _ ih =>
    intro character inside
    rcases List.mem_cons.1 inside with same | later
    · exact .inr (by simp [same])
    · exact (ih character later).imp id fun held => by simp [held]

theorem plain_universal (text : Text) (plain : PlainLines text) :
    PlainLines (universalNewlines text) := by
  intro character inside boundary
  rcases mem_universal text character inside with same | held
  · rw [same]
    rfl
  · exact plain character held boundary

theorem mem_touched_lines (old new : List Text) (line : Nat) :
    line ∈ touchedLines old new ↔ ∃ code ∈ unfilteredOpcodes old new, code.Changes line := by
  have each (code : Opcode) : line ∈ opcodeLines code ↔ code.Changes line := by
    unfold opcodeLines Opcode.Changes
    split_ifs with changing
    · rw [linesBetween, List.mem_range'_1]
      constructor
      · intro inside
        exact ⟨changing, by omega, by omega⟩
      · intro inside
        omega
    · simp [changing]
  rw [touchedLines, List.mem_flatMap]
  simp only [each]

/-- The numbers that `changed_lines` finds for two texts. -/
def numbersOf (base new : Text) : List Nat :=
  touchedLines (splitlines (universalNewlines base)) (splitlines new)

theorem unmatched_iff_touched (base new : Text) (line : Nat) :
    UnmatchedLine base new line ↔ line ∈ touchedLines (physicalLines base) (physicalLines new) := by
  rw [mem_touched_lines, unfiltered_changes_iff, UnmatchedLine]

theorem plain_numbers (base new : Text) (plainBase : PlainLines base) (plainNew : PlainLines new)
    (line : Nat) : line ∈ numbersOf base new ↔ UnmatchedLine base new line := by
  rw [unmatched_iff_touched, numbersOf, splitlines_plain _ (plain_universal base plainBase),
    splitlines_plain _ plainNew, physical_universal]

theorem read_old_lines {host : CoverageHost} {path base : Text} (reads : ReadsBase host path base) :
    oldLines host path = .ok (splitlines (universalNewlines base)) := by
  rcases reads with found | ⟨absent, empty⟩
  · rw [oldLines, found]
  · rw [oldLines, absent, empty]
    rfl

theorem changed_lines_lookup {host : CoverageHost} {path new : Text} {old : List Text}
    (safe : isSafeRelpath host.mapping path = true) (read : oldLines host path = .ok old)
    (entries : List (Text × Option Text)) : ∀ out : List (Text × List Nat),
      (entries.map Prod.fst).Nodup → (path, some new) ∈ entries →
      changedLines host entries = .ok out →
      (out.lookup path).getD [] = touchedLines old (splitlines new) := by
  induction entries with
  | nil => exact fun out _ listed => absurd listed (by simp)
  | cons entry rest ih =>
    intro out distinct listed found
    rw [List.map_cons, List.nodup_cons] at distinct
    rcases List.mem_cons.1 listed with here | later
    · rw [← here] at distinct found
      rw [changedLines, if_pos safe, read] at found
      dsimp only at found
      split at found
      · cases found
      · next others ran =>
          have absent : others.lookup path = none := by
            rw [List.lookup_eq_none_iff]
            intro item inside
            have named := (changed_lines_paths ran).1.subset (List.mem_map_of_mem inside)
            rw [bne_iff_ne]
            intro same
            exact distinct.1 (same ▸ named)
          rw [Except.ok.injEq] at found
          rw [← found]
          split_ifs with untouched
          · rw [absent, untouched]
            rfl
          · simp
    · have apart : entry.1 ≠ path := by
        intro same
        apply distinct.1
        rw [same]
        exact List.mem_map_of_mem later
      obtain ⟨other, content⟩ := entry
      cases content with
      | none => exact ih out distinct.2 later found
      | some text =>
        rw [changedLines] at found
        split_ifs at found
        · split at found
          · cases found
          · split at found
            · cases found
            · next others ran =>
                have known := ih others distinct.2 later ran
                rw [Except.ok.injEq] at found
                rw [← found, ← known]
                split_ifs
                · rfl
                · rw [List.lookup_cons, beq_false_of_ne (Ne.symm apart)]
        · exact ih out distinct.2 later found

theorem mem_classified (excluded executed : List Json) (line : Nat) (lines : List Nat) :
    line ∈ (classifyLines excluded executed lines).executed ++
        (classifyLines excluded executed lines).missed ↔ line ∈ lines := by
  induction lines with
  | nil => simp [classifyLines]
  | cons first rest ih =>
    rw [List.mem_append] at ih
    rw [classifyLines, List.mem_cons, ← ih]
    split_ifs
    · simp only [List.mem_append, List.mem_cons]
      tauto
    · simp only [List.mem_append, List.mem_cons]
      tauto
    · simp only [List.mem_append, List.mem_cons]
      tauto

theorem counted_iff {reader : PythonReader} {source : Text} {touched : List Nat}
    {entry : List (Text × Json)} {classified : Classified}
    (found : classifyTouchedLines reader (some source) touched entry = .ok classified)
    (line : Nat) :
    line ∈ classified.executed ++ classified.missed ↔ line ∈ touched ∧
      ∃ codeLines, sourceCodeLines reader source = .ok codeLines ∧ line ∈ codeLines := by
  unfold classifyTouchedLines codeLinesOf at found
  split at found
  · next executed excluded _ _ =>
      dsimp only at found
      split at found
      · cases found
      · next codeLines classifiable =>
          split at found
          · cases found
            rw [mem_classified, sortedNumbers, List.mem_insertionSort, List.mem_dedup,
              List.mem_filter]
            simp [classifiable]
          · cases found
  · cases found

/-- The numbers found for two texts are those of the unmatched physical lines. -/
def NumberedRight (base new : Text) : Prop :=
  ∀ line, line ∈ numbersOf base new ↔ UnmatchedLine base new line

theorem terminated_read (lines : List Text)
    (clean : ∀ line ∈ lines, ∀ character ∈ line, isLineBoundary character = false) :
    universalNewlines (terminated lines) = terminated lines := by
  apply universal_newlines_plain
  intro inside
  rw [terminated, List.mem_flatMap] at inside
  obtain ⟨line, listed, held⟩ := inside
  rcases List.mem_append.1 held with inner | last
  · have boundary := clean line listed '\r' inner
    cases boundary
  · exact absurd (List.mem_singleton.1 last) (by decide)

/-- Texts that are the same to `str.splitlines` and numbered right: the physical lines of the new
one stand in the base. -/
theorem same_lines_sublist {base new : Text}
    (same : splitlines (universalNewlines base) = splitlines new)
    (right : NumberedRight base new) :
    (physicalLines new).Sublist (physicalLines base) := by
  apply unfiltered_sublist
  intro line
  rw [← mem_touched_lines, ← unmatched_iff_touched, ← right line, numbersOf, same,
    mem_touched_lines]
  exact unfiltered_of_same (splitlines new) line

theorem unplain_new (new : Text) (unplain : ¬PlainLines new) :
    ∃ base, PlainLines base ∧ ¬NumberedRight base new := by
  have clean := splitlines_clean new
  refine ⟨terminated (splitlines new), terminated_plain _ clean, ?_⟩
  intro right
  have read := terminated_read (splitlines new) clean
  have lines := splitlines_terminated (splitlines new) clean
  have part := same_lines_sublist (by rw [read, lines]) right
  rw [← splitlines_plain _ (terminated_plain _ clean), lines] at part
  obtain ⟨line, listed, character, held, boundary⟩ := physical_lines_unplain new unplain
  rw [clean line (part.subset listed) character held] at boundary
  cases boundary

theorem unplain_base (base : Text) (unplain : ¬PlainLines base) :
    ∃ new, PlainLines new ∧ ¬NumberedRight base new := by
  have clean := splitlines_clean (universalNewlines base)
  refine ⟨terminated (splitlines (universalNewlines base)), terminated_plain _ clean, ?_⟩
  intro right
  have lines := splitlines_terminated (splitlines (universalNewlines base)) clean
  have part := same_lines_sublist lines.symm right
  have fewer := physical_lines_fewer (universalNewlines base)
  rw [physical_universal] at fewer
  rw [← splitlines_plain _ (terminated_plain _ clean), lines] at part
  obtain ⟨line, listed, character, held, boundary⟩ := physical_lines_unplain base unplain
  rw [← part.eq_of_length_le fewer] at listed
  rw [clean line listed character held] at boundary
  cases boundary

/-- A module, and what it becomes with a line above it, or with a page break above it and a line
below. -/
def pageBase : Text := "a = 1\n"

def pageNew : Text := '\x0c' :: "\na = 1\nb = 2\n"

def plainNew : Text := "b = 2\na = 1\n"

def pageTokens : List Token :=
  [⟨.nl, ['\n'], ⟨1, 1⟩, ⟨1, 2⟩⟩, ⟨.other, ['a'], ⟨2, 0⟩, ⟨2, 1⟩⟩, ⟨.op, ['='], ⟨2, 2⟩, ⟨2, 3⟩⟩,
    ⟨.other, ['1'], ⟨2, 4⟩, ⟨2, 5⟩⟩, ⟨.newline, ['\n'], ⟨2, 5⟩, ⟨2, 6⟩⟩,
    ⟨.other, ['b'], ⟨3, 0⟩, ⟨3, 1⟩⟩, ⟨.op, ['='], ⟨3, 2⟩, ⟨3, 3⟩⟩,
    ⟨.other, ['2'], ⟨3, 4⟩, ⟨3, 5⟩⟩, ⟨.newline, ['\n'], ⟨3, 5⟩, ⟨3, 6⟩⟩,
    ⟨.endmarker, [], ⟨4, 0⟩, ⟨4, 0⟩⟩]

def pageHost : CoverageHost where
  mapping := asciiCase
  opened := fun _ => .ok pageBase
  reader := ⟨fun _ => [], fun _ => .complete pageTokens⟩
  isabs := fun _ => false
  relpath := fun _ => none
  report := .error ⟨"no report", by decide⟩

end EvoomGuard.Evidence.DiffCoverage
