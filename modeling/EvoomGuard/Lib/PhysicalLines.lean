import EvoomGuard.Lib.Lines

/-!
Lines as a tokenizer counts them: `\n`, `\r\n` and `\r` end a line, and nothing else does.
-/

namespace EvoomGuard.Lib.Text

def isLineEnd (character : Char) : Bool := character = '\n' || character = '\r'

def physicalLines : Text → List Text
  | [] => []
  | '\r' :: '\n' :: rest => [] :: physicalLines rest
  | character :: rest =>
    if isLineEnd character then [] :: physicalLines rest
    else openLine character (physicalLines rest)

/-- `str.splitlines` splits at line ends only. -/
def PlainLines (text : Text) : Prop :=
  ∀ character ∈ text, isLineBoundary character = true → isLineEnd character = true

variable (text : Text)

theorem plain_lines_iff :
    (text.all fun character => !isLineBoundary character || isLineEnd character) = true ↔
      PlainLines text := by
  simp only [List.all_eq_true, Bool.or_eq_true, Bool.not_eq_true', PlainLines]
  apply forall₂_congr
  intro character _
  cases isLineBoundary character <;> simp

instance (text : Text) : Decidable (PlainLines text) := decidable_of_iff _ (plain_lines_iff text)

theorem line_end_boundary {character : Char} (ends : isLineEnd character = true) :
    isLineBoundary character = true := by
  simp only [isLineEnd, Bool.or_eq_true, decide_eq_true_eq] at ends
  rcases ends with same | same
  · rw [same]
    rfl
  · rw [same]
    rfl

theorem physical_end (character : Char) (rest : Text) (ends : isLineEnd character = true)
    (single : character = '\r' → ∀ later, rest ≠ '\n' :: later) :
    physicalLines (character :: rest) = [] :: physicalLines rest := by
  rw [physicalLines, if_pos ends]
  intro later first second
  exact single first later second

theorem physical_letter (character : Char) (rest : Text) (letter : isLineEnd character = false) :
    physicalLines (character :: rest) = openLine character (physicalLines rest) := by
  rw [physicalLines, if_neg (ne_true_of_eq_false letter)]
  intro later first second
  subst first
  cases letter

theorem splitlines_plain (plain : PlainLines text) :
    splitlines text = physicalLines text := by
  induction text using splitlines.induct with
  | case1 => rfl
  | case2 rest ih =>
    rw [splitlines, physicalLines, ih fun character inside => plain character (by simp [inside])]
  | case3 character rest apart boundary ih =>
    have single : character = '\r' → ∀ later, rest ≠ '\n' :: later :=
      fun first later second => apart later first second
    rw [splitlines_boundary _ _ boundary single,
      physical_end _ _ (plain character List.mem_cons_self boundary) single,
      ih fun other inside => plain other (List.mem_cons_of_mem _ inside)]
  | case4 character rest apart boundary ih =>
    have letter : isLineBoundary character = false := by simpa using boundary
    have inner : isLineEnd character = false := by
      rw [← Bool.not_eq_true]
      intro ends
      rw [line_end_boundary ends] at letter
      cases letter
    rw [splitlines_letter _ _ letter, physical_letter _ _ inner,
      ih fun other inside => plain other (List.mem_cons_of_mem _ inside)]

theorem mem_open_line (character : Char) (lines : List Text) :
    ∃ line ∈ openLine character lines, character ∈ line := by
  cases lines with
  | nil => exact ⟨[character], by simp [openLine], by simp⟩
  | cons line lines => exact ⟨character :: line, by simp [openLine], by simp⟩

theorem open_line_keeps (character other : Char) (lines : List Text)
    (kept : ∃ line ∈ lines, other ∈ line) : ∃ line ∈ openLine character lines, other ∈ line := by
  obtain ⟨line, inside, held⟩ := kept
  cases lines with
  | nil => cases inside
  | cons first rest =>
    rcases List.mem_cons.1 inside with here | later
    · exact ⟨character :: first, by simp [openLine], by simp [← here, held]⟩
    · exact ⟨line, by simp [openLine, later], held⟩

theorem mem_physical_lines (other : Char) (inner : isLineEnd other = false)
    (inside : other ∈ text) : ∃ line ∈ physicalLines text, other ∈ line := by
  induction text using physicalLines.induct with
  | case1 => cases inside
  | case2 rest ih =>
    have later : other ∈ rest := by
      rcases List.mem_cons.1 inside with same | inside
      · rw [same] at inner
        cases inner
      · rcases List.mem_cons.1 inside with same | inside
        · rw [same] at inner
          cases inner
        · exact inside
    obtain ⟨line, listed, held⟩ := ih later
    exact ⟨line, by simp [physicalLines, listed], held⟩
  | case3 character rest apart ends ih =>
    rw [physical_end _ _ ends fun first later second => apart later first second]
    rcases List.mem_cons.1 inside with same | later
    · rw [same, ends] at inner
      cases inner
    · obtain ⟨line, listed, held⟩ := ih later
      exact ⟨line, List.mem_cons_of_mem _ listed, held⟩
  | case4 character rest apart ends ih =>
    rw [physical_letter _ _ (by simpa using ends)]
    rcases List.mem_cons.1 inside with same | later
    · rw [same]
      exact mem_open_line character _
    · exact open_line_keeps character other _ (ih later)

theorem physical_lines_unplain (unplain : ¬PlainLines text) :
    ∃ line ∈ physicalLines text, ∃ character ∈ line, isLineBoundary character = true := by
  unfold PlainLines at unplain
  push Not at unplain
  obtain ⟨character, inside, boundary, inner⟩ := unplain
  obtain ⟨line, listed, held⟩ :=
    mem_physical_lines text character (Bool.eq_false_iff.2 inner) inside
  exact ⟨line, listed, character, held, boundary⟩

theorem open_line_length (character : Char) (lines : List Text) :
    (openLine character lines).length = max 1 lines.length := by
  cases lines with
  | nil => rfl
  | cons line lines =>
    rw [openLine, List.length_cons, List.length_cons]
    omega

theorem physical_lines_fewer :
    (physicalLines text).length ≤ (splitlines text).length := by
  induction text using splitlines.induct with
  | case1 => exact le_rfl
  | case2 rest ih =>
    rw [splitlines, physicalLines, List.length_cons, List.length_cons]
    omega
  | case3 character rest apart boundary ih =>
    have single : character = '\r' → ∀ later, rest ≠ '\n' :: later :=
      fun first later second => apart later first second
    rw [splitlines_boundary _ _ boundary single, List.length_cons]
    cases ends : isLineEnd character with
    | true =>
      rw [physical_end _ _ ends single, List.length_cons]
      omega
    | false =>
      rw [physical_letter _ _ ends, open_line_length]
      omega
  | case4 character rest apart boundary ih =>
    have letter : isLineBoundary character = false := by simpa using boundary
    have inner : isLineEnd character = false := by
      rw [← Bool.not_eq_true]
      intro ends
      rw [line_end_boundary ends] at letter
      cases letter
    rw [splitlines_letter _ _ letter, physical_letter _ _ inner, open_line_length,
      open_line_length]
    omega

/-- Each line with its end. -/
def terminated (lines : List Text) : Text := lines.flatMap fun line => line ++ ['\n']

section

variable (lines : List Text)
  (clean : ∀ line ∈ lines, ∀ character ∈ line, isLineBoundary character = false)
include clean

theorem splitlines_terminated :
    splitlines (terminated lines) = lines := by
  induction lines with
  | nil => rfl
  | cons line rest ih =>
    have joined : terminated (line :: rest) = line ++ '\n' :: terminated rest := by
      simp [terminated]
    rw [joined, splitlines_newline, splitlines_single line (clean line List.mem_cons_self),
      ih fun other inside => clean other (List.mem_cons_of_mem _ inside)]
    rfl

theorem terminated_plain :
    PlainLines (terminated lines) := by
  intro character inside boundary
  rw [terminated, List.mem_flatMap] at inside
  obtain ⟨line, listed, held⟩ := inside
  rcases List.mem_append.1 held with inner | last
  · rw [clean line listed character inner] at boundary
    cases boundary
  · rw [List.mem_singleton.1 last]
    rfl

end

end EvoomGuard.Lib.Text
