import EvoomGuard.Lib.Text

/-!
`str.splitlines`: the lines of a text without their boundaries.
-/

namespace EvoomGuard.Lib.Text

/-- The characters that end a line; `\r\n` ends one line, not two. -/
def isLineBoundary (character : Char) : Bool :=
  let code := character.toNat
  (10 ≤ code && code ≤ 13) || (28 ≤ code && code ≤ 30) || code == 0x85 || code == 0x2028 ||
    code == 0x2029

/-- A character in front of the first line. -/
def openLine (character : Char) : List Text → List Text
  | [] => [[character]]
  | line :: lines => (character :: line) :: lines

def splitlines : Text → List Text
  | [] => []
  | '\r' :: '\n' :: rest => [] :: splitlines rest
  | character :: rest =>
    if isLineBoundary character then [] :: splitlines rest
    else openLine character (splitlines rest)

variable (character : Char) (rest : Text)

theorem splitlines_boundary (boundary : isLineBoundary character = true)
    (single : character = '\r' → ∀ later, rest ≠ '\n' :: later) :
    splitlines (character :: rest) = [] :: splitlines rest := by
  rw [splitlines, if_pos boundary]
  intro later first second
  exact single first later second

theorem splitlines_letter (letter : isLineBoundary character = false) :
    splitlines (character :: rest) = openLine character (splitlines rest) := by
  rw [splitlines, if_neg (ne_true_of_eq_false letter)]
  intro later first second
  subst first
  cases letter

theorem splitlines_ne_nil :
    splitlines (character :: rest) ≠ [] := by
  rw [splitlines.eq_def]
  split
  · next empty => cases empty
  · simp
  · split_ifs
    · simp
    · cases splitlines _ <;> simp [openLine]

theorem open_line_append (character : Char) (first second : List Text) (nonempty : first ≠ []) :
    openLine character (first ++ second) = openLine character first ++ second := by
  cases first with
  | nil => exact absurd rfl nonempty
  | cons line lines => rfl

theorem splitlines_newline (text rest : Text) :
    splitlines (text ++ '\n' :: rest) = splitlines (text ++ ['\n']) ++ splitlines rest := by
  induction text using splitlines.induct with
  | case1 => rfl
  | case2 text ih =>
    simp only [List.cons_append, splitlines]
    rw [ih]
  | case3 character text apart boundary ih =>
    by_cases pair : character = '\r' ∧ text = []
    · obtain ⟨first, second⟩ := pair
      subst first second
      rfl
    · have single (after : Text) :
          character = '\r' → ∀ later, text ++ '\n' :: after ≠ '\n' :: later := by
        intro first later joined
        cases text with
        | nil => exact pair ⟨first, rfl⟩
        | cons next text =>
          rw [List.cons_append, List.cons.injEq] at joined
          exact apart text first (by rw [joined.1])
      rw [List.cons_append, List.cons_append, splitlines_boundary _ _ boundary (single rest),
        splitlines_boundary _ _ boundary (single []), ih, List.cons_append]
  | case4 character text apart boundary ih =>
    have letter : isLineBoundary character = false := by simpa using boundary
    have ended : splitlines (text ++ ['\n']) ≠ [] := by
      cases text with
      | nil => exact splitlines_ne_nil '\n' []
      | cons next text => exact splitlines_ne_nil next (text ++ ['\n'])
    rw [List.cons_append, List.cons_append, splitlines_letter _ _ letter,
      splitlines_letter _ _ letter, ih, open_line_append character _ _ ended]

theorem splitlines_clean (text : Text) :
    ∀ line ∈ splitlines text, ∀ character ∈ line, isLineBoundary character = false := by
  induction text using splitlines.induct with
  | case1 => simp [splitlines]
  | case2 text ih =>
    rw [splitlines]
    intro line inside
    rw [List.mem_cons] at inside
    cases inside with
    | inl empty => simp [empty]
    | inr later => exact ih line later
  | case3 character text apart boundary ih =>
    rw [splitlines_boundary _ _ boundary fun first later second => apart later first second]
    intro line inside
    rw [List.mem_cons] at inside
    cases inside with
    | inl empty => simp [empty]
    | inr later => exact ih line later
  | case4 character text apart boundary ih =>
    have letter : isLineBoundary character = false := by simpa using boundary
    rw [splitlines_letter _ _ letter]
    cases found : splitlines text with
    | nil =>
      intro line inside
      rw [openLine, List.mem_singleton] at inside
      simpa [inside] using letter
    | cons first lines =>
      rw [found] at ih
      intro line inside
      rw [openLine, List.mem_cons] at inside
      cases inside with
      | inl here =>
        have clean := ih first List.mem_cons_self
        simpa [here] using ⟨letter, clean⟩
      | inr later => exact ih line (List.mem_cons_of_mem _ later)

theorem splitlines_single (text : Text)
    (clean : ∀ character ∈ text, isLineBoundary character = false) :
    splitlines (text ++ ['\n']) = [text] := by
  induction text with
  | nil => rfl
  | cons character text ih =>
    have letter := clean character List.mem_cons_self
    rw [List.cons_append, splitlines_letter _ _ letter,
      ih fun other inside => clean other (List.mem_cons_of_mem _ inside)]
    rfl

end EvoomGuard.Lib.Text
