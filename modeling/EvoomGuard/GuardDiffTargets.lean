import Mathlib.Data.List.TakeWhile
import EvoomGuard.Lib.Lines

/-!
The paths a unified diff targets, as `_diff_target_paths` of `guard.py` reads them, beside the
headers of the diff.
-/

namespace EvoomGuard.GuardDiff

open Lib Lib.Text

def isHeaderLine (line : Text) : Bool :=
  startsWith line "--- " || startsWith line "+++ ".toList

/-- `line[4:].strip().split("\t", 1)[0]`. -/
def headerToken (line : Text) : Text :=
  (strip (line.drop 4)).takeWhile fun character => character != '\t'

def dropSide (token : Text) : Text :=
  if startsWith token "a/" || startsWith token "b/" then token.drop 2 else token

def linePath (line : Text) : Option Text :=
  if isHeaderLine line then
    let token := headerToken line
    if token = "/dev/null" ∨ token = [] then none else some (dropSide token)
  else none

def diffTargetPaths (diffText : Text) : List Text := (splitlines diffText).filterMap linePath

structure Line where
  text : Text
  single : '\n' ∉ text

/-- The name of a header, up to a tab, and the time stamp that may follow the tab. -/
structure HeaderName where
  name : Text
  stamp : Option Text
  visible : ∃ character ∈ name, isSpace character = false
  single : '\n' ∉ name ∧ '\t' ∉ name
  stamped : ∀ text ∈ stamp, ∀ character ∈ text, isLineBoundary character = false

def HeaderName.path (header : HeaderName) : Option Text :=
  if header.name = "/dev/null" then none else some (dropSide header.name)

def HeaderName.tail (header : HeaderName) : Text :=
  match header.stamp with
  | none => []
  | some stamp => '\t' :: stamp

inductive HunkLine where
  | context (content : Line)
  | added (content : Line)
  | removed (content : Line)
  | noNewline

def HunkLine.text : HunkLine → Text
  | .context content => ' ' :: content.text
  | .added content => '+' :: content.text
  | .removed content => '-' :: content.text
  | .noNewline => "\\ No newline at end of file"

/-- `@@ -start,length +start,length @@ section`, with any part of the file as the section. -/
structure Hunk where
  oldRange : Nat × Nat
  newRange : Nat × Nat
  heading : Line
  lines : List HunkLine

def rangeText (range : Nat × Nat) : Text :=
  Nat.toDigits 10 range.1 ++ ',' :: Nat.toDigits 10 range.2

def Hunk.text (hunk : Hunk) : Text :=
  "@@ -" ++ rangeText hunk.oldRange ++ " +" ++ rangeText hunk.newRange ++
    " @@" ++ hunk.heading.text

/-- An extended header such as `diff --git`, `index` or `rename from`. -/
structure ExtendedHeader where
  text : Text
  single : ∀ character ∈ text, isLineBoundary character = false
  worded : isHeaderLine text = false

structure FileSection where
  extended : List ExtendedHeader
  old : HeaderName
  new : HeaderName
  hunks : List Hunk

def FileSection.headers (file : FileSection) : List (Text × HeaderName) :=
  [("--- ", file.old), ("+++ ".toList, file.new)]

def headerText (header : Text × HeaderName) : Text := header.1 ++ header.2.name ++ header.2.tail

def FileSection.hunkLines (file : FileSection) : List Text :=
  file.hunks.flatMap fun hunk => hunk.text :: hunk.lines.map HunkLine.text

def FileSection.lines (file : FileSection) : List Text :=
  file.extended.map ExtendedHeader.text ++ file.headers.map headerText ++ file.hunkLines

def render (diff : List FileSection) : Text :=
  (diff.flatMap FileSection.lines).flatMap fun line => line ++ ['\n']

def namedPaths (diff : List FileSection) : List Text :=
  (diff.flatMap FileSection.headers).filterMap fun header => header.2.path

theorem diff_target_paths_lines (lines : List Text) :
    diffTargetPaths (lines.flatMap fun line => line ++ ['\n']) =
      lines.flatMap fun line => diffTargetPaths (line ++ ['\n']) := by
  induction lines with
  | nil => rfl
  | cons line rest ih =>
    rw [List.flatMap_cons, List.flatMap_cons, ← ih, diffTargetPaths, diffTargetPaths,
      diffTargetPaths, List.append_assoc, List.singleton_append, splitlines_newline,
      List.filterMap_append]

theorem line_path_other (line : Text) (other : isHeaderLine line = false) :
    linePath line = none := by
  rw [linePath, if_neg (ne_true_of_eq_false other)]

theorem extended_contributes_nothing (header : ExtendedHeader) :
    diffTargetPaths (header.text ++ ['\n']) = [] := by
  rw [diffTargetPaths, splitlines_single _ header.single,
    List.filterMap_cons_none (line_path_other _ header.worded)]
  rfl

theorem lstrip_append (name tail : Text) (visible : ∃ character ∈ name, isSpace character = false) :
    lstripWhile isSpace (name ++ tail) = lstripWhile isSpace name ++ tail := by
  obtain ⟨character, inside, shown⟩ := visible
  have more : (name.dropWhile isSpace).isEmpty = false := by
    rw [List.isEmpty_eq_false_iff, ne_eq, List.dropWhile_eq_nil_iff]
    intro blank
    rw [blank character inside] at shown
    cases shown
  rw [lstripWhile, lstripWhile, List.dropWhile_append, if_neg (ne_true_of_eq_false more)]

theorem rstrip_append (name tail : Text) :
    rstripWhile isSpace (name ++ tail) =
      if tail.all isSpace then rstripWhile isSpace name
      else name ++ rstripWhile isSpace tail := by
  have blank : (tail.reverse.dropWhile isSpace).isEmpty = tail.all isSpace := by
    rw [Bool.eq_iff_iff, List.isEmpty_iff, List.dropWhile_eq_nil_iff, List.all_eq_true]
    simp only [List.mem_reverse]
  rw [rstripWhile, List.reverse_append, List.dropWhile_append, blank]
  split_ifs
  · rfl
  · rw [List.reverse_append, List.reverse_reverse]
    rfl

theorem rstrip_blanks (text : Text) :
    ∃ blanks, text = rstripWhile isSpace text ++ blanks ∧
      ∀ character ∈ blanks, isSpace character = true := by
  refine ⟨(text.reverse.takeWhile isSpace).reverse, ?_, ?_⟩
  · rw [rstripWhile, ← List.reverse_append, List.takeWhile_append_dropWhile, List.reverse_reverse]
  · intro character inside
    rw [List.mem_reverse] at inside
    exact List.mem_takeWhile_imp inside

theorem strip_no_tab {name : Text} (single : '\t' ∉ name) : '\t' ∉ strip name := by
  obtain ⟨blanks, whole, _⟩ := rstrip_blanks (lstripWhile isSpace name)
  intro inside
  have first : '\t' ∈ lstripWhile isSpace name := by
    rw [whole]
    exact List.mem_append_left _ inside
  exact single ((List.dropWhile_suffix isSpace).subset first)

theorem take_name (name : Text) (single : '\t' ∉ name) :
    (name.takeWhile fun character => character != '\t') = name := by
  rw [List.takeWhile_eq_self_iff]
  intro character inside
  rw [bne_iff_ne]
  intro tab
  exact single (tab ▸ inside)

variable (marker : Text)

theorem header_token_trimmed (four : marker.length = 4) (header : HeaderName) :
    headerToken (headerText (marker, header)) = strip header.name ∨
      headerToken (headerText (marker, header)) = lstripWhile isSpace header.name := by
  have single := header.single.2
  have dropped : (headerText (marker, header)).drop 4 = header.name ++ header.tail := by
    rw [headerText, List.append_assoc, ← four, List.drop_left]
  have left : '\t' ∉ lstripWhile isSpace header.name := fun inside =>
    single ((List.dropWhile_suffix isSpace).subset inside)
  rw [headerToken, dropped, strip, stripWhile, lstrip_append _ _ header.visible, rstrip_append]
  split_ifs with blank
  · exact Or.inl (take_name _ (strip_no_tab single))
  · apply Or.inr
    cases stamped : header.stamp with
    | none =>
      have tail : header.tail = [] := by rw [HeaderName.tail, stamped]
      rw [tail] at blank
      exact absurd rfl blank
    | some stamp =>
      have tail : header.tail = '\t' :: stamp := by rw [HeaderName.tail, stamped]
      have tab : isSpace '\t' = true := by decide
      rw [tail, List.all_cons, tab, Bool.true_and] at blank
      have shown : stamp.all isSpace = false := by simpa using blank
      rw [tail]
      have after : rstripWhile isSpace ('\t' :: stamp) = '\t' :: rstripWhile isSpace stamp := by
        have apart := rstrip_append ['\t'] stamp
        rw [if_neg (ne_true_of_eq_false shown)] at apart
        exact apart
      rw [after, List.takeWhile_append, take_name _ left, if_pos rfl]
      simp

theorem drop_side_length (token : Text) : (dropSide token).length ≤ token.length := by
  rw [dropSide]
  split_ifs
  · rw [List.length_drop]
    omega
  · exact Nat.le_refl _

theorem sided_cases (token : Text) :
    (∃ side rest, token = side :: '/' :: rest ∧ (side = 'a' ∨ side = 'b') ∧ dropSide token = rest) ∨
      dropSide token = token := by
  by_cases sided : (startsWith token "a/" || startsWith token "b/") = true
  · apply Or.inl
    have named : ∃ side rest, token = side :: '/' :: rest ∧ (side = 'a' ∨ side = 'b') := by
      rw [Bool.or_eq_true] at sided
      cases sided with
      | inl first =>
        obtain ⟨rest, whole⟩ := List.isPrefixOf_iff_prefix.mp first
        exact ⟨'a', rest, whole.symm, Or.inl rfl⟩
      | inr second =>
        obtain ⟨rest, whole⟩ := List.isPrefixOf_iff_prefix.mp second
        exact ⟨'b', rest, whole.symm, Or.inr rfl⟩
    obtain ⟨side, rest, whole, which⟩ := named
    refine ⟨side, rest, whole, which, ?_⟩
    rw [dropSide, if_pos sided, whole]
    rfl
  · apply Or.inr
    rw [dropSide, if_neg sided]

theorem trimmed_is_name {name token : Text}
    (trimmed : token = strip name ∨ token = lstripWhile isSpace name)
    (same : dropSide token = dropSide name) : token = name := by
  have suffix : lstripWhile isSpace name <:+ name := List.dropWhile_suffix isSpace
  obtain ⟨blanks, whole, blank⟩ := rstrip_blanks (lstripWhile isSpace name)
  have shorter : token.length ≤ (lstripWhile isSpace name).length := by
    cases trimmed with
    | inl both =>
      rw [both, whole, List.length_append]
      exact Nat.le_add_right _ _
    | inr one => rw [one]
  have bound := drop_side_length token
  rw [same] at bound
  by_cases flush : lstripWhile isSpace name = name
  · cases trimmed with
    | inr one => rw [one, flush]
    | inl both =>
      rw [flush] at whole
      have own : token = rstripWhile isSpace name := by rw [both, strip, stripWhile, flush]
      rw [← own] at whole
      rcases sided_cases name with ⟨side, rest, shape, which, dropped⟩ | plain
      · have slash : isSpace '/' = false := by decide
        -- The slash is visible, so both letters of the side stay.
        have kept : token = side :: '/' :: token.drop 2 := by
          cases shapeOf : token with
          | nil =>
            rw [shapeOf, shape, List.nil_append] at whole
            have lost := blank '/' (by rw [← whole]; simp)
            rw [slash] at lost
            cases lost
          | cons first more =>
            rw [shapeOf, shape, List.cons_append, List.cons.injEq] at whole
            cases more with
            | nil =>
              rw [List.nil_append] at whole
              have lost := blank '/' (by rw [← whole.2]; simp)
              rw [slash] at lost
              cases lost
            | cons second more =>
              rw [List.cons_append, List.cons.injEq] at whole
              rw [whole.1, whole.2.1]
              rfl
        have short : dropSide token = token.drop 2 := by
          rw [kept, dropSide]
          rcases which with rfl | rfl <;> rfl
        rw [same, dropped] at short
        rw [kept, ← short, shape]
      · rw [plain, whole, List.length_append] at bound
        have none : blanks = [] := List.length_eq_zero_iff.mp (by omega)
        rw [whole, none, List.append_nil]
  · have proper : (lstripWhile isSpace name).length < name.length := by
      rcases Nat.lt_or_ge (lstripWhile isSpace name).length name.length with less | more
      · exact less
      · exact absurd (suffix.eq_of_length_le more) flush
    have plain : dropSide name = name := by
      rcases sided_cases name with ⟨side, rest, shape, which, dropped⟩ | plain
      · apply absurd _ flush
        rw [shape, lstripWhile]
        rcases which with rfl | rfl <;> rfl
      · exact plain
    rw [plain] at bound
    omega

theorem header_line_marked (marked : marker = "--- " ∨ marker = "+++ ".toList)
    (header : HeaderName) : isHeaderLine (headerText (marker, header)) = true := by
  have first : startsWith (headerText (marker, header)) marker = true := by
    rw [startsWith, List.isPrefixOf_iff_prefix, headerText, List.append_assoc]
    exact List.prefix_append marker _
  rw [isHeaderLine, Bool.or_eq_true]
  cases marked with
  | inl old => exact Or.inl (old ▸ first)
  | inr new => exact Or.inr (new ▸ first)

/-- A clean name is one that stays on its line and that trimming leaves alone. -/
structure KeepsName (header : Text × HeaderName) : Prop where
  oneLine : ∀ character ∈ header.2.name, isLineBoundary character = false
  trimmed : headerToken (headerText header) = header.2.name

section

variable (marked : marker = "--- " ∨ marker = "+++ ".toList)
include marked

theorem marker_clean :
    ∀ character ∈ marker, isLineBoundary character = false := by
  cases marked with
  | inl old =>
    rw [old]
    exact each_of_all _ _ (by decide)
  | inr new =>
    rw [new]
    exact each_of_all _ _ (by decide)

theorem header_text_clean (header : HeaderName)
    (oneLine : ∀ character ∈ header.name, isLineBoundary character = false) :
    ∀ character ∈ headerText (marker, header), isLineBoundary character = false := by
  intro character inside
  rw [headerText, List.mem_append, List.mem_append] at inside
  rcases inside with (first | name) | tail
  · exact marker_clean marker marked character first
  · exact oneLine character name
  · cases stamped : header.stamp with
    | none => simp [HeaderName.tail, stamped] at tail
    | some stamp =>
      simp only [HeaderName.tail, stamped, List.mem_cons] at tail
      cases tail with
      | inl tab =>
        rw [tab]
        decide
      | inr later => exact header.stamped stamp stamped character later

theorem header_contributes (header : HeaderName)
    (oneLine : ∀ character ∈ header.name, isLineBoundary character = false) :
    diffTargetPaths (headerText (marker, header) ++ ['\n']) =
      (linePath (headerText (marker, header))).toList := by
  rw [diffTargetPaths, splitlines_single _ (header_text_clean marker marked header oneLine)]
  cases found : linePath (headerText (marker, header)) with
  | none => rw [List.filterMap_cons_none found, List.filterMap_nil, Option.toList_none]
  | some path => rw [List.filterMap_cons_some found, List.filterMap_nil, Option.toList_some]

end

theorem devnull_trimmed (token : Text)
    (trimmed : token = strip "/dev/null" ∨ token = lstripWhile isSpace "/dev/null") :
    token = "/dev/null" := by
  cases trimmed with
  | inl both =>
    rw [both]
    decide
  | inr one =>
    rw [one]
    decide

theorem header_line_path (marked : marker = "--- " ∨ marker = "+++ ".toList) (header : HeaderName) :
    (header.path = none → linePath (headerText (marker, header)) = none) ∧
      (linePath (headerText (marker, header)) = header.path ↔
        headerToken (headerText (marker, header)) = header.name) := by
  have four : marker.length = 4 := by rcases marked with rfl | rfl <;> rfl
  have trimmed := header_token_trimmed marker four header
  have read : linePath (headerText (marker, header)) =
      if headerToken (headerText (marker, header)) = "/dev/null" ∨
        headerToken (headerText (marker, header)) = [] then none
      else some (dropSide (headerToken (headerText (marker, header)))) := by
    rw [linePath, if_pos (header_line_marked marker marked header)]
  rw [read]
  generalize headerToken (headerText (marker, header)) = token at trimmed
  by_cases absent : header.name = "/dev/null"
  · have same : token = "/dev/null" := devnull_trimmed token (absent ▸ trimmed)
    have none : header.path = none := by rw [HeaderName.path, if_pos absent]
    rw [none, absent, same, if_pos (Or.inl rfl)]
    simp
  · have named : header.path = some (dropSide header.name) := by
      rw [HeaderName.path, if_neg absent]
    have nonempty : header.name ≠ [] := by
      obtain ⟨character, inside, _⟩ := header.visible
      exact List.ne_nil_of_mem inside
    constructor
    · intro none
      rw [named] at none
      cases none
    · rw [named]
      constructor
      · intro same
        split_ifs at same
        rw [Option.some.injEq] at same
        exact trimmed_is_name trimmed same
      · intro same
        have present : ¬(header.name = "/dev/null" ∨ header.name = []) := by
          intro either
          cases either with
          | inl devnull => exact absent devnull
          | inr empty => exact nonempty empty
        rw [same, if_neg present]

theorem scanned_clean (text : Text) :
    ∀ path ∈ diffTargetPaths text, ∀ character ∈ path, isLineBoundary character = false := by
  intro path scanned character inside
  rw [diffTargetPaths, List.mem_filterMap] at scanned
  obtain ⟨line, listed, read⟩ := scanned
  rw [linePath] at read
  split_ifs at read with marked
  dsimp only at read
  split_ifs at read
  rw [Option.some.injEq] at read
  have inToken : character ∈ headerToken line := by
    rw [← read, dropSide] at inside
    split_ifs at inside
    · exact List.mem_of_mem_drop inside
    · exact inside
  have inStripped : character ∈ strip (line.drop 4) := (List.takeWhile_prefix _).subset inToken
  obtain ⟨blanks, whole, _⟩ := rstrip_blanks (lstripWhile isSpace (line.drop 4))
  have inLeft : character ∈ lstripWhile isSpace (line.drop 4) := by
    rw [whole]
    exact List.mem_append_left _ inStripped
  have inLine : character ∈ line :=
    List.mem_of_mem_drop ((List.dropWhile_suffix isSpace).subset inLeft)
  exact splitlines_clean text line listed character inLine

/-- A line that is taken for a header and names a file. -/
def NamesTarget (line : Text) : Prop :=
  isHeaderLine line = true ∧ headerToken line ≠ "/dev/null" ∧ headerToken line ≠ []

theorem line_path_none_iff (line : Text) : linePath line = none ↔ ¬NamesTarget line := by
  rw [linePath, NamesTarget]
  generalize headerToken line = token
  generalize "/dev/null" = devnull
  by_cases marked : isHeaderLine line = true
  · rw [if_pos marked]
    dsimp only
    constructor
    · intro none target
      rw [if_neg (not_or.mpr target.2)] at none
      cases none
    · intro other
      rw [if_pos]
      by_contra named
      exact other ⟨marked, not_or.mp named⟩
  · rw [if_neg marked]
    constructor
    · intro _ target
      exact marked target.1
    · intro _
      rfl

theorem scans_nothing_iff (line : Text) :
    diffTargetPaths (line ++ ['\n']) = [] ↔
      ∀ piece ∈ splitlines (line ++ ['\n']), ¬NamesTarget piece := by
  rw [diffTargetPaths, List.filterMap_eq_nil_iff]
  constructor
  · intro none piece inside
    exact (line_path_none_iff piece).mp (none piece inside)
  · intro none piece inside
    exact (line_path_none_iff piece).mpr (none piece inside)

/-- The scan of a diff gives the paths its headers name, and its hunks contribute none. -/
structure ExactScan (diff : List FileSection) : Prop where
  named : diffTargetPaths (render diff) = namedPaths diff
  hunks : ∀ file ∈ diff, ∀ line ∈ file.hunkLines, diffTargetPaths (line ++ ['\n']) = []

theorem flat_map_empty {Item Other : Type} (items : List Item) (each : Item → List Other)
    (empty : ∀ item ∈ items, each item = []) : items.flatMap each = [] :=
  List.flatMap_eq_nil_iff.mpr empty

theorem render_headers (diff : List FileSection)
    (hunks : ∀ file ∈ diff, ∀ line ∈ file.hunkLines, diffTargetPaths (line ++ ['\n']) = []) :
    diffTargetPaths (render diff) =
      (diff.flatMap FileSection.headers).flatMap fun header =>
        diffTargetPaths (headerText header ++ ['\n']) := by
  rw [render, diff_target_paths_lines]
  induction diff with
  | nil => rfl
  | cons file rest ih =>
    have extended : (file.extended.map ExtendedHeader.text).flatMap
        (fun line => diffTargetPaths (line ++ ['\n'])) = [] := by
      apply flat_map_empty
      intro line inside
      rw [List.mem_map] at inside
      obtain ⟨header, _, same⟩ := inside
      rw [← same]
      exact extended_contributes_nothing header
    have quiet : file.hunkLines.flatMap (fun line => diffTargetPaths (line ++ ['\n'])) = [] :=
      flat_map_empty _ _ (hunks file List.mem_cons_self)
    rw [List.flatMap_cons, List.flatMap_append,
      ih fun other inside => hunks other (List.mem_cons_of_mem _ inside), List.flatMap_cons,
      List.flatMap_append, FileSection.lines, List.flatMap_append, List.flatMap_append, extended,
      quiet, List.nil_append, List.append_nil, List.flatMap_map]

theorem filter_map_agree {Item Other : Type} (items : List Item)
    (first second : Item → Option Other)
    (fewer : ∀ item ∈ items, second item = none → first item = none)
    (same : items.filterMap first = items.filterMap second) :
    ∀ item ∈ items, first item = second item := by
  have short (rest : List Item) (covered : ∀ item ∈ rest, second item = none → first item = none) :
      (rest.filterMap first).length ≤ (rest.filterMap second).length := by
    induction rest with
    | nil => exact Nat.le_refl _
    | cons item rest ih =>
      have later := ih fun other inside => covered other (List.mem_cons_of_mem _ inside)
      cases two : second item with
      | none =>
        rw [List.filterMap_cons_none two,
          List.filterMap_cons_none (covered item List.mem_cons_self two)]
        exact later
      | some value =>
        rw [List.filterMap_cons_some two, List.length_cons]
        cases one : first item with
        | none =>
          rw [List.filterMap_cons_none one]
          exact Nat.le_succ_of_le later
        | some other =>
          rw [List.filterMap_cons_some one, List.length_cons]
          exact Nat.succ_le_succ later
  induction items with
  | nil => exact fun item inside => absurd inside (by simp)
  | cons item rest ih =>
    have covered := fun other (inside : other ∈ rest) =>
      fewer other (List.mem_cons_of_mem _ inside)
    have agreed : first item = second item ∧ rest.filterMap first = rest.filterMap second := by
      cases two : second item with
      | none =>
        have one := fewer item List.mem_cons_self two
        rw [List.filterMap_cons_none two, List.filterMap_cons_none one] at same
        exact ⟨one, same⟩
      | some value =>
        cases one : first item with
        | none =>
          rw [List.filterMap_cons_none one, List.filterMap_cons_some two] at same
          have less := short rest covered
          rw [same, List.length_cons] at less
          omega
        | some other =>
          rw [List.filterMap_cons_some one, List.filterMap_cons_some two,
            List.cons.injEq] at same
          exact ⟨by rw [same.1], same.2⟩
    intro other inside
    rw [List.mem_cons] at inside
    cases inside with
    | inl here => exact here ▸ agreed.1
    | inr later => exact ih covered agreed.2 other later

theorem header_marked {file : FileSection} {header : Text × HeaderName}
    (listed : header ∈ file.headers) : header.1 = "--- " ∨ header.1 = "+++ ".toList := by
  rw [FileSection.headers, List.mem_cons, List.mem_singleton] at listed
  cases listed with
  | inl old => exact Or.inl (by rw [old])
  | inr new => exact Or.inr (by rw [new])

theorem side_kept (name : Text) (character : Char) (inside : character ∈ name)
    (boundary : isLineBoundary character = true) : character ∈ dropSide name := by
  rcases sided_cases name with ⟨side, rest, shape, which, dropped⟩ | plain
  · rw [dropped]
    rw [shape, List.mem_cons, List.mem_cons] at inside
    rcases inside with first | second | later
    · rw [first] at boundary
      rcases which with rfl | rfl <;> exact absurd boundary (by decide)
    · rw [second] at boundary
      exact absurd boundary (by decide)
    · exact later
  · rw [plain]
    exact inside

theorem headers_read (headers : List (Text × HeaderName))
    (marked : ∀ header ∈ headers, header.1 = "--- " ∨ header.1 = "+++ ".toList)
    (oneLine : ∀ header ∈ headers, ∀ character ∈ header.2.name, isLineBoundary character = false) :
    (headers.flatMap fun header => diffTargetPaths (headerText header ++ ['\n'])) =
      headers.filterMap fun header => linePath (headerText header) := by
  induction headers with
  | nil => rfl
  | cons header rest ih =>
    rw [List.flatMap_cons, List.filterMap_cons,
      ih (fun other inside => marked other (List.mem_cons_of_mem _ inside))
        fun other inside => oneLine other (List.mem_cons_of_mem _ inside),
      header_contributes header.1 (marked header List.mem_cons_self) header.2
        (oneLine header List.mem_cons_self)]
    cases linePath (headerText header) <;> rfl

theorem diff_target_paths_exact_iff (diff : List FileSection) :
    ExactScan diff ↔
      (∀ file ∈ diff, ∀ header ∈ file.headers, KeepsName header) ∧
        ∀ file ∈ diff, ∀ line ∈ file.hunkLines, ∀ piece ∈ splitlines (line ++ ['\n']),
          ¬NamesTarget piece := by
  have marked : ∀ header ∈ diff.flatMap FileSection.headers,
      header.1 = "--- " ∨ header.1 = "+++ ".toList := by
    intro header inside
    obtain ⟨file, _, listed⟩ := List.mem_flatMap.mp inside
    exact header_marked listed
  constructor
  · intro exact
    have headers := exact.named
    rw [render_headers diff exact.hunks, namedPaths] at headers
    have oneLine : ∀ header ∈ diff.flatMap FileSection.headers,
        ∀ character ∈ header.2.name, isLineBoundary character = false := by
      intro header listed character inside
      by_contra broken
      have boundary : isLineBoundary character = true := by simpa using broken
      have other : header.2.name ≠ "/dev/null" := by
        intro absent
        have clean : ∀ letter ∈ "/dev/null".toList, isLineBoundary letter = false :=
          each_of_all _ _ (by decide)
        rw [absent] at inside
        exact broken (clean character inside)
      have path : header.2.path = some (dropSide header.2.name) := by
        rw [HeaderName.path, if_neg other]
      have named : dropSide header.2.name ∈
          (diff.flatMap FileSection.headers).filterMap fun header => header.2.path :=
        List.mem_filterMap.mpr ⟨header, listed, path⟩
      rw [← headers, List.mem_flatMap] at named
      obtain ⟨reader, _, scanned⟩ := named
      have clean := scanned_clean _ _ scanned character
        (side_kept header.2.name character inside boundary)
      rw [boundary] at clean
      cases clean
    rw [headers_read _ marked oneLine] at headers
    have agreed := filter_map_agree _ _ _ (fun header listed =>
      (header_line_path header.1 (marked header listed) header.2).1) headers
    constructor
    · intro file inside header listed
      have all : header ∈ diff.flatMap FileSection.headers :=
        List.mem_flatMap.mpr ⟨file, inside, listed⟩
      exact ⟨oneLine header all,
        (header_line_path header.1 (marked header all) header.2).2.mp (agreed header all)⟩
    · intro file inside line listed
      exact (scans_nothing_iff line).mp (exact.hunks file inside line listed)
  · intro clean
    have hunks : ∀ file ∈ diff, ∀ line ∈ file.hunkLines, diffTargetPaths (line ++ ['\n']) = [] :=
      fun file inside line listed => (scans_nothing_iff line).mpr (clean.2 file inside line listed)
    have kept : ∀ header ∈ diff.flatMap FileSection.headers, KeepsName header := by
      intro header inside
      obtain ⟨file, known, listed⟩ := List.mem_flatMap.mp inside
      exact clean.1 file known header listed
    constructor
    · rw [render_headers diff hunks,
        headers_read _ marked fun header inside => (kept header inside).oneLine, namedPaths]
      apply List.filterMap_congr
      intro header inside
      exact (header_line_path header.1 (marked header inside) header.2).2.mpr
        (kept header inside).trimmed
    · exact hunks

def plainName (name : Text) (visible : ∃ character ∈ name, isSpace character = false)
    (single : '\n' ∉ name ∧ '\t' ∉ name) : HeaderName :=
  ⟨name, none, visible, single, fun _ absent => absurd absent (by simp)⟩

def removedComment : FileSection where
  extended := [⟨['i', 'n', 'd', 'e', 'x', ' ', '9', '.', '.', 'f'],
    by simp [isLineBoundary], by decide⟩]
  old := plainName "a/f.sql" ⟨'f', by decide⟩ (by decide)
  new := plainName "b/f.sql" ⟨'f', by decide⟩ (by decide)
  hunks := [⟨(1, 2), (1, 1), ⟨[], by decide⟩,
    [.context ⟨['x', ';'], by decide⟩, .removed ⟨"-- ../old", by decide⟩]⟩]

/-- The comment is taken for the header of a file outside the repository. -/
theorem removed_comment_read : ¬∀ diff : List FileSection, ExactScan diff := by
  intro exact
  have scanned := (exact [removedComment]).named
  have read : diffTargetPaths (render [removedComment]) =
      ["f.sql", "f.sql", "../old"] := by decide
  have named : namedPaths [removedComment] = ["f.sql", "f.sql"] := by decide
  rw [read, named] at scanned
  cases scanned

end EvoomGuard.GuardDiff
