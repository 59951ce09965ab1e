import EvoomGuard.Lib.RegexRuns
import EvoomGuard.Lib.Segments
import EvoomGuard.Candidate.Edits
import EvoomGuard.Lib.Lines
import EvoomGuard.Workspace.CandidateTree

/-!
The text `serialize_candidate_blocks` writes, read back by `parse_file_blocks`. The text is an
identity and not a transport: the engine applies the structured blocks. It still reads back under
the conditions stated here.
-/

namespace EvoomGuard.Candidate

open Lib Lib.Regex Domain.Harness Workspace.CandidateTree

def endMarker : Piece :=
  chain [literal "<<<END", spaces, literal "FILE>>>"]

def HasEndMarker (text : Text) : Prop :=
  ∃ before blanks after, text = before ++ ("<<<END" ++ blanks ++ "FILE>>>" ++ after) ∧
    ∀ character ∈ blanks, Text.isSpace character = true

theorem end_marker_absent {Result : Type} (text : Text) (captures : Captures EditGroup)
    (next : Text → Captures EditGroup → Option Result)
    (absent : ∀ blanks after, text = "<<<END" ++ blanks ++ "FILE>>>" ++ after →
      ¬∀ character ∈ blanks, Text.isSpace character = true) :
    run endMarker text captures next = none := by
  rw [endMarker, run_chain_cons]
  by_cases opens : ∃ rest, text = "<<<END" ++ rest
  · obtain ⟨rest, whole⟩ := opens
    rw [whole, run_literal_here, run_chain_cons]
    apply run_many_fails
    intro blanks after split every
    apply run_literal_apart
    intro later closing
    apply absent blanks later _ every
    rw [whole, split, closing]
    simp
  · exact run_literal_apart _ _ _ _ fun rest whole => opens ⟨rest, whole⟩

/-- What follows the content of a serialized block. -/
def blockEnd (rest : Text) : Text := "\n<<<END FILE>>>" ++ rest

theorem block_end_shape (rest : Text) :
    blockEnd rest = '\n' :: '<' :: ("<<END FILE>>>" ++ rest) := rfl

theorem blanks_then_file (rest blanks after : Text)
    (every : ∀ character ∈ blanks, Text.isSpace character = true) :
    blockEnd rest ≠ blanks ++ ("FILE>>>" ++ after) := by
  rw [block_end_shape]
  intro whole
  cases blanks with
  | nil => cases whole
  | cons first blanks =>
    rw [List.cons_append, List.cons.injEq] at whole
    cases blanks with
    | nil => cases whole.2
    | cons second blanks =>
      rw [List.cons_append, List.cons.injEq] at whole
      have blank := every second (by simp)
      rw [← whole.2.1] at blank
      cases blank

theorem newline_outside (letters split later rest : Text) (clean : '\n' ∉ letters)
    (inside : letters = split ++ later) {after : Text} (whole : blockEnd rest = later ++ after) :
    later = [] := by
  cases later with
  | nil => rfl
  | cons first more =>
    rw [block_end_shape, List.cons_append, List.cons.injEq] at whole
    apply absurd _ clean
    rw [inside, ← whole.1]
    simp

theorem marker_within (text rest blanks after : Text)
    (every : ∀ character ∈ blanks, Text.isSpace character = true)
    (whole : text ++ blockEnd rest = "<<<END" ++ blanks ++ "FILE>>>" ++ after) :
    ∃ inner, text = "<<<END" ++ blanks ++ "FILE>>>" ++ inner := by
  rw [List.append_assoc, List.append_assoc, List.append_eq_append_iff] at whole
  rcases whole with ⟨later, opening, tail⟩ | ⟨middle, shape, tail⟩
  · have none : later = [] :=
      newline_outside "<<<END" text later rest (by decide) opening tail
    rw [none, List.nil_append] at tail
    exact absurd tail (blanks_then_file rest blanks after every)
  · rw [eq_comm, List.append_eq_append_iff] at tail
    rcases tail with ⟨later, split, closing⟩ | ⟨inner, split, closing⟩
    · have blank : ∀ character ∈ later, Text.isSpace character = true := fun character inside =>
        every character (by rw [split]; exact List.mem_append_right _ inside)
      exact absurd closing (blanks_then_file rest later after blank)
    · rw [List.append_eq_append_iff] at closing
      rcases closing with ⟨later, first, second⟩ | ⟨later, first, second⟩
      · exact ⟨later, by rw [shape, split, first]; simp⟩
      · have none : later = [] :=
          newline_outside "FILE>>>" inner later rest (by decide) first second
        rw [none, List.append_nil] at first
        exact ⟨[], by rw [shape, split, ← first]; simp⟩

/-- What the expression wants after the content. -/
def closing : Piece := chain [optionalCr, optionalLf, endMarker]

/-- A content that reads back: no end marker in it, and no carriage return at its end. -/
structure PlainContent (content : Text) : Prop where
  unmarked : ¬HasEndMarker content
  ended : content.getLast? ≠ some '\r'

section Content

variable {Result : Type} (captures : Captures EditGroup)
  (next : Text → Captures EditGroup → Option Result)

section

variable {content : Text} (plain : PlainContent content) (rest : Text) (before after : Text)
  (whole : content = before ++ after)
include plain whole

theorem end_marker_inside :
    run endMarker (after ++ blockEnd rest) captures next = none := by
  apply end_marker_absent
  intro blanks later shape every
  obtain ⟨inner, inside⟩ := marker_within after rest blanks later every shape
  exact plain.unmarked ⟨before, blanks, inner, by rw [whole, inside], every⟩

theorem optional_lf_inside (more : after ≠ []) :
    run (chain [optionalLf, endMarker]) (after ++ blockEnd rest) captures next = none := by
  have here := end_marker_inside captures next plain rest before after whole
  rw [run_chain_cons]
  cases after with
  | nil => exact absurd rfl more
  | cons first others =>
    by_cases newline : first = '\n'
    · subst newline
      have later := end_marker_inside captures next plain rest (before ++ ['\n']) others
        (by rw [whole]; simp)
      rw [List.cons_append] at here ⊢
      rw [optionalLf, run_optional_present]
      rw [show run (chain [endMarker]) (others ++ blockEnd rest) captures next = none from later]
      exact here
    · rw [optionalLf, run_optional_absent]
      · exact here
      · simpa using newline

theorem closing_inside (more : after ≠ []) :
    run closing (after ++ blockEnd rest) captures next = none := by
  have here := optional_lf_inside captures next plain rest before after whole more
  rw [closing, run_chain_cons]
  cases after with
  | nil => exact absurd rfl more
  | cons first others =>
    by_cases returned : first = '\r'
    · subst returned
      have others_more : others ≠ [] := by
        intro empty
        apply plain.ended
        rw [whole, empty, List.getLast?_append, List.getLast?_singleton, Option.some_or]
      have later := optional_lf_inside captures next plain rest (before ++ ['\r']) others
        (by rw [whole]; simp) others_more
      rw [List.cons_append] at here ⊢
      rw [optionalCr, run_optional_present, later]
      exact here
    · rw [optionalCr, run_optional_absent]
      · exact here
      · simpa using returned

end

theorem closing_after {rest : Text} {result : Result} (found : next rest captures = some result) :
    run closing (blockEnd rest) captures next = some result := by
  have marker : run endMarker ("<<<END FILE>>>" ++ rest) captures next = some result := by
    have opened : "<<<END FILE>>>" ++ rest =
        "<<<END" ++ ([' '] ++ ("FILE>>>" ++ rest)) := rfl
    rw [endMarker, run_chain_cons, opened, run_literal_here, run_chain_cons]
    apply run_many_stops Text.isSpace _ [' '] _ (by simp [Text.isSpace])
    · simp [Text.isSpace]
    · exact (run_literal_here "FILE>>>" rest captures next).trans found
  have present : blockEnd rest = '\n' :: ("<<<END FILE>>>" ++ rest) := rfl
  rw [closing, run_chain_cons, optionalCr, run_optional_absent, run_chain_cons, optionalLf, present,
    run_optional_present]
  · rw [show run (chain [endMarker]) ("<<<END FILE>>>" ++ rest) captures next = some result from
      marker]
  · rw [present, List.head?_cons]
    decide

end Content

/-- A path that reads back: it has letters, none of which closes the header, and no blanks around
it. -/
structure PlainPath (path : Text) : Prop where
  letters : ∀ character ∈ path, pathCharacter character = true
  first : ∃ head tail, path = head :: tail ∧ Text.isSpace head = false
  last : ∀ before after, path = before ++ after → after ≠ [] →
    ∃ character ∈ after, Text.isSpace character = false

/-- What the expression wants after the path. -/
def headerEnd : Piece :=
  chain [spaces, literal ">>>", optionalCr, char '\n', lazyBody .body, closing]

theorem block_re_run {Result : Type} (text : Text) (captures : Captures EditGroup)
    (next : Text → Captures EditGroup → Option Result) :
    run blockRe text captures next =
      run (chain [literal "<<<FILE:", spaces, .group .path (some1Lazy pathCharacter),
        headerEnd]) text captures next := by
  rfl

section Block

variable {Result : Type} (next : Text → Captures EditGroup → Option Result)

section

variable {content : Text} (plain : PlainContent content) (rest : Text)
  (captures : Captures EditGroup) {result : Result}
  (found : next rest ((.body, content) :: captures) = some result)
include found plain

theorem body_read :
    run (chain [lazyBody .body, closing]) (content ++ blockEnd rest) captures next =
      some result := by
  rw [run_chain_cons, lazyBody, run, run]
  apply run_many_lazy_stops
  · intro character _
    rfl
  · intro before after whole more
    exact closing_inside _ next plain rest before after whole more
  · have taken : (content ++ blockEnd rest).take
        ((content ++ blockEnd rest).length - (blockEnd rest).length) = content := by
      rw [List.length_append, Nat.add_sub_cancel, List.take_left]
    rw [taken]
    exact closing_after _ next found

theorem header_end_read :
    run headerEnd (">>>\n" ++ (content ++ blockEnd rest)) captures next =
      some result := by
  have read := body_read next plain rest captures found
  have opened : ">>>\n".toList ++ (content ++ blockEnd rest) =
      [] ++ (">>>".toList ++ ('\n' :: (content ++ blockEnd rest))) := rfl
  rw [headerEnd, run_chain_cons, opened]
  apply run_many_stops Text.isSpace _ [] _ (by simp)
  · simp [Text.isSpace]
  · dsimp only
    rw [run_chain_cons, run_literal_here, run_chain_cons, optionalCr, run_optional_absent]
    · rw [run_chain_cons, Regex.char, run, if_pos (by decide)]
      exact read
    · simp

end

theorem header_end_inside {path : Text} (plain : PlainPath path) (tail : Text)
    (captures : Captures EditGroup) (before after : Text) (whole : path = before ++ after)
    (more : after ≠ []) :
    run headerEnd (after ++ (">>>\n" ++ tail)) captures next = none := by
  rw [headerEnd, run_chain_cons]
  apply run_many_fails
  intro taken rest split every
  change run (literal ">>>") rest captures _ = none
  apply run_literal_apart
  intro later closes
  rw [closes, List.append_eq_append_iff] at split
  rcases split with ⟨blanks, shape, _⟩ | ⟨others, shape, tailed⟩
  · obtain ⟨character, inside, shown⟩ := plain.last before after whole more
    have blank := every character (by rw [shape]; exact List.mem_append_left _ inside)
    rw [shown] at blank
    cases blank
  · cases others with
    | nil =>
      obtain ⟨character, inside, shown⟩ := plain.last before after whole more
      rw [List.append_nil] at shape
      have blank := every character (shape ▸ inside)
      rw [shown] at blank
      cases blank
    | cons first others =>
      have angle : first = '>' := by
        have heads := congrArg List.head? tailed
        simpa using heads.symm
      have letter := plain.letters first (by rw [whole, shape]; simp)
      rw [angle] at letter
      cases letter

theorem path_read {path : Text} (plain : PlainPath path) {content : Text}
    (body : PlainContent content) (rest : Text) {result : Result}
    (found : next rest [(.body, content), (.path, path)] = some result) :
    run (chain [.group .path (some1Lazy pathCharacter), headerEnd])
      (path ++ (">>>\n" ++ (content ++ blockEnd rest))) [] next = some result := by
  obtain ⟨head, tail, whole, _⟩ := plain.first
  have accepted := plain.letters head (by rw [whole]; exact List.mem_cons_self)
  rw [run_chain_cons, run, some1Lazy, run]
  generalize closed : ">>>\n" ++ (content ++ blockEnd rest) = ending
  have taken : (path ++ ending).take ((path ++ ending).length - ending.length) = path := by
    rw [List.length_append, Nat.add_sub_cancel, List.take_left]
  have start : path ++ ending = head :: (tail ++ ending) := by rw [whole, List.cons_append]
  rw [start] at taken ⊢
  rw [run, if_pos accepted, run]
  apply run_many_lazy_stops
  · intro character inside
    exact plain.letters character (by rw [whole]; exact List.mem_cons_of_mem _ inside)
  · intro before after split more
    rw [← closed]
    exact header_end_inside next plain _ _ (head :: before) after
      (by rw [whole, split, List.cons_append]) more
  · rw [taken, ← closed]
    exact header_end_read next body rest _ found

end Block

def blockText (block : Text × Text) : Text :=
  "<<<FILE: " ++ block.1 ++ ">>>\n" ++ block.2 ++ "\n<<<END FILE>>>"

structure PlainBlock (block : Text × Text) : Prop where
  path : PlainPath block.1
  content : PlainContent block.2

theorem block_shape (block : Text × Text) (rest : Text) :
    blockText block ++ rest = "<<<FILE:" ++
      ([' '] ++ (block.1 ++ (">>>\n" ++ (block.2 ++ blockEnd rest)))) := by
  have parts (opening blank path middle content ending : Text) :
      opening ++ blank ++ path ++ middle ++ content ++ ending ++ rest =
        opening ++ (blank ++ (path ++ (middle ++ (content ++ (ending ++ rest))))) := by
    simp only [List.append_assoc]
  exact parts "<<<FILE:" [' '] block.1 ">>>\n" block.2 "\n<<<END FILE>>>"

theorem match_block {block : Text × Text} (plain : PlainBlock block) (rest : Text) :
    matchAt blockRe (blockText block ++ rest) =
      some (rest, [(.body, block.2), (.path, block.1)]) := by
  have read := path_read (fun after captures => some (after, captures)) plain.path plain.content
    rest rfl
  rw [matchAt, block_re_run, block_shape, run_chain_cons, run_literal_here, run_chain_cons]
  apply run_many_stops Text.isSpace _ [' '] _ (by simp [Text.isSpace])
  · obtain ⟨head, tail, whole, shown⟩ := plain.path.first
    intro character first
    rw [whole, List.cons_append, List.head?_cons] at first
    rw [← Option.mem_some_iff.mp first]
    exact shown
  · exact read

theorem match_newline (rest : Text) : matchAt blockRe ('\n' :: rest) = none := by
  rw [matchAt, block_re_run, run_chain_cons]
  apply run_literal_apart
  intro after whole
  have heads := congrArg List.head? whole
  cases heads

theorem block_text_cons (block : Text × Text) :
    ∃ later, blockText block = '<' :: later :=
  ⟨_, rfl⟩

theorem finditer_blocks (blocks : List (Text × Text)) (plain : ∀ block ∈ blocks, PlainBlock block) :
    ∀ fuel, (Text.join ['\n'] (blocks.map blockText)).length ≤ fuel →
      finditerWith blockRe fuel (Text.join ['\n'] (blocks.map blockText)) =
        blocks.map fun block => [(.body, block.2), (.path, block.1)] := by
  induction blocks with
  | nil =>
    intro fuel _
    cases fuel <;> rfl
  | cons block rest ih =>
    intro fuel enough
    have own := plain block List.mem_cons_self
    have others := fun other (inside : other ∈ rest) =>
      plain other (List.mem_cons_of_mem _ inside)
    obtain ⟨later, start⟩ := block_text_cons block
    cases rest with
    | nil =>
      have read := match_block own []
      rw [List.append_nil] at read
      simp only [List.map_cons, List.map_nil, Text.join] at enough ⊢
      obtain ⟨fuel, rfl⟩ := Nat.exists_eq_succ_of_ne_zero (n := fuel) (by
        rw [start, List.length_cons] at enough
        omega)
      rw [start] at read ⊢
      rw [finditerWith, read]
      cases fuel <;> rfl
    | cons second rest =>
      have read := match_block own (['\n'] ++ Text.join ['\n'] ((second :: rest).map blockText))
      have split : Text.join ['\n'] ((block :: second :: rest).map blockText) =
          blockText block ++
            (['\n'] ++ Text.join ['\n'] ((second :: rest).map blockText)) := by
        simp [Text.join]
      rw [split] at enough ⊢
      generalize joined : Text.join ['\n'] ((second :: rest).map blockText) = later_text at *
      rw [start, List.length_append, List.length_append, List.length_cons,
        List.length_singleton] at enough
      obtain ⟨fuel, rfl⟩ := Nat.exists_eq_add_of_le' (m := 2) (n := fuel) (by omega)
      have step : finditerWith blockRe (fuel + 2) (blockText block ++ (['\n'] ++ later_text)) =
          [(.body, block.2), (.path, block.1)] :: finditerWith blockRe fuel later_text := by
        rw [start] at read ⊢
        rw [List.cons_append] at read ⊢
        rw [finditerWith, read]
        change _ :: finditerWith blockRe (fuel + 1) ('\n' :: later_text) = _
        rw [finditerWith, match_newline]
      rw [step, ih others fuel (by omega)]
      rfl

theorem letters_of_portable {mapping : CaseMapping} {path : Text}
    (portable : isPortableRepoPath mapping path = true) :
    ∀ character ∈ path, pathCharacter character = true := by
  intro character inside
  by_cases slash : character = '/'
  · rw [slash]
    rfl
  unfold isPortableRepoPath at portable
  split_ifs at portable
  obtain ⟨part, listed, within⟩ := (Text.mem_split_iff '/' character path slash).mpr inside
  have clear := List.all_eq_true.mp portable part listed
  rw [Bool.and_eq_true, Bool.not_eq_true', Bool.not_eq_true'] at clear
  have sound := clear.2
  unfold isWindowsAmbiguousPathSegment at sound
  split_ifs at sound with refused
  rw [Bool.not_eq_true, Bool.or_eq_false_iff, Bool.or_eq_false_iff] at refused
  have allowed := List.any_eq_false.mp refused.1.2 character within
  rw [pathCharacter, Bool.and_eq_true, bne_iff_ne, bne_iff_ne]
  constructor
  · intro same
    exact allowed (by rw [same]; decide)
  · intro same
    exact allowed (by rw [same]; decide)

theorem drop_while_eq_self {drops : Char → Bool} {head : Char} {tail : Text}
    (same : (head :: tail).dropWhile drops = head :: tail) : drops head = false := by
  by_contra dropped
  rw [Bool.not_eq_false] at dropped
  rw [List.dropWhile_cons_of_pos dropped] at same
  have shorter := (List.dropWhile_suffix drops (l := tail)).length_le
  rw [same, List.length_cons] at shorter
  omega

theorem ends_of_strip {path : Text} (full : path ≠ []) (same : Text.strip path = path) :
    (∃ head tail, path = head :: tail ∧ Text.isSpace head = false) ∧
      ∃ tail last, path = tail ++ [last] ∧ Text.isSpace last = false := by
  have inner := List.dropWhile_suffix Text.isSpace (l := path)
  have outer := List.dropWhile_suffix Text.isSpace (l := (path.dropWhile Text.isSpace).reverse)
  have whole : ((path.dropWhile Text.isSpace).reverse.dropWhile Text.isSpace).reverse = path := same
  have lengths : ((path.dropWhile Text.isSpace).reverse.dropWhile Text.isSpace).length =
      path.length := by
    rw [← List.length_reverse, whole]
  have outer_short := outer.length_le
  have inner_short := inner.length_le
  rw [List.length_reverse] at outer_short
  have left : path.dropWhile Text.isSpace = path := inner.eq_of_length (by omega)
  rw [left] at whole
  constructor
  · cases path with
    | nil => exact absurd rfl full
    | cons head tail => exact ⟨head, tail, rfl, drop_while_eq_self left⟩
  · have back : path.reverse.dropWhile Text.isSpace = path.reverse := by
      have turned := congrArg List.reverse whole
      rwa [List.reverse_reverse] at turned
    cases turned : path.reverse with
    | nil => exact absurd (List.reverse_eq_nil_iff.mp turned) full
    | cons last others =>
      rw [turned] at back
      refine ⟨others.reverse, last, ?_, drop_while_eq_self back⟩
      rw [← List.reverse_reverse path, turned, List.reverse_cons]

theorem plain_path {mapping : CaseMapping} {path : Text}
    (portable : isPortableRepoPath mapping path = true) (same : Text.strip path = path) :
    PlainPath path := by
  have full : path ≠ [] := by
    intro empty
    rw [empty] at portable
    cases portable
  obtain ⟨first, tail, last, whole, shown⟩ := ends_of_strip full same
  constructor
  · exact letters_of_portable portable
  · exact first
  · intro before after split more
    refine ⟨last, ?_, shown⟩
    have final : after.getLast? = some last := by
      have ended := congrArg List.getLast? split
      rw [whole, List.getLast?_concat, List.getLast?_append] at ended
      cases held : after.getLast? with
      | none => exact absurd (List.getLast?_eq_none_iff.mp held) more
      | some other =>
        rw [held, Option.some_or] at ended
        exact ended.symm
    exact List.mem_of_getLast? final

/-- The text of a mapping reads back as that mapping. -/
theorem parse_serialized (mapping : CaseMapping) (blocks : Dict Text Text)
    (portable : ∀ block ∈ blocks.entries, isPortableRepoPath mapping block.1 = true)
    (trimmed : ∀ block ∈ blocks.entries, Text.strip block.1 = block.1)
    (unmarked : ∀ block ∈ blocks.entries, ¬HasEndMarker block.2)
    (ended : ∀ block ∈ blocks.entries, block.2.getLast? ≠ some '\r') :
    (parseFileBlocks (serializeCandidateBlocks blocks)).entries.Perm blocks.entries := by
  have order := sort_on_perm Text.le Prod.fst blocks.entries
  have plain : ∀ block ∈ sortOn Text.le Prod.fst blocks.entries, PlainBlock block := by
    intro block inside
    have listed := order.mem_iff.mp inside
    exact ⟨plain_path (portable block listed) (trimmed block listed),
      ⟨unmarked block listed, ended block listed⟩⟩
  have found := finditer_blocks _ plain _ (le_refl _)
  have pairs : (finditer blockRe (serializeCandidateBlocks blocks)).map (fun captures =>
      (Text.strip (captured captures .path), captured captures .body)) =
        sortOn Text.le Prod.fst blocks.entries := by
    have shape : serializeCandidateBlocks blocks =
        Text.join ['\n'] ((sortOn Text.le Prod.fst blocks.entries).map blockText) := rfl
    rw [finditer, shape, found, List.map_map]
    conv_rhs => rw [← List.map_id (sortOn Text.le Prod.fst blocks.entries)]
    apply List.map_congr_left
    intro block inside
    exact Prod.ext (trimmed block (order.mem_iff.mp inside)) rfl
  have distinct : ((sortOn Text.le Prod.fst blocks.entries).map Prod.fst).Nodup :=
    (order.map Prod.fst).nodup_iff.mpr blocks.nodup
  rw [parseFileBlocks, pairs, Dict.of_pairs_entries _ distinct]
  exact order

/-- A line that opens or closes a block. -/
def isBlockMarker (line : Text) : Bool :=
  fullmatch (.alt (chain [literal "<<<FILE:", spaces, some1Lazy pathCharacter, spaces,
    literal ">>>"]) endMarker) line

theorem serialized_source : (parseFileBlocks (serializeCandidateBlocks
    (Dict.ofPairs [("src/app.py", "run()\n"), ("README", "")]))).entries.Perm
      (Dict.ofPairs [("src/app.py".toList, "run()\n".toList), ("README", "")]).entries := by
  apply parse_serialized asciiCase
  · decide
  · decide
  · intro block inside marked
    obtain ⟨before, blanks, after, whole, _⟩ := marked
    have angle : '<' ∈ block.2 := by
      rw [whole]
      simp
    have absent : ∀ block ∈ (Dict.ofPairs [("src/app.py".toList, "run()\n".toList),
        ("README", "")]).entries, '<' ∉ block.2 := by
      decide
    exact absurd angle (absent block inside)
  · decide

/-- A carriage return at the end of a content is taken for the end of its line. -/
theorem serialized_return_lost : ¬∀ (mapping : CaseMapping) (blocks : Dict Text Text),
    (∀ block ∈ blocks.entries, isPortableRepoPath mapping block.1 = true) →
      (∀ block ∈ blocks.entries, ∀ line ∈ Text.split '\n' block.2, isBlockMarker line = false) →
        (parseFileBlocks (serializeCandidateBlocks blocks)).entries.Perm blocks.entries := by
  intro every
  have read := every asciiCase (Dict.ofPairs [("src/app.py", "run()\r")])
    (by decide) (by decide)
  have body : (parseFileBlocks (serializeCandidateBlocks
      (Dict.ofPairs [("src/app.py", "run()\r")]))).entries =
        [("src/app.py".toList, "run()".toList)] := by decide
  rw [body] at read
  exact absurd (List.singleton_perm_singleton.mp read) (by decide)

end EvoomGuard.Candidate
