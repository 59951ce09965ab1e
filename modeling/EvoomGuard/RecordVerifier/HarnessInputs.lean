import EvoomGuard.Lib.Segments
import Mathlib.Data.List.TakeWhile
import EvoomGuard.Verifiers.RepoContinuity

/-!
The harness-input rules of `record_verifier.py`, which the verifier states for itself, beside the
ones of `domain/harness.py` that the producer enforces.
-/

namespace EvoomGuard.RecordVerifier

open Lib Domain.Harness

section Definitions

variable (mapping : CaseMapping)

def isControl (character : Char) : Bool := character.toNat < 32 || character.toNat == 127

def windowsAmbiguousPathSegment (segment : Text) : Bool :=
  if segment.isEmpty || Text.endsWith segment [' '] || Text.endsWith segment ['.'] ||
      segment.any (fun character => character.toNat < 32 || character.toNat == 127 ||
        windowsInvalidCharacters.contains character) ||
      Regex.fullmatch windowsShortAlias segment then true
  else
    windowsReservedStems.contains (mapping.casefold
      (Text.rstripWhile (fun character => character == ' ' || character == '.')
        (segment.takeWhile (· != '.'))))

/-- What the verifier refuses in one declared path. -/
def refusesHarnessInput (path : Text) : Bool :=
  path.isEmpty || path.any isControl || path.contains '\\' || path.contains ':' ||
    Text.startsWith path ['/'] || path.any patternCharacters.contains ||
    (Text.split '/' path).any isDotSegment ||
    (Text.split '/' path).any (windowsAmbiguousPathSegment mapping)

def isCanonicalHarnessInputList (value : List Text) : Bool :=
  if value.isEmpty then false
  else if value != Text.sorted value || value.length != value.dedup.length then false
  else if (value.map mapping.casefold).dedup.length != value.length then false
  else value.all fun path => !refusesHarnessInput mapping path

def harnessSegmentCanAlias (candidate declared : Text) : Bool :=
  if mapping.casefold candidate = mapping.casefold declared then true
  else if mapping.casefold (Text.rstripWhile (fun character => character == ' ' || character == '.')
      candidate) = mapping.casefold declared then true
  else if mapping.casefold (candidate.takeWhile (· != ':')) = mapping.casefold declared then true
  else Regex.fullmatch windowsShortAlias candidate

def touchedPathCanTargetHarness (path : Text) (harnessInputs : List Text) : Bool :=
  harnessInputs.any fun declared =>
    decide ((Text.split '/' path).length ≤ (Text.split '/' declared).length) &&
      ((Text.split '/' path).zip (Text.split '/' declared)).all fun pair =>
        harnessSegmentCanAlias mapping pair.1 pair.2

def pathBeginnings (path : Text) : List Text :=
  (List.range (Text.split '/' path).length).flatMap fun before =>
    [[], ['/']].map fun suffix => Text.join ['/'] ((Text.split '/' path).take (before + 1)) ++ suffix

/-- `setup_output_harness_conflicts` of the producer, from the declared inputs on. -/
def setupOutputConflicts (harnessInputs globs : List Text) :
    Except HarnessInputPolicyError (List Text) :=
  match normalizeHarnessInputs mapping harnessInputs with
  | .error problem => .error problem
  | .ok normalized => .ok (Verifiers.setupOutputHarnessConflicts mapping normalized globs)

def setupOutputHidesHarnessInput (path : Text) (patterns : List Text) : Bool :=
  (pathBeginnings path).any fun candidate =>
    patterns.any fun pattern =>
      Fnmatch.fnmatch (mapping.casefold candidate) (mapping.casefold pattern)

end Definitions

variable (mapping : CaseMapping)

theorem ambiguous_segment_agrees :
    windowsAmbiguousPathSegment mapping = isWindowsAmbiguousPathSegment mapping := rfl

theorem ambiguous_of_character (segment : Text) (character : Char) (inside : character ∈ segment)
    (reserved : isControl character = true ∨ character ∈ windowsInvalidCharacters) :
    isWindowsAmbiguousPathSegment mapping segment = true := by
  have found : segment.any (fun character => character.toNat < 32 || character.toNat == 127 ||
      windowsInvalidCharacters.contains character) = true := by
    apply List.any_eq_true.mpr
    exists character
    apply And.intro inside
    rcases reserved with control | invalid
    · unfold isControl at control
      rw [control, Bool.true_or]
    · rw [List.contains_iff_mem.mpr invalid, Bool.or_true]
  unfold isWindowsAmbiguousPathSegment
  rw [found, Bool.or_true, Bool.true_or, if_pos rfl]

theorem control_is_not_slash (character : Char) (control : isControl character = true) :
    character ≠ '/' := by
  intro same
  rw [same] at control
  exact absurd control (by decide)

variable (path : Text)

theorem reserved_free
    (clear : ∀ part ∈ Text.split '/' path, isWindowsAmbiguousPathSegment mapping part = false) :
    path.any isControl = false ∧ path.contains ':' = false := by
  have free (character : Char) (other : character ≠ '/')
      (reserved : isControl character = true ∨ character ∈ windowsInvalidCharacters) :
      character ∉ path := by
    intro inside
    rcases (Text.mem_split_iff '/' character path other).mpr inside with ⟨part, listed, within⟩
    have ambiguous := ambiguous_of_character mapping part character within reserved
    rw [clear part listed] at ambiguous
    cases ambiguous
  constructor
  · rw [List.any_eq_false]
    intro character inside control
    exact free character (control_is_not_slash character control) (Or.inl control) inside
  · rw [← Bool.not_eq_true, List.contains_iff_mem]
    exact free ':' (by decide) (Or.inr (by decide))

theorem is_absolute_iff (free : path.contains ':' = false) :
    isAbsolute path = Text.startsWith path ['/'] := by
  unfold isAbsolute
  cases path with
  | nil => rfl
  | cons head rest =>
    have apart : Text.startsWith ((head :: rest).drop 1) [':', '/'] = false := by
      rw [List.drop_succ_cons, List.drop_zero, Text.startsWith, ← Bool.not_eq_true,
        List.isPrefixOf_iff_prefix]
      intro begins
      rcases begins with ⟨more, joined⟩
      rw [← Bool.not_eq_true, List.contains_iff_mem] at free
      apply free
      rw [← joined]
      simp
    rw [apart, Bool.or_false]

theorem check_harness_input_ok :
    checkHarnessInput mapping path = .ok () ↔
      isPortableRepoPath mapping path = true ∧ path.any patternCharacters.contains = false ∧
        (Text.split '/' path).any isDotSegment = false := by
  unfold checkHarnessInput
  cases isPortableRepoPath mapping path
  · simp
  · cases path.any patternCharacters.contains
    · cases (Text.split '/' path).any isDotSegment
      · simp
      · simp
    · simp

theorem is_portable_iff :
    isPortableRepoPath mapping path = true ↔
      path.isEmpty = false ∧ path.contains '\\' = false ∧ isAbsolute path = false ∧
        (Text.split '/' path).any isDotSegment = false ∧
          ∀ part ∈ Text.split '/' path, isWindowsAmbiguousPathSegment mapping part = false := by
  unfold isPortableRepoPath
  cases path.isEmpty
  · cases path.contains '\\'
    · cases isAbsolute path
      · simp only [Bool.or_false, Bool.false_eq_true, if_false, true_and, List.all_eq_true,
          Bool.and_eq_true, Bool.not_eq_true', List.any_eq_false, forall_and]
        simp
      · simp
    · simp
  · simp

theorem refuses_harness_input_iff :
    refusesHarnessInput mapping path = false ↔ checkHarnessInput mapping path = .ok () := by
  rw [check_harness_input_ok, is_portable_iff]
  unfold refusesHarnessInput
  rw [ambiguous_segment_agrees]
  simp only [Bool.or_eq_false_iff]
  constructor
  · intro kept
    rcases kept with ⟨⟨⟨⟨⟨⟨⟨full, _⟩, forward⟩, plain⟩, relative⟩, exact_⟩, dots⟩, clear⟩
    have segments : ∀ part ∈ Text.split '/' path,
        isWindowsAmbiguousPathSegment mapping part = false := by
      intro part inside
      exact Bool.eq_false_of_not_eq_true (List.any_eq_false.mp clear part inside)
    rw [is_absolute_iff path plain]
    exact ⟨⟨full, forward, relative, dots, segments⟩, exact_, dots⟩
  · intro accepted
    rcases accepted with ⟨⟨full, forward, relative, dots, segments⟩, exact_, _⟩
    have free := reserved_free mapping path segments
    rw [is_absolute_iff path free.2] at relative
    have clear : (Text.split '/' path).any (isWindowsAmbiguousPathSegment mapping) = false := by
      rw [List.any_eq_false]
      intro part inside
      exact Bool.eq_false_iff.mp (segments part inside)
    exact ⟨⟨⟨⟨⟨⟨⟨full, free.1⟩, forward⟩, free.2⟩, relative⟩, exact_⟩, dots⟩, clear⟩

theorem is_canonical_iff (inputs : List Text) :
    isCanonicalHarnessInputList mapping inputs = true ↔
      inputs ≠ [] ∧ Text.sorted inputs = inputs ∧ inputs.Nodup ∧
        (inputs.map mapping.casefold).Nodup ∧
          ∀ path ∈ inputs, checkHarnessInput mapping path = .ok () := by
  have folded : (inputs.map mapping.casefold).dedup.length = inputs.length ↔
      (inputs.map mapping.casefold).Nodup := by
    rw [← length_dedup_iff, List.length_map]
  have distinct : inputs.length = inputs.dedup.length ↔ inputs.Nodup := by
    rw [← length_dedup_iff, eq_comm]
  have ordered : inputs = Text.sorted inputs ↔ Text.sorted inputs = inputs := eq_comm
  have each : (inputs.all fun path => !refusesHarnessInput mapping path) = true ↔
      ∀ path ∈ inputs, checkHarnessInput mapping path = .ok () := by
    simp only [List.all_eq_true, Bool.not_eq_true', refuses_harness_input_iff]
  unfold isCanonicalHarnessInputList
  rw [← each, ← folded, ← distinct, ← ordered]
  by_cases empty : inputs = []
  · simp [empty]
  · by_cases sorted : inputs = Text.sorted inputs
    · by_cases once : inputs.length = inputs.dedup.length
      · by_cases apart : (inputs.map mapping.casefold).dedup.length = inputs.length
        · simp [empty, ← sorted, ← once, apart]
        · simp [empty, ← sorted, ← once, apart]
      · simp [empty, once]
    · simp [empty, sorted]

theorem is_canonical_iff_normal (inputs : List Text) :
    isCanonicalHarnessInputList mapping inputs = true ↔
      inputs ≠ [] ∧ normalizeHarnessInputs mapping inputs = .ok inputs := by
  rw [is_canonical_iff, normalize_harness_inputs_ok]
  constructor
  · intro canonical
    rcases canonical with ⟨full, sorted, once, apart, each⟩
    exact ⟨full, each, once, apart, sorted.symm⟩
  · intro normal
    rcases normal with ⟨full, each, once, apart, sorted⟩
    exact ⟨full, sorted.symm, once, apart, each⟩

theorem check_harness_input_error (problem : HarnessInputPolicyError)
    (refused : checkHarnessInput mapping path = .error problem) : problem = .notPortable := by
  unfold checkHarnessInput at refused
  split at refused
  · cases refused
    rfl
  · next kept =>
      simp only [Bool.or_eq_true, Bool.not_eq_true', not_or, Bool.not_eq_false] at kept
      have dots := ((is_portable_iff mapping path).mp kept.1).2.2.2.1
      rw [dots] at refused
      cases refused

theorem check_harness_inputs_error (inputs : List Text) (problem : HarnessInputPolicyError)
    (refused : checkHarnessInputs mapping inputs = .error problem) : problem = .notPortable := by
  induction inputs with
  | nil => cases refused
  | cons path rest ih =>
    rw [checkHarnessInputs] at refused
    cases checked : checkHarnessInput mapping path with
    | error other =>
      rw [checked] at refused
      cases refused
      exact check_harness_input_error mapping path problem checked
    | ok done =>
      rw [checked] at refused
      exact ih refused

theorem normalize_harness_inputs_perm (left right : List Text) (same : left.Perm right) :
    normalizeHarnessInputs mapping left = normalizeHarnessInputs mapping right := by
  have checks : checkHarnessInputs mapping left = checkHarnessInputs mapping right := by
    have both : checkHarnessInputs mapping left = .ok () ↔
        checkHarnessInputs mapping right = .ok () := by
      simp only [check_harness_inputs_ok, same.mem_iff]
    cases leftChecked : checkHarnessInputs mapping left with
    | ok done => exact (both.mp leftChecked).symm
    | error problem =>
      cases rightChecked : checkHarnessInputs mapping right with
      | ok done =>
        rw [both.mpr rightChecked] at leftChecked
        cases leftChecked
      | error other =>
        rw [check_harness_inputs_error mapping left problem leftChecked,
          check_harness_inputs_error mapping right other rightChecked]
  have distinct : left.dedup.length = right.dedup.length := same.dedup.length_eq
  have folded : (left.map mapping.casefold).dedup.length =
      (right.map mapping.casefold).dedup.length := ((same.map mapping.casefold).dedup).length_eq
  unfold normalizeHarnessInputs
  rw [checks, distinct, folded, same.length_eq]
  split
  · rfl
  · split
    · rfl
    · next once =>
        rw [ne_eq, not_not, length_dedup_iff] at once
        have sorted : Text.sorted left = Text.sorted right := by
          apply sort_on_eq_of_perm Text.order id left right same
          rw [List.map_id]
          exact same.nodup_iff.mpr once
        rw [sorted]

/-- The verifier's canonical lists are the producer's normal forms. Normalizing again changes
nothing and the order of the inputs does not count; an input given twice is refused. -/
theorem canonical_lists_are_normal_forms :
    (∀ inputs, isCanonicalHarnessInputList mapping inputs = true ↔
      inputs ≠ [] ∧ normalizeHarnessInputs mapping inputs = .ok inputs) ∧
    (∀ inputs normalized, normalizeHarnessInputs mapping inputs = .ok normalized →
      normalizeHarnessInputs mapping normalized = .ok normalized) ∧
    (∀ left right, left.Perm right →
      normalizeHarnessInputs mapping left = normalizeHarnessInputs mapping right) ∧
    ∀ inputs : List Text, ¬ inputs.Nodup →
      ∃ problem, normalizeHarnessInputs mapping inputs = .error problem := by
  apply And.intro (is_canonical_iff_normal mapping)
  constructor
  · intro inputs normalized accepted
    have sorted := ((normalize_harness_inputs_ok mapping inputs normalized).mp accepted).2.2.2
    have same := normalize_harness_inputs_perm mapping inputs normalized
      (sorted ▸ (Text.sorted_perm inputs).symm)
    rw [← same, accepted]
  · apply And.intro (normalize_harness_inputs_perm mapping)
    intro inputs repeated
    cases answer : normalizeHarnessInputs mapping inputs with
    | error problem => exact ⟨problem, rfl⟩
    | ok normalized =>
      exact absurd ((normalize_harness_inputs_ok mapping inputs normalized).mp answer).2.1 repeated

/-- Repetition counts: the same path given once and twice. -/
theorem repeated_input_is_refused :
    (∀ text, text ∈ ["conftest.py".toList] ↔ text ∈ ["conftest.py".toList, "conftest.py".toList]) ∧
      normalizeHarnessInputs asciiCase ["conftest.py".toList] = .ok ["conftest.py".toList] ∧
      normalizeHarnessInputs asciiCase ["conftest.py".toList, "conftest.py".toList] =
        .error .duplicatePaths := by
  constructor
  · intro text
    rw [List.mem_cons, List.mem_cons, or_iff_left (List.not_mem_nil), List.mem_singleton, or_self]
  · constructor
    · decide
    · decide

theorem segment_alias_of_clear (candidate declared : Text)
    (clear : isWindowsAmbiguousPathSegment mapping candidate = false) :
    harnessSegmentCanAlias mapping candidate declared =
      decide (mapping.casefold candidate = mapping.casefold declared) := by
  have free : ':' ∉ candidate := by
    intro inside
    have ambiguous := ambiguous_of_character mapping candidate ':' inside (Or.inr (by decide))
    rw [clear] at ambiguous
    cases ambiguous
  unfold isWindowsAmbiguousPathSegment at clear
  split at clear
  · cases clear
  · next kept =>
      simp only [Bool.or_eq_true, not_or, Bool.not_eq_true] at kept
      rcases kept with ⟨⟨⟨⟨_, space⟩, dot⟩, _⟩, short⟩
      have stripped : Text.rstripWhile (fun character => character == ' ' || character == '.')
          candidate = candidate := by
        apply Text.rstrip_kept
        intro character ends
        rcases List.getLast?_eq_some_iff.mp ends with ⟨front, joined⟩
        rw [joined, Text.endsWith, ← Bool.not_eq_true, List.isSuffixOf_iff_suffix] at space dot
        rw [Bool.or_eq_false_iff, beq_eq_false_iff_ne, beq_eq_false_iff_ne]
        constructor
        · intro same
          exact space ⟨front, by rw [same]⟩
        · intro same
          exact dot ⟨front, by rw [same]⟩
      have whole : candidate.takeWhile (· != ':') = candidate := by
        rw [List.takeWhile_eq_self_iff]
        intro character inside
        rw [bne_iff_ne]
        intro same
        exact free (same ▸ inside)
      unfold harnessSegmentCanAlias
      rw [stripped, whole, short]
      by_cases same : mapping.casefold candidate = mapping.casefold declared
      · simp [same]
      · simp [same]

theorem zip_agrees_iff (key : Text → Text) (left right : List Text) :
    left.length ≤ right.length ∧ (∀ pair ∈ left.zip right, key pair.1 = key pair.2) ↔
      left.map key <+: right.map key := by
  induction left generalizing right with
  | nil => simp
  | cons head rest ih =>
    cases right with
    | nil => simp
    | cons other others =>
      rw [List.map_cons, List.map_cons, List.cons_prefix_cons, ← ih others, List.zip_cons_cons,
        List.forall_mem_cons, List.length_cons, List.length_cons, Nat.add_le_add_iff_right]
      tauto

theorem conflicts_with_iff (folding : CharacterFolding mapping) (path declared : Text) :
    conflictsWith mapping path declared = true ↔
      (Text.split '/' path).map mapping.casefold <+:
        (Text.split '/' declared).map mapping.casefold := by
  rw [← split_casefold folding, ← split_casefold folding, Text.split_begins_iff]
  unfold conflictsWith
  rw [Bool.or_eq_true, beq_iff_eq, Text.startsWith, List.isPrefixOf_iff_prefix]

theorem targets_of_conflict (folding : CharacterFolding mapping) (path : Text)
    (inputs : List Text) (conflict : inputs.any (conflictsWith mapping path) = true) :
    touchedPathCanTargetHarness mapping path inputs = true := by
  rcases List.any_eq_true.mp conflict with ⟨declared, listed, found⟩
  have agree := (zip_agrees_iff mapping.casefold _ _).mpr
    ((conflicts_with_iff mapping folding path declared).mp found)
  apply List.any_eq_true.mpr
  exists declared
  apply And.intro listed
  rw [Bool.and_eq_true, decide_eq_true_iff, List.all_eq_true]
  apply And.intro agree.1
  intro pair inside
  unfold harnessSegmentCanAlias
  rw [if_pos (agree.2 pair inside)]

theorem targets_of_portable (folding : CharacterFolding mapping) (path : Text)
    (portable : isPortableRepoPath mapping path = true) (inputs : List Text) :
    touchedPathCanTargetHarness mapping path inputs = inputs.any (conflictsWith mapping path) := by
  have clear := ((is_portable_iff mapping path).mp portable).2.2.2.2
  rw [Bool.eq_iff_iff]
  constructor
  · intro targets
    rcases List.any_eq_true.mp targets with ⟨declared, listed, found⟩
    rw [Bool.and_eq_true, decide_eq_true_iff, List.all_eq_true] at found
    apply List.any_eq_true.mpr
    exists declared
    apply And.intro listed
    rw [conflicts_with_iff mapping folding, ← zip_agrees_iff]
    apply And.intro found.1
    intro pair inside
    have short := found.2 pair inside
    rw [segment_alias_of_clear mapping pair.1 pair.2 (clear pair.1 (List.of_mem_zip inside).1)]
      at short
    exact of_decide_eq_true short
  · exact targets_of_conflict mapping folding path inputs

theorem path_beginnings_eq (path : Text) :
    pathBeginnings path =
      ((Text.split '/' path).inits.drop 1).flatMap fun parts =>
        [[], ['/']].map fun suffix => Text.join ['/'] parts ++ suffix := by
  have beginnings (segments : List Text) :
      segments.inits.drop 1 =
        (List.range segments.length).map fun before => segments.take (before + 1) := by
    apply List.ext_getElem
    · simp
    · intro position _ _
      simp
  unfold pathBeginnings
  rw [beginnings, List.flatMap_map]

theorem hides_iff (path : Text) (globs : List Text) :
    setupOutputHidesHarnessInput mapping path globs = true ↔
      ∃ glob ∈ globs, setupOutputHidesHarnessInput mapping path [glob] = true := by
  unfold setupOutputHidesHarnessInput
  simp only [List.any_eq_true, List.mem_singleton, exists_eq_left]
  constructor
  · intro hides
    rcases hides with ⟨candidate, begins, glob, listed, found⟩
    exact ⟨glob, listed, candidate, begins, found⟩
  · intro hides
    rcases hides with ⟨glob, listed, candidate, begins, found⟩
    exact ⟨candidate, begins, glob, listed, found⟩

theorem conflicts_are_hidden (inputs globs : List Text) :
    Verifiers.setupOutputHarnessConflicts mapping inputs globs =
      inputs.filter fun path => setupOutputHidesHarnessInput mapping path globs := by
  unfold Verifiers.setupOutputHarnessConflicts
  congr 1
  funext path
  unfold setupOutputHidesHarnessInput
  rw [path_beginnings_eq, List.any_flatMap]
  rfl

/-- On a canonical list the verifier's conflicts are the producer's: for a portable path exactly,
for any other path at least, and for setup outputs pair by pair. -/
theorem harness_conflicts_agree (folding : CharacterFolding mapping) (inputs : List Text)
    (canonical : isCanonicalHarnessInputList mapping inputs = true) :
    (∀ path, isPortableRepoPath mapping path = true →
      harnessInputPathConflicts mapping path inputs =
        .ok (touchedPathCanTargetHarness mapping path inputs)) ∧
    (∀ path, harnessInputPathConflicts mapping path inputs = .ok true →
      touchedPathCanTargetHarness mapping path inputs = true) ∧
    ∀ globs, ∃ hidden, setupOutputConflicts mapping inputs globs = .ok hidden ∧
      (hidden ≠ [] ↔ ∃ path ∈ inputs, ∃ glob ∈ globs,
        setupOutputHidesHarnessInput mapping path [glob] = true) := by
  have normal := ((is_canonical_iff_normal mapping inputs).mp canonical).2
  constructor
  · intro path portable
    rw [harnessInputPathConflicts, normal]
    simp only [targets_of_portable mapping folding path portable inputs]
  · constructor
    · intro path conflict
      rw [harnessInputPathConflicts, normal, Except.ok.injEq] at conflict
      exact targets_of_conflict mapping folding path inputs conflict
    · intro globs
      exists Verifiers.setupOutputHarnessConflicts mapping inputs globs
      constructor
      · rw [setupOutputConflicts, normal]
      · rw [conflicts_are_hidden, ne_eq, List.filter_eq_nil_iff]
        simp only [not_forall, not_not, exists_prop, hides_iff mapping _ globs]

def sampleInputs : List Text := ["judge/conftest.py", "judge/data.json"]

theorem sample_inputs_conflicts_agree :
    harnessInputPathConflicts asciiCase "Judge" sampleInputs =
        .ok (touchedPathCanTargetHarness asciiCase "Judge" sampleInputs) ∧
      (harnessInputPathConflicts asciiCase "judge/Data.json" sampleInputs = .ok true →
        touchedPathCanTargetHarness asciiCase "judge/Data.json" sampleInputs = true) ∧
      ∃ hidden, setupOutputConflicts asciiCase sampleInputs ["judge/*.json"] = .ok hidden ∧
        (hidden ≠ [] ↔ ∃ path ∈ sampleInputs, ∃ glob ∈ ["judge/*.json".toList],
          setupOutputHidesHarnessInput asciiCase path [glob] = true) := by
  have agree := harness_conflicts_agree asciiCase ascii_folds_characters sampleInputs
    (by decide)
  exact ⟨agree.1 _ (by decide), agree.2.1 _, agree.2.2 _⟩

end EvoomGuard.RecordVerifier
