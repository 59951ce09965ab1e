import EvoomGuard.Verifiers.RepoCandidate

/-!
How `guard.py` hands a candidate from its own classification to the verifier: the
changed paths it classifies, the preflight request it evaluates, and the admission the
verifier makes from the problem built afterwards. Two results relate the two sides: the
preflight against the verifier's path gate, and the classified paths against the paths
the verifier admits.
-/

namespace EvoomGuard.Guard

open Lib Candidate Domain Domain.Harness Verifiers

/-- All repository-relative paths a candidate would create or modify. An empty mapping
counts as no mapping. -/
def changedPaths (candidate : Text) (fileBlocks : Option (Dict Text Text)) : List Text :=
  match fileBlocks with
  | some blocks =>
    if blocks.entries.isEmpty then
      editedPaths (parseFileBlocks candidate) (parsePatchBlocks candidate)
    else Text.sorted blocks.keys
  | none => editedPaths (parseFileBlocks candidate) (parsePatchBlocks candidate)

/-- What path admission reads of one guard call. -/
structure GuardCandidate where
  base : BaseTree
  candidate : Text
  fileBlocks : Option (Dict Text Text) := none
  deleted : List Text := []
  protectedGlobs : List Text := []
  allow : List Text := []
  allowNewTests : Bool := false
  strictHarness : Bool := false
  harnessInputs : List Text := []

def GuardCandidate.preflightRequest (call : GuardCandidate) : CandidatePreflightRequest where
  base := call.base
  changedPaths := changedPaths call.candidate call.fileBlocks
  deletedPaths := call.deleted
  protectedGlobs := call.protectedGlobs
  allow := call.allow
  allowNewTests := call.allowNewTests
  strictHarness := call.strictHarness
  harnessInputs := call.harnessInputs

/-- The blocks the problem carries: `if file_blocks: problem["file_blocks"] = …`. -/
def handedOverBlocks : Option (Dict Text Text) → Option (Dict Text Text)
  | some blocks => if blocks.entries.isEmpty then none else some blocks
  | none => none

/-- The admission the verifier makes from the problem. `effective` are the normalized harness
inputs; the deletions are the safe ones of the preflight and no target file is named. -/
def GuardCandidate.admissionRequest (call : GuardCandidate) (preflight : CandidatePreflight)
    (effective : List Text) : RepoCandidateAdmissionRequest where
  base := call.base
  hypothesis := call.candidate
  deletedPaths := preflight.safeDeletedPaths
  fileBlocksOverride := handedOverBlocks call.fileBlocks
  extraProtected := call.protectedGlobs
  harnessInputs := effective
  allow := call.allow
  allowNewTests := call.allowNewTests
  strictHarness := call.strictHarness

private theorem new_paths_congr (mapping : CaseMapping) (base : BaseTree)
    (left right : List Text) (same : ∀ path, path ∈ left ↔ path ∈ right) (path : Text) :
    (newPathsOf mapping base left).contains path =
      (newPathsOf mapping base right).contains path := by
  rw [Bool.eq_iff_iff]
  simp [newPathsOf, same]

theorem violates_sorted_set (mapping : CaseMapping) (request : RepoCandidateAdmissionRequest)
    (changed deleted : List Text) (path : Text) :
    violates mapping (request.preflightRequest (Text.sortedSet changed) deleted) path =
      violates mapping (request.preflightRequest changed deleted) path := by
  have same := new_paths_congr mapping request.base (Text.sortedSet changed) changed
    (fun _ => Text.mem_sorted_set) path
  simp only [violates, RepoCandidateAdmissionRequest.preflightRequest, same]

/-- The preflight and the two gate calls agree, up to the one difference between them: the
deletion gate has no exemption for new tests, so a path that is deleted as well as added
passes the preflight and not the gate. -/
theorem preflight_agrees_with_gate (mapping : CaseMapping)
    (request : RepoCandidateAdmissionRequest) (changed : List Text)
    (preflight : CandidatePreflight)
    (evaluated : evaluateCandidatePreflight mapping
      (request.preflightRequest changed request.deletedPaths) = .ok preflight)
    (outside : ∀ path, path ∈ changed ∨ path ∈ request.deletedPaths →
      insideVerifierPack path = false)
    (noBlank : ∀ path ∈ request.deletedPaths, Text.strip path ≠ []) :
    (preflight.clean = true ∧
        ∀ path ∈ changed, path ∈ request.deletedPaths →
          ridesNewTestExemption mapping (request.preflightRequest changed request.deletedPaths)
            path = false) ↔
      editGate mapping request (Text.sortedSet changed) = .ok none ∧
        deletionGate mapping request (requestedDeletions request) = .ok none := by
  obtain ⟨normalized, accepted⟩ := normalized_of_evaluated mapping _ preflight evaluated
  have allDeletions : requestedDeletions request = request.deletedPaths := by
    rw [requestedDeletions, List.filter_eq_self]
    intro path inside
    simpa using noBlank path inside
  rw [clean_iff mapping _ preflight evaluated, allDeletions,
    edit_gate_none mapping request _ normalized accepted request.deletedPaths
      (fun path inside => outside path (Or.inl (Text.mem_sorted_set.mp inside))),
    deletion_gate_none mapping request _ normalized accepted]
  simp only [Text.mem_sorted_set, violates_sorted_set]
  have deletion : ∀ path ∈ request.deletedPaths,
      (judgeOwned mapping request.base request.harnessInputs request.extraProtected
          request.allow false request.strictHarness false path = false ↔
        violates mapping (request.preflightRequest changed request.deletedPaths) path = false ∧
          ridesNewTestExemption mapping
            (request.preflightRequest changed request.deletedPaths) path = false) := by
    intro path inside
    rw [violates, outside path (Or.inr inside), Bool.false_or]
    exact judge_owned_without_exemption mapping request.base request.harnessInputs
      request.extraProtected request.allow request.allowNewTests request.strictHarness _ path
  -- A path the request does not change is not new, so only a changed one can ride.
  have ridesOnlyChanged : ∀ path, path ∉ changed → ridesNewTestExemption mapping
      (request.preflightRequest changed request.deletedPaths) path = false := by
    intro path absent
    have notNew : (newPathsOf mapping request.base changed).contains path = false := by
      simp [newPathsOf, absent]
    simp only [ridesNewTestExemption, RepoCandidateAdmissionRequest.preflightRequest, notNew,
      isAddableNewTest, Bool.false_and, Bool.and_false]
  constructor
  · rintro ⟨safe, noOverlap⟩
    refine ⟨fun path inside => safe path (Or.inl inside), fun path inside => ?_⟩
    refine ⟨(safe path (Or.inr inside)).1, (deletion path inside).mpr ?_⟩
    refine ⟨(safe path (Or.inr inside)).2, ?_⟩
    by_cases edited : path ∈ changed
    · exact noOverlap path edited inside
    · exact ridesOnlyChanged path edited
  · rintro ⟨edits, deletions⟩
    constructor
    · rintro path (inside | inside)
      · exact edits path inside
      · exact ⟨(deletions path inside).1, ((deletion path inside).mp (deletions path inside).2).1⟩
    · exact fun path _ inside => ((deletion path inside).mp (deletions path inside).2).2

def bareBase : BaseTree where
  exists? := fun _ => false
  lexists := fun _ => false
  samefile := fun _ _ => none
  discoverLocalActionDirs := []

def newTestPath : Text := "tests/test_x.py"

/-- A request that deletes the new test it adds, in feature mode. -/
def overlapRequest : RepoCandidateAdmissionRequest where
  base := bareBase
  deletedPaths := [newTestPath]
  allowNewTests := true

def blankRequest : RepoCandidateAdmissionRequest where
  base := bareBase
  deletedPaths := [[' ']]

/-- The preflight is clean exactly when both gate calls return nothing. -/
def GatesAgree (mapping : CaseMapping) (request : RepoCandidateAdmissionRequest)
    (changed : List Text) : Prop :=
  ∀ preflight, evaluateCandidatePreflight mapping
      (request.preflightRequest changed request.deletedPaths) = .ok preflight →
    (∀ path, path ∈ changed ∨ path ∈ request.deletedPaths → insideVerifierPack path = false) →
    (preflight.clean = true ↔
      editGate mapping request (Text.sortedSet changed) = .ok none ∧
        deletionGate mapping request (requestedDeletions request) = .ok none)

/-- Both differences are real. The preflight reports nothing about the overlap and the
deletion gate rejects it; the preflight reports the blank deletion as unsafe and the
admission drops it before the gate. -/
theorem preflight_gate_disagreements :
    ¬ GatesAgree asciiCase overlapRequest [newTestPath] ∧ ¬ GatesAgree asciiCase blankRequest [] := by
  constructor
  · intro agree
    have answer := evaluate_candidate_preflight_ok asciiCase
      (overlapRequest.preflightRequest [newTestPath] overlapRequest.deletedPaths) [] rfl
    have both := agree _ answer (by
      rintro path (inside | inside) <;> cases List.mem_singleton.mp inside <;> decide)
    have rejected := (both.mp (by decide +kernel)).2
    rw [deletion_gate_none asciiCase overlapRequest _ [] rfl] at rejected
    have owned := (rejected newTestPath (by decide +kernel)).2
    revert owned
    decide +kernel
  · intro agree
    have answer := evaluate_candidate_preflight_ok asciiCase
      (blankRequest.preflightRequest [] blankRequest.deletedPaths) [] rfl
    have both := agree _ answer (by
      rintro path (inside | inside)
      · cases inside
      · cases List.mem_singleton.mp inside
        decide)
    have clean := both.mpr ⟨rfl, rfl⟩
    revert clean
    decide +kernel

/-- A source edit and the deletion of another source file. -/
def sourceRequest : RepoCandidateAdmissionRequest where
  base := bareBase
  deletedPaths := ["src/old.py"]

theorem preflight_agrees_on_source_edit :
    editGate asciiCase sourceRequest (Text.sortedSet ["src/app.py"]) = .ok none ∧
      deletionGate asciiCase sourceRequest (requestedDeletions sourceRequest) = .ok none :=
  (preflight_agrees_with_gate asciiCase sourceRequest ["src/app.py"] _
    (evaluate_candidate_preflight_ok asciiCase
      (sourceRequest.preflightRequest ["src/app.py"] sourceRequest.deletedPaths) [] rfl)
    (by rintro path (inside | inside) <;> cases List.mem_singleton.mp inside <;> decide)
    (by intro path inside; cases List.mem_singleton.mp inside; decide)).mp
    ⟨by decide +kernel, by intro path inside; cases List.mem_singleton.mp inside; decide⟩

def AdmitsClassified (mapping : CaseMapping) (call : GuardCandidate)
    (preflight : CandidatePreflight) (effective : List Text) : Prop :=
  ∃ outcome, admitRepoCandidate mapping (call.admissionRequest preflight effective) =
      .ok outcome ∧
    ∀ path, path ∈ reportedFiles outcome ↔ path ∈ changedPaths call.candidate call.fileBlocks

/-- Neither structured blocks nor a strictly formed block: the verifier falls back to the
lenient parsers. -/
def fallsBack (call : GuardCandidate) : Bool :=
  (handedOverBlocks call.fileBlocks).isNone &&
    (parseFileBlocks call.candidate).entries.isEmpty && (parsePatchBlocks call.candidate).isEmpty

def lenientPaths (call : GuardCandidate) : List Text :=
  let blocks := parseBlocksLenient call.candidate none
  editedPaths blocks.1 blocks.2

/-- A path the policy of the call lets a candidate with these changes write. -/
def writable (mapping : CaseMapping) (call : GuardCandidate) (changed : List Text)
    (path : Text) : Bool :=
  isSafeRelpath mapping path &&
    !judgeOwned mapping call.base call.harnessInputs call.protectedGlobs call.allow
      call.allowNewTests call.strictHarness
      ((newPathsOf mapping call.base changed).contains path) path

theorem edited_paths_of_mapping (blocks : Dict Text Text) :
    editedPaths blocks [] = Text.sorted blocks.keys := by
  rw [editedPaths, List.map_nil, List.append_nil, Text.sortedSet]
  exact congrArg Text.sorted blocks.nodup.dedup

theorem candidate_blocks_agree (call : GuardCandidate) (preflight : CandidatePreflight)
    (effective : List Text) (direct : fallsBack call = false) :
    editedPaths (candidateBlocks (call.admissionRequest preflight effective)).1
        (candidateBlocks (call.admissionRequest preflight effective)).2 =
      changedPaths call.candidate call.fileBlocks := by
  unfold candidateBlocks changedPaths
  simp only [GuardCandidate.admissionRequest]
  have strict : handedOverBlocks call.fileBlocks = none →
      ((parseFileBlocks call.candidate).entries.isEmpty &&
        (parsePatchBlocks call.candidate).isEmpty) = false := by
    intro noBlocks
    simpa only [fallsBack, noBlocks, Option.isNone_none, Bool.true_and] using direct
  cases given : call.fileBlocks with
  | none =>
    have noBlocks : handedOverBlocks call.fileBlocks = none := by rw [given]; rfl
    simp [handedOverBlocks, strict noBlocks]
  | some blocks =>
    by_cases empty : blocks.entries.isEmpty = true
    · have noBlocks : handedOverBlocks (some blocks) = none := if_pos empty
      simp only [noBlocks, strict (given ▸ noBlocks), empty, if_true, Bool.false_eq_true,
        if_false]
    · have handed : handedOverBlocks (some blocks) = some blocks := if_neg empty
      simp only [handed, empty, edited_paths_of_mapping, Bool.false_eq_true, if_false]

/-- In the fallback the guard has classified nothing and the verifier reads the lenient
blocks. -/
theorem candidate_blocks_fall_back (call : GuardCandidate) (preflight : CandidatePreflight)
    (effective : List Text) (fallback : fallsBack call = true) :
    changedPaths call.candidate call.fileBlocks = [] ∧
      candidateBlocks (call.admissionRequest preflight effective) =
        parseBlocksLenient call.candidate none := by
  simp only [fallsBack, Bool.and_eq_true, Option.isNone_iff_eq_none] at fallback
  obtain ⟨⟨noBlocks, noFile⟩, noPatch⟩ := fallback
  have strict : editedPaths (parseFileBlocks call.candidate) (parsePatchBlocks call.candidate) =
      [] := by
    rw [edited_paths_eq_nil, noFile, noPatch]
    rfl
  constructor
  · unfold changedPaths
    cases given : call.fileBlocks with
    | none => exact strict
    | some blocks =>
      have empty : blocks.entries.isEmpty = true := by
        by_contra nonempty
        rw [given, handedOverBlocks, if_neg nonempty] at noBlocks
        cases noBlocks
      simp only [empty, if_true, strict]
  · simp [candidateBlocks, GuardCandidate.admissionRequest, noBlocks, noFile, noPatch]

section Handover

variable (mapping : CaseMapping) (call : GuardCandidate) (preflight : CandidatePreflight)
  (effective : List Text)
  (evaluated : evaluateCandidatePreflight mapping call.preflightRequest = .ok preflight)
  (accepted : normalizeHarnessInputs mapping call.harnessInputs = .ok effective)

include accepted in
theorem edit_gate_writable (changed : List Text) :
    editGate mapping (call.admissionRequest preflight effective) changed = .ok none ↔
      ∀ path ∈ changed, writable mapping call changed path = true := by
  obtain ⟨again, twice, -⟩ := normalize_harness_inputs_again mapping _ _ accepted
  rw [editGate, reject_unsafe_or_protected_none]
  refine forall₂_congr fun path _ => ?_
  rw [reject_path_none mapping call.base path _ _ again rfl rfl twice]
  simp only [writable, Bool.and_eq_true, Bool.not_eq_true', GuardCandidate.admissionRequest]
  rw [judge_owned_congr mapping call.base effective call.harnessInputs _ _ _ _ _ _
    (mem_normalized_inputs mapping _ _ accepted)]

include evaluated in
theorem safe_deletions_of_clean (clean : preflight.clean = true) :
    ∀ path, path ∈ preflight.safeDeletedPaths ↔ path ∈ call.deleted := by
  intro path
  have each := (clean_iff mapping _ preflight evaluated).mp clean
  obtain ⟨normalized, valid⟩ := normalized_of_evaluated mapping _ preflight evaluated
  rw [evaluate_candidate_preflight_ok mapping _ normalized valid] at evaluated
  cases evaluated
  rw [Text.mem_sorted, List.mem_filter]
  constructor
  · exact fun inside => inside.1
  · intro inside
    obtain ⟨safe, clear⟩ := each path (Or.inr inside)
    exact ⟨inside, by rw [safe, clear]; rfl⟩

include evaluated accepted in
/-- After a clean preflight the deletion gate objects to nothing but a deletion, not blank,
that rides on the exemption for new tests. -/
theorem deletion_gate_after_clean (clean : preflight.clean = true) :
    deletionGate mapping (call.admissionRequest preflight effective)
        (requestedDeletions (call.admissionRequest preflight effective)) = .ok none ↔
      ∀ path ∈ call.deleted, Text.strip path ≠ [] →
        ridesNewTestExemption mapping call.preflightRequest path = false := by
  obtain ⟨again, twice, -⟩ := normalize_harness_inputs_again mapping _ _ accepted
  have each := (clean_iff mapping _ preflight evaluated).mp clean
  have requested : ∀ path, path ∈ requestedDeletions (call.admissionRequest preflight effective) ↔
      path ∈ call.deleted ∧ Text.strip path ≠ [] := by
    intro path
    simp only [requestedDeletions, GuardCandidate.admissionRequest, List.mem_filter,
      safe_deletions_of_clean mapping call preflight evaluated clean, Bool.not_eq_true',
      List.isEmpty_eq_false_iff, ne_eq]
  rw [deletion_gate_none mapping _ _ again twice]
  simp only [requested, and_imp]
  refine forall₃_congr fun path inside _ => ?_
  obtain ⟨safe, clear⟩ := each path (Or.inr inside)
  have owned : judgeOwned mapping call.base call.harnessInputs call.protectedGlobs call.allow
      call.allowNewTests call.strictHarness
      ((newPathsOf mapping call.base (changedPaths call.candidate call.fileBlocks)).contains path)
      path = false := by
    simp only [violates, Bool.or_eq_false_iff] at clear
    exact clear.2
  simp only [GuardCandidate.admissionRequest, safe, true_and]
  rw [judge_owned_congr mapping call.base effective call.harnessInputs _ _ _ _ _ _
    (mem_normalized_inputs mapping _ _ accepted),
    judge_owned_without_exemption mapping call.base _ _ _ call.allowNewTests call.strictHarness
      ((newPathsOf mapping call.base
        (changedPaths call.candidate call.fileBlocks)).contains path) path]
  simp only [owned, true_and]
  rfl

include accepted in
/-- The verifier reports its own reading of the blocks when both gates pass, else nothing. -/
theorem admission_reports :
    let request := call.admissionRequest preflight effective
    let changed := editedPaths (candidateBlocks request).1 (candidateBlocks request).2
    ∃ outcome, admitRepoCandidate mapping request = .ok outcome ∧
      (((∀ path ∈ changed, writable mapping call changed path = true) ∧
          deletionGate mapping request (requestedDeletions request) = .ok none ∧
          reportedFiles outcome = changed) ∨
        (¬ ((∀ path ∈ changed, writable mapping call changed path = true) ∧
            deletionGate mapping request (requestedDeletions request) = .ok none) ∧
          reportedFiles outcome = [])) := by
  intro request changed
  obtain ⟨again, twice, -⟩ := normalize_harness_inputs_again mapping _ _ accepted
  obtain ⟨edit, deletion⟩ := admission_gates_answer mapping request again twice changed
    (requestedDeletions request)
  rw [← edit_gate_writable mapping call preflight effective accepted changed]
  exact admit_repo_candidate_reports mapping request rfl edit deletion

include evaluated accepted in
/-- Outside the fallback the admitted paths are the classified ones, unless a path is deleted
while it rides on the exemption for new tests. -/
theorem admits_classified_direct (clean : preflight.clean = true)
    (direct : fallsBack call = false) :
    AdmitsClassified mapping call preflight effective ↔
      ∀ path ∈ call.deleted, Text.strip path ≠ [] →
        ridesNewTestExemption mapping call.preflightRequest path = false := by
  have each := (clean_iff mapping _ preflight evaluated).mp clean
  obtain ⟨outcome, answer, files⟩ := admission_reports mapping call preflight effective accepted
  simp only [candidate_blocks_agree call preflight effective direct] at files
  have edits : ∀ path ∈ changedPaths call.candidate call.fileBlocks,
      writable mapping call (changedPaths call.candidate call.fileBlocks) path = true := by
    intro path inside
    obtain ⟨safe, clear⟩ := each path (Or.inl inside)
    simp only [violates, Bool.or_eq_false_iff] at clear
    rw [writable, safe, Bool.true_and, Bool.not_eq_true']
    exact clear.2
  have deletions := deletion_gate_after_clean mapping call preflight effective evaluated
    accepted clean
  rw [← deletions]
  rcases files with ⟨-, passed, files⟩ | ⟨refused, files⟩
  · exact ⟨fun _ => passed, fun _ => ⟨outcome, answer, fun path => by rw [files]⟩⟩
  · constructor
    · rintro ⟨other, sameAnswer, sameFiles⟩
      rw [answer] at sameAnswer
      cases sameAnswer
      rw [deletions]
      intro path _ _
      -- Nothing is reported, so nothing was changed, and only a changed path can ride.
      have nothing : path ∉ changedPaths call.candidate call.fileBlocks := by
        rw [← sameFiles path, files]
        exact List.not_mem_nil
      simp [ridesNewTestExemption, isAddableNewTest, newPathsOf,
        GuardCandidate.preflightRequest, nothing]
    · exact fun passed => absurd ⟨edits, passed⟩ refused

include evaluated accepted in
/-- In the fallback the guard has classified nothing, so the two agree exactly when the
verifier finds nothing it may write either. -/
theorem admits_classified_fallback (clean : preflight.clean = true)
    (fallback : fallsBack call = true) :
    AdmitsClassified mapping call preflight effective ↔
      lenientPaths call = [] ∨
        ∃ path ∈ lenientPaths call, writable mapping call (lenientPaths call) path = false := by
  obtain ⟨nothing, blocks⟩ := candidate_blocks_fall_back call preflight effective fallback
  obtain ⟨outcome, answer, files⟩ := admission_reports mapping call preflight effective accepted
  have lenient : editedPaths (candidateBlocks (call.admissionRequest preflight effective)).1
      (candidateBlocks (call.admissionRequest preflight effective)).2 = lenientPaths call := by
    rw [blocks]
    rfl
  have deletions : deletionGate mapping (call.admissionRequest preflight effective)
      (requestedDeletions (call.admissionRequest preflight effective)) = .ok none := by
    rw [deletion_gate_after_clean mapping call preflight effective evaluated accepted clean]
    intro path _ _
    simp [ridesNewTestExemption, isAddableNewTest, newPathsOf, GuardCandidate.preflightRequest,
      nothing]
  simp only [lenient, deletions, true_and, and_true] at files
  have agrees : AdmitsClassified mapping call preflight effective ↔ reportedFiles outcome = [] := by
    simp only [AdmitsClassified, nothing, answer, Except.ok.injEq, List.not_mem_nil, iff_false,
      ← List.eq_nil_iff_forall_not_mem, exists_eq_left']
  rw [agrees]
  rcases files with ⟨allWritable, files⟩ | ⟨someRefused, files⟩
  · rw [files]
    constructor
    · exact Or.inl
    · rintro (empty | ⟨path, inside, refused⟩)
      · exact empty
      · rw [allWritable path inside] at refused
        cases refused
  · simp only [not_forall, Bool.not_eq_true] at someRefused
    obtain ⟨path, inside, refused⟩ := someRefused
    exact ⟨fun _ => Or.inr ⟨path, inside, refused⟩, fun _ => files⟩

end Handover

/-- What is classified is what is admitted, exactly when the verifier does not find writable
paths in a text the guard read as empty, and no path that rides on the exemption for new
tests is deleted as well. -/
theorem admits_classified_iff (mapping : CaseMapping) (call : GuardCandidate)
    (preflight : CandidatePreflight) (effective : List Text)
    (evaluated : evaluateCandidatePreflight mapping call.preflightRequest = .ok preflight)
    (accepted : normalizeHarnessInputs mapping call.harnessInputs = .ok effective)
    (admitted : preflight.mayExecute = true) :
    AdmitsClassified mapping call preflight effective ↔
      (fallsBack call = true → lenientPaths call = [] ∨
        ∃ path ∈ lenientPaths call, writable mapping call (lenientPaths call) path = false) ∧
      ∀ path ∈ changedPaths call.candidate call.fileBlocks, path ∈ call.deleted →
        Text.strip path ≠ [] →
          ridesNewTestExemption mapping call.preflightRequest path = false := by
  have clean := may_execute_clean preflight admitted
  by_cases fallback : fallsBack call = true
  · obtain ⟨nothing, -⟩ := candidate_blocks_fall_back call preflight effective fallback
    rw [admits_classified_fallback mapping call preflight effective evaluated accepted clean
      fallback, nothing]
    simp [fallback]
  · rw [admits_classified_direct mapping call preflight effective evaluated accepted clean
      (by simpa using fallback)]
    simp only [fallback, Bool.false_eq_true, false_implies, true_and]
    constructor
    · exact fun noRide path _ inside => noRide path inside
    · intro noRide path inside notBlank
      by_cases changed : path ∈ changedPaths call.candidate call.fileBlocks
      · exact noRide path changed inside notBlank
      · simp [ridesNewTestExemption, isAddableNewTest, newPathsOf,
          GuardCandidate.preflightRequest, changed]

/-- A candidate with no strictly formed block, a deletion, and one block only the lenient
parser reads. -/
def lenientOnlyCall : GuardCandidate where
  base := bareBase
  candidate := "<FILE: src/a.py>\nevil\n</FILE>"
  deleted := ["old.py"]

/-- The guard classifies no path of that candidate and lets it execute; the verifier admits
`src/a.py`. -/
theorem lenient_only_call_diverges :
    ∃ preflight, evaluateCandidatePreflight asciiCase lenientOnlyCall.preflightRequest =
        .ok preflight ∧
      preflight.mayExecute = true ∧
      ¬ AdmitsClassified asciiCase lenientOnlyCall preflight [] := by
  refine ⟨_, evaluate_candidate_preflight_ok asciiCase lenientOnlyCall.preflightRequest [] rfl,
    by decide, ?_⟩
  rw [admits_classified_fallback asciiCase lenientOnlyCall _ []
    (evaluate_candidate_preflight_ok asciiCase lenientOnlyCall.preflightRequest [] rfl) rfl
    (by decide) (by decide)]
  have lenient : lenientPaths lenientOnlyCall = ["src/a.py"] := by decide
  rw [lenient]
  rintro (empty | ⟨path, inside, refused⟩)
  · cases empty
  · cases List.mem_singleton.mp inside
    revert refused
    decide

/-- The same edit in the strict format. -/
def strictCall : GuardCandidate where
  base := bareBase
  candidate := "<<<FILE: src/a.py>>>\nok\n<<<END FILE>>>"
  deleted := ["old.py"]

theorem admits_classified_strict_call :
    ∃ preflight, evaluateCandidatePreflight asciiCase strictCall.preflightRequest =
        .ok preflight ∧
      AdmitsClassified asciiCase strictCall preflight [] := by
  refine ⟨_, evaluate_candidate_preflight_ok asciiCase strictCall.preflightRequest [] rfl, ?_⟩
  refine (admits_classified_iff asciiCase strictCall _ []
    (evaluate_candidate_preflight_ok asciiCase strictCall.preflightRequest [] rfl) rfl
    (by decide)).mpr ⟨?_, ?_⟩
  · intro fallback
    have direct : fallsBack strictCall = false := by decide
    rw [direct] at fallback
    cases fallback
  · intro path changed deleted
    have only : changedPaths strictCall.candidate strictCall.fileBlocks = ["src/a.py"] := by
      decide
    rw [only] at changed
    cases List.mem_singleton.mp changed
    revert deleted
    decide

end EvoomGuard.Guard
