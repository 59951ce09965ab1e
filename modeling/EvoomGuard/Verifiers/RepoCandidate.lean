import EvoomGuard.Candidate.Edits
import EvoomGuard.Verifiers.CandidatePreflight

/-!
The verifier's own candidate admission, `admit_repo_candidate` of
`verifiers/repo_candidate.py`. The live providers of the source are the fields of the
request: what the problem says at the time of the call.
-/

namespace EvoomGuard.Verifiers

open Lib Candidate Domain Domain.Harness

structure RepoCandidateAdmissionRequest where
  base : BaseTree
  isDirectory : Bool := true
  hypothesis : Text := []
  deletedPaths : List Text := []
  fileBlocksOverride : Option (Dict Text Text) := none
  targetFiles : List Text := []
  extraProtected : List Text := []
  harnessInputs : List Text := []
  allow : List Text := []
  allowNewTests : Bool := false
  strictHarness : Bool := false

structure AdmittedRepoCandidate where
  fileBlocks : Dict Text Text
  patchBlocks : List PatchBlock
  deletedPaths : List Text
  filesChanged : List Text
  strictHarness : Bool

inductive RepoCandidateAdmissionOutcome where
  | admitted (candidate : AdmittedRepoCandidate)
  | terminal (result : VerdictResult CandidateArtifact)

inductive RepoCandidateAdmissionError where
  | notADirectory
  | harnessInputs (problem : HarnessInputPolicyError)

/-- The gate on the changed paths, with the keyword arguments of its call. -/
def editGate (mapping : CaseMapping) (request : RepoCandidateAdmissionRequest)
    (changed : List Text) :
    Except HarnessInputPolicyError (Option (VerdictResult CandidateArtifact)) :=
  rejectUnsafeOrProtected mapping request.extraProtected
    { harnessInputs := request.harnessInputs
      repoPath := some request.base
      allowNewTests := request.allowNewTests
      newPaths := newPathsOf mapping request.base changed
      allow := request.allow
      localActionDirs := request.base.discoverLocalActionDirs
      strictHarness := request.strictHarness }
    changed

/-- The gate on the deleted paths: the call passes no new-test exemption. -/
def deletionGate (mapping : CaseMapping) (request : RepoCandidateAdmissionRequest)
    (deletedPaths : List Text) :
    Except HarnessInputPolicyError (Option (VerdictResult CandidateArtifact)) :=
  if deletedPaths.isEmpty then .ok none
  else
    rejectUnsafeOrProtected mapping request.extraProtected
      { harnessInputs := request.harnessInputs
        repoPath := some request.base
        allow := request.allow
        localActionDirs := request.base.discoverLocalActionDirs
        strictHarness := request.strictHarness }
      deletedPaths

def requestedDeletions (request : RepoCandidateAdmissionRequest) : List Text :=
  request.deletedPaths.filter fun path => !(Text.strip path).isEmpty

/-- The structured transport when a mapping is present, else the strict parsers, else the
lenient ones. -/
def candidateBlocks (request : RepoCandidateAdmissionRequest) :
    Dict Text Text × List PatchBlock :=
  match request.fileBlocksOverride with
  | some fileBlocks => (fileBlocks, [])
  | none =>
    let fileBlocks := parseFileBlocks request.hypothesis
    let patchBlocks := parsePatchBlocks request.hypothesis
    if fileBlocks.entries.isEmpty && patchBlocks.isEmpty then
      let targets := request.targetFiles.filter fun target => !(Text.strip target).isEmpty
      parseBlocksLenient request.hypothesis (if targets.length = 1 then targets.head? else none)
    else (fileBlocks, patchBlocks)

def noParseableBlocks : VerdictResult CandidateArtifact where
  passed := false
  score := 2 / 100
  diagnostics :=
    ("no parseable blocks; expected " ++
      "<<<FILE: path>>> … <<<END FILE>>> or " ++
      "<<<PATCH: path>>> <<<SEARCH>>> … <<<REPLACE>>> … <<<END PATCH>>>").toList
  artifact := { filesChanged := [] }

/-- Parses and admits a repository candidate before workspace allocation. -/
def admitRepoCandidate (mapping : CaseMapping) (request : RepoCandidateAdmissionRequest) :
    Except RepoCandidateAdmissionError RepoCandidateAdmissionOutcome :=
  if !request.isDirectory then .error .notADirectory
  else
    let deletedPaths := requestedDeletions request
    let blocks := candidateBlocks request
    if blocks.1.entries.isEmpty && blocks.2.isEmpty && deletedPaths.isEmpty then
      .ok (.terminal noParseableBlocks)
    else
      let changed := editedPaths blocks.1 blocks.2
      match editGate mapping request changed with
      | .error problem => .error (.harnessInputs problem)
      | .ok (some rejection) => .ok (.terminal rejection)
      | .ok none =>
        match deletionGate mapping request deletedPaths with
        | .error problem => .error (.harnessInputs problem)
        | .ok (some rejection) => .ok (.terminal rejection)
        | .ok none =>
          .ok (.admitted {
            fileBlocks := blocks.1
            patchBlocks := blocks.2
            deletedPaths := deletedPaths
            filesChanged := changed
            strictHarness := request.strictHarness })

/-- The changed files an admission reports; a terminal result carries its own list. -/
def reportedFiles : RepoCandidateAdmissionOutcome → List Text
  | .admitted candidate => candidate.filesChanged
  | .terminal result => result.artifact.filesChanged

/-- The preflight request over the base tree and the policy of an admission. -/
def RepoCandidateAdmissionRequest.preflightRequest (request : RepoCandidateAdmissionRequest)
    (changed deleted : List Text) : CandidatePreflightRequest where
  base := request.base
  changedPaths := changed
  deletedPaths := deleted
  protectedGlobs := request.extraProtected
  allow := request.allow
  allowNewTests := request.allowNewTests
  strictHarness := request.strictHarness
  harnessInputs := request.harnessInputs

def ridesNewTestExemption (mapping : CaseMapping) (request : CandidatePreflightRequest)
    (path : Text) : Bool :=
  request.allowNewTests &&
    isAddableNewTest mapping path request.protectedGlobs
      ((newPathsOf mapping request.base request.changedPaths).contains path)
      request.base.discoverLocalActionDirs request.strictHarness

variable (mapping : CaseMapping) (request : RepoCandidateAdmissionRequest)

theorem edit_gate_none (changed normalized : List Text)
    (accepted : normalizeHarnessInputs mapping request.harnessInputs = .ok normalized)
    (deleted : List Text) (outside : ∀ path ∈ changed, insideVerifierPack path = false) :
    editGate mapping request changed = .ok none ↔
      ∀ path ∈ changed, isSafeRelpath mapping path = true ∧
        violates mapping (request.preflightRequest changed deleted) path = false := by
  rw [editGate, reject_unsafe_or_protected_none]
  refine forall₂_congr fun path touched => ?_
  rw [reject_path_none mapping request.base path _ _ normalized rfl rfl accepted, violates,
    outside path touched]
  rfl

theorem deletion_gate_none (deleted normalized : List Text)
    (accepted : normalizeHarnessInputs mapping request.harnessInputs = .ok normalized) :
    deletionGate mapping request deleted = .ok none ↔
      ∀ path ∈ deleted, isSafeRelpath mapping path = true ∧
        judgeOwned mapping request.base request.harnessInputs request.extraProtected
          request.allow false request.strictHarness false path = false := by
  have gate : rejectUnsafeOrProtected mapping request.extraProtected
      { harnessInputs := request.harnessInputs
        repoPath := some request.base
        allow := request.allow
        localActionDirs := request.base.discoverLocalActionDirs
        strictHarness := request.strictHarness } deleted = .ok none ↔
      ∀ path ∈ deleted, isSafeRelpath mapping path = true ∧
        judgeOwned mapping request.base request.harnessInputs request.extraProtected
          request.allow false request.strictHarness false path = false := by
    rw [reject_unsafe_or_protected_none]
    refine forall₂_congr fun path _ => ?_
    exact reject_path_none mapping request.base path _ _ normalized rfl rfl accepted
  unfold deletionGate
  by_cases empty : deleted = []
  · subst empty
    simp
  · rw [if_neg (by simpa using empty), gate]

theorem admission_gates_answer (normalized : List Text)
    (accepted : normalizeHarnessInputs mapping request.harnessInputs = .ok normalized)
    (changed deleted : List Text) :
    (editGate mapping request changed = .ok none ∨
      ∃ diagnostics, editGate mapping request changed =
        .ok (some (gateRejection diagnostics))) ∧
    (deletionGate mapping request deleted = .ok none ∨
      ∃ diagnostics, deletionGate mapping request deleted =
        .ok (some (gateRejection diagnostics))) := by
  constructor
  · exact reject_unsafe_or_protected_answers mapping request.base _ _ normalized rfl accepted
      changed
  · unfold deletionGate
    split_ifs
    · exact Or.inl rfl
    · exact reject_unsafe_or_protected_answers mapping request.base _ _ normalized rfl accepted
        deleted

/-- Without the new-test exemption a path is judge-owned exactly when it is so with it, or
rides on it: nothing that is a new test can be waived by the allowlist. -/
theorem judge_owned_without_exemption (mapping : CaseMapping) (base : BaseTree)
    (inputs extra allow : List Text) (allowNewTests strict isNew : Bool) (path : Text) :
    judgeOwned mapping base inputs extra allow false strict false path = false ↔
      judgeOwned mapping base inputs extra allow allowNewTests strict isNew path = false ∧
        (allowNewTests && isAddableNewTest mapping path extra isNew
          base.discoverLocalActionDirs strict) = false := by
  cases addable : (allowNewTests && isAddableNewTest mapping path extra isNew
    base.discoverLocalActionDirs strict) with
  | false => simp [judgeOwned, addable]
  | true =>
    have builtIn : isProtected mapping path [] = true := by
      simp only [isAddableNewTest, Bool.and_eq_true] at addable
      exact addable.2.1.1.1.1.1.2
    have judging := protected_mono mapping path extra builtIn
    have fixed : isAllowlistExemptible mapping path base.discoverLocalActionDirs strict =
        false := by
      simp [isAllowlistExemptible, builtIn]
    simp [judgeOwned, judging, fixed]

theorem edited_paths_eq_nil (fileBlocks : Dict Text Text) (patchBlocks : List PatchBlock) :
    editedPaths fileBlocks patchBlocks = [] ↔
      (fileBlocks.entries.isEmpty && patchBlocks.isEmpty) = true := by
  rw [List.eq_nil_iff_forall_not_mem]
  simp only [mem_edited_paths, Dict.keys, Bool.and_eq_true, List.isEmpty_iff]
  constructor
  · intro none
    constructor
    · by_contra some
      obtain ⟨entry, rest, cons⟩ := List.exists_cons_of_ne_nil some
      exact none entry.1 (Or.inl (by simp [cons]))
    · by_contra some
      obtain ⟨block, rest, cons⟩ := List.exists_cons_of_ne_nil some
      exact none block.path (Or.inr ⟨block, by simp [cons], rfl⟩)
  · rintro ⟨noFile, noPatch⟩ path
    simp [noFile, noPatch]

/-- An admission whose gates answer reports the paths it read when both pass, and no path
otherwise. -/
theorem admit_repo_candidate_reports (directory : request.isDirectory = true)
    (edit : editGate mapping request
        (editedPaths (candidateBlocks request).1 (candidateBlocks request).2) = .ok none ∨
      ∃ diagnostics, editGate mapping request
        (editedPaths (candidateBlocks request).1 (candidateBlocks request).2) =
          .ok (some (gateRejection diagnostics)))
    (deletion : deletionGate mapping request (requestedDeletions request) = .ok none ∨
      ∃ diagnostics, deletionGate mapping request (requestedDeletions request) =
        .ok (some (gateRejection diagnostics))) :
    ∃ outcome, admitRepoCandidate mapping request = .ok outcome ∧
      ((editGate mapping request
            (editedPaths (candidateBlocks request).1 (candidateBlocks request).2) = .ok none ∧
          deletionGate mapping request (requestedDeletions request) = .ok none ∧
          reportedFiles outcome =
            editedPaths (candidateBlocks request).1 (candidateBlocks request).2) ∨
        (¬ (editGate mapping request
              (editedPaths (candidateBlocks request).1 (candidateBlocks request).2) = .ok none ∧
            deletionGate mapping request (requestedDeletions request) = .ok none) ∧
          reportedFiles outcome = [])) := by
  unfold admitRepoCandidate
  rw [directory]
  simp only [Bool.not_true, Bool.false_eq_true, if_false]
  by_cases nothing : ((candidateBlocks request).1.entries.isEmpty &&
      (candidateBlocks request).2.isEmpty && (requestedDeletions request).isEmpty) = true
  · rw [if_pos nothing]
    have empty := (edited_paths_eq_nil _ _).mpr (Bool.and_eq_true_iff.mp nothing).1
    have noDeletion := List.isEmpty_iff.mp (Bool.and_eq_true_iff.mp nothing).2
    rw [empty, noDeletion]
    exact ⟨_, rfl, Or.inl ⟨rfl, rfl, rfl⟩⟩
  · rw [if_neg nothing]
    rcases edit with edit | ⟨diagnostics, edit⟩
    · rcases deletion with deletion | ⟨diagnostics, deletion⟩
      · simp [edit, deletion, reportedFiles]
      · simp [edit, deletion, reportedFiles, gateRejection]
    · simp [edit, reportedFiles, gateRejection]

end EvoomGuard.Verifiers
