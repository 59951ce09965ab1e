import EvoomGuard.Verifiers.HarnessPolicy

/-!
The pre-execution path admission of `verifiers/candidate_preflight.py`, with the default
services: every touched path is classified before anything is written or run.
-/

namespace EvoomGuard.Verifiers

open Lib Domain Domain.Harness

def verifierPackDir : Text := "evoguard_verifier_pack"

structure CandidatePreflightRequest where
  base : BaseTree
  changedPaths : List Text
  deletedPaths : List Text := []
  protectedGlobs : List Text := []
  allow : List Text := []
  allowNewTests : Bool := false
  strictHarness : Bool := false
  harnessInputs : List Text := []

structure CandidatePreflight where
  changedPaths : List Text
  allTouchedPaths : List Text
  unsafePaths : List Text
  protectedViolations : List Text
  safeDeletedPaths : List Text
  newPaths : List Text
  localActionDirs : List Text

/-- Whether path admission permits the verifier suite to start. -/
def CandidatePreflight.mayExecute (preflight : CandidatePreflight) : Bool :=
  !preflight.allTouchedPaths.isEmpty && preflight.unsafePaths.isEmpty &&
    preflight.protectedViolations.isEmpty

def insideVerifierPack (path : Text) : Bool :=
  path == verifierPackDir || Text.startsWith path (verifierPackDir ++ ['/'])

def newPathsOf (mapping : CaseMapping) (base : BaseTree) (changed : List Text) : List Text :=
  changed.filter fun path => isSafeRelpath mapping path && !base.exists? path

/-- The closure `is_violation` of the source, over the inputs it captures. -/
def isViolation (mapping : CaseMapping) (request : CandidatePreflightRequest)
    (harnessInputs newPaths localActionDirs : List Text) (path : Text) :
    Except HarnessInputPolicyError Bool :=
  if insideVerifierPack path then .ok true
  else
    match candidatePathTargetsHarnessInput mapping request.base path harnessInputs with
    | .error problem => .error problem
    | .ok true => .ok true
    | .ok false =>
      if isJudgeAutoexec mapping path then .ok true
      else if isProtectedConfig mapping path request.strictHarness ||
          isProtectedCi mapping path localActionDirs then .ok true
      else if isProtected mapping path request.protectedGlobs then
        if request.allowNewTests &&
            isAddableNewTest mapping path request.protectedGlobs (newPaths.contains path)
              localActionDirs request.strictHarness then .ok false
        else if !isAllowlistExemptible mapping path localActionDirs request.strictHarness then
          .ok true
        else .ok (!matchesGlobs mapping path request.allow)
      else .ok false

/-- A comprehension whose filter can raise. -/
def filterExcept {Problem : Type} (keep : Text → Except Problem Bool) :
    List Text → Except Problem (List Text)
  | [] => .ok []
  | path :: rest => do
      let kept ← keep path
      let others ← filterExcept keep rest
      .ok (if kept then path :: others else others)

/-- Classifies candidate paths with the historical fail-closed ordering. -/
def evaluateCandidatePreflight (mapping : CaseMapping) (request : CandidatePreflightRequest) :
    Except HarnessInputPolicyError CandidatePreflight := do
  let changed := request.changedPaths
  let deleted := request.deletedPaths
  let harnessInputs ← normalizeHarnessInputs mapping request.harnessInputs
  let deletedTouched := deleted.filter fun path => !changed.contains path
  let allTouched := changed ++ deletedTouched
  let unsafePaths := Text.sorted (allTouched.filter fun path => !isSafeRelpath mapping path)
  let newPaths := newPathsOf mapping request.base changed
  let localActionDirs := request.base.discoverLocalActionDirs
  let violation := isViolation mapping request harnessInputs newPaths localActionDirs
  let violations ← filterExcept violation allTouched
  let safeDeleted ← filterExcept
    (fun path => if isSafeRelpath mapping path then (violation path).map (!·) else .ok false)
    deleted
  .ok {
    changedPaths := changed
    allTouchedPaths := allTouched
    unsafePaths := unsafePaths
    protectedViolations := Text.sorted violations
    safeDeletedPaths := Text.sorted safeDeleted
    newPaths := newPaths
    localActionDirs := localActionDirs }

/-- A path of the request's judge: the reserved pack namespace, or a judge-owned path. -/
def violates (mapping : CaseMapping) (request : CandidatePreflightRequest) (path : Text) : Bool :=
  insideVerifierPack path ||
    judgeOwned mapping request.base request.harnessInputs request.protectedGlobs request.allow
      request.allowNewTests request.strictHarness
      ((newPathsOf mapping request.base request.changedPaths).contains path) path

variable (mapping : CaseMapping) (request : CandidatePreflightRequest)

theorem is_violation_ok (normalized : List Text)
    (accepted : normalizeHarnessInputs mapping request.harnessInputs = .ok normalized)
    (path : Text) :
    isViolation mapping request normalized
        (newPathsOf mapping request.base request.changedPaths)
        request.base.discoverLocalActionDirs path =
      .ok (violates mapping request path) := by
  obtain ⟨again, twice, -⟩ := normalize_harness_inputs_again mapping _ _ accepted
  have targets := targets_harness_input_congr mapping request.base path normalized
    request.harnessInputs (mem_normalized_inputs mapping _ _ accepted)
  unfold isViolation violates judgeOwned
  simp only [candidate_path_targets_ok mapping request.base path normalized again twice, targets]
  cases insideVerifierPack path with
  | true => simp
  | false =>
    cases targetsHarnessInput mapping request.base path request.harnessInputs with
    | true => simp
    | false =>
      simp only [Bool.false_eq_true, if_false, Bool.false_or]
      generalize (request.allowNewTests && isAddableNewTest mapping path
        request.protectedGlobs _ request.base.discoverLocalActionDirs
        request.strictHarness) = addable
      split_ifs with autoexec fixed judging exempt owned <;> simp_all

theorem filter_except_ok {Problem : Type} (keep : Text → Except Problem Bool)
    (kept : Text → Bool) (total : ∀ path, keep path = .ok (kept path)) (paths : List Text) :
    filterExcept keep paths = .ok (paths.filter kept) := by
  induction paths with
  | nil => rfl
  | cons path rest ih =>
    simp only [filterExcept, total, ih, List.filter_cons]
    rfl

/-- The paths the preflight classifies: the changed ones, then the deletions that are not
changed as well. -/
def touchedPaths (request : CandidatePreflightRequest) : List Text :=
  request.changedPaths ++
    request.deletedPaths.filter fun path => !request.changedPaths.contains path

theorem mem_touched_paths {request : CandidatePreflightRequest} {path : Text} :
    path ∈ touchedPaths request ↔
      path ∈ request.changedPaths ∨ path ∈ request.deletedPaths := by
  by_cases changed : path ∈ request.changedPaths <;> simp [touchedPaths, changed]

theorem evaluate_candidate_preflight_ok (normalized : List Text)
    (accepted : normalizeHarnessInputs mapping request.harnessInputs = .ok normalized) :
    evaluateCandidatePreflight mapping request = .ok {
      changedPaths := request.changedPaths
      allTouchedPaths := touchedPaths request
      unsafePaths := Text.sorted
        ((touchedPaths request).filter fun path => !isSafeRelpath mapping path)
      protectedViolations := Text.sorted ((touchedPaths request).filter (violates mapping request))
      safeDeletedPaths := Text.sorted (request.deletedPaths.filter fun path =>
        isSafeRelpath mapping path && !violates mapping request path)
      newPaths := newPathsOf mapping request.base request.changedPaths
      localActionDirs := request.base.discoverLocalActionDirs } := by
  have violation := is_violation_ok mapping request normalized accepted
  have safeDeletion : ∀ path, (if isSafeRelpath mapping path = true then
      (isViolation mapping request normalized
        (newPathsOf mapping request.base request.changedPaths)
        request.base.discoverLocalActionDirs path).map (!·) else .ok false) =
      .ok (isSafeRelpath mapping path && !violates mapping request path) := by
    intro path
    rw [violation path]
    cases isSafeRelpath mapping path <;> rfl
  simp only [evaluateCandidatePreflight, accepted, bind, Except.bind]
  rw [filter_except_ok _ _ violation, filter_except_ok _ _ safeDeletion]
  rfl

theorem normalized_of_evaluated (preflight : CandidatePreflight)
    (evaluated : evaluateCandidatePreflight mapping request = .ok preflight) :
    ∃ normalized, normalizeHarnessInputs mapping request.harnessInputs = .ok normalized := by
  cases accepted : normalizeHarnessInputs mapping request.harnessInputs with
  | error problem =>
    simp only [evaluateCandidatePreflight, accepted] at evaluated
    cases evaluated
  | ok normalized => exact ⟨normalized, rfl⟩

/-- No unsafe path and no protected violation over the changed and the deleted paths. -/
def CandidatePreflight.clean (preflight : CandidatePreflight) : Bool :=
  preflight.unsafePaths.isEmpty && preflight.protectedViolations.isEmpty

private theorem sorted_filter_isEmpty (test : Text → Bool) (paths : List Text) :
    (Text.sorted (paths.filter test)).isEmpty = true ↔ ∀ path ∈ paths, test path = false := by
  rw [List.isEmpty_iff, Text.sorted_eq_nil, List.filter_eq_nil_iff]
  simp

theorem clean_iff (preflight : CandidatePreflight)
    (evaluated : evaluateCandidatePreflight mapping request = .ok preflight) :
    preflight.clean = true ↔
      ∀ path, path ∈ request.changedPaths ∨ path ∈ request.deletedPaths →
        isSafeRelpath mapping path = true ∧ violates mapping request path = false := by
  obtain ⟨normalized, accepted⟩ := normalized_of_evaluated mapping request preflight evaluated
  rw [evaluate_candidate_preflight_ok mapping request normalized accepted] at evaluated
  cases evaluated
  simp only [CandidatePreflight.clean, Bool.and_eq_true, sorted_filter_isEmpty,
    Bool.not_eq_false', mem_touched_paths]
  exact ⟨fun both path touched => ⟨both.1 path touched, both.2 path touched⟩,
    fun each => ⟨fun path touched => (each path touched).1,
      fun path touched => (each path touched).2⟩⟩

theorem may_execute_clean (preflight : CandidatePreflight)
    (admitted : preflight.mayExecute = true) : preflight.clean = true := by
  simp only [CandidatePreflight.mayExecute, Bool.and_eq_true] at admitted
  simp only [CandidatePreflight.clean, Bool.and_eq_true]
  exact ⟨admitted.1.2, admitted.2⟩

end EvoomGuard.Verifiers
