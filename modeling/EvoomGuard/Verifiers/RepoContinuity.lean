import EvoomGuard.Verifiers.HarnessPolicy
import EvoomGuard.Verifiers.RepoResult

/-!
What a repository run holds fixed around its phases: the declared harness inputs
(`verifiers/harness_policy.py`), the prepared tree (`verifiers/repo_runtime_continuity.py`)
and the accepted verifier pack (`verifiers/repo_pack_intake.py`,
`verifiers/repo_pack_continuity.py`). What the file system answers at a checkpoint is an
argument.
-/

namespace EvoomGuard.Verifiers

open Lib Domain Domain.Harness

inductive EntryKind where
  | file
  | link
  | directory
  | special
  deriving DecidableEq, Repr

structure EntryState where
  kind : EntryKind
  mode : Nat
  content : Text
  deriving DecidableEq

/-- One reading of the declared inputs: the problems of each path before and after its state
is bound. -/
structure HarnessCheckpoint where
  before : Text → Option Text
  state : Text → Except Text EntryState
  after : Text → Option Text

section Harness

variable (quoted : Text → Text)

def bindHarnessInputs (state : Text → Except Text EntryState) :
    List Text → Except Text (List (Text × EntryState))
  | [] => .ok []
  | path :: rest =>
    match state path with
    | .error problem => .error problem
    | .ok observed =>
      if observed.kind ≠ .file then
        .error ("harness input is not a regular file: " ++ quoted path)
      else
        match bindHarnessInputs state rest with
        | .error problem => .error problem
        | .ok snapshot => .ok ((path, observed) :: snapshot)

/-- Over inputs that are already canonical. -/
def captureHarnessInputSnapshot (checkpoint : HarnessCheckpoint) (harnessInputs : List Text) :
    Except Text (List (Text × EntryState)) :=
  match harnessInputs.filterMap checkpoint.before with
  | [] =>
    match bindHarnessInputs quoted checkpoint.state harnessInputs with
    | .error problem => .error problem
    | .ok snapshot =>
      match harnessInputs.filterMap checkpoint.after with
      | [] => .ok snapshot
      | problems => .error ("harness input changed during checkpoint: " ++
          Text.join "; " problems)
  | problems => .error ("invalid harness_inputs in trusted tree: " ++
      Text.join "; " problems)

def harnessInputSnapshotChanges (before after : List (Text × EntryState)) : List Text :=
  Text.sortedSet ((before.map Prod.fst ++ after.map Prod.fst).filter fun path =>
    before.lookup path != after.lookup path)

-- Every prefix directory of an input, with and without a trailing slash.
def setupOutputHarnessConflicts (mapping : CaseMapping) (harnessInputs globs : List Text) :
    List Text :=
  harnessInputs.filter fun path =>
    ((Text.split '/' path).inits.drop 1).any fun parts =>
      [[], ['/']].any fun suffix => globs.any fun pattern =>
        Fnmatch.fnmatch (mapping.casefold (Text.join ['/'] parts ++ suffix))
          (mapping.casefold pattern)

/-- A failed checkpoint names the paths it could not vouch for. -/
structure HarnessFailure where
  diagnostics : Text
  changes : List Text

def verifyHarnessCheckpoint (baseline : List (Text × EntryState)) (harnessInputs : List Text)
    (unproven changed : Text) (checkpoint : HarnessCheckpoint) : Option HarnessFailure :=
  match captureHarnessInputSnapshot quoted checkpoint harnessInputs with
  | .error problem => some ⟨unproven ++ ": " ++ problem, harnessInputs⟩
  | .ok observed =>
    match harnessInputSnapshotChanges baseline observed with
    | [] => none
    | changes => some ⟨changed ++ ": " ++ Text.join ", " changes, changes⟩

theorem capture_without_inputs (checkpoint : HarnessCheckpoint) :
    captureHarnessInputSnapshot quoted checkpoint [] = .ok [] := by
  rfl

theorem captured_nothing {checkpoint : HarnessCheckpoint} {inputs : List Text}
    {snapshot : List (Text × EntryState)}
    (captured : captureHarnessInputSnapshot quoted checkpoint inputs = .ok snapshot)
    (none : inputs = []) : snapshot = [] := by
  rw [none, capture_without_inputs] at captured
  cases captured
  rfl

theorem checkpoint_without_inputs (unproven changed : Text) (checkpoint : HarnessCheckpoint) :
    verifyHarnessCheckpoint quoted [] [] unproven changed checkpoint = none := by
  rfl

end Harness

structure RuntimeIdentity where
  sha256 : Text
  entries : Nat
  regularBytes : Nat

structure RuntimeContinuityRequest where
  packConfigured : Bool
  containerMode : Bool
  setupConfigured : Bool
  trustSetupOnHost : Bool
  requireSuiteContinuity : Bool

def RuntimeContinuityRequest.required (request : RuntimeContinuityRequest) : Bool :=
  request.packConfigured || request.requireSuiteContinuity

def RuntimeContinuityRequest.delivery (request : RuntimeContinuityRequest) : Continuity :=
  if request.required = false then .notApplicable
  else if request.containerMode && !(request.setupConfigured && request.trustSetupOnHost) then
    .readOnlyEnforced
  else .snapshotBoundaryChecked

structure RuntimeFailure where
  diagnostics : Text
  changes : Option (List Text)

def benignRuntimeWriteSegments : List String :=
  ["__pycache__", ".pytest_cache", ".ruff_cache", ".mypy_cache", ".hypothesis"]

def isBenignRuntimeWrite (path : Text) : Bool :=
  let segments := Text.split '/' (path.map fun character =>
    if character = '\\' then '/' else character)
  let basename := segments.getLastD []
  segments.any (fun segment => benignRuntimeWriteSegments.any fun name => segment == name.toList) ||
    Text.endsWith basename ".pyc" || Text.endsWith basename ".pyo" ||
    basename == ".coverage" || Text.startsWith basename ".coverage."

def runtimeUncaptured : RuntimeIdentityEvidence where
  continuity := some .notApplicable

def runtimeUnavailable : RuntimeIdentityEvidence where
  continuity := some .unavailable

def runtimeCaptured (identity : RuntimeIdentity) : RuntimeIdentityEvidence where
  treeSha256 := some identity.sha256
  treeEntries := some identity.entries
  treeBytes := some identity.regularBytes
  continuity := some .incomplete

def captureDiagnostics (problem : Text) : Text :=
  "candidate runtime identity failed: " ++ problem

/-- The failure of one comparison with the captured tree, `kept` being the changes that count. -/
def verifyRuntime (drift : Text) (kept : List Text → List Text) :
    Except Text (List Text) → Option RuntimeFailure
  | .error problem =>
    some ⟨"candidate runtime identity verification failed: " ++ problem, none⟩
  | .ok changes =>
    if (kept changes).isEmpty then none
    else some ⟨drift ++ Text.join ", " ((kept changes).take 20), some (kept changes)⟩

-- The pack path keeps the exact-tree requirement.
def verifyAfterSuite (packConfigured : Bool) : Except Text (List Text) → Option RuntimeFailure :=
  verifyRuntime
    "repo suite modified the candidate tree before verifier-pack execution: "
    fun changes => if packConfigured then changes
      else changes.filter fun path => !isBenignRuntimeWrite path

def verifyAfterPack : Except Text (List Text) → Option RuntimeFailure :=
  verifyRuntime "verifier-pack execution modified the candidate tree: " id

structure PackIntakeRequest where
  filesChanged : List Text
  packDir : Text
  expectedPackSha256 : Text

/-- What the intake observes: whether the reserved mount name exists in the copy, and the
snapshot of the pack. -/
structure PackIntakeAnswers where
  reservedMount : Bool
  snapshot : Except Text Text

def packIdentityMissing : Text :=
  ("an expected verifier-pack SHA-256 was configured but no " ++
    "verifier pack was supplied").toList

def reservedMountCollision : Text :=
  ("the repo already contains 'evoguard_verifier_pack/' — the " ++
    "judge-owned pack mount point must not exist in the tree").toList

def packIdentityMismatch (expected observed : Text) : Text :=
  "verifier-pack identity mismatch: expected " ++ expected ++ ", observed " ++
    observed

def packRejection (request : PackIntakeRequest) (score : Rat) (diagnostics : Text)
    (outcome : Option Outcome) : RepoVerdict where
  passed := false
  score := score
  diagnostics := diagnostics
  artifact :=
    { filesChanged := request.filesChanged
      outcome := outcome
      expectedVerifierPackSha256 := if outcome = some .packIdentityMismatch then
          some request.expectedPackSha256
        else none }

/-- The accepted identity, which a mismatch has too, and the rejection. -/
def intakeRepoPack (lower : Text → Text) (request : PackIntakeRequest)
    (answers : PackIntakeAnswers) : Option Text × Option RepoVerdict :=
  if request.packDir.isEmpty then
    (none, if request.expectedPackSha256.isEmpty then none
      else some (packRejection request 0 packIdentityMissing (some .packIdentityMismatch)))
  else if answers.reservedMount then
    (none, some (packRejection request (5 / 100) reservedMountCollision none))
  else
    match answers.snapshot with
    | .error problem => (none, some (packRejection request 0 problem (some .packInvalid)))
    | .ok sha256 =>
      if !request.expectedPackSha256.isEmpty && lower sha256 != request.expectedPackSha256 then
        (some sha256, some (packRejection request 0
          (packIdentityMismatch request.expectedPackSha256 sha256)
          (some .packIdentityMismatch)))
      else (some sha256, none)

end EvoomGuard.Verifiers
