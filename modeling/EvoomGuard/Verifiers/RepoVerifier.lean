import EvoomGuard.Lib.Phase
import EvoomGuard.Verifiers.RepoContinuity
import EvoomGuard.Verifiers.RepoExecution
import EvoomGuard.Verifiers.RepoMaterialization

/-!
One repository verification, `RepoVerifier.verify` of `verifiers/repo_verifier.py`, from the
declared harness inputs to the finalized result. The state is the execution trace with the
facts that every later return carries; an early return is an exit of the phase it stands in.
-/

namespace EvoomGuard.Verifiers

open Lib Domain Domain.Harness Workspace

/-- The operations a run is given. -/
structure RepoServices where
  mapping : CaseMapping
  parseXml : Text → Option Element
  distill : Text → Text
  quoted : Text → Text
  patcher : Text → Text → Text → Except Text Text
  restorePackageJson : Option Text → Text → Text
  describe : WorkspaceError → Text
  newFileMode : Nat
  root : Path

/-- The configured verifier and the problem it is called on. `structuredAdapter` and
`pytestCommand` say what the runner adapters answer to the base command. -/
structure RepoSettings where
  judge : JudgeSettings
  dockerImage : Text
  packDir : Text
  expectedPackSha256 : Text
  setupCommand : Option (List Text)
  setupOutputGlobs : List Text
  trustSetupOnHost : Bool
  command : List Text
  structuredAdapter : Bool
  pytestCommand : Bool
  requireStructuredVerdict : Bool
  requireAssertLiveness : Bool
  requireSuiteContinuity : Bool

def RepoSettings.packConfigured (settings : RepoSettings) : Bool := !settings.packDir.isEmpty

/-- The launch of one judged command and what is read after it. -/
structure CommandAnswers where
  process : ProcessOutcome
  reportExpected : Bool
  report : Option Text
  reportDirectory : Option (List ReportEntry)

def CommandAnswers.completed (answers : CommandAnswers) (command : CompletedCommand) :
    CompletedRun where
  returncode := command.returncode
  reportExpected := answers.reportExpected
  stdout := command.stdout
  stderr := command.stderr
  report := answers.report
  reportDirectory := answers.reportDirectory

/-- What the host, the container client and the file system answer along the run. -/
structure RepoAnswers where
  packExists : Bool
  trustedProblems : Text → Option Text
  trustedHarness : HarnessCheckpoint
  copy : Tree
  intake : PackIntakeAnswers
  candidateHarness : HarnessCheckpoint
  image : Except Text Text
  setup : SetupAnswers
  harnessBeforeSuite : HarnessCheckpoint
  runtimeBaseline : Except Text RuntimeIdentity
  suite : CommandAnswers
  harnessAfterSuite : HarnessCheckpoint
  runtimeAfterSuite : Except Text (List Text)
  packBefore : Option Text
  pack : CommandAnswers
  packAfter : Option Text
  runtimeAfterPack : Except Text (List Text)

structure RepoRunState where
  trace : ExecutionPhaseResult := {}
  projection : RepoResultProjection := {}

abbrev RepoPhase (Value : Type) := Phase RepoVerdict RepoRunState Value

def tracing {Value : Type}
    (run : ExecutionPhaseResult → ExecutionPhaseResult × Except RepoVerdict Value) :
    RepoPhase Value :=
  Phase.ofPair fun state =>
    ({ state with trace := (run state.trace).1 }, (run state.trace).2)

def enterPhase (phase : ExecutionPhase) : RepoPhase Unit :=
  modify fun state => { state with trace := { state.trace with executionPhase := phase } }

/-- The result of a failed integrity check. -/
def tamperedVerdict (diagnostics : Text) (outcome : Outcome) (artifact : RepoArtifact) :
    RepoVerdict :=
  terminalVerdict diagnostics { artifact with outcome := some outcome, tamper := some true }

def harnessVerdict (filesChanged : List Text) (setupIsolation : Option Boundary)
    (failure : HarnessFailure) : RepoVerdict :=
  tamperedVerdict failure.diagnostics .candidateTreeChanged
    { filesChanged := filesChanged
      candidateFidelityChanges := some failure.changes
      setupIsolation := setupIsolation }

def runtimeVerdict (filesChanged : List Text) (setupIsolation : Option Boundary)
    (runtime : RuntimeIdentityEvidence) (failure : RuntimeFailure) : RepoVerdict :=
  tamperedVerdict failure.diagnostics .candidateTreeChanged
    { filesChanged := filesChanged
      candidateFidelityChanges := failure.changes
      setupIsolation := setupIsolation
      runtime := runtime }

def unappliedVerdict (score : Rat) (diagnostics : Text) (artifact : RepoArtifact) : RepoVerdict :=
  ⟨false, score, diagnostics, artifact⟩

def admissionVerdict (result : VerdictResult CandidateArtifact) : RepoVerdict :=
  ⟨result.passed, result.score, result.diagnostics,
    { filesChanged := result.artifact.filesChanged
      filesDeleted := result.artifact.filesDeleted.getD [] }⟩

section Run

variable (services : RepoServices) (settings : RepoSettings) (answers : RepoAnswers)
  (candidate : AdmittedRepoCandidate)

def materializedCopy : Tree × Option MaterializationError :=
  materializeCandidateEdits services.newFileMode services.root services.patcher
    services.restorePackageJson answers.copy candidate.fileBlocks candidate.patchBlocks

def materializationRefusal : Option RepoVerdict :=
  (materializedCopy services answers candidate).2.map fun problem =>
    unappliedVerdict (8 / 100) (problem.text services.describe)
      { filesChanged := candidate.filesChanged }

def deletionRefusal : Option RepoVerdict :=
  (applyRepoCandidateDeletions services.mapping services.root
      (materializedCopy services answers candidate).1 candidate.deletedPaths).2.map fun problem =>
    unappliedVerdict (5 / 100)
      ("candidate deletion could not be applied safely: " ++ services.describe problem)
      { filesChanged := candidate.filesChanged }

def packIntake : Option Text × Option RepoVerdict :=
  intakeRepoPack services.mapping.lower
    ⟨candidate.filesChanged, settings.packDir, settings.expectedPackSha256⟩ answers.intake

def unavailableImage (note : Option Text) : IsolationObservation where
  requested := settings.judge.isolation
  delivered := .unavailable
  imageDigest := none
  network := some settings.judge.dockerNetwork
  runtime := settings.judge.dockerRuntime
  note := note

def unavailableVerdict (diagnostics : Text) (note : Option Text) : RepoVerdict :=
  terminalVerdict diagnostics
    { filesChanged := candidate.filesChanged
      outcome := some .isolationUnavailable
      isolationEvidence := some (unavailableImage settings note) }

/-- The image that setup, suite and pack all use; none on the host. -/
def resolveImage : Except RepoVerdict (Option Text) :=
  if !settings.judge.containerMode then .ok none
  else if settings.dockerImage.isEmpty then
    .error (unavailableVerdict settings candidate (settings.judge.isolationName ++
      " isolation requires a docker image (--docker-image)") none)
  else
    match answers.image with
    | .ok image => .ok (some image)
    | .error problem =>
      .error (unavailableVerdict settings candidate (settings.judge.isolationName ++
        " isolation unavailable: " ++ problem) (some problem))

def structuredRequired : Bool := candidate.strictHarness || settings.requireStructuredVerdict

def structuredRefusalText : Text :=
  ("a non-empty structured verdict is required, but the " ++
    "configured repository test command has no matching " ++
    "runner adapter; refusing before repository-suite " ++
    "execution instead of " ++
    "grading from the process exit code alone: ").toList

def livenessRefusalText : Text :=
  ("--require-assert-liveness needs a pytest test command " ++
    "(the assertion-liveness canary is a pytest file); the " ++
    "configured command is not pytest: ").toList

def shownCommand : Text :=
  ['['] ++ Text.join ", " (settings.command.map services.quoted) ++ [']']

def requirementsRefusal (setupIsolation : Option Boundary) : Option RepoVerdict :=
  let refused (text : Text) (outcome : Outcome) : RepoVerdict :=
    terminalVerdict (text ++ shownCommand services settings)
      { filesChanged := candidate.filesChanged
        outcome := some outcome
        setupIsolation := setupIsolation
        runtime := runtimeUncaptured }
  if structuredRequired settings candidate && !settings.structuredAdapter then
    some (refused structuredRefusalText .structuredVerdictUnavailable)
  else if settings.requireAssertLiveness && !settings.pytestCommand then
    some (refused livenessRefusalText .assertLivenessUnavailable)
  else none

def canaryTestid : Text := "test_evoguard_assertion_liveness"

def canaryText : Text :=
  "the assertion-liveness canary (" ++ canaryTestid ++
    (") failed: candidate-" ++ "imported code neutered the test framework's assertion " ++
      "methods, so the suite's reported passes are not trustworthy").toList

/-- The canary of a required assertion-liveness check failed in the suite's own report. -/
def canaryFailed : Bool :=
  settings.requireAssertLiveness &&
    canaryCaseFailed services.parseXml (answers.suite.report.getD []) canaryTestid

def continuityRequest : RuntimeContinuityRequest where
  packConfigured := settings.packConfigured
  containerMode := settings.judge.containerMode
  setupConfigured := settings.setupCommand.isSome
  trustSetupOnHost := settings.packConfigured && settings.judge.containerMode &&
    settings.setupCommand.isSome && settings.trustSetupOnHost
  requireSuiteContinuity := settings.requireSuiteContinuity

def runtimeWith (captured : Option RuntimeIdentity) (continuity : Continuity) :
    RuntimeIdentityEvidence :=
  match captured with
  | none => runtimeUncaptured
  | some identity => { runtimeCaptured identity with continuity := some continuity }

def boundBefore : Text :=
  "declared harness input integrity could not be bound before execution"

def changedBefore : Text :=
  "candidate materialization changed a declared harness input before execution"

def unprovenAt (checkpoint : Text) : Text :=
  "declared harness input integrity could not be proven " ++ checkpoint

def changedAt (checkpoint : Text) : Text :=
  "declared harness input changed " ++ checkpoint

variable (inputs : List Text) (baseline : List (Text × EntryState))

/-- Materialization, pack intake, deletions, the harness before execution and the image. -/
def prepareCandidate : RepoPhase JudgeSettings := do
  Phase.refuse (materializationRefusal services answers candidate)
  let intake := packIntake services settings answers candidate
  modify fun state => { state with
    projection := { state.projection with packIdentity := intake.1 } }
  Phase.refuse intake.2
  Phase.refuse (deletionRefusal services answers candidate)
  Phase.refuse ((verifyHarnessCheckpoint services.quoted baseline inputs boundBefore changedBefore
    answers.candidateHarness).map (harnessVerdict candidate.filesChanged none))
  let image ← Phase.ofPair fun state => (state, resolveImage settings answers candidate)
  pure { settings.judge with resolvedImage := image }

def setupPhase (judge : JudgeSettings) : RepoPhase (Option Boundary) :=
  match settings.setupCommand with
  | none => pure none
  | some command => do
      let boundary ← tracing (executeRepoSetup services.distill services.quoted judge
        candidate.filesChanged (command.headD []) settings.trustSetupOnHost answers.setup)
      pure (some boundary)

def harnessCheckpoint (checkpoint : Text) (setupIsolation : Option Boundary)
    (observed : HarnessCheckpoint) : RepoPhase Unit :=
  Phase.refuse ((verifyHarnessCheckpoint services.quoted baseline inputs (unprovenAt checkpoint)
    (changedAt checkpoint) observed).map (harnessVerdict candidate.filesChanged setupIsolation))

def captureRuntime (setupIsolation : Option Boundary) : RepoPhase (Option RuntimeIdentity) :=
  if (continuityRequest settings).required then do
    enterPhase .runtimeVerification
    match answers.runtimeBaseline with
    | .ok identity => pure (some identity)
    | .error problem =>
      throw (terminalVerdict (captureDiagnostics problem)
        { filesChanged := candidate.filesChanged
          outcome := some .runtimeIdentityUnavailable
          setupIsolation := setupIsolation
          runtime := runtimeUnavailable })
  else pure none

structure CompletedSuite where
  judge : JudgeSettings
  setupIsolation : Option Boundary
  captured : Option RuntimeIdentity
  command : CompletedCommand

def afterSuite (setupIsolation : Option Boundary) (captured : Option RuntimeIdentity) :
    RepoPhase Unit :=
  match captured with
  | none => pure ()
  | some _ => do
      enterPhase .runtimeVerification
      Phase.refuse ((verifyAfterSuite settings.packConfigured answers.runtimeAfterSuite).map
        (runtimeVerdict candidate.filesChanged setupIsolation
          (runtimeWith captured .verificationFailed)))

-- The harness is read again before the suite's own terminal result is returned.
def suitePhase : RepoPhase CompletedSuite := do
  let judge ← prepareCandidate services settings answers candidate inputs baseline
  let setupIsolation ← setupPhase services settings answers candidate judge
  harnessCheckpoint services candidate inputs baseline "before the repository suite"
    setupIsolation answers.harnessBeforeSuite
  Phase.refuse (requirementsRefusal services settings candidate setupIsolation)
  let captured ← captureRuntime settings answers candidate setupIsolation
  let ended ← modifyGet fun state =>
    let ran := executeRepoSuite services.distill services.quoted judge candidate.filesChanged
      (settings.command.headD []) settings.packConfigured setupIsolation
      (runtimeWith captured .incomplete) answers.suite.process state.trace
    (ran.2, { state with trace := ran.1 })
  harnessCheckpoint services candidate inputs baseline "after the repository suite"
    setupIsolation answers.harnessAfterSuite
  let command ← Phase.ofPair fun state => (state, ended)
  afterSuite settings answers candidate setupIsolation captured
  pure ⟨judge, setupIsolation, captured, command⟩

def liveness (suite : CompletedSuite) : RepoPhase Unit :=
  Phase.refuse (if canaryFailed services settings answers then
      some (tamperedVerdict canaryText .assertionLivenessFailed
        { filesChanged := candidate.filesChanged
          setupIsolation := suite.setupIsolation
          runtime := runtimeWith suite.captured (if settings.packConfigured then .incomplete
            else (continuityRequest settings).delivery) })
    else none)

def completedContext (suite : CompletedSuite) : CompletedContext where
  filesChanged := candidate.filesChanged
  filesDeleted := candidate.deletedPaths
  packIdentity := (packIntake services settings answers candidate).1
  expectedPackSha256 := settings.expectedPackSha256
  setupIsolation := suite.setupIsolation
  runtime := runtimeWith suite.captured (continuityRequest settings).delivery
  resolvedImage := suite.judge.resolvedImage
  suiteIsolationEvidence :=
    phaseIsolationEvidence suite.judge suite.judge.isolation.boundary none
  containerMode := suite.judge.containerMode

def packSnapshotRefusal (suite : CompletedSuite) (text : Text) (problem : Option Text) :
    RepoPhase Unit :=
  Phase.refuse (problem.map fun problem =>
    tamperedVerdict (text ++ ": " ++ problem) .packSnapshotChanged
      { filesChanged := candidate.filesChanged
        setupIsolation := suite.setupIsolation
        runtime := runtimeWith suite.captured .incomplete })

def packPhase (suite : CompletedSuite) : RepoPhase CompletedRun := do
  enterPhase .verifierPack
  packSnapshotRefusal candidate suite "verifier pack was changed before execution"
    answers.packBefore
  let command ← tracing (executeRepoPack services.distill suite.judge candidate.filesChanged
    suite.setupIsolation (runtimeWith suite.captured .incomplete)
    (phaseIsolationEvidence suite.judge suite.judge.isolation.boundary none) answers.pack.process)
  enterPhase .runtimeVerification
  packSnapshotRefusal candidate suite "verifier pack changed while executing"
    answers.packAfter
  Phase.refuse ((verifyAfterPack answers.runtimeAfterPack).map
    (runtimeVerdict candidate.filesChanged suite.setupIsolation
      (runtimeWith suite.captured .verificationFailed)))
  enterPhase .verifierPack
  pure (answers.pack.completed command)

def suiteResult (suite : CompletedSuite) : RepoPhaseResult :=
  interpretRepoSuite services.parseXml services.mapping.lower
    (answers.suite.completed suite.command) (structuredRequired settings candidate)

/-- From a completed suite to the result of the run. -/
def judgePhases (suite : CompletedSuite) : RepoPhase RepoVerdict := do
  liveness services settings answers candidate suite
  let repo := suiteResult services settings answers candidate suite
  if settings.packConfigured then do
    modify fun state => { state with
      projection := { state.projection with repoSuitePhase := some (repoSuitePhaseArtifact repo) } }
    let pack ← packPhase services answers candidate suite
    pure (completedVerdict services.distill
      (completedContext services settings answers candidate suite) repo
      (some (interpretRepoPack services.parseXml pack)))
  else do
    enterPhase .repoSuite
    pure (completedVerdict services.distill
      (completedContext services settings answers candidate suite) repo none)

def repoRun : RepoPhase RepoVerdict := do
  let suite ← suitePhase services settings answers candidate inputs baseline
  judgePhases services settings answers candidate suite

end Run

/-- What the verifier raises instead of returning a result. -/
inductive RepoRunError where
  | harnessInputs (problem : HarnessInputPolicyError)
  | setupOutputConflicts (paths : List Text)
  | invalidTrustedBase (problems : List Text)
  | admission (problem : RepoCandidateAdmissionError)

def boundTrusted : Text :=
  "declared harness input integrity could not be bound in the trusted base: "

def concluded (settings : RepoSettings) (answers : RepoAnswers)
    (ended : RepoRunState × RepoVerdict) : RepoVerdict :=
  ended.1.projection.finalize ended.2 ended.1.trace (settings.packConfigured && answers.packExists)

def verifyRepo (services : RepoServices) (settings : RepoSettings)
    (request : RepoCandidateAdmissionRequest) (answers : RepoAnswers) :
    Except RepoRunError RepoVerdict :=
  match normalizeHarnessInputs services.mapping request.harnessInputs with
  | .error problem => .error (.harnessInputs problem)
  | .ok inputs =>
    if setupOutputHarnessConflicts services.mapping inputs settings.setupOutputGlobs ≠ [] then
      .error (.setupOutputConflicts
        (setupOutputHarnessConflicts services.mapping inputs settings.setupOutputGlobs))
    else if inputs.filterMap answers.trustedProblems ≠ [] then
      .error (.invalidTrustedBase (inputs.filterMap answers.trustedProblems))
    else
      match captureHarnessInputSnapshot services.quoted answers.trustedHarness inputs with
      | .error problem => .ok (concluded settings answers
          ({}, harnessVerdict [] none ⟨boundTrusted ++ problem, inputs⟩))
      | .ok baseline =>
        match admitRepoCandidate services.mapping { request with harnessInputs := inputs } with
        | .error problem => .error (.admission problem)
        | .ok (.terminal result) =>
          .ok (concluded settings answers ({}, admissionVerdict result))
        | .ok (.admitted candidate) => .ok (concluded settings answers
            (Phase.finish (repoRun services settings answers candidate inputs baseline) {}))

end EvoomGuard.Verifiers
