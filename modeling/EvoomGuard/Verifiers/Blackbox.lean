import EvoomGuard.Verifiers.RepoVerifier

/-!
The external judge, `run_blackbox` of `blackbox.py`, with the pack phase of
`verifiers/blackbox_pack.py` and the invocation evidence of
`verifiers/blackbox_candidate_runtime.py`. The candidate is reached only through a launcher;
the judge grades its own process and its own report. What the pack, the launcher, the
container client and the file system answer is an argument.
-/

namespace EvoomGuard.Verifiers

open Candidate Lib Domain Domain.Harness Workspace

/-- Why a run could not be graded. -/
inductive BlackboxError where
  | packNotFound (packDir : Text)
  | packInvalid
  | packIdentityMismatch
  | trustedHarnessUnbound
  | patchUnapplied
  | unsafeDeletion
  | harnessInputChanged
  | isolationUnavailable
  | timeout
  | outputLimit
  | judgeCleanupFailed
  | packSnapshotChanged
  | packChangedWhileExecuting
  | noTestResults
  | junitExitMismatch
  | uncleanExit (returncode : Int)
  | containerCleanupFailed
  | workspaceCleanupFailed
  deriving DecidableEq

def BlackboxError.text (quoted : Text → Text) : BlackboxError → Text
  | .packNotFound packDir => "verifier pack not found: " ++ quoted packDir
  | .packInvalid => "verifier pack invalid"
  | .packIdentityMismatch => "verifier pack identity mismatch"
  | .trustedHarnessUnbound => "trusted harness input binding failed"
  | .patchUnapplied => "patch did not apply"
  | .unsafeDeletion => "unsafe deletion path"
  | .harnessInputChanged => "candidate harness input changed"
  | .isolationUnavailable => "isolation unavailable"
  | .timeout => "timeout"
  | .outputLimit => "black-box output limit"
  | .judgeCleanupFailed => "judge process cleanup failed"
  | .packSnapshotChanged => "verifier pack snapshot changed"
  | .packChangedWhileExecuting => "verifier pack changed while executing"
  | .noTestResults => "black-box pack produced no judge-owned test results"
  | .junitExitMismatch => "black-box JUnit/exit mismatch"
  | .uncleanExit returncode =>
    "black-box pack did not run cleanly (pytest exit " ++ (toString returncode).toList ++
      [')']
  | .containerCleanupFailed => "candidate container cleanup failed"
  | .workspaceCleanupFailed => "black-box workspace cleanup failed"

/-- What was read of the launcher: the receipts and the container identities. -/
structure InvocationEvidence where
  launcherEvents : Nat
  containerIdsObserved : Nat
  candidateInvocations : Nat

structure BlackboxIsolation where
  requested : Isolation
  delivered : Boundary
  image : Option Text := none
  imageDigest : Option Text := none
  network : Option Text := none
  runtime : Option Text := none
  note : Text := []
  prepared : Option Boundary := none
  preparationNote : Option Text := none
  invocation : Option InvocationEvidence := none

structure BlackboxResult where
  passed : Bool := false
  testsPassed : Nat := 0
  testsTotal : Nat := 0
  diagnostics : Text := []
  ran : Bool := false
  error : Option BlackboxError
  packSha256 : Option Text := none
  junitSha256 : Option Text := none
  isolation : Option BlackboxIsolation := none
  started : Bool := false
  completed : Bool := false
  executionState : ExecutionState := .notStarted
  executionPhase : ExecutionPhase := .preflight
  packPresent : Option Bool := none
  candidateInvocations : Nat := 0
  candidateLauncherInvocationObserved : Bool := false

structure LauncherReading where
  events : Nat
  containerIds : List Text

/-- A container mode needs a receipt and a container identity for each invocation. -/
def invocationsOf (delivered : Boundary) (events containers : Nat) : Nat :=
  match delivered with
  | .subprocess => events
  | .docker | .gvisor => min events containers
  | _ => 0

-- The identities seen so far are kept across the attempts.
def observeInvocations (delivered : Boundary) (readings : Nat → LauncherReading) :
    Nat → Nat → List Text → InvocationEvidence
  | 0, attempt, seen =>
    let ids := Text.sortedSet (seen ++ (readings attempt).containerIds)
    ⟨(readings attempt).events, ids.length,
      invocationsOf delivered (readings attempt).events ids.length⟩
  | remaining + 1, attempt, seen =>
    let ids := Text.sortedSet (seen ++ (readings attempt).containerIds)
    let invocations := invocationsOf delivered (readings attempt).events ids.length
    if 0 < invocations then ⟨(readings attempt).events, ids.length, invocations⟩
    else observeInvocations delivered readings remaining (attempt + 1) ids

def lateAttempts (delivered : Boundary) (waitForLate : Bool) : Nat :=
  if waitForLate && (delivered == .docker || delivered == .gvisor) then 9 else 0

def unobservedNote : Text :=
  ("the boundary was prepared, but the required launcher/runtime " ++
    "invocation evidence was not observed; no candidate isolation is " ++ "claimed").toList

-- An invocation that was not observed takes the delivered boundary back.
def attachCandidateExecutionEvidence (readings : Nat → LauncherReading) (waitForLate : Bool)
    (isolation : BlackboxIsolation) : BlackboxIsolation × Nat :=
  let evidence := observeInvocations isolation.delivered readings
    (lateAttempts isolation.delivered waitForLate) 0 []
  let observed := { isolation with invocation := some evidence }
  (if evidence.candidateInvocations = 0 ∧ isolation.delivered ≠ .notRun ∧
      isolation.delivered ≠ .unavailable then
    { observed with
      prepared := some isolation.delivered
      delivered := .notRun
      preparationNote := if isolation.note.isEmpty then isolation.preparationNote
        else some isolation.note
      note := unobservedNote }
  else observed, evidence.candidateInvocations)

inductive JudgeProcess where
  | timeout
  | outputLimit (message : Text)
  | cleanupFailed (message : Text)
  | finished (returncode : Int) (stdout stderr : Text)

structure BlackboxPackLifecycle where
  active : Bool := false
  started : Bool := false

structure BlackboxPackVerdictFacts where
  passed : Bool := false
  testsPassed : Nat := 0
  testsTotal : Nat := 0
  diagnostics : Text
  ran : Bool := false
  error : Option BlackboxError
  junitSha256 : Option Text := none
  started : Bool := false
  completed : Bool := false
  executionState : ExecutionState := .notStarted
  executionPhase : ExecutionPhase := .preflight
  attachCandidateEvidence : Bool := false
  waitForLateContainerEvidence : Bool := false

def incompletePack (diagnostics : Text) (error : BlackboxError) : BlackboxPackVerdictFacts where
  diagnostics := diagnostics
  error := some error
  started := true
  executionState := .startedIncomplete
  executionPhase := .blackboxPack
  attachCandidateEvidence := true
  waitForLateContainerEvidence := true

/-- The facts of a judge process that returned. -/
def returnedPack (diagnostics : Text) (error : Option BlackboxError) (junitSha256 : Option Text)
    (testsPassed testsTotal : Nat) : BlackboxPackVerdictFacts where
  testsPassed := testsPassed
  testsTotal := testsTotal
  diagnostics := diagnostics
  error := error
  junitSha256 := junitSha256
  started := true
  completed := true
  executionState := .completed
  executionPhase := .blackboxPack
  attachCandidateEvidence := true

-- A process that did not return leaves the lifecycle active.
def executeBlackboxPack (timeout : Nat) (changedBefore : Option Text) (process : JudgeProcess)
    (changedAfter : Option Text) :
    BlackboxPackLifecycle × Except BlackboxPackVerdictFacts CompletedCommand :=
  match changedBefore with
  | some problem => ({}, .error { diagnostics := problem, error := some .packSnapshotChanged })
  | none =>
    match process with
    | .timeout => (⟨true, true⟩, .error (incompletePack
        ("black-box pack timed out after " ++ Nat.toDigits 10 timeout ++ ['s']) .timeout))
    | .outputLimit message => (⟨true, true⟩, .error (incompletePack message .outputLimit))
    | .cleanupFailed message =>
      (⟨true, true⟩, .error (incompletePack message .judgeCleanupFailed))
    | .finished returncode stdout stderr => (⟨false, true⟩,
        match changedAfter with
        | some problem =>
          .error (returnedPack problem (some .packChangedWhileExecuting) none 0 0)
        | none => .ok ⟨returncode, stdout, stderr⟩)

section Interpretation

variable (parseXml : Text → Option Element) (distill : Text → Text)

def interpretBlackboxPack (completed : CompletedCommand) (report : Option Text) :
    BlackboxPackVerdictFacts :=
  let junitSha256 := report.map Sha256.hexdigest
  let diagnostics := distill (completed.stdout ++ ['\n'] ++ completed.stderr)
  match report.bind (parseJunitXml parseXml) with
  | none => returnedPack diagnostics (some .noTestResults) junitSha256 0 0
  | some junit =>
    if junit.total = 0 then returnedPack diagnostics (some .noTestResults) junitSha256 0 0
    else
      let allPassed := junit.failures == 0 && junit.errors == 0 && junit.passed == junit.total
      if (completed.returncode == 0 && !allPassed) || (completed.returncode == 1 && allPassed) then
        returnedPack diagnostics (some .junitExitMismatch) junitSha256 junit.passed junit.total
      else if completed.returncode = 0 then
        { returnedPack diagnostics none junitSha256 junit.passed junit.total with
          passed := true
          ran := true }
      else if completed.returncode = 1 then
        { returnedPack diagnostics none junitSha256 junit.passed junit.total with ran := true }
      else returnedPack diagnostics (some (.uncleanExit completed.returncode)) junitSha256
        junit.passed junit.total

end Interpretation

/-- What is answered along the run. A cleanup failure is the text of its exception, for a
workspace with the name of its type. -/
structure BlackboxAnswers where
  packExists : Bool
  packSnapshot : Except Text Text
  trustedHarness : HarnessCheckpoint
  copy : Tree
  candidateHarness : HarnessCheckpoint
  boundary : Except Text BlackboxIsolation
  packBefore : Option Text
  judge : JudgeProcess
  packAfter : Option Text
  report : Option Text
  launcher : Nat → LauncherReading
  harnessAfter : HarnessCheckpoint
  containerCleanup : Option Text
  candidateWorkspaceCleanup : Option Text
  packWorkspaceCleanup : Option Text

/-- What the cleanup reads of the run it follows. -/
structure BlackboxRunState where
  packSha256 : Option Text := none
  isolation : Option BlackboxIsolation := none
  lifecycle : BlackboxPackLifecycle := {}
  pending : Option BlackboxResult := none

def maxDiagnostics : Nat := 2000

def truncateText (limit : Nat) (text : Text) : Text :=
  if text.length ≤ limit then text
  else if limit ≤ 3 then text.take limit
  else text.take (limit - 3) ++ "..."

section Run

variable (services : RepoServices) (settings : RepoSettings)
  (request : RepoCandidateAdmissionRequest) (answers : BlackboxAnswers)

/-- The strict parsers only; an empty mapping counts as absent. -/
def strictBlocks : Dict Text Text × List PatchBlock :=
  match request.fileBlocksOverride with
  | some fileBlocks =>
    if fileBlocks.entries.isEmpty then
      (parseFileBlocks request.hypothesis, parsePatchBlocks request.hypothesis)
    else (fileBlocks, [])
  | none => (parseFileBlocks request.hypothesis, parsePatchBlocks request.hypothesis)

/-- A return before the pack phase. -/
def preflightResult (diagnostics : Text) (error : BlackboxError) (packSha256 : Option Text) :
    BlackboxResult where
  diagnostics := diagnostics
  error := some error
  packSha256 := packSha256
  packPresent := some true

def acceptPack : Except BlackboxResult Text :=
  match answers.packSnapshot with
  | .error problem => .error (preflightResult problem .packInvalid none)
  | .ok sha256 =>
    let expected := services.mapping.lower settings.expectedPackSha256
    if !expected.isEmpty && services.mapping.lower sha256 != expected then
      .error (preflightResult (packIdentityMismatch expected sha256) .packIdentityMismatch
        (some sha256))
    else .ok sha256

def harnessDiagnostics (text : Text) : Text := truncateText maxDiagnostics text

def unboundTrusted : Text :=
  ("declared harness input integrity could not be bound " ++
    "in the trusted black-box base").toList

def trustedBaseline (packSha256 : Text) : Except BlackboxResult (List (Text × EntryState)) :=
  match captureHarnessInputSnapshot services.quoted answers.trustedHarness
      request.harnessInputs with
  | .ok baseline => .ok baseline
  | .error problem => .error (preflightResult
      (harnessDiagnostics (unboundTrusted ++ ": " ++ problem)) .trustedHarnessUnbound
      (some packSha256))

def blackboxCopy : Tree × Option MaterializationError :=
  materializeCandidateEdits services.newFileMode services.root services.patcher
    services.restorePackageJson answers.copy (strictBlocks request).1 (strictBlocks request).2

def applyRefusal (packSha256 : Text) : Option BlackboxResult :=
  (blackboxCopy services request answers).2.map fun problem =>
    preflightResult (problem.text services.describe) .patchUnapplied (some packSha256)

def deletionsRefusal (packSha256 : Text) : Option BlackboxResult :=
  (applyRepoCandidateDeletions services.mapping services.root
      (blackboxCopy services request answers).1 request.deletedPaths).2.map fun problem =>
    preflightResult
      ("candidate deletion could not be applied safely: " ++ services.describe problem)
      .unsafeDeletion (some packSha256)

def harnessFailure (baseline : List (Text × EntryState)) (unproven changed : Text)
    (checkpoint : HarnessCheckpoint) : Option Text :=
  (verifyHarnessCheckpoint services.quoted baseline request.harnessInputs unproven changed
    checkpoint).map fun failure => harnessDiagnostics failure.diagnostics

def materializationRefusalOf (baseline : List (Text × EntryState)) (packSha256 : Text) :
    Option BlackboxResult :=
  (harnessFailure services request baseline
      ("declared harness input integrity could not be bound " ++
        "after black-box candidate materialization").toList
      ("black-box candidate materialization changed declared " ++ "harness inputs").toList
      answers.candidateHarness).map fun diagnostics =>
    preflightResult diagnostics .harnessInputChanged (some packSha256)

def unavailableBoundary (problem : Text) : BlackboxIsolation where
  requested := settings.judge.isolation
  delivered := .unavailable
  note := problem

def prepareBoundary (packSha256 : Text) : Except BlackboxResult BlackboxIsolation :=
  match answers.boundary with
  | .ok isolation => .ok isolation
  | .error problem => .error
      { preflightResult problem .isolationUnavailable (some packSha256) with
        isolation := some (unavailableBoundary settings problem) }

def withCandidateEvidence (waitForLate : Bool) (isolation : BlackboxIsolation)
    (result : BlackboxResult) : BlackboxResult :=
  let attached := attachCandidateExecutionEvidence answers.launcher waitForLate isolation
  { result with
    isolation := some attached.1
    candidateInvocations := attached.2
    candidateLauncherInvocationObserved := decide (0 < attached.2) }

/-- A changed harness input invalidates the pending verdict and keeps the lifecycle. -/
def enforceHarnessPostcondition (baseline : List (Text × EntryState)) (result : BlackboxResult) :
    BlackboxResult :=
  match harnessFailure services request baseline
      ("declared harness input integrity could not be proven " ++
        "after black-box execution").toList
      ("black-box candidate/pack execution changed declared " ++ "harness inputs").toList
      answers.harnessAfter with
  | none => result
  | some diagnostics =>
    { result with
      passed := false
      ran := false
      error := some .harnessInputChanged
      diagnostics := diagnostics }

def packResult (packSha256 : Text) (isolation : BlackboxIsolation)
    (facts : BlackboxPackVerdictFacts) : BlackboxResult where
  passed := facts.passed
  testsPassed := facts.testsPassed
  testsTotal := facts.testsTotal
  diagnostics := facts.diagnostics
  ran := facts.ran
  error := facts.error
  packSha256 := some packSha256
  junitSha256 := facts.junitSha256
  isolation := some isolation
  started := facts.started
  completed := facts.completed
  executionState := facts.executionState
  executionPhase := facts.executionPhase
  packPresent := some true

def projectPackVerdict (baseline : List (Text × EntryState)) (packSha256 : Text)
    (isolation : BlackboxIsolation) (facts : BlackboxPackVerdictFacts) : BlackboxResult :=
  let result := packResult packSha256 isolation facts
  enforceHarnessPostcondition services request answers baseline
    (if facts.attachCandidateEvidence then
      withCandidateEvidence answers facts.waitForLateContainerEvidence isolation result
    else result)

def packFacts (execution : Except BlackboxPackVerdictFacts CompletedCommand) :
    BlackboxPackVerdictFacts :=
  match execution with
  | .error terminal => terminal
  | .ok completed =>
    interpretBlackboxPack services.parseXml services.distill completed answers.report

def blackboxRun : Phase BlackboxResult BlackboxRunState BlackboxResult := do
  let packSha256 ← Phase.ofPair fun state =>
    ({ state with packSha256 := answers.packSnapshot.toOption },
      acceptPack services settings answers)
  let baseline ← Phase.ofPair fun state =>
    (state, trustedBaseline services request answers packSha256)
  Phase.refuse (applyRefusal services request answers packSha256)
  Phase.refuse (deletionsRefusal services request answers packSha256)
  Phase.refuse (materializationRefusalOf services request answers baseline packSha256)
  let isolation ← Phase.ofPair fun state =>
    ({ state with isolation := answers.boundary.toOption },
      prepareBoundary settings answers packSha256)
  let execution := executeBlackboxPack settings.judge.timeout answers.packBefore answers.judge
    answers.packAfter
  let result := projectPackVerdict services request answers baseline packSha256 isolation
    (packFacts services answers execution.2)
  modify fun state => { state with lifecycle := execution.1, pending := some result }
  pure result

def secondaryCleanup (label failure : Text) : Text :=
  truncateText maxDiagnostics ("Blackbox " ++ label ++
    " cleanup failed while preserving the primary exception: " ++ failure)

/-- The failures of the two owned workspaces, in the order in which they are removed. -/
def workspaceFailures : List (Text × Text) :=
  (answers.candidateWorkspaceCleanup.map fun failure =>
      ("candidate workspace".toList, failure)).toList ++
    (answers.packWorkspaceCleanup.map fun failure =>
      ("verifier-pack snapshot workspace".toList, failure)).toList

-- No detail may hide its siblings: each has an equal share of the limit.
def boundedCleanupDetails (heading : Text) (details : List Text) : Text :=
  if details.isEmpty then truncateText maxDiagnostics heading
  else
    let separators := (details.length - 1) * "; ".length
    let share := (maxDiagnostics - (heading.length + 2) - separators) / details.length
    heading ++ ": " ++ Text.join "; " (details.map (truncateText share))

def withPriorDiagnostics (cleanup prior : Text) : Text :=
  let separator := "\nprior diagnostics: ".toList
  let remaining := maxDiagnostics - cleanup.length - separator.length
  if prior.isEmpty ∨ remaining = 0 then cleanup
  else cleanup ++ separator ++ truncateText remaining prior

def retainPendingCandidateEvidence (result : BlackboxResult) : Option BlackboxResult →
    BlackboxResult
  | none => result
  | some pending =>
    { result with
      isolation := pending.isolation
      candidateInvocations := pending.candidateInvocations
      candidateLauncherInvocationObserved := pending.candidateLauncherInvocationObserved }

def cleanupFailureResult (state : BlackboxRunState) (diagnostics : Text) (error : BlackboxError) :
    BlackboxResult :=
  retainPendingCandidateEvidence
    { diagnostics := diagnostics
      error := some error
      packSha256 := state.packSha256
      isolation := state.isolation
      started := state.lifecycle.started
      executionState := if state.lifecycle.started then .startedIncomplete else .notStarted
      executionPhase := if state.lifecycle.started then .blackboxPack else .preflight
      packPresent := if state.packSha256.any fun sha256 => !sha256.isEmpty then some true else none }
    state.pending

def containerFailureResult (state : BlackboxRunState) (failure : Text) : BlackboxResult :=
  match state.lifecycle.active, state.pending with
  | true, some pending =>
    { pending with
      diagnostics := withPriorDiagnostics (boundedCleanupDetails
        ("candidate container cleanup failed while " ++
          "preserving the incomplete black-box result").toList
        [truncateText maxDiagnostics ("CandidateContainerCleanupError: " ++ failure)])
        pending.diagnostics }
  | _, _ => cleanupFailureResult state (truncateText maxDiagnostics failure) .containerCleanupFailed

/-- A container that is not proven absent comes before a workspace that remains; what fails
after it is only noted. -/
def concludeCleanup (ended : BlackboxRunState × BlackboxResult) : BlackboxResult :=
  match answers.containerCleanup, workspaceFailures answers with
  | none, [] => ended.2
  | none, (label, failure) :: rest =>
    cleanupFailureResult ended.1
      (boundedCleanupDetails "black-box workspace absence could not be proven"
        (failure :: ("Blackbox " ++ label ++ " cleanup failed") ::
          rest.map fun other => secondaryCleanup other.1 other.2))
      .workspaceCleanupFailed
  | some failure, [] => containerFailureResult ended.1 failure
  | some failure, first :: rest =>
    let primary := containerFailureResult ended.1 failure
    { primary with
      diagnostics := withPriorDiagnostics (boundedCleanupDetails "secondary cleanup"
        ((first :: rest).map fun other => secondaryCleanup other.1 other.2))
        primary.diagnostics }

def packMissingResult : BlackboxResult where
  error := some (.packNotFound settings.packDir)
  packPresent := some false

def runBlackbox : BlackboxResult :=
  if settings.packDir.isEmpty || !answers.packExists then packMissingResult settings
  else concludeCleanup answers
    (Phase.finish (blackboxRun services settings request answers) {})

end Run

end EvoomGuard.Verifiers
