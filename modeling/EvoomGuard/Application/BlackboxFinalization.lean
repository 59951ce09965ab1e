import EvoomGuard.Application.RepoContract
import EvoomGuard.Verifiers.BlackboxEnds

/-!
The post-judge sequence of `application/blackbox_finalization.py`: the result of the external
judge, the repo-native suite that a passing pack still requires, the assurance profile of both
and its floors.
-/

namespace EvoomGuard.Application

open Lib Domain Verifiers

structure BlackboxPolicy where
  blackboxOnly : Bool
  collectBaselineEvidence : Bool
  collectDiffCoverage : Bool
  requireReportIntegrity : Option Text
  requireCandidateIsolation : Option Text

/-- A verdict that an observed launcher invocation stands behind. -/
def gradeable (result : BlackboxResult) : Bool :=
  result.ran && result.candidateLauncherInvocationObserved

/-- A passing external pack is additive: the repo-native suite is still required. -/
def composes (policy : BlackboxPolicy) (result : BlackboxResult) : Bool :=
  !policy.blackboxOnly && gradeable result && result.passed

def blackboxErrorReason : Option BlackboxError → Verdict × ReasonCode
  | some .timeout => (.error, .testTimeout)
  | some .packIdentityMismatch => (.error, .verifierPackIdentityMismatch)
  | some .packInvalid => (.error, .verifierPackInvalid)
  | some (.packNotFound _) => (.error, .verifierPackNotFound)
  | some .patchUnapplied => (.error, .patchApplyFailed)
  | some .unsafeDeletion => (.error, .unsafePath)
  | some .isolationUnavailable => (.error, .assuranceRequirementNotMet)
  | some .packSnapshotChanged | some .packChangedWhileExecuting =>
    (.tampered, .verifierPackSnapshotChanged)
  | some .harnessInputChanged => (.tampered, .candidateTreeChanged)
  | some .trustedHarnessUnbound => (.error, .assuranceRequirementNotMet)
  | some .junitExitMismatch => (.tampered, .junitExitMismatch)
  | some .containerCleanupFailed | some .judgeCleanupFailed | some .workspaceCleanupFailed =>
    (.error, .runtimeCleanupFailed)
  | some .outputLimit | some .noTestResults | some (.uncleanExit _) | none =>
    (.error, .noTestVerdict)

def unexercisedReason : Text :=
  ("the black-box pack completed without an observed " ++
    "$EVOGUARD_EXEC invocation, so it did not prove that it exercised " ++
    "the candidate; direct EVOGUARD_TARGET access and constant tests " ++
    "cannot produce a gradeable black-box verdict").toList

def fraction (passed total : Nat) : Text :=
  Nat.toDigits 10 passed ++ ['/'] ++ Nat.toDigits 10 total

def repoTamperCause : Text := "the repo suite's exit code and JUnit report disagree"

/-- Why the required repo-native phase stops a green pack. -/
def repoFailure (verdict : RepoVerdict) : (Verdict × ReasonCode) × Text :=
  match verdict.artifact.outcome.bind tamperOutcomeReasonPolicy with
  | some (reasonCode, summary) => ((.tampered, reasonCode), summary)
  | none =>
    if verdict.artifact.tamper = some true then
      ((.tampered, .junitExitMismatch), repoTamperCause)
    else
      match verdict.artifact.outcome, verdict.artifact.outcome.bind outcomeReasonPolicy with
      | some outcome, some reason =>
        (reason, orElseText verdict.diagnostics outcome.name.toList)
      | _, _ =>
        match verdict.artifact.testsTotal with
        | some total => ((.fail, .testsFailed), "the repo suite failed (" ++
            fraction (verdict.artifact.testsPassed.getD 0) total ++ " passed)")
        | none =>
          if verdict.score ≤ patchApplyScore then ((.error, .patchApplyFailed),
            orElseText verdict.diagnostics "the patch did not apply")
          else ((.fail, .noTestVerdict),
            orElseText verdict.diagnostics "no clean repo-suite verdict")

def maskedReason (cause : Text) : Text :=
  ("the black-box pack passed, but the repo's own test suite " ++
    "(the required repo-native phase) " ++ "did not: ").toList ++ cause ++
    " — a green pack must not mask a repo failure"

def blackboxPassReason (result : BlackboxResult) (composed : Bool) : Text :=
  "the black-box pack passed (" ++ fraction result.testsPassed result.testsTotal ++
    [')'] ++ (if composed then " and the repo's own suite passed".toList else []) ++
    (" — " ++ "the candidate satisfied the judge-owned protocol tests, " ++
      "judged from outside its own process").toList

section Finalization

variable (quoted : Text → Text)

def blackboxDecision (result : BlackboxResult) (repo : Option RepoVerdict) : GuardDecision :=
  if result.ran && !result.candidateLauncherInvocationObserved then
    ⟨.error, .candidateNotExercised, unexercisedReason⟩
  else if !result.ran then
    let reason := blackboxErrorReason result.error
    ⟨reason.1, reason.2, orElseText result.diagnostics (((result.error.map
      (BlackboxError.text quoted)).getD "the black-box pack produced no verdict"))⟩
  else if !result.passed then
    ⟨.fail, .testsFailed, "the black-box pack failed (" ++
      fraction result.testsPassed result.testsTotal ++ [')']⟩
  else
    match repo with
    | some verdict =>
      if verdict.passed then ⟨.pass, .testsPassed, blackboxPassReason result true⟩
      else
        let failure := repoFailure verdict
        ⟨failure.1.1, failure.1.2, maskedReason failure.2⟩
    | none => ⟨.pass, .testsPassed, blackboxPassReason result false⟩

def repoStarted (repo : Option RepoVerdict) : Bool :=
  repo.any fun verdict => verdict.artifact.execution.testCommandStarted

def repoCompleted (repo : Option RepoVerdict) : Bool :=
  repo.any fun verdict => verdict.artifact.execution.testCommandStarted &&
    verdict.artifact.execution.executionState == .completed

def repoSuiteState (policy : BlackboxPolicy) (repo : Option RepoVerdict) : RepoSuiteState :=
  if policy.blackboxOnly then .notRequiredBlackboxOnly
  else if repo.isNone then .requiredNotRunShortCircuit
  else if !repoStarted repo then .requiredNotStarted
  else if !repoCompleted repo then .requiredStartedIncomplete
  else .composedCompleted

def finalExecutionState (result : BlackboxResult) : Option RepoVerdict → ExecutionState
  | none => result.executionState
  | some verdict =>
    if verdict.artifact.execution.executionState = .completed ∧
        result.executionState = .completed then .completed
    else .startedIncomplete

def finalExecutionPhase (result : BlackboxResult) : Option RepoVerdict → ExecutionPhase
  | none => result.executionPhase
  | some verdict => verdict.artifact.execution.executionPhase

def blackboxVerdictSource (result : BlackboxResult) : Option RepoVerdict → Option VerdictSource
  | none => if gradeable result then some .blackbox else none
  | some verdict =>
    if verdict.artifact.verdictSource.isSome && gradeable result then
      some .compositeBlackboxRepo
    else none

def blackboxCounts (result : BlackboxResult) : Option RepoVerdict → Option Nat × Option Nat
  | none => if result.completed then (some result.testsPassed, some result.testsTotal)
      else (none, none)
  | some verdict =>
    if finalExecutionState result (some verdict) = .completed then
      match verdict.artifact.testsPassed, verdict.artifact.testsTotal with
      | some passed, some total =>
        (some (result.testsPassed + passed), some (result.testsTotal + total))
      | _, _ => (none, none)
    else (none, none)

def candidateBoundary (result : BlackboxResult) : Boundary :=
  if result.candidateLauncherInvocationObserved then
    if result.started then (result.isolation.map BlackboxIsolation.delivered).getD .subprocess
    else .notRun
  else .notRun

def unstartedNote : Text :=
  ("the launcher/boundary was prepared but the black-box judge " ++
    "did not start, so candidate isolation was not exercised").toList

def uninvokedNote : Text :=
  ("the judge ran, but no candidate launcher invocation was " ++
    "observed; the prepared boundary is not delivery evidence").toList

def deliveredIsolationEvidence (result : BlackboxResult) : Option BlackboxIsolation :=
  result.isolation.map fun isolation =>
    if isolation.delivered = .unavailable ∨
        (result.started = true ∧ result.candidateLauncherInvocationObserved = true) then isolation
    else
      { isolation with
        delivered := .notRun
        prepared := some (isolation.prepared.getD isolation.delivered)
        note := if result.started then uninvokedNote else unstartedNote }

def blackboxPackOutcome : Option BlackboxError → Option Outcome
  | some .packInvalid => some .packInvalid
  | some .packIdentityMismatch => some .packIdentityMismatch
  | some .packSnapshotChanged | some .packChangedWhileExecuting => some .packSnapshotChanged
  | _ => none

def blackboxPackEvidence (result : BlackboxResult) : PackRunEvidence where
  present := result.packPresent
  snapshotSha256 := result.packSha256
  started := result.started
  completed := result.completed
  outcome := blackboxPackOutcome result.error
  candidateLauncherInvocationObserved := some result.candidateLauncherInvocationObserved

def blackboxStarted (result : BlackboxResult) (repo : Option RepoVerdict) : Bool :=
  result.started || repoStarted repo

def blackboxAssurance (policy : BlackboxPolicy) (result : BlackboxResult)
    (repo : Option RepoVerdict) : AssuranceProfile :=
  blackboxAssuranceProfile (candidateBoundary result) (repoStarted repo) (!policy.blackboxOnly)
    (repoSuiteState policy repo)
    { executionState := finalExecutionState result repo
      executionPhase := finalExecutionPhase result repo
      testCommandStarted := blackboxStarted result repo
      setupIsolation := repo.bind fun verdict => verdict.artifact.setupIsolation
      runtimeContinuity := repo.bind fun verdict => verdict.artifact.runtime.continuity }
    (blackboxPackEvidence result)

/-- What the attestation of a black-box run is built from. -/
structure BlackboxArtifacts where
  verifierPackSha256 : Option Text
  verifierPackPresent : Option Bool
  verifierPackStarted : Bool
  verifierPackCompleted : Bool
  verifierPackTestsPassed : Option Nat
  verifierPackTestsTotal : Option Nat
  junitSha256 : Option Text
  isolationEvidence : Option BlackboxIsolation
  setupIsolationEvidence : Option IsolationObservation
  repoSuiteIsolationEvidence : Option IsolationObservation
  verifierPackIsolationEvidence : Option IsolationObservation
  repoSuite : RepositorySuiteEvidence
  repoSuiteImageDigest : Option Text
  setupIsolation : Option Boundary
  candidateInvocations : Nat
  candidateLauncherInvocationObserved : Bool

def blackboxArtifacts (policy : BlackboxPolicy) (result : BlackboxResult)
    (repo : Option RepoVerdict) : BlackboxArtifacts where
  verifierPackSha256 := result.packSha256
  verifierPackPresent := result.packPresent
  verifierPackStarted := result.started
  verifierPackCompleted := result.completed
  verifierPackTestsPassed := if result.completed then some result.testsPassed else none
  verifierPackTestsTotal := if result.completed then some result.testsTotal else none
  junitSha256 := result.junitSha256
  isolationEvidence := deliveredIsolationEvidence result
  setupIsolationEvidence := repo.bind fun verdict =>
    verdict.artifact.execution.setupIsolationEvidence
  repoSuiteIsolationEvidence := repo.bind fun verdict =>
    verdict.artifact.execution.repoSuiteIsolationEvidence
  verifierPackIsolationEvidence := repo.bind fun verdict =>
    verdict.artifact.execution.verifierPackIsolationEvidence
  repoSuite :=
    { started := some (repoStarted repo)
      completed := some (repoCompleted repo)
      state := some (repoSuiteState policy repo)
      passed := repo.bind fun verdict =>
        if verdict.artifact.verdictSource.isSome then some verdict.passed else none
      junitSha256 := repo.bind fun verdict => verdict.artifact.junitSha256
      junitDigestFormat := repo.bind fun verdict => verdict.artifact.junitDigestFormat }
  repoSuiteImageDigest := repo.bind fun verdict => verdict.artifact.imageDigest
  setupIsolation := repo.bind fun verdict => verdict.artifact.setupIsolation
  candidateInvocations := result.candidateInvocations
  candidateLauncherInvocationObserved := result.candidateLauncherInvocationObserved

structure BlackboxFinalizationOutcome where
  decision : GuardDecision
  testsPassed : Option Nat
  testsTotal : Option Nat
  testCommandStarted : Bool
  executionState : ExecutionState
  executionPhase : ExecutionPhase
  verdictSource : Option VerdictSource
  diagnostics : Text
  effectiveCandidateIsolation : Boundary
  baseline : Option BaselineEvidence
  diffCoverage : Option CoverageEvidence
  assurance : AssuranceProfile
  artifacts : BlackboxArtifacts

def unmeasuredBaselineNote : Text :=
  ("baseline differential evidence runs under the subprocess " ++
    "repo judge only; the black-box judge did not measure it").toList

def unmeasuredCoverageNote : Text :=
  ("changed-line coverage runs under the subprocess repo judge " ++
    "only; the black-box judge did not measure it").toList

/-- The sequence once the required repo-native suite, if any, has returned. -/
def concludeBlackbox (policy : BlackboxPolicy) (result : BlackboxResult)
    (repo : Option RepoVerdict) : BlackboxFinalizationOutcome where
  decision := applyAssuranceGate quoted (blackboxDecision quoted result repo)
    (blackboxAssurance policy result repo) (finalExecutionState result repo) true
    policy.requireReportIntegrity policy.requireCandidateIsolation true
  testsPassed := (blackboxCounts result repo).1
  testsTotal := (blackboxCounts result repo).2
  testCommandStarted := blackboxStarted result repo
  executionState := finalExecutionState result repo
  executionPhase := finalExecutionPhase result repo
  verdictSource := blackboxVerdictSource result repo
  diagnostics := result.diagnostics
  effectiveCandidateIsolation := candidateBoundary result
  baseline := if policy.collectBaselineEvidence then
      some ⟨none, none, none, .unmeasured, .unsupportedMode, unmeasuredBaselineNote⟩
    else none
  diffCoverage := if policy.collectDiffCoverage then
      some (.unmeasured (some unmeasuredCoverageNote))
    else none
  assurance := blackboxAssurance policy result repo
  artifacts := blackboxArtifacts policy result repo

-- The composed verifier is called only when its verdict is required.
def finalizeBlackboxVerification (policy : BlackboxPolicy) (result : BlackboxResult)
    (composedRepo : Except RepoRunError RepoVerdict) :
    Except RepoRunError BlackboxFinalizationOutcome :=
  if composes policy result then
    match composedRepo with
    | .error problem => .error problem
    | .ok verdict => .ok (concludeBlackbox quoted policy result (some verdict))
  else .ok (concludeBlackbox quoted policy result none)

end Finalization

/-- What `guard` calls the judge on; without a pack it refuses before. -/
structure BlackboxVerification where
  services : RepoServices
  settings : RepoSettings
  request : RepoCandidateAdmissionRequest
  answers : BlackboxAnswers
  repoAnswers : RepoAnswers
  policy : BlackboxPolicy
  configured : settings.packConfigured = true

namespace BlackboxVerification

variable (verification : BlackboxVerification)

def result : BlackboxResult :=
  runBlackbox verification.services verification.settings verification.request verification.answers

/-- The repo-native verifier is called without the pack, on the image that the boundary used. -/
def composedSettings : RepoSettings :=
  { verification.settings with
    packDir := []
    expectedPackSha256 := []
    dockerImage := if verification.settings.judge.containerMode then
        (verification.result.isolation.bind BlackboxIsolation.imageDigest).getD []
      else verification.settings.dockerImage }

def composedRepo : Except RepoRunError RepoVerdict :=
  verifyRepo verification.services verification.composedSettings verification.request
    verification.repoAnswers

def finalized : Except RepoRunError BlackboxFinalizationOutcome :=
  finalizeBlackboxVerification verification.services.quoted verification.policy
    verification.result verification.composedRepo

/-- The repo-native verdict that a finalized run was composed with. -/
def ComposedWith (repo : Option RepoVerdict) : Prop :=
  match repo with
  | none => composes verification.policy verification.result = false
  | some verdict => composes verification.policy verification.result = true ∧
      verification.composedRepo = .ok verdict

theorem finalized_cases (outcome : BlackboxFinalizationOutcome)
    (finalized : verification.finalized = .ok outcome) :
    ∃ repo, verification.ComposedWith repo ∧
      outcome = concludeBlackbox verification.services.quoted verification.policy
        verification.result repo := by
  unfold BlackboxVerification.finalized finalizeBlackboxVerification at finalized
  split_ifs at finalized with composed
  · split at finalized
    · cases finalized
    · rename_i verdict verified
      cases finalized
      exact ⟨some verdict, ⟨composed, verified⟩, rfl⟩
  · cases finalized
    exact ⟨none, by simpa [ComposedWith] using composed, rfl⟩

end BlackboxVerification

theorem outcome_reason_not_pass (outcome : Outcome) (reason : Verdict × ReasonCode)
    (found : outcomeReasonPolicy outcome = some reason) : reason.1 ≠ .pass := by
  cases outcome <;> cases found <;> simp

theorem repo_failure_not_pass (verdict : RepoVerdict) : (repoFailure verdict).1.1 ≠ .pass := by
  unfold repoFailure
  split
  · simp
  · split
    · simp
    · split
      · rename_i outcome reason ended found
        rw [ended, Option.bind_some] at found
        exact outcome_reason_not_pass outcome reason found
      · split
        · simp
        · split <;> simp

theorem blackbox_error_not_pass (error : Option BlackboxError) :
    (blackboxErrorReason error).1 ≠ .pass := by
  cases error with
  | none => simp [blackboxErrorReason]
  | some error => cases error <;> simp [blackboxErrorReason]

variable (quoted : Text → Text)

theorem blackbox_decision_pass_iff (result : BlackboxResult)
    (repo : Option RepoVerdict) :
    (blackboxDecision quoted result repo).verdict = .pass ↔
      gradeable result = true ∧ result.passed = true ∧
        ∀ verdict, repo = some verdict → verdict.passed = true := by
  unfold blackboxDecision gradeable
  cases ran : result.ran with
  | false => simp [blackbox_error_not_pass]
  | true =>
    cases observed : result.candidateLauncherInvocationObserved with
    | false => simp
    | true =>
      cases passed : result.passed with
      | false => simp
      | true =>
        cases repo with
        | none => simp
        | some verdict =>
          cases green : verdict.passed <;> simp [green, repo_failure_not_pass]

theorem blackbox_pass_reason (result : BlackboxResult)
    (repo : Option RepoVerdict) (passed : (blackboxDecision quoted result repo).verdict = .pass) :
    (blackboxDecision quoted result repo).reasonCode = .testsPassed := by
  have facts := (blackbox_decision_pass_iff quoted result repo).mp passed
  have graded : result.ran = true ∧ result.candidateLauncherInvocationObserved = true := by
    simpa [gradeable] using facts.1
  cases repo with
  | none => simp [blackboxDecision, graded, facts.2.1]
  | some verdict => simp [blackboxDecision, graded, facts.2.1, facts.2.2 verdict rfl]

theorem concluded_pass_decided (policy : BlackboxPolicy)
    (result : BlackboxResult) (repo : Option RepoVerdict)
    (passed : (concludeBlackbox quoted policy result repo).decision.verdict = .pass) :
    (blackboxDecision quoted result repo).verdict = .pass := by
  by_contra other
  have kept := assurance_gate_keeps quoted _ (blackboxAssurance policy result repo)
    (finalExecutionState result repo) true policy.requireReportIntegrity
    policy.requireCandidateIsolation true other
  exact other (kept ▸ passed)

theorem verify_repo_passed_completed (services : RepoServices) (settings : RepoSettings)
    (request : RepoCandidateAdmissionRequest) (answers : RepoAnswers) (verdict : RepoVerdict)
    (verified : verifyRepo services settings request answers = .ok verdict)
    (passed : verdict.passed = true) :
    verdict.artifact.execution.executionState = .completed := by
  rcases verify_repo_ends services settings request answers verdict verified with
    ⟨ended, concludes, ends⟩
  subst concludes
  have green : ended.2.passed = true := passed
  rcases ends with ⟨_, canary⟩ | ⟨_, ending⟩
  · rw [canary.ends.failed] at green
    cases green
  · cases ending with
    | unapplied unstarted ends | refused outcome ends reached =>
      rw [ends.failed] at green
      cases green
    | completed distill context repo pack strictHarness finished packed alone judged =>
      exact finished

namespace BlackboxVerification

variable (verification : BlackboxVerification)

theorem result_ended :
    EndedBy verification.services verification.request verification.answers verification.result :=
  run_blackbox_ended verification.services verification.settings verification.request
    verification.answers

theorem graded_result (ran : verification.result.ran = true) :
    ∃ text counts, GradedRun verification.services.parseXml verification.answers.report
      verification.result text counts := by
  cases verification.result_ended.ending with
  | ungraded error failed unpassed unran reached =>
    rw [ran] at unran
    cases unran
  | graded text counts run => exact ⟨text, counts, run⟩

theorem composed_passed_completed (repo : Option RepoVerdict)
    (composed : verification.ComposedWith repo) (ran : verification.result.ran = true)
    (passed : ∀ verdict, repo = some verdict → verdict.passed = true) :
    finalExecutionState verification.result repo = .completed := by
  rcases verification.graded_result ran with ⟨_, _, run⟩
  cases repo with
  | none => exact run.finished
  | some verdict =>
    have finished := verify_repo_passed_completed _ _ _ _ verdict composed.2 (passed verdict rfl)
    simp [finalExecutionState, finished, run.finished]

end BlackboxVerification

/-- The rank of what was delivered meets both floors, the pack phase ran to its end on a counted
passing report, the launcher was invoked, and the suite passed where it is required. -/
theorem blackbox_pass_sound (verification : BlackboxVerification)
    (outcome : BlackboxFinalizationOutcome) (finalized : verification.finalized = .ok outcome)
    (passed : outcome.decision.verdict = .pass) :
    let result := verification.result
    result.ran = true ∧ result.started = true ∧ result.completed = true ∧
      result.executionState = .completed ∧
      result.candidateLauncherInvocationObserved = true ∧ 0 < result.candidateInvocations ∧
      (∃ text counts, verification.answers.report = some text ∧
        parseJunitXml verification.services.parseXml text = some counts ∧ 0 < counts.total ∧
        counts.failures = 0 ∧ counts.errors = 0 ∧ counts.passed = counts.total ∧
        result.testsPassed = counts.passed ∧ result.testsTotal = counts.total) ∧
      (verification.policy.blackboxOnly = false →
        ∃ verdict, verification.composedRepo = .ok verdict ∧ verdict.passed = true) ∧
      MeetsFloors outcome.assurance verification.policy.requireReportIntegrity
        verification.policy.requireCandidateIsolation := by
  intro result
  rcases verification.finalized_cases outcome finalized with ⟨repo, composed, concludes⟩
  subst concludes
  have decided := concluded_pass_decided _ _ _ _ passed
  have facts := (blackbox_decision_pass_iff _ _ _).mp decided
  have graded : result.ran = true ∧ result.candidateLauncherInvocationObserved = true := by
    simpa [gradeable] using facts.1
  rcases verification.graded_result graded.1 with ⟨text, counts, run⟩
  have lifecycle := verification.result_ended.lifecycle
  have invoked : 0 < result.candidateInvocations := by
    have observed := lifecycle.observed
    rw [graded.2] at observed
    simpa using observed.symm
  have clean : counts.failures = 0 ∧ counts.errors = 0 := by
    have passing := run.passed
    rw [facts.2.1] at passing
    simpa using passing.symm
  have balance := counts.balanced
  have finished := verification.composed_passed_completed repo composed graded.1 facts.2.2
  have floors : MeetsFloors (blackboxAssurance verification.policy result repo)
      verification.policy.requireReportIntegrity
      verification.policy.requireCandidateIsolation := by
    have gate : (applyAssuranceGate verification.services.quoted
        (blackboxDecision verification.services.quoted result repo)
        (blackboxAssurance verification.policy result repo) (finalExecutionState result repo) true
        verification.policy.requireReportIntegrity verification.policy.requireCandidateIsolation
        true).verdict = .pass := passed
    rw [finished] at gate
    exact ((assurance_gate_pass_iff verification.services.quoted _ _ true _ _ true rfl).mp gate).2
  have suite : verification.policy.blackboxOnly = false →
      ∃ verdict, verification.composedRepo = .ok verdict ∧ verdict.passed = true := by
    intro required
    cases repo with
    | none =>
      have uncomposed : composes verification.policy verification.result = false := composed
      simp [composes, required, facts.1, facts.2.1] at uncomposed
    | some verdict => exact ⟨verdict, composed.2, facts.2.2 verdict rfl⟩
  exact ⟨graded.1, by rw [lifecycle.started, run.finished]; rfl,
    by rw [lifecycle.completed, run.finished]; rfl, run.finished, graded.2, invoked,
    ⟨text, counts, run.read, run.parsed, run.counted, clean.1, clean.2, by omega,
      run.testsPassed, run.testsTotal⟩, suite, floors⟩

def greenReport : Text := "<testsuite tests=\"1\"><testcase/></testsuite>"

def greenTree (text : Text) : Option Element :=
  if text = greenReport then
    some (.mk "testsuite" [("tests", "1")] [.mk "testcase" [] []])
  else none

/-- Every phase completes and the launcher is invoked once. -/
def greenAnswers : BlackboxAnswers where
  packExists := true
  packSnapshot := .ok (Sha256.hexdigest [])
  trustedHarness := noCheckpoint
  copy := testedTree
  candidateHarness := noCheckpoint
  boundary := .ok { requested := .subprocess, delivered := .subprocess }
  packBefore := none
  judge := .finished 0 [] []
  packAfter := none
  report := some greenReport
  launcher := fun _ => ⟨1, []⟩
  harnessAfter := noCheckpoint
  containerCleanup := none
  candidateWorkspaceCleanup := none
  packWorkspaceCleanup := none

def greenVerification : BlackboxVerification where
  services := { plainServices with parseXml := greenTree }
  settings := { livenessSettings "pack" with requireAssertLiveness := false }
  request := deletionRequest
  answers := greenAnswers
  repoAnswers :=
    { neuteredAnswers with suite := ⟨.finished true 0 [] [], true, some greenReport, none⟩ }
  policy := ⟨false, false, false, some "same_process_candidate_writable",
    some "subprocess"⟩
  configured := rfl

def finalVerdict (finalized : Except RepoRunError BlackboxFinalizationOutcome) : Option Verdict :=
  match finalized with
  | .error _ => none
  | .ok outcome => some outcome.decision.verdict

theorem final_verdict_some (finalized : Except RepoRunError BlackboxFinalizationOutcome)
    (verdict : Verdict) (decided : finalVerdict finalized = some verdict) :
    ∃ outcome, finalized = .ok outcome ∧ outcome.decision.verdict = verdict := by
  cases finalized with
  | error problem => cases decided
  | ok outcome =>
    cases decided
    exact ⟨outcome, rfl, rfl⟩

theorem green_verification_passes :
    ∃ outcome, greenVerification.finalized = .ok outcome ∧ outcome.decision.verdict = .pass ∧
      0 < greenVerification.result.candidateInvocations ∧
      (∃ verdict, greenVerification.composedRepo = .ok verdict ∧ verdict.passed = true) ∧
      MeetsFloors outcome.assurance (some "same_process_candidate_writable")
        (some "subprocess") := by
  have decided : finalVerdict greenVerification.finalized = some .pass := by decide
  rcases final_verdict_some _ _ decided with ⟨outcome, finalized, passed⟩
  have sound := blackbox_pass_sound greenVerification outcome finalized passed
  rcases sound with ⟨_, _, _, _, _, invoked, _, suite, floors⟩
  exact ⟨outcome, finalized, passed, invoked, suite rfl, floors⟩

end EvoomGuard.Application
