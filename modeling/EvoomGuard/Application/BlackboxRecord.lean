import EvoomGuard.Application.BlackboxFinalization

/-!
The record that `guard` emits for a black-box verification, beside the reason contract and the
source and composite checks of the record verifier.
-/

namespace EvoomGuard.Application

open Lib Domain Verifiers RecordVerifier

def blackboxRecord (policy : BlackboxPolicy) (packConfigured : Bool) (harnessInputs : List Text)
    (outcome : BlackboxFinalizationOutcome) : Record where
  verdict := outcome.decision.verdict
  reasonCode := outcome.decision.reasonCode
  executionState := outcome.executionState
  executionPhase := outcome.executionPhase
  verdictSource := outcome.verdictSource
  testsPassed := outcome.testsPassed
  testsTotal := outcome.testsTotal
  testCommandRan := outcome.testCommandStarted
  attestation :=
    { guardVersion := some guardVersion
      effectivePolicy := ⟨.blackbox, policy.blackboxOnly, packConfigured, harnessInputs⟩
      junitSha256 := outcome.artifacts.junitSha256
      junitDigestFormat := outcome.artifacts.junitSha256.map fun _ => .junitXml
      verifierPackTestsPassed := outcome.artifacts.verifierPackTestsPassed
      verifierPackTestsTotal := outcome.artifacts.verifierPackTestsTotal
      verifierPackJunitSha256 := outcome.artifacts.junitSha256
      verifierPackJunitDigestFormat := outcome.artifacts.junitSha256.map fun _ => .junitXml
      verifierPackStarted := some outcome.artifacts.verifierPackStarted
      verifierPackCompleted := some outcome.artifacts.verifierPackCompleted
      repoSuite := outcome.artifacts.repoSuite }
  assurance := ⟨outcome.assurance.reportIntegrity, outcome.assurance.repoNativeSuite⟩

namespace BlackboxVerification

variable (verification : BlackboxVerification)

def outcomeOf (repo : Option RepoVerdict) : BlackboxFinalizationOutcome :=
  concludeBlackbox verification.services.quoted verification.policy verification.result repo

def record (outcome : BlackboxFinalizationOutcome) : Record :=
  blackboxRecord verification.policy verification.settings.packConfigured
    verification.request.harnessInputs outcome

end BlackboxVerification

def sourceChecks (record : Record) : Bool :=
  checkSourceContract record && checkCompositeCounts record && checkCompositePhase record

/-! The composed suite -/

/-- How the repo-native verifier ends when it is called without a pack. -/
inductive ComposedEnd (harnessDeclared : Bool) (verdict : RepoVerdict) : Prop
  | unapplied (ends : Unapplied verdict)
      (unstarted : verdict.artifact.execution.executionState = .notStarted)
  | refused (outcome : Outcome) (ends : EndsWith outcome verdict)
      (reached : verdict.artifact.execution.executionState ∈ endStates ⟨harnessDeclared, false⟩ outcome ∨
        (outcome = .assertionLivenessFailed ∧
          verdict.artifact.execution.executionState = .completed))
  | judged (repo : CompletedRunEvidence) (strictHarness : Bool)
      (finished : verdict.artifact.execution.executionState = .completed)
      (started : verdict.artifact.execution.testCommandStarted = true)
      (phase : verdict.artifact.execution.executionPhase = .repoSuite)
      (passed : verdict.passed = (evaluateRepoPhase repo strictHarness).passed)
      (outcome : verdict.artifact.outcome = (evaluateRepoPhase repo strictHarness).outcome)
      (tamper : verdict.artifact.tamper = some (evaluateRepoPhase repo strictHarness).tampered)
      (testsPassed : verdict.artifact.testsPassed =
        some (evaluateRepoPhase repo strictHarness).testsPassed)
      (testsTotal : verdict.artifact.testsTotal =
        some (evaluateRepoPhase repo strictHarness).testsTotal)
      (source : verdict.artifact.verdictSource =
        (evaluateRepoPhase repo strictHarness).verdictSource)

theorem composed_repo_ends (verification : BlackboxVerification) (verdict : RepoVerdict)
    (verified : verification.composedRepo = .ok verdict) :
    ComposedEnd (!verification.request.harnessInputs.isEmpty) verdict := by
  rcases verify_repo_ends _ _ _ _ verdict verified with ⟨ended, concludes, ends⟩
  subst concludes
  have unpacked : verification.composedSettings.packConfigured = false := rfl
  rcases ends with ⟨_, canary⟩ | ⟨_, ending⟩
  · have finished := canary.reached.1
    rw [unpacked] at finished
    exact .refused .assertionLivenessFailed
      ⟨canary.ends.ended, canary.ends.tamper, canary.ends.failed, canary.ends.unsourced⟩
      (Or.inr ⟨rfl, finished⟩)
  · cases ending with
    | unapplied unstarted ends =>
      exact .unapplied ⟨ends.failed, ends.score, ends.outcome, ends.untampered, ends.uncounted,
        ends.unsourced⟩ unstarted
    | refused outcome ends reached =>
      exact .refused outcome ⟨ends.ended, ends.tamper, ends.failed, ends.unsourced⟩
        (Or.inl reached)
    | completed distill context repo pack strictHarness finished packed alone judged =>
      cases pack with
      | some evidence => cases packed rfl
      | none =>
        have lifecycle := alone rfl
        have built : ended.2 = completedVerdict distill context
            (evaluateRepoPhase repo strictHarness) none := judged
        exact .judged repo strictHarness finished lifecycle.1 lifecycle.2
          (congrArg VerdictResult.passed built)
          (congrArg (fun verdict : RepoVerdict => verdict.artifact.outcome) built)
          (congrArg (fun verdict : RepoVerdict => verdict.artifact.tamper) built)
          (congrArg (fun verdict : RepoVerdict => verdict.artifact.testsPassed) built)
          (congrArg (fun verdict : RepoVerdict => verdict.artifact.testsTotal) built)
          (congrArg (fun verdict : RepoVerdict => verdict.artifact.verdictSource) built)

/-! The reason contract -/

/-- The errors of a black-box run that the contract does not list for the state they are
reached in. -/
def unlistedEnd (result : BlackboxResult) : Bool :=
  result.error == some .outputLimit ||
    ((result.error == some .containerCleanupFailed ||
      result.error == some .workspaceCleanupFailed) && !result.started)

/-- The composed suite never ran: its candidate was refused or did not apply. -/
def unexecutedSuite (verdict : RepoVerdict) : Bool :=
  verdict.artifact.outcome.isNone && verdict.artifact.testsTotal.isNone

variable (harnessDeclared : Bool)

theorem error_reason_lawful_iff (error : BlackboxError)
    (state : ExecutionState) (reached : state ∈ blackboxEndStates harnessDeclared error) :
    MeetsContract (publishedContract harnessDeclared) (blackboxErrorReason (some error)).1
        (blackboxErrorReason (some error)).2 state ↔
      ¬ (error = .outputLimit ∨ ((error = .containerCleanupFailed ∨
        error = .workspaceCleanupFailed) ∧ state = .notStarted)) := by
  cases harnessDeclared <;> cases error <;>
    simp only [blackboxEndStates, List.mem_cons, List.not_mem_nil, or_false, if_true,
      Bool.false_eq_true, if_false] at reached <;>
    first
    | exact absurd reached id
    | (rcases reached with reached | reached | reached <;> subst reached <;> decide)
    | (rcases reached with reached | reached <;> subst reached <;> decide)
    | (subst reached; simp [blackboxErrorReason, MeetsContract, publishedContract,
        versionedReasonContract, reasonContract])

theorem repo_failure_of_outcome (outcome : Outcome) (verdict : RepoVerdict)
    (ends : EndsWith outcome verdict) : (repoFailure verdict).1 = endedReason false outcome := by
  have ended := ends.ended
  have tamper := ends.tamper
  unfold repoFailure
  rw [ended, tamper]
  cases outcome <;> rfl

theorem composed_refusal_lawful (outcome : Outcome)
    (state : ExecutionState)
    (reached : state ∈ endStates ⟨harnessDeclared, false⟩ outcome ∨
      (outcome = .assertionLivenessFailed ∧ state = .completed)) :
    MeetsContract (publishedContract harnessDeclared) (endedReason false outcome).1
      (endedReason false outcome).2
      (if state = .completed then .completed else .startedIncomplete) := by
  revert reached
  cases harnessDeclared <;> cases outcome <;> cases state <;> decide

theorem judged_failure_lawful (verdict : RepoVerdict)
    (counted : verdict.artifact.testsTotal.isSome = true)
    (ended : verdict.artifact.outcome = none ∨ verdict.artifact.outcome = some .noTestVerdict) :
    MeetsContract (publishedContract harnessDeclared) (repoFailure verdict).1.1
      (repoFailure verdict).1.2 .completed := by
  rcases Option.isSome_iff_exists.mp counted with ⟨total, found⟩
  unfold repoFailure
  by_cases tampered : verdict.artifact.tamper = some true
  · rcases ended with ended | ended <;>
      cases harnessDeclared <;> simp [ended, tampered, tamperOutcomeReasonPolicy, MeetsContract,
        publishedContract, versionedReasonContract, reasonContract]
  · rcases ended with ended | ended <;>
      cases harnessDeclared <;> simp [ended, tampered, found, tamperOutcomeReasonPolicy,
        outcomeReasonPolicy, MeetsContract, publishedContract, versionedReasonContract,
        reasonContract]

theorem gate_lawful_iff (quoted : Text → Text) (harnessDeclared : Bool) (decision : GuardDecision)
    (assurance : AssuranceProfile) (state : ExecutionState) (policy : BlackboxPolicy)
    (passing : decision.verdict = .pass →
      decision.reasonCode = .testsPassed ∧ state = .completed) :
    Lawful harnessDeclared (applyAssuranceGate quoted decision assurance state true
        policy.requireReportIntegrity policy.requireCandidateIsolation true) state ↔
      Lawful harnessDeclared decision state := by
  by_cases passed : decision.verdict = .pass
  · rcases passing passed with ⟨reason, finished⟩
    have lawful : Lawful harnessDeclared decision state := by
      rw [Lawful, passed, reason, finished]
      cases harnessDeclared <;> decide
    simp only [lawful, iff_true]
    simp only [applyAssuranceGate, passed, finished]
    cases assuranceShortfall quoted assurance policy.requireReportIntegrity
        policy.requireCandidateIsolation with
    | none => simpa [finished] using lawful
    | some reason =>
      change MeetsContract (publishedContract harnessDeclared) .error .assuranceRequirementNotMet
        .completed
      cases harnessDeclared <;> decide
  · rw [assurance_gate_keeps quoted decision assurance state true _ _ true passed]

section Reason

variable (verification : BlackboxVerification)

theorem uncomposed_reason_lawful_iff :
    Lawful (!verification.request.harnessInputs.isEmpty)
        (blackboxDecision verification.services.quoted verification.result none)
        verification.result.executionState ↔ unlistedEnd verification.result = false := by
  have lifecycle := verification.result_ended.lifecycle
  unfold Lawful blackboxDecision unlistedEnd
  cases verification.result_ended.ending with
  | ungraded error failed unpassed unran reached =>
    have lawful := error_reason_lawful_iff _ error _ reached
    simp only [unran, failed, Bool.false_and, Bool.false_eq_true, if_false, Bool.not_false,
      if_true, lawful, lifecycle.started]
    simp
  | graded text counts run =>
    simp only [run.ran, run.unfailed, run.finished, Bool.true_and, Bool.not_true,
      Bool.false_eq_true, if_false]
    cases verification.result.candidateLauncherInvocationObserved <;>
      cases verification.result.passed <;>
      cases verification.request.harnessInputs.isEmpty <;>
      simp [MeetsContract, publishedContract, versionedReasonContract, reasonContract]

theorem composed_reason_lawful_iff (verdict : RepoVerdict)
    (composed : verification.ComposedWith (some verdict)) :
    Lawful (!verification.request.harnessInputs.isEmpty)
        (blackboxDecision verification.services.quoted verification.result (some verdict))
        (finalExecutionState verification.result (some verdict)) ↔
      unexecutedSuite verdict = false := by
  have grade : (verification.result.ran = true ∧
      verification.result.candidateLauncherInvocationObserved = true) ∧
      verification.result.passed = true := by
    have required := composed.1
    simp only [composes, gradeable, Bool.and_eq_true] at required
    exact ⟨required.1.2, required.2⟩
  rcases verification.graded_result grade.1.1 with ⟨text, counts, run⟩
  have decided : Lawful (!verification.request.harnessInputs.isEmpty)
      (blackboxDecision verification.services.quoted verification.result (some verdict)) =
      MeetsContract (publishedContract (!verification.request.harnessInputs.isEmpty))
        (if verdict.passed then (.pass, .testsPassed) else (repoFailure verdict).1).1
        (if verdict.passed then (.pass, .testsPassed) else (repoFailure verdict).1).2 := by
    funext state
    cases green : verdict.passed <;> simp [Lawful, blackboxDecision, grade, green]
  have state : finalExecutionState verification.result (some verdict) =
      if verdict.artifact.execution.executionState = .completed then .completed
      else .startedIncomplete := by
    simp [finalExecutionState, run.finished]
  rw [decided, state]
  cases composed_repo_ends verification verdict composed.2 with
  | unapplied ends unstarted =>
    have unlisted : (repoFailure verdict).1 = (.error, .patchApplyFailed) := by
      have low : verdict.score ≤ patchApplyScore := ends.score
      simp [repoFailure, ends.outcome, ends.untampered, ends.uncounted, low]
    have unexecuted : unexecutedSuite verdict = true := by
      simp [unexecutedSuite, ends.outcome, ends.uncounted]
    simp only [ends.failed, unstarted, unlisted, unexecuted, Bool.false_eq_true, if_false]
    cases verification.request.harnessInputs.isEmpty <;> decide
  | refused outcome ends reached =>
    have lawful := composed_refusal_lawful _ outcome _ reached
    rw [← repo_failure_of_outcome outcome verdict ends] at lawful
    have executed : unexecutedSuite verdict = false := by
      simp [unexecutedSuite, ends.ended]
    simp only [ends.failed, executed, iff_true, Bool.false_eq_true, if_false]
    exact lawful
  | judged repo strictHarness finished started phase passed outcome tamper testsPassed testsTotal
      source =>
    have executed : unexecutedSuite verdict = false := by
      simp [unexecutedSuite, testsTotal]
    have failing := judged_failure_lawful (!verification.request.harnessInputs.isEmpty) verdict
      (by rw [testsTotal]; rfl) (by rw [outcome]; exact repo_outcome_names repo strictHarness)
    simp only [finished, executed, iff_true, if_true]
    cases verdict.passed with
    | true =>
      simp only [if_true]
      cases verification.request.harnessInputs.isEmpty <;> decide
    | false => exact failing

theorem blackbox_reason_accepted_iff (repo : Option RepoVerdict)
    (composed : verification.ComposedWith repo) :
    checkReasonCode (verification.record (verification.outcomeOf repo)) = true ↔
      unlistedEnd verification.result = false ∧
        ∀ verdict, repo = some verdict → unexecutedSuite verdict = false := by
  have published : checkReasonCode (verification.record (verification.outcomeOf repo)) = true ↔
      Lawful (!verification.request.harnessInputs.isEmpty) (verification.outcomeOf repo).decision
        (finalExecutionState verification.result repo) := by
    have schema : (verification.record (verification.outcomeOf
        repo)).attestation.effectivePolicy.schemaVersion =
        if (!verification.request.harnessInputs.isEmpty) then .v1_12 else .v1_11 := by
      unfold RecordPolicy.schemaVersion BlackboxVerification.record blackboxRecord
      cases verification.request.harnessInputs.isEmpty <;> rfl
    unfold checkReasonCode
    rw [decide_eq_true_iff, schema]
    rfl
  have gated := gate_lawful_iff verification.services.quoted
    (!verification.request.harnessInputs.isEmpty)
    (blackboxDecision verification.services.quoted verification.result repo)
    (blackboxAssurance verification.policy verification.result repo)
    (finalExecutionState verification.result repo) verification.policy (by
      intro passed
      have facts := (blackbox_decision_pass_iff _ _ _).mp passed
      have graded : verification.result.ran = true ∧
          verification.result.candidateLauncherInvocationObserved = true := by
        simpa [gradeable] using facts.1
      constructor
      · exact blackbox_pass_reason _ _ _ passed
      · exact verification.composed_passed_completed repo composed graded.1 facts.2.2)
  rw [published, BlackboxVerification.outcomeOf, concludeBlackbox, gated]
  cases repo with
  | none =>
    have lawful := uncomposed_reason_lawful_iff verification
    simp only [finalExecutionState, lawful, reduceCtorEq, false_implies, implies_true, and_true]
  | some verdict =>
    have lawful := composed_reason_lawful_iff verification verdict composed
    have listed : unlistedEnd verification.result = false := by
      have required := composed.1
      simp only [composes, gradeable, Bool.and_eq_true] at required
      rcases verification.graded_result required.1.2.1 with ⟨_, _, run⟩
      simp [unlistedEnd, run.unfailed]
    rw [lawful]
    simp [listed]

end Reason

/-! The source and composite checks -/

section

variable (record : Record)
  (mode : record.attestation.effectivePolicy.mode = .blackbox)
  (required : record.attestation.effectivePolicy.verifierPackRequired = true)

include mode required

theorem unsourced_checks (unsourced : record.verdictSource = none)
    (unpassed : record.verdict ≠ .pass) : sourceChecks record = true := by
  simp [sourceChecks, checkSourceContract, sourceIdentityValid, blackboxSourceValid,
    checkCompositeCounts, checkCompositePhase, compositeSource, mode, required, unsourced, unpassed]

variable (digest : boundReport record.attestation .junitXml = true)
  (packCompleted : record.attestation.verifierPackCompleted = some true)
  (finished : record.executionState = .completed)

include digest packCompleted finished

theorem blackbox_channel_checks (source : record.verdictSource = some .blackbox)
    (phase : record.executionPhase = .blackboxPack)
    (channel : record.attestation.effectivePolicy.blackboxOnly = true ∨
      (record.verdict ≠ .pass ∧
        record.assurance.repoNativeSuite = some .requiredNotRunShortCircuit)) :
    sourceChecks record = true := by
  have allowed : blackboxSourceValid record = true := by
    rcases channel with only | short
    · simp [blackboxSourceValid, required, source, packCompleted, only]
    · simp [blackboxSourceValid, required, source, packCompleted, short]
  simp [sourceChecks, checkSourceContract, sourceIdentityValid, phaseBySource,
    checkCompositeCounts, checkCompositePhase, compositeSource, mode, digest, source, phase,
    finished, allowed]

theorem composite_channel_checks_iff (source : record.verdictSource = some .compositeBlackboxRepo)
    (phase : record.executionPhase = .repoSuite)
    (composed : record.attestation.effectivePolicy.blackboxOnly = false)
    (packStarted : record.attestation.verifierPackStarted = some true)
    (ran : record.testCommandRan = true)
    (suiteAssured : record.assurance.repoNativeSuite = some .composedCompleted)
    (weakest : record.assurance.reportIntegrity = .sameProcessCandidateWritable)
    (suiteStarted : record.attestation.repoSuite.started = some true)
    (suiteCompleted : record.attestation.repoSuite.completed = some true)
    (suiteState : record.attestation.repoSuite.state = some .composedCompleted)
    (green : Bool) (suitePassed : record.attestation.repoSuite.passed = some green)
    (packTotal repoPassed repoTotal : Nat)
    (topPassed : record.testsPassed = some (packTotal + repoPassed))
    (topTotal : record.testsTotal = some (packTotal + repoTotal))
    (passed : record.attestation.verifierPackTestsPassed = some packTotal)
    (total : record.attestation.verifierPackTestsTotal = some packTotal)
    (counted : 0 < packTotal) (bound : repoPassed ≤ repoTotal) :
    sourceChecks record = true ↔
      0 < repoTotal ∧ if green then repoPassed = repoTotal else repoPassed < repoTotal := by
  have numeric : numericCounts record =
      some ⟨packTotal + repoPassed, packTotal + repoTotal, packTotal, packTotal⟩ := by
    simp [numericCounts, topPassed, topTotal, passed, total]
  have sourceAccepted : checkSourceContract record = true := by
    simp [checkSourceContract, sourceIdentityValid, blackboxSourceValid, phaseBySource, mode,
      required, digest, source, phase, finished, composed, packCompleted, suiteAssured]
  have countsAccepted : checkCompositeCounts record = true := by
    simp [checkCompositeCounts, compositeSource, source, numeric, NumericCounts.repoPassed,
      NumericCounts.repoTotal, bound]
  have phaseRead : checkCompositePhase record = blackboxPhaseValid record := by
    simp [checkCompositePhase, compositeSource, source, finished, ran, packStarted, packCompleted]
  have counts : blackboxPhaseValid record = (decide (0 < repoTotal) &&
      if green = true then decide (repoPassed = repoTotal)
      else decide (repoPassed < repoTotal)) := by
    cases green <;>
      simp [blackboxPhaseValid, suiteAssured, weakest, suiteStarted, suiteCompleted, suiteState,
        suitePassed, numeric, counted, NumericCounts.repoPassed, NumericCounts.repoTotal]
  rw [sourceChecks, sourceAccepted, countsAccepted, phaseRead, counts]
  cases green <;> simp

end

/-- The composed suite names a verdict source that the checks cannot read: it counted no test,
or it failed while every counted test passed. -/
def unreadableSuite (verdict : RepoVerdict) : Bool :=
  verdict.artifact.verdictSource.isSome &&
    (verdict.artifact.testsTotal == some 0 ||
      (!verdict.passed && verdict.artifact.testsPassed == verdict.artifact.testsTotal))

/-- Whether a composed suite that returned is unexecuted and whether it is unreadable. -/
def suiteReading (repo : Except RepoRunError RepoVerdict) : Option (Bool × Bool) :=
  match repo with
  | .error _ => none
  | .ok verdict => some (unexecutedSuite verdict, unreadableSuite verdict)

section Sources

variable (verification : BlackboxVerification)

theorem ungraded_unpassed (repo : Option RepoVerdict)
    (ungraded : ¬ (gradeable verification.result = true ∧ verification.result.passed = true ∧
      ∀ verdict, repo = some verdict → verdict.passed = true)) :
    (verification.record (verification.outcomeOf repo)).verdict ≠ .pass := by
  intro passed
  exact ungraded ((blackbox_decision_pass_iff _ _ _).mp (concluded_pass_decided _ _ _ _ passed))

theorem uncomposed_sources_accepted (uncomposed : verification.ComposedWith none) :
    sourceChecks (verification.record (verification.outcomeOf none)) = true := by
  have lifecycle := verification.result_ended.lifecycle
  cases graded : gradeable verification.result with
  | false =>
    apply unsourced_checks _ rfl verification.configured
    · change (if gradeable verification.result then some VerdictSource.blackbox else none) = none
      rw [graded]
      rfl
    · apply ungraded_unpassed
      simp [graded]
  | true =>
    have ran : verification.result.ran = true ∧
        verification.result.candidateLauncherInvocationObserved = true := by
      simpa [gradeable] using graded
    rcases verification.graded_result ran.1 with ⟨text, counts, run⟩
    have started : verification.result.started = true := by
      rw [lifecycle.started, run.finished]
      rfl
    have completed : verification.result.completed = true := by
      rw [lifecycle.completed, run.finished]
      rfl
    apply blackbox_channel_checks _ rfl verification.configured
    · simp [BlackboxVerification.record, blackboxRecord, BlackboxVerification.outcomeOf,
        concludeBlackbox, blackboxArtifacts, boundReport, isHexDigest, run.digest,
        Sha256.hexdigest_is_hex]
    · exact congrArg some completed
    · exact run.finished
    · change (if gradeable verification.result then some VerdictSource.blackbox else none) = _
      rw [graded]
      rfl
    · change verification.result.executionPhase = _
      rw [lifecycle.phase, run.finished]
      rfl
    · cases only : verification.policy.blackboxOnly with
      | true => exact Or.inl only
      | false =>
        have failed : verification.result.passed = false := by
          have required : composes verification.policy verification.result = false := uncomposed
          simpa [composes, only, graded] using required
        apply Or.inr
        constructor
        · apply ungraded_unpassed
          simp [failed]
        · change (blackboxAssurance verification.policy verification.result
            none).repoNativeSuite = _
          simp [blackboxAssurance, blackboxAssuranceProfile, finalExecutionState, run.finished,
            blackboxStarted, started, repoSuiteState, only]

theorem judged_sources_accepted_iff (verdict : RepoVerdict)
    (composed : verification.ComposedWith (some verdict)) (repo : CompletedRunEvidence)
    (strictHarness : Bool)
    (finished : verdict.artifact.execution.executionState = .completed)
    (started : verdict.artifact.execution.testCommandStarted = true)
    (phase : verdict.artifact.execution.executionPhase = .repoSuite)
    (testsPassed : verdict.artifact.testsPassed =
      some (evaluateRepoPhase repo strictHarness).testsPassed)
    (testsTotal : verdict.artifact.testsTotal =
      some (evaluateRepoPhase repo strictHarness).testsTotal)
    (sourced : verdict.artifact.verdictSource.isSome = true) :
    sourceChecks (verification.record (verification.outcomeOf (some verdict))) = true ↔
      0 < (evaluateRepoPhase repo strictHarness).testsTotal ∧
        if verdict.passed then (evaluateRepoPhase repo strictHarness).testsPassed =
          (evaluateRepoPhase repo strictHarness).testsTotal
        else (evaluateRepoPhase repo strictHarness).testsPassed <
          (evaluateRepoPhase repo strictHarness).testsTotal := by
  have required := composed.1
  simp only [composes, gradeable, Bool.and_eq_true, Bool.not_eq_true'] at required
  rcases required with ⟨⟨only, ran, observed⟩, passed⟩
  rcases verification.graded_result ran with ⟨text, counts, run⟩
  have lifecycle := verification.result_ended.lifecycle
  have resultStarted : verification.result.started = true := by
    rw [lifecycle.started, run.finished]
    rfl
  have resultCompleted : verification.result.completed = true := by
    rw [lifecycle.completed, run.finished]
    rfl
  have allPassed : verification.result.testsPassed = verification.result.testsTotal := by
    have clean := run.passed
    rw [passed] at clean
    have none : counts.failures = 0 ∧ counts.errors = 0 := by simpa using clean.symm
    have balance := counts.balanced
    rw [run.testsPassed, run.testsTotal]
    omega
  have counted : 0 < verification.result.testsTotal := by
    rw [run.testsTotal]
    exact run.counted
  have bound : (evaluateRepoPhase repo strictHarness).testsPassed ≤
      (evaluateRepoPhase repo strictHarness).testsTotal := by
    rw [(repo_phase_counts repo strictHarness).1, (repo_phase_counts repo strictHarness).2]
    exact passed_le_total repo.junit
  have state : finalExecutionState verification.result (some verdict) = .completed := by
    simp [finalExecutionState, finished, run.finished]
  have suiteStarted : repoStarted (some verdict) = true := started
  have suiteCompleted : repoCompleted (some verdict) = true := by
    simp [repoCompleted, started, finished]
  have suiteState : repoSuiteState verification.policy (some verdict) = .composedCompleted := by
    simp [repoSuiteState, only, suiteStarted, suiteCompleted]
  have counts : blackboxCounts verification.result (some verdict) =
      (some (verification.result.testsTotal + (evaluateRepoPhase repo strictHarness).testsPassed),
        some (verification.result.testsTotal +
          (evaluateRepoPhase repo strictHarness).testsTotal)) := by
    simp [blackboxCounts, state, testsPassed, testsTotal, allPassed]
  have source : blackboxVerdictSource verification.result (some verdict) =
      some .compositeBlackboxRepo := by
    simp [blackboxVerdictSource, sourced, gradeable, ran, observed]
  have assured : (blackboxAssurance verification.policy verification.result
      (some verdict)).repoNativeSuite = some .composedCompleted ∧
      (blackboxAssurance verification.policy verification.result
        (some verdict)).reportIntegrity = .sameProcessCandidateWritable := by
    simp [blackboxAssurance, blackboxAssuranceProfile, state, blackboxStarted, resultStarted,
      suiteStarted, suiteState]
  apply composite_channel_checks_iff _ rfl verification.configured _ _ state source phase only _ _
    assured.1 assured.2 (congrArg some suiteStarted) (congrArg some suiteCompleted)
    (congrArg some suiteState) verdict.passed _ verification.result.testsTotal _ _
    (congrArg Prod.fst counts) (congrArg Prod.snd counts) _ _ counted bound
  · simp [BlackboxVerification.record, blackboxRecord, BlackboxVerification.outcomeOf,
      concludeBlackbox, blackboxArtifacts, boundReport, isHexDigest, run.digest,
      Sha256.hexdigest_is_hex]
  · exact congrArg some resultCompleted
  · exact congrArg some resultStarted
  · change (verification.result.started || _) = true
    rw [resultStarted, Bool.true_or]
  · change (if verdict.artifact.verdictSource.isSome then some verdict.passed else none) = _
    rw [if_pos sourced]
  · change (if verification.result.completed then some verification.result.testsPassed
      else none) = _
    rw [if_pos resultCompleted, allPassed]
  · change (if verification.result.completed then some verification.result.testsTotal
      else none) = _
    rw [if_pos resultCompleted]

theorem repo_phase_passed_counts (repo : CompletedRunEvidence) (strictHarness : Bool)
    (passed : (evaluateRepoPhase repo strictHarness).passed = true) :
    (evaluateRepoPhase repo strictHarness).testsPassed =
      (evaluateRepoPhase repo strictHarness).testsTotal := by
  have counts := repo_phase_counts repo strictHarness
  rw [repo_phase_passed, Bool.or_eq_true] at passed
  rw [counts.1, counts.2]
  rcases passed with clean | exitOnly
  · exact (clean_pass_counts repo clean).1
  · have absent : repo.junit = none := by
      simp only [exitOnlyPass, Bool.and_eq_true, Option.isNone_iff_eq_none] at exitOnly
      exact exitOnly.1.1.1
    rw [absent]
    rfl

theorem composed_sources_accepted_iff (verdict : RepoVerdict)
    (composed : verification.ComposedWith (some verdict)) :
    sourceChecks (verification.record (verification.outcomeOf (some verdict))) = true ↔
      unreadableSuite verdict = false := by
  have unsourced (source : verdict.artifact.verdictSource = none)
      (failed : verdict.passed = false) :
      sourceChecks (verification.record (verification.outcomeOf (some verdict))) = true ↔
        unreadableSuite verdict = false := by
    have readable : unreadableSuite verdict = false := by
      rw [unreadableSuite, source]
      rfl
    simp only [readable, iff_true]
    apply unsourced_checks _ rfl verification.configured
    · change blackboxVerdictSource verification.result (some verdict) = none
      rw [blackboxVerdictSource, source]
      rfl
    · apply ungraded_unpassed
      simp [failed]
  cases composed_repo_ends verification verdict composed.2 with
  | unapplied ends unstarted | refused outcome ends reached =>
    exact unsourced ends.unsourced ends.failed
  | judged repo strictHarness finished started phase passed outcome tamper testsPassed testsTotal
      source =>
    cases sourced : verdict.artifact.verdictSource with
    | none =>
      apply unsourced sourced
      rw [source] at sourced
      rw [passed]
      by_contra green
      have named := repo_phase_passed_source repo strictHarness (by simpa using green)
      rw [sourced] at named
      cases named
    | some verdictSource =>
      have accepted := judged_sources_accepted_iff verification verdict composed repo
        strictHarness finished started phase testsPassed testsTotal (by simp [sourced])
      have bound : (evaluateRepoPhase repo strictHarness).testsPassed ≤
          (evaluateRepoPhase repo strictHarness).testsTotal := by
        rw [(repo_phase_counts repo strictHarness).1, (repo_phase_counts repo strictHarness).2]
        exact passed_le_total repo.junit
      have full := repo_phase_passed_counts repo strictHarness
      rw [accepted, unreadableSuite, sourced, testsPassed, testsTotal]
      rw [← passed] at full
      cases green : verdict.passed with
      | true =>
        have counts := full green
        simp [counts]
        omega
      | false =>
        simp
        omega

end Sources

/-! What the record verifier says -/

/-- The record of a finalized black-box verification meets the reason contract and the source
and composite checks exactly when the run does not end in an error that the contract does not
list for its state, and the composed suite, if there is one, was executed and is readable. -/
theorem blackbox_record_accepted_iff (verification : BlackboxVerification)
    (outcome : BlackboxFinalizationOutcome) (finalized : verification.finalized = .ok outcome) :
    (checkReasonCode (verification.record outcome) = true ∧
        sourceChecks (verification.record outcome) = true) ↔
      unlistedEnd verification.result = false ∧
        (composes verification.policy verification.result = true →
          ∀ verdict, verification.composedRepo = .ok verdict →
            unexecutedSuite verdict = false ∧ unreadableSuite verdict = false) := by
  rcases verification.finalized_cases outcome finalized with ⟨repo, composed, concludes⟩
  have concluded : outcome = verification.outcomeOf repo := concludes
  subst concluded
  rw [blackbox_reason_accepted_iff verification repo composed]
  cases repo with
  | none =>
    have uncomposed : composes verification.policy verification.result = false := composed
    have sources := uncomposed_sources_accepted verification composed
    simp [uncomposed, sources]
  | some verdict =>
    have sources := composed_sources_accepted_iff verification verdict composed
    rw [sources]
    constructor
    · intro accepted
      constructor
      · exact accepted.1.1
      · intro required other verified
        have same : verdict = other := by
          have both := composed.2.symm.trans verified
          exact Except.ok.inj both
        subst same
        exact ⟨accepted.1.2 verdict rfl, accepted.2⟩
    · intro readable
      have suite := readable.2 composed.1 verdict composed.2
      constructor
      · constructor
        · exact readable.1
        · intro other named
          cases named
          exact suite.1
      · exact suite.2

/-- The verdict of a finalized run and whether its record is accepted. -/
def recordedOutcome (verification : BlackboxVerification) :
    Option (Verdict × ReasonCode × Bool × Bool) :=
  match verification.finalized with
  | .error _ => none
  | .ok outcome => some (outcome.decision.verdict, outcome.decision.reasonCode,
      checkReasonCode (verification.record outcome), sourceChecks (verification.record outcome))

theorem recorded_outcome_some (verification : BlackboxVerification) (verdict : Verdict)
    (reason : ReasonCode) (reasonAccepted sourcesAccepted : Bool)
    (recorded : recordedOutcome verification =
      some (verdict, reason, reasonAccepted, sourcesAccepted)) :
    ∃ outcome, verification.finalized = .ok outcome ∧ outcome.decision.verdict = verdict ∧
      outcome.decision.reasonCode = reason ∧
      checkReasonCode (verification.record outcome) = reasonAccepted ∧
      sourceChecks (verification.record outcome) = sourcesAccepted := by
  unfold recordedOutcome at recorded
  cases finalized : verification.finalized with
  | error problem =>
    rw [finalized] at recorded
    cases recorded
  | ok outcome =>
    rw [finalized] at recorded
    cases recorded
    exact ⟨outcome, rfl, rfl, rfl, rfl, rfl⟩

/-- Beside the green pack the suite of a runner that writes no report exits 0. -/
def exitOnlyVerification : BlackboxVerification where
  services := greenVerification.services
  settings :=
    { greenVerification.settings with
      command := ["make", "test"]
      structuredAdapter := false
      pytestCommand := false }
  request := deletionRequest
  answers := greenAnswers
  repoAnswers := { neuteredAnswers with suite := ⟨.finished true 0 [] [], false, none, none⟩ }
  policy := greenVerification.policy
  configured := rfl

def floodedVerification : BlackboxVerification :=
  { greenVerification with answers := { greenAnswers with judge := .outputLimit [] } }

/-- A pass whose composite counts are rejected, and an error whose reason is. -/
theorem emitted_blackbox_records_rejected :
    (∃ outcome, exitOnlyVerification.finalized = .ok outcome ∧
      outcome.decision.verdict = .pass ∧
      sourceChecks (exitOnlyVerification.record outcome) = false) ∧
    ∃ outcome, floodedVerification.finalized = .ok outcome ∧
      outcome.decision.reasonCode = .noTestVerdict ∧
      checkReasonCode (floodedVerification.record outcome) = false := by
  have unread : recordedOutcome exitOnlyVerification = some (.pass, .testsPassed, true, false) := by
    decide +kernel
  have unlisted : recordedOutcome floodedVerification =
      some (.error, .noTestVerdict, false, true) := by decide +kernel
  rcases recorded_outcome_some _ _ _ _ _ unread with ⟨passing, passFinalized, passed, _, _, source⟩
  rcases recorded_outcome_some _ _ _ _ _ unlisted with ⟨failing, failFinalized, _, reason, code, _⟩
  exact ⟨⟨passing, passFinalized, passed, source⟩, ⟨failing, failFinalized, reason, code⟩⟩

/-- The record of a green pack and a green suite is accepted. -/
theorem green_record_accepted :
    ∃ outcome, greenVerification.finalized = .ok outcome ∧
      outcome.decision.verdict = .pass ∧
      checkReasonCode (greenVerification.record outcome) = true ∧
      sourceChecks (greenVerification.record outcome) = true := by
  have decided : finalVerdict greenVerification.finalized = some .pass := by decide
  rcases final_verdict_some _ _ decided with ⟨outcome, finalized, passed⟩
  have listed : unlistedEnd greenVerification.result = false := by decide
  have readable : suiteReading greenVerification.composedRepo = some (false, false) := by
    decide
  have accepted := (blackbox_record_accepted_iff greenVerification outcome finalized).mpr
    ⟨listed, by
      intro _ verdict verified
      rw [verified] at readable
      cases executed : unexecutedSuite verdict <;> cases read : unreadableSuite verdict <;>
        simp [suiteReading, executed, read] at readable ⊢⟩
  exact ⟨outcome, finalized, passed, accepted⟩

end EvoomGuard.Application
