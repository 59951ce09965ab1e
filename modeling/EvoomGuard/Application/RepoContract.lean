import EvoomGuard.Application.RepoRecord
import EvoomGuard.Verifiers.RepoRunEnds

/-!
The published reason contract over whole repository runs: the verdict and the reason that the
decision layer gives to the result of `RepoVerifier.verify`, beside the execution state that
the run recorded.
-/

namespace EvoomGuard.Application

open Lib Domain Verifiers

/-- The contract of a record that binds harness inputs, or of one that does not. -/
def publishedContract (harnessDeclared : Bool) : ReasonCode → List Verdict × List ExecutionState :=
  versionedReasonContract (if harnessDeclared then .v1_12 else .v1_11)

def Lawful (harnessDeclared : Bool) (decision : GuardDecision) (state : ExecutionState) : Prop :=
  MeetsContract (publishedContract harnessDeclared) decision.verdict decision.reasonCode state

section

variable (repo : CompletedRunEvidence) (pack : Option CompletedRunEvidence) (strictHarness : Bool)

theorem final_outcome_names :
    (judgedPhase repo pack strictHarness).outcome = none ∨
      (judgedPhase repo pack strictHarness).outcome = some .noTestVerdict ∨
      (judgedPhase repo pack strictHarness).outcome = some .packNoTests ∨
      (judgedPhase repo pack strictHarness).outcome = some .packNoVerdict := by
  have repoNames := repo_outcome_names repo strictHarness
  cases pack with
  | none =>
    rcases repoNames with none | missing
    · exact Or.inl none
    · exact Or.inr (Or.inl missing)
  | some evidence =>
    simp only [judgedPhase, finalPhase, composeRepoAndPack, Option.map_some]
    rcases pack_outcome_names evidence with none | ended | ended
    · rw [none]
      rcases repoNames with repoNone | missing
      · exact Or.inl repoNone
      · exact Or.inr (Or.inl missing)
    · exact Or.inr (Or.inr (Or.inl (by simp [ended])))
    · exact Or.inr (Or.inr (Or.inr (by simp [ended])))

/-- A failed run without an outcome and without a counted test was graded from its exit code
alone, above the score of a patch that did not apply. -/
theorem uncounted_failure_score (failed : (judgedPhase repo pack strictHarness).passed = false)
    (unended : (judgedPhase repo pack strictHarness).outcome = none)
    (uncounted : (judgedPhase repo pack strictHarness).testsTotal = 0) :
    ¬ (judgedPhase repo pack strictHarness).score ≤ patchApplyScore := by
  cases pack with
  | none =>
    have total : (evaluateRepoPhase repo strictHarness).testsTotal = 0 := uncounted
    have unpassed : (evaluateRepoPhase repo strictHarness).passed = false := failed
    have unnamed : (evaluateRepoPhase repo strictHarness).outcome = none := unended
    rcases repo_source_cases repo strictHarness with missing | structured | exitOnly
    · rw [repo_outcome_of_source, missing] at unnamed
      cases unnamed
    · rcases counted_report repo.junit structured.2.1 with ⟨counts, report, positive⟩
      rw [(repo_phase_counts repo strictHarness).2, report] at total
      exact absurd total (Nat.ne_of_gt positive)
    · rcases exitOnly with ⟨_, absent, unexpected, lenient, code⟩
      subst lenient
      rcases code with zero | one
      · rw [repo_phase_passed] at unpassed
        simp [exitOnlyPass, absent, unexpected, zero] at unpassed
      · have graded : (judgedPhase repo none false).score = 25 / 100 := by
          simp [judgedPhase, finalPhase, repoFinal, evaluateRepoPhase, gradeRepoRun, absent,
            unexpected, one]
        rw [graded]
        norm_num [patchApplyScore]
  | some evidence =>
    have packEnded : (evaluatePackPhase evidence).outcome = none := by
      rcases pack_outcome_names evidence with none | ended | ended
      · exact none
      · simp [judgedPhase, finalPhase, composeRepoAndPack, ended] at unended
      · simp [judgedPhase, finalPhase, composeRepoAndPack, ended] at unended
    rcases counted_report evidence.junit ((pack_outcome_none_iff evidence).mp packEnded).1 with
      ⟨counts, report, positive⟩
    have summed : (evaluateRepoPhase repo strictHarness).testsTotal +
        (evaluatePackPhase evidence).testsTotal = 0 := uncounted
    rw [(pack_phase_counts evidence).2, report] at summed
    simp only [Option.map_some, Option.getD_some] at summed
    omega

end

def completedDecisions : List (Verdict × ReasonCode) :=
  [(.pass, .testsPassed), (.fail, .testsFailed), (.tampered, .junitExitMismatch),
    (.error, .noTestVerdict), (.fail, .noTestVerdict)]

theorem suite_decision_completed (passed : Bool) (score : Rat) (diagnostics : Text)
    (evidence : VerificationEvidence)
    (ended : evidence.outcome = none ∨ evidence.outcome = some .noTestVerdict)
    (graded : passed = false → evidence.outcome = none → evidence.testsTotal.getD 0 = 0 →
      ¬ score ≤ patchApplyScore) :
    let decision := suiteDecision (some (passed, score)) diagnostics (some evidence)
    (decision.verdict, decision.reasonCode) ∈ completedDecisions := by
  cases passed with
  | true => simp [suiteDecision, completedDecisions]
  | false =>
    by_cases counted : evidence.testsTotal.getD 0 = 0
    · rcases ended with none | missing
      · have score := graded rfl none counted
        simp [suiteDecision, countedFailure, counted, none, score, completedDecisions]
      · simp [suiteDecision, countedFailure, counted, missing, outcomeDecision,
          outcomeReasonPolicy, completedDecisions]
    · simp [suiteDecision, countedFailure, counted, completedDecisions]

theorem judged_evidence_decision (passed : Bool) (score : Rat) (diagnostics : Text)
    (evidence : VerificationEvidence)
    (ended : evidence.outcome = none ∨ evidence.outcome = some .noTestVerdict ∨
      evidence.outcome = some .packNoTests ∨ evidence.outcome = some .packNoVerdict)
    (graded : passed = false → evidence.outcome = none → evidence.testsTotal.getD 0 = 0 →
      ¬ score ≤ patchApplyScore) :
    let decision := (terminalDecision diagnostics evidence).getD
      (suiteDecision (some (passed, score)) diagnostics (some evidence))
    (decision.verdict, decision.reasonCode) ∈ completedDecisions := by
  by_cases tampered : evidence.tamper = some true
  · rcases ended with ended | ended | ended | ended <;>
      simp [terminalDecision, ended, tampered, tamperOutcomeReasonPolicy, completedDecisions]
  · have plain : ∀ unended : evidence.outcome = none ∨ evidence.outcome = some .noTestVerdict,
        terminalDecision diagnostics evidence = none := by
      intro unended
      exact (terminal_decision_none_iff diagnostics evidence).mpr ⟨tampered, unended⟩
    rcases ended with ended | ended | ended | ended
    · rw [plain (Or.inl ended)]
      exact suite_decision_completed passed score diagnostics evidence (Or.inl ended) graded
    · rw [plain (Or.inr ended)]
      exact suite_decision_completed passed score diagnostics evidence (Or.inr ended) graded
    · simp [terminalDecision, ended, tampered, tamperOutcomeReasonPolicy, outcomeDecision,
        outcomeReasonPolicy, completedDecisions]
    · simp [terminalDecision, ended, tampered, tamperOutcomeReasonPolicy, outcomeDecision,
        outcomeReasonPolicy, completedDecisions]

variable (harnessDeclared : Bool)

theorem completed_decision_lawful (decision : GuardDecision)
    (known : (decision.verdict, decision.reasonCode) ∈ completedDecisions) :
    Lawful harnessDeclared decision .completed := by
  simp only [completedDecisions, List.mem_cons, Prod.mk.injEq, List.not_mem_nil, or_false] at known
  unfold Lawful MeetsContract publishedContract
  rcases known with known | known | known | known | known <;> rw [known.1, known.2] <;>
    cases harnessDeclared <;> simp [versionedReasonContract, reasonContract]

/-- What the decision layer reads out of an outcome that ended a run. -/
def endedReason (packMissing : Bool) (outcome : Outcome) : Verdict × ReasonCode :=
  match tamperOutcomeReasonPolicy outcome with
  | some (reasonCode, _) => (.tampered, reasonCode)
  | none =>
    if outcome = .packInvalid ∧ packMissing = true then (.error, .verifierPackNotFound)
    else (outcomeReasonPolicy outcome).getD (.fail, .noTestVerdict)

theorem terminal_decision_of_outcome (diagnostics : Text) (evidence : VerificationEvidence)
    (outcome : Outcome) (ended : evidence.outcome = some outcome)
    (tamper : evidence.tamper = if isTamperOutcome outcome then some true else none)
    (final : outcome ≠ .noTestVerdict) :
    ∃ decision, terminalDecision diagnostics evidence = some decision ∧
      (decision.verdict, decision.reasonCode) =
        endedReason (evidence.verifierPack.present == some false) outcome := by
  unfold terminalDecision endedReason
  rw [ended, Option.bind_some]
  cases policy : tamperOutcomeReasonPolicy outcome with
  | some found => exact ⟨_, rfl, rfl⟩
  | none =>
    have plain : isTamperOutcome outcome = false := by
      cases outcome <;> first | rfl | cases policy
    have untampered : evidence.tamper ≠ some true := by
      rw [tamper, plain]
      simp
    simp only [if_neg untampered, Option.some.injEq, beq_iff_eq]
    split_ifs
    · exact ⟨_, rfl, rfl⟩
    · cases outcome <;> first | exact absurd rfl final | exact ⟨_, rfl, rfl⟩ | cases policy

theorem ended_reason_lawful (declared : Declared) (packMissing : Bool) (outcome : Outcome) :
    ∀ state ∈ endStates declared outcome,
      MeetsContract (publishedContract declared.harness) (endedReason packMissing outcome).1
        (endedReason packMissing outcome).2 state := by
  cases declared with
  | mk harness pack =>
    cases harness <;> cases pack <;> cases packMissing <;> cases outcome <;> decide

theorem refused_decision_lawful (declared : Declared) (state : ExecutionState)
    (passed : Bool) (score : Rat) (diagnostics : Text) (evidence : VerificationEvidence)
    (outcome : Outcome) (ended : evidence.outcome = some outcome)
    (tamper : evidence.tamper = if isTamperOutcome outcome then some true else none)
    (reached : state ∈ endStates declared outcome) :
    Lawful declared.harness ((terminalDecision diagnostics evidence).getD
      (suiteDecision (some (passed, score)) diagnostics (some evidence))) state := by
  have final : outcome ≠ .noTestVerdict := by
    intro missing
    rw [missing] at reached
    cases reached
  rcases terminal_decision_of_outcome diagnostics evidence outcome ended tamper final with
    ⟨decision, decided, reason⟩
  have lawful := ended_reason_lawful declared
    (evidence.verifierPack.present == some false) outcome state reached
  rw [← reason] at lawful
  rw [decided]
  exact lawful

theorem unapplied_decision_lawful (score : Rat) (diagnostics : Text)
    (evidence : VerificationEvidence) (low : score ≤ 8 / 100) (unended : evidence.outcome = none)
    (untampered : evidence.tamper = none) (uncounted : evidence.testsTotal = none) :
    Lawful harnessDeclared ((terminalDecision diagnostics evidence).getD
      (suiteDecision (some (false, score)) diagnostics (some evidence))) .notStarted := by
  have undecided : terminalDecision diagnostics evidence = none := by
    rw [terminal_decision_none_iff, untampered]
    exact ⟨by simp, Or.inl unended⟩
  have applied : score ≤ patchApplyScore := low
  have decided : suiteDecision (some (false, score)) diagnostics (some evidence) =
      ⟨.error, .patchApplyFailed, patchApplyReason⟩ := by
    simp [suiteDecision, countedFailure, uncounted, unended, applied]
  rw [undecided, Option.getD_none, decided, Lawful]
  cases harnessDeclared <;> decide

theorem run_end_lawful (declared : Declared) (state : RepoRunState) (verdict : RepoVerdict)
    (present : Bool) (paths : PathFacts) (executed : paths.mayExecute = true)
    (ended : EndsRun declared state verdict) :
    Lawful declared.harness
      (buildRepoJudgment paths (state.projection.finalize verdict state.trace present))
      state.trace.executionState := by
  rw [judgment_of_executed paths _ executed]
  cases ended with
  | unapplied unstarted ends =>
    rw [unstarted]
    have passed : (state.projection.finalize verdict state.trace present).passed = false :=
      ends.failed
    rw [passed]
    exact unapplied_decision_lawful declared.harness _ _ _ ends.score ends.outcome
      ends.untampered ends.uncounted
  | refused outcome ends reached =>
    exact refused_decision_lawful declared _ _ _ _ _ outcome ends.ended ends.tamper reached
  | completed distill context repo pack strictHarness finished packed alone judged =>
    rw [finished, judged]
    apply completed_decision_lawful
    apply judged_evidence_decision
    · exact final_outcome_names repo pack strictHarness
    · exact uncounted_failure_score repo pack strictHarness

/-- The failed canary is published for a completed execution only, and a configured pack
leaves the execution incomplete. -/
theorem canary_end_lawful_iff (settings : RepoSettings)
    (state : RepoRunState) (verdict : RepoVerdict) (present : Bool) (paths : PathFacts)
    (executed : paths.mayExecute = true) (ended : CanaryEnd settings state verdict) :
    Lawful harnessDeclared
        (buildRepoJudgment paths (state.projection.finalize verdict state.trace present))
        state.trace.executionState ↔ settings.packConfigured = false := by
  have outcome : (repoVerificationEvidenceFromArtifact
      (state.projection.finalize verdict state.trace present).artifact).outcome =
      some .assertionLivenessFailed := ended.ends.ended
  have decided : ∃ decision, terminalDecision
      (state.projection.finalize verdict state.trace present).diagnostics
      (repoVerificationEvidenceFromArtifact
        (state.projection.finalize verdict state.trace present).artifact) = some decision ∧
      decision.verdict = .tampered ∧ decision.reasonCode = .assertionLivenessFailed := by
    unfold terminalDecision
    rw [outcome]
    exact ⟨_, rfl, rfl, rfl⟩
  rcases decided with ⟨decision, decided, verdict, reason⟩
  rw [judgment_of_executed paths _ executed, decided, Option.getD_some, Lawful, verdict, reason,
    ended.reached.1]
  cases settings.packConfigured <;> cases harnessDeclared <;> decide

theorem static_decision_lawful (paths : PathFacts) (verdict : RepoVerdict)
    (refused : paths.mayExecute = false) :
    Lawful harnessDeclared (buildRepoJudgment paths verdict) .staticGate := by
  have decided := judgment_of_refused paths verdict refused
  simp only [List.mem_cons, Prod.mk.injEq, List.not_mem_nil, or_false] at decided
  unfold Lawful
  rcases decided with decided | decided | decided <;>
    rw [decided.1, decided.2] <;> cases harnessDeclared <;> decide

/-- The decision and the recorded execution state of a verification lie in the published
contract, unless the assertion-liveness canary fails in a run with a verifier pack. -/
theorem repo_decision_published_iff (services : RepoServices) (settings : RepoSettings)
    (request : RepoCandidateAdmissionRequest) (answers : RepoAnswers) (paths : PathFacts)
    (verdict : RepoVerdict)
    (verified : verifyRepo services settings request answers = .ok verdict) :
    MeetsContract (publishedContract (!request.harnessInputs.isEmpty))
        (buildRepoJudgment paths verdict).verdict (buildRepoJudgment paths verdict).reasonCode
        (finalExecution (runEvidence paths verdict)).executionState ↔
      ¬ (paths.mayExecute = true ∧ settings.packConfigured = true ∧
        CanaryBroken services settings request answers) := by
  cases executed : paths.mayExecute with
  | false =>
    have lawful := static_decision_lawful (!request.harnessInputs.isEmpty) paths verdict executed
    have state : (finalExecution (runEvidence paths verdict)).executionState = .staticGate := by
      simp [runEvidence, executed, finalExecution]
    rw [state]
    constructor
    · intro _ broken
      cases broken.1
    · intro _
      exact lawful
  | true =>
    rcases verify_repo_ends services settings request answers verdict verified with
      ⟨ended, concludes, ends⟩
    subst concludes
    have state : (finalExecution (runEvidence paths
        (concluded settings answers ended))).executionState = ended.1.trace.executionState := by
      simp only [runEvidence, executed, if_true, finalExecution]
      rfl
    rw [state]
    rcases ends with ⟨broken, canary⟩ | ⟨live, ended⟩
    · have lawful := canary_end_lawful_iff (!request.harnessInputs.isEmpty) settings ended.1
        ended.2 (settings.packConfigured && answers.packExists) paths executed canary
      rw [Lawful] at lawful
      rw [concluded, lawful]
      simp [broken]
    · have lawful := run_end_lawful (settings.declares request.harnessInputs) _ _
        (settings.packConfigured && answers.packExists) paths executed ended
      constructor
      · intro _ broken
        exact live broken.2.2
      · intro _
        exact lawful

def neuteredReport : Text :=
  ("<testsuite tests=\"1\"><testcase name=\"test_evoguard_assertion_liveness\">" ++
    "<failure/></testcase></testsuite>").toList

def neuteredTree (text : Text) : Option Element :=
  if text = neuteredReport then
    some (.mk "testsuite" [("tests", "1")]
      [.mk "testcase" [("name", canaryTestid)] [.mk "failure" [] []]])
  else none

def plainServices : RepoServices where
  mapping := asciiCase
  parseXml := neuteredTree
  distill := id
  quoted := id
  patcher := fun source _ _ => .ok source
  restorePackageJson := fun _ manifest => manifest
  describe := fun _ => []
  newFileMode := 0o644
  root := []

/-- A subprocess judge of a pytest suite that requires live assertions. -/
def livenessSettings (packDir : Text) : RepoSettings where
  judge := ⟨.subprocess, "none", none, 300, none⟩
  dockerImage := []
  packDir := packDir
  expectedPackSha256 := []
  setupCommand := none
  setupOutputGlobs := []
  trustSetupOnHost := false
  command := ["pytest"]
  structuredAdapter := true
  pytestCommand := true
  requireStructuredVerdict := false
  requireAssertLiveness := true
  requireSuiteContinuity := false

def deletionRequest : RepoCandidateAdmissionRequest where
  base := BaseTree.ofTree testedTree [] []
  deletedPaths := ["src/old.py"]

def deletionPaths : PathFacts := ⟨["src/old.py"], [], []⟩

def noCheckpoint : HarnessCheckpoint := ⟨fun _ => none, fun _ => .error [], fun _ => none⟩

/-- Every phase completes; the suite exits 1 with the report of a failed canary. -/
def neuteredAnswers : RepoAnswers where
  packExists := true
  trustedProblems := fun _ => none
  trustedHarness := noCheckpoint
  copy := testedTree
  intake := ⟨false, .ok (Sha256.hexdigest [])⟩
  candidateHarness := noCheckpoint
  image := .error []
  setup := ⟨true, .ok (), .fileNotFound, .ok []⟩
  harnessBeforeSuite := noCheckpoint
  runtimeBaseline := .ok ⟨[], 4, 0⟩
  suite := ⟨.finished true 1 [] [], true, some neuteredReport, none⟩
  harnessAfterSuite := noCheckpoint
  runtimeAfterSuite := .ok []
  packBefore := none
  pack := ⟨.finished true 0 [] [], true, none, none⟩
  packAfter := none
  runtimeAfterPack := .ok []

/-- What the record of a verification says, when it returns. -/
def recordedDecision (paths : PathFacts) (result : Except RepoRunError RepoVerdict) :
    Option (Verdict × ReasonCode × ExecutionState) :=
  match result with
  | .error _ => none
  | .ok verdict => some ((buildRepoJudgment paths verdict).verdict,
      (buildRepoJudgment paths verdict).reasonCode,
      (finalExecution (runEvidence paths verdict)).executionState)

theorem recorded_decision_some (paths : PathFacts) (result : Except RepoRunError RepoVerdict)
    (verdict : Verdict) (reasonCode : ReasonCode) (state : ExecutionState)
    (recorded : recordedDecision paths result = some (verdict, reasonCode, state)) :
    ∃ returned, result = .ok returned ∧ (buildRepoJudgment paths returned).verdict = verdict ∧
      (buildRepoJudgment paths returned).reasonCode = reasonCode ∧
      (finalExecution (runEvidence paths returned)).executionState = state := by
  cases result with
  | error problem => cases recorded
  | ok returned =>
    cases recorded
    exact ⟨returned, rfl, rfl, rfl, rfl⟩

theorem neutered_assertions_beside_pack :
    ∃ verdict, verifyRepo plainServices (livenessSettings "pack") deletionRequest
        neuteredAnswers = .ok verdict ∧
      (buildRepoJudgment deletionPaths verdict).verdict = .tampered ∧
      (buildRepoJudgment deletionPaths verdict).reasonCode = .assertionLivenessFailed ∧
      (finalExecution (runEvidence deletionPaths verdict)).executionState = .startedIncomplete ∧
      ¬ MeetsContract reasonContract .tampered .assertionLivenessFailed .startedIncomplete := by
  have recorded : recordedDecision deletionPaths (verifyRepo plainServices
      (livenessSettings "pack") deletionRequest neuteredAnswers) =
      some (.tampered, .assertionLivenessFailed, .startedIncomplete) := by decide +kernel
  rcases recorded_decision_some _ _ _ _ _ recorded with ⟨verdict, verified, decided, reason, state⟩
  exact ⟨verdict, verified, decided, reason, state, by decide⟩

/-- Without a pack the same run ends completed, as the contract has it. -/
theorem neutered_assertions_without_pack :
    ∃ verdict, verifyRepo plainServices (livenessSettings []) deletionRequest neuteredAnswers =
        .ok verdict ∧
      (buildRepoJudgment deletionPaths verdict).reasonCode = .assertionLivenessFailed ∧
      MeetsContract (publishedContract (!deletionRequest.harnessInputs.isEmpty))
        (buildRepoJudgment deletionPaths verdict).verdict
        (buildRepoJudgment deletionPaths verdict).reasonCode
        (finalExecution (runEvidence deletionPaths verdict)).executionState := by
  have recorded : recordedDecision deletionPaths (verifyRepo plainServices (livenessSettings [])
      deletionRequest neuteredAnswers) =
      some (.tampered, .assertionLivenessFailed, .completed) := by decide +kernel
  rcases recorded_decision_some _ _ _ _ _ recorded with ⟨verdict, verified, _, reason, _⟩
  have published := (repo_decision_published_iff plainServices (livenessSettings []) deletionRequest
    neuteredAnswers deletionPaths verdict verified).mpr (by
      intro broken
      exact absurd broken.2.1 (by decide))
  exact ⟨verdict, verified, reason, published⟩

end EvoomGuard.Application
