import EvoomGuard.Application.DecisionGates
import EvoomGuard.Application.RepoJudgment

/-!
The post-decision sequence of `application/repo_finalization.py`: coverage, baseline,
assurance, each applied to the decision the one before it left. The policy carries what
request preparation and the policy-consistency check of `guard` establish before the
sequence is reached.
-/

namespace EvoomGuard.Application

open Lib Domain Verifiers

inductive PolicyRequirement where
  | requireDemonstratedFix
  | minDiffCoverage
  | setupCommand
  deriving DecidableEq, Repr

/-- The gates that the selected judge path cannot enforce. -/
def unsupportedPolicyRequirements (requireDemonstratedFix : Bool) (minDiffCoverage : Option Rat)
    (blackbox : Bool) (isolation : Isolation) (setupCommandPresent : Bool) :
    List PolicyRequirement :=
  (if requireDemonstratedFix && (blackbox || isolation != .subprocess) then
    [.requireDemonstratedFix] else []) ++
  (if minDiffCoverage.isSome && (blackbox || isolation != .subprocess) then
    [.minDiffCoverage] else []) ++
  (if blackbox && setupCommandPresent then [.setupCommand] else [])

structure RepoPolicy where
  isolation : Isolation
  packConfigured : Bool
  setupCommandPresent : Bool
  collectDiffCoverage : Bool
  minDiffCoverage : Option Rat
  collectBaselineEvidence : Bool
  requireDemonstratedFix : Bool
  requireReportIntegrity : Option Text
  requireCandidateIsolation : Option Text
  measured : minDiffCoverage.isSome = true → collectDiffCoverage = true
  supported : unsupportedPolicyRequirements requireDemonstratedFix minDiffCoverage false isolation
    setupCommandPresent = []

theorem no_floor_measured (collected : Bool) :
    (none : Option Rat).isSome = true → collected = true := by
  intro floor
  cases floor

theorem RepoPolicy.floor_in_subprocess (policy : RepoPolicy)
    (floor : policy.minDiffCoverage.isSome = true) : policy.isolation = .subprocess := by
  have supported := policy.supported
  simp only [unsupportedPolicyRequirements, List.append_eq_nil_iff] at supported
  by_contra other
  simp [floor, other] at supported

theorem RepoPolicy.fix_in_subprocess (policy : RepoPolicy)
    (required : policy.requireDemonstratedFix = true) : policy.isolation = .subprocess := by
  have supported := policy.supported
  simp only [unsupportedPolicyRequirements, List.append_eq_nil_iff] at supported
  by_contra other
  simp [required, other] at supported

/-- What the baseline runner reports of the pristine suite. -/
structure BaselineRun where
  verdict : BaselineVerdict
  testsPassed : Option Nat
  testsTotal : Option Nat

/-- Did the candidate's repository suite complete, and did it pass? A retained suite phase
answers for itself; otherwise the core verdict does. -/
def candidateSuite (core : GuardDecision) (evidence : Option VerificationEvidence) : Bool × Bool :=
  let suite := (evidence.map VerificationEvidence.repoSuite).getD {}
  match suite.started, suite.completed, suite.passed with
  | some true, some true, some passed => (true, passed)
  | _, _, _ => (core.verdict == .pass || core.verdict == .fail, core.verdict == .pass)

def unsupportedCoverageNote (isolation : Isolation) : Text :=
  ("changed-line coverage runs under the subprocess judge " ++
    "only; isolation '").toList ++ isolation.boundary.name.toList ++
    "' did not measure it"

def unsupportedBaselineNote (isolation : Isolation) : Text :=
  ("baseline differential evidence runs under the subprocess " ++
    "judge only; isolation '").toList ++ isolation.boundary.name.toList ++
    "' did not measure it"

def baselineNote : Text :=
  ("counterfactual suite-transition evidence, not a causal proof: the " ++
    "same judge and environment ran the REPO suite on the pristine base " ++
    "and on the candidate; 'demonstrated' means the base failed and the " ++
    "candidate passed. A verifier pack (if any) is exercised only on " ++
    "the candidate run — see scope.").toList

def repairEffect (run : BaselineRun) (candidateSuitePassed : Bool) : RepairEffect :=
  if run.verdict = .noCleanVerdict then .unmeasured
  else if run.verdict = .fail ∧ candidateSuitePassed = true then .demonstrated
  else .notDemonstrated

def measuredBaseline (run : BaselineRun) (candidateSuitePassed : Bool) : BaselineEvidence where
  verdict := some run.verdict
  testsPassed := run.testsPassed
  testsTotal := run.testsTotal
  repairEffect := repairEffect run candidateSuitePassed
  scope := .repoSuiteOnly
  note := baselineNote

structure RepoFinalizationOutcome where
  decision : GuardDecision
  executionState : ExecutionState
  executionPhase : ExecutionPhase
  testCommandStarted : Bool
  effectiveCandidateIsolation : Boundary
  diffCoverage : Option CoverageEvidence
  baseline : Option BaselineEvidence
  assurance : AssuranceProfile
  evidence : Option VerificationEvidence

section Finalization

variable (quoted : Text → Text) (shown : Rat → Text)

def coverageStep (policy : RepoPolicy) (core : GuardDecision) (coverage : CoverageEvidence) :
    GuardDecision × Option CoverageEvidence :=
  if policy.collectDiffCoverage = false then (core, none)
  else if policy.isolation ≠ .subprocess then
    (core, some (.unmeasured (some (unsupportedCoverageNote policy.isolation))))
  else if core.verdict = .pass ∨ core.verdict = .fail then
    (applyDiffCoverageGate shown core coverage policy.minDiffCoverage, some coverage)
  else (core, none)

def baselineStep (policy : RepoPolicy) (decision : GuardDecision) (suite : Bool × Bool)
    (run : BaselineRun) : GuardDecision × Option BaselineEvidence :=
  if (policy.collectBaselineEvidence || policy.requireDemonstratedFix) && suite.1 &&
      policy.isolation == .subprocess then
    (applyDemonstratedFixGate decision (measuredBaseline run suite.2)
      policy.requireDemonstratedFix, some (measuredBaseline run suite.2))
  else if policy.collectBaselineEvidence && policy.isolation != .subprocess then
    (decision, some ⟨none, none, none, .unmeasured, .unsupportedMode,
      unsupportedBaselineNote policy.isolation⟩)
  else (decision, none)

/-- Pack facts for the profile. `packDirectory` says whether the configured path is a
directory, asked only when nothing else settles the pack's presence. -/
def packRunEvidence (evidence : VerificationEvidence) (packDirectory : Bool) :
    PackRunEvidence where
  present :=
    if evidence.verifierPack.present.isSome then evidence.verifierPack.present
    else if evidence.verifierPack.sha256.any fun digest => !digest.isEmpty then some true
    else if evidence.outcome = some .packInvalid then some packDirectory
    else none
  snapshotSha256 := evidence.verifierPack.sha256
  started := evidence.execution.verifierPackStarted
  completed := evidence.execution.verifierPackCompleted
  outcome := evidence.outcome

def repoAssurance (policy : RepoPolicy) (packDirectory : Bool) :
    Option VerificationEvidence → AssuranceProfile
  | none => staticAssuranceProfile policy.packConfigured
  | some evidence =>
    repoAssuranceProfile evidence.execution.deliveredIsolation
      { executionState := evidence.execution.executionState
        executionPhase := evidence.execution.executionPhase
        testCommandStarted := evidence.execution.testCommandStarted
        setupIsolation := evidence.setupIsolation
        runtimeContinuity := evidence.runtime.continuity }
      (if policy.packConfigured then some (packRunEvidence evidence packDirectory) else none)

def finalExecution (evidence : Option VerificationEvidence) : ExecutionPhaseResult :=
  match evidence with
  | some evidence => evidence.execution
  | none => { executionState := .staticGate, executionPhase := .preGate }

def finalizeRepoVerification (policy : RepoPolicy) (paths : PathFacts) (verdict : RepoVerdict)
    (coverage : CoverageEvidence) (run : BaselineRun) (packDirectory : Bool) :
    RepoFinalizationOutcome :=
  let core := buildRepoJudgment paths verdict
  let evidence := runEvidence paths verdict
  let covered := coverageStep shown policy core coverage
  let based := baselineStep policy covered.1 (candidateSuite core evidence) run
  let execution := finalExecution evidence
  let assurance := repoAssurance policy packDirectory evidence
  { decision := applyAssuranceGate quoted based.1 assurance execution.executionState
      paths.mayExecute policy.requireReportIntegrity policy.requireCandidateIsolation false
    executionState := execution.executionState
    executionPhase := execution.executionPhase
    testCommandStarted := execution.testCommandStarted
    effectiveCandidateIsolation :=
      effectiveIsolation (evidence.bind VerificationEvidence.setupIsolation)
        execution.deliveredIsolation
    diffCoverage := covered.2
    baseline := based.2
    assurance := assurance
    evidence := evidence }

end Finalization

theorem coverage_step_pass_iff (shown : Rat → Text) (policy : RepoPolicy) (core : GuardDecision)
    (coverage : CoverageEvidence) :
    (coverageStep shown policy core coverage).1.verdict = .pass ↔
      core.verdict = .pass ∧
        ∀ floor, policy.minDiffCoverage = some floor → MeetsCoverageFloor coverage floor := by
  unfold coverageStep
  cases floored : policy.minDiffCoverage with
  | none =>
    split_ifs <;> simp [applyDiffCoverageGate]
  | some floor =>
    have present : policy.minDiffCoverage.isSome = true := by simp [floored]
    have collected := policy.measured present
    have subprocess := policy.floor_in_subprocess present
    have gate := diff_coverage_pass_iff shown core coverage (some floor)
    by_cases completed : core.verdict = .pass ∨ core.verdict = .fail
    · simpa [collected, subprocess, completed] using gate
    · rw [not_or] at completed
      simp [collected, subprocess, completed.1, completed.2]

theorem repair_effect_demonstrated_iff (run : BaselineRun) :
    repairEffect run true = .demonstrated ↔ run.verdict = .fail := by
  unfold repairEffect
  cases run.verdict <;> simp

section

variable (policy : RepoPolicy) (decision : GuardDecision) (suite : Bool × Bool)
  (run : BaselineRun)

theorem baseline_step_keeps (other : decision.verdict ≠ .pass) :
    (baselineStep policy decision suite run).1 = decision := by
  unfold baselineStep
  split_ifs
  · exact demonstrated_fix_keeps decision _ _ other
  · rfl
  · rfl

theorem baseline_step_pass_iff (judged : decision.verdict = .pass → suite = (true, true)) :
    (baselineStep policy decision suite run).1.verdict = .pass ↔
      decision.verdict = .pass ∧ (policy.requireDemonstratedFix = true → run.verdict = .fail) := by
  by_cases passing : decision.verdict = .pass
  · rw [judged passing]
    have gate := demonstrated_fix_pass_iff decision (measuredBaseline run true)
      policy.requireDemonstratedFix
    have demonstrated := repair_effect_demonstrated_iff run
    cases required : policy.requireDemonstratedFix with
    | true =>
      have subprocess := policy.fix_in_subprocess required
      simp only [required, passing, measuredBaseline, demonstrated] at gate
      simpa [baselineStep, required, subprocess, passing, measuredBaseline] using gate
    | false =>
      unfold baselineStep
      split_ifs <;> simp [applyDemonstratedFixGate, required, passing]
  · rw [baseline_step_keeps policy decision suite run passing]
    simp [passing]

end

section

variable (quoted : Text → Text) (shown : Rat → Text) (policy : RepoPolicy) (paths : PathFacts)
  (verdict : RepoVerdict) (coverage : CoverageEvidence) (run : BaselineRun) (packDirectory : Bool)

theorem finalize_keeps (other : (buildRepoJudgment paths verdict).verdict ≠ .pass) :
    (finalizeRepoVerification quoted shown policy paths verdict coverage run
      packDirectory).decision = buildRepoJudgment paths verdict := by
  have covered : (coverageStep shown policy (buildRepoJudgment paths verdict) coverage).1 =
      buildRepoJudgment paths verdict := by
    unfold coverageStep
    split_ifs
    · rfl
    · rfl
    · exact diff_coverage_keeps shown _ coverage _ other
    · rfl
  have based := baseline_step_keeps policy (buildRepoJudgment paths verdict)
    (candidateSuite (buildRepoJudgment paths verdict) (runEvidence paths verdict)) run other
  simp only [finalizeRepoVerification, covered, based]
  exact assurance_gate_keeps quoted _ _ _ _ _ _ _ other

theorem finalize_pass_iff (executed : paths.mayExecute = true)
    (completed : verdict.artifact.execution.executionState = .completed)
    (judged : (buildRepoJudgment paths verdict).verdict = .pass →
      candidateSuite (buildRepoJudgment paths verdict) (runEvidence paths verdict) =
        (true, true)) :
    (finalizeRepoVerification quoted shown policy paths verdict coverage run
        packDirectory).decision.verdict = .pass ↔
      (buildRepoJudgment paths verdict).verdict = .pass ∧
        (∀ floor, policy.minDiffCoverage = some floor → MeetsCoverageFloor coverage floor) ∧
        (policy.requireDemonstratedFix = true → run.verdict = .fail) ∧
        MeetsFloors (repoAssurance policy packDirectory
            (some (repoVerificationEvidenceFromArtifact verdict.artifact)))
          policy.requireReportIntegrity policy.requireCandidateIsolation := by
  have covered := coverage_step_pass_iff shown policy (buildRepoJudgment paths verdict) coverage
  have based := baseline_step_pass_iff policy
    (coverageStep shown policy (buildRepoJudgment paths verdict) coverage).1
    (candidateSuite (buildRepoJudgment paths verdict) (runEvidence paths verdict)) run
    (fun passing => judged (covered.mp passing).1)
  have evidence : runEvidence paths verdict =
      some (repoVerificationEvidenceFromArtifact verdict.artifact) := by
    rw [runEvidence, if_pos executed]
  have state : (finalExecution (runEvidence paths verdict)).executionState = .completed := by
    rw [evidence]
    exact completed
  simp only [finalizeRepoVerification, state]
  rw [assurance_gate_pass_iff quoted _ _ _ _ _ _ (by simp [executed]), based, covered, evidence]
  simp only [and_assoc]

end

section Completed

variable (distill : Text → Text) (context : CompletedContext) (execution : ExecutionPhaseResult)
  (packPresent : Bool) (repo : CompletedRunEvidence) (pack : Option CompletedRunEvidence)
  (strictHarness : Bool)

def judgedRun : RepoVerdict :=
  completedRun distill context execution packPresent (evaluateRepoPhase repo strictHarness)
    (pack.map evaluatePackPhase)

def judgedPhase : CompositePhaseResult :=
  finalPhase (evaluateRepoPhase repo strictHarness) (pack.map evaluatePackPhase)

theorem judged_run_untampered :
    (judgedRun distill context execution packPresent repo pack strictHarness).artifact.tamper ≠
        some true ↔
      (judgedPhase repo pack strictHarness).tampered = false := by
  have flag : (judgedRun distill context execution packPresent repo pack
      strictHarness).artifact.tamper = some (judgedPhase repo pack strictHarness).tampered := rfl
  rw [flag]
  simp

theorem judged_run_pass_iff (paths : PathFacts) :
    (buildRepoJudgment paths
        (judgedRun distill context execution packPresent repo pack strictHarness)).verdict =
        .pass ↔
      paths.mayExecute = true ∧ (judgedPhase repo pack strictHarness).passed = true := by
  rw [judgment_pass_iff]
  constructor
  · intro facts
    exact ⟨facts.1, facts.2.2.2⟩
  · intro facts
    have clean := final_phase_passed_clean repo pack strictHarness facts.2
    have untampered := (judged_run_untampered distill context execution packPresent repo pack
      strictHarness).mpr clean.1
    exact ⟨facts.1, untampered, Or.inl clean.2, facts.2⟩

theorem judged_run_candidate_suite (paths : PathFacts)
    (passing : (buildRepoJudgment paths
      (judgedRun distill context execution packPresent repo pack strictHarness)).verdict =
        .pass) :
    candidateSuite
        (buildRepoJudgment paths
          (judgedRun distill context execution packPresent repo pack strictHarness))
        (runEvidence paths
          (judgedRun distill context execution packPresent repo pack strictHarness)) =
      (true, true) := by
  have facts := (judged_run_pass_iff distill context execution packPresent repo pack
    strictHarness paths).mp passing
  have phases := (final_phase_passed repo pack strictHarness).mp facts.2
  have passed : (evaluateRepoPhase repo strictHarness).passed = true := by
    rw [repo_phase_passed, Bool.or_eq_true]
    exact phases.1
  rw [candidateSuite, passing, runEvidence, if_pos facts.1]
  cases pack with
  | none => rfl
  | some evidence =>
    have sourced := repo_phase_passed_source repo strictHarness passed
    have kept : (repoSuitePhaseArtifact (evaluateRepoPhase repo strictHarness)).passed =
        some true := by
      rw [repoSuitePhaseArtifact, if_pos sourced, passed]
    change (match some true, some true,
      (repoSuitePhaseArtifact (evaluateRepoPhase repo strictHarness)).passed with
      | some true, some true, some passed => (true, passed)
      | _, _, _ => (_, _)) = _
    rw [kept]

def deliveredAssurance (policy : RepoPolicy) (packDirectory : Bool) : AssuranceProfile :=
  repoAssurance policy packDirectory (some (repoVerificationEvidenceFromArtifact
    (judgedRun distill context execution packPresent repo pack strictHarness).artifact))

/-- The final decision of a completed run is a pass exactly when every link of the chain
holds: the paths, the phases, the pack, the coverage floor, the baseline and both assurance
floors. -/
theorem finalized_repo_pass_iff (quoted : Text → Text) (shown : Rat → Text) (policy : RepoPolicy)
    (paths : PathFacts) (coverage : CoverageEvidence) (run : BaselineRun) (packDirectory : Bool)
    (completed : execution.executionState = .completed)
    (configured : policy.packConfigured = pack.isSome) :
    (finalizeRepoVerification quoted shown policy paths
        (judgedRun distill context execution packPresent repo pack strictHarness) coverage run
        packDirectory).decision.verdict = .pass ↔
      (paths.touched ≠ [] ∧ paths.unsafePaths = [] ∧ paths.violations = []) ∧
        ((judgedPhase repo pack strictHarness).tampered = false ∧
          (judgedPhase repo pack strictHarness).outcome = none) ∧
        (cleanPass repo = true ∨ exitOnlyPass repo strictHarness = true) ∧
        (policy.packConfigured = true → ∃ evidence, pack = some evidence ∧
          cleanPass evidence = true) ∧
        (∀ floor, policy.minDiffCoverage = some floor → MeetsCoverageFloor coverage floor) ∧
        (policy.requireDemonstratedFix = true → run.verdict = .fail) ∧
        MeetsFloors (deliveredAssurance distill context execution packPresent repo pack
          strictHarness policy packDirectory) policy.requireReportIntegrity
          policy.requireCandidateIsolation := by
  have admitted : paths.mayExecute = true ↔
      paths.touched ≠ [] ∧ paths.unsafePaths = [] ∧ paths.violations = [] := by
    simp [PathFacts.mayExecute, and_assoc]
  have packs : (∀ evidence, pack = some evidence → cleanPass evidence = true) ↔
      (policy.packConfigured = true → ∃ evidence, pack = some evidence ∧
        cleanPass evidence = true) := by
    rw [configured]
    cases pack <;> simp
  have phases := final_phase_passed repo pack strictHarness
  rw [packs] at phases
  by_cases executed : paths.mayExecute = true
  · rw [finalize_pass_iff quoted shown policy paths _ coverage run packDirectory executed completed
      (judged_run_candidate_suite distill context execution packPresent repo pack strictHarness
        paths), judged_run_pass_iff, judgedPhase, phases, admitted]
    constructor
    · intro facts
      rcases facts with ⟨⟨touched, repoPassed, packPassed⟩, gates⟩
      have clean := final_phase_passed_clean repo pack strictHarness
        (phases.mpr ⟨repoPassed, packPassed⟩)
      exact ⟨touched, clean, repoPassed, packPassed, gates⟩
    · intro facts
      rcases facts with ⟨touched, _, repoPassed, packPassed, gates⟩
      exact ⟨⟨touched, repoPassed, packPassed⟩, gates⟩
  · have refused := refused_not_pass paths
      (judgedRun distill context execution packPresent repo pack strictHarness)
      (by simpa using executed)
    constructor
    · intro passing
      rw [finalize_keeps quoted shown policy paths _ coverage run packDirectory refused.1]
        at passing
      exact absurd passing refused.1
    · intro facts
      exact absurd (admitted.mpr facts.1) executed

end Completed

def gatedPolicy : RepoPolicy where
  isolation := .subprocess
  packConfigured := true
  setupCommandPresent := false
  collectDiffCoverage := true
  minDiffCoverage := some 80
  collectBaselineEvidence := false
  requireDemonstratedFix := true
  requireReportIntegrity := some "same_process_candidate_writable"
  requireCandidateIsolation := some "subprocess"
  measured := by
    intro _
    rfl
  supported := rfl

def greenRun (tests : Nat) : CompletedRunEvidence where
  returncode := 0
  junit := some ⟨tests, tests, 0, 0, rfl⟩
  reportExpected := true

def subprocessObservation : IsolationObservation where
  requested := .subprocess
  delivered := .subprocess
  imageDigest := none
  network := none
  runtime := none
  note := none

def plainContext : CompletedContext where
  filesChanged := ["src/app.py"]
  filesDeleted := []
  packIdentity := none
  expectedPackSha256 := []
  setupIsolation := none
  runtime := {}
  resolvedImage := none
  suiteIsolationEvidence := subprocessObservation
  containerMode := false

def completedTrace : ExecutionPhaseResult where
  executionState := .completed
  executionPhase := .verifierPack
  testCommandStarted := true
  testCommandCompleted := true
  verifierPackStarted := true
  verifierPackCompleted := true
  deliveredIsolation := .subprocess

def sourcePaths : PathFacts := ⟨["src/app.py"], [], []⟩

theorem gated_policy_passes :
    (finalizeRepoVerification id (fun _ => []) gatedPolicy sourcePaths
        (judgedRun id plainContext completedTrace true (greenRun 2) (some (greenRun 1)) true)
        (.measured 9 10 "90.0") ⟨.fail, some 1, some 2⟩ true).decision.verdict = .pass := by
  rw [finalized_repo_pass_iff id plainContext completedTrace true (greenRun 2)
    (some (greenRun 1)) true id (fun _ => []) gatedPolicy sourcePaths _ _ true rfl rfl]
  have covered : MeetsCoverageFloor (.measured 9 10 "90.0") 80 :=
    (coverage_below_floor_false_iff 9 10 80).mp rfl
  have integrity : meetsFloor reportIntegrityRankPolicy
      (deliveredIntegrity (deliveredAssurance id plainContext completedTrace true (greenRun 2)
        (some (greenRun 1)) true gatedPolicy true)) gatedPolicy.requireReportIntegrity := by
    intro floor wanted
    cases wanted
    exact ⟨0, 0, if_pos rfl, if_pos rfl, le_refl 0⟩
  have boundary : meetsFloor isolationRankPolicy
      (deliveredBoundary (deliveredAssurance id plainContext completedTrace true (greenRun 2)
        (some (greenRun 1)) true gatedPolicy true)) gatedPolicy.requireCandidateIsolation := by
    intro floor wanted
    cases wanted
    exact ⟨0, 0, if_pos rfl, if_pos rfl, le_refl 0⟩
  constructor
  · exact ⟨List.cons_ne_nil _ _, rfl, rfl⟩
  · constructor
    · exact ⟨rfl, rfl⟩
    · constructor
      · exact Or.inl rfl
      · constructor
        · intro _
          exact ⟨greenRun 1, rfl, rfl⟩
        · constructor
          · intro floor floored
            cases floored
            exact covered
          · constructor
            · intro _
              rfl
            · exact ⟨integrity, boundary⟩

end EvoomGuard.Application
