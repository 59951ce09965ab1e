import EvoomGuard.Application.RepoFinalization
import EvoomGuard.RecordVerifier

/-!
The record that `guard` emits for a repo-native run, and the counts beside a decision that the
tests failed.
-/

namespace EvoomGuard.Application

open Lib Domain Verifiers RecordVerifier

variable (junit : Option JUnitCounts)

theorem counts_nothing_zero (nothing : countsNothing junit = true) :
    (junit.map JUnitCounts.passed).getD 0 = 0 ∧ (junit.map JUnitCounts.total).getD 0 = 0 := by
  cases junit with
  | none => exact ⟨rfl, rfl⟩
  | some counts =>
    have empty : counts.total = 0 := by simpa [countsNothing] using nothing
    have balance := counts.balanced
    constructor
    · simp only [Option.map_some, Option.getD_some]
      omega
    · exact empty

theorem counted_report (counted : countsNothing junit = false) :
    ∃ counts, junit = some counts ∧ 0 < counts.total := by
  cases junit with
  | none => simp [countsNothing] at counted
  | some counts =>
    have positive : counts.total ≠ 0 := by simpa [countsNothing] using counted
    exact ⟨counts, rfl, Nat.pos_of_ne_zero positive⟩

theorem passed_le_total :
    (junit.map JUnitCounts.passed).getD 0 ≤ (junit.map JUnitCounts.total).getD 0 := by
  cases junit with
  | none => exact le_refl 0
  | some counts =>
    have balance := counts.balanced
    simp only [Option.map_some, Option.getD_some]
    omega

variable (evidence : CompletedRunEvidence)

theorem counted_failing (counted : countsNothing evidence.junit = false)
    (untampered : detectTamper evidence.returncode evidence.junit = false)
    (failed : cleanPass evidence = false) :
    (evidence.junit.map JUnitCounts.passed).getD 0 <
      (evidence.junit.map JUnitCounts.total).getD 0 := by
  rcases counted_report evidence.junit counted with ⟨counts, report, positive⟩
  have failing := failing_counts evidence counts report positive untampered failed
  simpa [report] using failing

/-- The run that fails without a failing count: its pack passed every test, and its
repository phase failed without counting one. -/
def failsUncounted (repo : CompletedRunEvidence) (pack : Option CompletedRunEvidence)
    (strictHarness : Bool) : Bool :=
  match pack with
  | none => false
  | some evidence => cleanPass evidence && countsNothing repo.junit &&
      !exitOnlyPass repo strictHarness

theorem nothing_not_clean (nothing : countsNothing evidence.junit = true) :
    cleanPass evidence = false := by
  by_contra clean
  have counted := (clean_pass_counted evidence (by simpa using clean)).1
  rw [nothing] at counted
  cases counted

theorem nothing_untampered (nothing : countsNothing evidence.junit = true) :
    detectTamper evidence.returncode evidence.junit = false := by
  cases report : evidence.junit with
  | none => rfl
  | some counts =>
    have empty : counts.total = 0 := by simpa [countsNothing, report] using nothing
    have balance := counts.balanced
    have noFailure : counts.failures = 0 := by omega
    have noError : counts.errors = 0 := by omega
    simp [detectTamper, empty, noFailure, noError]

theorem clean_pass_counts (clean : cleanPass evidence = true) :
    (evidence.junit.map JUnitCounts.passed).getD 0 =
        (evidence.junit.map JUnitCounts.total).getD 0 ∧
      0 < (evidence.junit.map JUnitCounts.total).getD 0 := by
  rcases counted_report evidence.junit (clean_pass_counted evidence clean).1 with
    ⟨counts, report, positive⟩
  have balance := counts.balanced
  simp only [cleanPass, report, Bool.and_eq_true, beq_iff_eq] at clean
  simp only [report, Option.map_some, Option.getD_some]
  constructor
  · omega
  · exact positive

section

variable (repo : CompletedRunEvidence) (pack : Option CompletedRunEvidence) (strictHarness : Bool)

theorem failed_phase_counts (untampered : (judgedPhase repo pack strictHarness).tampered = false)
    (ended : (judgedPhase repo pack strictHarness).outcome = none ∨
      (judgedPhase repo pack strictHarness).outcome = some .noTestVerdict)
    (failed : (judgedPhase repo pack strictHarness).passed = false)
    (counted : 0 < (judgedPhase repo pack strictHarness).testsTotal)
    (expected : failsUncounted repo pack strictHarness = false) :
    (judgedPhase repo pack strictHarness).testsPassed <
      (judgedPhase repo pack strictHarness).testsTotal := by
  have repoCounts := repo_phase_counts repo strictHarness
  cases pack with
  | none =>
    simp only [judgedPhase, finalPhase, repoFinal, Option.map_none, repoCounts] at *
    rw [repo_phase_passed, Bool.or_eq_false_iff] at failed
    apply counted_failing repo _ untampered failed.1
    by_contra nothing
    have zero := (counts_nothing_zero repo.junit (by simpa using nothing)).2
    omega
  | some evidence =>
    have packCounts := pack_phase_counts evidence
    have repoBound := passed_le_total repo.junit
    have packBound := passed_le_total evidence.junit
    simp only [judgedPhase, finalPhase, composeRepoAndPack, Option.map_some, repoCounts,
      packCounts, repo_phase_passed, pack_phase_passed, Bool.or_eq_false_iff,
      Bool.and_eq_false_iff] at *
    have packEnded : (evaluatePackPhase evidence).outcome = none := by
      rcases pack_outcome_names evidence with none | noTests | noVerdict
      · exact none
      · simp [noTests] at ended
      · simp [noVerdict] at ended
    have packCounted := ((pack_outcome_none_iff evidence).mp packEnded).1
    cases packClean : cleanPass evidence with
    | false =>
      have failing := counted_failing evidence packCounted untampered.2 packClean
      omega
    | true =>
      -- The pack passed, so the repository phase did not; it counted a test.
      have repoFailed : cleanPass repo = false ∧ exitOnlyPass repo strictHarness = false := by
        simpa [packClean] using failed
      have repoCounted : countsNothing repo.junit = false := by
        simpa [failsUncounted, packClean, repoFailed.2] using expected
      have failing := counted_failing repo repoCounted untampered.1 repoFailed.1
      omega

theorem uncounted_phase (uncounted : failsUncounted repo pack strictHarness = true) :
    (judgedPhase repo pack strictHarness).tampered = false ∧
      ((judgedPhase repo pack strictHarness).outcome = none ∨
        (judgedPhase repo pack strictHarness).outcome = some .noTestVerdict) ∧
      (judgedPhase repo pack strictHarness).passed = false ∧
      0 < (judgedPhase repo pack strictHarness).testsTotal ∧
      (judgedPhase repo pack strictHarness).testsPassed =
        (judgedPhase repo pack strictHarness).testsTotal := by
  cases pack with
  | none => cases uncounted
  | some evidence =>
    simp only [failsUncounted, Bool.and_eq_true, Bool.not_eq_true'] at uncounted
    have clean := uncounted.1.1
    have nothing := uncounted.1.2
    have counted := clean_pass_counted evidence clean
    have packEnded := (pack_outcome_none_iff evidence).mpr ⟨counted.1, Or.inl counted.2⟩
    have repoCounts := repo_phase_counts repo strictHarness
    have packCounts := pack_phase_counts evidence
    have zero := counts_nothing_zero repo.junit nothing
    have full := clean_pass_counts evidence clean
    simp only [judgedPhase, finalPhase, composeRepoAndPack, Option.map_some, repoCounts,
      packCounts, repo_phase_passed, packEnded, zero, zero_add]
    constructor
    · rw [Bool.or_eq_false_iff]
      exact ⟨nothing_untampered repo nothing, clean_pass_untampered evidence clean⟩
    · constructor
      · exact repo_outcome_names repo strictHarness
      · constructor
        · simp [nothing_not_clean repo nothing, uncounted.2]
        · exact full.symm

end

section TestsFailed

variable (distill : Text → Text) (context : CompletedContext) (execution : ExecutionPhaseResult)
  (packPresent : Bool) (repo : CompletedRunEvidence) (pack : Option CompletedRunEvidence)
  (strictHarness : Bool)

/-- A decision that the tests failed reports fewer passed than total tests, exactly for the
runs that are not an uncounted repository failure beside a clean pack. -/
theorem tests_failed_counts_iff (paths : PathFacts) :
    (((buildRepoJudgment paths
            (judgedRun distill context execution packPresent repo pack strictHarness)).verdict =
          .fail ∧
        (buildRepoJudgment paths
            (judgedRun distill context execution packPresent repo pack
              strictHarness)).reasonCode = .testsFailed) →
      failedTestEvidence
          (judgedRun distill context execution packPresent repo pack
            strictHarness).artifact.testsPassed
          (judgedRun distill context execution packPresent repo pack
            strictHarness).artifact.testsTotal = true) ↔
      ¬ (paths.mayExecute = true ∧ failsUncounted repo pack strictHarness = true) := by
  have decided := judgment_tests_failed_iff paths
    (judgedRun distill context execution packPresent repo pack strictHarness)
  have flag := judged_run_untampered distill context execution packPresent repo pack strictHarness
  constructor
  · intro counted uncounted
    rcases uncounted_phase repo pack strictHarness uncounted.2 with
      ⟨untampered, ended, failed, positive, full⟩
    have reason := decided.mpr ⟨uncounted.1, flag.mpr untampered, ended, failed, positive⟩
    have below : (decide (0 < (judgedPhase repo pack strictHarness).testsTotal) &&
        decide ((judgedPhase repo pack strictHarness).testsPassed <
          (judgedPhase repo pack strictHarness).testsTotal)) = true := counted reason
    rw [full] at below
    simp at below
  · intro counted failed
    rcases decided.mp failed with ⟨executed, untampered, ended, verdict, positive⟩
    have expected : failsUncounted repo pack strictHarness = false := by
      by_contra uncounted
      exact counted ⟨executed, by simpa using uncounted⟩
    have below := failed_phase_counts repo pack strictHarness (flag.mp untampered) ended verdict
      positive expected
    have evidence : (decide (0 < (judgedPhase repo pack strictHarness).testsTotal) &&
        decide ((judgedPhase repo pack strictHarness).testsPassed <
          (judgedPhase repo pack strictHarness).testsTotal)) = true := by
      simp only [Bool.and_eq_true, decide_eq_true_eq]
      exact ⟨positive, below⟩
    exact evidence

end TestsFailed

/-- A repository command that exits 1 without a report, beside a pack that passes five of five
tests. -/
def exitOneRun : CompletedRunEvidence where
  returncode := 1
  junit := none
  reportExpected := false

theorem tests_failed_without_failing_count :
    let run := judgedRun id plainContext completedTrace true exitOneRun (some (greenRun 5)) false
    (buildRepoJudgment sourcePaths run).verdict = .fail ∧
      (buildRepoJudgment sourcePaths run).reasonCode = .testsFailed ∧
      run.artifact.testsPassed = some 5 ∧ run.artifact.testsTotal = some 5 ∧
      failedTestEvidence run.artifact.testsPassed run.artifact.testsTotal = false := by
  exact ⟨rfl, rfl, rfl, rfl, rfl⟩

def guardVersion : Nat × Nat × Nat := (4, 8, 1)

def repoRecord (policy : RepoPolicy) (harnessInputs : List Text)
    (outcome : RepoFinalizationOutcome) : Record where
  verdict := outcome.decision.verdict
  reasonCode := outcome.decision.reasonCode
  executionState := outcome.executionState
  executionPhase := outcome.executionPhase
  verdictSource := outcome.evidence.bind VerificationEvidence.verdictSource
  testsPassed := outcome.evidence.bind VerificationEvidence.testsPassed
  testsTotal := outcome.evidence.bind VerificationEvidence.testsTotal
  testCommandRan := outcome.testCommandStarted
  attestation :=
    { guardVersion := some guardVersion
      effectivePolicy := ⟨.repo, false, policy.packConfigured, harnessInputs⟩
      junitSha256 := outcome.evidence.bind VerificationEvidence.junitSha256
      junitDigestFormat := outcome.evidence.bind VerificationEvidence.junitDigestFormat
      verifierPackTestsPassed := outcome.evidence.bind fun evidence =>
        evidence.verifierPack.testsPassed
      verifierPackTestsTotal := outcome.evidence.bind fun evidence =>
        evidence.verifierPack.testsTotal
      verifierPackJunitSha256 := outcome.evidence.bind fun evidence =>
        evidence.verifierPack.junitSha256
      verifierPackJunitDigestFormat := outcome.evidence.bind fun evidence =>
        evidence.verifierPack.junitDigestFormat
      verifierPackStarted := outcome.evidence.map fun evidence =>
        evidence.execution.verifierPackStarted
      verifierPackCompleted := outcome.evidence.map fun evidence =>
        evidence.execution.verifierPackCompleted
      repoSuite := (outcome.evidence.map VerificationEvidence.repoSuite).getD {} }
  assurance := ⟨outcome.assurance.reportIntegrity, outcome.assurance.repoNativeSuite⟩

end EvoomGuard.Application
