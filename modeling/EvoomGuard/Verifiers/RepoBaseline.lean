import EvoomGuard.Application.RepoFinalization
import EvoomGuard.Verifiers.RepoVerifier

/-!
The pristine run of the repository suite, `verifiers/repo_baseline.py`. It reads the same reports
as the candidate's suite and grades them on its own: a failing baseline is not always what
`evaluate_repo_phase` calls a clean failing verdict.
-/

namespace EvoomGuard.Verifiers

open Lib Domain Application

inductive SetupFidelity where
  | unverified
  | setupFailed
  | changedJudgedTree
  deriving DecidableEq, Repr

structure RepoBaselineEvidence where
  verdict : BaselineVerdict
  testsPassed : Option Nat
  testsTotal : Option Nat
  setupFidelity : Option SetupFidelity := none
  setupFidelityChanges : Option (List Text) := none

def emptyEvidence : RepoBaselineEvidence where
  verdict := .noCleanVerdict
  testsPassed := none
  testsTotal := none

structure RepoBaselineRequest where
  setupCommand : Option (List Text)
  strictHarness : Bool
  harnessInputs : List Text

/-- What the file system and the host answer along the pristine run. -/
structure BaselineAnswers where
  trusted : HarnessCheckpoint
  copied : HarnessCheckpoint
  setup : SetupAnswers
  harnessAfterSetup : HarnessCheckpoint
  resolved : Bool
  suite : CommandAnswers
  harnessAfterSuite : HarnessCheckpoint

/-- A launch that is neither refused nor interrupted and whose target started. -/
def finishedCommand : ProcessOutcome → Option CompletedCommand
  | .finished true returncode stdout stderr => some ⟨returncode, stdout, stderr⟩
  | _ => none

section Baseline

variable (parseXml : Text → Option Element) (lowerName quoted : Text → Text)
  (request : RepoBaselineRequest) (answers : BaselineAnswers)

-- A command that raised, or whose target never started, leaves the setup unverified whatever the
-- snapshots say.
def baselineSetup (harness : List (Text × EntryState)) : Except RepoBaselineEvidence Unit :=
  let unverified := { emptyEvidence with setupFidelity := some .unverified }
  if ((request.setupCommand).getD []).isEmpty then .ok ()
  else if !answers.setup.resolved then .error unverified
  else
    match answers.setup.before, finishedCommand answers.setup.process, answers.setup.after,
      captureHarnessInputSnapshot quoted answers.harnessAfterSetup request.harnessInputs with
    | .ok (), some command, .ok treeChanges, .ok observed =>
      if command.returncode ≠ 0 then
        .error { emptyEvidence with setupFidelity := some .setupFailed }
      else
        match Text.sortedSet (treeChanges ++ harnessInputSnapshotChanges harness observed) with
        | [] => .ok ()
        | changes => .error { emptyEvidence with
            setupFidelity := some .changedJudgedTree
            setupFidelityChanges := some changes }
    | _, _, _, _ => .error unverified

/-- The pristine suite up to the reading of its reports: an early end, or the completed run. -/
def baselineSuite : Except RepoBaselineEvidence CompletedRun :=
  match captureHarnessInputSnapshot quoted answers.trusted request.harnessInputs,
    captureHarnessInputSnapshot quoted answers.copied request.harnessInputs with
  | .ok trusted, .ok copied =>
    if harnessInputSnapshotChanges trusted copied ≠ [] then .error emptyEvidence
    else
      match baselineSetup quoted request answers trusted with
      | .error ended => .error ended
      | .ok () =>
        if !answers.resolved then .error emptyEvidence
        else
          match finishedCommand answers.suite.process,
            captureHarnessInputSnapshot quoted answers.harnessAfterSuite
              request.harnessInputs with
          | some command, .ok observed =>
            if harnessInputSnapshotChanges trusted observed ≠ [] then .error emptyEvidence
            else .ok (answers.suite.completed command)
          | _, _ => .error emptyEvidence
  | _, _ => .error emptyEvidence

/-- The grade of the pristine suite: its own conditions for a clean verdict. -/
def gradeBaseline (evidence : CompletedRunEvidence) (strictHarness : Bool) :
    RepoBaselineEvidence :=
  let grade := gradeRepoRun evidence.returncode evidence.junit evidence.reportExpected
  let unclean := detectTamper evidence.returncode evidence.junit ||
    (evidence.junit.isNone && evidence.reportExpected) ||
    (strictHarness && (!evidence.reportExpected || countsNothing evidence.junit))
  { verdict := if unclean then .noCleanVerdict else if grade.passed then .pass else .fail
    testsPassed := some grade.testsPassed
    testsTotal := some grade.testsTotal }

def runRepoBaseline : RepoBaselineEvidence :=
  match baselineSuite quoted request answers with
  | .error ended => ended
  | .ok completed => gradeBaseline (suiteEvidence parseXml lowerName completed) request.strictHarness

/-- What the finalization reads of it. -/
def RepoBaselineEvidence.run (evidence : RepoBaselineEvidence) : BaselineRun where
  verdict := evidence.verdict
  testsPassed := evidence.testsPassed
  testsTotal := evidence.testsTotal

end Baseline

/-- A failing verdict that names its source. -/
def cleanFailure (result : RepoPhaseResult) : Bool :=
  result.verdictSource.isSome && !result.passed && !result.tampered

def commonExit (returncode : Int) : Bool := returncode == 0 || returncode == 1

/-- Without a report the exit code decides, unless a report was due. A report that counted nothing
is left to strict mode; one that names failures needs an exit code of 0 or 1, unless strict mode
expected no report at all. -/
def gradedAlike (evidence : CompletedRunEvidence) (strictHarness : Bool) : Bool :=
  match evidence.junit with
  | none => evidence.reportExpected || strictHarness || commonExit evidence.returncode
  | some counts =>
    if counts.total = 0 then strictHarness
    else commonExit evidence.returncode || (counts.failures == 0 && counts.errors == 0) ||
      (strictHarness && !evidence.reportExpected)

section Grades

variable (evidence : CompletedRunEvidence) (strictHarness : Bool)

theorem baseline_fails_without_report (absent : evidence.junit = none) :
    (gradeBaseline evidence strictHarness).verdict = .fail ↔
      evidence.reportExpected = false ∧ strictHarness = false ∧ evidence.returncode ≠ 0 := by
  simp only [gradeBaseline, gradeRepoRun, detectTamper, countsNothing, absent]
  cases evidence.reportExpected with
  | true => simp
  | false =>
    cases strictHarness with
    | true => simp
    | false =>
      by_cases zero : evidence.returncode = 0
      · simp [zero]
      · by_cases one : evidence.returncode = 1 <;> simp [zero, one]

theorem suite_fails_without_report (absent : evidence.junit = none) :
    cleanFailure (evaluateRepoPhase evidence strictHarness) = true ↔
      evidence.reportExpected = false ∧ strictHarness = false ∧ evidence.returncode = 1 := by
  have passed := repo_phase_passed evidence strictHarness
  rw [cleanFailure, passed]
  simp only [evaluateRepoPhase, cleanPass, exitOnlyPass, cleanVerdictSource, detectTamper,
    countsNothing, absent]
  cases evidence.reportExpected with
  | true => cases strictHarness <;> simp
  | false =>
    cases strictHarness with
    | true => simp
    | false =>
      by_cases zero : evidence.returncode = 0
      · simp [zero]
      · by_cases one : evidence.returncode = 1 <;> simp [zero, one]

section

variable (counts : JUnitCounts) (report : evidence.junit = some counts)
include report

/-- A report is neither suspicious nor a pass if it counted nothing, or if it names a failure and
the exit code does not hide it. -/
theorem failing_report :
    (detectTamper evidence.returncode evidence.junit = false ∧ cleanPass evidence = false) ↔
      counts.total = 0 ∨ (0 < counts.failures + counts.errors ∧ evidence.returncode ≠ 0) := by
  have balance := counts.balanced
  simp only [detectTamper, cleanPass, report]
  by_cases zero : evidence.returncode = 0
  · by_cases named : 0 < counts.failures + counts.errors
    · simp [zero]
      omega
    · simp [zero]
      omega
  · by_cases named : 0 < counts.failures + counts.errors
    · simp [zero]
      omega
    · simp [zero]
      omega

theorem baseline_fails_with_report :
    (gradeBaseline evidence strictHarness).verdict = .fail ↔
      (counts.total = 0 ∧ strictHarness = false) ∨
        (0 < counts.failures + counts.errors ∧ evidence.returncode ≠ 0 ∧
          (strictHarness = true → evidence.reportExpected = true)) := by
  have balance := counts.balanced
  have failing := failing_report evidence counts report
  have graded := grade_passed evidence
  have exitOnly : exitOnlyPass evidence false = false := by simp [exitOnlyPass, report]
  rw [exitOnly, Bool.or_false] at graded
  have verdict : (gradeBaseline evidence strictHarness).verdict = .fail ↔
      (detectTamper evidence.returncode evidence.junit = false ∧ cleanPass evidence = false) ∧
        (strictHarness = true → evidence.reportExpected = true ∧ counts.total ≠ 0) := by
    simp only [gradeBaseline, graded]
    cases detectTamper evidence.returncode evidence.junit <;> cases cleanPass evidence <;>
      cases strictHarness <;> cases evidence.reportExpected <;> simp [report, countsNothing]
    split <;> simp_all
  rw [verdict, failing]
  cases strictHarness with
  | true =>
    cases evidence.reportExpected with
    | true =>
      simp only [Bool.true_eq_false, forall_const, and_false, false_or, true_and, and_true]
      omega
    | false => simp
  | false =>
    simp only [Bool.false_eq_true, false_implies, and_true]

theorem suite_fails_with_report :
    cleanFailure (evaluateRepoPhase evidence strictHarness) = true ↔
      0 < counts.failures + counts.errors ∧ evidence.returncode = 1 := by
  have balance := counts.balanced
  have failing := failing_report evidence counts report
  have passed := repo_phase_passed evidence strictHarness
  have exitOnly : exitOnlyPass evidence strictHarness = false := by simp [exitOnlyPass, report]
  have source : (evaluateRepoPhase evidence strictHarness).verdictSource.isSome = true ↔
      0 < counts.total ∧ (evidence.returncode = 0 ∨ evidence.returncode = 1) := by
    simp only [evaluateRepoPhase, countsNothing, report]
    by_cases empty : counts.total = 0
    · cases strictHarness <;> simp [empty, cleanVerdictSource]
    · rw [if_neg (by simp [empty]), clean_verdict_source_some]
  have tampered : (evaluateRepoPhase evidence strictHarness).tampered =
      detectTamper evidence.returncode evidence.junit := rfl
  rw [exitOnly, Bool.or_false] at passed
  rw [cleanFailure, Bool.and_eq_true, Bool.and_eq_true, source, passed, tampered,
    Bool.not_eq_true', Bool.not_eq_true', and_assoc, and_comm (a := cleanPass evidence = false),
    failing]
  omega

end

theorem baseline_failure_clean_iff :
    ((gradeBaseline evidence strictHarness).verdict = .fail →
      cleanFailure (evaluateRepoPhase evidence strictHarness) = true) ↔
        gradedAlike evidence strictHarness = true := by
  cases report : evidence.junit with
  | none =>
    rw [baseline_fails_without_report evidence strictHarness report,
      suite_fails_without_report evidence strictHarness report]
    simp only [gradedAlike, report, commonExit]
    cases evidence.reportExpected <;> cases strictHarness <;> simp
    omega
  | some counts =>
    have balance := counts.balanced
    rw [baseline_fails_with_report evidence strictHarness counts report,
      suite_fails_with_report evidence strictHarness counts report]
    simp only [gradedAlike, report, commonExit]
    split
    · cases strictHarness <;> simp <;> omega
    · cases evidence.reportExpected <;> cases strictHarness <;> simp <;> omega

end Grades

section Measured

variable (parseXml : Text → Option Element) (lowerName quoted : Text → Text)
  (request : RepoBaselineRequest) (answers : BaselineAnswers)

/-- The pristine suite ran to its end and its evidence is a clean failing verdict. -/
def FailedCleanly : Prop :=
  ∃ completed, baselineSuite quoted request answers = .ok completed ∧
    cleanFailure (evaluateRepoPhase (suiteEvidence parseXml lowerName completed)
      request.strictHarness) = true

theorem baseline_setup_ends (harness : List (Text × EntryState)) (ended : RepoBaselineEvidence)
    (stopped : baselineSetup quoted request answers harness = .error ended) :
    ended.verdict = .noCleanVerdict := by
  unfold baselineSetup at stopped
  simp only at stopped
  split at stopped
  · cases stopped
  · split at stopped
    · cases stopped
      rfl
    · split at stopped
      · split at stopped
        · cases stopped
          rfl
        · split at stopped
          · cases stopped
          · cases stopped
            rfl
      · cases stopped
        rfl

theorem baseline_suite_ends (ended : RepoBaselineEvidence)
    (stopped : baselineSuite quoted request answers = .error ended) :
    ended.verdict = .noCleanVerdict := by
  unfold baselineSuite at stopped
  split at stopped
  · next trusted copied _ _ =>
      split at stopped
      · cases stopped
        rfl
      · split at stopped
        · next outcome setup =>
            cases stopped
            exact baseline_setup_ends quoted request answers trusted _ setup
        · split at stopped
          · cases stopped
            rfl
          · split at stopped
            · split at stopped
              · cases stopped
                rfl
              · cases stopped
            · cases stopped
              rfl
  · cases stopped
    rfl

/-- A failing baseline, and with it a demonstrated repair, is a clean failing verdict exactly for
the runs that both paths grade alike. -/
theorem demonstrated_repair_is_clean_iff :
    (((runRepoBaseline parseXml lowerName quoted request answers).verdict = .fail →
        FailedCleanly parseXml lowerName quoted request answers) ∧
      (repairEffect (runRepoBaseline parseXml lowerName quoted request answers).run true =
          .demonstrated → FailedCleanly parseXml lowerName quoted request answers)) ↔
      ∀ completed, baselineSuite quoted request answers = .ok completed →
        gradedAlike (suiteEvidence parseXml lowerName completed) request.strictHarness = true := by
  rw [repair_effect_demonstrated_iff, RepoBaselineEvidence.run, and_self]
  unfold runRepoBaseline FailedCleanly
  cases suite : baselineSuite quoted request answers with
  | error ended =>
    simp [baseline_suite_ends quoted request answers ended suite]
  | ok completed =>
    simp only [Except.ok.injEq, exists_eq_left', forall_eq']
    exact baseline_failure_clean_iff _ _

end Measured

def quietCheckpoint : HarnessCheckpoint where
  before := fun _ => none
  state := fun _ => .error []
  after := fun _ => none

def collectionError : BaselineAnswers where
  trusted := quietCheckpoint
  copied := quietCheckpoint
  setup := ⟨true, .ok (), .fileNotFound, .ok []⟩
  harnessAfterSetup := quietCheckpoint
  resolved := true
  suite := ⟨.finished true 2 [] [], false, none, none⟩
  harnessAfterSuite := quietCheckpoint

/-- Exit code 2 without a report is no verdict of the candidate's suite, and demonstrates a repair
when the pristine suite leaves it. -/
theorem collection_error_demonstrates_a_repair :
    let baseline := runRepoBaseline (fun _ => none) id id ⟨none, false, []⟩ collectionError
    baseline.verdict = .fail ∧ repairEffect baseline.run true = .demonstrated ∧
      ¬FailedCleanly (fun _ => none) id id ⟨none, false, []⟩ collectionError := by
  refine ⟨rfl, rfl, ?_⟩
  intro clean
  rcases clean with ⟨completed, suite, failed⟩
  cases suite
  cases failed

end EvoomGuard.Verifiers
