import EvoomGuard.Finalizer.RecordBinding
import EvoomGuard.Verifiers.RepoSuiteGates

/-!
The gates a `guard` request asks for, and which of them a passing record has had evaluated on the
run it judged. The structured verdict floor of the command line is not among them: it is
documented to do nothing in black-box-only mode.
-/

namespace EvoomGuard.Guard

open Application Application.RequestPreparation Candidate Domain Domain.Harness Domain.Policy
open Finalizer Lib PackManifest Policy Verifiers

inductive Gate where
  | requireDemonstratedFix
  | minDiffCoverage
  | requireReportIntegrity
  | requireCandidateIsolation
  | strictHarness
  | requireSuiteContinuity
  | requireAssertLiveness
  deriving DecidableEq, Repr

def GuardCall.requests (call : GuardCall) : Gate → Bool
  | .requireDemonstratedFix => call.settings.requireDemonstratedFix
  | .minDiffCoverage => call.settings.minDiffCoverage.isSome
  | .requireReportIntegrity => (floorOf call.settings.requireReportIntegrity).isSome
  | .requireCandidateIsolation => (floorOf call.settings.requireCandidateIsolation).isSome
  | .strictHarness => call.settings.strictHarness
  | .requireSuiteContinuity => call.requireSuiteContinuity
  | .requireAssertLiveness => call.requireAssertLiveness

section Satisfied

variable (host : GuardHost) (call : GuardCall) (answers : GuardAnswers)
  (prepared : PreparedGuardRequest) (preflight : CandidatePreflight)

/-- The repository verifier that a call asks for its suite; none when the pack alone decides. -/
def suiteJudge : Option RepoSettings :=
  if call.settings.blackbox then
    if given : call.packGiven = true then
      if call.settings.blackboxOnly then none
      else some (blackboxVerification host call answers prepared preflight given).composedSettings
    else none
  else some (repoSettings host call)

def SuiteJudged (holds : RepoSettings → CompletedSuite → Prop) : Prop :=
  ∃ settings candidate suite, suiteJudge host call answers prepared preflight = some settings ∧
    JudgedSuite host.services settings (admission call prepared preflight)
      (repoAnswers host call answers) candidate suite ∧ holds settings suite

/-- The report the verdict rests on is structured, counts a test and no failure. -/
def StructuredVerdict : Prop :=
  match suiteJudge host call answers prepared preflight with
  | some _ => SuiteJudged host call answers prepared preflight fun settings suite =>
    settings.structuredAdapter = true ∧
      cleanPass (suiteEvidence host.services.parseXml host.services.mapping.lower
        (answers.repo.suite.completed suite.command)) = true
  | none => ∃ text counts, answers.blackbox.report = some text ∧
      parseJunitXml host.services.parseXml text = some counts ∧ 0 < counts.total ∧
        counts.failures = 0 ∧ counts.errors = 0

/-- The gate was evaluated on the judged run and found satisfied. -/
def Satisfied (result : GuardResult) : Gate → Prop
  | .requireDemonstratedFix => ∃ evidence, result.baseline = some evidence ∧
      evidence.repairEffect = .demonstrated ∧ answers.baseline.verdict = .fail
  | .minDiffCoverage => result.diffCoverage = some answers.coverage ∧
      ∀ floor, call.settings.minDiffCoverage = some floor →
        MeetsCoverageFloor answers.coverage floor
  | .requireReportIntegrity => meetsFloor reportIntegrityRankPolicy
      (deliveredIntegrity result.assurance) call.settings.requireReportIntegrity
  | .requireCandidateIsolation => meetsFloor isolationRankPolicy
      (deliveredBoundary result.assurance) call.settings.requireCandidateIsolation
  | .strictHarness => (∀ path ∈ touchedPaths (classified call prepared),
        isProtectedConfig host.services.mapping path true = false) ∧
      StructuredVerdict host call answers prepared preflight
  | .requireSuiteContinuity => SuiteJudged host call answers prepared preflight
      fun settings suite => suite.captured.isSome = true ∧
        verifyAfterSuite settings.packConfigured answers.repo.runtimeAfterSuite = none
  | .requireAssertLiveness => SuiteJudged host call answers prepared preflight
      fun settings _ => settings.pytestCommand = true ∧ canaryCaseFailed host.services.parseXml
        (answers.repo.suite.report.getD []) canaryTestid = false

end Satisfied

/-- Every gate the call requests was evaluated on the run of the record and found satisfied. -/
def HonoursGates (host : GuardHost) (call : GuardCall) (answers : GuardAnswers)
    (result : GuardResult) : Prop :=
  ∃ prepared preflight,
    prepareGuardRequest host.services.mapping call.settings = .ok prepared ∧
      evaluateCandidatePreflight host.services.mapping (classified call prepared) =
        .ok preflight ∧
      ∀ gate, call.requests gate = true →
        Satisfied host call answers prepared preflight result gate

def GuardCall.dropsSuiteGate (call : GuardCall) : Prop :=
  call.settings.blackboxOnly = true ∧
    (call.requireSuiteContinuity = true ∨ call.requireAssertLiveness = true)

/-- A pass that the finalization leaves has gone through every gate of the policy. -/
theorem finalize_pass_gates (quoted : Text → Text) (shown : Rat → Text) (policy : RepoPolicy)
    (paths : PathFacts) (verdict : RepoVerdict) (coverage : CoverageEvidence) (run : BaselineRun)
    (packDirectory : Bool) (executed : paths.mayExecute = true)
    (completed : verdict.artifact.execution.executionState = .completed) :
    let outcome := finalizeRepoVerification quoted shown policy paths verdict coverage run
      packDirectory
    outcome.decision.verdict = .pass →
      (policy.requireDemonstratedFix = true → ∃ evidence, outcome.baseline = some evidence ∧
        evidence.repairEffect = .demonstrated ∧ run.verdict = .fail) ∧
      (∀ floor, policy.minDiffCoverage = some floor →
        outcome.diffCoverage = some coverage ∧ MeetsCoverageFloor coverage floor) ∧
      MeetsFloors outcome.assurance policy.requireReportIntegrity
        policy.requireCandidateIsolation := by
  intro outcome passed
  let core := buildRepoJudgment paths verdict
  let covered := coverageStep shown policy core coverage
  let suite := candidateSuite core (runEvidence paths verdict)
  have state : (finalExecution (runEvidence paths verdict)).executionState = .completed := by
    rw [runEvidence, if_pos executed]
    exact completed
  have gated := (assurance_gate_pass_iff quoted (baselineStep policy covered.1 suite run).1
    outcome.assurance paths.mayExecute policy.requireReportIntegrity
    policy.requireCandidateIsolation false (by simp [executed])).mp (by
      rw [← state]
      exact passed)
  have fixed : covered.1.verdict = .pass := by
    by_contra other
    rw [baseline_step_keeps policy covered.1 suite run other] at gated
    exact other gated.1
  have floors := (coverage_step_pass_iff shown policy core coverage).mp fixed
  have graded : suite.1 = true := by
    simp only [suite, candidateSuite]
    split
    · rfl
    · simp [floors.1]
  constructor
  · intro required
    have subprocess := policy.fix_in_subprocess required
    have stepped : baselineStep policy covered.1 suite run =
        (applyDemonstratedFixGate covered.1 (measuredBaseline run suite.2) true,
          some (measuredBaseline run suite.2)) := by
      simp [baselineStep, required, graded, subprocess]
    rw [stepped] at gated
    have effect := ((demonstrated_fix_pass_iff _ _ _).mp gated.1).2 rfl
    refine ⟨measuredBaseline run suite.2, ?_, effect, ?_⟩
    · have same : outcome.baseline = (baselineStep policy covered.1 suite run).2 := rfl
      rw [same, stepped]
    · change repairEffect run suite.2 = .demonstrated at effect
      unfold repairEffect at effect
      split_ifs at effect with missing failed
      exact failed.1
  · constructor
    · intro floor given
      have present : policy.minDiffCoverage.isSome = true := by simp [given]
      constructor
      · have same : outcome.diffCoverage = (coverageStep shown policy core coverage).2 := rfl
        rw [same]
        simp [coverageStep, policy.measured present, policy.floor_in_subprocess present, floors.1]
      · exact floors.2 floor given
    · exact gated.2

section Judged

variable (host : GuardHost) (call : GuardCall) (answers : GuardAnswers)
  (prepared : PreparedGuardRequest) (preflight : CandidatePreflight)

theorem judge_settings (settings : RepoSettings)
    (judge : suiteJudge host call answers prepared preflight = some settings) :
    settings.requireSuiteContinuity = call.requireSuiteContinuity ∧
      settings.requireAssertLiveness = call.requireAssertLiveness := by
  unfold suiteJudge at judge
  split_ifs at judge
  · cases judge
    exact ⟨rfl, rfl⟩
  · cases judge
    exact ⟨rfl, rfl⟩

theorem judged_suite_gates (settings : RepoSettings) (verdict : RepoVerdict)
    (judge : suiteJudge host call answers prepared preflight = some settings)
    (verified : verifyRepo host.services settings (admission call prepared preflight)
      (repoAnswers host call answers) = .ok verdict) (passed : verdict.passed = true) :
    (call.requireSuiteContinuity = true → ∀ result,
      Satisfied host call answers prepared preflight result .requireSuiteContinuity) ∧
    (call.requireAssertLiveness = true → ∀ result,
      Satisfied host call answers prepared preflight result .requireAssertLiveness) ∧
    (call.settings.strictHarness = true →
      StructuredVerdict host call answers prepared preflight) := by
  obtain ⟨candidate, suite, ran, strict, gated⟩ := verify_repo_gated host.services settings
    (admission call prepared preflight) (repoAnswers host call answers) verdict verified passed
  have same := judge_settings host call answers prepared preflight settings judge
  constructor
  · intro requested _
    exact ⟨settings, candidate, suite, judge, ran, gated.continuity (same.1.trans requested)⟩
  · constructor
    · intro requested _
      exact ⟨settings, candidate, suite, judge, ran, gated.liveness (same.2.trans requested)⟩
    · intro requested
      have required : structuredRequired settings candidate = true := by
        have demanded : (admission call prepared preflight).strictHarness = true := requested
        rw [structuredRequired, strict, demanded, Bool.true_or]
      rw [StructuredVerdict, judge]
      exact ⟨settings, candidate, suite, judge, ran, gated.structured required⟩

theorem strict_manifests_untouched
    (evaluated : evaluateCandidatePreflight host.services.mapping (classified call prepared) =
      .ok preflight) (executes : preflight.mayExecute = true)
    (strict : call.settings.strictHarness = true) :
    ∀ path ∈ touchedPaths (classified call prepared),
      isProtectedConfig host.services.mapping path true = false := by
  intro path touched
  have clean := (clean_iff host.services.mapping _ preflight evaluated).mp
    (may_execute_clean preflight executes) path (mem_touched_paths.mp touched)
  have kept := clean.2
  have flag : (classified call prepared).strictHarness = true := strict
  unfold violates judgeOwned at kept
  rw [flag] at kept
  simp only [Bool.or_eq_false_iff] at kept
  exact kept.2.1.1.2

end Judged

theorem prepared_blackbox (mapping : CaseMapping) (raw : GuardRequestPreparationInput)
    (prepared : PreparedGuardRequest) (accepted : prepareGuardRequest mapping raw = .ok prepared)
    (only : raw.blackboxOnly = true) : raw.blackbox = true := by
  have checked := (prepared_ok mapping raw prepared accepted).1
  unfold checkScalars at checked
  split_ifs at checked with _ _ external
  simpa [only] using external

section Runs

variable (host : GuardHost) (call : GuardCall) (answers : GuardAnswers)
  (prepared : PreparedGuardRequest) (preflight : CandidatePreflight)

theorem blackbox_supports (blackbox : call.settings.blackbox = true)
    (supported : call.unsupported = []) :
    call.settings.requireDemonstratedFix = false ∧ call.settings.minDiffCoverage = none := by
  unfold GuardCall.unsupported unsupportedPolicyRequirements at supported
  rw [blackbox] at supported
  simp only [List.append_eq_nil_iff] at supported
  constructor
  · simpa using supported.1.1
  · simpa using supported.1.2

/-- A record of the external judge that passes. -/
theorem blackbox_gates (result : GuardResult) (given : call.packGiven = true)
    (blackbox : call.settings.blackbox = true) (supported : call.unsupported = [])
    (evaluated : evaluateCandidatePreflight host.services.mapping (classified call prepared) =
      .ok preflight) (executes : preflight.mayExecute = true)
    (recorded : blackboxResult host call answers prepared preflight given = .ok result)
    (passed : result.decision.verdict = .pass) (kept : ¬ call.dropsSuiteGate) :
    ∀ gate, call.requests gate = true →
      Satisfied host call answers prepared preflight result gate := by
  let verification := blackboxVerification host call answers prepared preflight given
  unfold blackboxResult at recorded
  dsimp only at recorded
  split at recorded
  · cases recorded
  · next outcome finalized =>
      cases recorded
      have sound := blackbox_pass_sound verification outcome finalized passed
      obtain ⟨_, _, _, _, _, _, counted, suite, floors⟩ := sound
      have absent := blackbox_supports call blackbox supported
      have judge : suiteJudge host call answers prepared preflight =
          if call.settings.blackboxOnly then none else some verification.composedSettings := by
        simp only [suiteJudge, blackbox, given, if_true, dif_pos]
        rfl
      have composed (both : call.settings.blackboxOnly = false) :=
        have suiteJudged : suiteJudge host call answers prepared preflight =
            some verification.composedSettings := by
          rw [judge, both, if_neg Bool.false_ne_true]
        (suite both).elim fun verdict found =>
          judged_suite_gates host call answers prepared preflight _ verdict suiteJudged found.1
            found.2
      intro gate requested
      cases gate with
      | requireDemonstratedFix =>
        have required : call.settings.requireDemonstratedFix = true := requested
        rw [absent.1] at required
        cases required
      | minDiffCoverage =>
        have required : call.settings.minDiffCoverage.isSome = true := requested
        rw [absent.2] at required
        cases required
      | requireReportIntegrity => exact floors.1
      | requireCandidateIsolation => exact floors.2
      | strictHarness =>
        constructor
        · exact strict_manifests_untouched host call prepared preflight evaluated executes
            requested
        · cases only : call.settings.blackboxOnly with
          | true =>
            rw [only, if_pos rfl] at judge
            obtain ⟨text, counts, read, parsed, total, failures, errors, _⟩ := counted
            rw [StructuredVerdict, judge]
            exact ⟨text, counts, read, parsed, total, failures, errors⟩
          | false => exact (composed only).2.2 requested
      | requireSuiteContinuity =>
        cases only : call.settings.blackboxOnly with
        | true => exact absurd ⟨only, Or.inl requested⟩ kept
        | false => exact (composed only).1 requested _
      | requireAssertLiveness =>
        cases only : call.settings.blackboxOnly with
        | true => exact absurd ⟨only, Or.inr requested⟩ kept
        | false => exact (composed only).2.1 requested _

/-- A record of the repository judge that passes. -/
theorem repo_gates (supported : call.unsupported = []) (result : GuardResult)
    (internal : ¬ (call.settings.blackbox && preflight.mayExecute) = true)
    (evaluated : evaluateCandidatePreflight host.services.mapping (classified call prepared) =
      .ok preflight)
    (recorded : repoResult host call answers prepared preflight supported = .ok result)
    (passed : result.decision.verdict = .pass) :
    ∀ gate, call.requests gate = true →
      Satisfied host call answers prepared preflight result gate := by
  have decided : ∀ verdict, (repoRecorded host call answers prepared preflight supported
      verdict).decision.verdict = .pass →
      (buildRepoJudgment (pathFacts preflight) verdict).verdict = .pass := by
    intro verdict green
    by_contra other
    have same := finalize_keeps host.services.quoted host.shown (repoPolicy call supported)
      (pathFacts preflight) verdict answers.coverage answers.baseline answers.packDirectory other
    exact other (same ▸ green)
  unfold repoResult at recorded
  by_cases executes : preflight.mayExecute = true
  · rw [if_pos executes] at recorded
    split at recorded
    · cases recorded
    · next verdict verified =>
        cases recorded
        have judged := (judgment_pass_iff _ _).mp (decided verdict passed)
        have completed := verify_repo_passed_completed host.services (repoSettings host call)
          (admission call prepared preflight) (repoAnswers host call answers) verdict verified
          judged.2.2.2
        have gated := finalize_pass_gates host.services.quoted host.shown
          (repoPolicy call supported) (pathFacts preflight) verdict answers.coverage
          answers.baseline answers.packDirectory executes completed passed
        have judge : suiteJudge host call answers prepared preflight =
            some (repoSettings host call) := by
          have native : call.settings.blackbox = false := by simpa [executes] using internal
          rw [suiteJudge, native, if_neg Bool.false_ne_true]
        have suite := judged_suite_gates host call answers prepared preflight _ verdict judge
          verified judged.2.2.2
        intro gate requested
        cases gate with
        | requireDemonstratedFix => exact gated.1 requested
        | minDiffCoverage =>
          obtain ⟨floor, given⟩ := Option.isSome_iff_exists.mp requested
          constructor
          · exact (gated.2.1 floor given).1
          · intro other same
            exact (gated.2.1 other same).2
        | requireReportIntegrity => exact gated.2.2.1
        | requireCandidateIsolation => exact gated.2.2.2
        | strictHarness => exact ⟨strict_manifests_untouched host call prepared preflight evaluated
            executes requested, suite.2.2 requested⟩
        | requireSuiteContinuity => exact suite.1 requested _
        | requireAssertLiveness => exact suite.2.1 requested _
  · rw [if_neg executes] at recorded
    cases recorded
    have refused := refused_not_pass (pathFacts preflight) unjudged (by
      simpa [PathFacts.mayExecute, pathFacts, CandidatePreflight.mayExecute] using executes)
    exact absurd (decided unjudged passed) refused.1

end Runs

section

variable (host : GuardHost) (call : GuardCall) (answers : GuardAnswers) (result : GuardResult)

theorem honoured_drops_nothing (honoured : HonoursGates host call answers result) :
    ¬ call.dropsSuiteGate := by
  intro dropped
  obtain ⟨prepared, preflight, accepted, _, satisfied⟩ := honoured
  have blackbox := prepared_blackbox _ _ _ accepted dropped.1
  have unjudged : suiteJudge host call answers prepared preflight = none := by
    simp [suiteJudge, blackbox, dropped.1]
  have nowhere : ∀ holds, ¬ SuiteJudged host call answers prepared preflight holds := by
    intro holds some
    obtain ⟨settings, _, _, judge, _⟩ := some
    rw [unjudged] at judge
    cases judge
  cases dropped.2 with
  | inl continuity => exact nowhere _ (satisfied .requireSuiteContinuity continuity)
  | inr liveness => exact nowhere _ (satisfied .requireAssertLiveness liveness)

/-- A passing record honours every requested gate exactly when no gate of the suite is requested
beside a pack that decides alone. -/
theorem passing_record_honours_gates_iff
    (guarded : guard host call answers = .ok result) (passed : result.decision.verdict = .pass) :
    HonoursGates host call answers result ↔ ¬ call.dropsSuiteGate := by
  constructor
  · exact honoured_drops_nothing host call answers result
  · intro kept
    unfold guard at guarded
    split at guarded
    · cases guarded
    · next prepared accepted =>
        split_ifs at guarded with problems supported
        · split at guarded
          · cases guarded
          · next preflight evaluated =>
              refine ⟨prepared, preflight, accepted, evaluated, ?_⟩
              unfold judged at guarded
              split_ifs at guarded with external given
              · rw [Bool.and_eq_true] at external
                exact blackbox_gates host call answers prepared preflight result given external.1
                  supported evaluated external.2 guarded passed kept
              · cases guarded
                cases passed
              · exact repo_gates host call answers prepared preflight supported result external
                  evaluated guarded passed
        · cases guarded
          cases passed

end

def gatedHost : GuardHost :=
  { plainHost with services := { Application.plainServices with parseXml := greenTree } }

def gatedCall (blackboxOnly : Bool) : GuardCall :=
  { deletingCall ["app.py"] with
    settings := { plainSettings with
      verifierPackPath := some "pack"
      blackbox := true
      blackboxOnly := blackboxOnly
      requireReportIntegrity := some "same_process_candidate_writable"
      strictHarness := true }
    requireSuiteContinuity := true }

/-- The pack and the suite both pass one test. -/
def gatedAnswers : GuardAnswers :=
  { plainAnswers with
    repo := { plainAnswers.repo with
      suite := ⟨.finished true 0 [] [], true, some greenReport, none⟩ } }

def guardedVerdict (guarded : Except GuardError GuardResult) : Option Verdict :=
  match guarded with
  | .error _ => none
  | .ok result => some result.decision.verdict

theorem guarded_verdict_some (guarded : Except GuardError GuardResult) (verdict : Verdict)
    (decided : guardedVerdict guarded = some verdict) :
    ∃ result, guarded = .ok result ∧ result.decision.verdict = verdict := by
  cases guarded with
  | error problem => cases decided
  | ok result =>
    cases decided
    exact ⟨result, rfl, rfl⟩

theorem composed_call_honours_gates :
    ∃ result, guard gatedHost (gatedCall false) gatedAnswers = .ok result ∧
      result.decision.verdict = .pass ∧
      HonoursGates gatedHost (gatedCall false) gatedAnswers result := by
  have decided : guardedVerdict (guard gatedHost (gatedCall false) gatedAnswers) = some .pass := by
    decide +kernel
  obtain ⟨result, guarded, passed⟩ := guarded_verdict_some _ _ decided
  have kept : ¬ (gatedCall false).dropsSuiteGate := by
    intro dropped
    cases dropped.1
  exact ⟨result, guarded, passed,
    (passing_record_honours_gates_iff _ _ _ result guarded passed).mpr kept⟩

/-- The same request passes without its suite, whose tree nobody has looked at. -/
theorem pack_only_call_drops_continuity :
    ∃ result, guard gatedHost (gatedCall true) gatedAnswers = .ok result ∧
      result.decision.verdict = .pass ∧ (gatedCall true).requests .requireSuiteContinuity = true ∧
      ¬ HonoursGates gatedHost (gatedCall true) gatedAnswers result := by
  have decided : guardedVerdict (guard gatedHost (gatedCall true) gatedAnswers) = some .pass := by
    decide +kernel
  obtain ⟨result, guarded, passed⟩ := guarded_verdict_some _ _ decided
  refine ⟨result, guarded, passed, rfl, ?_⟩
  intro honoured
  exact honoured_drops_nothing _ _ _ result honoured ⟨rfl, Or.inl rfl⟩

end EvoomGuard.Guard
