import EvoomGuard.Verifiers.RepoRunEnds

/-!
What the gates of the repository suite have checked when `RepoVerifier.verify` passes: the
structured verdict, the canary, and the tree after the suite.
-/

namespace EvoomGuard.Verifiers

open Lib Lib.Phase Domain Domain.Harness Workspace

section Gates

variable (services : RepoServices) (settings : RepoSettings) (answers : RepoAnswers)
  (candidate : AdmittedRepoCandidate)

/-- Everything that was required of the suite was looked at after it and was in order. -/
structure SuiteGated (suite : CompletedSuite) : Prop where
  continuity : settings.requireSuiteContinuity = true → suite.captured.isSome = true ∧
    verifyAfterSuite settings.packConfigured answers.runtimeAfterSuite = none
  liveness : settings.requireAssertLiveness = true → settings.pytestCommand = true ∧
    canaryCaseFailed services.parseXml (answers.suite.report.getD []) canaryTestid = false
  structured : structuredRequired settings candidate = true → settings.structuredAdapter = true ∧
    cleanPass (suiteEvidence services.parseXml services.mapping.lower
      (answers.suite.completed suite.command)) = true

/-- The checks up to the end of the suite. -/
structure SuiteReached (suite : CompletedSuite) : Prop where
  continuity : settings.requireSuiteContinuity = true → suite.captured.isSome = true ∧
    verifyAfterSuite settings.packConfigured answers.runtimeAfterSuite = none
  accepted : requirementsRefusal services settings candidate suite.setupIsolation = none

/-- A result on which no pass rests. -/
def Unpassed (_ : RepoRunState) (verdict : RepoVerdict) : Prop := verdict.passed = false

variable (inputs : List Text) (baseline : List (Text × EntryState))

theorem intake_unpassed (verdict : RepoVerdict)
    (refused : (packIntake services settings answers candidate).2 = some verdict) :
    verdict.passed = false := by
  unfold packIntake intakeRepoPack at refused
  split_ifs at refused
  · cases refused
    rfl
  · cases refused
    rfl
  · split at refused
    · cases refused
      rfl
    · split_ifs at refused
      cases refused
      rfl

theorem image_unpassed (verdict : RepoVerdict)
    (refused : resolveImage settings answers candidate = .error verdict) :
    verdict.passed = false := by
  unfold resolveImage at refused
  split_ifs at refused
  · cases refused
    rfl
  · split at refused
    · cases refused
    · cases refused
      rfl

theorem harness_unpassed (setupIsolation : Option Boundary) (problem : Option HarnessFailure)
    (verdict : RepoVerdict)
    (refused : problem.map (harnessVerdict candidate.filesChanged setupIsolation) = some verdict) :
    verdict.passed = false := by
  obtain ⟨failure, _, built⟩ := Option.map_eq_some_iff.mp refused
  rw [← built]
  rfl

theorem prepare_unpassed (state : RepoRunState) :
    Ends (prepareCandidate services settings answers candidate inputs baseline) state Unpassed
      (fun _ _ => True) := by
  unfold prepareCandidate
  apply ends_refuse_bind
  · intro verdict refused
    obtain ⟨problem, _, built⟩ := Option.map_eq_some_iff.mp refused
    rw [← built]
    rfl
  intro _
  apply ends_modify_bind
  apply ends_refuse_bind
  · exact intake_unpassed services settings answers candidate
  intro _
  apply ends_refuse_bind
  · intro verdict refused
    obtain ⟨problem, _, built⟩ := Option.map_eq_some_iff.mp refused
    rw [← built]
    rfl
  intro _
  apply ends_refuse_bind
  · exact harness_unpassed candidate none _
  intro _
  apply ends_bind _ _ _ _ (fun _ _ => True)
  · apply ends_of_pair
    · exact image_unpassed settings answers candidate
    · intro _ _
      trivial
  · intro _ _ _
    exact ends_pure _ _ _ _ trivial

theorem setup_refusal_unpassed (inContainer : Bool) (boundary : Boundary)
    (command : CompletedCommand) (after : Except Text (List Text)) (verdict : RepoVerdict)
    (refused : setupRefusal services.distill candidate.filesChanged inContainer boundary command
      after = some verdict) : verdict.passed = false := by
  unfold setupRefusal at refused
  split_ifs at refused
  · cases refused
    rfl
  · split at refused
    · cases refused
      rfl
    · cases refused
    · cases refused
      rfl

theorem setup_command_unpassed (judge : JudgeSettings) (command : Text) (trusted : Bool)
    (setup : SetupAnswers) (trace : ExecutionPhaseResult) (verdict : RepoVerdict)
    (refused : (executeRepoSetup services.distill services.quoted judge candidate.filesChanged
      command trusted setup trace).2 = .error verdict) : verdict.passed = false := by
  unfold executeRepoSetup at refused
  dsimp only at refused
  split at refused
  · cases refused
    rfl
  · split at refused
    · cases refused
      rfl
    · split at refused
      · cases refused
        rfl
      · split at refused
        · next found =>
            cases refused
            exact setup_refusal_unpassed services candidate _ _ _ _ verdict found
        · cases refused

theorem setup_unpassed (judge : JudgeSettings) (state : RepoRunState) :
    Ends (setupPhase services settings answers candidate judge) state Unpassed
      (fun _ _ => True) := by
  unfold setupPhase
  cases settings.setupCommand with
  | none => exact ends_pure _ _ _ _ trivial
  | some command =>
    apply ends_bind _ _ _ _ (fun _ _ => True)
    · apply ends_of_pair
      · intro verdict refused
        exact setup_command_unpassed services candidate judge _ _ _ _ verdict refused
      · intro _ _
        trivial
    · intro _ _ _
      exact ends_pure _ _ _ _ trivial

theorem suite_unpassed (judge : JudgeSettings) (command : Text) (setupIsolation : Option Boundary)
    (runtime : RuntimeIdentityEvidence) (process : ProcessOutcome) (trace : ExecutionPhaseResult)
    (verdict : RepoVerdict)
    (refused : (executeRepoSuite services.distill services.quoted judge candidate.filesChanged
      command settings.packConfigured setupIsolation runtime process trace).2 = .error verdict) :
    verdict.passed = false := by
  unfold executeRepoSuite at refused
  dsimp only at refused
  split at refused
  · cases refused
    rfl
  · cases refused

variable (setupIsolation : Option Boundary)

theorem capture_unpassed (state : RepoRunState) :
    Ends (captureRuntime settings answers candidate setupIsolation) state Unpassed
      (fun _ captured => settings.requireSuiteContinuity = true → captured.isSome = true) := by
  unfold captureRuntime
  by_cases required : (continuityRequest settings).required = true
  · rw [if_pos required]
    apply ends_modify_bind
    cases answers.runtimeBaseline with
    | ok identity => exact ends_pure _ _ _ _ (fun _ => rfl)
    | error problem => exact ends_throw _ _ _ _ rfl
  · rw [if_neg required]
    apply ends_pure
    intro requested
    simp [RuntimeContinuityRequest.required, continuityRequest, requested] at required

theorem after_suite_unpassed (captured : Option RuntimeIdentity) (state : RepoRunState) :
    Ends (afterSuite settings answers candidate setupIsolation captured) state Unpassed
      (fun _ _ => captured.isSome = true →
        verifyAfterSuite settings.packConfigured answers.runtimeAfterSuite = none) := by
  unfold afterSuite
  cases captured with
  | none =>
    apply ends_pure
    intro absent
    cases absent
  | some identity =>
    apply ends_modify_bind
    apply ends_refuse
    · intro verdict refused
      obtain ⟨failure, _, built⟩ := Option.map_eq_some_iff.mp refused
      rw [← built]
      rfl
    · intro unrefused _
      exact Option.map_eq_none_iff.mp unrefused

theorem suite_phase_reached (state : RepoRunState) :
    Ends (suitePhase services settings answers candidate inputs baseline) state Unpassed
      (fun _ suite => SuiteReached services settings answers candidate suite) := by
  unfold suitePhase
  apply ends_bind _ _ _ _ (fun _ _ => True)
  · exact prepare_unpassed services settings answers candidate inputs baseline state
  intro judge prepared _
  apply ends_bind _ _ _ _ (fun _ _ => True)
  · exact setup_unpassed services settings answers candidate judge prepared
  intro setupIsolation ready _
  apply ends_refuse_bind
  · exact harness_unpassed candidate setupIsolation _
  intro _
  apply ends_refuse_bind
  · intro verdict refused
    simp only [requirementsRefusal] at refused
    split_ifs at refused
    · cases refused
      rfl
    · cases refused
      rfl
  intro accepted
  apply ends_bind _ _ _ _ (fun _ (captured : Option RuntimeIdentity) =>
    settings.requireSuiteContinuity = true → captured.isSome = true)
  · exact capture_unpassed settings answers candidate setupIsolation ready
  intro captured launched required
  apply ends_modify_get_bind
  apply ends_refuse_bind
  · exact harness_unpassed candidate setupIsolation _
  intro _
  apply ends_bind _ _ _ _ (fun _ _ => True)
  · apply ends_of_pair
    · exact suite_unpassed services settings candidate judge _ setupIsolation _ _ launched.trace
    · intro _ _
      trivial
  intro command finished _
  apply ends_bind _ _ _ _ (fun _ _ => captured.isSome = true →
    verifyAfterSuite settings.packConfigured answers.runtimeAfterSuite = none)
  · exact after_suite_unpassed settings answers candidate setupIsolation captured finished
  intro _ after same
  apply ends_pure
  constructor
  · intro requested
    exact ⟨required requested, same (required requested)⟩
  · exact accepted

theorem pack_unpassed (suite : CompletedSuite) (state : RepoRunState) :
    Ends (packPhase services answers candidate suite) state Unpassed (fun _ _ => True) := by
  unfold packPhase packSnapshotRefusal
  apply ends_modify_bind
  apply ends_refuse_bind
  · intro verdict refused
    obtain ⟨problem, _, built⟩ := Option.map_eq_some_iff.mp refused
    rw [← built]
    rfl
  intro _
  apply ends_bind _ _ _ _ (fun _ _ => True)
  · apply ends_of_pair
    · intro verdict refused
      unfold executeRepoPack at refused
      dsimp only at refused
      split at refused
      · cases refused
        rfl
      · cases refused
    · intro _ _
      trivial
  intro command _ _
  apply ends_modify_bind
  apply ends_refuse_bind
  · intro verdict refused
    obtain ⟨problem, _, built⟩ := Option.map_eq_some_iff.mp refused
    rw [← built]
    rfl
  intro _
  apply ends_refuse_bind
  · intro verdict refused
    obtain ⟨failure, _, built⟩ := Option.map_eq_some_iff.mp refused
    rw [← built]
    rfl
  intro _
  apply ends_modify_bind
  exact ends_pure _ _ _ _ trivial

theorem suite_result_passed (suite : CompletedSuite)
    (passed : (suiteResult services settings answers candidate suite).passed = true)
    (required : structuredRequired settings candidate = true) :
    cleanPass (suiteEvidence services.parseXml services.mapping.lower
      (answers.suite.completed suite.command)) = true := by
  unfold suiteResult interpretRepoSuite at passed
  rw [required, repo_phase_passed] at passed
  simpa [exitOnlyPass] using passed

theorem requirements_accepted
    (accepted : requirementsRefusal services settings candidate setupIsolation = none) :
    (structuredRequired settings candidate = true → settings.structuredAdapter = true) ∧
      (settings.requireAssertLiveness = true → settings.pytestCommand = true) := by
  simp only [requirementsRefusal] at accepted
  split_ifs at accepted with structured liveness
  constructor
  · intro required
    simpa [required] using structured
  · intro required
    simpa [required] using liveness

theorem judge_phases_gated (suite : CompletedSuite) (state : RepoRunState)
    (reached : SuiteReached services settings answers candidate suite) :
    let allowed := fun (_ : RepoRunState) (verdict : RepoVerdict) => verdict.passed = true →
      SuiteGated services settings answers candidate suite
    Ends (judgePhases services settings answers candidate suite) state allowed allowed := by
  intro allowed
  have unpassed : ∀ after verdict, Unpassed after verdict → allowed after verdict := by
    intro after verdict failed passed
    rw [failed] at passed
    cases passed
  have required := requirements_accepted services settings candidate suite.setupIsolation
    reached.accepted
  have gated : canaryFailed services settings answers = false →
      (suiteResult services settings answers candidate suite).passed = true →
      SuiteGated services settings answers candidate suite := by
    intro live passed
    constructor
    · exact reached.continuity
    · intro requested
      refine ⟨required.2 requested, ?_⟩
      simpa [canaryFailed, requested] using live
    · intro requested
      exact ⟨required.1 requested,
        suite_result_passed services settings answers candidate suite passed requested⟩
  unfold judgePhases liveness
  apply ends_refuse_bind
  · intro verdict refused
    cases live : canaryFailed services settings answers with
    | false => simp [live] at refused
    | true =>
      rw [if_pos live] at refused
      cases refused
      exact unpassed state _ rfl
  intro survived
  have live : canaryFailed services settings answers = false := by
    simpa using survived
  by_cases packed : settings.packConfigured = true
  · simp only [packed, if_true]
    apply ends_modify_bind
    apply ends_bind _ _ _ _ (fun _ _ => True)
    · apply ends_weaken _ _ Unpassed _ (fun _ _ => True)
      · exact pack_unpassed services answers candidate suite _
      · exact unpassed
      · intro _ _ held
        exact held
    · intro pack after _
      apply ends_pure
      intro passed
      apply gated live
      simp only [completedVerdict, finalPhase, composeRepoAndPack, Bool.and_eq_true] at passed
      exact passed.1
  · simp only [packed, Bool.false_eq_true, if_false]
    apply ends_modify_bind
    apply ends_pure
    exact gated live

theorem repo_run_gated (before : RepoRunState) :
    let ended := finish (repoRun services settings answers candidate inputs baseline) before
    ended.2.passed = true → ∃ suite state,
      suitePhase services settings answers candidate inputs baseline before = .ok suite state ∧
        SuiteGated services settings answers candidate suite := by
  intro ended passed
  have reached := suite_phase_reached services settings answers candidate inputs baseline before
  unfold Ends at reached
  cases ran : suitePhase services settings answers candidate inputs baseline before with
  | error verdict state =>
    rw [ran] at reached
    have left : ended = (state, verdict) := by
      simp only [ended, finish, repoRun, bind, EStateM.bind, ran]
    rw [left] at passed
    rw [reached] at passed
    cases passed
  | ok suite state =>
    rw [ran] at reached
    have left : ended = finish (judgePhases services settings answers candidate suite) state := by
      simp only [ended, finish, repoRun, bind, EStateM.bind, ran]
    rw [left] at passed
    exact ⟨suite, state, rfl, finish_of_ends _ _ _
      (judge_phases_gated services settings answers candidate suite state reached) passed⟩

end Gates

section Verification

variable (services : RepoServices) (settings : RepoSettings)
  (request : RepoCandidateAdmissionRequest) (answers : RepoAnswers)

/-- The suite of the admitted candidate ran to its end in the verification of the request. -/
def JudgedSuite (candidate : AdmittedRepoCandidate) (suite : CompletedSuite) : Prop :=
  ∃ inputs baseline state,
    normalizeHarnessInputs services.mapping request.harnessInputs = .ok inputs ∧
      captureHarnessInputSnapshot services.quoted answers.trustedHarness inputs = .ok baseline ∧
      admitRepoCandidate services.mapping { request with harnessInputs := inputs } =
        .ok (.admitted candidate) ∧
      suitePhase services settings answers candidate inputs baseline {} = .ok suite state

theorem admitted_strict (mapping : CaseMapping) (candidate : AdmittedRepoCandidate)
    (admitted : admitRepoCandidate mapping request = .ok (.admitted candidate)) :
    candidate.strictHarness = request.strictHarness := by
  unfold admitRepoCandidate at admitted
  dsimp only at admitted
  split_ifs at admitted
  · cases admitted
  · split at admitted
    · cases admitted
    · cases admitted
    · split at admitted
      · cases admitted
      · cases admitted
      · cases admitted
        rfl

theorem admission_terminal_unpassed (mapping : CaseMapping) (normalized : List Text)
    (accepted : normalizeHarnessInputs mapping request.harnessInputs = .ok normalized)
    (result : VerdictResult CandidateArtifact)
    (refused : admitRepoCandidate mapping request = .ok (.terminal result)) :
    result.passed = false := by
  have gates := admission_gates_answer mapping request normalized accepted
  simp only [admitRepoCandidate] at refused
  split_ifs at refused
  · cases refused
    rfl
  · rcases (gates _ []).1 with passed | ⟨diagnostics, stopped⟩
    · rw [passed] at refused
      rcases (gates [] _).2 with kept | ⟨diagnostics, stopped⟩
      · rw [kept] at refused
        cases refused
      · rw [stopped] at refused
        cases refused
        rfl
    · rw [stopped] at refused
      cases refused
      rfl

theorem verify_repo_gated (verdict : RepoVerdict)
    (verified : verifyRepo services settings request answers = .ok verdict)
    (passed : verdict.passed = true) :
    ∃ candidate suite, JudgedSuite services settings request answers candidate suite ∧
      candidate.strictHarness = request.strictHarness ∧
      SuiteGated services settings answers candidate suite := by
  obtain ⟨inputs, ended, normal, ends, rfl⟩ :=
    verify_repo_cases services settings request answers verdict verified
  cases ends with
  | unbound problem captured => cases passed
  | refused baseline result captured admitted =>
    obtain ⟨again, accepted, _⟩ := normalize_harness_inputs_again _ _ _ normal
    have closed := admission_terminal_unpassed { request with harnessInputs := inputs }
      services.mapping again accepted result admitted
    have same : (concluded settings answers ({}, admissionVerdict result)).passed =
        result.passed := rfl
    rw [same, closed] at passed
    cases passed
  | ran baseline candidate captured admitted =>
    obtain ⟨suite, state, ran, gated⟩ := repo_run_gated services settings answers candidate
      inputs baseline {} passed
    refine ⟨candidate, suite, ⟨inputs, baseline, state, normal, captured, admitted, ran⟩, ?_,
      gated⟩
    exact admitted_strict { request with harnessInputs := inputs } _ _ admitted

end Verification

end EvoomGuard.Verifiers
