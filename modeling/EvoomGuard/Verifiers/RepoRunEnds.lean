import EvoomGuard.Verifiers.RepoVerifier
import Mathlib.Tactic.NormNum

/-!
How a repository run ends: every return of `RepoVerifier.verify` carries an outcome in one of
the execution states in which that outcome is reached, or the verdict of completed phases.
-/

namespace EvoomGuard.Verifiers

open Lib Lib.Phase Domain Domain.Harness

def isTamperOutcome (outcome : Outcome) : Bool :=
  outcome == .candidateTreeChanged || outcome == .packSnapshotChanged ||
    outcome == .assertionLivenessFailed

/-- What the caller declared: harness inputs, and a verifier pack or its digest. -/
structure Declared where
  harness : Bool
  pack : Bool

/-- The execution states in which a phase returns the outcome. The failed canary and the
outcomes of completed phases are not among them. -/
def endStates (declared : Declared) : Outcome → List ExecutionState
  | .packIdentityMismatch | .packInvalid => if declared.pack then [.notStarted] else []
  | .isolationUnavailable | .assertLivenessUnavailable | .structuredVerdictUnavailable
  | .runtimeIdentityUnavailable | .setupFailed | .testCommandUnavailable =>
    [.notStarted, .startedIncomplete]
  | .setupTimeout | .setupOutputLimit | .testTimeout | .testOutputLimit
  | .runtimeContainmentError => [.startedIncomplete]
  | .candidateTreeChanged =>
    if declared.harness then [.notStarted, .startedIncomplete, .completed]
    else [.startedIncomplete, .completed]
  | .packSnapshotChanged => [.startedIncomplete, .completed]
  | .assertionLivenessFailed | .packNoTests | .packNoVerdict | .noTestVerdict => []

/-- A result that an outcome ended: it never passes and names no verdict source. -/
structure EndsWith (outcome : Outcome) (verdict : RepoVerdict) : Prop where
  ended : verdict.artifact.outcome = some outcome
  tamper : verdict.artifact.tamper = if isTamperOutcome outcome then some true else none
  failed : verdict.passed = false
  unsourced : verdict.artifact.verdictSource = none

/-- A result whose candidate was never executed. -/
structure Unapplied (verdict : RepoVerdict) : Prop where
  failed : verdict.passed = false
  score : verdict.score ≤ 8 / 100
  outcome : verdict.artifact.outcome = none
  untampered : verdict.artifact.tamper = none
  uncounted : verdict.artifact.testsTotal = none
  unsourced : verdict.artifact.verdictSource = none

inductive RunEnd (declared : Declared) (trace : ExecutionPhaseResult) (verdict : RepoVerdict) : Prop
  | unapplied (unstarted : trace.executionState = .notStarted) (ends : Unapplied verdict)
  | refused (outcome : Outcome) (ends : EndsWith outcome verdict)
      (reached : trace.executionState ∈ endStates declared outcome)
  | completed (distill : Text → Text) (context : CompletedContext) (repo : CompletedRunEvidence)
      (pack : Option CompletedRunEvidence) (strictHarness : Bool)
      (finished : trace.executionState = .completed) (packed : pack.isSome = true → declared.pack = true)
      (alone : pack = none → trace.testCommandStarted = true ∧ trace.executionPhase = .repoSuite)
      (judged : verdict = completedVerdict distill context (evaluateRepoPhase repo strictHarness)
        (pack.map evaluatePackPhase))

def EndsRun (declared : Declared) (state : RepoRunState) (verdict : RepoVerdict) : Prop :=
  RunEnd declared state.trace verdict

def RepoSettings.declares (settings : RepoSettings) (inputs : List Text) : Declared where
  harness := !inputs.isEmpty
  pack := settings.packConfigured || !settings.expectedPackSha256.isEmpty

/-- No judged command has run to its end yet. -/
def Unfinished (state : RepoRunState) : Prop :=
  state.trace.executionState = .notStarted ∨ state.trace.executionState = .startedIncomplete

theorem unfinished_live (state : RepoRunState) (unfinished : Unfinished state) :
    state.trace.executionState ≠ .staticGate := by
  rcases unfinished with observed | observed <;> simp [observed]

section Ends

variable (services : RepoServices) (settings : RepoSettings) (answers : RepoAnswers)
  (candidate : AdmittedRepoCandidate) (inputs : List Text) (baseline : List (Text × EntryState))

theorem harness_refusal_ends (bound : inputs = [] → baseline = []) (declared : Declared)
    (harness : declared.harness = !inputs.isEmpty) (unproven changed : Text)
    (setupIsolation : Option Boundary) (checkpoint : HarnessCheckpoint) (state : RepoRunState)
    (unchecked : state.trace.executionState ≠ .staticGate) (verdict : RepoVerdict)
    (refused : (verifyHarnessCheckpoint services.quoted baseline inputs unproven changed
      checkpoint).map (harnessVerdict candidate.filesChanged setupIsolation) = some verdict) :
    EndsRun declared state verdict := by
  cases inputs with
  | nil =>
    rw [bound rfl, checkpoint_without_inputs] at refused
    cases refused
  | cons path rest =>
    rcases Option.map_eq_some_iff.mp refused with ⟨failure, _, built⟩
    subst built
    apply RunEnd.refused .candidateTreeChanged ⟨rfl, rfl, rfl, rfl⟩
    cases observed : state.trace.executionState with
    | staticGate => exact absurd observed unchecked
    | notStarted | startedIncomplete | completed => simp [endStates, harness]

theorem intake_ends (state : RepoRunState) (verdict : RepoVerdict)
    (unstarted : state.trace.executionState = .notStarted)
    (refused : (packIntake services settings answers candidate).2 = some verdict) :
    EndsRun (settings.declares inputs) state verdict := by
  simp only [packIntake, intakeRepoPack] at refused
  split_ifs at refused with unconfigured unexpected reserved
  · cases refused
    exact RunEnd.refused .packIdentityMismatch ⟨rfl, rfl, rfl, rfl⟩
      (by simp [endStates, RepoSettings.declares, unexpected, unstarted])
  · cases refused
    exact RunEnd.unapplied unstarted ⟨rfl, by norm_num [packRejection], rfl, rfl, rfl, rfl⟩
  · have configured : settings.packConfigured = true := by
      simp [RepoSettings.packConfigured, unconfigured]
    split at refused
    · cases refused
      exact RunEnd.refused .packInvalid ⟨rfl, rfl, rfl, rfl⟩
        (by simp [endStates, RepoSettings.declares, configured, unstarted])
    · split_ifs at refused
      cases refused
      exact RunEnd.refused .packIdentityMismatch ⟨rfl, rfl, rfl, rfl⟩
        (by simp [endStates, RepoSettings.declares, configured, unstarted])

theorem image_ends (declared : Declared) (state : RepoRunState) (verdict : RepoVerdict)
    (unstarted : state.trace.executionState = .notStarted)
    (refused : resolveImage settings answers candidate = .error verdict) :
    EndsRun declared state verdict := by
  unfold resolveImage at refused
  split_ifs at refused
  · cases refused
    exact RunEnd.refused .isolationUnavailable ⟨rfl, rfl, rfl, rfl⟩ (by simp [endStates, unstarted])
  · split at refused
    · cases refused
    · cases refused
      exact RunEnd.refused .isolationUnavailable ⟨rfl, rfl, rfl, rfl⟩ (by simp [endStates, unstarted])

theorem unapplied_ends (declared : Declared) (state : RepoRunState)
    (unstarted : state.trace.executionState = .notStarted) (score : Rat) (low : score ≤ 8 / 100)
    (diagnostics : Text) (filesChanged : List Text) :
    EndsRun declared state
      (unappliedVerdict score diagnostics { filesChanged := filesChanged }) :=
  RunEnd.unapplied unstarted ⟨rfl, low, rfl, rfl, rfl, rfl⟩

theorem prepare_ends (bound : inputs = [] → baseline = []) (state : RepoRunState)
    (unstarted : state.trace.executionState = .notStarted) :
    Ends (prepareCandidate services settings answers candidate inputs baseline) state
      (EndsRun (settings.declares inputs))
      (fun after _ => after.trace.executionState = .notStarted) := by
  unfold prepareCandidate
  apply ends_refuse_bind
  · intro verdict refused
    rcases Option.map_eq_some_iff.mp refused with ⟨problem, _, built⟩
    subst built
    exact unapplied_ends _ state unstarted _ (le_refl _) _ _
  intro _
  apply ends_modify_bind
  apply ends_refuse_bind
  · intro verdict refused
    exact intake_ends services settings answers candidate inputs _ verdict unstarted refused
  intro _
  apply ends_refuse_bind
  · intro verdict refused
    rcases Option.map_eq_some_iff.mp refused with ⟨problem, _, built⟩
    subst built
    exact unapplied_ends _ _ unstarted _ (by norm_num) _ _
  intro _
  apply ends_refuse_bind
  · intro verdict refused
    exact harness_refusal_ends services candidate inputs baseline bound _ rfl _ _ _ _ _
      (by simp [unstarted]) verdict refused
  intro _
  apply ends_bind _ _ _ _ (fun after _ => after.trace.executionState = .notStarted)
  · apply ends_of_pair
    · intro verdict refused
      exact image_ends settings answers candidate _ _ verdict unstarted refused
    · intro _ _
      exact unstarted
  · intro _ _ kept
    exact ends_pure _ _ _ _ kept

/-- The outcome words of a phase are its own. -/
structure KnownWords (words : PhaseWords) : Prop where
  timeout : words.onTimeout = .testTimeout ∨ words.onTimeout = .setupTimeout
  outputLimit : words.onOutputLimit = .testOutputLimit ∨ words.onOutputLimit = .setupOutputLimit
  missing : words.onMissing = .testCommandUnavailable ∨ words.onMissing = .setupFailed

theorem launch_ends (judge : JudgeSettings) (words : PhaseWords) (known : KnownWords words)
    (inContainer : Bool) (host : Boundary) (process : ProcessOutcome) (failure : LaunchFailure)
    (failed : launchFailure services.distill judge words inContainer host process = some failure)
    (declared : Declared) (before : ExecutionState)
    (unfinished : before = .notStarted ∨ before = .startedIncomplete) :
    isTamperOutcome failure.outcome = false ∧
      (if failure.started then .startedIncomplete else before) ∈
        endStates declared failure.outcome := by
  rcases launch_failure_outcome services.distill judge words inContainer host process failure
    failed with ⟨started, outcome⟩ | ⟨unstarted, outcome⟩
  · rw [if_pos started]
    rcases outcome with timeout | limit | containment
    · rcases known.timeout with named | named
      · simp [timeout, named, isTamperOutcome, endStates]
      · simp [timeout, named, isTamperOutcome, endStates]
    · rcases known.outputLimit with named | named
      · simp [limit, named, isTamperOutcome, endStates]
      · simp [limit, named, isTamperOutcome, endStates]
    · simp [containment, isTamperOutcome, endStates]
  · rw [unstarted]
    rcases outcome with unavailable | missing
    · simp [unavailable, isTamperOutcome, endStates, unfinished]
    · rcases known.missing with named | named
      · simp [missing, named, isTamperOutcome, endStates, unfinished]
      · simp [missing, named, isTamperOutcome, endStates, unfinished]

theorem suite_words_known (command : Text) : KnownWords (suiteWords services.quoted command) :=
  ⟨Or.inl rfl, Or.inl rfl, Or.inl rfl⟩

theorem pack_words_known : KnownWords packWords := ⟨Or.inl rfl, Or.inl rfl, Or.inl rfl⟩

theorem setup_words_known (command : Text) : KnownWords (setupWords services.quoted command) :=
  ⟨Or.inr rfl, Or.inr rfl, Or.inr rfl⟩

section Suite

variable (judge : JudgeSettings) (command : Text) (packConfigured : Bool)
  (setupIsolation : Option Boundary) (runtime : RuntimeIdentityEvidence) (process : ProcessOutcome)
  (trace : ExecutionPhaseResult)

theorem suite_failure_ends (declared : Declared)
    (unfinished : trace.executionState = .notStarted ∨ trace.executionState = .startedIncomplete)
    (verdict : RepoVerdict)
    (failed : (executeRepoSuite services.distill services.quoted judge candidate.filesChanged
      command packConfigured setupIsolation runtime process trace).2 = .error verdict) :
    RunEnd declared (executeRepoSuite services.distill services.quoted judge
      candidate.filesChanged command packConfigured setupIsolation runtime process
      trace).1 verdict := by
  unfold executeRepoSuite at failed ⊢
  cases launched : launchFailure services.distill judge (suiteWords services.quoted command)
      judge.containerMode .subprocess process with
  | none =>
    simp only [launched] at failed
    cases failed
  | some failure =>
    have ends := launch_ends services judge _ (suite_words_known services command) _ _ _ _
      launched declared trace.executionState unfinished
    simp only [launched] at failed ⊢
    cases failed
    apply RunEnd.refused failure.outcome
    · exact ⟨rfl, by rw [ends.1]; rfl, rfl, rfl⟩
    · have recorded := ends.2
      split_ifs at recorded ⊢ <;> exact recorded

theorem suite_completed_state (completed : CompletedCommand)
    (finished : (executeRepoSuite services.distill services.quoted judge candidate.filesChanged
      command packConfigured setupIsolation runtime process trace).2 = .ok completed) :
    (executeRepoSuite services.distill services.quoted judge candidate.filesChanged command
        packConfigured setupIsolation runtime process trace).1.executionState =
        (if packConfigured then .startedIncomplete else .completed) ∧
      (executeRepoSuite services.distill services.quoted judge candidate.filesChanged command
        packConfigured setupIsolation runtime process trace).1.testCommandStarted = true := by
  unfold executeRepoSuite at finished ⊢
  cases launched : launchFailure services.distill judge (suiteWords services.quoted command)
      judge.containerMode .subprocess process with
  | none => exact ⟨rfl, rfl⟩
  | some failure =>
    simp only [launched] at finished
    cases finished

theorem suite_never_static (live : trace.executionState ≠ .staticGate) :
    (executeRepoSuite services.distill services.quoted judge candidate.filesChanged command
      packConfigured setupIsolation runtime process trace).1.executionState ≠ .staticGate := by
  unfold executeRepoSuite
  dsimp only
  split
  · split_ifs
    · simp
    · exact live
  · cases packConfigured <;> simp [suiteCompletedTrace]

end Suite

variable (judge : JudgeSettings)

section

variable (setupIsolation : Option Boundary) (runtime : RuntimeIdentityEvidence)
  (suiteObserved : IsolationObservation) (process : ProcessOutcome) (trace : ExecutionPhaseResult)

theorem pack_failure_ends (declared : Declared)
    (unfinished : trace.executionState = .startedIncomplete) (verdict : RepoVerdict)
    (failed : (executeRepoPack services.distill judge candidate.filesChanged setupIsolation runtime
      suiteObserved process trace).2 = .error verdict) :
    RunEnd declared (executeRepoPack services.distill judge candidate.filesChanged
      setupIsolation runtime suiteObserved process trace).1 verdict := by
  unfold executeRepoPack at failed ⊢
  cases launched : launchFailure services.distill judge packWords judge.containerMode .subprocess
      process with
  | none =>
    simp only [launched] at failed
    cases failed
  | some failure =>
    have ends := launch_ends services judge _ pack_words_known _ _ _ _ launched declared
      trace.executionState (Or.inr unfinished)
    simp only [launched] at failed ⊢
    cases failed
    apply RunEnd.refused failure.outcome
    · exact ⟨rfl, by rw [ends.1]; rfl, rfl, rfl⟩
    · have recorded := ends.2
      split_ifs at recorded ⊢ <;> exact recorded

theorem pack_completed_state (completed : CompletedCommand)
    (finished : (executeRepoPack services.distill judge candidate.filesChanged setupIsolation
      runtime suiteObserved process trace).2 = .ok completed) :
    (executeRepoPack services.distill judge candidate.filesChanged setupIsolation runtime
      suiteObserved process trace).1.executionState = .completed := by
  unfold executeRepoPack at finished ⊢
  cases launched : launchFailure services.distill judge packWords judge.containerMode .subprocess
      process with
  | none => rfl
  | some failure =>
    simp only [launched] at finished
    cases finished

end

theorem setup_launch_ends (command : Text) (inContainer : Bool)
    (host : Boundary) (process : ProcessOutcome) (failure : LaunchFailure)
    (trace : ExecutionPhaseResult) (declared : Declared)
    (launched : launchFailure services.distill judge (setupWords services.quoted command)
      inContainer host process = some failure)
    (unfinished : trace.executionState = .notStarted ∨ trace.executionState = .startedIncomplete)
    (verdict : RepoVerdict)
    (failed : (setupLaunchFailed judge candidate.filesChanged failure trace).2 = .error verdict) :
    RunEnd declared
      (setupLaunchFailed judge candidate.filesChanged failure trace).1 verdict := by
  have ends := launch_ends services judge _ (setup_words_known services command) _ _ _ _ launched
    declared trace.executionState unfinished
  cases failed
  apply RunEnd.refused failure.outcome
  · exact ⟨rfl, by rw [ends.1]; rfl, rfl, rfl⟩
  · have recorded := ends.2
    simp only [setupLaunchFailed]
    split_ifs at recorded ⊢ <;> exact recorded

theorem setup_refusal_outcome (inContainer : Bool) (boundary : Boundary)
    (command : CompletedCommand) (after : Except Text (List Text)) (verdict : RepoVerdict)
    (refused : setupRefusal services.distill candidate.filesChanged inContainer boundary command
      after = some verdict) :
    EndsWith .setupFailed verdict := by
  unfold setupRefusal at refused
  split_ifs at refused
  · cases refused
    exact ⟨rfl, rfl, rfl, rfl⟩
  · split at refused
    · cases refused
      exact ⟨rfl, rfl, rfl, rfl⟩
    · cases refused
    · cases refused
      exact ⟨rfl, rfl, rfl, rfl⟩

theorem setup_command_ends (command : Text) (trusted : Bool)
    (setup : SetupAnswers) (trace : ExecutionPhaseResult) (declared : Declared)
    (unfinished : trace.executionState = .notStarted ∨ trace.executionState = .startedIncomplete) :
    (∀ verdict, (executeRepoSetup services.distill services.quoted judge candidate.filesChanged
        command trusted setup trace).2 = .error verdict →
      RunEnd declared (executeRepoSetup services.distill services.quoted judge
        candidate.filesChanged command trusted setup trace).1 verdict) ∧
      ∀ boundary, (executeRepoSetup services.distill services.quoted judge candidate.filesChanged
          command trusted setup trace).2 = .ok boundary →
        (executeRepoSetup services.distill services.quoted judge candidate.filesChanged command
          trusted setup trace).1.executionState = .startedIncomplete := by
  unfold executeRepoSetup
  dsimp only
  split
  · rename_i failure missing
    have launched := (Option.ite_none_left_eq_some.mp missing).2
    constructor
    · intro verdict failed
      exact setup_launch_ends services candidate judge command _ _ _ failure
        { trace with executionPhase := .setup } declared launched unfinished verdict failed
    · intro boundary finished
      cases finished
  · split
    · constructor
      · intro verdict failed
        cases failed
        exact RunEnd.refused .setupFailed ⟨rfl, rfl, rfl, rfl⟩ (by simp [endStates, unfinished])
      · intro boundary finished
        cases finished
    · split
      · rename_i failure launched
        constructor
        · intro verdict failed
          exact setup_launch_ends services candidate judge command _ _ _ failure
            { trace with executionPhase := .setup } declared launched unfinished verdict
            failed
        · intro boundary finished
          cases finished
      · split
        · rename_i refusal refused
          have outcome := setup_refusal_outcome services candidate _ _ _ _ refusal refused
          constructor
          · intro verdict failed
            cases failed
            exact RunEnd.refused .setupFailed outcome (by simp [endStates])
          · intro boundary finished
            cases finished
        · constructor
          · intro verdict failed
            cases failed
          · intro boundary _
            rfl

theorem tracing_ends {Value : Type}
    (run : ExecutionPhaseResult → ExecutionPhaseResult × Except RepoVerdict Value)
    (state : RepoRunState) (declared : Declared) (returns : RepoRunState → Value → Prop)
    (refused : ∀ verdict, (run state.trace).2 = .error verdict →
      RunEnd declared (run state.trace).1 verdict)
    (returned : ∀ value, (run state.trace).2 = .ok value →
      returns { state with trace := (run state.trace).1 } value) :
    Ends (tracing run) state (EndsRun declared) returns :=
  ends_of_pair _ _ _ _ refused returned

theorem setup_ends (state : RepoRunState) (declared : Declared)
    (unstarted : state.trace.executionState = .notStarted) :
    Ends (setupPhase services settings answers candidate judge) state (EndsRun declared)
      (fun after _ => Unfinished after) := by
  unfold setupPhase
  cases settings.setupCommand with
  | none => exact ends_pure _ _ _ _ (Or.inl unstarted)
  | some command =>
    have ends := setup_command_ends services candidate judge (command.headD [])
      settings.trustSetupOnHost answers.setup state.trace declared (Or.inl unstarted)
    apply ends_bind _ _ _ _ (fun after _ => Unfinished after)
    · apply tracing_ends
      · exact ends.1
      · intro boundary finished
        exact Or.inr (ends.2 boundary finished)
    · intro boundary after unfinished
      exact ends_pure _ _ _ _ unfinished

theorem unfinished_ends (declared : Declared) (state : RepoRunState)
    (unfinished : Unfinished state) (outcome : Outcome)
    (preparatory : outcome = .assertLivenessUnavailable ∨
      outcome = .structuredVerdictUnavailable ∨ outcome = .runtimeIdentityUnavailable)
    (diagnostics : Text) (artifact : RepoArtifact) (ended : artifact.outcome = some outcome)
    (untampered : artifact.tamper = none) (unsourced : artifact.verdictSource = none) :
    EndsRun declared state (terminalVerdict diagnostics artifact) := by
  apply RunEnd.refused outcome
  · have plain : isTamperOutcome outcome = false := by
      rcases preparatory with named | named | named <;> rw [named] <;> rfl
    exact ⟨ended, by rw [plain]; exact untampered, rfl, unsourced⟩
  · rcases preparatory with named | named | named <;> rw [named] <;>
      simpa [endStates, Unfinished] using unfinished

variable (setupIsolation : Option Boundary)

theorem requirements_ends (state : RepoRunState)
    (declared : Declared) (unfinished : Unfinished state) (verdict : RepoVerdict)
    (refused : requirementsRefusal services settings candidate setupIsolation = some verdict) :
    EndsRun declared state verdict := by
  simp only [requirementsRefusal] at refused
  split_ifs at refused
  · cases refused
    exact unfinished_ends _ state unfinished _ (Or.inr (Or.inl rfl)) _ _ rfl rfl rfl
  · cases refused
    exact unfinished_ends _ state unfinished _ (Or.inl rfl) _ _ rfl rfl rfl

theorem capture_ends (state : RepoRunState)
    (declared : Declared) (unfinished : Unfinished state) :
    Ends (captureRuntime settings answers candidate setupIsolation) state
      (EndsRun declared) (fun after _ => Unfinished after) := by
  unfold captureRuntime
  split_ifs
  · apply ends_modify_bind
    cases answers.runtimeBaseline with
    | ok identity => exact ends_pure _ _ _ _ unfinished
    | error problem =>
      apply ends_throw
      apply unfinished_ends _ _ _ _ (Or.inr (Or.inr rfl)) _ _ rfl rfl rfl
      exact unfinished
  · exact ends_pure _ _ _ _ unfinished

def SuiteCompleted (state : RepoRunState) : Prop :=
  state.trace.executionState =
      (if settings.packConfigured then .startedIncomplete else .completed) ∧
    state.trace.testCommandStarted = true

theorem suite_completed_started (state : RepoRunState) (finished : SuiteCompleted settings state) :
    state.trace.executionState = .startedIncomplete ∨ state.trace.executionState = .completed := by
  have left := finished.1
  split_ifs at left
  · exact Or.inl left
  · exact Or.inr left

theorem runtime_drift_ends (runtime : RuntimeIdentityEvidence)
    (failure : RuntimeFailure) (state : RepoRunState) (declared : Declared)
    (started : state.trace.executionState = .startedIncomplete ∨
      state.trace.executionState = .completed) :
    EndsRun declared state
      (runtimeVerdict candidate.filesChanged setupIsolation runtime failure) := by
  apply RunEnd.refused .candidateTreeChanged ⟨rfl, rfl, rfl, rfl⟩
  rcases started with incomplete | completed
  · rw [incomplete]
    cases harness : declared.harness <;> simp [endStates, harness]
  · rw [completed]
    cases harness : declared.harness <;> simp [endStates, harness]

theorem after_suite_ends (captured : Option RuntimeIdentity)
    (state : RepoRunState) (declared : Declared) (finished : SuiteCompleted settings state) :
    Ends (afterSuite settings answers candidate setupIsolation captured) state
      (EndsRun declared) (fun after _ => SuiteCompleted settings after) := by
  unfold afterSuite
  cases captured with
  | none => exact ends_pure _ _ _ _ finished
  | some identity =>
    apply ends_modify_bind
    apply ends_refuse
    · intro verdict refused
      rcases Option.map_eq_some_iff.mp refused with ⟨failure, _, built⟩
      subst built
      exact runtime_drift_ends candidate _ _ _ _ _ (suite_completed_started settings _ finished)
    · intro _
      exact finished

theorem suite_phase_ends (bound : inputs = [] → baseline = []) (state : RepoRunState)
    (unstarted : state.trace.executionState = .notStarted) :
    Ends (suitePhase services settings answers candidate inputs baseline) state
      (EndsRun (settings.declares inputs)) (fun after _ => SuiteCompleted settings after) := by
  unfold suitePhase
  apply ends_bind _ _ _ _ (fun after _ => after.trace.executionState = .notStarted)
  · exact prepare_ends services settings answers candidate inputs baseline bound state unstarted
  intro judge prepared unstarted
  apply ends_bind _ _ _ _ (fun after _ => Unfinished after)
  · exact setup_ends services settings answers candidate judge prepared _ unstarted
  intro setupIsolation ready unfinished
  apply ends_refuse_bind
  · intro verdict refused
    exact harness_refusal_ends services candidate inputs baseline bound _ rfl _ _ _ _ ready
      (unfinished_live ready unfinished) verdict refused
  intro _
  apply ends_refuse_bind
  · intro verdict refused
    exact requirements_ends services settings candidate setupIsolation ready _ unfinished verdict
      refused
  intro _
  apply ends_bind _ _ _ _ (fun after _ => Unfinished after)
  · exact capture_ends settings answers candidate setupIsolation ready _ unfinished
  intro captured launched unfinished
  apply ends_modify_get_bind
  have failure := suite_failure_ends services candidate judge (settings.command.headD [])
    settings.packConfigured setupIsolation (runtimeWith captured .incomplete)
    answers.suite.process launched.trace (settings.declares inputs) unfinished
  have completed := suite_completed_state services candidate judge (settings.command.headD [])
    settings.packConfigured setupIsolation (runtimeWith captured .incomplete)
    answers.suite.process launched.trace
  -- The checkpoint reads the trace of the suite, whether it completed or not.
  apply ends_refuse_bind
  · intro verdict refused
    exact harness_refusal_ends services candidate inputs baseline bound _ rfl _ _ _ _ _
      (suite_never_static services candidate judge _ _ _ _ _ _
        (unfinished_live launched unfinished)) verdict refused
  intro _
  apply ends_bind _ _ _ _ (fun after _ => SuiteCompleted settings after)
  · apply ends_of_pair
    · exact failure
    · exact completed
  intro command finished stateCompleted
  apply ends_bind _ _ _ _ (fun after _ => SuiteCompleted settings after)
  · exact after_suite_ends settings answers candidate setupIsolation captured finished _
      stateCompleted
  · intro _ after done
    exact ends_pure _ _ _ _ done

/-- The end that the assertion-liveness canary of a completed suite gives. -/
structure CanaryEnd (state : RepoRunState) (verdict : RepoVerdict) : Prop where
  ends : EndsWith .assertionLivenessFailed verdict
  reached : SuiteCompleted settings state

variable (suite : CompletedSuite)

theorem pack_snapshot_ends (text : Text) (problem : Option Text)
    (state : RepoRunState) (declared : Declared)
    (started : state.trace.executionState = .startedIncomplete ∨
      state.trace.executionState = .completed) (verdict : RepoVerdict)
    (refused : (problem.map fun problem =>
      tamperedVerdict (text ++ ": " ++ problem) .packSnapshotChanged
        { filesChanged := candidate.filesChanged
          setupIsolation := suite.setupIsolation
          runtime := runtimeWith suite.captured .incomplete }) = some verdict) :
    EndsRun declared state verdict := by
  rcases Option.map_eq_some_iff.mp refused with ⟨found, _, built⟩
  subst built
  apply RunEnd.refused .packSnapshotChanged ⟨rfl, rfl, rfl, rfl⟩
  rcases started with incomplete | completed
  · simp [endStates, incomplete]
  · simp [endStates, completed]

theorem pack_phase_ends (state : RepoRunState) (declared : Declared)
    (started : state.trace.executionState = .startedIncomplete) :
    Ends (packPhase services answers candidate suite) state (EndsRun declared)
      (fun after _ => after.trace.executionState = .completed) := by
  unfold packPhase
  apply ends_modify_bind
  apply ends_refuse_bind
  · exact pack_snapshot_ends candidate suite _ _ _ _ (Or.inl started)
  intro _
  apply ends_bind _ _ _ _ (fun after _ => after.trace.executionState = .completed)
  · apply tracing_ends
    · exact pack_failure_ends services candidate suite.judge _ _ _ _ _ _ started
    · exact pack_completed_state services candidate suite.judge _ _ _ _ _
  intro command finished completed
  apply ends_modify_bind
  apply ends_refuse_bind
  · exact pack_snapshot_ends candidate suite _ _ _ _ (Or.inr completed)
  intro _
  apply ends_refuse_bind
  · intro verdict refused
    rcases Option.map_eq_some_iff.mp refused with ⟨failure, _, built⟩
    subst built
    exact runtime_drift_ends candidate _ _ _ _ _ (Or.inr completed)
  intro _
  apply ends_modify_bind
  exact ends_pure _ _ _ _ completed

theorem judge_phases_ends (state : RepoRunState) (declared : Declared)
    (packs : settings.packConfigured = true → declared.pack = true)
    (finished : SuiteCompleted settings state)
    (live : canaryFailed services settings answers = false) :
    Ends (judgePhases services settings answers candidate suite) state (EndsRun declared)
      (EndsRun declared) := by
  unfold judgePhases
  apply ends_refuse_bind
  · intro verdict refused
    simp [live] at refused
  intro _
  split_ifs with packConfigured
  · rw [SuiteCompleted, if_pos packConfigured] at finished
    apply ends_modify_bind
    apply ends_bind _ _ _ _ (fun after _ => after.trace.executionState = .completed)
    · exact pack_phase_ends services answers candidate suite _ _ finished.1
    · intro pack after completed
      apply ends_pure
      exact RunEnd.completed services.distill _ _ (some (packEvidence services.parseXml pack)) _
        completed (fun _ => packs packConfigured) (by intro none; cases none) rfl
  · rw [SuiteCompleted, if_neg packConfigured] at finished
    apply ends_modify_bind
    apply ends_pure
    exact RunEnd.completed services.distill _ _ none _ finished.1 (by intro some; cases some)
      (fun _ => ⟨finished.2, rfl⟩) rfl

theorem canary_ends (state : RepoRunState)
    (finished : SuiteCompleted settings state)
    (neutered : canaryFailed services settings answers = true) :
    CanaryEnd settings
      (finish (judgePhases services settings answers candidate suite) state).1
      (finish (judgePhases services settings answers candidate suite) state).2 := by
  apply finish_of_ends _ _ (CanaryEnd settings)
  unfold judgePhases
  apply ends_refuse_bind
  · intro verdict refused
    rw [if_pos neutered, Option.some.injEq] at refused
    subst refused
    exact ⟨⟨rfl, rfl, rfl, rfl⟩, finished⟩
  · intro passed
    simp [neutered] at passed

/-- The suite of an admitted candidate runs to its end, with every check before the canary
passed. -/
def SuiteCompletes : Prop :=
  ∃ suite state, suitePhase services settings answers candidate inputs baseline {} =
    .ok suite state

theorem repo_run_cases (bound : inputs = [] → baseline = []) :
    let ended := finish (repoRun services settings answers candidate inputs baseline) {}
    (SuiteCompletes services settings answers candidate inputs baseline ∧
        canaryFailed services settings answers = true ∧ CanaryEnd settings ended.1 ended.2) ∨
      (¬ (SuiteCompletes services settings answers candidate inputs baseline ∧
          canaryFailed services settings answers = true) ∧
        EndsRun (settings.declares inputs) ended.1 ended.2) := by
  intro ended
  have reached := suite_phase_ends services settings answers candidate inputs baseline bound {} rfl
  unfold Ends at reached
  cases ran : suitePhase services settings answers candidate inputs baseline {} with
  | error verdict state =>
    rw [ran] at reached
    have left : ended = (state, verdict) := by
      simp only [ended, finish, repoRun, bind, EStateM.bind, ran]
    apply Or.inr
    constructor
    · intro completed
      rcases completed.1 with ⟨suite, after, finished⟩
      rw [ran] at finished
      cases finished
    · rw [left]
      exact reached
  | ok suite state =>
    rw [ran] at reached
    have left : ended = finish (judgePhases services settings answers candidate suite) state := by
      simp only [ended, finish, repoRun, bind, EStateM.bind, ran]
    rw [left]
    cases neutered : canaryFailed services settings answers with
    | true =>
      exact Or.inl ⟨⟨suite, state, ran⟩, rfl,
        canary_ends services settings answers candidate suite state reached neutered⟩
    | false =>
      apply Or.inr
      constructor
      · intro failed
        cases failed.2
      · exact finish_of_ends _ _ _
          (judge_phases_ends services settings answers candidate suite state _
            (fun configured => by simp [RepoSettings.declares, configured]) reached neutered)

end Ends

/-! The verification of one candidate -/

section

variable (services : RepoServices) (settings : RepoSettings)
  (request : RepoCandidateAdmissionRequest) (answers : RepoAnswers)

theorem admission_terminal_ends (normalized : List Text)
    (accepted : normalizeHarnessInputs services.mapping request.harnessInputs = .ok normalized)
    (result : VerdictResult CandidateArtifact)
    (refused : admitRepoCandidate services.mapping request = .ok (.terminal result))
    (declared : Declared) : EndsRun declared {} (admissionVerdict result) := by
  have rejected : ∀ diagnostics, EndsRun declared {}
      (admissionVerdict (gateRejection diagnostics)) := by
    intro diagnostics
    exact RunEnd.unapplied rfl
      ⟨rfl, by norm_num [admissionVerdict, gateRejection], rfl, rfl, rfl, rfl⟩
  have gates := admission_gates_answer services.mapping request normalized accepted
  simp only [admitRepoCandidate] at refused
  split_ifs at refused
  · cases refused
    exact RunEnd.unapplied rfl
      ⟨rfl, by norm_num [admissionVerdict, noParseableBlocks], rfl, rfl, rfl, rfl⟩
  · rcases (gates _ []).1 with passed | ⟨diagnostics, stopped⟩
    · rw [passed] at refused
      rcases (gates [] _).2 with kept | ⟨diagnostics, stopped⟩
      · rw [kept] at refused
        cases refused
      · rw [stopped] at refused
        cases refused
        exact rejected diagnostics
    · rw [stopped] at refused
      cases refused
      exact rejected diagnostics

/-- The canary of a required assertion-liveness check failed in a completed suite. -/
def CanaryBroken : Prop :=
  ∃ inputs baseline candidate,
    normalizeHarnessInputs services.mapping request.harnessInputs = .ok inputs ∧
      captureHarnessInputSnapshot services.quoted answers.trustedHarness inputs = .ok baseline ∧
      admitRepoCandidate services.mapping { request with harnessInputs := inputs } =
        .ok (.admitted candidate) ∧
      SuiteCompletes services settings answers candidate inputs baseline ∧
      canaryFailed services settings answers = true

theorem canary_broken_accepted {inputs : List Text}
    (normal : normalizeHarnessInputs services.mapping request.harnessInputs = .ok inputs)
    (broken : CanaryBroken services settings request answers) : ∃ baseline candidate,
    captureHarnessInputSnapshot services.quoted answers.trustedHarness inputs = .ok baseline ∧
      admitRepoCandidate services.mapping { request with harnessInputs := inputs } =
        .ok (.admitted candidate) ∧
      SuiteCompletes services settings answers candidate inputs baseline ∧
      canaryFailed services settings answers = true := by
  rcases broken with ⟨others, baseline, candidate, same, rest⟩
  rw [normal] at same
  cases same
  exact ⟨baseline, candidate, rest⟩

theorem declares_normalized (mapping : CaseMapping) {inputs : List Text}
    (normal : normalizeHarnessInputs mapping request.harnessInputs = .ok inputs) :
    settings.declares inputs = settings.declares request.harnessInputs := by
  have sorted := ((normalize_harness_inputs_ok _ _ _).mp normal).2.2.2
  have same : inputs.isEmpty = request.harnessInputs.isEmpty := by
    rw [sorted, Bool.eq_iff_iff, List.isEmpty_iff, List.isEmpty_iff, Text.sorted_eq_nil]
  rw [RepoSettings.declares, RepoSettings.declares, same]

/-- How a verification with these inputs ended. -/
inductive VerifyEnd (inputs : List Text) : RepoRunState × RepoVerdict → Prop
  | unbound (problem : Text)
      (captured : captureHarnessInputSnapshot services.quoted answers.trustedHarness inputs =
        .error problem) :
      VerifyEnd inputs ({}, harnessVerdict [] none ⟨boundTrusted ++ problem, inputs⟩)
  | refused (baseline : List (Text × EntryState)) (result : VerdictResult CandidateArtifact)
      (captured : captureHarnessInputSnapshot services.quoted answers.trustedHarness inputs =
        .ok baseline)
      (admitted : admitRepoCandidate services.mapping { request with harnessInputs := inputs } =
        .ok (.terminal result)) :
      VerifyEnd inputs ({}, admissionVerdict result)
  | ran (baseline : List (Text × EntryState)) (candidate : AdmittedRepoCandidate)
      (captured : captureHarnessInputSnapshot services.quoted answers.trustedHarness inputs =
        .ok baseline)
      (admitted : admitRepoCandidate services.mapping { request with harnessInputs := inputs } =
        .ok (.admitted candidate)) :
      VerifyEnd inputs (finish (repoRun services settings answers candidate inputs baseline) {})

theorem verify_repo_cases (verdict : RepoVerdict)
    (verified : verifyRepo services settings request answers = .ok verdict) :
    ∃ inputs ended, normalizeHarnessInputs services.mapping request.harnessInputs = .ok inputs ∧
      VerifyEnd services settings request answers inputs ended ∧
      verdict = concluded settings answers ended := by
  unfold verifyRepo at verified
  cases normal : normalizeHarnessInputs services.mapping request.harnessInputs with
  | error problem =>
    rw [normal] at verified
    cases verified
  | ok inputs =>
    rw [normal] at verified
    dsimp only at verified
    split_ifs at verified
    cases bound : captureHarnessInputSnapshot services.quoted answers.trustedHarness inputs with
    | error problem =>
      rw [bound] at verified
      cases verified
      exact ⟨inputs, _, rfl, .unbound problem bound, rfl⟩
    | ok baseline =>
      rw [bound] at verified
      dsimp only at verified
      cases admitted : admitRepoCandidate services.mapping
          { request with harnessInputs := inputs } with
      | error problem =>
        rw [admitted] at verified
        cases verified
      | ok admission =>
        rw [admitted] at verified
        cases admission with
        | terminal result =>
          cases verified
          exact ⟨inputs, _, rfl, .refused baseline result bound admitted, rfl⟩
        | admitted candidate =>
          cases verified
          exact ⟨inputs, _, rfl, .ran baseline candidate bound admitted, rfl⟩

/-- Every result of a verification is the failed canary or one of the known ends. -/
theorem verify_repo_ends (verdict : RepoVerdict)
    (verified : verifyRepo services settings request answers = .ok verdict) :
    ∃ ended, verdict = concluded settings answers ended ∧
      ((CanaryBroken services settings request answers ∧ CanaryEnd settings ended.1 ended.2) ∨
        (¬ CanaryBroken services settings request answers ∧
          EndsRun (settings.declares request.harnessInputs) ended.1 ended.2)) := by
  obtain ⟨inputs, ended, normal, ends, rfl⟩ :=
    verify_repo_cases services settings request answers verdict verified
  rw [← declares_normalized settings request services.mapping normal]
  refine ⟨ended, rfl, ?_⟩
  cases ends with
  | unbound problem captured =>
    refine Or.inr ⟨?_, ?_⟩
    · intro broken
      rcases canary_broken_accepted services settings request answers normal broken with
        ⟨_, _, same, _⟩
      rw [captured] at same
      cases same
    · cases inputs with
      | nil =>
        rw [capture_without_inputs] at captured
        cases captured
      | cons path rest =>
        exact RunEnd.refused .candidateTreeChanged ⟨rfl, rfl, rfl, rfl⟩
          (by simp [endStates, RepoSettings.declares])
  | refused baseline result captured admitted =>
    obtain ⟨again, accepted, _⟩ := normalize_harness_inputs_again _ _ _ normal
    refine Or.inr ⟨?_, admission_terminal_ends services { request with harnessInputs := inputs }
      again accepted result admitted _⟩
    intro broken
    rcases canary_broken_accepted services settings request answers normal broken with
      ⟨_, _, _, found, _⟩
    rw [admitted] at found
    cases found
  | ran baseline candidate captured admitted =>
    rcases repo_run_cases services settings answers candidate inputs baseline
      (captured_nothing services.quoted captured) with ⟨completes, neutered, ended⟩ | ⟨live, ended⟩
    · exact Or.inl ⟨⟨inputs, baseline, candidate, normal, captured, admitted, completes,
        neutered⟩, ended⟩
    · refine Or.inr ⟨?_, ended⟩
      intro broken
      rcases canary_broken_accepted services settings request answers normal broken with
        ⟨_, _, same, found, failed⟩
      rw [captured] at same
      cases same
      rw [admitted] at found
      cases found
      exact live failed

end

end EvoomGuard.Verifiers
