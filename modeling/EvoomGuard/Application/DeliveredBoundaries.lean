import EvoomGuard.Application.Assurance
import EvoomGuard.Verifiers.DockerClient
import EvoomGuard.Verifiers.RepoRunEnds

/-!
The boundary that a repository run will claim, against what every phase of the run that ran
delivered. The boundary of the setup phase is carried through the run beside the trace; the
invariant says that the two agree.
-/

namespace EvoomGuard.Application

open Lib Lib.Phase Domain Domain.Harness Verifiers

/-! Deliveries -/

/-- How strong a boundary is; whatever ran on the host ranks as a subprocess. -/
def boundaryRank : Boundary → Nat
  | .docker => 1
  | .gvisor => 2
  | .notRun | .unavailable | .subprocess | .hostOptIn => 0

def ranBoundaries (execution : ExecutionPhaseResult) : List Boundary :=
  ([execution.setupIsolationEvidence, execution.repoSuiteIsolationEvidence,
      execution.verifierPackIsolationEvidence].filterMap
    (Option.map IsolationObservation.delivered)).filter delivered

def claimedBoundary (execution : ExecutionPhaseResult) (setup : Option Boundary) : Boundary :=
  if execution.testCommandStarted then effectiveIsolation setup execution.deliveredIsolation
  else .notRun

def BoundaryHonest (execution : ExecutionPhaseResult) (setup : Option Boundary) : Prop :=
  ∀ boundary ∈ ranBoundaries execution,
    boundaryRank (claimedBoundary execution setup) ≤ boundaryRank boundary

/-- The execution states of a verification, which runs no test only before it completes. -/
structure Lifecycle (execution : ExecutionPhaseResult) : Prop where
  live : execution.executionState ≠ .staticGate
  finished : execution.executionState = .completed → execution.testCommandStarted = true

/-! The invariant of a run -/

/-- The setup boundary that the run carries is the one its trace observed. -/
structure SetupSeen (isolation : Isolation) (execution : ExecutionPhaseResult)
    (setup : Option Boundary) : Prop where
  observed : setup = execution.setupIsolationEvidence.map IsolationObservation.delivered
  known : ∀ boundary, setup = some boundary →
    boundary = isolation.boundary ∨ boundary = .hostOptIn ∧ isolation.container = true

structure Traced (isolation : Isolation) (execution : ExecutionPhaseResult)
    (setup : Option Boundary) : Prop where
  started : execution.testCommandStarted = true
  live : execution.executionState ≠ .staticGate
  setup : SetupSeen isolation execution setup
  suite : ∀ observation, execution.repoSuiteIsolationEvidence = some observation →
    observation.delivered = execution.deliveredIsolation
  bounded : boundaryRank execution.deliveredIsolation ≤ boundaryRank isolation.boundary
  pack : ∀ observation, execution.verifierPackIsolationEvidence = some observation →
    delivered observation.delivered = true → observation.delivered = isolation.boundary

theorem effective_rank_le (setup : Option Boundary) (isolation : Boundary) :
    boundaryRank (effectiveIsolation setup isolation) ≤ boundaryRank isolation := by
  unfold effectiveIsolation
  split
  · exact Nat.zero_le _
  · exact le_refl _

theorem mem_ran_boundaries (execution : ExecutionPhaseResult) (boundary : Boundary) :
    boundary ∈ ranBoundaries execution ↔ delivered boundary = true ∧
      (execution.setupIsolationEvidence.map IsolationObservation.delivered = some boundary ∨
        execution.repoSuiteIsolationEvidence.map IsolationObservation.delivered = some boundary ∨
        execution.verifierPackIsolationEvidence.map IsolationObservation.delivered =
          some boundary) := by
  rw [ranBoundaries, List.mem_filter, and_comm, List.mem_filterMap]
  simp only [List.mem_cons, List.not_mem_nil, or_false, exists_eq_or_imp, exists_eq_left]

theorem traced_honest {isolation : Isolation} {execution : ExecutionPhaseResult}
    {setup : Option Boundary} (traced : Traced isolation execution setup) :
    BoundaryHonest execution setup := by
  intro boundary ran
  have claimed : claimedBoundary execution setup =
      effectiveIsolation setup execution.deliveredIsolation := by
    rw [claimedBoundary, if_pos traced.started]
  rw [claimed]
  rcases (mem_ran_boundaries execution boundary).mp ran with ⟨live, setUp | suite | pack⟩
  · -- Setup on the host lowers the claim; behind the requested boundary it bounds the suite's.
    have carried := traced.setup.observed.trans setUp
    rcases traced.setup.known boundary carried with requested | ⟨host, _⟩
    · rw [requested]
      exact (effective_rank_le _ _).trans traced.bounded
    · rw [carried, host]
      exact le_refl _
  · rcases Option.map_eq_some_iff.mp suite with ⟨observation, seen, same⟩
    rw [← same, traced.suite observation seen]
    exact effective_rank_le _ _
  · rcases Option.map_eq_some_iff.mp pack with ⟨observation, seen, same⟩
    subst same
    rw [traced.pack observation seen live]
    exact (effective_rank_le _ _).trans traced.bounded

theorem untested_honest (execution : ExecutionPhaseResult) (setup : Option Boundary)
    (untested : execution.testCommandStarted = false) : BoundaryHonest execution setup := by
  intro boundary _
  rw [claimedBoundary, untested, if_neg Bool.false_ne_true]
  exact Nat.zero_le _

/-- A result that claims no more than was delivered, in a lifecycle that a record can show. -/
structure SoundEnd (state : RepoRunState) (verdict : RepoVerdict) : Prop where
  honest : BoundaryHonest state.trace verdict.artifact.setupIsolation
  lifecycle : Lifecycle state.trace

theorem traced_sound {isolation : Isolation} {setup : Option Boundary} {state : RepoRunState}
    (traced : Traced isolation state.trace setup) (verdict : RepoVerdict)
    (carried : verdict.artifact.setupIsolation = setup) : SoundEnd state verdict where
  honest := by
    rw [carried]
    exact traced_honest traced
  lifecycle := ⟨traced.live, fun _ => traced.started⟩

/-- No test command has started, and no pack was observed. -/
structure Untested (execution : ExecutionPhaseResult) : Prop where
  untested : execution.testCommandStarted = false
  unfinished : execution.executionState = .notStarted ∨
    execution.executionState = .startedIncomplete
  pack : execution.verifierPackIsolationEvidence = none

theorem untested_sound {state : RepoRunState} (untested : Untested state.trace)
    (verdict : RepoVerdict) : SoundEnd state verdict where
  honest := untested_honest _ _ untested.untested
  lifecycle := by
    constructor
    · rcases untested.unfinished with reached | reached <;> simp [reached]
    · intro finished
      rcases untested.unfinished with reached | reached <;> simp [reached] at finished

/-! Up to the launch of the suite -/

section

variable (services : RepoServices) (settings : RepoSettings) (answers : RepoAnswers)
  (candidate : AdmittedRepoCandidate) (inputs : List Text) (baseline : List (Text × EntryState))

/-- What the steps before the suite hand to it. -/
structure ReadySuite where
  judge : JudgeSettings
  setupIsolation : Option Boundary
  captured : Option RuntimeIdentity

/-- The steps of a run before its suite is launched. -/
def readySuite : RepoPhase ReadySuite := do
  let judge ← prepareCandidate services settings answers candidate inputs baseline
  let setupIsolation ← setupPhase services settings answers candidate judge
  harnessCheckpoint services candidate inputs baseline "before the repository suite"
    setupIsolation answers.harnessBeforeSuite
  Phase.refuse (requirementsRefusal services settings candidate setupIsolation)
  let captured ← captureRuntime settings answers candidate setupIsolation
  pure ⟨judge, setupIsolation, captured⟩

/-- The suite is launched, and the harness read again before its result counts. -/
def launchSuite (ready : ReadySuite) : RepoPhase CompletedSuite := do
  let ended ← modifyGet fun state =>
    let ran := executeRepoSuite services.distill services.quoted ready.judge candidate.filesChanged
      (settings.command.headD []) settings.packConfigured ready.setupIsolation
      (runtimeWith ready.captured .incomplete) answers.suite.process state.trace
    (ran.2, { state with trace := ran.1 })
  harnessCheckpoint services candidate inputs baseline "after the repository suite"
    ready.setupIsolation answers.harnessAfterSuite
  let command ← Phase.ofPair fun state => (state, ended)
  afterSuite settings answers candidate ready.setupIsolation ready.captured
  pure ⟨ready.judge, ready.setupIsolation, ready.captured, command⟩

theorem suite_phase_eq : suitePhase services settings answers candidate inputs baseline =
    readySuite services settings answers candidate inputs baseline >>=
      launchSuite services settings answers candidate inputs baseline := by
  simp only [suitePhase, readySuite, launchSuite, bind_assoc, pure_bind]

theorem prepare_keeps (state : RepoRunState) :
    Ends (prepareCandidate services settings answers candidate inputs baseline) state
      (fun after _ => after.trace = state.trace)
      (fun after judge => after.trace = state.trace ∧
        judge.isolation = settings.judge.isolation) := by
  unfold prepareCandidate
  apply ends_refuse_bind
  · intro _ _
    rfl
  intro _
  apply ends_modify_bind
  apply ends_refuse_bind
  · intro _ _
    rfl
  intro _
  apply ends_refuse_bind
  · intro _ _
    rfl
  intro _
  apply ends_refuse_bind
  · intro _ _
    rfl
  intro _
  apply ends_bind _ _ _ _ (fun after _ => after.trace = state.trace)
  · apply ends_of_pair
    · intro _ _
      rfl
    · intro _ _
      rfl
  · intro _ _ kept
    exact ends_pure _ _ _ _ ⟨kept, rfl⟩

theorem setup_boundary_known (isolation : Isolation) (trusted : Bool) :
    let boundary : Boundary := if (isolation.container && !trusted) = true then isolation.boundary
      else if isolation.container = true then .hostOptIn else .subprocess
    boundary = isolation.boundary ∨ boundary = .hostOptIn ∧ isolation.container = true := by
  cases isolation
  · exact Or.inl rfl
  · cases trusted
    · exact Or.inl rfl
    · exact Or.inr ⟨rfl, rfl⟩
  · cases trusted
    · exact Or.inl rfl
    · exact Or.inr ⟨rfl, rfl⟩

theorem setup_command_seen (judge : JudgeSettings) (command : Text) (trusted : Bool)
    (setup : SetupAnswers) (trace : ExecutionPhaseResult) (untested : Untested trace) :
    Untested (executeRepoSetup services.distill services.quoted judge candidate.filesChanged
        command trusted setup trace).1 ∧
      ∀ boundary, (executeRepoSetup services.distill services.quoted judge candidate.filesChanged
          command trusted setup trace).2 = .ok boundary →
        SetupSeen judge.isolation (executeRepoSetup services.distill services.quoted judge
          candidate.filesChanged command trusted setup trace).1 (some boundary) := by
  have launch (failure : LaunchFailure) : Untested (setupLaunchFailed judge candidate.filesChanged
      failure { trace with executionPhase := .setup }).1 := by
    unfold setupLaunchFailed
    dsimp only
    split
    · exact ⟨untested.untested, Or.inr rfl, untested.pack⟩
    · exact ⟨untested.untested, untested.unfinished, untested.pack⟩
  unfold executeRepoSetup
  dsimp only
  split
  · constructor
    · exact launch _
    · intro boundary finished
      cases finished
  · split
    · constructor
      · exact ⟨untested.untested, untested.unfinished, untested.pack⟩
      · intro boundary finished
        cases finished
    · split
      · constructor
        · exact launch _
        · intro boundary finished
          cases finished
      · split
        · constructor
          · exact ⟨untested.untested, Or.inr rfl, untested.pack⟩
          · intro boundary finished
            cases finished
        · constructor
          · exact ⟨untested.untested, Or.inr rfl, untested.pack⟩
          · intro boundary finished
            cases finished
            constructor
            · rfl
            · intro other same
              cases same
              exact setup_boundary_known judge.isolation trusted

theorem setup_seen (judge : JudgeSettings) (judged : judge.isolation = settings.judge.isolation)
    (state : RepoRunState) (untested : Untested state.trace)
    (fresh : state.trace.setupIsolationEvidence = none) :
    Ends (setupPhase services settings answers candidate judge) state
      (fun after _ => Untested after.trace)
      (fun after setup => Untested after.trace ∧
        SetupSeen settings.judge.isolation after.trace setup) := by
  unfold setupPhase
  cases settings.setupCommand with
  | none =>
    apply ends_pure
    apply And.intro untested
    constructor
    · rw [fresh]
      rfl
    · intro boundary impossible
      cases impossible
  | some command =>
    have seen := setup_command_seen services candidate judge (command.headD [])
      settings.trustSetupOnHost answers.setup state.trace untested
    rw [judged] at seen
    apply ends_bind _ _ _ _ (fun after boundary => Untested after.trace ∧
      SetupSeen settings.judge.isolation after.trace (some boundary))
    · apply ends_of_pair
      · intro _ _
        exact seen.1
      · intro boundary finished
        exact ⟨seen.1, seen.2 boundary finished⟩
    · intro boundary after both
      exact ends_pure _ _ _ _ both

/-- The state in which a suite is launched. -/
structure Ready (state : RepoRunState) (ready : ReadySuite) : Prop where
  untested : Untested state.trace
  judged : ready.judge.isolation = settings.judge.isolation
  setup : SetupSeen settings.judge.isolation state.trace ready.setupIsolation

theorem entered_seen {isolation : Isolation} {state : RepoRunState} {setup : Option Boundary}
    (phase : ExecutionPhase) (untested : Untested state.trace)
    (seen : SetupSeen isolation state.trace setup) :
    Untested { state.trace with executionPhase := phase } ∧
      SetupSeen isolation { state.trace with executionPhase := phase } setup :=
  ⟨⟨untested.untested, untested.unfinished, untested.pack⟩,
    ⟨seen.observed, seen.known⟩⟩

theorem ready_suite_ends : Ends (readySuite services settings answers candidate inputs baseline) {}
    SoundEnd (Ready settings) := by
  have start : Untested ({} : RepoRunState).trace := ⟨rfl, Or.inl rfl, rfl⟩
  unfold readySuite
  apply ends_bind _ _ _ _ (fun after judge => after.trace = ({} : RepoRunState).trace ∧
    judge.isolation = settings.judge.isolation)
  · apply ends_weaken _ _ _ _ _ _
      (prepare_keeps services settings answers candidate inputs baseline {})
    · intro after verdict kept
      apply untested_sound
      rw [kept]
      exact start
    · intro after judge kept
      exact kept
  intro judge prepared kept
  apply ends_bind _ _ _ _ (fun after setup => Untested after.trace ∧
    SetupSeen settings.judge.isolation after.trace setup)
  · apply ends_weaken _ _ _ _ _ _ (setup_seen services settings answers candidate judge kept.2
      prepared (by rw [kept.1]; exact start) (by rw [kept.1]))
    · intro after verdict untested
      exact untested_sound untested verdict
    · intro after setup both
      exact both
  intro setup before both
  apply ends_refuse_bind
  · intro verdict _
    exact untested_sound both.1 verdict
  intro _
  apply ends_refuse_bind
  · intro verdict _
    exact untested_sound both.1 verdict
  intro _
  apply ends_bind _ _ _ _ (fun after _ => Untested after.trace ∧
    SetupSeen settings.judge.isolation after.trace setup)
  · unfold captureRuntime
    split
    · apply ends_modify_bind
      have entered := entered_seen .runtimeVerification both.1 both.2
      split
      · exact ends_pure _ _ _ _ entered
      · apply ends_throw
        exact untested_sound entered.1 _
    · exact ends_pure _ _ _ _ both
  · intro captured after untested
    exact ends_pure _ _ _ _ ⟨untested.1, kept.2, untested.2⟩

/-! The suite -/

variable (state : RepoRunState) (ready : ReadySuite)

theorem suite_launched (isReady : Ready settings state ready) :
    let ran := executeRepoSuite services.distill services.quoted ready.judge candidate.filesChanged
      (settings.command.headD []) settings.packConfigured ready.setupIsolation
      (runtimeWith ready.captured .incomplete) answers.suite.process state.trace
    (Untested ran.1 ∨ Traced settings.judge.isolation ran.1 ready.setupIsolation) ∧
      ∀ command, ran.2 = .ok command →
        Traced settings.judge.isolation ran.1 ready.setupIsolation := by
  intro ran
  have noPack (evidence : IsolationObservation) {observed : Option IsolationObservation}
      (none : observed = none) (seen : observed = some evidence) : False := by
    rw [none] at seen
    cases seen
  cases launched : launchFailure services.distill ready.judge
      (suiteWords services.quoted (settings.command.headD [])) ready.judge.containerMode .subprocess
      answers.suite.process with
  | some failure =>
    have same : ran = executeRepoSuite services.distill services.quoted ready.judge
      candidate.filesChanged (settings.command.headD []) settings.packConfigured
      ready.setupIsolation (runtimeWith ready.captured .incomplete) answers.suite.process
      state.trace := rfl
    unfold executeRepoSuite at same
    simp only [launched] at same
    rcases launch_delivered _ _ _ _ _ _ failure launched with
      ⟨unstarted, _⟩ | ⟨started, boundary⟩
    · rw [unstarted] at same
      rw [same]
      constructor
      · exact Or.inl ⟨isReady.untested.untested, isReady.untested.unfinished,
          isReady.untested.pack⟩
      · intro command finished
        cases finished
    · rw [started] at same
      rw [same]
      constructor
      · apply Or.inr
        refine ⟨rfl, by simp, ⟨isReady.setup.observed, isReady.setup.known⟩, ?_, ?_, ?_⟩
        · intro observation seen
          cases seen
          rfl
        · rw [isReady.judged] at boundary
          rcases boundary with requested | ⟨_, host⟩
          · exact (congrArg boundaryRank requested).le
          · exact (congrArg boundaryRank host).trans_le (Nat.zero_le _)
        · intro observation seen
          exact absurd seen (noPack observation isReady.untested.pack)
      · intro command finished
        cases finished
  | none =>
    have same : ran = (suiteCompletedTrace ready.judge settings.packConfigured
        { state.trace with executionPhase := .repoSuite },
        .ok (completedCommand answers.suite.process)) := by
      simp only [ran, executeRepoSuite, launched]
    have traced : Traced settings.judge.isolation (suiteCompletedTrace ready.judge
        settings.packConfigured { state.trace with executionPhase := .repoSuite })
        ready.setupIsolation := by
      refine ⟨rfl, ?_, ⟨isReady.setup.observed, isReady.setup.known⟩, ?_, ?_, ?_⟩
      · simp only [suiteCompletedTrace]
        split <;> simp
      · intro observation seen
        cases seen
        rfl
      · exact (congrArg (fun isolation => boundaryRank (Isolation.boundary isolation))
          isReady.judged).le
      · intro observation seen
        exact absurd seen (noPack observation isReady.untested.pack)
    rw [same]
    exact ⟨Or.inr traced, fun command finished => traced⟩

/-- The result of a suite that did not complete carries the setup boundary, unless its client or
its own process ran out of time. -/
theorem suite_terminal_setup (ready : ReadySuite) (trace : ExecutionPhaseResult)
    (verdict : RepoVerdict)
    (failed : (executeRepoSuite services.distill services.quoted ready.judge candidate.filesChanged
      (settings.command.headD []) settings.packConfigured ready.setupIsolation
      (runtimeWith ready.captured .incomplete) answers.suite.process trace).2 = .error verdict) :
    verdict.artifact.setupIsolation = ready.setupIsolation ∨
      verdict.artifact.setupIsolation = none ∧
        ((∃ started, answers.suite.process = .dockerTimeout started) ∨
          ∃ started, answers.suite.process = .timeout started) := by
  unfold executeRepoSuite at failed
  dsimp only at failed
  split at failed
  · cases failed
    simp only [terminalVerdict, suiteFailureArtifact]
    cases answers.suite.process with
    | dockerTimeout started => exact Or.inr ⟨rfl, Or.inl ⟨started, rfl⟩⟩
    | timeout started => exact Or.inr ⟨rfl, Or.inr ⟨started, rfl⟩⟩
    | outputLimit docker started message => exact Or.inl rfl
    | containment docker started message => exact Or.inl rfl
    | fileNotFound => exact Or.inl rfl
    | execFailed message => exact Or.inl rfl
    | finished targetStarted returncode stdout stderr => exact Or.inl rfl
  · cases failed

/-- A client that ran out of time, in a started container, after a setup that ran on the host. -/
def HostSetupTimeout (ready : ReadySuite) : Prop :=
  ready.setupIsolation = some .hostOptIn ∧ answers.suite.process = .dockerTimeout true

theorem claimed_without_setup (execution : ExecutionPhaseResult) (setup : Option Boundary)
    (inside : setup ≠ some .hostOptIn) :
    claimedBoundary execution none = claimedBoundary execution setup := by
  have absent : (none : Option Boundary) ≠ some .hostOptIn := by simp
  unfold claimedBoundary effectiveIsolation
  rw [if_neg inside, if_neg absent]

theorem suite_terminal_sound (isReady : Ready settings state ready)
    (kept : ¬HostSetupTimeout answers ready)
    (verdict : RepoVerdict) (after : RepoRunState)
    (ran : after.trace = (executeRepoSuite services.distill services.quoted ready.judge
      candidate.filesChanged (settings.command.headD []) settings.packConfigured
      ready.setupIsolation (runtimeWith ready.captured .incomplete) answers.suite.process
      state.trace).1)
    (failed : (executeRepoSuite services.distill services.quoted ready.judge candidate.filesChanged
      (settings.command.headD []) settings.packConfigured ready.setupIsolation
      (runtimeWith ready.captured .incomplete) answers.suite.process state.trace).2 =
        .error verdict) :
    SoundEnd after verdict := by
  have launched := (suite_launched services settings answers candidate state ready isReady).1
  rw [← ran] at launched
  rcases launched with untested | traced
  · exact untested_sound untested verdict
  rcases suite_terminal_setup services settings answers candidate ready state.trace verdict
    failed with carried | ⟨left, process⟩
  · exact traced_sound traced verdict carried
  have lifecycle := (traced_sound traced
    (terminalVerdict [] { setupIsolation := ready.setupIsolation }) rfl).lifecycle
  refine ⟨?_, lifecycle⟩
  rw [left]
  by_cases host : ready.setupIsolation = some .hostOptIn
  · -- Only a process on the host can have run out of time, and it claims no more than that.
    have weakest : boundaryRank after.trace.deliveredIsolation = 0 := by
      have started := traced.started
      rcases process with ⟨reached, docker⟩ | ⟨reached, timeout⟩
      · cases reached
        · simp [ran, executeRepoSuite, launchFailure, docker, isReady.untested.untested] at started
        · exact absurd ⟨host, docker⟩ kept
      · cases reached
        · simp [ran, executeRepoSuite, launchFailure, timeout, isReady.untested.untested] at started
        · simp [ran, executeRepoSuite, launchFailure, timeout, boundaryRank]
    intro boundary _
    have claim := effective_rank_le none after.trace.deliveredIsolation
    rw [claimedBoundary, if_pos traced.started]
    omega
  · intro boundary inside
    rw [claimed_without_setup after.trace ready.setupIsolation host]
    exact traced_honest traced boundary inside

theorem launch_suite_ends (isReady : Ready settings state ready)
    (kept : HostSetupTimeout answers ready →
      verifyHarnessCheckpoint services.quoted baseline inputs
        (unprovenAt "after the repository suite")
        (changedAt "after the repository suite") answers.harnessAfterSuite ≠ none) :
    Ends (launchSuite services settings answers candidate inputs baseline ready) state SoundEnd
      (fun after suite => suite.judge.isolation = settings.judge.isolation ∧
        Traced settings.judge.isolation after.trace suite.setupIsolation) := by
  have launched := suite_launched services settings answers candidate state ready isReady
  have terminal := suite_terminal_sound services settings answers candidate state ready isReady
  unfold launchSuite
  apply ends_modify_get_bind
  dsimp only
  apply ends_refuse_bind
  · intro verdict refused
    rcases Option.map_eq_some_iff.mp refused with ⟨failure, _, built⟩
    subst built
    rcases launched.1 with untested | traced
    · exact untested_sound untested _
    · exact traced_sound traced _ rfl
  intro passed
  rw [Option.map_eq_none_iff] at passed
  have lost : ¬HostSetupTimeout answers ready := fun timeout => kept timeout passed
  apply ends_bind _ _ _ _ (fun after _ =>
    Traced settings.judge.isolation after.trace ready.setupIsolation)
  · apply ends_of_pair
    · intro verdict failed
      exact terminal lost verdict _ rfl failed
    · intro command finished
      exact launched.2 command finished
  intro command finished traced
  apply ends_bind _ _ _ _ (fun after _ =>
    Traced settings.judge.isolation after.trace ready.setupIsolation)
  · unfold afterSuite
    split
    · exact ends_pure _ _ _ _ traced
    · apply ends_modify_bind
      have entered : Traced settings.judge.isolation
          { finished.trace with executionPhase := .runtimeVerification } ready.setupIsolation :=
        ⟨traced.started, traced.live, ⟨traced.setup.observed, traced.setup.known⟩, traced.suite,
          traced.bounded, traced.pack⟩
      apply ends_refuse
      · intro verdict refused
        rcases Option.map_eq_some_iff.mp refused with ⟨failure, _, built⟩
        subst built
        exact traced_sound entered _ rfl
      · intro _
        exact entered
  · intro _ after done
    exact ends_pure _ _ _ _ ⟨isReady.judged, done⟩

/-! The pack -/

theorem pack_launched (launches : RepoLaunches settings answers) (judge : JudgeSettings)
    (judged : judge.isolation = settings.judge.isolation) (setup : Option Boundary)
    (runtime : RuntimeIdentityEvidence) (suiteObserved : IsolationObservation)
    (trace : ExecutionPhaseResult) (traced : Traced settings.judge.isolation trace setup) :
    Traced settings.judge.isolation (executeRepoPack services.distill judge candidate.filesChanged
      setup runtime suiteObserved answers.pack.process trace).1 setup := by
  have seen : SetupSeen settings.judge.isolation trace setup := traced.setup
  unfold executeRepoPack
  cases launched : launchFailure services.distill judge packWords judge.containerMode .subprocess
      answers.pack.process with
  | none =>
    refine ⟨traced.started, by simp [packCompletedTrace], ⟨seen.observed, seen.known⟩,
      traced.suite, traced.bounded, ?_⟩
    intro observation observed _
    cases observed
    exact congrArg Isolation.boundary judged
  | some failure =>
    have requested : delivered failure.delivered = true →
        failure.delivered = settings.judge.isolation.boundary := by
      intro ran
      rcases launch_delivered _ _ _ _ _ _ failure launched with
        ⟨_, nothing⟩ | ⟨_, inside | ⟨onHost, host⟩⟩
      · rw [ran] at nothing
        cases nothing
      · rw [inside, judged]
      · -- Without a container the host's boundary is the requested one.
        cases isolated : settings.judge.isolation with
        | subprocess => exact host
        | docker =>
          have inContainer := launches.pack (by rw [JudgeSettings.containerMode, isolated]; rfl)
          rw [in_container_not_on_host _ inContainer] at onHost
          cases onHost
        | gvisor =>
          have inContainer := launches.pack (by rw [JudgeSettings.containerMode, isolated]; rfl)
          rw [in_container_not_on_host _ inContainer] at onHost
          cases onHost
    dsimp only
    split
    · refine ⟨traced.started, by simp, ⟨seen.observed, seen.known⟩, traced.suite,
        traced.bounded, ?_⟩
      intro observation observed ran
      cases observed
      exact requested ran
    · refine ⟨traced.started, traced.live, ⟨seen.observed, seen.known⟩, traced.suite,
        traced.bounded, ?_⟩
      intro observation observed ran
      cases observed
      exact requested ran

theorem entered_traced {isolation : Isolation} {execution : ExecutionPhaseResult}
    {setup : Option Boundary} (phase : ExecutionPhase) (traced : Traced isolation execution setup) :
    Traced isolation { execution with executionPhase := phase } setup :=
  ⟨traced.started, traced.live, ⟨traced.setup.observed, traced.setup.known⟩, traced.suite,
    traced.bounded, traced.pack⟩

section

variable (launches : RepoLaunches settings answers) (suite : CompletedSuite)
  (judged : suite.judge.isolation = settings.judge.isolation) (state : RepoRunState)
  (traced : Traced settings.judge.isolation state.trace suite.setupIsolation)
include judged launches traced

theorem pack_phase_sound :
    Ends (packPhase services answers candidate suite) state SoundEnd
      (fun after _ => Traced settings.judge.isolation after.trace suite.setupIsolation) := by
  have snapshot (text problem : Text) (after : RepoRunState)
      (kept : Traced settings.judge.isolation after.trace suite.setupIsolation) :
      SoundEnd after (tamperedVerdict (text ++ ": " ++ problem) .packSnapshotChanged
        { filesChanged := candidate.filesChanged
          setupIsolation := suite.setupIsolation
          runtime := runtimeWith suite.captured .incomplete }) := traced_sound kept _ rfl
  unfold packPhase
  apply ends_modify_bind
  have entered := entered_traced .verifierPack traced
  apply ends_refuse_bind
  · intro verdict refused
    rcases Option.map_eq_some_iff.mp refused with ⟨problem, _, built⟩
    subst built
    exact snapshot _ _ _ entered
  intro _
  have ran := pack_launched services settings answers candidate launches suite.judge judged
    suite.setupIsolation (runtimeWith suite.captured .incomplete)
    (phaseIsolationEvidence suite.judge suite.judge.isolation.boundary none) _ entered
  apply ends_bind _ _ _ _ (fun after _ =>
    Traced settings.judge.isolation after.trace suite.setupIsolation)
  · apply ends_of_pair
    · intro verdict failed
      apply traced_sound ran
      dsimp only [executeRepoPack] at failed
      split at failed
      · cases failed
        rfl
      · cases failed
    · intro command finished
      exact ran
  intro command finished packed
  apply ends_modify_bind
  have verifying := entered_traced .runtimeVerification packed
  apply ends_refuse_bind
  · intro verdict refused
    rcases Option.map_eq_some_iff.mp refused with ⟨problem, _, built⟩
    subst built
    exact snapshot _ _ _ verifying
  intro _
  apply ends_refuse_bind
  · intro verdict refused
    rcases Option.map_eq_some_iff.mp refused with ⟨failure, _, built⟩
    subst built
    exact traced_sound verifying _ rfl
  intro _
  apply ends_modify_bind
  exact ends_pure _ _ _ _ (entered_traced .verifierPack verifying)

theorem judge_phases_sound :
    Ends (judgePhases services settings answers candidate suite) state SoundEnd SoundEnd := by
  unfold judgePhases
  apply ends_refuse_bind
  · intro verdict refused
    by_cases neutered : canaryFailed services settings answers = true
    · rw [if_pos neutered] at refused
      cases refused
      exact traced_sound traced _ rfl
    · rw [if_neg neutered] at refused
      cases refused
  intro _
  dsimp only
  split
  · apply ends_modify_bind
    apply ends_bind _ _ _ _ (fun after _ =>
      Traced settings.judge.isolation after.trace suite.setupIsolation)
    · exact pack_phase_sound services settings answers candidate launches suite judged _ traced
    · intro pack after packed
      exact ends_pure _ _ _ _ (traced_sound packed _ rfl)
  · apply ends_modify_bind
    exact ends_pure _ _ _ _ (traced_sound (entered_traced .repoSuite traced) _ rfl)

end

/-- The run launches its suite after a setup on the host, the suite's client runs out of time, and
the harness is found unchanged afterwards. -/
def LosesHostSetup : Prop :=
  ∃ ready state, readySuite services settings answers candidate inputs baseline {} =
      .ok ready state ∧ HostSetupTimeout answers ready ∧
    verifyHarnessCheckpoint services.quoted baseline inputs
      (unprovenAt "after the repository suite")
      (changedAt "after the repository suite") answers.harnessAfterSuite = none

theorem repo_run_sound (launches : RepoLaunches settings answers)
    (kept : ¬LosesHostSetup services settings answers candidate inputs baseline) :
    let ended := finish (repoRun services settings answers candidate inputs baseline) {}
    SoundEnd ended.1 ended.2 := by
  apply finish_of_ends _ _ SoundEnd
  unfold repoRun
  apply ends_bind _ _ _ _ (fun after (suite : CompletedSuite) =>
    suite.judge.isolation = settings.judge.isolation ∧
      Traced settings.judge.isolation after.trace suite.setupIsolation)
  · rw [suite_phase_eq]
    have prefixEnds := ready_suite_ends services settings answers candidate inputs baseline
    unfold Ends at prefixEnds ⊢
    simp only [bind, EStateM.bind]
    cases reached : readySuite services settings answers candidate inputs baseline {} with
    | error verdict state =>
      rw [reached] at prefixEnds
      exact prefixEnds
    | ok ready state =>
      rw [reached] at prefixEnds
      exact launch_suite_ends services settings answers candidate inputs baseline state ready
        prefixEnds fun timeout passed => kept ⟨ready, state, reached, timeout, passed⟩
  · intro suite after both
    exact judge_phases_sound services settings answers candidate launches suite both.1 after both.2

theorem losing_run_dishonest
    (loses : LosesHostSetup services settings answers candidate inputs baseline) :
    let ended := finish (repoRun services settings answers candidate inputs baseline) {}
    ended.1.trace.executionState = .startedIncomplete ∧
      ¬BoundaryHonest ended.1.trace ended.2.artifact.setupIsolation := by
  rcases loses with ⟨ready, state, reached, ⟨host, timeout⟩, passed⟩
  have isReady : Ready settings state ready := by
    have prefixEnds := ready_suite_ends services settings answers candidate inputs baseline
    unfold Ends at prefixEnds
    rw [reached] at prefixEnds
    exact prefixEnds
  have launched : ∃ after verdict,
      launchSuite services settings answers candidate inputs baseline ready state =
        .error verdict after ∧ verdict.artifact.setupIsolation = none ∧
      after.trace.executionState = .startedIncomplete ∧
      after.trace.setupIsolationEvidence = state.trace.setupIsolationEvidence ∧
      after.trace.testCommandStarted = true ∧
      after.trace.deliveredIsolation = ready.judge.isolation.boundary := by
    simp only [launchSuite, executeRepoSuite, timeout, launchFailure, if_true, harnessCheckpoint,
      passed, Option.map_none]
    exact ⟨_, _, rfl, rfl, rfl, rfl, rfl, rfl⟩
  rcases launched with ⟨after, verdict, left, lost, incomplete, observed, started, claimed⟩
  have ended : finish (repoRun services settings answers candidate inputs baseline) {} =
      (after, verdict) := by
    simp only [finish, repoRun, suite_phase_eq, bind, EStateM.bind, reached, left]
  intro run
  have same : run = (after, verdict) := ended
  rw [same]
  apply And.intro incomplete
  intro honest
  rw [lost] at honest
  have setUp : after.trace.setupIsolationEvidence.map IsolationObservation.delivered =
      some .hostOptIn := by
    rw [observed, ← isReady.setup.observed, host]
  have bound := honest .hostOptIn ((mem_ran_boundaries _ _).mpr ⟨rfl, Or.inl setUp⟩)
  have claim : claimedBoundary after.trace none = settings.judge.isolation.boundary := by
    rw [claimedBoundary, if_pos started, claimed, isReady.judged]
    rfl
  rw [claim] at bound
  rcases isReady.setup.known .hostOptIn host with requested | ⟨_, container⟩
  · cases isolated : settings.judge.isolation <;> rw [isolated] at requested <;> cases requested
  · cases isolated : settings.judge.isolation with
    | subprocess =>
      rw [isolated] at container
      cases container
    | docker =>
      rw [isolated] at bound
      exact absurd bound (by decide)
    | gvisor =>
      rw [isolated] at bound
      exact absurd bound (by decide)

end

end EvoomGuard.Application
