import EvoomGuard.Verifiers.Blackbox

/-!
How a black-box run ends. Every result of `run_blackbox` is graded from a report that was read
and counted, or names an error in one of the execution states in which that error is reached.
-/

namespace EvoomGuard.Verifiers

open Lib Lib.Phase Domain Domain.Harness

def blackboxEndStates (harnessDeclared : Bool) : BlackboxError → List ExecutionState
  | .packNotFound _ | .packInvalid | .packIdentityMismatch | .trustedHarnessUnbound
  | .patchUnapplied | .unsafeDeletion | .isolationUnavailable | .packSnapshotChanged =>
    [.notStarted]
  | .harnessInputChanged =>
    if harnessDeclared then [.notStarted, .startedIncomplete, .completed] else []
  | .timeout | .outputLimit | .judgeCleanupFailed => [.startedIncomplete]
  | .packChangedWhileExecuting | .noTestResults | .junitExitMismatch | .uncleanExit _ =>
    [.completed]
  | .containerCleanupFailed | .workspaceCleanupFailed => [.notStarted, .startedIncomplete]

/-- The lifecycle flags of a result say what its execution state says. -/
structure BlackboxLifecycle (result : BlackboxResult) : Prop where
  live : result.executionState ≠ .staticGate
  started : result.started = (result.executionState != .notStarted)
  completed : result.completed = (result.executionState == .completed)
  phase : result.executionPhase =
    if result.executionState = .notStarted then .preflight else .blackboxPack
  observed : result.candidateLauncherInvocationObserved = decide (0 < result.candidateInvocations)

/-- A result that the judge graded: its own report was read, counted a test, and agrees with
the verdict. -/
structure GradedRun (parseXml : Text → Option Element) (report : Option Text)
    (result : BlackboxResult) (text : Text) (counts : JUnitCounts) : Prop where
  ran : result.ran = true
  unfailed : result.error = none
  read : report = some text
  parsed : parseJunitXml parseXml text = some counts
  counted : 0 < counts.total
  passed : result.passed = (counts.failures == 0 && counts.errors == 0)
  testsPassed : result.testsPassed = counts.passed
  testsTotal : result.testsTotal = counts.total
  digest : result.junitSha256 = some (Sha256.hexdigest text)
  finished : result.executionState = .completed

inductive BlackboxEnd (parseXml : Text → Option Element) (harnessDeclared : Bool)
    (report : Option Text) (result : BlackboxResult) : Prop
  | ungraded (error : BlackboxError) (failed : result.error = some error)
      (unpassed : result.passed = false) (unran : result.ran = false)
      (reached : result.executionState ∈ blackboxEndStates harnessDeclared error)
  | graded (text : Text) (counts : JUnitCounts)
      (run : GradedRun parseXml report result text counts)

/-- The invariant of the results of a run. -/
structure BlackboxEnded (parseXml : Text → Option Element) (harnessDeclared : Bool)
    (report : Option Text) (result : BlackboxResult) : Prop where
  lifecycle : BlackboxLifecycle result
  ending : BlackboxEnd parseXml harnessDeclared report result

theorem preflight_lifecycle (diagnostics : Text) (error : BlackboxError)
    (packSha256 : Option Text) : BlackboxLifecycle (preflightResult diagnostics error packSha256) :=
  ⟨by simp [preflightResult], rfl, rfl, rfl, rfl⟩

section Ends

variable (services : RepoServices) (settings : RepoSettings)
  (request : RepoCandidateAdmissionRequest) (answers : BlackboxAnswers)

/-- The results of a run over these answers. -/
def EndedBy (result : BlackboxResult) : Prop :=
  BlackboxEnded services.parseXml (!request.harnessInputs.isEmpty) answers.report result

theorem preflight_ended (diagnostics : Text) (error : BlackboxError) (packSha256 : Option Text)
    (listed : .notStarted ∈ blackboxEndStates (!request.harnessInputs.isEmpty) error) :
    EndedBy services request answers (preflightResult diagnostics error packSha256) :=
  ⟨preflight_lifecycle diagnostics error packSha256, .ungraded error rfl rfl rfl listed⟩

theorem diagnostics_ended (result : BlackboxResult) (diagnostics : Text)
    (ended : EndedBy services request answers result) :
    EndedBy services request answers { result with diagnostics := diagnostics } := by
  cases ended with
  | mk lifecycle ending =>
    constructor
    · exact ⟨lifecycle.live, lifecycle.started, lifecycle.completed, lifecycle.phase,
        lifecycle.observed⟩
    · cases ending with
      | ungraded error failed unpassed unran reached =>
        exact .ungraded error failed unpassed unran reached
      | graded text counts run =>
        exact .graded text counts ⟨run.ran, run.unfailed, run.read, run.parsed, run.counted, run.passed,
          run.testsPassed, run.testsTotal, run.digest, run.finished⟩

theorem evidence_ended (waitForLate : Bool) (isolation : BlackboxIsolation)
    (result : BlackboxResult) (ended : EndedBy services request answers result) :
    EndedBy services request answers
      (withCandidateEvidence answers waitForLate isolation result) := by
  cases ended with
  | mk lifecycle ending =>
    constructor
    · exact ⟨lifecycle.live, lifecycle.started, lifecycle.completed, lifecycle.phase, rfl⟩
    · cases ending with
      | ungraded error failed unpassed unran reached =>
        exact .ungraded error failed unpassed unran reached
      | graded text counts run =>
        exact .graded text counts ⟨run.ran, run.unfailed, run.read, run.parsed, run.counted, run.passed,
          run.testsPassed, run.testsTotal, run.digest, run.finished⟩

theorem harness_failure_declared (baseline : List (Text × EntryState))
    (bound : request.harnessInputs = [] → baseline = []) (unproven changed : Text)
    (checkpoint : HarnessCheckpoint) (diagnostics : Text)
    (failed : harnessFailure services request baseline unproven changed checkpoint =
      some diagnostics) :
    (!request.harnessInputs.isEmpty) = true := by
  cases declared : request.harnessInputs with
  | nil =>
    rw [harnessFailure, declared, bound declared, checkpoint_without_inputs] at failed
    cases failed
  | cons path rest => rfl

theorem postcondition_ended (baseline : List (Text × EntryState))
    (bound : request.harnessInputs = [] → baseline = []) (result : BlackboxResult)
    (ended : EndedBy services request answers result) :
    EndedBy services request answers
      (enforceHarnessPostcondition services request answers baseline result) := by
  unfold enforceHarnessPostcondition
  split
  · exact ended
  · rename_i diagnostics failed
    have declared := harness_failure_declared services request baseline bound _ _ _ _ failed
    have lifecycle := ended.lifecycle
    constructor
    · exact ⟨lifecycle.live, lifecycle.started, lifecycle.completed, lifecycle.phase,
        lifecycle.observed⟩
    · apply BlackboxEnd.ungraded .harnessInputChanged rfl rfl rfl
      rw [declared]
      change result.executionState ∈ _
      cases state : result.executionState with
      | staticGate => exact absurd state lifecycle.live
      | notStarted | startedIncomplete | completed => simp [blackboxEndStates]

variable (packSha256 : Text) (isolation : BlackboxIsolation)

theorem incomplete_ended (diagnostics : Text)
    (error : BlackboxError)
    (listed : .startedIncomplete ∈ blackboxEndStates (!request.harnessInputs.isEmpty) error) :
    EndedBy services request answers
      (packResult packSha256 isolation (incompletePack diagnostics error)) :=
  ⟨⟨by simp [packResult, incompletePack], rfl, rfl, rfl, rfl⟩, .ungraded error rfl rfl rfl listed⟩

theorem returned_lifecycle (facts : BlackboxPackVerdictFacts) (started : facts.started = true)
    (completed : facts.completed = true) (state : facts.executionState = .completed)
    (phase : facts.executionPhase = .blackboxPack) :
    BlackboxLifecycle (packResult packSha256 isolation facts) := by
  constructor <;> simp [packResult, started, completed, state, phase]

theorem returned_ended (diagnostics : Text)
    (error : BlackboxError) (junitSha256 : Option Text) (testsPassed testsTotal : Nat)
    (listed : .completed ∈ blackboxEndStates (!request.harnessInputs.isEmpty) error) :
    EndedBy services request answers (packResult packSha256 isolation
      (returnedPack diagnostics (some error) junitSha256 testsPassed testsTotal)) :=
  ⟨returned_lifecycle packSha256 isolation _ rfl rfl rfl rfl, .ungraded error rfl rfl rfl listed⟩

theorem interpreted_ended (completed : CompletedCommand) :
    EndedBy services request answers (packResult packSha256 isolation
      (interpretBlackboxPack services.parseXml services.distill completed answers.report)) := by
  unfold interpretBlackboxPack
  cases parsed : answers.report.bind (parseJunitXml services.parseXml) with
  | none => exact returned_ended services request answers _ _ _ _ _ _ _ (by simp [blackboxEndStates])
  | some junit =>
    rcases Option.bind_eq_some_iff.mp parsed with ⟨text, read, counts⟩
    have balance := junit.balanced
    dsimp only
    split_ifs with empty mismatch zero one
    · exact returned_ended services request answers _ _ _ _ _ _ _ (by simp [blackboxEndStates])
    · exact returned_ended services request answers _ _ _ _ _ _ _ (by simp [blackboxEndStates])
    · -- Exit zero without a mismatch: every counted test passed.
      have clean : junit.failures = 0 ∧ junit.errors = 0 := by
        simp only [zero, beq_self_eq_true, Bool.true_and, Bool.or_eq_true, Bool.not_eq_true',
          not_or, Bool.not_eq_false, Bool.and_eq_true, beq_iff_eq] at mismatch
        exact mismatch.1.1
      constructor
      · exact returned_lifecycle packSha256 isolation _ rfl rfl rfl rfl
      · apply BlackboxEnd.graded text junit
        exact ⟨rfl, rfl, read, counts, Nat.pos_of_ne_zero empty, by simp [packResult, clean],
          rfl, rfl, by simp [packResult, returnedPack, read], rfl⟩
    · have failing : (junit.failures == 0 && junit.errors == 0) = false := by
        by_contra clean
        have none : junit.failures = 0 ∧ junit.errors = 0 := by simpa using clean
        have all : junit.passed = junit.total := by omega
        simp [one, none, all] at mismatch
      constructor
      · exact returned_lifecycle packSha256 isolation _ rfl rfl rfl rfl
      · apply BlackboxEnd.graded text junit
        exact ⟨rfl, rfl, read, counts, Nat.pos_of_ne_zero empty,
          by rw [failing]; rfl, rfl, rfl, by simp [packResult, returnedPack, read], rfl⟩
    · exact returned_ended services request answers _ _ _ _ _ _ _ (by simp [blackboxEndStates])

theorem pack_facts_ended (timeout : Nat) :
    EndedBy services request answers (packResult packSha256 isolation (packFacts services answers
      (executeBlackboxPack timeout answers.packBefore answers.judge answers.packAfter).2)) := by
  unfold executeBlackboxPack
  cases answers.packBefore with
  | some problem =>
    exact ⟨⟨by simp [packResult, packFacts], rfl, rfl, rfl, rfl⟩,
      .ungraded .packSnapshotChanged rfl rfl rfl (by simp [packResult, packFacts,
        blackboxEndStates])⟩
  | none =>
    cases answers.judge with
    | timeout | outputLimit message | cleanupFailed message =>
      exact incomplete_ended services request answers _ _ _ _ (by simp [blackboxEndStates])
    | finished returncode stdout stderr =>
      cases answers.packAfter with
      | some problem =>
        exact returned_ended services request answers _ _ _ _ _ _ _
          (by simp [blackboxEndStates])
      | none => exact interpreted_ended services request answers packSha256 isolation _

theorem projected_ended (baseline : List (Text × EntryState))
    (bound : request.harnessInputs = [] → baseline = []) (packSha256 : Text)
    (isolation : BlackboxIsolation) (timeout : Nat) :
    EndedBy services request answers (projectPackVerdict services request answers baseline
      packSha256 isolation (packFacts services answers
        (executeBlackboxPack timeout answers.packBefore answers.judge answers.packAfter).2)) := by
  have ended := pack_facts_ended services request answers packSha256 isolation timeout
  unfold projectPackVerdict
  apply postcondition_ended services request answers baseline bound
  split_ifs
  · exact evidence_ended services request answers _ isolation _ ended
  · exact ended

/-- The pending result that the cleanup may fall back on is a result of the run too. -/
def PendingEnded (state : BlackboxRunState) (result : BlackboxResult) : Prop :=
  EndedBy services request answers result ∧
    ∀ pending, state.pending = some pending → EndedBy services request answers pending

variable (state : BlackboxRunState)

theorem refusal_ended (fresh : state.pending = none)
    (diagnostics : Text) (error : BlackboxError) (packSha256 : Option Text)
    (listed : .notStarted ∈ blackboxEndStates (!request.harnessInputs.isEmpty) error) :
    PendingEnded services request answers state (preflightResult diagnostics error packSha256) := by
  constructor
  · exact preflight_ended services request answers diagnostics error packSha256 listed
  · intro pending found
    rw [fresh] at found
    cases found

theorem blackbox_run_ends :
    Ends (blackboxRun services settings request answers) {} (PendingEnded services request answers)
      (PendingEnded services request answers) := by
  unfold blackboxRun
  apply ends_bind _ _ _ _ (fun state _ => state.pending = none)
  · apply ends_of_pair
    · intro result refused
      unfold acceptPack at refused
      split at refused
      · cases refused
        exact refusal_ended services request answers _ rfl _ _ _ (by simp [blackboxEndStates])
      · dsimp only at refused
        split_ifs at refused
        cases refused
        exact refusal_ended services request answers _ rfl _ _ _ (by simp [blackboxEndStates])
    · intro sha256 _
      rfl
  intro packSha256 accepted fresh
  apply ends_bind _ _ _ _ (fun state baseline => state.pending = none ∧
    (request.harnessInputs = [] → baseline = []))
  · apply ends_of_pair
    · intro result refused
      unfold trustedBaseline at refused
      split at refused
      · cases refused
      · cases refused
        exact refusal_ended services request answers _ fresh _ _ _ (by simp [blackboxEndStates])
    · intro baseline captured
      constructor
      · exact fresh
      · intro undeclared
        rw [trustedBaseline, undeclared, capture_without_inputs] at captured
        cases captured
        rfl
  intro baseline trusted kept
  apply ends_refuse_bind
  · intro result refused
    rcases Option.map_eq_some_iff.mp refused with ⟨problem, _, built⟩
    subst built
    exact refusal_ended services request answers _ kept.1 _ _ _ (by simp [blackboxEndStates])
  intro _
  apply ends_refuse_bind
  · intro result refused
    rcases Option.map_eq_some_iff.mp refused with ⟨problem, _, built⟩
    subst built
    exact refusal_ended services request answers _ kept.1 _ _ _ (by simp [blackboxEndStates])
  intro _
  apply ends_refuse_bind
  · intro result refused
    rcases Option.map_eq_some_iff.mp refused with ⟨diagnostics, failed, built⟩
    subst built
    have declared := harness_failure_declared services request baseline kept.2 _ _ _ _ failed
    exact refusal_ended services request answers _ kept.1 _ _ _
      (by rw [declared]; simp [blackboxEndStates])
  intro _
  apply ends_bind _ _ _ _ (fun state _ => state.pending = none)
  · apply ends_of_pair
    · intro result refused
      unfold prepareBoundary at refused
      split at refused
      · cases refused
      · cases refused
        constructor
        · exact ⟨⟨by simp [preflightResult], rfl, rfl, rfl, rfl⟩,
            .ungraded .isolationUnavailable rfl rfl rfl (by simp [preflightResult,
              blackboxEndStates])⟩
        · intro pending found
          rw [kept.1] at found
          cases found
    · intro isolation _
      exact kept.1
  intro isolation prepared fresh
  apply ends_modify_bind
  apply ends_pure
  have ended := projected_ended services request answers baseline kept.2 packSha256 isolation
    settings.judge.timeout
  constructor
  · exact ended
  · intro pending found
    cases found
    exact ended

theorem cleanup_failure_ended (result : BlackboxResult)
    (ended : PendingEnded services request answers state result) (diagnostics : Text)
    (error : BlackboxError)
    (listed : blackboxEndStates (!request.harnessInputs.isEmpty) error =
      [.notStarted, .startedIncomplete]) :
    EndedBy services request answers (cleanupFailureResult state diagnostics error) := by
  have reached : (if state.lifecycle.started then ExecutionState.startedIncomplete
      else .notStarted) ∈ blackboxEndStates (!request.harnessInputs.isEmpty) error := by
    rw [listed]
    split_ifs <;> simp
  unfold cleanupFailureResult retainPendingCandidateEvidence
  cases pending : state.pending with
  | none =>
    constructor
    · cases state.lifecycle.started <;> constructor <;> simp
    · exact .ungraded error rfl rfl rfl reached
  | some kept =>
    have observed := (ended.2 kept pending).lifecycle.observed
    constructor
    · cases state.lifecycle.started <;> constructor <;> simp [observed]
    · exact .ungraded error rfl rfl rfl reached

theorem container_failure_ended (result : BlackboxResult)
    (ended : PendingEnded services request answers state result) (failure : Text) :
    EndedBy services request answers (containerFailureResult state failure) := by
  unfold containerFailureResult
  split
  · rename_i pending _ found
    exact diagnostics_ended services request answers pending _ (ended.2 pending found)
  · exact cleanup_failure_ended services request answers state result ended _ _ rfl

/-- Every result of a black-box run is graded from a counted report of the judge's own, or it
names an error that is reached in its execution state. -/
theorem run_blackbox_ended :
    EndedBy services request answers (runBlackbox services settings request answers) := by
  unfold runBlackbox
  split_ifs
  · exact ⟨⟨by simp [packMissingResult], rfl, rfl, rfl, rfl⟩,
      .ungraded (.packNotFound settings.packDir) rfl rfl rfl
        (by simp [packMissingResult, blackboxEndStates])⟩
  · have ended := finish_of_ends _ _ _ (blackbox_run_ends services settings request answers)
    unfold concludeCleanup
    split
    · exact ended.1
    · exact cleanup_failure_ended services request answers _ _ ended _ _ rfl
    · exact container_failure_ended services request answers _ _ ended _
    · exact diagnostics_ended services request answers _ _
        (container_failure_ended services request answers _ _ ended _)

end Ends

section

variable (services : RepoServices) (settings : RepoSettings)
  (request : RepoCandidateAdmissionRequest) (answers : BlackboxAnswers)

/-- Whatever the run or its cleanup returns carries the snapshot that was taken. -/
def CarriesPack (state : BlackboxRunState) (result : BlackboxResult) : Prop :=
  (state.packSha256 = answers.packSnapshot.toOption ∧
      result.packSha256 = answers.packSnapshot.toOption) ∧
    ∀ pending, state.pending = some pending → pending.packSha256 = answers.packSnapshot.toOption

theorem refusal_carries (state : BlackboxRunState) (result : BlackboxResult)
    (taken : state.packSha256 = answers.packSnapshot.toOption) (fresh : state.pending = none)
    (carried : result.packSha256 = answers.packSnapshot.toOption) :
    CarriesPack answers state result := by
  refine ⟨⟨taken, carried⟩, ?_⟩
  intro pending found
  rw [fresh] at found
  cases found

theorem accept_pack_snapshot (packSha256 : Text)
    (accepted : acceptPack services settings answers = .ok packSha256) :
    answers.packSnapshot = .ok packSha256 := by
  unfold acceptPack at accepted
  split at accepted
  · cases accepted
  · rename_i sha256 taken
    dsimp only at accepted
    split_ifs at accepted
    cases accepted
    exact taken

theorem accept_pack_refusal (result : BlackboxResult)
    (refused : acceptPack services settings answers = .error result) :
    result.packSha256 = answers.packSnapshot.toOption := by
  unfold acceptPack at refused
  split at refused
  · rename_i problem failed
    cases refused
    rw [failed]
    rfl
  · rename_i sha256 taken
    dsimp only at refused
    split_ifs at refused
    cases refused
    rw [taken]
    rfl

theorem projected_pack (baseline : List (Text × EntryState)) (packSha256 : Text)
    (isolation : BlackboxIsolation) (facts : BlackboxPackVerdictFacts) :
    (projectPackVerdict services request answers baseline packSha256 isolation facts).packSha256 =
      some packSha256 := by
  unfold projectPackVerdict enforceHarnessPostcondition
  dsimp only
  split <;> split_ifs <;> rfl

theorem blackbox_run_carries :
    Ends (blackboxRun services settings request answers) {} (CarriesPack answers)
      (CarriesPack answers) := by
  unfold blackboxRun
  -- Once the pack is accepted, every result is built on its digest and nothing is pending.
  apply ends_bind _ _ _ _ (fun state packSha256 => answers.packSnapshot = .ok packSha256 ∧
    state.packSha256 = answers.packSnapshot.toOption ∧ state.pending = none)
  · apply ends_of_pair
    · intro result refused
      exact refusal_carries answers _ _ rfl rfl
        (accept_pack_refusal services settings answers result refused)
    · intro packSha256 accepted
      exact ⟨accept_pack_snapshot services settings answers packSha256 accepted, rfl, rfl⟩
  intro packSha256 state accepted
  have snapshot : answers.packSnapshot.toOption = some packSha256 := by
    rw [accepted.1]
    rfl
  have refusal (result : BlackboxResult) (built : result.packSha256 = some packSha256) :
      CarriesPack answers state result :=
    refusal_carries answers state result accepted.2.1 accepted.2.2 (built.trans snapshot.symm)
  apply ends_bind _ _ _ _ (fun after _ => after = state)
  · apply ends_of_pair
    · intro result refused
      unfold trustedBaseline at refused
      split at refused
      · cases refused
      · cases refused
        exact refusal _ rfl
    · intro _ _
      rfl
  intro baseline after same
  subst same
  have mapped {Problem : Type} (problem : Option Problem) (build : Problem → BlackboxResult)
      (carries : ∀ found, (build found).packSha256 = some packSha256) (result : BlackboxResult)
      (refused : problem.map build = some result) : CarriesPack answers after result := by
    rcases Option.map_eq_some_iff.mp refused with ⟨found, _, built⟩
    rw [← built]
    exact refusal _ (carries found)
  apply ends_refuse_bind
  · exact mapped _ _ fun _ => rfl
  intro _
  apply ends_refuse_bind
  · exact mapped _ _ fun _ => rfl
  intro _
  apply ends_refuse_bind
  · exact mapped _ _ fun _ => rfl
  intro _
  apply ends_bind _ _ _ _ (fun last _ => last.packSha256 = answers.packSnapshot.toOption)
  · apply ends_of_pair
    · intro result refused
      unfold prepareBoundary at refused
      split at refused
      · cases refused
      · cases refused
        exact refusal_carries answers _ _ accepted.2.1 accepted.2.2 snapshot.symm
    · intro _ _
      exact accepted.2.1
  intro isolation last taken
  have projected := fun facts => (projected_pack services request answers baseline packSha256
    isolation facts).trans snapshot.symm
  apply ends_modify_bind
  apply ends_pure
  refine ⟨⟨taken, projected _⟩, ?_⟩
  intro pending found
  cases found
  exact projected _

theorem run_blackbox_pack :
    (runBlackbox services settings request answers).packSha256 =
      if settings.packDir.isEmpty || !answers.packExists then none
      else answers.packSnapshot.toOption := by
  unfold runBlackbox
  split_ifs
  · rfl
  have carries := finish_of_ends _ _ _ (blackbox_run_carries services settings request answers)
  revert carries
  generalize finish (blackboxRun services settings request answers) {} = ended
  intro carries
  have failure (diagnostics : Text) (error : BlackboxError) :
      (cleanupFailureResult ended.1 diagnostics error).packSha256 =
        answers.packSnapshot.toOption := by
    unfold cleanupFailureResult retainPendingCandidateEvidence
    split <;> exact carries.1.1
  have container (problem : Text) :
      (containerFailureResult ended.1 problem).packSha256 = answers.packSnapshot.toOption := by
    unfold containerFailureResult
    split
    · rename_i pending _ found
      exact carries.2 pending found
    · exact failure _ _
  unfold concludeCleanup
  split
  · exact carries.1.2
  · exact failure _ _
  · exact container _
  · exact container _

end

end EvoomGuard.Verifiers
