import EvoomGuard.Verifiers.RepoRunEnds

/-!
What a repository run reports of its suite and of its pack: a run that leaves early passes nothing
and names no verdict source, the suite phase is kept exactly where a pack comes after it, and the
identity of the pack is kept from its intake on.
-/

namespace EvoomGuard.Verifiers

open Lib Lib.Phase Domain Domain.Harness

/-- A result that is neither a pass nor has a source; it says nothing of suite and pack itself. -/
structure Refused (verdict : RepoVerdict) : Prop where
  failed : verdict.passed = false
  unsourced : verdict.artifact.verdictSource = none
  silent : verdict.artifact.repoSuite = {}
  unbound : verdict.artifact.verifierPackSha256 = none

/-- The run left with the kept facts and a refusal. -/
def LeftWith (kept : RepoResultProjection) (state : RepoRunState) (verdict : RepoVerdict) : Prop :=
  state.projection = kept ∧ Refused verdict

def KeptWith {Value : Type} (kept : RepoResultProjection) (state : RepoRunState) (_value : Value) :
    Prop :=
  state.projection = kept

section Phases

variable (services : RepoServices) (settings : RepoSettings) (answers : RepoAnswers)
  (candidate : AdmittedRepoCandidate) (inputs : List Text) (baseline : List (Text × EntryState))
  (kept : RepoResultProjection) (state : RepoRunState) (held : state.projection = kept)

theorem mapped_refusal {Problem : Type} (problem : Option Problem) (build : Problem → RepoVerdict)
    (refusal : ∀ found, Refused (build found)) (verdict : RepoVerdict)
    (refused : problem.map build = some verdict) : Refused verdict := by
  rcases Option.map_eq_some_iff.mp refused with ⟨found, _, built⟩
  rw [← built]
  exact refusal found

theorem intake_refused (verdict : RepoVerdict)
    (refused : (packIntake services settings answers candidate).2 = some verdict) :
    Refused verdict := by
  simp only [packIntake, intakeRepoPack] at refused
  split_ifs at refused
  · cases refused
    exact ⟨rfl, rfl, rfl, rfl⟩
  · cases refused
    exact ⟨rfl, rfl, rfl, rfl⟩
  · split at refused
    · cases refused
      exact ⟨rfl, rfl, rfl, rfl⟩
    · split_ifs at refused
      cases refused
      exact ⟨rfl, rfl, rfl, rfl⟩

theorem image_refused (verdict : RepoVerdict)
    (refused : resolveImage settings answers candidate = .error verdict) : Refused verdict := by
  unfold resolveImage at refused
  split_ifs at refused
  · cases refused
    exact ⟨rfl, rfl, rfl, rfl⟩
  · split at refused
    · cases refused
    · cases refused
      exact ⟨rfl, rfl, rfl, rfl⟩

theorem harness_refused (unproven changed : Text) (setupIsolation : Option Boundary)
    (checkpoint : HarnessCheckpoint) (verdict : RepoVerdict)
    (refused : (verifyHarnessCheckpoint services.quoted baseline inputs unproven changed
      checkpoint).map (harnessVerdict candidate.filesChanged setupIsolation) = some verdict) :
    Refused verdict :=
  mapped_refusal _ _ (fun _ => ⟨rfl, rfl, rfl, rfl⟩) verdict refused

/-- The identity that the run binds: none where the edits do not apply. -/
def boundPack : Option Text :=
  if (materializationRefusal services answers candidate).isSome then none
  else (packIntake services settings answers candidate).1

theorem prepare_binds (fresh : state.projection = {}) :
    Ends (prepareCandidate services settings answers candidate inputs baseline) state
      (LeftWith { packIdentity := boundPack services settings answers candidate })
      (KeptWith { packIdentity := boundPack services settings answers candidate }) := by
  unfold prepareCandidate
  apply ends_refuse_bind
  · intro verdict refused
    have unbound : boundPack services settings answers candidate = none := by
      rw [boundPack, refused]
      rfl
    rw [unbound]
    exact ⟨fresh, mapped_refusal _ _ (fun _ => ⟨rfl, rfl, rfl, rfl⟩) verdict refused⟩
  intro applied
  apply ends_modify_bind
  have bound : { state.projection with
      packIdentity := (packIntake services settings answers candidate).1 } =
      ({ packIdentity := boundPack services settings answers candidate } :
        RepoResultProjection) := by
    rw [fresh, boundPack, applied]
    rfl
  apply ends_refuse_bind
  · intro verdict refused
    exact ⟨bound, intake_refused services settings answers candidate verdict refused⟩
  intro _
  apply ends_refuse_bind
  · intro verdict refused
    exact ⟨bound, mapped_refusal _ _ (fun _ => ⟨rfl, rfl, rfl, rfl⟩) verdict refused⟩
  intro _
  apply ends_refuse_bind
  · intro verdict refused
    exact ⟨bound, harness_refused services candidate inputs baseline _ _ _ _ verdict refused⟩
  intro _
  apply ends_bind _ _ _ _
    (KeptWith { packIdentity := boundPack services settings answers candidate })
  · apply ends_of_pair
    · intro verdict refused
      exact ⟨bound, image_refused settings answers candidate verdict refused⟩
    · intro _ _
      exact bound
  · intro _ _ still
    exact ends_pure _ _ _ _ still

include held

omit held in
theorem setup_refused (inContainer : Bool) (boundary : Boundary) (command : CompletedCommand)
    (after : Except Text (List Text)) (verdict : RepoVerdict)
    (refused : setupRefusal services.distill candidate.filesChanged inContainer boundary command
      after = some verdict) : Refused verdict := by
  unfold setupRefusal at refused
  split_ifs at refused
  · cases refused
    exact ⟨rfl, rfl, rfl, rfl⟩
  · split at refused
    · cases refused
      exact ⟨rfl, rfl, rfl, rfl⟩
    · cases refused
    · cases refused
      exact ⟨rfl, rfl, rfl, rfl⟩

omit held in
theorem setup_command_refused (judge : JudgeSettings) (command : Text) (trusted : Bool)
    (setup : SetupAnswers) (trace : ExecutionPhaseResult) (verdict : RepoVerdict)
    (failed : (executeRepoSetup services.distill services.quoted judge candidate.filesChanged
      command trusted setup trace).2 = .error verdict) : Refused verdict := by
  unfold executeRepoSetup at failed
  dsimp only at failed
  split at failed
  · cases failed
    exact ⟨rfl, rfl, rfl, rfl⟩
  · split at failed
    · cases failed
      exact ⟨rfl, rfl, rfl, rfl⟩
    · split at failed
      · cases failed
        exact ⟨rfl, rfl, rfl, rfl⟩
      · split at failed
        · rename_i refused
          cases failed
          exact setup_refused services candidate _ _ _ _ _ refused
        · cases failed

theorem setup_keeps (judge : JudgeSettings) :
    Ends (setupPhase services settings answers candidate judge) state (LeftWith kept)
      (KeptWith kept) := by
  unfold setupPhase
  cases settings.setupCommand with
  | none => exact ends_pure _ _ _ _ held
  | some command =>
    apply ends_bind _ _ _ _ (KeptWith kept)
    · apply ends_of_pair
      · intro verdict failed
        exact ⟨held, setup_command_refused services candidate judge _ _ _ _ verdict failed⟩
      · intro _ _
        exact held
    · intro _ _ still
      exact ends_pure _ _ _ _ still

omit held in
theorem requirements_refused (setupIsolation : Option Boundary) (verdict : RepoVerdict)
    (refused : requirementsRefusal services settings candidate setupIsolation = some verdict) :
    Refused verdict := by
  simp only [requirementsRefusal] at refused
  split_ifs at refused
  · cases refused
    exact ⟨rfl, rfl, rfl, rfl⟩
  · cases refused
    exact ⟨rfl, rfl, rfl, rfl⟩

theorem capture_keeps (setupIsolation : Option Boundary) :
    Ends (captureRuntime settings answers candidate setupIsolation) state (LeftWith kept)
      (KeptWith kept) := by
  unfold captureRuntime
  split_ifs
  · apply ends_modify_bind
    cases answers.runtimeBaseline with
    | ok identity => exact ends_pure _ _ _ _ held
    | error problem => exact ends_throw _ _ _ _ ⟨held, rfl, rfl, rfl, rfl⟩
  · exact ends_pure _ _ _ _ held

omit held in
theorem suite_command_refused (judge : JudgeSettings) (command : Text) (packConfigured : Bool)
    (setupIsolation : Option Boundary) (runtime : RuntimeIdentityEvidence)
    (process : ProcessOutcome) (trace : ExecutionPhaseResult) (verdict : RepoVerdict)
    (failed : (executeRepoSuite services.distill services.quoted judge candidate.filesChanged
      command packConfigured setupIsolation runtime process trace).2 = .error verdict) :
    Refused verdict := by
  unfold executeRepoSuite at failed
  dsimp only at failed
  split at failed
  · cases failed
    exact ⟨rfl, rfl, rfl, rfl⟩
  · cases failed

theorem after_suite_keeps (setupIsolation : Option Boundary) (captured : Option RuntimeIdentity) :
    Ends (afterSuite settings answers candidate setupIsolation captured) state (LeftWith kept)
      (KeptWith kept) := by
  unfold afterSuite
  cases captured with
  | none => exact ends_pure _ _ _ _ held
  | some identity =>
    apply ends_modify_bind
    apply ends_refuse
    · intro verdict refused
      exact ⟨held, mapped_refusal _ _ (fun _ => ⟨rfl, rfl, rfl, rfl⟩) verdict refused⟩
    · intro _
      exact held

omit held in
theorem suite_binds (fresh : state.projection = {}) :
    Ends (suitePhase services settings answers candidate inputs baseline) state
      (LeftWith { packIdentity := boundPack services settings answers candidate })
      (KeptWith { packIdentity := boundPack services settings answers candidate }) := by
  generalize kept : ({ packIdentity := boundPack services settings answers candidate } :
    RepoResultProjection) = bound
  unfold suitePhase
  apply ends_bind _ _ _ _ (KeptWith bound)
  · rw [← kept]
    exact prepare_binds services settings answers candidate inputs baseline state fresh
  intro judge prepared still
  apply ends_bind _ _ _ _ (KeptWith bound)
  · exact setup_keeps services settings answers candidate bound prepared still judge
  intro setupIsolation ready still
  apply ends_refuse_bind
  · intro verdict refused
    exact ⟨still, harness_refused services candidate inputs baseline _ _ _ _ verdict refused⟩
  intro _
  apply ends_refuse_bind
  · intro verdict refused
    exact ⟨still, requirements_refused services settings candidate setupIsolation verdict refused⟩
  intro _
  apply ends_bind _ _ _ _ (KeptWith bound)
  · exact capture_keeps settings answers candidate bound ready still setupIsolation
  intro captured launched still
  apply ends_modify_get_bind
  apply ends_refuse_bind
  · intro verdict refused
    exact ⟨still, harness_refused services candidate inputs baseline _ _ _ _ verdict refused⟩
  intro _
  apply ends_bind _ _ _ _ (KeptWith bound)
  · apply ends_of_pair
    · intro verdict failed
      exact ⟨still, suite_command_refused services candidate judge _ _ _ _ _ _ verdict failed⟩
    · intro _ _
      exact still
  intro command finished still
  apply ends_bind _ _ _ _ (KeptWith bound)
  · exact after_suite_keeps settings answers candidate bound finished still setupIsolation captured
  · intro _ _ done
    exact ends_pure _ _ _ _ done

omit held in
theorem suite_applied :
    Ends (suitePhase services settings answers candidate inputs baseline) state (fun _ _ => True)
      (fun _ _ => materializationRefusal services answers candidate = none) := by
  unfold suitePhase
  apply ends_bind _ _ _ _ (fun _ _ => materializationRefusal services answers candidate = none)
  · unfold prepareCandidate
    apply ends_refuse_bind
    · intro _ _
      trivial
    intro applied
    exact ends_of_fact _ _ _ applied
  · intro _ _ applied
    exact ends_of_fact _ _ _ applied

omit held in
theorem pack_command_refused (judge : JudgeSettings) (setupIsolation : Option Boundary)
    (runtime : RuntimeIdentityEvidence) (suiteObserved : IsolationObservation)
    (process : ProcessOutcome) (trace : ExecutionPhaseResult) (verdict : RepoVerdict)
    (failed : (executeRepoPack services.distill judge candidate.filesChanged setupIsolation runtime
      suiteObserved process trace).2 = .error verdict) : Refused verdict := by
  unfold executeRepoPack at failed
  dsimp only at failed
  split at failed
  · cases failed
    exact ⟨rfl, rfl, rfl, rfl⟩
  · cases failed

theorem pack_keeps (suite : CompletedSuite) :
    Ends (packPhase services answers candidate suite) state (LeftWith kept) (KeptWith kept) := by
  unfold packPhase
  apply ends_modify_bind
  apply ends_refuse_bind
  · intro verdict refused
    exact ⟨held, mapped_refusal _ _ (fun _ => ⟨rfl, rfl, rfl, rfl⟩) verdict refused⟩
  intro _
  apply ends_bind _ _ _ _ (KeptWith kept)
  · apply ends_of_pair
    · intro verdict failed
      exact ⟨held, pack_command_refused services candidate suite.judge _ _ _ _ _ verdict failed⟩
    · intro _ _
      exact held
  intro command finished still
  apply ends_modify_bind
  apply ends_refuse_bind
  · intro verdict refused
    exact ⟨still, mapped_refusal _ _ (fun _ => ⟨rfl, rfl, rfl, rfl⟩) verdict refused⟩
  intro _
  apply ends_refuse_bind
  · intro verdict refused
    exact ⟨still, mapped_refusal _ _ (fun _ => ⟨rfl, rfl, rfl, rfl⟩) verdict refused⟩
  intro _
  apply ends_modify_bind
  exact ends_pure _ _ _ _ still

end Phases

inductive SuiteReport (services : RepoServices) (settings : RepoSettings) (state : RepoRunState)
    (verdict : RepoVerdict) : Prop
  | unkept (refused : Refused verdict) (dropped : state.projection.repoSuitePhase = none)
  | kept (run : CompletedRun) (strictHarness : Bool) (refused : Refused verdict)
      (packed : settings.packConfigured = true)
      (held : state.projection.repoSuitePhase = some (repoSuitePhaseArtifact
        (interpretRepoSuite services.parseXml services.mapping.lower run strictHarness)))
  | alone (distill : Text → Text) (context : CompletedContext) (run : CompletedRun)
      (strictHarness : Bool) (unpacked : settings.packConfigured = false)
      (dropped : state.projection.repoSuitePhase = none)
      (finished : state.trace.executionState = .completed)
      (started : state.trace.testCommandStarted = true)
      (judged : verdict = completedVerdict distill context
        (interpretRepoSuite services.parseXml services.mapping.lower run strictHarness) none)
  | composed (distill : Text → Text) (context : CompletedContext) (run packRun : CompletedRun)
      (strictHarness : Bool) (packed : settings.packConfigured = true)
      (held : state.projection.repoSuitePhase = some (repoSuitePhaseArtifact
        (interpretRepoSuite services.parseXml services.mapping.lower run strictHarness)))
      (judged : verdict = completedVerdict distill context
        (interpretRepoSuite services.parseXml services.mapping.lower run strictHarness)
        (some (interpretRepoPack services.parseXml packRun)))

/-- The run kept the identity, and its result says nothing else of the pack. -/
def BindsPack (identity : Option Text) (state : RepoRunState) (verdict : RepoVerdict) : Prop :=
  state.projection.packIdentity = identity ∧
    (verdict.artifact.verifierPackSha256 = none ∨ verdict.artifact.verifierPackSha256 = identity)

section Runs

variable (services : RepoServices) (settings : RepoSettings) (answers : RepoAnswers)

theorem judge_phases_report (candidate : AdmittedRepoCandidate) (suite : CompletedSuite)
    (state : RepoRunState)
    (held : state.projection = { packIdentity := boundPack services settings answers candidate })
    (applied : materializationRefusal services answers candidate = none)
    (finished : SuiteCompleted settings state) :
    let reports := fun after verdict => SuiteReport services settings after verdict ∧
      BindsPack (boundPack services settings answers candidate) after verdict
    Ends (judgePhases services settings answers candidate suite) state reports reports := by
  intro reports
  have dropped : state.projection.repoSuitePhase = none := by
    rw [held]
  have bound : state.projection.packIdentity = boundPack services settings answers candidate := by
    rw [held]
  have intake : (packIntake services settings answers candidate).1 =
      boundPack services settings answers candidate := by
    rw [boundPack, applied]
    rfl
  unfold judgePhases
  apply ends_refuse_bind
  · intro verdict refused
    have left : Refused verdict := by
      split_ifs at refused <;> cases refused <;> exact ⟨rfl, rfl, rfl, rfl⟩
    exact ⟨SuiteReport.unkept left dropped, bound, Or.inl left.unbound⟩
  intro _
  split_ifs with packed
  · apply ends_modify_bind
    apply ends_bind _ _ _ _ (KeptWith
      { packIdentity := boundPack services settings answers candidate
        repoSuitePhase := some (repoSuitePhaseArtifact
          (suiteResult services settings answers candidate suite)) })
    · apply ends_weaken _ _ _ _ _ _ (pack_keeps services answers candidate _ _ rfl suite)
      · intro after verdict left
        refine ⟨SuiteReport.kept _ _ left.2 packed (by rw [left.1]; rfl), ?_, Or.inl left.2.unbound⟩
        rw [left.1]
        exact bound
      · intro after pack still
        rw [KeptWith, still]
        simp [bound]
    · intro pack after still
      apply ends_pure
      refine ⟨SuiteReport.composed services.distill _ _ pack _ packed (by rw [still]; rfl) rfl, ?_,
        Or.inr intake⟩
      rw [still]
  · rw [SuiteCompleted, if_neg packed] at finished
    apply ends_modify_bind
    apply ends_pure
    exact ⟨SuiteReport.alone services.distill _ _ _ (by simpa using packed) dropped finished.1
      finished.2 rfl, bound, Or.inr intake⟩

theorem repo_run_reports (candidate : AdmittedRepoCandidate) (inputs : List Text)
    (baseline : List (Text × EntryState)) (unlisted : inputs = [] → baseline = []) :
    let ended := finish (repoRun services settings answers candidate inputs baseline) {}
    SuiteReport services settings ended.1 ended.2 ∧
      BindsPack (boundPack services settings answers candidate) ended.1 ended.2 := by
  apply finish_of_ends _ _ (fun after verdict => SuiteReport services settings after verdict ∧
    BindsPack (boundPack services settings answers candidate) after verdict)
  unfold repoRun
  apply ends_bind _ _ _ _ (fun after _ =>
    (after.projection = { packIdentity := boundPack services settings answers candidate } ∧
      materializationRefusal services answers candidate = none) ∧ SuiteCompleted settings after)
  · apply ends_weaken _ _ _ _ _ _ (ends_both _ _ _ _ _ _ (ends_both _ _ _ _ _ _
      (suite_binds services settings answers candidate inputs baseline {} rfl)
      (suite_applied services settings answers candidate inputs baseline {}))
      (suite_phase_ends services settings answers candidate inputs baseline unlisted {} rfl))
    · intro after verdict left
      have kept := left.1.1.1
      exact ⟨SuiteReport.unkept left.1.1.2 (by rw [kept]), by rw [kept],
        Or.inl left.1.1.2.unbound⟩
    · intro after suite reached
      exact reached
  · intro suite after reached
    exact judge_phases_report services settings answers candidate suite after reached.1.1
      reached.1.2 reached.2

variable (request : RepoCandidateAdmissionRequest)

theorem admission_refused (normalized : List Text)
    (accepted : normalizeHarnessInputs services.mapping request.harnessInputs = .ok normalized)
    (result : VerdictResult CandidateArtifact)
    (refused : admitRepoCandidate services.mapping request = .ok (.terminal result)) :
    Refused (admissionVerdict result) := by
  have ends := admission_terminal_ends services request normalized accepted result refused
    ⟨false, false⟩
  cases ends with
  | unapplied _ ends | refused outcome ends _ => exact ⟨ends.failed, ends.unsourced, rfl, rfl⟩
  | completed _ _ _ _ _ finished => cases finished

/-- The identity of the pack that a verification binds, from its inputs. -/
def verifiedPack (request : RepoCandidateAdmissionRequest) : Option Text :=
  match normalizeHarnessInputs services.mapping request.harnessInputs with
  | .error _ => none
  | .ok inputs =>
    match captureHarnessInputSnapshot services.quoted answers.trustedHarness inputs with
    | .error _ => none
    | .ok _ =>
      match admitRepoCandidate services.mapping { request with harnessInputs := inputs } with
      | .ok (.admitted candidate) => boundPack services settings answers candidate
      | _ => none

theorem verify_repo_reports (verdict : RepoVerdict)
    (verified : verifyRepo services settings request answers = .ok verdict) :
    ∃ ended, verdict = concluded settings answers ended ∧
      SuiteReport services settings ended.1 ended.2 ∧
      BindsPack (verifiedPack services settings answers request) ended.1 ended.2 := by
  obtain ⟨inputs, ended, normal, ends, rfl⟩ :=
    verify_repo_cases services settings request answers verdict verified
  refine ⟨ended, rfl, ?_⟩
  cases ends with
  | unbound problem captured =>
    simp only [verifiedPack, normal, captured]
    exact ⟨SuiteReport.unkept ⟨rfl, rfl, rfl, rfl⟩ rfl, rfl, Or.inl rfl⟩
  | refused baseline result captured admitted =>
    simp only [verifiedPack, normal, captured, admitted]
    obtain ⟨again, accepted, _⟩ := normalize_harness_inputs_again _ _ _ normal
    have left := admission_refused services { request with harnessInputs := inputs }
      again accepted result admitted
    exact ⟨SuiteReport.unkept left rfl, rfl, Or.inl left.unbound⟩
  | ran baseline candidate captured admitted =>
    simp only [verifiedPack, normal, captured, admitted]
    exact repo_run_reports services settings answers candidate inputs baseline
      (captured_nothing services.quoted captured)

theorem verify_repo_pack (verdict : RepoVerdict)
    (verified : verifyRepo services settings request answers = .ok verdict) :
    verdict.artifact.verifierPackSha256 = verifiedPack services settings answers request := by
  rcases verify_repo_reports services settings answers request verdict verified with
    ⟨ended, concludes, _, kept, said⟩
  rw [concludes]
  simp only [concluded, RepoResultProjection.finalize, kept]
  rcases said with silent | same
  · rw [silent]
    cases verifiedPack services settings answers request <;> rfl
  · rw [same]
    cases verifiedPack services settings answers request <;> rfl

end Runs

end EvoomGuard.Verifiers
