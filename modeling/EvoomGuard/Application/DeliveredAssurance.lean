import EvoomGuard.Application.DeliveredBoundaries
import EvoomGuard.Application.RepairAgreement
import EvoomGuard.RecordVerifier.AssuranceSemantics

/-!
The finalized assurance profile of a verification: it claims no more than every phase that ran
delivered, and the verifier of its record accepts it, with the runs for which this fails.
-/

namespace EvoomGuard.Application

open Lib Lib.Phase Domain Domain.Harness Verifiers RecordVerifier

/-- The suite and the pack of a repository run write their reports where the candidate can. -/
def repoReportIntegrity : ReportIntegrity := .sameProcessCandidateWritable

/-- The profile claims no more than what every phase that ran delivered. -/
structure Honest (execution : ExecutionPhaseResult) (profile : AssuranceProfile) : Prop where
  isolation : ∀ boundary ∈ ranBoundaries execution, ∀ rank,
    isolationRankPolicy (deliveredBoundary profile) = some rank → rank ≤ boundaryRank boundary
  integrity : ∀ rank delivered,
    reportIntegrityRankPolicy (deliveredIntegrity profile) = some rank →
      reportIntegrityRankPolicy repoReportIntegrity.name.toList = some delivered →
        rank ≤ delivered

section

variable (services : RepoServices) (settings : RepoSettings)
  (request : RepoCandidateAdmissionRequest)

/-- The accepted run of a verification loses the setup boundary. -/
def ForgetsHostSetup (answers : RepoAnswers) : Prop :=
  ∃ inputs baseline candidate,
    normalizeHarnessInputs services.mapping request.harnessInputs = .ok inputs ∧
      captureHarnessInputSnapshot services.quoted answers.trustedHarness inputs = .ok baseline ∧
      admitRepoCandidate services.mapping { request with harnessInputs := inputs } =
        .ok (.admitted candidate) ∧
      LosesHostSetup services settings answers candidate inputs baseline

/-- How the result of a verification is put together from the state it ended in. -/
structure ConcludedFrom (answers : RepoAnswers) (verdict : RepoVerdict) (state : RepoRunState)
    (ended : RepoVerdict) : Prop where
  concluded : verdict = concluded settings answers (state, ended)
  sound : ¬ForgetsHostSetup services settings request answers → SoundEnd state ended
  dishonest : ForgetsHostSetup services settings request answers →
    state.trace.executionState = .startedIncomplete ∧
      ¬BoundaryHonest state.trace ended.artifact.setupIsolation

theorem verify_repo_concluded (answers : LaunchedAnswers settings) (verdict : RepoVerdict)
    (verified : verifyRepo services settings request answers.toRepoAnswers = .ok verdict) :
    ∃ state ended,
      ConcludedFrom services settings request answers.toRepoAnswers verdict state ended := by
  have start : Untested ({} : RepoRunState).trace := ⟨rfl, Or.inl rfl, rfl⟩
  obtain ⟨inputs, ended, normal, ends, rfl⟩ :=
    verify_repo_cases services settings request answers.toRepoAnswers verdict verified
  refine ⟨ended.1, ended.2, rfl, ?_, ?_⟩
  · intro kept
    cases ends with
    | unbound | refused => exact untested_sound start _
    | ran baseline candidate captured admitted =>
      apply repo_run_sound services settings answers.toRepoAnswers candidate inputs baseline
        answers.launches
      intro loses
      exact kept ⟨inputs, baseline, candidate, normal, captured, admitted, loses⟩
  · rintro ⟨others, again, found, same, bound, accepted, loses⟩
    rw [normal] at same
    cases same
    cases ends with
    | unbound problem captured =>
      rw [captured] at bound
      cases bound
    | refused baseline result captured admitted =>
      rw [admitted] at accepted
      cases accepted
    | ran baseline candidate captured admitted =>
      rw [captured] at bound
      cases bound
      rw [admitted] at accepted
      cases accepted
      exact losing_run_dishonest services settings answers.toRepoAnswers _ inputs _ loses

theorem claimed_rank (boundary : Boundary) (rank : Nat)
    (ranked : isolationRankPolicy boundary.name.toList = some rank) :
    rank = boundaryRank boundary := by
  cases boundary <;> simp_all [isolationRankPolicy, Boundary.name, boundaryRank]

theorem ranked_of_positive (boundary : Boundary) (positive : 0 < boundaryRank boundary) :
    isolationRankPolicy boundary.name.toList = some (boundaryRank boundary) := by
  cases boundary <;> simp_all [isolationRankPolicy, Boundary.name, boundaryRank]

theorem claims_below_iff (claimed delivered : Boundary) :
    (∀ rank, isolationRankPolicy claimed.name.toList = some rank → rank ≤ boundaryRank delivered) ↔
      boundaryRank claimed ≤ boundaryRank delivered := by
  constructor
  · intro below
    by_cases positive : 0 < boundaryRank claimed
    · exact below _ (ranked_of_positive claimed positive)
    · omega
  · intro below rank ranked
    rw [claimed_rank claimed rank ranked]
    exact below

theorem writable_integrity (profile : AssuranceProfile)
    (weak : profile.reportIntegrity ≠ .externalProcessIsolated) (rank delivered : Nat)
    (claimed : reportIntegrityRankPolicy (deliveredIntegrity profile) = some rank)
    (channel : reportIntegrityRankPolicy repoReportIntegrity.name.toList = some delivered) :
    rank ≤ delivered := by
  unfold deliveredIntegrity at claimed
  cases reported : profile.reportIntegrity with
  | sameProcessCandidateWritable =>
    rw [reported] at claimed
    rw [repoReportIntegrity, claimed] at channel
    exact (Option.some.inj channel).le
  | externalProcessIsolated => exact absurd reported weak
  | notApplicableStaticGate | notApplicableNotRun =>
    simp [reported, reportIntegrityRankPolicy, ReportIntegrity.name] at claimed

/-- The profile of a finalized run: it claims no more than was delivered, and the verifier accepts
it in every record of repo mode that shows the lifecycle of the run. -/
structure DeliveredAssurance (outcome : RepoFinalizationOutcome) : Prop where
  honest : Honest (finalExecution outcome.evidence) outcome.assurance
  accepted : ∀ record policy,
    Emitted record policy outcome.executionState outcome.testCommandStarted →
      (checkAssuranceSemantics record (some (profilePayload outcome.assurance))
        (some policy)).status = .pass

variable (quoted : Text → Text) (shown : Rat → Text) (policy : RepoPolicy) (paths : PathFacts)
  (coverage : CoverageEvidence) (run : BaselineRun) (packDirectory : Bool)

theorem static_delivered (verdict : RepoVerdict) (static : paths.mayExecute = false) :
    DeliveredAssurance (finalizeRepoVerification quoted shown policy paths verdict coverage run
      packDirectory) := by
  have evidence : runEvidence paths verdict = none := by
    rw [runEvidence, if_neg (by simp [static])]
  constructor
  · simp only [finalizeRepoVerification, evidence]
    constructor
    · intro boundary ran
      cases ran
    · apply writable_integrity
      simp [repoAssurance, staticAssuranceProfile]
  · intro record policyFields emitted
    simp only [finalizeRepoVerification, evidence, finalExecution] at emitted ⊢
    exact static_profile_accepted _ record policyFields emitted

section

variable (answers : RepoAnswers) (verdict ended : RepoVerdict) (state : RepoRunState)
  (built : verdict = concluded settings answers (state, ended))
include built

theorem run_boundaries :
    ranBoundaries (repoVerificationEvidenceFromArtifact verdict.artifact).execution =
        ranBoundaries state.trace ∧
      (repoVerificationEvidenceFromArtifact verdict.artifact).setupIsolation =
        ended.artifact.setupIsolation := by
  subst built
  exact ⟨rfl, rfl⟩

theorem claimed_candidate (begun : state.trace.executionState ≠ .notStarted) :
    (repoAssurance policy packDirectory
        (some (repoVerificationEvidenceFromArtifact verdict.artifact))).candidateIsolation =
      claimedBoundary state.trace ended.artifact.setupIsolation := by
  subst built
  have delivered : (repoVerificationEvidenceFromArtifact
      (concluded settings answers (state, ended)).artifact).execution.deliveredIsolation =
        if state.trace.testCommandStarted then state.trace.deliveredIsolation else .notRun := rfl
  simp only [repoAssurance, repoAssuranceProfile, claimedBoundary, delivered]
  have facts : (repoVerificationEvidenceFromArtifact
        (concluded settings answers (state, ended)).artifact).execution.executionState =
          state.trace.executionState ∧
      (repoVerificationEvidenceFromArtifact
        (concluded settings answers (state, ended)).artifact).execution.testCommandStarted =
          state.trace.testCommandStarted ∧
      (repoVerificationEvidenceFromArtifact
        (concluded settings answers (state, ended)).artifact).setupIsolation =
          ended.artifact.setupIsolation := ⟨rfl, rfl, rfl⟩
  simp only [facts]
  cases started : state.trace.testCommandStarted with
  | false => simp [preflightAssuranceProfile]
  | true => simp [begun]

end

theorem unstarted_claims_nothing (verdict : RepoVerdict)
    (unstarted : verdict.artifact.execution.executionState = .notStarted) :
    (repoAssurance policy packDirectory
        (some (repoVerificationEvidenceFromArtifact verdict.artifact))).candidateIsolation =
      .notRun := by
  have early : (repoVerificationEvidenceFromArtifact
      verdict.artifact).execution.executionState = .notStarted := unstarted
  rw [repoAssurance, repoAssuranceProfile, if_pos (Or.inl early)]
  rfl

theorem repo_assurance_writable (evidence : VerificationEvidence) :
    (repoAssurance policy packDirectory (some evidence)).reportIntegrity ≠
      .externalProcessIsolated := by
  unfold repoAssurance repoAssuranceProfile
  dsimp only
  split
  · simp [preflightAssuranceProfile]
  · simp

/-- The finalized profile of a verification claims no more than every phase that ran delivered, and
its record is accepted, unless the run loses the boundary of a setup on the host. -/
theorem delivered_assurance_iff (answers : LaunchedAnswers settings) (verdict : RepoVerdict)
    (verified : verifyRepo services settings request answers.toRepoAnswers = .ok verdict) :
    DeliveredAssurance (finalizeRepoVerification quoted shown policy paths verdict coverage run
        packDirectory) ↔
      ¬(paths.mayExecute = true ∧
        ForgetsHostSetup services settings request answers.toRepoAnswers) := by
  cases executes : paths.mayExecute with
  | false =>
    apply iff_of_true
    · exact static_delivered quoted shown policy paths coverage run packDirectory verdict executes
    · simp
  | true =>
    rcases verify_repo_concluded services settings request answers verdict verified with
      ⟨state, ended, concluded⟩
    have evidence : runEvidence paths verdict =
        some (repoVerificationEvidenceFromArtifact verdict.artifact) := by
      rw [runEvidence, if_pos executes]
    have boundaries := run_boundaries settings answers.toRepoAnswers verdict ended state
      concluded.concluded
    have claimed := claimed_candidate settings policy packDirectory answers.toRepoAnswers verdict
      ended state concluded.concluded
    have trace : verdict.artifact.execution = state.trace := by
      rw [concluded.concluded]
      rfl
    simp only [true_and]
    constructor
    · intro delivered forgets
      rcases concluded.dishonest forgets with ⟨incomplete, dishonest⟩
      apply dishonest
      intro boundary ran
      rw [← claimed (by simp [incomplete]), ← claims_below_iff]
      have honest := delivered.honest.isolation boundary
      simp only [finalizeRepoVerification, evidence, finalExecution, boundaries.1] at honest
      exact honest ran
    · intro kept
      have sound := concluded.sound kept
      constructor
      · simp only [finalizeRepoVerification, evidence, finalExecution]
        constructor
        · intro boundary ran
          rw [boundaries.1] at ran
          rw [deliveredBoundary, claims_below_iff]
          by_cases begun : state.trace.executionState = .notStarted
          · rw [unstarted_claims_nothing policy packDirectory verdict (by rw [trace, begun])]
            exact Nat.zero_le _
          · rw [claimed begun]
            exact sound.honest boundary ran
        · exact writable_integrity _ (repo_assurance_writable policy packDirectory _)
      · intro record policyFields emitted
        simp only [finalizeRepoVerification, evidence, finalExecution] at emitted ⊢
        apply repo_profile_accepted _ _ _ record policyFields emitted
        · have live := sound.lifecycle.live
          rw [← trace] at live
          exact live
        · have finished := sound.lifecycle.finished
          rw [← trace] at finished
          exact finished

end

def hostSetupSettings : RepoSettings :=
  { livenessSettings [] with
    judge := ⟨.docker, "none", none, 300, none⟩
    dockerImage := "python:3.12"
    setupCommand := some ["make"]
    trustSetupOnHost := true
    requireAssertLiveness := false }

def hostSetupPolicy : RepoPolicy where
  isolation := .docker
  packConfigured := false
  setupCommandPresent := true
  collectDiffCoverage := false
  minDiffCoverage := none
  collectBaselineEvidence := false
  requireDemonstratedFix := false
  requireReportIntegrity := none
  requireCandidateIsolation := none
  measured := no_floor_measured _
  supported := rfl

/-- Setup succeeds on the host; the client of the suite's container ends as given. -/
def hostSetupAnswers (container : ContainerFacts) (client : ClientProcess) :
    LaunchedAnswers hostSetupSettings where
  toRepoAnswers :=
    { neuteredAnswers with
      image := .ok "sha256:0"
      setup := ⟨true, .ok (), .finished true 0 [] [], .ok []⟩
      suite := ⟨runNamedDockerClient container client, true, none, none⟩ }
  launches :=
    { setup := by
        intro _ untrusted
        cases untrusted
      suite := fun _ => ⟨container, client, rfl⟩
      pack := fun _ => ⟨⟨true, true⟩, .returned true 0 [] [], rfl⟩ }

def hostSetupOutcome (verdict : RepoVerdict) : RepoFinalizationOutcome :=
  finalizeRepoVerification id (fun _ => []) hostSetupPolicy deletionPaths verdict (.unmeasured none)
    failedBaseline false

/-- What the profile claims and where the phases ran. -/
def hostSetupClaim (verdict : RepoVerdict) : Boundary × List Boundary :=
  ((hostSetupOutcome verdict).assurance.candidateIsolation,
    ranBoundaries (finalExecution (hostSetupOutcome verdict).evidence))

theorem host_setup_completed_delivered :
    ∃ verdict, verifyRepo plainServices hostSetupSettings deletionRequest
        (hostSetupAnswers ⟨true, true⟩ (.returned true 0 [] [])).toRepoAnswers = .ok verdict ∧
      hostSetupClaim verdict = (.subprocess, [.hostOptIn, .docker]) ∧
      DeliveredAssurance (hostSetupOutcome verdict) := by
  have claimed : (verifyRepo plainServices hostSetupSettings deletionRequest
      (hostSetupAnswers ⟨true, true⟩ (.returned true 0 [] [])).toRepoAnswers).toOption.map
        hostSetupClaim = some (.subprocess, [.hostOptIn, .docker]) := by decide +kernel
  rcases returned_of_read _ _ _ claimed with ⟨verdict, verified, read⟩
  have delivered := (delivered_assurance_iff plainServices hostSetupSettings deletionRequest id
    (fun _ => []) hostSetupPolicy deletionPaths (.unmeasured none) failedBaseline false
    (hostSetupAnswers ⟨true, true⟩ (.returned true 0 [] [])) verdict verified).mpr (by
      intro forgets
      rcases forgets.2 with ⟨_, _, _, _, _, _, _, _, _, timeout, _⟩
      cases timeout.2)
  exact ⟨verdict, verified, read, delivered⟩

/-- The client times out after the container started: the profile claims the container, although
setup ran on the host. -/
theorem host_setup_timeout_claims_container :
    ∃ verdict, verifyRepo plainServices hostSetupSettings deletionRequest
        (hostSetupAnswers ⟨true, true⟩ .timedOut).toRepoAnswers = .ok verdict ∧
      hostSetupClaim verdict = (.docker, [.hostOptIn, .docker]) ∧
      ¬DeliveredAssurance (hostSetupOutcome verdict) := by
  have claimed : (verifyRepo plainServices hostSetupSettings deletionRequest
      (hostSetupAnswers ⟨true, true⟩ .timedOut).toRepoAnswers).toOption.map
        hostSetupClaim = some (.docker, [.hostOptIn, .docker]) := by decide +kernel
  rcases returned_of_read _ _ _ claimed with ⟨verdict, verified, read⟩
  refine ⟨verdict, verified, read, ?_⟩
  intro delivered
  have fields := (Prod.mk.injEq _ _ _ _).mp read
  have below := delivered.honest.isolation .hostOptIn
    (by rw [fields.2]; exact List.mem_cons_self) 1
    (by rw [deliveredBoundary, fields.1]; rfl)
  exact absurd below (by decide)

end EvoomGuard.Application
