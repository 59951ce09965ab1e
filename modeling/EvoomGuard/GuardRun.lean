import EvoomGuard.Application.Attestation
import EvoomGuard.Application.BlackboxFinalization
import EvoomGuard.Application.RequestPreparation
import EvoomGuard.GuardAdmission
import EvoomGuard.PackManifest
import EvoomGuard.Verifiers.RepoSuiteReport

/-!
`guard` of `guard.py`: from a prepared request to its record. The risk score of a record is left
out; what the host, the verifiers and the file system answer along the way is an argument.
-/

namespace EvoomGuard.Guard

open Application Application.RequestPreparation Candidate Domain Domain.Harness Domain.Policy Lib
open PackManifest Policy Verifiers

/-- The operations a call is given. `python` is the interpreter of the host; `structuredAdapter`
and `pytestCommand` are the answers of the runner adapters to a command. -/
structure GuardHost where
  services : RepoServices
  shown : Rat → Text
  dumps : Json → Text
  decodeManifest : ByteArray → Except Text Json
  absolute : Text → Text
  absolute_filled : ∀ path, absolute path ≠ []
  python : Text
  structuredAdapter : List Text → Bool
  pytestCommand : List Text → Bool

structure GuardCall where
  settings : GuardRequestPreparationInput
  base : BaseTree
  candidate : Text
  fileBlocks : Option (Dict Text Text) := none
  deleted : List Text := []
  revisions : NamedRevisions := {}
  requireSuiteContinuity : Bool := false
  requireAssertLiveness : Bool := false
  requireStructuredVerdict : Bool := false

/-- What is answered along a call. The snapshot is taken of `pack`, and `packCopy` is the copy. -/
structure GuardAnswers where
  repo : RepoAnswers
  blackbox : BlackboxAnswers
  pack : Pack
  packCopy : Except Text Pack
  packDestination : Text
  coverage : CoverageEvidence
  baseline : BaselineRun
  packDirectory : Bool

structure GuardResult where
  decision : GuardDecision
  filesChanged : List Text
  protectedViolations : List Text := []
  testsPassed : Option Nat := none
  testsTotal : Option Nat := none
  testCommandRan : Bool := false
  executionState : ExecutionState
  executionPhase : ExecutionPhase
  verdictSource : Option VerdictSource := none
  diagnostics : Text := []
  isolation : Boundary := .notRun
  diffCoverage : Option CoverageEvidence := none
  baseline : Option BaselineEvidence := none
  assurance : AssuranceProfile
  attestation : RecordAttestation

/-- What `guard` raises instead of returning a record. -/
inductive GuardError where
  | preparation (problem : PreparationError)
  | harnessInputFiles (problems : List Text)
  | preflight (problem : HarnessInputPolicyError)
  | run (problem : RepoRunError)

/-- A supported isolation mode as a value. -/
def isolationOf (name : Text) : Isolation :=
  if name = dockerIsolation then .docker
  else if name = gvisorIsolation then .gvisor
  else .subprocess

namespace GuardCall

variable (call : GuardCall)

def isolation : Isolation := isolationOf call.settings.isolation

def packGiven : Bool := givenText call.settings.verifierPackPath

def unsupported : List PolicyRequirement :=
  unsupportedPolicyRequirements call.settings.requireDemonstratedFix call.settings.minDiffCoverage
    call.settings.blackbox call.isolation (givenCommand call.settings.setupCommand).isSome

/-- The candidate as its paths are classified, with the normalized harness inputs. -/
def asCandidate (harnessInputs : List Text) : GuardCandidate where
  base := call.base
  candidate := call.candidate
  fileBlocks := call.fileBlocks
  deleted := call.deleted
  protectedGlobs := call.settings.protectedGlobs
  allow := call.settings.allow
  allowNewTests := call.settings.allowNewTests
  strictHarness := call.settings.strictHarness
  harnessInputs := harnessInputs

end GuardCall

section

variable (host : GuardHost) (call : GuardCall)

def baseCommand : List Text :=
  match givenCommand call.settings.testCommand with
  | some command => command
  | none => [if call.isolation.container then "python" else host.python, "-m",
      "pytest", "-q", "--color=no", "-p".toList, "no:cacheprovider".toList]

def packDir : Text :=
  if call.packGiven then host.absolute (call.settings.verifierPackPath.getD []) else []

def repoSettings : RepoSettings where
  judge :=
    { isolation := call.isolation
      dockerNetwork := call.settings.dockerNetwork
      dockerRuntime := if call.isolation = .gvisor then some "runsc" else none
      timeout := call.settings.timeout.toNat
      resolvedImage := none }
  dockerImage := call.settings.dockerImage.getD []
  packDir := packDir host call
  expectedPackSha256 := host.services.mapping.lower
    (call.settings.expectVerifierPackSha256.getD [])
  setupCommand := givenCommand call.settings.setupCommand
  setupOutputGlobs := call.settings.setupOutputGlobs
  trustSetupOnHost := call.settings.trustSetupOnHost
  command := baseCommand host call
  structuredAdapter := host.structuredAdapter (baseCommand host call)
  pytestCommand := host.pytestCommand (baseCommand host call)
  requireStructuredVerdict := call.requireStructuredVerdict
  requireAssertLiveness := call.requireAssertLiveness
  requireSuiteContinuity := call.requireSuiteContinuity

-- The external judge lowers the pin itself.
def blackboxSettings : RepoSettings :=
  { repoSettings host call with
    expectedPackSha256 := call.settings.expectVerifierPackSha256.getD [] }

def blackboxPolicy : BlackboxPolicy where
  blackboxOnly := call.settings.blackboxOnly
  collectBaselineEvidence := call.settings.baselineEvidence
  collectDiffCoverage := call.settings.collectDiffCoverage || call.settings.minDiffCoverage.isSome
  requireReportIntegrity := call.settings.requireReportIntegrity
  requireCandidateIsolation := call.settings.requireCandidateIsolation

theorem supported_without_blackbox (supported : call.unsupported = []) :
    unsupportedPolicyRequirements call.settings.requireDemonstratedFix
      call.settings.minDiffCoverage false call.isolation
      (givenCommand call.settings.setupCommand).isSome = [] := by
  unfold GuardCall.unsupported unsupportedPolicyRequirements at supported
  simp only [List.append_eq_nil_iff] at supported
  have fix := supported.1.1
  have floor := supported.1.2
  unfold unsupportedPolicyRequirements
  cases blackbox : call.settings.blackbox with
  | false =>
    rw [blackbox] at fix floor
    rw [fix, floor]
    rfl
  | true =>
    rw [blackbox] at fix floor
    simp only [Bool.true_or, Bool.and_true, ite_eq_right_iff, List.cons_ne_self,
      imp_false, Bool.not_eq_true] at fix floor
    simp [fix, floor]

def repoPolicy (supported : call.unsupported = []) : RepoPolicy where
  isolation := call.isolation
  packConfigured := call.packGiven
  setupCommandPresent := (givenCommand call.settings.setupCommand).isSome
  collectDiffCoverage := call.settings.collectDiffCoverage || call.settings.minDiffCoverage.isSome
  minDiffCoverage := call.settings.minDiffCoverage
  collectBaselineEvidence := call.settings.baselineEvidence
  requireDemonstratedFix := call.settings.requireDemonstratedFix
  requireReportIntegrity := call.settings.requireReportIntegrity
  requireCandidateIsolation := call.settings.requireCandidateIsolation
  measured := by
    intro floor
    rw [floor, Bool.or_true]
  supported := supported_without_blackbox call supported

end

section

variable (host : GuardHost) (call : GuardCall) (answers : GuardAnswers)
  (prepared : PreparedGuardRequest)

def packSnapshot : Except Text PackIdentity :=
  snapshotPack host.services.quoted host.decodeManifest (packDir host call) answers.packDestination
    answers.pack answers.packCopy

/-- The pack a record names, with the manifest of its snapshot. -/
def attestedPack (sha256 : Option Text) : Option PackIdentity :=
  sha256.map fun digest => (digest, (packSnapshot host call answers).toOption.bind Prod.snd)

def attestation (safeDeleted : List Text) (pack : Option PackIdentity) : RecordAttestation :=
  buildAttestation host.dumps call.candidate safeDeleted prepared.effectivePolicy pack
    call.revisions

def requirementName : PolicyRequirement → Text
  | .requireDemonstratedFix => "require_demonstrated_fix"
  | .minDiffCoverage => "min_diff_coverage"
  | .setupCommand => "setup_command"

def unsupportedReason : Text :=
  "policy requirement(s) " ++
    Text.join ", " (call.unsupported.map requirementName) ++
    " cannot be enforced under " ++
    (if call.settings.blackbox then "the black-box judge".toList
      else "isolation ".toList ++ host.services.quoted call.settings.isolation) ++
    (". Refusing to return a verdict that " ++
      "silently drops or ignores a requested option; select a compatible " ++
      "mode/policy or remove the requirement.").toList

/-- A record of a request that is refused before its candidate is judged. -/
def refusedResult (reasonCode : ReasonCode) (reason : Text) (filesChanged safeDeleted : List Text)
    (packConfigured : Bool) : GuardResult where
  decision := ⟨.error, reasonCode, reason⟩
  filesChanged := filesChanged
  executionState := .notStarted
  executionPhase := .preflight
  assurance := preflightAssuranceProfile ⟨.notStarted, .preflight, false, none, none⟩
    (if packConfigured then some ⟨none, none, false, false, none, none⟩ else none)
  attestation := attestation host call prepared safeDeleted none

def changed : List Text := changedPaths call.candidate call.fileBlocks

-- The files are read from the candidate; no deletion is attested.
def unsupportedResult : GuardResult :=
  refusedResult host call prepared .policyRequirementUnsupported (unsupportedReason host call)
    (changed call) [] call.packGiven

variable (preflight : CandidatePreflight)

def packRequiredResult : GuardResult :=
  refusedResult host call prepared .verifierPackRequired
    "--blackbox requires --verifier-pack (the judge-owned protocol tests)"
    preflight.changedPaths preflight.safeDeletedPaths false

def admission : RepoCandidateAdmissionRequest :=
  (call.asCandidate prepared.policy.harnessInputs).admissionRequest preflight
    prepared.policy.harnessInputs

def repoAnswers : RepoAnswers :=
  { answers.repo with
    intake := { answers.repo.intake with
      snapshot := (packSnapshot host call answers).map Prod.fst } }

theorem pack_configured (given : call.packGiven = true) :
    (blackboxSettings host call).packConfigured = true := by
  simp only [RepoSettings.packConfigured, blackboxSettings, repoSettings, packDir, given, if_true,
    Bool.not_eq_true', List.isEmpty_eq_false_iff]
  exact host.absolute_filled _

def blackboxVerification (given : call.packGiven = true) : BlackboxVerification where
  services := host.services
  settings := blackboxSettings host call
  request := admission call prepared preflight
  answers := { answers.blackbox with
    packSnapshot := (packSnapshot host call answers).map Prod.fst }
  repoAnswers := repoAnswers host call answers
  policy := blackboxPolicy call
  configured := pack_configured host call given

def blackboxResult (given : call.packGiven = true) : Except GuardError GuardResult :=
  let verification := blackboxVerification host call answers prepared preflight given
  match verification.finalized with
  | .error problem => .error (.run problem)
  | .ok outcome => .ok
      { decision := outcome.decision
        filesChanged := preflight.changedPaths
        testsPassed := outcome.testsPassed
        testsTotal := outcome.testsTotal
        testCommandRan := outcome.testCommandStarted
        executionState := outcome.executionState
        executionPhase := outcome.executionPhase
        verdictSource := outcome.verdictSource
        diagnostics := outcome.diagnostics
        isolation := outcome.effectiveCandidateIsolation
        diffCoverage := outcome.diffCoverage
        baseline := outcome.baseline
        assurance := outcome.assurance
        attestation := attestation host call prepared preflight.safeDeletedPaths
          (attestedPack host call answers verification.result.packSha256) }

def pathFacts : PathFacts where
  touched := preflight.allTouchedPaths
  unsafePaths := preflight.unsafePaths
  violations := preflight.protectedViolations

def repoVerdict : Except RepoRunError RepoVerdict :=
  verifyRepo host.services (repoSettings host call) (admission call prepared preflight)
    (repoAnswers host call answers)

/-- A judgment that runs nothing. -/
def unjudged : RepoVerdict := ⟨false, 0, [], {}⟩

def repoRecorded (supported : call.unsupported = []) (verdict : RepoVerdict) : GuardResult :=
  let outcome := finalizeRepoVerification host.services.quoted host.shown (repoPolicy call supported)
    (pathFacts preflight) verdict answers.coverage answers.baseline answers.packDirectory
  { decision := outcome.decision
    filesChanged := preflight.changedPaths
    protectedViolations := preflight.protectedViolations
    testsPassed := outcome.evidence.bind VerificationEvidence.testsPassed
    testsTotal := outcome.evidence.bind VerificationEvidence.testsTotal
    testCommandRan := outcome.testCommandStarted
    executionState := outcome.executionState
    executionPhase := outcome.executionPhase
    verdictSource := outcome.evidence.bind VerificationEvidence.verdictSource
    diagnostics := if preflight.mayExecute then verdict.diagnostics else []
    isolation := outcome.effectiveCandidateIsolation
    diffCoverage := outcome.diffCoverage
    baseline := outcome.baseline
    assurance := outcome.assurance
    attestation := attestation host call prepared preflight.safeDeletedPaths
      (attestedPack host call answers (outcome.evidence.bind fun evidence =>
        evidence.verifierPack.sha256)) }

-- The verifier is called only when the diff alone has not decided.
def repoResult (supported : call.unsupported = []) : Except GuardError GuardResult :=
  if preflight.mayExecute then
    match repoVerdict host call answers prepared preflight with
    | .error problem => .error (.run problem)
    | .ok verdict => .ok (repoRecorded host call answers prepared preflight supported verdict)
  else .ok (repoRecorded host call answers prepared preflight supported unjudged)

end

def judged (host : GuardHost) (call : GuardCall) (answers : GuardAnswers)
    (prepared : PreparedGuardRequest) (supported : call.unsupported = [])
    (preflight : CandidatePreflight) : Except GuardError GuardResult :=
  if call.settings.blackbox && preflight.mayExecute then
    if given : call.packGiven = true then
      blackboxResult host call answers prepared preflight given
    else .ok (packRequiredResult host call prepared preflight)
  else repoResult host call answers prepared preflight supported

def guard (host : GuardHost) (call : GuardCall) (answers : GuardAnswers) :
    Except GuardError GuardResult :=
  match prepareGuardRequest host.services.mapping call.settings with
  | .error problem => .error (.preparation problem)
  | .ok prepared =>
    if prepared.policy.harnessInputs.filterMap answers.repo.trustedProblems ≠ [] then
      .error (.harnessInputFiles
        (prepared.policy.harnessInputs.filterMap answers.repo.trustedProblems))
    else if supported : call.unsupported = [] then
      match evaluateCandidatePreflight host.services.mapping
          (call.asCandidate prepared.policy.harnessInputs).preflightRequest with
      | .error problem => .error (.preflight problem)
      | .ok preflight => judged host call answers prepared supported preflight
    else .ok (unsupportedResult host call prepared)

theorem verified_pack_snapshot (services : RepoServices) (settings : RepoSettings)
    (answers : RepoAnswers) (request : RepoCandidateAdmissionRequest) (digest : Text)
    (bound : verifiedPack services settings answers request = some digest) :
    settings.packDir.isEmpty = false ∧ answers.intake.snapshot = .ok digest := by
  unfold verifiedPack at bound
  split at bound
  · cases bound
  · split at bound
    · cases bound
    · split at bound
      · unfold boundPack packIntake intakeRepoPack at bound
        split_ifs at bound with _ empty
        refine ⟨by simpa using empty, ?_⟩
        split at bound
        · cases bound
        · rename_i sha256 taken
          split_ifs at bound <;> cases bound <;> exact taken
      · cases bound

section Attests

variable (host : GuardHost) (call : GuardCall) (answers : GuardAnswers)
  (prepared : PreparedGuardRequest)

def classified : CandidatePreflightRequest :=
  (call.asCandidate prepared.policy.harnessInputs).preflightRequest

/-- A deletion that the preflight takes out of the list. -/
def withheld (path : Text) : Bool :=
  !isSafeRelpath host.services.mapping path ||
    violates host.services.mapping (classified call prepared) path

def attestedDeletions : List Text :=
  if call.unsupported = [] then
    Text.sorted (call.deleted.filter fun path => !withheld host call prepared path)
  else []

def takenPack (preflight : CandidatePreflight) : Option Text :=
  if preflight.mayExecute then
    if call.settings.blackbox then
      if call.packGiven && answers.blackbox.packExists then
        (packSnapshot host call answers).toOption.map Prod.fst
      else none
    else verifiedPack host.services (repoSettings host call) (repoAnswers host call answers)
      (admission call prepared preflight)
  else none

def recordedPack : Option Text :=
  match call.unsupported with
  | [] =>
    match evaluateCandidatePreflight host.services.mapping (classified call prepared) with
    | .error _ => none
    | .ok preflight => takenPack host call answers prepared preflight
  | _ => none

theorem safe_deletions (preflight : CandidatePreflight) (supported : call.unsupported = [])
    (evaluated : evaluateCandidatePreflight host.services.mapping (classified call prepared) =
      .ok preflight) : preflight.safeDeletedPaths = attestedDeletions host call prepared := by
  rcases normalized_of_evaluated _ _ _ evaluated with ⟨normalized, accepted⟩
  rw [evaluate_candidate_preflight_ok _ _ normalized accepted, Except.ok.injEq] at evaluated
  rw [← evaluated, attestedDeletions, if_pos supported]
  simp only [withheld, Bool.not_or, Bool.not_not]
  rfl

theorem recorded_attestation (preflight : CandidatePreflight) (supported : call.unsupported = [])
    (verdict : RepoVerdict) :
    (repoRecorded host call answers prepared preflight supported verdict).attestation =
      attestation host call prepared preflight.safeDeletedPaths (attestedPack host call answers
        (if preflight.mayExecute then verdict.artifact.verifierPackSha256 else none)) := by
  have evidence : runEvidence (pathFacts preflight) verdict =
      if preflight.mayExecute then some (repoVerificationEvidenceFromArtifact verdict.artifact)
      else none := rfl
  simp only [repoRecorded, finalizeRepoVerification, evidence]
  split_ifs <;> rfl

/-- Every record attests the candidate, the policy, the deletions the preflight lets through and
the pack that the run took. -/
theorem guard_attests (result : GuardResult) (guarded : guard host call answers = .ok result) :
    ∃ prepared, prepareGuardRequest host.services.mapping call.settings = .ok prepared ∧
      result.attestation = attestation host call prepared (attestedDeletions host call prepared)
        (attestedPack host call answers (recordedPack host call answers prepared)) := by
  unfold guard at guarded
  split at guarded
  · cases guarded
  · rename_i prepared accepted
    split_ifs at guarded with _ supported
    · split at guarded
      · cases guarded
      · rename_i preflight evaluated
        refine ⟨prepared, accepted, ?_⟩
        rw [← safe_deletions host call prepared preflight supported evaluated]
        have recorded : recordedPack host call answers prepared =
            takenPack host call answers prepared preflight := by
          rw [recordedPack, supported, classified, evaluated]
        rw [recorded, takenPack]
        unfold judged at guarded
        split_ifs at guarded with external given
        · rw [Bool.and_eq_true] at external
          unfold blackboxResult at guarded
          simp only at guarded
          split at guarded
          · cases guarded
          · cases guarded
            have taken := run_blackbox_pack host.services (blackboxSettings host call)
              (admission call prepared preflight) { answers.blackbox with
                packSnapshot := (packSnapshot host call answers).map Prod.fst }
            have filled := pack_configured host call given
            simp only [RepoSettings.packConfigured, Bool.not_eq_true'] at filled
            simp only [BlackboxVerification.result, blackboxVerification, taken, external.1,
              external.2, given, filled, if_true, Bool.false_or, Bool.true_and, Bool.not_eq_true']
            cases answers.blackbox.packExists with
            | false => rfl
            | true => cases packSnapshot host call answers <;> rfl
        · cases guarded
          rw [Bool.and_eq_true] at external
          simp only [external.1, external.2, given, if_true, Bool.false_and, Bool.false_eq_true,
            if_false]
          rfl
        · unfold repoResult at guarded
          split_ifs at guarded with executes
          · split at guarded
            · cases guarded
            · rename_i verdict verified
              cases guarded
              have internal : call.settings.blackbox = false := by simpa [executes] using external
              rw [recorded_attestation, executes, if_pos rfl, if_pos rfl, internal,
                verify_repo_pack _ _ _ _ _ verified]
              rfl
          · cases guarded
            rw [recorded_attestation, if_neg executes, if_neg executes]
    · cases guarded
      refine ⟨prepared, accepted, ?_⟩
      have none : recordedPack host call answers prepared = none := by
        unfold recordedPack
        split
        · rename_i supports
          exact absurd supports supported
        · rfl
      rw [none, attestedDeletions, if_neg supported]
      rfl

theorem recorded_pack_snapshot (digest : Text)
    (recorded : recordedPack host call answers prepared = some digest) :
    call.packGiven = true ∧ ∃ manifest, packSnapshot host call answers = .ok (digest, manifest) := by
  have taken (snapshot : (packSnapshot host call answers).map Prod.fst = .ok digest) :
      ∃ manifest, packSnapshot host call answers = .ok (digest, manifest) := by
    cases found : packSnapshot host call answers with
    | error problem =>
      rw [found] at snapshot
      cases snapshot
    | ok identity =>
      rw [found] at snapshot
      cases snapshot
      exact ⟨identity.2, rfl⟩
  unfold recordedPack at recorded
  split at recorded
  · split at recorded
    · cases recorded
    · unfold takenPack at recorded
      split_ifs at recorded with _ _ external
      · rw [Bool.and_eq_true] at external
        refine ⟨external.1, taken ?_⟩
        cases found : packSnapshot host call answers with
        | error problem =>
          rw [found] at recorded
          cases recorded
        | ok identity =>
          rw [found] at recorded
          cases recorded
          rfl
      · have bound := verified_pack_snapshot _ _ _ _ _ recorded
        refine ⟨?_, taken bound.2⟩
        by_contra absent
        have empty : (repoSettings host call).packDir = [] := by
          simp only [repoSettings, packDir, absent, if_false]
        rw [empty] at bound
        cases bound.1
  · cases recorded

end Attests

end EvoomGuard.Guard
