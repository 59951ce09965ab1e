import EvoomGuard.Domain.Evidence
import EvoomGuard.Verifiers.RepoPhaseContracts

/-!
The artifact of one repository verification, `verifiers/repo_result.py`, and the typed
evidence the decision layer reads out of it, `verifiers/repo_evidence.py`. A key that an
artifact may lack is an `Option`; the lifecycle keys are always written by `finalize`.
-/

namespace EvoomGuard.Verifiers

open Lib Domain

structure RepoArtifact where
  returncode : Option Int := none
  filesChanged : List Text := []
  filesDeleted : List Text := []
  outcome : Option Outcome := none
  tamper : Option Bool := none
  testsPassed : Option Nat := none
  testsTotal : Option Nat := none
  verdictSource : Option VerdictSource := none
  junitSha256 : Option Text := none
  junitDigestFormat : Option DigestFormat := none
  verifierPackSha256 : Option Text := none
  expectedVerifierPackSha256 : Option Text := none
  verifierPackTestsPassed : Option Nat := none
  verifierPackTestsTotal : Option Nat := none
  verifierPackJunitSha256 : Option Text := none
  verifierPackJunitDigestFormat : Option DigestFormat := none
  verifierPackPresent : Option Bool := none
  candidateFidelityChanges : Option (List Text) := none
  setupFidelityChanges : Option (List Text) := none
  setupIsolation : Option Boundary := none
  imageDigest : Option Text := none
  isolationEvidence : Option IsolationObservation := none
  runtime : RuntimeIdentityEvidence := {}
  repoSuite : RepositorySuiteEvidence := {}
  execution : ExecutionPhaseResult := {}

abbrev RepoVerdict := VerdictResult RepoArtifact

/-- The repository phase as it is kept across a later pack failure: without a verdict
source it is neither a pass nor a failure. -/
def repoSuitePhaseArtifact (phase : RepoPhaseResult) : RepositorySuiteEvidence where
  started := some true
  completed := some true
  state := some .repoPhaseCompleted
  passed := if phase.verdictSource.isSome then some phase.passed else none
  testsPassed := some phase.testsPassed
  testsTotal := some phase.testsTotal
  verdictSource := phase.verdictSource
  returncode := some phase.returncode
  junitSha256 := phase.junitSha256
  junitDigestFormat := phase.junitDigestFormat

structure RepoResultProjection where
  packIdentity : Option Text := none
  repoSuitePhase : Option RepositorySuiteEvidence := none

-- Sticky facts overwrite what a return site wrote; absent ones leave it alone.
def RepoResultProjection.finalize (projection : RepoResultProjection) (result : RepoVerdict)
    (execution : ExecutionPhaseResult) (verifierPackPresent : Bool) : RepoVerdict :=
  { result with
    artifact :=
      { result.artifact with
        verifierPackSha256 := projection.packIdentity.orElse fun _ =>
          result.artifact.verifierPackSha256
        repoSuite := projection.repoSuitePhase.getD result.artifact.repoSuite
        execution := execution
        isolationEvidence := execution.primaryIsolationEvidence.orElse fun _ =>
          result.artifact.isolationEvidence
        verifierPackPresent := result.artifact.verifierPackPresent.orElse fun _ =>
          some verifierPackPresent } }

/-- What the completed artifact needs besides the phases. -/
structure CompletedContext where
  filesChanged : List Text
  filesDeleted : List Text
  packIdentity : Option Text
  expectedPackSha256 : Text
  setupIsolation : Option Boundary
  runtime : RuntimeIdentityEvidence
  resolvedImage : Option Text
  suiteIsolationEvidence : IsolationObservation
  containerMode : Bool

def buildFinalRepoArtifact (context : CompletedContext) (repo : RepoPhaseResult)
    (pack : Option PackPhaseResult) : RepoArtifact :=
  let phase := finalPhase repo pack
  { returncode := some repo.returncode
    filesChanged := context.filesChanged
    filesDeleted := context.filesDeleted
    outcome := phase.outcome
    tamper := some phase.tampered
    testsPassed := some phase.testsPassed
    testsTotal := some phase.testsTotal
    verdictSource := phase.verdictSource
    junitSha256 := phase.junitSha256
    junitDigestFormat := phase.junitDigestFormat
    verifierPackSha256 := context.packIdentity
    expectedVerifierPackSha256 :=
      if context.expectedPackSha256.isEmpty then none else some context.expectedPackSha256
    verifierPackTestsPassed := pack.map PackPhaseResult.testsPassed
    verifierPackTestsTotal := pack.map PackPhaseResult.testsTotal
    verifierPackJunitSha256 := pack.bind PackPhaseResult.junitSha256
    verifierPackJunitDigestFormat := pack.bind PackPhaseResult.junitDigestFormat
    setupIsolation := context.setupIsolation
    runtime := context.runtime
    imageDigest := context.resolvedImage
    isolationEvidence := if context.containerMode then some context.suiteIsolationEvidence
      else none }

/-- The verdict of a run whose phases all completed. `distill` is the diagnostics filter. -/
def completedVerdict (distill : Text → Text) (context : CompletedContext)
    (repo : RepoPhaseResult) (pack : Option PackPhaseResult) : RepoVerdict where
  passed := (finalPhase repo pack).passed
  score := (finalPhase repo pack).score
  diagnostics := distill (finalPhase repo pack).output
  artifact := buildFinalRepoArtifact context repo pack

/-- The completed verdict with the sticky facts and the lifecycle that `verify` attaches. -/
def completedRun (distill : Text → Text) (context : CompletedContext)
    (execution : ExecutionPhaseResult) (verifierPackPresent : Bool) (repo : RepoPhaseResult)
    (pack : Option PackPhaseResult) : RepoVerdict :=
  RepoResultProjection.finalize
    { packIdentity := context.packIdentity
      repoSuitePhase := pack.map fun _ => repoSuitePhaseArtifact repo }
    (completedVerdict distill context repo pack) execution verifierPackPresent

def repoVerificationEvidenceFromArtifact (artifact : RepoArtifact) : VerificationEvidence where
  execution :=
    { artifact.execution with
      deliveredIsolation := if artifact.execution.testCommandStarted then
          artifact.execution.deliveredIsolation
        else .notRun
      primaryIsolationEvidence := artifact.isolationEvidence }
  outcome := artifact.outcome
  tamper := artifact.tamper
  testsPassed := artifact.testsPassed
  testsTotal := artifact.testsTotal
  verdictSource := artifact.verdictSource
  junitSha256 := artifact.junitSha256
  junitDigestFormat := artifact.junitDigestFormat
  setupIsolation := artifact.setupIsolation
  verifierPack :=
    { present := artifact.verifierPackPresent
      sha256 := artifact.verifierPackSha256
      testsPassed := artifact.verifierPackTestsPassed
      testsTotal := artifact.verifierPackTestsTotal
      junitSha256 := artifact.verifierPackJunitSha256
      junitDigestFormat := artifact.verifierPackJunitDigestFormat }
  repoSuite := artifact.repoSuite
  runtime := artifact.runtime

end EvoomGuard.Verifiers
