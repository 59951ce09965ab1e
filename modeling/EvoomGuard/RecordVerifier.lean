import EvoomGuard.Domain.Assurance
import EvoomGuard.Verifiers.RepoPhaseContracts

/-!
Checks of `record_verifier.py` on an emitted verdict record: the reason contract, the count
evidence, `pack.counts`, `source.mode_policy` and the two composite checks. A check that the
source skips holds. The fields are the ones these checks read; the producer's version is its
numeric prefix.
-/

namespace EvoomGuard.RecordVerifier

open Lib Domain Verifiers

inductive JudgmentMode where
  | repo
  | blackbox
  deriving DecidableEq, Repr

structure RecordPolicy where
  mode : JudgmentMode
  blackboxOnly : Bool
  verifierPackRequired : Bool
  harnessInputs : List Text

structure Attestation where
  guardVersion : Option (Nat × Nat × Nat)
  effectivePolicy : RecordPolicy
  junitSha256 : Option Text
  junitDigestFormat : Option DigestFormat
  verifierPackTestsPassed : Option Nat
  verifierPackTestsTotal : Option Nat
  verifierPackJunitSha256 : Option Text
  verifierPackJunitDigestFormat : Option DigestFormat
  verifierPackStarted : Option Bool
  verifierPackCompleted : Option Bool
  repoSuite : RepositorySuiteEvidence

structure RecordAssurance where
  reportIntegrity : ReportIntegrity
  repoNativeSuite : Option RepoSuiteState

structure Record where
  verdict : Verdict
  reasonCode : ReasonCode
  executionState : ExecutionState
  executionPhase : ExecutionPhase
  verdictSource : Option VerdictSource
  testsPassed : Option Nat
  testsTotal : Option Nat
  testCommandRan : Bool
  attestation : Attestation
  assurance : RecordAssurance

/-- A record is of schema 1.12 exactly when it binds declared harness inputs. -/
def RecordPolicy.schemaVersion (policy : RecordPolicy) : SchemaVersion :=
  if policy.harnessInputs.isEmpty then .v1_11 else .v1_12

def checkReasonCode (record : Record) : Bool :=
  decide (MeetsContract (versionedReasonContract record.attestation.effectivePolicy.schemaVersion)
    record.verdict record.reasonCode record.executionState)

def validCountPair : Option Nat → Option Nat → Bool
  | some passed, some total => decide (passed ≤ total)
  | none, none => true
  | _, _ => false

/-- The count evidence a `tests_failed` record must carry. -/
def failedTestEvidence : Option Nat → Option Nat → Bool
  | some passed, some total => decide (0 < total) && decide (passed < total)
  | _, _ => false

def producerVersionAtLeast (attestation : Attestation) (minimum : Nat × Nat × Nat) : Bool :=
  match attestation.guardVersion with
  | none => false
  | some (major, minor, patch) =>
    decide (minimum.1 < major) || (minimum.1 == major &&
      (decide (minimum.2.1 < minor) || (minimum.2.1 == minor && decide (minimum.2.2 ≤ patch))))

def requiresRepoPhaseEvidence (attestation : Attestation) : Bool :=
  attestation.effectivePolicy.mode == .repo && attestation.effectivePolicy.verifierPackRequired &&
    producerVersionAtLeast attestation (4, 0, 2)

def isHexDigest (digest : Option Text) : Bool := digest.any Sha256.isHex64

def isPhaseFormat (format : Option DigestFormat) : Bool :=
  format == some .junitXml || format == some .reportSet

def completedZeroTestError (record : Record) : Bool :=
  record.attestation.verifierPackCompleted == some true &&
    record.attestation.verifierPackTestsPassed == some 0 &&
    record.attestation.verifierPackTestsTotal == some 0 &&
    record.executionState == .completed && record.verdict == .error &&
    record.reasonCode == .noTestVerdict && record.verdictSource.isNone

def checkPackCounts (record : Record) : Bool :=
  let passed := record.attestation.verifierPackTestsPassed
  let total := record.attestation.verifierPackTestsTotal
  let completed := record.attestation.verifierPackCompleted == some true
  let nullCounts := passed.isNone && total.isNone
  let postExecutionTamper := record.reasonCode == .verifierPackSnapshotChanged ||
    record.reasonCode == .candidateTreeChanged
  validCountPair passed total &&
    ((completed && ((passed.isSome && total.any fun count => decide (0 < count)) ||
        completedZeroTestError record || (postExecutionTamper && nullCounts))) ||
      (!completed && nullCounts))

def compositeSource (record : Record) : Bool :=
  record.verdictSource == some .compositeRepoPack ||
    record.verdictSource == some .compositeBlackboxRepo

def legacyMissingJunitIdentity (attestation : Attestation) : Bool :=
  !producerVersionAtLeast attestation (4, 0, 2) && attestation.junitSha256.isNone &&
    attestation.junitDigestFormat.isNone

def boundReport (attestation : Attestation) (format : DigestFormat) : Bool :=
  isHexDigest attestation.junitSha256 && attestation.junitDigestFormat == some format

def expectedCompositeFormat (attestation : Attestation) : DigestFormat :=
  if requiresRepoPhaseEvidence attestation &&
      attestation.repoSuite.verdictSource == some .junitExit then .compositeV2
  else .compositeV1

/-- The report digest that a record of the source has to carry. -/
def sourceIdentityValid (attestation : Attestation) : Option VerdictSource → Bool
  | none => true
  | some .junitExit =>
    (isHexDigest attestation.junitSha256 && isPhaseFormat attestation.junitDigestFormat) ||
      legacyMissingJunitIdentity attestation
  | some .exitOnly => attestation.junitSha256.isNone && attestation.junitDigestFormat.isNone
  | some .blackbox | some .compositeBlackboxRepo =>
    boundReport attestation .junitXml || legacyMissingJunitIdentity attestation
  | some .compositeRepoPack =>
    boundReport attestation (expectedCompositeFormat attestation) ||
      legacyMissingJunitIdentity attestation

def phaseBySource : VerdictSource → ExecutionPhase
  | .junitExit | .exitOnly | .compositeBlackboxRepo => .repoSuite
  | .blackbox => .blackboxPack
  | .compositeRepoPack => .verifierPack

def repoSourceValid (record : Record) : Bool :=
  let packRequired := record.attestation.effectivePolicy.verifierPackRequired
  let packCompleted := record.attestation.verifierPackCompleted == some true
  let passing := record.verdict == .pass
  match record.verdictSource with
  | some .blackbox | some .compositeBlackboxRepo => false
  | some .compositeRepoPack => packRequired && packCompleted
  | some .junitExit | some .exitOnly => !packRequired
  | none => !passing

-- Once execution starts, the black-box judge has no channel without a pack.
def blackboxSourceValid (record : Record) : Bool :=
  let policy := record.attestation.effectivePolicy
  let packCompleted := record.attestation.verifierPackCompleted == some true
  let passing := record.verdict == .pass
  (record.executionState == .staticGate || record.executionState == .notStarted ||
      policy.verifierPackRequired) &&
    match record.verdictSource with
    | some .junitExit | some .exitOnly | some .compositeRepoPack => false
    | some .compositeBlackboxRepo => !policy.blackboxOnly && packCompleted &&
        record.assurance.repoNativeSuite == some .composedCompleted
    | some .blackbox => packCompleted &&
        (policy.blackboxOnly || (!passing &&
          record.assurance.repoNativeSuite == some .requiredNotRunShortCircuit))
    | none => !passing

def checkSourceContract (record : Record) : Bool :=
  sourceIdentityValid record.attestation record.verdictSource &&
    (record.verdictSource.all fun source =>
      record.executionState == .completed && record.executionPhase == phaseBySource source) &&
    match record.attestation.effectivePolicy.mode with
    | .repo => repoSourceValid record
    | .blackbox => blackboxSourceValid record

structure NumericCounts where
  topPassed : Nat
  topTotal : Nat
  packPassed : Nat
  packTotal : Nat

def numericCounts (record : Record) : Option NumericCounts :=
  match record.testsPassed, record.testsTotal, record.attestation.verifierPackTestsPassed,
      record.attestation.verifierPackTestsTotal with
  | some topPassed, some topTotal, some packPassed, some packTotal =>
    some ⟨topPassed, topTotal, packPassed, packTotal⟩
  | _, _, _, _ => none

def NumericCounts.repoPassed (counts : NumericCounts) : Int := counts.topPassed - counts.packPassed

def NumericCounts.repoTotal (counts : NumericCounts) : Int := counts.topTotal - counts.packTotal

def checkCompositeCounts (record : Record) : Bool :=
  !compositeSource record ||
    match numericCounts record with
    | none => false
    | some counts =>
      decide (counts.packPassed ≤ counts.packTotal ∧ counts.packTotal ≤ counts.topTotal ∧
        counts.packPassed ≤ counts.topPassed ∧ 0 ≤ counts.repoPassed ∧
        counts.repoPassed ≤ counts.repoTotal)

def repoPhaseClaimed (suite : RepositorySuiteEvidence) : Bool :=
  suite.started.isSome || suite.completed.isSome || suite.state.isSome || suite.passed.isSome ||
    suite.testsPassed.isSome || suite.testsTotal.isSome || suite.verdictSource.isSome ||
    suite.returncode.isSome || suite.junitSha256.isSome || suite.junitDigestFormat.isSome

/-- The black-box half of `composite.phase_semantics`. -/
def blackboxPhaseValid (record : Record) : Bool :=
  let suite := record.attestation.repoSuite
  suite.started == some true && suite.completed == some true &&
    suite.state == some .composedCompleted && suite.passed.isSome &&
    record.assurance.repoNativeSuite == some .composedCompleted &&
    record.assurance.reportIntegrity == .sameProcessCandidateWritable &&
    match numericCounts record with
    | none => true
    | some counts =>
      decide (0 < counts.packTotal) && counts.packPassed == counts.packTotal &&
        decide (0 < counts.repoTotal) &&
        (if suite.passed = some true then decide (counts.repoPassed = counts.repoTotal)
          else decide (counts.repoPassed < counts.repoTotal))

def suiteDigestValid (suite : RepositorySuiteEvidence) : Bool :=
  if suite.verdictSource = some .junitExit then
    isHexDigest suite.junitSha256 && isPhaseFormat suite.junitDigestFormat
  else suite.junitSha256.isNone && suite.junitDigestFormat.isNone

/-- The V2 composite digest is recomputed from the two phase digests; a structured suite may
not be bound by an older format. -/
def compositeDigestValid (attestation : Attestation) : Bool :=
  let suite := attestation.repoSuite
  if attestation.junitDigestFormat = some .compositeV2 then
    match suite.junitDigestFormat, suite.junitSha256, attestation.verifierPackJunitSha256,
        attestation.junitSha256 with
    | some format, some digest, some packDigest, some topDigest =>
      Sha256.isHex64 digest && isPhaseFormat (some format) && Sha256.isHex64 packDigest &&
        attestation.verifierPackJunitDigestFormat == some .junitXml &&
        Sha256.isHex64 topDigest &&
        Sha256.hexdigest (compositeIdentity format digest packDigest) == topDigest
    | _, _, _, _ => false
  else
    !(suite.junitDigestFormat == some .reportSet ||
      (requiresRepoPhaseEvidence attestation && suite.verdictSource == some .junitExit))

def cleanRepoPass (suite : RepositorySuiteEvidence) (passed total : Nat) : Bool :=
  suite.returncode == some 0 &&
    (if suite.verdictSource = some .exitOnly then passed == 0 && total == 0
      else decide (0 < total) && passed == total)

/-- The repo-native half of `composite.phase_semantics`, for a record that claims a suite. -/
def repoPhaseValid (record : Record) : Bool :=
  let suite := record.attestation.repoSuite
  suite.started == some true && suite.completed == some true &&
    suite.state == some .repoPhaseCompleted && suite.passed.isSome && suite.testsPassed.isSome &&
    suite.testsTotal.isSome &&
    (suite.verdictSource == some .junitExit || suite.verdictSource == some .exitOnly) &&
    (suite.returncode == some 0 || suite.returncode == some 1) && suiteDigestValid suite &&
    compositeDigestValid record.attestation &&
    match numericCounts record, suite.testsPassed, suite.testsTotal with
    | some counts, some passed, some total =>
      decide (0 < counts.packTotal) && decide ((passed : Int) = counts.repoPassed) &&
        decide ((total : Int) = counts.repoTotal) &&
        suite.passed == some (cleanRepoPass suite passed total)
    | _, _, _ => true

def checkCompositePhase (record : Record) : Bool :=
  !compositeSource record ||
    (record.executionState == .completed && record.testCommandRan &&
      record.attestation.verifierPackStarted == some true &&
      record.attestation.verifierPackCompleted == some true &&
      if record.verdictSource = some .compositeBlackboxRepo then blackboxPhaseValid record
      else if repoPhaseClaimed record.attestation.repoSuite then repoPhaseValid record
      else !requiresRepoPhaseEvidence record.attestation)

end EvoomGuard.RecordVerifier
