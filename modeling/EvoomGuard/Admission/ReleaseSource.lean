import EvoomGuard.Admission.Envelope
import EvoomGuard.ReleaseChain.Attested

/-!
The release-source admission: its signed manifest, the archive that keeps it with the evidence it
names, and the offline verification of that archive. An error is the text that is raised.
-/

namespace EvoomGuard.Admission.SourceAdmission

open EvidenceBundle GithubAttestation Lib Lib.Checks Lib.Framing ReleaseChain

def admissionFormat : Text := "EVOGUARD_RELEASE_SOURCE_ADMISSION_V2"

def owner : Text := "release-source admission"

def manifestPath : Text := "admission.json"

def signaturePath : Text := "admission.sig"

def signingDomain : SigningDomain where
  owner := owner
  purpose := "evoguard-release-source-admission-v2"
  keyDomain := "release-source-admission-v2"
  signaturePath := signaturePath
  separator := utf8 admissionFormat ++ [0]

def recordMaterial : Material :=
  ⟨"release-source admission record", "record/verdict.json", 1, maxVerdictBytes⟩

def handoffMaterial : Material :=
  ⟨"release-source admission handoff", "materials/release-source-handoff.json", 1,
    maxHandoffBytes⟩

def producerReceiptMaterial : Material :=
  ⟨"release-source admission producer receipt", "materials/producer-receipt.json", 1,
    maxProducerReceiptBytes⟩

def githubReceiptMaterial : Material :=
  ⟨"release-source admission provider receipt",
    "provider/github-attestation-receipt.json", 1, maxReceiptBytes⟩

def rawOutputMaterial : Material :=
  ⟨"release-source admission provider raw output",
    "provider/github-attestation-output.json", 2, maxOutputBytes⟩

def maxManifestBytes : Nat := 1024 * 1024

structure KeySeparation where
  artifactAdmissionV1 : Text
  artifactDigestAdmissionV2 : Text
  releaseSourceFinalizerV1 : Text
  trustedFinalizer : Text
  deriving DecidableEq

inductive KeyDomain where
  | artifactAdmissionV1
  | artifactDigestAdmissionV2
  | releaseSourceFinalizerV1
  | trustedFinalizer
  deriving DecidableEq

def KeyDomain.text : KeyDomain → Text
  | .artifactAdmissionV1 => "artifact_admission_v1"
  | .artifactDigestAdmissionV2 => "artifact_digest_admission_v2"
  | .releaseSourceFinalizerV1 => "release_source_finalizer_v1"
  | .trustedFinalizer => "trusted_finalizer"

def keySeparationSchema : Schema KeyDomain where
  keys := [.artifactAdmissionV1, .artifactDigestAdmissionV2, .releaseSourceFinalizerV1,
    .trustedFinalizer]
  name := KeyDomain.text

def KeySeparation.value (keys : KeySeparation) : KeyDomain → Json
  | .artifactAdmissionV1 => .string keys.artifactAdmissionV1
  | .artifactDigestAdmissionV2 => .string keys.artifactDigestAdmissionV2
  | .releaseSourceFinalizerV1 => .string keys.releaseSourceFinalizerV1
  | .trustedFinalizer => .string keys.trustedFinalizer

def KeySeparation.asDict (keys : KeySeparation) : List (Text × Json) :=
  keySeparationSchema.object keys.value

def KeySeparation.ids (keys : KeySeparation) : List Text :=
  [keys.artifactAdmissionV1, keys.artifactDigestAdmissionV2, keys.releaseSourceFinalizerV1,
    keys.trustedFinalizer]

def separationLabel : Text := owner ++ " key separation"

def separationId (domain : KeyDomain) (get : KeyDomain → Json) : Except Text Text :=
  signerId (separationLabel ++ '.' :: domain.text) (get domain)

def checkKeySeparation (get : KeyDomain → Json) : Except Text KeySeparation := do
  let artifact ← separationId .artifactAdmissionV1 get
  let digest ← separationId .artifactDigestAdmissionV2 get
  let source ← separationId .releaseSourceFinalizerV1 get
  let finalizer ← separationId .trustedFinalizer get
  let keys : KeySeparation := ⟨artifact, digest, source, finalizer⟩
  refuse (¬keys.ids.Nodup) (distinctProblem owner)
  pure keys

def validateKeySeparation (host : EvidenceHost) (value : Json) : Except Text KeySeparation :=
  validateSection host keySeparationSchema separationLabel checkKeySeparation value

def checkBootstrap (get : BootstrapKey → Json) : Except Text Text := do
  exactText runtimeFormat (owner ++ " runtime identity is unsupported")
    (get .runtimeIdentityFormat)
  textThat Sha256.isHex64 (owner ++ " guard artifact must be a lowercase SHA-256 digest")
    (get .guardArtifactSha256)

def notIsolated : Text := owner ++ " execution is not the required isolated PASS profile"

def checkExecution (get : ExecutionKey → Json) : Except Text ExecutionProfile := do
  refuse (get .outcome ≠ .string "PASS" ∨ (get .guardExitCode).alike (.int 0) = false)
    notIsolated
  let isolation ← isolationOf notIsolated (get .candidateIsolation)
  exactText "none" notIsolated (get .network)
  exactText externalIntegrity notIsolated (get .reportIntegrity)
  exactText externalProfile notIsolated (get .overallProfile)
  pure ⟨isolation⟩

section Small

variable (host : EvidenceHost)

def validateBootstrap (value : Json) : Except Text Text :=
  validateSection host bootstrapSchema (owner ++ " bootstrap") checkBootstrap value

def validateExecution (value : Json) : Except Text ExecutionProfile :=
  validateSection host executionSchema (owner ++ " execution") checkExecution value

end Small

structure WorkflowRun where
  runId : Text
  runAttempt : Int
  deriving DecidableEq

inductive RunKey where
  | runId
  | runAttempt
  deriving DecidableEq

def RunKey.text : RunKey → Text
  | .runId => "run_id"
  | .runAttempt => "run_attempt"

def runSchema : Schema RunKey where
  keys := [.runId, .runAttempt]
  name := RunKey.text

def WorkflowRun.value (run : WorkflowRun) : RunKey → Json
  | .runId => .string run.runId
  | .runAttempt => .int run.runAttempt

structure ReplayBinding where
  evaluation : WorkflowRun
  producer : WorkflowRun
  trigger : WorkflowRun
  admitter : WorkflowRun
  deriving DecidableEq

inductive ReplayKey where
  | evaluation
  | producer
  | trigger
  | admitter
  deriving DecidableEq

def ReplayKey.text : ReplayKey → Text
  | .evaluation => "evaluation"
  | .producer => "producer"
  | .trigger => "trigger"
  | .admitter => "admitter"

def replaySchema : Schema ReplayKey where
  keys := [.evaluation, .producer, .trigger, .admitter]
  name := ReplayKey.text

def ReplayBinding.value (replay : ReplayBinding) : ReplayKey → Json
  | .evaluation => .object (runSchema.object replay.evaluation.value)
  | .producer => .object (runSchema.object replay.producer.value)
  | .trigger => .object (runSchema.object replay.trigger.value)
  | .admitter => .object (runSchema.object replay.admitter.value)

def ReplayBinding.asDict (replay : ReplayBinding) : List (Text × Json) :=
  replaySchema.object replay.value

def replayBinding (source : ReleaseSource) (producer admitter : ReleaseProducer) :
    ReplayBinding where
  evaluation := ⟨source.workflowRunId, source.workflowRunAttempt⟩
  producer := ⟨producer.workflowRunId, producer.workflowRunAttempt⟩
  trigger := ⟨producer.triggerWorkflowRunId, producer.triggerWorkflowRunAttempt⟩
  admitter := ⟨admitter.workflowRunId, admitter.workflowRunAttempt⟩

section Replay

variable (host : EvidenceHost)

def isRunId (text : Text) : Bool :=
  !text.isEmpty && text.all host.isDecimal && text.head? != some '0'

def checkRun (label : Text) (get : RunKey → Json) : Except Text WorkflowRun := do
  let problem := label ++ " has an invalid run ID or attempt"
  let runId ← textThat (isRunId host) problem (get .runId)
  let runAttempt ← intWithin 1 maxAttempt problem (get .runAttempt)
  pure ⟨runId, runAttempt⟩

def validateRun (key : ReplayKey) (get : ReplayKey → Json) : Except Text WorkflowRun :=
  let label := owner ++ " replay." ++ key.text
  validateSection host runSchema label (checkRun host label) (get key)

def checkReplay (expected : ReplayBinding) (get : ReplayKey → Json) :
    Except Text ReplayBinding := do
  let evaluation ← validateRun host .evaluation get
  let producer ← validateRun host .producer get
  let trigger ← validateRun host .trigger get
  let admitter ← validateRun host .admitter get
  let checked : ReplayBinding := ⟨evaluation, producer, trigger, admitter⟩
  refuse (checked ≠ expected) (owner ++ " run/attempt replay binding is inconsistent")
  pure checked

def validateReplay (source : ReleaseSource) (producer admitter : ReleaseProducer) (value : Json) :
    Except Text ReplayBinding :=
  validateSection host replaySchema (owner ++ " replay binding")
    (checkReplay host (replayBinding source producer admitter)) value

end Replay

def policyPins : List PolicyKey :=
  [.repository, .signerWorkflow, .sourceDigest, .signerDigest, .sourceRef, .certOidcIssuer]

def isText : Json → Bool
  | .string _ => true
  | _ => false

def checkGithubPolicy (get : PolicyKey → Json) : Except Text GitHubAttestationPolicy := do
  refuse ((policyPins.all fun key => isText (get key)) = false)
    (owner ++ " provider policy pins must be strings")
  canonicalPolicy (owner ++ " provider policy is not canonical") get get

def validateGithubPolicy (host : EvidenceHost) (value : Json) :
    Except Text GitHubAttestationPolicy :=
  validateSection host policySchema (owner ++ " provider policy") checkGithubPolicy value

/-- The full policy of the six expected pins. -/
def expandPolicy (get : ExpectedPolicyKey → Json) : PolicyKey → Json
  | .repository => get .repository
  | .signerWorkflow => get .signerWorkflow
  | .signerDigest => get .signerDigest
  | .sourceRef => get .sourceRef
  | .sourceDigest => get .sourceDigest
  | .certOidcIssuer => get .certOidcIssuer
  | .predicateType => .string predicateType
  | .denySelfHostedRunners => .bool true
  | .attestationLimit => .int 1

def githubPolicyFromExpected (host : EvidenceHost) (fields : List (Text × Json)) :
    Except Text GitHubAttestationPolicy :=
  expectedPolicySchema.validate host.shownList
    "expected release-source GitHub provider policy"
    (fun get => validateGithubPolicy host (.object (policySchema.object (expandPolicy get)))) fields

/-- The subject of the policy is kept as it was read; its size may be written with a fraction. -/
structure ProviderSection where
  artifactSha256 : Text
  artifactSize : Json
  policy : GitHubAttestationPolicy
  receipt : Digest
  rawOutput : Digest
  deriving DecidableEq

inductive ProviderKey where
  | name
  | artifact
  | policy
  | count
  | receipt
  | rawOutput
  deriving DecidableEq

def ProviderKey.text : ProviderKey → Text
  | .name => "name"
  | .artifact => "artifact"
  | .policy => "policy"
  | .count => "verified_attestation_count"
  | .receipt => "receipt"
  | .rawOutput => "raw_output"

def providerSchema : Schema ProviderKey where
  keys := [.name, .artifact, .policy, .count, .receipt, .rawOutput]
  name := ProviderKey.text

def providerName : Text := "github-artifact-attestations"

def artifactValue (sha256 : Text) (size : Json) : DigestKey → Json
  | .sha256 => .string sha256
  | .size => size

def ProviderSection.value (provider : ProviderSection) : ProviderKey → Json
  | .name => .string providerName
  | .artifact =>
    .object (digestSchema.object (artifactValue provider.artifactSha256 provider.artifactSize))
  | .policy => .object provider.policy.asDict
  | .count => .int 1
  | .receipt => githubReceiptMaterial.descriptor provider.receipt
  | .rawOutput => rawOutputMaterial.descriptor provider.rawOutput

def ProviderSection.asDict (provider : ProviderSection) : List (Text × Json) :=
  providerSchema.object provider.value

section Provider

variable (host : EvidenceHost)

def checkSubject (receipt : Digest) (get : DigestKey → Json) : Except Text (Text × Json) := do
  refuse ((get .sha256).alike (.string receipt.sha256) = false ∨
      (get .size).alike (.int receipt.size) = false)
    (owner ++ " provider subject is not the exact producer receipt")
  pure (receipt.sha256, get .size)

def requireProtectedProducer (source : ReleaseSource) (producer : ReleaseProducer)
    (policy : GitHubAttestationPolicy) : Except Text Unit :=
  refuse (policy.repository ≠ source.repository ∨
      policy.signerWorkflow ≠ producer.workflowRepository ++ '/' :: producer.workflowPath ∨
      policy.signerDigest ≠ producer.workflowCommitSha ∨ policy.sourceRef ≠ mainRef ∨
      policy.sourceDigest ≠ source.targetCommitSha ∨ policy.certOidcIssuer ≠ certOidcIssuer)
    (owner ++ " provider policy is not bound to the exact protected producer")

def checkProvider (source : ReleaseSource) (producer : ReleaseProducer) (receipt : Digest)
    (get : ProviderKey → Json) : Except Text ProviderSection := do
  exactText providerName (owner ++ " provider name is unsupported") (get .name)
  refuse ((get .count).alike (.int 1) = false)
    (owner ++ " requires exactly one verified provider attestation")
  let (sha256, size) ← validateSection host digestSchema (owner ++ " provider artifact")
    (checkSubject receipt) (get .artifact)
  let policy ← validateGithubPolicy host (get .policy)
  requireProtectedProducer source producer policy
  let githubReceipt ← githubReceiptMaterial.validate host (get .receipt)
  let rawOutput ← rawOutputMaterial.validate host (get .rawOutput)
  pure ⟨sha256, size, policy, githubReceipt, rawOutput⟩

def validateProvider (source : ReleaseSource) (producer : ReleaseProducer) (receipt : Digest)
    (value : Json) : Except Text ProviderSection :=
  validateSection host providerSchema (owner ++ " provider")
    (checkProvider host source producer receipt) value

end Provider

structure Manifest where
  source : ReleaseSource
  context : ReleaseContext
  producer : ReleaseProducer
  admitter : ReleaseProducer
  bootstrap : Text
  execution : ExecutionProfile
  replay : ReplayBinding
  record : Digest
  handoff : Digest
  producerReceipt : Digest
  provider : ProviderSection
  toolchain : Toolchain
  keySeparation : KeySeparation
  keyId : Text
  deriving DecidableEq

inductive ManifestKey where
  | format
  | decision
  | source
  | context
  | producer
  | admitter
  | bootstrap
  | execution
  | replay
  | record
  | handoff
  | producerReceipt
  | provider
  | toolchain
  | keySeparation
  | authentication
  deriving DecidableEq

def ManifestKey.text : ManifestKey → Text
  | .format => "format"
  | .decision => "decision"
  | .source => "source"
  | .context => "context"
  | .producer => "producer"
  | .admitter => "admitter"
  | .bootstrap => "bootstrap"
  | .execution => "execution"
  | .replay => "replay"
  | .record => "record"
  | .handoff => "handoff"
  | .producerReceipt => "producer_receipt"
  | .provider => "provider"
  | .toolchain => "toolchain"
  | .keySeparation => "key_separation"
  | .authentication => "authentication"

def manifestSchema : Schema ManifestKey where
  keys := [.format, .decision, .source, .context, .producer, .admitter, .bootstrap, .execution,
    .replay, .record, .handoff, .producerReceipt, .provider, .toolchain, .keySeparation,
    .authentication]
  name := ManifestKey.text

def Manifest.value (manifest : Manifest) : ManifestKey → Json
  | .format => .string admissionFormat
  | .decision => .string "ALLOW"
  | .source => .object manifest.source.asDict
  | .context => .object manifest.context.asDict
  | .producer => .object manifest.producer.asDict
  | .admitter => .object manifest.admitter.asDict
  | .bootstrap => .object (bootstrapDict manifest.bootstrap)
  | .execution => .object manifest.execution.asDict
  | .replay => .object manifest.replay.asDict
  | .record => recordMaterial.descriptor manifest.record
  | .handoff => handoffMaterial.descriptor manifest.handoff
  | .producerReceipt => producerReceiptMaterial.descriptor manifest.producerReceipt
  | .provider => .object manifest.provider.asDict
  | .toolchain => .object manifest.toolchain.asDict
  | .keySeparation => .object manifest.keySeparation.asDict
  | .authentication => signingDomain.block manifest.keyId

def Manifest.asDict (manifest : Manifest) : List (Text × Json) :=
  manifestSchema.object manifest.value

/-- `left == right` of two manifests: every value is a text or a whole number, except the size of
the subject, which may be a number of another type. -/
def Manifest.same (left right : Manifest) : Bool :=
  left.provider.artifactSize.alike right.provider.artifactSize &&
    decide (left = { right with
      provider := { right.provider with artifactSize := left.provider.artifactSize } })

section Manifest

variable (host : EvidenceHost)

/-- The four identities and what binds them to each other. -/
structure Identities where
  source : ReleaseSource
  context : ReleaseContext
  producer : ReleaseProducer
  admitter : ReleaseProducer

def validateIdentities (source context producer admitter : List (Text × Json)) :
    Except Text Identities := do
  let source ← validateReleaseSource host source
  let context ← validateReleaseSourceContext host context
  let producer ← validateReleaseProducer host producer
  let admitter ← validateReleaseAdmitter host admitter
  validateSourceContext source context
  validateContextProducer source context producer
  validateAdmitterBinding host source producer admitter
  pure ⟨source, context, producer, admitter⟩

def checkManifest (get : ManifestKey → Json) : Except Text Manifest := do
  exactText admissionFormat ("unsupported release-source admission format: " ++
    host.shown (get .format)) (get .format)
  exactText "ALLOW" (owner ++ " V2 decision must be ALLOW") (get .decision)
  let source ← objectOf (owner ++ " source/context must be objects") (get .source)
  let context ← objectOf (owner ++ " source/context must be objects") (get .context)
  let producer ← objectOf (owner ++ " producer must be an object") (get .producer)
  let admitter ← objectOf (owner ++ " admitter must be an object") (get .admitter)
  let ids ← validateIdentities host source context producer admitter
  let record ← recordMaterial.validate host (get .record)
  let handoff ← handoffMaterial.validate host (get .handoff)
  let producerReceipt ← producerReceiptMaterial.validate host (get .producerReceipt)
  let keySeparation ← validateKeySeparation host (get .keySeparation)
  let keyId ← signingDomain.validate host (get .authentication)
  refuse (keyId ∈ keySeparation.ids)
    (owner ++ " key belongs to another configured trust domain")
  let bootstrap ← validateBootstrap host (get .bootstrap)
  let execution ← validateExecution host (get .execution)
  let replay ← validateReplay host ids.source ids.producer ids.admitter (get .replay)
  let provider ← validateProvider host ids.source ids.producer producerReceipt (get .provider)
  let toolchain ← validateToolchain host owner "a lowercase SHA-256 digest" (get .toolchain)
  pure
    { source := ids.source
      context := ids.context
      producer := ids.producer
      admitter := ids.admitter
      bootstrap := bootstrap
      execution := execution
      replay := replay
      record := record
      handoff := handoff
      producerReceipt := producerReceipt
      provider := provider
      toolchain := toolchain
      keySeparation := keySeparation
      keyId := keyId }

def validateManifest (fields : List (Text × Json)) : Except Text Manifest :=
  manifestSchema.validate host.shownList (owner ++ " manifest") (checkManifest host) fields

def loadManifest (data : Bytes) : Except Text Manifest := do
  let loaded ← loadJsonObjectBytes host data (owner ++ " manifest")
  validateManifest host loaded

end Manifest

/-- The members of an archive, as they are kept. -/
structure AdmissionMembers where
  manifest : Bytes
  signature : Bytes
  verdict : Bytes
  handoff : Bytes
  producerReceipt : Bytes
  githubReceipt : Bytes
  rawOutput : Bytes
  deriving DecidableEq

def AdmissionMembers.list (members : AdmissionMembers) : List (Text × Bytes) :=
  [(manifestPath, members.manifest), (signaturePath, members.signature),
    (recordMaterial.path, members.verdict), (handoffMaterial.path, members.handoff),
    (producerReceiptMaterial.path, members.producerReceipt),
    (githubReceiptMaterial.path, members.githubReceipt),
    (rawOutputMaterial.path, members.rawOutput)]

def archiveLayout : ArchiveLayout where
  members := [(manifestPath, maxManifestBytes), (signaturePath, 88),
    (recordMaterial.path, maxVerdictBytes), (handoffMaterial.path, maxHandoffBytes),
    (producerReceiptMaterial.path, maxProducerReceiptBytes),
    (githubReceiptMaterial.path, maxReceiptBytes), (rawOutputMaterial.path, maxOutputBytes)]
  countProblem := owner ++ " archive must contain exactly seven members"
  namesProblem := owner ++ " archive member names/order are not canonical"

/-- An inspected archive; its signature is decoded and not trusted yet. -/
structure InspectedAdmission where
  manifestBytes : Bytes
  signature : Bytes
  verdictBytes : Bytes
  handoffBytes : Bytes
  producerReceiptBytes : Bytes
  githubReceiptBytes : Bytes
  rawOutputBytes : Bytes
  deriving DecidableEq

def InspectedAdmission.evidence (bundle : InspectedAdmission) : ProviderEvidence :=
  ⟨bundle.githubReceiptBytes, bundle.rawOutputBytes⟩

section Inspection

variable (host : EvidenceHost)

def subjectProblem : Text :=
  "GitHub attestation receipt does not name the exact producer-receipt bytes"

def verifyGithubMaterials (producerReceipt : Bytes) (evidence : ProviderEvidence)
    (policy : GitHubAttestationPolicy) (producer : ReleaseProducer) : Except Text Unit := do
  let checked ← validateGithubPolicy host (.object policy.asDict)
  let _ ← checkProviderEvidence host subjectProblem (digestOf producerReceipt) checked
    producer.workflowRunId producer.workflowRunAttempt evidence
  pure ()

/-- The checks of the members of an archive whose listing is canonical. -/
def inspectMembers (members : AdmissionMembers) : Except Text InspectedAdmission := do
  let manifest ← loadManifest host members.manifest
  let canonical ← canonicalJsonBytes host manifest.asDict
  refuse (canonical ≠ members.manifest) (owner ++ " manifest is not canonical JSON")
  let signature ← decodeSignature (owner ++ " signature") members.signature
  verifyDescriptor "record" manifest.record members.verdict
  verifyDescriptor "handoff" manifest.handoff members.handoff
  verifyDescriptor "producer receipt" manifest.producerReceipt members.producerReceipt
  verifyDescriptor "provider receipt" manifest.provider.receipt members.githubReceipt
  verifyDescriptor "provider raw output" manifest.provider.rawOutput members.rawOutput
  verifyGithubMaterials host members.producerReceipt ⟨members.githubReceipt, members.rawOutput⟩
    manifest.provider.policy manifest.producer
  pure ⟨members.manifest, signature, members.verdict, members.handoff, members.producerReceipt,
    members.githubReceipt, members.rawOutput⟩

/-- The members in the order of the layout. -/
def membersOf : List Bytes → Except Text AdmissionMembers
  | [manifest, signature, verdict, handoff, producerReceipt, githubReceipt, rawOutput] =>
    .ok ⟨manifest, signature, verdict, handoff, producerReceipt, githubReceipt, rawOutput⟩
  | _ => .error archiveLayout.countProblem

variable (zip : ZipModule)

def inspectReleaseSourceAdmission (path : Text) (found : FileAnswer) :
    Except Text InspectedAdmission := do
  let snapshot ← readRegularFileBytes host maxArchiveBytes (owner ++ " bundle") path found
  let values ← archiveLayout.read host zip snapshot
  let members ← membersOf values
  let inspected ← inspectMembers host members
  refuse (canonicalArchiveBytes zip members.list ≠ snapshot)
    (owner ++ " archive bytes are not canonical")
  pure inspected

/-- The `manifest` property: the retained bytes, read and validated again. -/
def InspectedAdmission.manifest (bundle : InspectedAdmission) : Except Text Manifest :=
  loadManifest host bundle.manifestBytes

end Inspection

section

variable (host : ReleaseHost)

/-- What a producer receipt must say of the admitted evidence. -/
def expectedReceipt (verdict handoff : Bytes) (source : ReleaseSource) (context : ReleaseContext)
    (producer : ReleaseProducer) (bootstrap : Text) (execution : ExecutionProfile) :
    ReleaseProducerReceipt :=
  ⟨source, context, digestOf verdict, digestOf handoff, bootstrap, execution, producer⟩

/-- The private copy of the verdict that the handoff is verified against. -/
def stagedVerdict : Text := "verdict.json"

def verifyReceiptMaterials (producerReceipt verdict handoff : Bytes)
    (expected : ReleaseProducerReceipt) : Except Text RecordReport := do
  let receipt ← readProducerReceipt host.toEvidenceHost producerReceipt
  refuse (receipt ≠ expected)
    ("producer receipt does not bind the exact admission source, context, evidence, runtime, " ++
      "and producer").toList
  let record ← loadJsonObjectBytes host.toEvidenceHost verdict (owner ++ " verdict")
  let report := host.verifyRecord record
  refuse (report.ok = false) (owner ++ " contains an invalid verdict record")
  let _ ← validateAllowRecord host.toEvidenceHost record expected.context
  let inspected ← inspectReleaseSourceHandoffBytes host.toEvidenceHost handoff
  let _ ← verifyReleaseSourceHandoff host.toEvidenceHost host.verifyRecord inspected stagedVerdict
    (.ok verdict) expected.source expected.context
  pure report

end

structure AdmissionExpectations where
  source : List (Text × Json)
  context : List (Text × Json)
  producer : List (Text × Json)
  admitter : List (Text × Json)
  bootstrapGuardSha256 : Text
  githubPolicy : List (Text × Json)
  keySeparation : Json
  gitExecutableSha256 : Text
  githubCliExecutableSha256 : Text
  providerIsolationUid : Int
  providerIsolationGid : Int

/-- The two files a verification reads, with their paths. -/
structure AdmissionReads where
  bundlePath : Text
  bundle : FileAnswer
  publicKeyPath : Text
  publicKey : FileAnswer

inductive Decision where
  | allow
  deriving DecidableEq

structure VerifiedAdmission where
  bundle : InspectedAdmission
  recordReport : RecordReport
  decision : Decision

section Verification

variable (host : ReleaseHost) (zip : ZipModule) (signing : SigningHost)

structure CheckedExpectations where
  separation : KeySeparation
  ids : Identities
  policy : GitHubAttestationPolicy
  toolchain : Toolchain
  bootstrap : Text

def checkExpectations (host : EvidenceHost) (expected : AdmissionExpectations) :
    Except Text CheckedExpectations := do
  let separation ← validateKeySeparation host expected.keySeparation
  let ids ← validateIdentities host expected.source expected.context expected.producer
    expected.admitter
  let policy ← githubPolicyFromExpected host expected.githubPolicy
  let toolchain ← expectedToolchain host owner "a lowercase SHA-256 digest"
    expected.gitExecutableSha256 expected.githubCliExecutableSha256 expected.providerIsolationUid
    expected.providerIsolationGid
  let bootstrap ← validateBootstrap host (.object (bootstrapDict expected.bootstrapGuardSha256))
  pure ⟨separation, ids, policy, toolchain, bootstrap⟩

/-- What a manifest must agree with. -/
def Manifest.meets (manifest : Manifest) (expected : CheckedExpectations) : Bool :=
  decide (manifest.source = expected.ids.source ∧ manifest.context = expected.ids.context ∧
    manifest.producer = expected.ids.producer ∧ manifest.admitter = expected.ids.admitter ∧
    manifest.bootstrap = expected.bootstrap ∧ manifest.provider.policy = expected.policy ∧
    manifest.toolchain = expected.toolchain ∧
    manifest.replay =
      replayBinding expected.ids.source expected.ids.producer expected.ids.admitter ∧
    manifest.keySeparation = expected.separation)

def verifyReleaseSourceAdmission (reads : AdmissionReads) (expectations : AdmissionExpectations) :
    Except Text VerifiedAdmission := do
  let expected ← checkExpectations host.toEvidenceHost expectations
  let bundle ← inspectReleaseSourceAdmission host.toEvidenceHost zip reads.bundlePath reads.bundle
  let manifest ← bundle.manifest host.toEvidenceHost
  refuse (manifest.meets expected = false)
    (owner ++ (" does not match external source/context/producer/runtime/policy " ++
      "expectations").toList)
  let (verified, trusted) ← verifyBytesWithKeyId signing
    (signingDomain.separator ++ bundle.manifestBytes) bundle.signature reads.publicKeyPath
    reads.publicKey
  refuse (trusted ∈ expected.separation.ids)
    (owner ++ " public key belongs to another configured trust domain")
  refuse (manifest.keyId ≠ trusted)
    (owner ++ " key_id does not match the externally trusted public key")
  refuse (verified = false)
    (owner ++ " signature is invalid under the trusted public key")
  let report ← verifyReceiptMaterials host bundle.producerReceiptBytes bundle.verdictBytes
    bundle.handoffBytes
    (expectedReceipt bundle.verdictBytes bundle.handoffBytes expected.ids.source
      expected.ids.context expected.ids.producer expected.bootstrap manifest.execution)
  pure ⟨bundle, report, .allow⟩

end Verification

end EvoomGuard.Admission.SourceAdmission
