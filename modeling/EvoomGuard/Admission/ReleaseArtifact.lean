import EvoomGuard.Admission.ReleaseSource

/-!
The release-artifact admission: a signed manifest over one artifact, the release-source admission it
was built from, and the provider evidence of its build. An error is the text that is raised.
-/

namespace EvoomGuard.Admission.ArtifactAdmission

open EvoomGuard.Admission.SourceAdmission (AdmissionExpectations AdmissionReads
  inspectReleaseSourceAdmission providerName providerSchema ProviderKey VerifiedAdmission
  verifyReleaseSourceAdmission)
open EvidenceBundle GithubAttestation Lib Lib.Checks Lib.Framing ReleaseChain

/-! Names -/

def admissionFormat : Text := "EVOGUARD_RELEASE_ARTIFACT_ADMISSION_V1"

def owner : Text := "release-artifact"

def manifestPath : Text := "admission.json"

def signaturePath : Text := "admission.sig"

def signingDomain : SigningDomain where
  owner := owner
  purpose := "evoguard-release-artifact-admission-v1"
  keyDomain := "release-artifact-admission-v1"
  signaturePath := signaturePath
  separator := utf8 admissionFormat ++ [0]

def sourceMaterial : Material :=
  ⟨"release-artifact prerequisite bundle",
    "materials/release-source-admission.rsae", 1, maxArchiveBytes⟩

def githubReceiptMaterial : Material :=
  ⟨"release-artifact provider receipt", "provider/github-attestation-receipt.json", 1,
    maxReceiptBytes⟩

def rawOutputMaterial : Material :=
  ⟨"release-artifact provider raw output",
    "provider/github-attestation-output.json", 2, maxOutputBytes⟩

def maxManifestBytes : Nat := 1024 * 1024

def maxAdmissionBytes : Nat :=
  maxArchiveBytes + maxOutputBytes + maxReceiptBytes + maxManifestBytes + 2 * 1024 * 1024

/-! The artifact -/

inductive ArtifactKey where
  | kind
  | sha256
  | size
  deriving DecidableEq

def ArtifactKey.text : ArtifactKey → Text
  | .kind => "kind"
  | .sha256 => "sha256"
  | .size => "size"

def artifactSchema : Schema ArtifactKey where
  keys := [.kind, .sha256, .size]
  name := ArtifactKey.text

/-- `ArtifactSubject` is the digest of a file. -/
def artifactValue (artifact : Digest) : ArtifactKey → Json
  | .kind => .string "file"
  | .sha256 => .string artifact.sha256
  | .size => .int artifact.size

def checkSubject (get : ArtifactKey → Json) : Except Text Digest := do
  exactText "file" "release-artifact artifact.kind must be 'file'" (get .kind)
  let sha256 ← textThat Sha256.isHex64
    "release-artifact artifact.sha256 must be a lowercase SHA-256 digest" (get .sha256)
  let size ← intWithin 0 maxArtifactFileBytes
    "release-artifact artifact.size is outside the permitted range" (get .size)
  pure ⟨sha256, size⟩

def validateArtifact (host : EvidenceHost) (value : Json) : Except Text Digest := do
  let fields ← objectOf "release-artifact admission artifact must be an object" value
  artifactSchema.validate host.shownList "release-artifact artifact" checkSubject fields

/-! The builder and the admitter -/

inductive Role where
  | builder
  | admitter
  deriving DecidableEq

def Role.text : Role → Text
  | .builder => "builder"
  | .admitter => "admitter"

def Role.event : Role → Text
  | .builder => "workflow_dispatch"
  | .admitter => "workflow_run"

structure ReleaseWorkflow where
  workflowRepository : Text
  workflowRepositoryId : Text
  workflowId : Text
  workflowPath : Text
  workflowBlobSha : Text
  workflowRunId : Text
  workflowRunAttempt : Int
  workflowCommitSha : Text
  deriving DecidableEq

inductive WorkflowKey where
  | workflowRepository
  | workflowRepositoryId
  | workflowId
  | workflowPath
  | workflowBlobSha
  | workflowRunId
  | workflowRunAttempt
  | workflowEvent
  | workflowRef
  | workflowCommitSha
  | runnerClass
  deriving DecidableEq

def WorkflowKey.text : WorkflowKey → Text
  | .workflowRepository => "workflow_repository"
  | .workflowRepositoryId => "workflow_repository_id"
  | .workflowId => "workflow_id"
  | .workflowPath => "workflow_path"
  | .workflowBlobSha => "workflow_blob_sha"
  | .workflowRunId => "workflow_run_id"
  | .workflowRunAttempt => "workflow_run_attempt"
  | .workflowEvent => "workflow_event"
  | .workflowRef => "workflow_ref"
  | .workflowCommitSha => "workflow_commit_sha"
  | .runnerClass => "runner_class"

def workflowSchema : Schema WorkflowKey where
  keys := [.workflowRepository, .workflowRepositoryId, .workflowId, .workflowPath,
    .workflowBlobSha, .workflowRunId, .workflowRunAttempt, .workflowEvent, .workflowRef,
    .workflowCommitSha, .runnerClass]
  name := WorkflowKey.text

def ReleaseWorkflow.value (role : Role) (workflow : ReleaseWorkflow) : WorkflowKey → Json
  | .workflowRepository => .string workflow.workflowRepository
  | .workflowRepositoryId => .string workflow.workflowRepositoryId
  | .workflowId => .string workflow.workflowId
  | .workflowPath => .string workflow.workflowPath
  | .workflowBlobSha => .string workflow.workflowBlobSha
  | .workflowRunId => .string workflow.workflowRunId
  | .workflowRunAttempt => .int workflow.workflowRunAttempt
  | .workflowEvent => .string role.event
  | .workflowRef => .string mainRef
  | .workflowCommitSha => .string workflow.workflowCommitSha
  | .runnerClass => .string githubHosted

def ReleaseWorkflow.asDict (role : Role) (workflow : ReleaseWorkflow) : List (Text × Json) :=
  workflowSchema.object (workflow.value role)

def isAsciiRepository (text : Text) : Bool := decide (text.length ≤ 256) && isRepository text

def isAsciiWorkflowPath (text : Text) : Bool := decide (text.length ≤ 256) && isWorkflowPath text

def checkWorkflow (role : Role) (get : WorkflowKey → Json) : Except Text ReleaseWorkflow := do
  let repository ← textThat isAsciiRepository
    (role.text ++ ".workflow_repository must be canonical owner/repository ASCII text")
    (get .workflowRepository)
  let path ← textThat isAsciiWorkflowPath
    (role.text ++ ".workflow_path must be a canonical .github/workflows/*.yml path")
    (get .workflowPath)
  exactText role.event (role.text ++ ".workflow_event must be exactly '" ++ role.event ++
    "'") (get .workflowEvent)
  exactText mainRef (role.text ++ ".workflow_ref must be exactly 'refs/heads/main'")
    (get .workflowRef)
  exactText githubHosted (role.text ++ ".runner_class must be exactly 'github-hosted'")
    (get .runnerClass)
  let attempt ← validateAttempt (role.text ++ ".workflow_run_attempt")
    (get .workflowRunAttempt)
  let repositoryId ← numericId (role.text ++ ".workflow_repository_id")
    (get .workflowRepositoryId)
  let workflowId ← numericId (role.text ++ ".workflow_id") (get .workflowId)
  let blobSha ← validateGitSha (role.text ++ ".workflow_blob_sha") (get .workflowBlobSha)
  let runId ← numericId (role.text ++ ".workflow_run_id") (get .workflowRunId)
  let commitSha ← validateGitSha (role.text ++ ".workflow_commit_sha")
    (get .workflowCommitSha)
  pure
    { workflowRepository := repository
      workflowRepositoryId := repositoryId
      workflowId := workflowId
      workflowPath := path
      workflowBlobSha := blobSha
      workflowRunId := runId
      workflowRunAttempt := attempt
      workflowCommitSha := commitSha }

/-- `_validate_release_artifact_workflow`. -/
def validateWorkflow (host : EvidenceHost) (role : Role) (fields : List (Text × Json)) :
    Except Text ReleaseWorkflow :=
  workflowSchema.validate host.shownList ("release-artifact " ++ role.text)
    (checkWorkflow role) fields

def validateReleaseArtifactBuilder (host : EvidenceHost) (fields : List (Text × Json)) :
    Except Text ReleaseWorkflow := validateWorkflow host .builder fields

def validateReleaseArtifactAdmitter (host : EvidenceHost) (fields : List (Text × Json)) :
    Except Text ReleaseWorkflow := validateWorkflow host .admitter fields

/-- `_validate_workflow_source_binding`. The two descriptors are read again first. -/
def validateSourceBinding (host : EvidenceHost) (role : Role) (workflow : ReleaseWorkflow)
    (source : ReleaseSource) : Except Text Unit := do
  let workflow ← validateWorkflow host role (workflow.asDict role)
  let source ← validateReleaseSource host source.asDict
  refuse (workflow.workflowRepository ≠ source.repository)
    (role.text ++ " repository does not match the release source")
  refuse (workflow.workflowRepositoryId ≠ source.repositoryId)
    (role.text ++ " repository ID does not match the release source")
  refuse (workflow.workflowCommitSha ≠ source.targetCommitSha)
    (role.text ++ " workflow commit does not match the protected-main source")

/-! The registry of the earlier keys -/

structure KeySeparation where
  artifactAdmissionV1 : Text
  artifactDigestAdmissionV2 : Text
  releaseSourceAdmissionV2 : Text
  releaseSourceFinalizerV1 : Text
  trustedFinalizer : Text
  deriving DecidableEq

inductive KeyDomain where
  | artifactAdmissionV1
  | artifactDigestAdmissionV2
  | releaseSourceAdmissionV2
  | releaseSourceFinalizerV1
  | trustedFinalizer
  deriving DecidableEq

def KeyDomain.text : KeyDomain → Text
  | .artifactAdmissionV1 => "artifact_admission_v1"
  | .artifactDigestAdmissionV2 => "artifact_digest_admission_v2"
  | .releaseSourceAdmissionV2 => "release_source_admission_v2"
  | .releaseSourceFinalizerV1 => "release_source_finalizer_v1"
  | .trustedFinalizer => "trusted_finalizer"

def keySeparationSchema : Schema KeyDomain where
  keys := [.artifactAdmissionV1, .artifactDigestAdmissionV2, .releaseSourceAdmissionV2,
    .releaseSourceFinalizerV1, .trustedFinalizer]
  name := KeyDomain.text

def KeySeparation.value (keys : KeySeparation) : KeyDomain → Json
  | .artifactAdmissionV1 => .string keys.artifactAdmissionV1
  | .artifactDigestAdmissionV2 => .string keys.artifactDigestAdmissionV2
  | .releaseSourceAdmissionV2 => .string keys.releaseSourceAdmissionV2
  | .releaseSourceFinalizerV1 => .string keys.releaseSourceFinalizerV1
  | .trustedFinalizer => .string keys.trustedFinalizer

def KeySeparation.asDict (keys : KeySeparation) : List (Text × Json) :=
  keySeparationSchema.object keys.value

def KeySeparation.ids (keys : KeySeparation) : List Text :=
  [keys.artifactAdmissionV1, keys.artifactDigestAdmissionV2, keys.releaseSourceAdmissionV2,
    keys.releaseSourceFinalizerV1, keys.trustedFinalizer]

/-- `_expected_release_source_key_separation`. -/
def KeySeparation.source (keys : KeySeparation) : SourceAdmission.KeySeparation where
  artifactAdmissionV1 := keys.artifactAdmissionV1
  artifactDigestAdmissionV2 := keys.artifactDigestAdmissionV2
  releaseSourceFinalizerV1 := keys.releaseSourceFinalizerV1
  trustedFinalizer := keys.trustedFinalizer

def separationLabel : Text := owner ++ " key separation"

def separationId (domain : KeyDomain) (get : KeyDomain → Json) : Except Text Text :=
  signerId (separationLabel ++ '.' :: domain.text) (get domain)

def checkKeySeparation (get : KeyDomain → Json) : Except Text KeySeparation := do
  let artifact ← separationId .artifactAdmissionV1 get
  let digest ← separationId .artifactDigestAdmissionV2 get
  let admission ← separationId .releaseSourceAdmissionV2 get
  let finalizer ← separationId .releaseSourceFinalizerV1 get
  let trusted ← separationId .trustedFinalizer get
  let keys : KeySeparation := ⟨artifact, digest, admission, finalizer, trusted⟩
  refuse (¬keys.ids.Nodup) (distinctProblem owner)
  pure keys

def validateKeySeparation (host : EvidenceHost) (value : Json) : Except Text KeySeparation :=
  validateSection host keySeparationSchema separationLabel checkKeySeparation value

/-! The summary of the embedded admission -/

structure SourceSummary where
  bundle : Digest
  keyId : Text
  repository : Text
  repositoryId : Text
  targetCommitSha : Text
  targetTreeSha : Text
  bootstrapGuardSha256 : Text
  deriving DecidableEq

inductive SummaryKey where
  | format
  | decision
  | bundle
  | keyId
  | repository
  | repositoryId
  | targetCommitSha
  | targetTreeSha
  | bootstrapGuardSha256
  deriving DecidableEq

def SummaryKey.text : SummaryKey → Text
  | .format => "format"
  | .decision => "decision"
  | .bundle => "bundle"
  | .keyId => "key_id"
  | .repository => "repository"
  | .repositoryId => "repository_id"
  | .targetCommitSha => "target_commit_sha"
  | .targetTreeSha => "target_tree_sha"
  | .bootstrapGuardSha256 => "bootstrap_guard_sha256"

def summarySchema : Schema SummaryKey where
  keys := [.format, .decision, .bundle, .keyId, .repository, .repositoryId, .targetCommitSha,
    .targetTreeSha, .bootstrapGuardSha256]
  name := SummaryKey.text

def SourceSummary.value (summary : SourceSummary) : SummaryKey → Json
  | .format => .string SourceAdmission.admissionFormat
  | .decision => .string "ALLOW"
  | .bundle => sourceMaterial.descriptor summary.bundle
  | .keyId => .string summary.keyId
  | .repository => .string summary.repository
  | .repositoryId => .string summary.repositoryId
  | .targetCommitSha => .string summary.targetCommitSha
  | .targetTreeSha => .string summary.targetTreeSha
  | .bootstrapGuardSha256 => .string summary.bootstrapGuardSha256

def SourceSummary.asDict (summary : SourceSummary) : List (Text × Json) :=
  summarySchema.object summary.value

section Summary

variable (host : EvidenceHost)

def checkSummary (get : SummaryKey → Json) : Except Text SourceSummary := do
  exactText SourceAdmission.admissionFormat
    "release-artifact prerequisite format is unsupported" (get .format)
  exactText "ALLOW" "release-artifact prerequisite decision must be ALLOW"
    (get .decision)
  let keyId ← textThat isKeyId "release-artifact prerequisite key_id is invalid" (get .keyId)
  let repository ← textThat isRepository
    "release-artifact prerequisite repository is invalid" (get .repository)
  let repositoryId ← numericId "release_source.repository_id" (get .repositoryId)
  let targetCommit ← validateGitSha "release_source.target_commit_sha"
    (get .targetCommitSha)
  let targetTree ← validateGitSha "release_source.target_tree_sha" (get .targetTreeSha)
  let bootstrap ← textThat Sha256.isHex64
    "release-artifact prerequisite bootstrap digest is invalid" (get .bootstrapGuardSha256)
  let bundle ← sourceMaterial.validate host (get .bundle)
  pure ⟨bundle, keyId, repository, repositoryId, targetCommit, targetTree, bootstrap⟩

def validateSourceSummary (value : Json) : Except Text SourceSummary :=
  validateSection host summarySchema "release-artifact release_source" (checkSummary host)
    value

end Summary

/-- The summary of an embedded admission, before it is validated. -/
def summaryOf (manifest : SourceAdmission.Manifest) (source : Bytes) : SourceSummary where
  bundle := digestOf source
  keyId := manifest.keyId
  repository := manifest.source.repository
  repositoryId := manifest.source.repositoryId
  targetCommitSha := manifest.source.targetCommitSha
  targetTreeSha := manifest.source.targetTreeSha
  bootstrapGuardSha256 := manifest.bootstrap

/-! The provider -/

/-- `str(value)`. -/
def textOf (host : EvidenceHost) : Json → Json
  | .string text => .string text
  | other => .string (host.shown other)

def checkGithubPolicy (host : EvidenceHost) (get : PolicyKey → Json) :
    Except Text GitHubAttestationPolicy :=
  canonicalPolicy "release-artifact provider policy is not canonical"
    (fun key => textOf host (get key)) get

def validateGithubPolicy (host : EvidenceHost) (value : Json) :
    Except Text GitHubAttestationPolicy :=
  validateSection host policySchema "release-artifact provider policy"
    (checkGithubPolicy host) value

def policyForBuilder (builder : ReleaseWorkflow) (targetCommitSha : Text) :
    Except Text GitHubAttestationPolicy :=
  githubAttestationPolicy (.string builder.workflowRepository)
    (.string (builder.workflowRepository ++ '/' :: builder.workflowPath)) (.string targetCommitSha)
    (.string builder.workflowCommitSha) (.string mainRef) (.string certOidcIssuer)

structure ProviderSection where
  artifact : Digest
  policy : GitHubAttestationPolicy
  receipt : Digest
  rawOutput : Digest
  deriving DecidableEq

def ProviderSection.value (provider : ProviderSection) : ProviderKey → Json
  | .name => .string providerName
  | .artifact => .object provider.artifact.asDict
  | .policy => .object provider.policy.asDict
  | .count => .int 1
  | .receipt => githubReceiptMaterial.descriptor provider.receipt
  | .rawOutput => rawOutputMaterial.descriptor provider.rawOutput

def ProviderSection.asDict (provider : ProviderSection) : List (Text × Json) :=
  providerSchema.object provider.value

section Provider

variable (host : EvidenceHost)

def checkProvider (artifact : Digest) (builder : ReleaseWorkflow) (targetCommitSha : Text)
    (get : ProviderKey → Json) : Except Text ProviderSection := do
  exactText providerName "release-artifact provider name is unsupported" (get .name)
  refuse ((get .count).alike (.int 1) = false)
    "release-artifact provider must verify exactly one attestation"
  refuse ((get .artifact).alike (.object artifact.asDict) = false)
    "release-artifact provider subject does not match the signed artifact"
  let policy ← validateGithubPolicy host (get .policy)
  let expected ← policyForBuilder builder targetCommitSha
  refuse (policy ≠ expected)
    "release-artifact provider policy is not bound to the exact builder/source"
  let receipt ← githubReceiptMaterial.validate host (get .receipt)
  let rawOutput ← rawOutputMaterial.validate host (get .rawOutput)
  pure ⟨artifact, policy, receipt, rawOutput⟩

def validateProvider (artifact : Digest) (builder : ReleaseWorkflow) (targetCommitSha : Text)
    (value : Json) : Except Text ProviderSection :=
  validateSection host providerSchema "release-artifact provider"
    (checkProvider host artifact builder targetCommitSha) value

end Provider

/-! The manifest -/

structure Manifest where
  releaseSource : SourceSummary
  artifact : Digest
  builder : ReleaseWorkflow
  admitter : ReleaseWorkflow
  provider : ProviderSection
  toolchain : Toolchain
  keySeparation : KeySeparation
  keyId : Text
  deriving DecidableEq

inductive ManifestKey where
  | format
  | decision
  | releaseSource
  | artifact
  | builder
  | admitter
  | provider
  | toolchain
  | keySeparation
  | authentication
  deriving DecidableEq

def ManifestKey.text : ManifestKey → Text
  | .format => "format"
  | .decision => "decision"
  | .releaseSource => "release_source"
  | .artifact => "artifact"
  | .builder => "builder"
  | .admitter => "admitter"
  | .provider => "provider"
  | .toolchain => "toolchain"
  | .keySeparation => "key_separation"
  | .authentication => "authentication"

def manifestSchema : Schema ManifestKey where
  keys := [.format, .decision, .releaseSource, .artifact, .builder, .admitter, .provider,
    .toolchain, .keySeparation, .authentication]
  name := ManifestKey.text

def Manifest.value (manifest : Manifest) : ManifestKey → Json
  | .format => .string admissionFormat
  | .decision => .string "ALLOW"
  | .releaseSource => .object manifest.releaseSource.asDict
  | .artifact => .object (artifactSchema.object (artifactValue manifest.artifact))
  | .builder => .object (manifest.builder.asDict .builder)
  | .admitter => .object (manifest.admitter.asDict .admitter)
  | .provider => .object manifest.provider.asDict
  | .toolchain => .object manifest.toolchain.asDict
  | .keySeparation => .object manifest.keySeparation.asDict
  | .authentication => signingDomain.block manifest.keyId

def Manifest.asDict (manifest : Manifest) : List (Text × Json) :=
  manifestSchema.object manifest.value

def ReleaseWorkflow.identity (workflow : ReleaseWorkflow) : WorkflowIdentity :=
  ⟨workflow.workflowId, workflow.workflowPath, workflow.workflowRunId⟩

def requireSummary (role : Role) (workflow : ReleaseWorkflow) (summary : SourceSummary) :
    Except Text Unit :=
  refuse (workflow.workflowRepository ≠ summary.repository ∨
      workflow.workflowRepositoryId ≠ summary.repositoryId ∨
      workflow.workflowCommitSha ≠ summary.targetCommitSha)
    ("release-artifact " ++ role.text ++
      " is not bound to the summarized protected source")

def requireDistinct (builder admitter : WorkflowIdentity) : Except Text Unit := do
  refuse (builder.id = admitter.id)
    "release-artifact admitter workflow_id must differ from the builder"
  refuse (builder.path = admitter.path)
    "release-artifact admitter workflow_path must differ from the builder"
  refuse (builder.run = admitter.run)
    "release-artifact admitter workflow_run_id must differ from the builder"

section Manifest

variable (host : EvidenceHost)

def checkManifest (get : ManifestKey → Json) : Except Text Manifest := do
  exactText admissionFormat ("unsupported release-artifact admission format: " ++
    host.shown (get .format)) (get .format)
  exactText "ALLOW" "release-artifact admission decision must be ALLOW"
    (get .decision)
  let summary ← validateSourceSummary host (get .releaseSource)
  let artifact ← validateArtifact host (get .artifact)
  let builder ← objectOf "release-artifact builder and admitter must be objects"
    (get .builder)
  let admitter ← objectOf "release-artifact builder and admitter must be objects"
    (get .admitter)
  let builder ← validateReleaseArtifactBuilder host builder
  let admitter ← validateReleaseArtifactAdmitter host admitter
  requireSummary .builder builder summary
  requireSummary .admitter admitter summary
  requireDistinct builder.identity admitter.identity
  let keySeparation ← validateKeySeparation host (get .keySeparation)
  refuse (keySeparation.releaseSourceAdmissionV2 ≠ summary.keyId)
    "release-artifact key registry does not name the embedded RSAE signer"
  let keyId ← signingDomain.validate host (get .authentication)
  refuse (keyId ∈ keySeparation.ids)
    "release-artifact signing key belongs to an earlier trust domain"
  let provider ← validateProvider host artifact builder summary.targetCommitSha (get .provider)
  let toolchain ← validateToolchain host owner "lowercase SHA-256" (get .toolchain)
  pure
    { releaseSource := summary
      artifact := artifact
      builder := builder
      admitter := admitter
      provider := provider
      toolchain := toolchain
      keySeparation := keySeparation
      keyId := keyId }

def validateManifest (fields : List (Text × Json)) : Except Text Manifest :=
  manifestSchema.validate host.shownList "release-artifact manifest" (checkManifest host)
    fields

def loadManifest (data : Bytes) : Except Text Manifest := do
  let loaded ← loadJsonObjectBytes host data "release-artifact admission manifest"
  validateManifest host loaded

end Manifest

/-! The archive -/

structure AdmissionMembers where
  manifest : Bytes
  signature : Bytes
  source : Bytes
  githubReceipt : Bytes
  rawOutput : Bytes
  deriving DecidableEq

def AdmissionMembers.list (members : AdmissionMembers) : List (Text × Bytes) :=
  [(manifestPath, members.manifest), (signaturePath, members.signature),
    (sourceMaterial.path, members.source), (githubReceiptMaterial.path, members.githubReceipt),
    (rawOutputMaterial.path, members.rawOutput)]

def archiveLayout : ArchiveLayout where
  members := [(manifestPath, maxManifestBytes), (signaturePath, 88),
    (sourceMaterial.path, maxArchiveBytes), (githubReceiptMaterial.path, maxReceiptBytes),
    (rawOutputMaterial.path, maxOutputBytes)]
  countProblem := "release-artifact admission archive must contain exactly five members"
  namesProblem := "release-artifact archive member names/order are not canonical"

/-- An inspected archive; its signature is decoded and not trusted yet. -/
structure InspectedAdmission where
  manifestBytes : Bytes
  signature : Bytes
  sourceBytes : Bytes
  githubReceiptBytes : Bytes
  rawOutputBytes : Bytes
  deriving DecidableEq

def InspectedAdmission.evidence (bundle : InspectedAdmission) : ProviderEvidence :=
  ⟨bundle.githubReceiptBytes, bundle.rawOutputBytes⟩

/-! Roles -/

/-- Two workflows that share a selector. -/
def overlap (left right : WorkflowIdentity) : Bool :=
  left.id == right.id || left.path == right.path || left.run == right.run

def sourceRoles (manifest : SourceAdmission.Manifest) : List WorkflowIdentity :=
  [manifest.producer.identity, manifest.admitter.identity, manifest.producer.trigger]

def requireFresh (role : Role) (identity : WorkflowIdentity) (taken : List WorkflowIdentity) :
    Except Text Unit :=
  refuse (taken.any (overlap identity) = true)
    (role.text ++
      " workflow ID, path, and run must be distinct from every release-source role")

def validateRoleSeparation (builder admitter : ReleaseWorkflow)
    (manifest : SourceAdmission.Manifest) : Except Text Unit := do
  requireFresh .builder builder.identity (sourceRoles manifest)
  requireFresh .admitter admitter.identity (sourceRoles manifest)
  requireDistinct builder.identity admitter.identity

section Inspection

variable (host : EvidenceHost)

def subjectProblem : Text :=
  "GitHub attestation receipt does not name the exact artifact"

/-- `_verify_github_materials`. The run of the output is the expected one once it is validated, so
the source's own comparison of the two never fails. -/
def verifyGithubMaterials (evidence : ProviderEvidence) (artifact : Digest)
    (policy : GitHubAttestationPolicy) (builder : ReleaseWorkflow) : Except Text Unit := do
  let _ ← checkProviderEvidence host subjectProblem artifact policy builder.workflowRunId
    builder.workflowRunAttempt evidence
  pure ()

variable (zip : ZipModule)

/-- The private copy that an embedded admission is read from. -/
def stagedSource : Text := "source.rsae"

def inspectEmbeddedSource (source : Bytes) (summary : SourceSummary) (keys : KeySeparation)
    (builder admitter : ReleaseWorkflow) : Except Text Unit := do
  let embedded ← (do
    let inspected ← inspectReleaseSourceAdmission host zip stagedSource (.ok source)
    inspected.manifest host).mapError fun problem =>
      "embedded release-source admission is invalid: " ++ problem
  refuse (summary ≠ summaryOf embedded source)
    "embedded release-source admission does not match its signed summary"
  refuse (embedded.keySeparation ≠ keys.source)
    "embedded release-source admission key registry does not match RAAE"
  refuse (embedded.keyId ≠ keys.releaseSourceAdmissionV2)
    "embedded release-source signer does not match the RAAE key registry"
  validateRoleSeparation builder admitter embedded

/-- The checks of the members of an archive whose listing is canonical. -/
def inspectMembers (members : AdmissionMembers) : Except Text InspectedAdmission := do
  let manifest ← loadManifest host members.manifest
  let canonical ← canonicalJsonBytes host manifest.asDict
  refuse (canonical ≠ members.manifest)
    "release-artifact admission manifest is not canonical JSON"
  let signature ← decodeSignature (owner ++ " signature") members.signature
  verifyDescriptor "release-source admission" manifest.releaseSource.bundle members.source
  verifyDescriptor "provider receipt" manifest.provider.receipt members.githubReceipt
  verifyDescriptor "provider raw output" manifest.provider.rawOutput members.rawOutput
  let artifact ← validateArtifact host
    (.object (artifactSchema.object (artifactValue manifest.artifact)))
  let policy ← validateGithubPolicy host (.object manifest.provider.policy.asDict)
  verifyGithubMaterials host ⟨members.githubReceipt, members.rawOutput⟩ artifact policy
    manifest.builder
  inspectEmbeddedSource host zip members.source manifest.releaseSource manifest.keySeparation
    manifest.builder manifest.admitter
  pure ⟨members.manifest, signature, members.source, members.githubReceipt, members.rawOutput⟩

def membersOf : List Bytes → Except Text AdmissionMembers
  | [manifest, signature, source, githubReceipt, rawOutput] =>
    .ok ⟨manifest, signature, source, githubReceipt, rawOutput⟩
  | _ => .error archiveLayout.countProblem

def inspectReleaseArtifactAdmission (path : Text) (found : FileAnswer) :
    Except Text InspectedAdmission := do
  let snapshot ← readRegularFileBytes host maxAdmissionBytes
    "release-artifact admission bundle" path found
  let values ← archiveLayout.read host zip snapshot
  let members ← membersOf values
  let inspected ← inspectMembers host zip members
  refuse (canonicalArchiveBytes zip members.list ≠ snapshot)
    "release-artifact admission archive bytes are not canonical"
  pure inspected

def InspectedAdmission.manifest (bundle : InspectedAdmission) : Except Text Manifest :=
  loadManifest host bundle.manifestBytes

end Inspection

/-! Verification -/

structure ArtifactExpectations where
  releaseSource : List (Text × Json)
  releaseSourceContext : List (Text × Json)
  releaseSourceProducer : List (Text × Json)
  releaseSourceAdmitter : List (Text × Json)
  releaseSourceBootstrapGuardSha256 : Text
  releaseSourceGithubPolicy : List (Text × Json)
  releaseSourceGitExecutableSha256 : Text
  releaseSourceGithubCliExecutableSha256 : Text
  releaseSourceProviderIsolationUid : Int
  releaseSourceProviderIsolationGid : Int
  builder : List (Text × Json)
  admitter : List (Text × Json)
  keySeparation : Json
  gitExecutableSha256 : Text
  githubCliExecutableSha256 : Text
  providerIsolationUid : Int
  providerIsolationGid : Int

structure ArtifactReads where
  bundlePath : Text
  bundle : FileAnswer
  artifactPath : Text
  artifact : FileAnswer
  publicKeyPath : Text
  publicKey : FileAnswer
  sourcePublicKeyPath : Text
  sourcePublicKey : FileAnswer

structure VerifiedArtifactAdmission where
  bundle : InspectedAdmission
  releaseSource : VerifiedAdmission
  artifact : Digest
  decision : SourceAdmission.Decision

structure CheckedArtifactExpectations where
  separation : KeySeparation
  builder : ReleaseWorkflow
  admitter : ReleaseWorkflow
  source : ReleaseSource
  toolchain : Toolchain

def checkArtifactExpectations (host : EvidenceHost) (expected : ArtifactExpectations) :
    Except Text CheckedArtifactExpectations := do
  let separation ← validateKeySeparation host expected.keySeparation
  let builder ← validateReleaseArtifactBuilder host expected.builder
  let admitter ← validateReleaseArtifactAdmitter host expected.admitter
  let source ← validateReleaseSource host expected.releaseSource
  validateSourceBinding host .builder builder source
  validateSourceBinding host .admitter admitter source
  let toolchain ← expectedToolchain host owner "lowercase SHA-256"
    expected.gitExecutableSha256 expected.githubCliExecutableSha256 expected.providerIsolationUid
    expected.providerIsolationGid
  pure ⟨separation, builder, admitter, source, toolchain⟩

def Manifest.meets (manifest : Manifest) (expected : CheckedArtifactExpectations)
    (artifact : Digest) : Bool :=
  decide (manifest.artifact = artifact ∧ manifest.builder = expected.builder ∧
    manifest.admitter = expected.admitter ∧ manifest.toolchain = expected.toolchain ∧
    manifest.keySeparation = expected.separation)

def ArtifactExpectations.sourceExpectations (expected : ArtifactExpectations)
    (checked : CheckedArtifactExpectations) : AdmissionExpectations where
  source := checked.source.asDict
  context := expected.releaseSourceContext
  producer := expected.releaseSourceProducer
  admitter := expected.releaseSourceAdmitter
  bootstrapGuardSha256 := expected.releaseSourceBootstrapGuardSha256
  githubPolicy := expected.releaseSourceGithubPolicy
  keySeparation := .object checked.separation.source.asDict
  gitExecutableSha256 := expected.releaseSourceGitExecutableSha256
  githubCliExecutableSha256 := expected.releaseSourceGithubCliExecutableSha256
  providerIsolationUid := expected.releaseSourceProviderIsolationUid
  providerIsolationGid := expected.releaseSourceProviderIsolationGid

section Verification

variable (host : ReleaseHost) (zip : ZipModule) (signing : SigningHost)

/-- `_verify_release_source_snapshot`. ALLOW is the only decision a verification has. -/
def verifyReleaseSourceSnapshot (bytes : Bytes) (publicKeyPath : Text) (publicKey : FileAnswer)
    (expectations : AdmissionExpectations) : Except Text VerifiedAdmission :=
  (verifyReleaseSourceAdmission host zip signing
    ⟨stagedSource, .ok bytes, publicKeyPath, publicKey⟩ expectations).mapError fun problem =>
      "release-source admission prerequisite is invalid: " ++ problem

def sourceSummary (manifest : SourceAdmission.Manifest) (source : Bytes) :
    Except Text SourceSummary :=
  validateSourceSummary host.toEvidenceHost (.object (summaryOf manifest source).asDict)

def verifyReleaseArtifactAdmission (reads : ArtifactReads) (expectations : ArtifactExpectations) :
    Except Text VerifiedArtifactAdmission := do
  let expected ← checkArtifactExpectations host.toEvidenceHost expectations
  let artifact ← snapshotRegularArtifact host.toEvidenceHost reads.artifactPath reads.artifact
  let bundle ← inspectReleaseArtifactAdmission host.toEvidenceHost zip reads.bundlePath reads.bundle
  let manifest ← bundle.manifest host.toEvidenceHost
  refuse (manifest.meets expected artifact = false)
    ("release-artifact admission does not match external artifact/builder/tool/key " ++
      "expectations").toList
  let (verified, trusted) ← verifyBytesWithKeyId signing
    (signingDomain.separator ++ bundle.manifestBytes) bundle.signature reads.publicKeyPath
    reads.publicKey
  refuse (trusted ∈ expected.separation.ids)
    "release-artifact public key belongs to an earlier trust domain"
  refuse (manifest.keyId ≠ trusted)
    "release-artifact key_id does not match the externally trusted public key"
  refuse (verified = false)
    "release-artifact signature is invalid under the trusted public key"
  let source ← verifyReleaseSourceSnapshot host zip signing bundle.sourceBytes
    reads.sourcePublicKeyPath reads.sourcePublicKey (expectations.sourceExpectations expected)
  let embedded ← source.bundle.manifest host.toEvidenceHost
  let summary ← sourceSummary host embedded bundle.sourceBytes
  refuse (manifest.releaseSource ≠ summary)
    "release-artifact signed source summary does not match the verified RSAE"
  validateRoleSeparation expected.builder expected.admitter embedded
  let policy ← policyForBuilder expected.builder expected.source.targetCommitSha
  refuse (manifest.provider.policy ≠ policy)
    "release-artifact provider policy does not match external source/builder"
  verifyGithubMaterials host.toEvidenceHost bundle.evidence artifact policy expected.builder
  pure ⟨bundle, source, artifact, .allow⟩

end Verification

end EvoomGuard.Admission.ArtifactAdmission
