import EvoomGuard.Admission.SourceContract

/-!
`seal_release_source_admission`: the snapshot of an attested producer receipt and of the two
retained provider files, the manifest over it, and the archive that is staged, inspected and
promoted. Every read of a file is an answer of its own, so that a file may change between two reads.
-/

namespace EvoomGuard.Admission.SourceAdmission

open EvidenceBundle Finalizer GithubAttestation Lib Lib.Checks Lib.Framing ReleaseChain

/-- `RuntimeBoundReleaseSourceAdmitter`; the capability holds the canonical bytes of the admitter
and of the producer the runtime was bound to. -/
structure RuntimeBoundAdmitter where
  admitter : List (Text × Json)
  capability : Option (Bytes × Bytes)

/-- `require_runtime_bound_release_source_admitter`. -/
def requireRuntimeBound (host : EvidenceHost) (bound : RuntimeBoundAdmitter)
    (producer : ReleaseProducer) : Except Text ReleaseProducer :=
  match bound.capability with
  | none => .error "release-source admitter runtime capability was not minted by this module"
  | some (boundAdmitter, boundProducer) => do
      let checked ← validateReleaseAdmitter host bound.admitter
      let producer ← validateReleaseProducer host producer.asDict
      let admitterBytes ← canonicalJsonBytes host checked.asDict
      let producerBytes ← canonicalJsonBytes host producer.asDict
      refuse (admitterBytes ≠ boundAdmitter ∨ producerBytes ≠ boundProducer)
        "release-source admitter runtime capability does not match its C/B identity"
      pure checked

structure SealRequest where
  outputPath : Text
  admitter : RuntimeBoundAdmitter
  keySeparation : Json
  gitExecutable : GitExecutablePin
  isolation : ProviderIsolation
  privateKeyPath : Text
  signingPublicKeyPath : Text
  expectedSigningKeyId : Text
  force : Bool

/-- What one sealing finds: the output path, the two provider files, raw Git, the two key files, and
whether the archive can be staged and promoted. -/
structure SealRun where
  outputIsDirectory : Bool
  outputExists : Bool
  githubReceipt : FileAnswer
  githubRawOutput : FileAnswer
  workflows : CommitReader
  privateKey : FileAnswer
  publicKey : FileAnswer
  staged : Except Text Unit
  promoted : Except Text Unit

structure AttestedSnapshot where
  verdict : Bytes
  handoff : Bytes
  producerReceipt : Bytes
  evidence : ProviderEvidence
  provider : ProviderSection
  payload : ReleaseProducerReceipt

section Snapshot

variable (host : ReleaseHost)

/-- `is_fresh_…` and `is_admission_capable_…`: the receipt was minted by the fresh verification,
with this signing key, this Git and this isolation. -/
def requireCapability (attested : AttestedProducerReceipt) (request : SealRequest) :
    Except Text Unit :=
  match attested.capability with
  | none => .error ("release-source ALLOW requires a freshly verified " ++
      "AttestedReleaseSourceProducerReceipt").toList
  | some capability =>
    refuse (capability.isolation ≠ some request.isolation ∨
        capability.signingKeyPath ≠ some request.privateKeyPath ∨
        capability.gitExecutable ≠ some request.gitExecutable)
      ("release-source ALLOW requires isolated provider verification bound to this exact " ++
        "protected signing-key path").toList

def capturedProvider (receipt : Digest) (policy : GitHubAttestationPolicy)
    (evidence : ProviderEvidence) : ProviderSection :=
  ⟨receipt.sha256, .int receipt.size, policy, digestOf evidence.receipt,
    digestOf evidence.rawOutput⟩

def receiptPathsProblem : Text := "GitHub receipt and raw-output paths must differ"

/-- The two retained files, as sealing finds them. -/
def readProviderFiles (github : CreatedGitHubAttestationReceipt) (run : SealRun) :
    Except Text ProviderEvidence := do
  let receipt ← readRegularFileBytes host.toEvidenceHost maxReceiptBytes
    "fresh GitHub attestation receipt" github.receiptPath run.githubReceipt
  let rawOutput ← readRegularFileBytes host.toEvidenceHost maxOutputBytes
    "fresh GitHub attestation raw output" github.rawOutputPath run.githubRawOutput
  pure ⟨receipt, rawOutput⟩

def attestedSnapshot (attested : AttestedProducerReceipt) (request : SealRequest) (run : SealRun) :
    Except Text AttestedSnapshot := do
  requireCapability attested request
  let verified := attested.verified
  let receipt := verified.receipt.receiptBytes
  let verdict := verified.handoff.verdictBytes
  let handoff := verified.handoff.inspection.handoffBytes
  let payload ← validateProducerReceipt host.toEvidenceHost verified.receipt.payload.asDict
  let canonical ← canonicalJsonBytes host.toEvidenceHost payload.asDict
  refuse (canonical ≠ receipt)
    "attested producer receipt object does not preserve its exact canonical bytes"
  let derived ← contextFromBindings host.toEvidenceHost verified.bindings verified.handoff.verdict
  refuse (derived ≠ payload.context ∨ verified.bindings.source ≠ payload.source)
    "attested raw-Git bindings do not match the producer receipt"
  let github := attested.githubReceipt
  refuse (host.paths.abspath github.receiptPath = host.paths.abspath github.rawOutputPath)
    receiptPathsProblem
  let evidence ← readProviderFiles host github run
  refuse (github.artifact ≠ digestOf receipt)
    "fresh provider verification subject is not the exact producer receipt"
  verifyGithubMaterials host.toEvidenceHost receipt evidence github.policy payload.producer
  let _ ← verifyReceiptMaterials host receipt verdict handoff
    (expectedReceipt verdict handoff payload.source payload.context payload.producer
      payload.bootstrap payload.execution)
  let provider ← validateProvider host.toEvidenceHost payload.source payload.producer
    (digestOf receipt) (.object (capturedProvider (digestOf receipt) github.policy evidence).asDict)
  pure ⟨verdict, handoff, receipt, evidence, provider, payload⟩

end Snapshot

section

variable (host : ReleaseHost)

/-- The checks of the arguments, before anything is read. -/
def validateSealArguments (request : SealRequest) (run : SealRun) : Except Text KeySeparation := do
  let separation ← validateKeySeparation host.toEvidenceHost request.keySeparation
  refuse (isKeyId request.expectedSigningKeyId = false)
    ("expected release-source admission signing key ID must be sha256:<lowercase DER-SPKI " ++
      "digest>").toList
  refuse (request.expectedSigningKeyId ∈ separation.ids)
    ("expected release-source admission signing key belongs to another configured trust " ++
      "domain").toList
  refuse (request.outputPath = ['-'] ∨ request.privateKeyPath = ['-'] ∨
      request.signingPublicKeyPath = ['-'])
    "release-source admission output and signing keys must be regular paths"
  let output := host.paths.identity request.outputPath
  let privateKey := host.paths.identity request.privateKeyPath
  let publicKey := host.paths.identity request.signingPublicKeyPath
  refuse (output = privateKey ∨ output = publicKey)
    "release-source admission output must differ from its signing-key paths"
  refuse (privateKey = publicKey)
    "release-source admission private and public key paths must differ"
  refuse (run.outputIsDirectory = true)
    ("release-source admission output is a directory: " ++
      host.paths.abspath request.outputPath)
  refuse (run.outputExists = true ∧ request.force = false)
    ("refusing to overwrite existing release-source admission bundle: " ++
      host.paths.abspath request.outputPath)
  pure separation

/-- The workflow that seals is the one its runtime was bound to, and its definition is in the
protected tree. -/
def admittingWorkflow (request : SealRequest) (run : SealRun) (payload : ReleaseProducerReceipt) :
    Except Text ReleaseProducer := do
  let bound ← requireRuntimeBound host.toEvidenceHost request.admitter payload.producer
  verifyAdmitterBlob host.derivation run.workflows host.toEvidenceHost payload.source
    payload.producer bound

end

section

variable (host : ReleaseHost) (zip : ZipModule) (signing : SigningHost)

structure SealedAdmission where
  bundlePath : Text
  manifest : Manifest
  decision : Decision

/-- The manifest a sealing writes, before it is validated. -/
def writtenManifest (snapshot : AttestedSnapshot) (admitter : ReleaseProducer)
    (replay : ReplayBinding) (toolchain : Toolchain) (separation : KeySeparation) (keyId : Text) :
    Manifest where
  source := snapshot.payload.source
  context := snapshot.payload.context
  producer := snapshot.payload.producer
  admitter := admitter
  bootstrap := snapshot.payload.bootstrap
  execution := snapshot.payload.execution
  replay := replay
  record := digestOf snapshot.verdict
  handoff := digestOf snapshot.handoff
  producerReceipt := digestOf snapshot.producerReceipt
  provider := snapshot.provider
  toolchain := toolchain
  keySeparation := separation
  keyId := keyId

/-- The members of the archive of a snapshot, under a manifest and its signature. -/
def AttestedSnapshot.members (snapshot : AttestedSnapshot) (manifest signature : Bytes) :
    AdmissionMembers where
  manifest := manifest
  signature := utf8 (Base64.encode signature)
  verdict := snapshot.verdict
  handoff := snapshot.handoff
  producerReceipt := snapshot.producerReceipt
  githubReceipt := snapshot.evidence.receipt
  rawOutput := snapshot.evidence.rawOutput

/-- The private staging file, which is read back as it was written. -/
def stagingPath : Text := ".evoguard-release-source-admission-"

/-- `_publish_verified_release_source_admission`. -/
def publishVerified (request : SealRequest) (run : SealRun) (archive : Bytes)
    (expected : Manifest) : Except Text Manifest := do
  run.staged
  let published ← inspectReleaseSourceAdmission host.toEvidenceHost zip stagingPath (.ok archive)
  let manifest ← published.manifest host.toEvidenceHost
  refuse (manifest.same expected = false)
    "staged release-source admission does not preserve its verified manifest"
  let (verified, keyId) ← verifyBytesWithKeyId signing
    (signingDomain.separator ++ published.manifestBytes) published.signature
    request.signingPublicKeyPath run.publicKey
  refuse (keyId ≠ request.expectedSigningKeyId ∨ verified = false)
    "staged release-source admission failed cryptographic verification"
  run.promoted
  pure manifest

/-- The manifest over a snapshot, its bytes and its signature. -/
def signManifest (request : SealRequest) (run : SealRun) (snapshot : AttestedSnapshot)
    (admitter : ReleaseProducer) (separation : KeySeparation) :
    Except Text (Manifest × AdmissionMembers) := do
  let replay ← validateReplay host.toEvidenceHost snapshot.payload.source snapshot.payload.producer
    admitter (.object (replayBinding snapshot.payload.source snapshot.payload.producer
      admitter).asDict)
  let key ← loadSigningKeySnapshot signing request.privateKeyPath run.privateKey
  refuse (key.keyId ≠ request.expectedSigningKeyId)
    ("release-source admission private key does not match the externally expected public " ++
      "key").toList
  refuse (key.keyId ∈ separation.ids)
    "release-source admission signing key belongs to another configured trust domain"
  let toolchain ← expectedToolchain host.toEvidenceHost owner "a lowercase SHA-256 digest"
    request.gitExecutable.executableSha256 request.isolation.executableSha256
    request.isolation.uid request.isolation.gid
  let checked ← validateManifest host.toEvidenceHost
    (writtenManifest snapshot admitter replay toolchain separation key.keyId).asDict
  let manifest ← canonicalJsonBytes host.toEvidenceHost checked.asDict
  refuse (maxManifestBytes < manifest.length) (owner ++ " manifest exceeds its size limit")
  let (signature, keyId) := signBytesWithSnapshot signing (signingDomain.separator ++ manifest) key
  refuse (keyId ≠ key.keyId ∨ signature.length ≠ 64)
    (owner ++ " signer returned inconsistent key identity or signature")
  pure (checked, snapshot.members manifest signature)

/-- `seal_release_source_admission`: what it returns, and the members of the archive it leaves at
the output path. -/
def sealReleaseSourceAdmission (attested : AttestedProducerReceipt) (request : SealRequest)
    (run : SealRun) : Except Text (SealedAdmission × AdmissionMembers) := do
  let separation ← validateSealArguments host request run
  let snapshot ← attestedSnapshot host attested request run
  let admitter ← admittingWorkflow host request run snapshot.payload
  refuse (host.paths.identity request.outputPath ∈
      [host.paths.identity attested.githubReceipt.receiptPath,
        host.paths.identity attested.githubReceipt.rawOutputPath])
    "release-source admission output must differ from retained provider evidence paths"
  let (checked, members) ← signManifest host signing request run snapshot admitter separation
  let archive := canonicalArchiveBytes zip members.list
  refuse (maxArchiveBytes < archive.length) (owner ++ " archive exceeds its size limit")
  let published ← publishVerified host zip signing request run archive checked
  pure (⟨host.paths.abspath request.outputPath, published, .allow⟩, members)

/-- `execute_seal_release_source_admission`, from the fresh verification on: the evidence that this
left, and what sealing made of its result. -/
def reverifyAndSeal (fresh : ReverifyRequest) (first : ReverifyRun) (request : SealRequest)
    (run : SealRun) : Except Text (ProviderEvidence × SealedAdmission × AdmissionMembers) := do
  let (attested, evidence) ← reverifyAttestedProducerReceipt host fresh first
  let sealed ← sealReleaseSourceAdmission host zip signing attested request run
  pure (evidence, sealed)

end

end EvoomGuard.Admission.SourceAdmission
