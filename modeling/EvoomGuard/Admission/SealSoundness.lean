import EvoomGuard.Admission.SealReleaseSource

/-!
What a sealed release-source admission rests on: the snapshot is of the evidence the fresh
verification saw, except for the two provider files, which sealing reads again.
-/

namespace EvoomGuard.Admission.SourceAdmission

open EvidenceBundle Finalizer GithubAttestation Lib Lib.Checks Lib.Framing ReleaseChain

section Snapshot

variable {host : ReleaseHost}

/-- What sealing takes from an attested receipt and from the two files it reads. -/
structure AttestedSnapshot.Of (host : ReleaseHost) (attested : AttestedProducerReceipt)
    (run : SealRun) (snapshot : AttestedSnapshot) : Prop where
  verdict : snapshot.verdict = attested.verified.handoff.verdictBytes
  context : contextFromBindings host.toEvidenceHost attested.verified.bindings
    attested.verified.handoff.verdict = .ok snapshot.payload.context
  source : attested.verified.bindings.source = snapshot.payload.source
  receipt : run.githubReceipt = .ok snapshot.evidence.receipt
  rawOutput : run.githubRawOutput = .ok snapshot.evidence.rawOutput
  policy : PolicyOf snapshot.payload.source snapshot.payload.producer attested.githubReceipt.policy
  github : verifyGithubMaterials host.toEvidenceHost snapshot.producerReceipt snapshot.evidence
    attested.githubReceipt.policy snapshot.payload.producer = .ok ()
  materials : ∃ report, verifyReceiptMaterials host snapshot.producerReceipt snapshot.verdict
    snapshot.handoff (expectedReceipt snapshot.verdict snapshot.handoff snapshot.payload.source
      snapshot.payload.context snapshot.payload.producer snapshot.payload.bootstrap
      snapshot.payload.execution) = .ok report

theorem read_provider_files_ok (github : CreatedGitHubAttestationReceipt) (run : SealRun)
    (evidence : ProviderEvidence) :
    readProviderFiles host github run = .ok evidence ↔
      (run.githubReceipt = .ok evidence.receipt ∧ evidence.receipt.length ≤ maxReceiptBytes) ∧
        run.githubRawOutput = .ok evidence.rawOutput ∧
          evidence.rawOutput.length ≤ maxOutputBytes := by
  simp only [readProviderFiles, bind_ok, pure_ok, read_regular_file_ok]
  constructor
  · intro found
    obtain ⟨receipt, first, rawOutput, second, made⟩ := found
    subst made
    exact ⟨first, second⟩
  · intro found
    exact ⟨evidence.receipt, found.1, evidence.rawOutput, found.2, rfl⟩

theorem attested_snapshot_of {attested : AttestedProducerReceipt} {request : SealRequest}
    {run : SealRun} {snapshot : AttestedSnapshot}
    (ok : attestedSnapshot host attested request run = .ok snapshot) :
    snapshot.Of host attested run := by
  simp only [attestedSnapshot, bind_ok, pure_ok, refuse_ok, not_or, not_not,
    read_provider_files_ok] at ok
  obtain ⟨_, _, payload, _, _, _, _, _, context, derived, _, same, _, _, evidence, files, _, _, _,
    github, report, materials, provider, provided, made⟩ := ok
  subst made
  exact
    { verdict := rfl
      context := same.1 ▸ derived
      source := same.2
      receipt := files.1.1
      rawOutput := files.2.1
      policy := validate_provider_policy provided
      github := github
      materials := ⟨report, materials⟩ }

end Snapshot

/-! The sealing as a whole -/

section

variable {host : ReleaseHost} {zip : ZipModule} {signing : SigningHost}

/-- What a sealing that returned has done. -/
structure Sealing (host : ReleaseHost) (zip : ZipModule) (signing : SigningHost)
    (attested : AttestedProducerReceipt) (request : SealRequest) (run : SealRun)
    (sealed : SealedAdmission) (members : AdmissionMembers) where
  snapshot : AttestedSnapshot
  manifestBytes : Bytes
  signature : Bytes
  checked : Manifest
  bundle : InspectedAdmission
  privateKey : signing.PrivateKey
  publicKey : signing.PublicKey
  captured : attestedSnapshot host attested request run = .ok snapshot
  kept : members = snapshot.members manifestBytes signature
  identities : checked.source = snapshot.payload.source ∧
    checked.context = snapshot.payload.context ∧ checked.producer = snapshot.payload.producer
  runtime : checked.bootstrap = snapshot.payload.bootstrap ∧
    checked.execution = snapshot.payload.execution
  digests : checked.record = digestOf snapshot.verdict ∧
    checked.handoff = digestOf snapshot.handoff ∧
    checked.producerReceipt = digestOf snapshot.producerReceipt
  signer : signing.loadPrivate request.privateKeyPath run.privateKey = .ok privateKey
  keyId : signing.keyId (signing.publicKey privateKey) = checked.keyId
  expectedKeyId : checked.keyId = request.expectedSigningKeyId
  inspected : inspectReleaseSourceAdmission host.toEvidenceHost zip stagingPath
    (.ok (canonicalArchiveBytes zip members.list)) = .ok bundle
  loaded : bundle.manifest host.toEvidenceHost = .ok sealed.manifest
  same : sealed.manifest.same checked = true
  opened : signing.loadPublic request.signingPublicKeyPath run.publicKey = .ok publicKey
  publicKeyId : signing.keyId publicKey = checked.keyId
  length : bundle.signature.length = 64
  verified : signing.verifies publicKey bundle.signature
    (signingDomain.separator ++ bundle.manifestBytes) = true

theorem sign_manifest_ok {request : SealRequest} {run : SealRun} {snapshot : AttestedSnapshot}
    {admitter : ReleaseProducer} {separation : KeySeparation} {checked : Manifest}
    {members : AdmissionMembers}
    (ok : signManifest host signing request run snapshot admitter separation =
      .ok (checked, members)) :
    ∃ manifestBytes signature privateKey replay toolchain,
      members = snapshot.members manifestBytes signature ∧
      signing.loadPrivate request.privateKeyPath run.privateKey = .ok privateKey ∧
      signing.keyId (signing.publicKey privateKey) = request.expectedSigningKeyId ∧
      (writtenManifest snapshot admitter replay toolchain separation
        (signing.keyId (signing.publicKey privateKey))).Repeats checked := by
  simp only [signManifest, loadSigningKeySnapshot, signBytesWithSnapshot, validateManifest,
    Manifest.asDict, manifestSchema.validate_object, bind_ok, pure_ok, refuse_ok, not_not] at ok
  obtain ⟨replay, _, key, ⟨privateKey, loaded, opened⟩, _, named, _, _, toolchain, _, written,
    checks, manifestBytes, _, _, _, _, _, made⟩ := ok
  subst opened
  cases made
  exact ⟨manifestBytes, _, privateKey, replay, toolchain, rfl, loaded, named,
    check_manifest_repeats checks⟩

theorem publish_verified_ok {request : SealRequest} {run : SealRun} {archive : Bytes}
    {expected manifest : Manifest}
    (ok : publishVerified host zip signing request run archive expected = .ok manifest) :
    ∃ bundle publicKey,
      inspectReleaseSourceAdmission host.toEvidenceHost zip stagingPath (.ok archive) =
        .ok bundle ∧
      bundle.manifest host.toEvidenceHost = .ok manifest ∧ manifest.same expected = true ∧
      signing.loadPublic request.signingPublicKeyPath run.publicKey = .ok publicKey ∧
      signing.keyId publicKey = request.expectedSigningKeyId ∧ bundle.signature.length = 64 ∧
      signing.verifies publicKey bundle.signature
        (signingDomain.separator ++ bundle.manifestBytes) = true := by
  simp only [publishVerified, bind_ok, pure_ok, refuse_ok, Bool.not_eq_false, not_or, not_not] at ok
  obtain ⟨_, _, bundle, inspected, read, loaded, _, same, ⟨verified, keyId⟩, signed, _,
    ⟨named, valid⟩, _, _, made⟩ := ok
  subst made
  simp only at named valid
  obtain ⟨publicKey, opened, identity, answered⟩ := (verify_bytes_ok ..).mp signed
  rw [valid, Bool.and_eq_true, decide_eq_true_eq] at answered
  exact ⟨bundle, publicKey, inspected, loaded, same, opened, identity.trans named, answered.1,
    answered.2⟩

theorem seal_ok {attested : AttestedProducerReceipt} {request : SealRequest} {run : SealRun}
    {sealed : SealedAdmission} {members : AdmissionMembers}
    (ok : sealReleaseSourceAdmission host zip signing attested request run =
      .ok (sealed, members)) :
    Nonempty (Sealing host zip signing attested request run sealed members) := by
  simp only [sealReleaseSourceAdmission, bind_ok, pure_ok] at ok
  obtain ⟨separation, _, snapshot, captured, admitter, _, _, _, ⟨checked, kept⟩, signed, _, _,
    published, staged, made⟩ := ok
  cases made
  obtain ⟨manifestBytes, signature, privateKey, replay, toolchain, built, loaded, named,
    repeats⟩ := sign_manifest_ok signed
  obtain ⟨bundle, publicKey, inspected, read, same, opened, identity, length, verified⟩ :=
    publish_verified_ok staged
  have ids := repeats.identities
  simp only [Manifest.identities, Identities.mk.injEq] at ids
  have ownKey : checked.keyId = signing.keyId (signing.publicKey privateKey) := repeats.keyId
  exact ⟨{
    snapshot := snapshot
    manifestBytes := manifestBytes
    signature := signature
    checked := checked
    bundle := bundle
    privateKey := privateKey
    publicKey := publicKey
    captured := captured
    kept := built
    identities := ⟨ids.1, ids.2.1, ids.2.2.1⟩
    runtime := ⟨repeats.bootstrap, repeats.execution⟩
    digests := ⟨repeats.record, repeats.handoff, repeats.producerReceipt⟩
    signer := loaded
    keyId := ownKey.symm
    expectedKeyId := ownKey.trans named
    inspected := inspected
    loaded := read
    same := same
    opened := opened
    publicKeyId := identity.trans (ownKey.trans named).symm
    length := length
    verified := verified }⟩

end

/-! What is archived -/

section

variable {host : ReleaseHost} {zip : ZipModule} {signing : SigningHost}

/-- The admission an archive makes, in terms of the evidence it archives and of raw Git. -/
structure SoundAdmission (host : ReleaseHost) (git : ReleaseGit) (manifest : Manifest)
    (members : AdmissionMembers) : Prop where
  record : ∃ record profile bindings,
    loadJsonObjectBytes host.toEvidenceHost members.verdict (owner ++ " verdict") =
      .ok record ∧
    (host.verifyRecord record).ok = true ∧ IsolatedPass record manifest.context profile ∧
    deriveReleaseSourceBindings host.toEvidenceHost host.derivation git manifest.source =
      .ok bindings ∧
    contextFromBindings host.toEvidenceHost bindings record = .ok manifest.context
  handoff : ∃ handoff,
    inspectReleaseSourceHandoffBytes host.toEvidenceHost members.handoff = .ok handoff ∧
    handoff.record = digestOf members.verdict
  producerReceipt : ∃ receipt,
    readProducerReceipt host.toEvidenceHost members.producerReceipt = .ok receipt ∧
    receipt.record = digestOf members.verdict ∧
    Attests host.toEvidenceHost members.rawOutput (sha256Bytes members.producerReceipt)
      manifest.source.repository receipt.producer.workflowRunId
      receipt.producer.workflowRunAttempt
  keyApart : manifest.keyId ∉ manifest.keySeparation.ids

theorem receipt_materials_ok {receipt verdict handoff : Bytes} {expected : ReleaseProducerReceipt}
    {report : RecordReport}
    (ok : verifyReceiptMaterials host receipt verdict handoff expected = .ok report) :
    readProducerReceipt host.toEvidenceHost receipt = .ok expected ∧
      (∃ record profile,
        loadJsonObjectBytes host.toEvidenceHost verdict (owner ++ " verdict") = .ok record ∧
        (host.verifyRecord record).ok = true ∧ IsolatedPass record expected.context profile) ∧
      ∃ inspected, inspectReleaseSourceHandoffBytes host.toEvidenceHost handoff = .ok inspected ∧
        inspected.record = digestOf verdict := by
  simp only [verifyReceiptMaterials, bind_ok, pure_ok, refuse_ok, not_not,
    Bool.not_eq_false] at ok
  obtain ⟨read, receiptRead, _, same, record, loaded, _, accepted, profile, allowed, inspected,
    inspection, verified, handed, _⟩ := ok
  obtain ⟨ofHandoff, ofInspection, staged, _, _⟩ := verify_handoff_ok handed
  cases staged
  have about := ofHandoff.record
  rw [ofInspection] at about
  exact ⟨same ▸ receiptRead, ⟨record, profile, loaded, accepted, allow_record_isolated allowed⟩,
    inspected, inspection, about⟩

/-- The provider output that is archived is about the archived receipt and from its producer's
run. -/
theorem snapshot_attests {attested : AttestedProducerReceipt} {run : SealRun}
    {snapshot : AttestedSnapshot} (of : snapshot.Of host attested run) :
    Attests host.toEvidenceHost snapshot.evidence.rawOutput (sha256Bytes snapshot.producerReceipt)
      snapshot.payload.source.repository snapshot.payload.producer.workflowRunId
      snapshot.payload.producer.workflowRunAttempt := by
  have materials := of.github
  simp only [verifyGithubMaterials, bind_ok] at materials
  obtain ⟨checked, validated, _⟩ := materials
  have canonical := (validate_github_policy_itself validated).2
  rw [← of.policy.repository]
  exact materials_attest canonical of.github

/-- Everything but the number type of the subject's size survives the staging. -/
structure Manifest.Kept (checked manifest : Manifest) : Prop where
  source : manifest.source = checked.source
  context : manifest.context = checked.context
  producer : manifest.producer = checked.producer
  bootstrap : manifest.bootstrap = checked.bootstrap
  execution : manifest.execution = checked.execution
  digests : manifest.record = checked.record ∧ manifest.handoff = checked.handoff ∧
    manifest.producerReceipt = checked.producerReceipt
  keyId : manifest.keyId = checked.keyId

theorem same_manifest_kept {checked manifest : Manifest} (same : manifest.same checked = true) :
    checked.Kept manifest := by
  have equal := same_manifest same
  exact ⟨by rw [equal], by rw [equal], by rw [equal], by rw [equal], by rw [equal],
    ⟨by rw [equal], by rw [equal], by rw [equal]⟩, by rw [equal]⟩

theorem sealing_sound {fresh : ReverifyRequest} {first : ReverifyRun}
    {attested : AttestedProducerReceipt} {evidence : ProviderEvidence}
    (returned : reverifyAttestedProducerReceipt host fresh first = .ok (attested, evidence))
    {request : SealRequest} {run : SealRun} {sealed : SealedAdmission} {members : AdmissionMembers}
    (sealing : Sealing host zip signing attested request run sealed members) :
    SoundAdmission host first.reads.git sealed.manifest members := by
  have of := attested_snapshot_of sealing.captured
  have kept := same_manifest_kept sealing.same
  have ofSource := kept.source.trans sealing.identities.1
  have ofContext := kept.context.trans sealing.identities.2.1
  obtain ⟨report, materials⟩ := of.materials
  obtain ⟨receipt, ⟨record, profile, loaded, accepted, isolated⟩, inspected, inspection, about⟩ :=
    receipt_materials_ok materials
  obtain ⟨derived, handoffOf⟩ :=
    verify_producer_receipt_derived host (reverify_ok_verified host returned)
  have valid := load_manifest_valid sealing.loaded
  have parsed : attested.verified.handoff.verdict = record := by
    have first := handoffOf.loaded
    rw [load_json_object_ok, ← of.verdict] at first
    rw [load_json_object_ok] at loaded
    obtain ⟨text, opened, whole⟩ := first
    obtain ⟨other, reopened, again⟩ := loaded
    rw [opened, Option.some.injEq] at reopened
    subst reopened
    rw [whole, Except.ok.injEq, Json.object.injEq] at again
    exact again
  rw [sealing.kept]
  constructor
  · refine ⟨record, profile, attested.verified.bindings, loaded, accepted, ?_, ?_, ?_⟩
    · rw [ofContext]
      exact isolated
    · rw [ofSource, ← of.source]
      exact derived
    · rw [ofContext, ← parsed]
      exact of.context
  · exact ⟨inspected, inspection, about⟩
  · refine ⟨_, receipt, rfl, ?_⟩
    rw [ofSource]
    exact snapshot_attests of
  · exact valid.keyApart

/-! Verifying what was sealed -/

def Manifest.expectations (manifest : Manifest) : AdmissionExpectations where
  source := manifest.source.asDict
  context := manifest.context.asDict
  producer := manifest.producer.asDict
  admitter := manifest.admitter.asDict
  bootstrapGuardSha256 := manifest.bootstrap
  githubPolicy := expectedPins manifest.provider.policy
  keySeparation := .object manifest.keySeparation.asDict
  gitExecutableSha256 := manifest.toolchain.git
  githubCliExecutableSha256 := manifest.toolchain.githubCli
  providerIsolationUid := manifest.toolchain.uid
  providerIsolationGid := manifest.toolchain.gid

def Manifest.checkedExpectations (manifest : Manifest) : CheckedExpectations where
  separation := manifest.keySeparation
  ids := manifest.identities
  policy := manifest.provider.policy
  toolchain := manifest.toolchain
  bootstrap := manifest.bootstrap

theorem check_expectations_own {manifest : Manifest} (valid : manifest.Valid) :
    checkExpectations host.toEvidenceHost manifest.expectations =
      .ok manifest.checkedExpectations := by
  have separation : validateKeySeparation host.toEvidenceHost
      (.object manifest.keySeparation.asDict) = .ok manifest.keySeparation :=
    (validate_key_separation_written ..).mpr ⟨rfl, valid.keySeparation⟩
  have ids : validateIdentities host.toEvidenceHost manifest.source.asDict
      manifest.context.asDict manifest.producer.asDict manifest.admitter.asDict =
        .ok manifest.identities :=
    (validate_identities_written manifest.identities manifest.identities).mpr
      ⟨rfl, valid.identities⟩
  have policy : githubPolicyFromExpected host.toEvidenceHost
      (expectedPins manifest.provider.policy) = .ok manifest.provider.policy :=
    github_policy_expected valid.provider.canonical
  have toolchain : expectedToolchain host.toEvidenceHost owner
      "a lowercase SHA-256 digest" manifest.toolchain.git manifest.toolchain.githubCli
      manifest.toolchain.uid manifest.toolchain.gid = .ok manifest.toolchain :=
    (expected_toolchain_ok manifest.toolchain.git manifest.toolchain.githubCli
      manifest.toolchain.uid manifest.toolchain.gid manifest.toolchain).mpr ⟨rfl, valid.toolchain⟩
  have bootstrap : validateBootstrap host.toEvidenceHost
      (.object (bootstrapDict manifest.bootstrap)) = .ok manifest.bootstrap :=
    (validate_bootstrap_written ..).mpr ⟨rfl, valid.bootstrap⟩
  simp only [checkExpectations, bind_ok, pure_ok]
  exact ⟨_, separation, _, ids, _, policy, _, toolchain, _, bootstrap, rfl⟩

theorem manifest_meets_own {manifest : Manifest} (valid : manifest.Valid) :
    manifest.meets manifest.checkedExpectations = true := by
  rw [Manifest.meets, decide_eq_true_eq]
  exact ⟨rfl, rfl, rfl, rfl, rfl, rfl, rfl, valid.replay, rfl⟩

theorem inspect_admission_path {host : EvidenceHost} {first second : Text} {data : Bytes}
    {bundle : InspectedAdmission}
    (ok : inspectReleaseSourceAdmission host zip first (.ok data) = .ok bundle) :
    inspectReleaseSourceAdmission host zip second (.ok data) = .ok bundle := by
  simp only [inspectReleaseSourceAdmission, bind_ok, read_regular_file_ok] at ok ⊢
  exact ok

/-- No two of these byte strings have one digest. -/
def CollisionFree (data : List Bytes) : Prop :=
  ∀ left ∈ data, ∀ right ∈ data, sha256Bytes left = sha256Bytes right → left = right

/-- The evidence of an archive, as it is written and as it is read back. -/
def evidenceBytes (members : AdmissionMembers) (bundle : InspectedAdmission) : List Bytes :=
  [members.verdict, bundle.verdictBytes, members.handoff, bundle.handoffBytes,
    members.producerReceipt, bundle.producerReceiptBytes]

theorem same_bytes {data : List Bytes} (free : CollisionFree data) {left right : Bytes}
    (first : left ∈ data) (second : right ∈ data) (same : digestOf left = digestOf right) :
    left = right :=
  free left first right second (Digest.mk.inj same).1

section

variable {attested : AttestedProducerReceipt} {request : SealRequest} {run : SealRun}
  {sealed : SealedAdmission} {members : AdmissionMembers}
  (sealing : Sealing host zip signing attested request run sealed members)
  (free : CollisionFree (evidenceBytes members sealing.bundle))
include free

theorem sealing_bytes :
    sealing.bundle.verdictBytes = members.verdict ∧
      sealing.bundle.handoffBytes = members.handoff ∧
      sealing.bundle.producerReceiptBytes = members.producerReceipt := by
  have kept := same_manifest_kept sealing.same
  have verdict : members.verdict = sealing.snapshot.verdict :=
    congrArg AdmissionMembers.verdict sealing.kept
  have handoff : members.handoff = sealing.snapshot.handoff :=
    congrArg AdmissionMembers.handoff sealing.kept
  have receipt : members.producerReceipt = sealing.snapshot.producerReceipt :=
    congrArg AdmissionMembers.producerReceipt sealing.kept
  obtain ⟨manifest, described⟩ := inspect_admission_describes sealing.inspected
  have read : sealed.manifest = manifest := by
    have twice := described.loaded
    rw [sealing.loaded, Except.ok.injEq] at twice
    exact twice
  subst read
  refine ⟨?_, ?_, ?_⟩
  · apply same_bytes free (by simp [evidenceBytes]) (by simp [evidenceBytes])
    rw [← described.record, kept.digests.1, sealing.digests.1, verdict]
  · apply same_bytes free (by simp [evidenceBytes]) (by simp [evidenceBytes])
    rw [← described.handoff, kept.digests.2.1, sealing.digests.2.1, handoff]
  · apply same_bytes free (by simp [evidenceBytes]) (by simp [evidenceBytes])
    rw [← described.producerReceipt, kept.digests.2.2, sealing.digests.2.2, receipt]

theorem sealing_verifies (reads : AdmissionReads)
    (published : reads.bundle = .ok (canonicalArchiveBytes zip members.list))
    (opened : signing.loadPublic reads.publicKeyPath reads.publicKey = .ok sealing.publicKey) :
    ∃ report, verifyReleaseSourceAdmission host zip signing reads sealed.manifest.expectations =
      .ok ⟨sealing.bundle, report, .allow⟩ := by
  have of := attested_snapshot_of sealing.captured
  have kept := same_manifest_kept sealing.same
  have valid := load_manifest_valid sealing.loaded
  obtain ⟨report, materials⟩ := of.materials
  obtain ⟨verdict, handoff, receipt⟩ := sealing_bytes sealing free
  replace verdict := verdict.trans (congrArg AdmissionMembers.verdict sealing.kept)
  replace handoff := handoff.trans (congrArg AdmissionMembers.handoff sealing.kept)
  replace receipt := receipt.trans (congrArg AdmissionMembers.producerReceipt sealing.kept)
  simp only [AttestedSnapshot.members] at verdict handoff receipt
  refine ⟨report, (verify_admission_ok reads sealed.manifest.expectations _).mpr ?_⟩
  refine ⟨sealed.manifest.checkedExpectations, sealing.bundle, sealed.manifest, report,
    check_expectations_own valid, ?_, sealing.loaded, manifest_meets_own valid, ?_, ?_, rfl⟩
  · rw [published]
    exact inspect_admission_path sealing.inspected
  · exact ⟨sealing.publicKey, opened, sealing.publicKeyId.trans kept.keyId.symm, valid.keyApart,
      sealing.length, sealing.verified⟩
  · have expected : expectedReceipt sealing.snapshot.verdict sealing.snapshot.handoff
        sealed.manifest.checkedExpectations.ids.source
        sealed.manifest.checkedExpectations.ids.context
        sealed.manifest.checkedExpectations.ids.producer
        sealed.manifest.checkedExpectations.bootstrap sealed.manifest.execution =
        expectedReceipt sealing.snapshot.verdict sealing.snapshot.handoff
          sealing.snapshot.payload.source sealing.snapshot.payload.context
          sealing.snapshot.payload.producer sealing.snapshot.payload.bootstrap
          sealing.snapshot.payload.execution := by
      simp only [Manifest.checkedExpectations, Manifest.identities]
      rw [kept.source, sealing.identities.1, kept.context, sealing.identities.2.1, kept.producer,
        sealing.identities.2.2, kept.bootstrap, sealing.runtime.1, kept.execution,
        sealing.runtime.2]
    rw [receipt, verdict, handoff, expected]
    exact materials

end

theorem reverify_and_seal_ok {fresh : ReverifyRequest} {first : ReverifyRun} {request : SealRequest}
    {run : SealRun} {evidence : ProviderEvidence} {sealed : SealedAdmission × AdmissionMembers} :
    reverifyAndSeal host zip signing fresh first request run = .ok (evidence, sealed) ↔
      ∃ attested,
        reverifyAttestedProducerReceipt host fresh first = .ok (attested, evidence) ∧
          sealReleaseSourceAdmission host zip signing attested request run = .ok sealed := by
  simp only [reverifyAndSeal, bind_ok, pure_ok]
  constructor
  · rintro ⟨⟨attested, left⟩, returned, members, ok, same⟩
    cases same
    exact ⟨attested, returned, ok⟩
  · rintro ⟨attested, returned, ok⟩
    exact ⟨_, returned, _, ok, rfl⟩

/-- Whatever the files are that the fresh verification and sealing read, they raise or return a
sound admission: the archived record is a pass of the isolated profile, the archived handoff and
producer receipt name its bytes, the provider attests that receipt and its run, the context is the
one raw Git gives, and the signer is none of the registered keys. Its verification with the matching
public key and with its own values as expectations allows it. -/
theorem sealed_admission_sound (host : ReleaseHost) (zip : ZipModule) (signing : SigningHost)
    (fresh : ReverifyRequest) (first : ReverifyRun) (request : SealRequest) (run : SealRun) :
    (∃ problem, reverifyAndSeal host zip signing fresh first request run = .error problem) ∨
    ∃ evidence sealed members,
      reverifyAndSeal host zip signing fresh first request run = .ok (evidence, sealed, members) ∧
      SoundAdmission host first.reads.git sealed.manifest members ∧
      (∃ key, signing.loadPrivate request.privateKeyPath run.privateKey = .ok key ∧
        signing.keyId (signing.publicKey key) = sealed.manifest.keyId) ∧
      ∀ (reads : AdmissionReads) (trusted : signing.PublicKey),
        reads.bundle = .ok (canonicalArchiveBytes zip members.list) →
        signing.loadPublic reads.publicKeyPath reads.publicKey = .ok trusted →
        signing.keyId trusted = sealed.manifest.keyId →
        (∀ staged, signing.loadPublic request.signingPublicKeyPath run.publicKey = .ok staged →
          signing.keyId staged = signing.keyId trusted → staged = trusted) →
        (∀ bundle, inspectReleaseSourceAdmission host.toEvidenceHost zip reads.bundlePath
          reads.bundle = .ok bundle → CollisionFree (evidenceBytes members bundle)) →
        ∃ verified, verifyReleaseSourceAdmission host zip signing reads
          sealed.manifest.expectations = .ok verified ∧ verified.decision = .allow ∧
          verified.bundle.verdictBytes = members.verdict ∧
          verified.bundle.handoffBytes = members.handoff ∧
          verified.bundle.producerReceiptBytes = members.producerReceipt := by
  cases outcome : reverifyAndSeal host zip signing fresh first request run with
  | error problem => exact Or.inl ⟨problem, rfl⟩
  | ok answer =>
    obtain ⟨evidence, sealed, members⟩ := answer
    obtain ⟨attested, returned, ok⟩ := reverify_and_seal_ok.mp outcome
    obtain ⟨sealing⟩ := seal_ok ok
    have kept := same_manifest_kept sealing.same
    refine Or.inr ⟨evidence, sealed, members, rfl, sealing_sound returned sealing,
      ⟨sealing.privateKey, sealing.signer, sealing.keyId.trans kept.keyId.symm⟩, ?_⟩
    intro reads trusted published opened matching identified free
    have staged := identified sealing.publicKey sealing.opened
      (sealing.publicKeyId.trans (kept.keyId.symm.trans matching.symm))
    have inspected : inspectReleaseSourceAdmission host.toEvidenceHost zip reads.bundlePath
        reads.bundle = .ok sealing.bundle := by
      rw [published]
      exact inspect_admission_path sealing.inspected
    obtain ⟨report, verified⟩ := sealing_verifies sealing (free _ inspected) reads published
      (staged ▸ opened)
    exact ⟨_, verified, rfl, sealing_bytes sealing (free _ inspected)⟩

end

/-! The provider evidence that is archived -/

section

variable {host : ReleaseHost} {zip : ZipModule} {signing : SigningHost}

/-- Sealing finds the two retained files as the fresh run left them. -/
def Untouched (evidence : ProviderEvidence) (run : SealRun) : Prop :=
  run.githubReceipt = .ok evidence.receipt ∧ run.githubRawOutput = .ok evidence.rawOutput

/-- The two files hold a receipt and a raw output that agree with each other and with the attested
producer receipt, of whichever run. -/
def Consistent (host : ReleaseHost) (attested : AttestedProducerReceipt) (run : SealRun) : Prop :=
  ∃ evidence, readProviderFiles host attested.githubReceipt run = .ok evidence ∧
    verifyGithubMaterials host.toEvidenceHost attested.verified.receipt.receiptBytes evidence
      attested.githubReceipt.policy attested.verified.receipt.payload.producer = .ok ()

/-- The same sealing, over the files the fresh run left. -/
def SealRun.untouched (run : SealRun) (evidence : ProviderEvidence) : SealRun :=
  { run with githubReceipt := .ok evidence.receipt, githubRawOutput := .ok evidence.rawOutput }

def AdmissionMembers.evidence (members : AdmissionMembers) : ProviderEvidence :=
  ⟨members.githubReceipt, members.rawOutput⟩

variable {attested : AttestedProducerReceipt} {request : SealRequest} {run : SealRun}

theorem snapshot_evidence_iff {snapshot : AttestedSnapshot}
    (ok : attestedSnapshot host attested request run = .ok snapshot)
    (evidence : ProviderEvidence) :
    snapshot.evidence = evidence ↔ Untouched evidence run := by
  have of := attested_snapshot_of ok
  rw [Untouched, of.receipt, of.rawOutput, Except.ok.injEq, Except.ok.injEq]
  constructor
  · intro same
    rw [same]
    exact ⟨rfl, rfl⟩
  · intro both
    obtain ⟨receipt, rawOutput⟩ := evidence
    simp only at both
    rw [← both.1, ← both.2]

theorem sealed_evidence_iff {sealed : SealedAdmission} {members : AdmissionMembers}
    (returned : sealReleaseSourceAdmission host zip signing attested request run =
      .ok (sealed, members)) (evidence : ProviderEvidence) :
    members.evidence = evidence ↔ Untouched evidence run := by
  obtain ⟨sealing⟩ := seal_ok returned
  have archived : members.evidence = sealing.snapshot.evidence :=
    congrArg AdmissionMembers.evidence sealing.kept
  rw [archived]
  exact snapshot_evidence_iff sealing.captured evidence

theorem captured_provider_accepted {source : ReleaseSource} {producer : ReleaseProducer}
    {receipt : Bytes} {policy : GitHubAttestationPolicy} {evidence : ProviderEvidence}
    (bound : PolicyOf source producer policy)
    (files : (1 ≤ evidence.receipt.length ∧ evidence.receipt.length ≤ maxReceiptBytes) ∧
      2 ≤ evidence.rawOutput.length ∧ evidence.rawOutput.length ≤ maxOutputBytes)
    (canonical : Canonical policy) :
    validateProvider host.toEvidenceHost source producer (digestOf receipt)
      (.object (capturedProvider (digestOf receipt) policy evidence).asDict) =
        .ok (capturedProvider (digestOf receipt) policy evidence) := by
  have first : githubReceiptMaterial.Fits (digestOf evidence.receipt) :=
    ⟨Sha256.hexdigest_bytes_is_hex _, Int.ofNat_le.mpr files.1.1, Int.ofNat_le.mpr files.1.2⟩
  have second : rawOutputMaterial.Fits (digestOf evidence.rawOutput) :=
    ⟨Sha256.hexdigest_bytes_is_hex _, Int.ofNat_le.mpr files.2.1, Int.ofNat_le.mpr files.2.2⟩
  rw [validateProvider, ProviderSection.asDict, validate_section_object]
  simp only [checkProvider, ProviderSection.value, capturedProvider, validate_section_object,
    checkSubject, artifactValue, bind_ok, exact_text_ok, pure_ok,
    require_protected_producer_ok, Material.validate_descriptor]
  refine ⟨(), trivial, (), ?_, _, ⟨(), ?_, rfl⟩, policy, validate_github_policy_written canonical, (),
    bound, _, ⟨rfl, first⟩, _, ⟨rfl, second⟩, rfl⟩
  · apply (refuse_ok _ _ _).mpr
    rw [Json.alike_int_self]
    decide
  · apply (refuse_ok _ _ _).mpr
    rw [Json.alike_int_self, (Json.alike_string _ _).mpr rfl]
    decide

/-- Where the untouched files would have been captured, any consistent pair is captured in their
place. -/
theorem consistent_pair_captured {evidence : ProviderEvidence} {untouched : AttestedSnapshot}
    (ok : attestedSnapshot host attested request (run.untouched evidence) = .ok untouched)
    (consistent : Consistent host attested run) :
    ∃ snapshot, attestedSnapshot host attested request run = .ok snapshot := by
  obtain ⟨replaced, read, agreed⟩ := consistent
  have of := attested_snapshot_of ok
  have files := (read_provider_files_ok ..).mp read
  have accepted := agreed
  simp only [verifyGithubMaterials, bind_ok] at accepted
  obtain ⟨checked, policed, _, evidenced, _⟩ := accepted
  have sizes := evidence_sizes _ evidenced
  have canonical := (validate_github_policy_itself policed).2
  simp only [attestedSnapshot, bind_ok, pure_ok] at ok ⊢
  obtain ⟨_, capable, payload, kept, canonicalBytes, encoded, _, preserved, derived, context, _,
    same, _, apart, _, _, _, subject, _, _, report, materials, _, _, made⟩ := ok
  have ofPayload := producer_receipt_kept kept
  have policy := of.policy
  rw [← made] at policy
  exact ⟨_, _, capable, payload, kept, canonicalBytes, encoded, _, preserved, derived, context, _,
    same, _, apart, replaced, read, _, subject, _, ofPayload ▸ agreed, report, materials, _,
    captured_provider_accepted policy ⟨⟨sizes.1, files.1.2⟩, sizes.2, files.2.2⟩ canonical, rfl⟩

theorem captured_consistent {snapshot : AttestedSnapshot}
    (ok : attestedSnapshot host attested request run = .ok snapshot) :
    Consistent host attested run := by
  simp only [attestedSnapshot, bind_ok, pure_ok] at ok
  obtain ⟨_, _, payload, kept, _, _, _, _, _, _, _, _, _, _, evidence, read, _, _, _, agreed, _⟩ := ok
  exact ⟨evidence, read, producer_receipt_kept kept ▸ agreed⟩

/-- Sealing raises or archives the evidence of the fresh run exactly while the two retained files
are untouched: an admission it returns archives what it read, and a consistent pair of other files
is captured in place of the fresh one. -/
theorem archived_evidence_fresh_iff (host : ReleaseHost) (zip : ZipModule) (signing : SigningHost)
    (fresh : ReverifyRequest) (first : ReverifyRun) (request : SealRequest) (run : SealRun) :
    (∀ evidence sealed members,
      reverifyAndSeal host zip signing fresh first request run = .ok (evidence, sealed, members) →
        (members.evidence = evidence ↔ Untouched evidence run)) ∧
      ∀ attested evidence untouched,
        attestedSnapshot host attested request (run.untouched evidence) = .ok untouched →
        ((∀ snapshot, attestedSnapshot host attested request run = .ok snapshot →
            snapshot.evidence = evidence) ↔
          Untouched evidence run ∨ ¬Consistent host attested run) := by
  constructor
  · intro evidence sealed members returned
    obtain ⟨attested, -, ok⟩ := reverify_and_seal_ok.mp returned
    exact sealed_evidence_iff ok evidence
  · intro attested evidence untouched captured
    constructor
    · intro safe
      by_cases consistent : Consistent host attested run
      · obtain ⟨snapshot, taken⟩ := consistent_pair_captured captured consistent
        exact Or.inl ((snapshot_evidence_iff taken evidence).mp (safe snapshot taken))
      · exact Or.inr consistent
    · intro condition snapshot taken
      rcases condition with left | inconsistent
      · exact (snapshot_evidence_iff taken evidence).mpr left
      · exact absurd (captured_consistent taken) inconsistent

end

end EvoomGuard.Admission.SourceAdmission
