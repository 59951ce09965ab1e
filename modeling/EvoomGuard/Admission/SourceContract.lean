import EvoomGuard.Admission.ReleaseSource

/-!
What the checks of a release-source admission accept: every section that is written from valid
values is read back as it was written, and an accepted manifest names identities that are bound to
each other and keys that are apart.
-/

namespace EvoomGuard.Admission.SourceAdmission

open EvidenceBundle GithubAttestation Lib Lib.Checks Lib.Framing ReleaseChain

structure KeySeparation.Valid (keys : KeySeparation) : Prop where
  named : ∀ keyId ∈ keys.ids, isKeyId keyId = true
  apart : keys.ids.Nodup

theorem KeySeparation.value_injective : Function.Injective KeySeparation.value := by
  intro left right same
  cases left
  cases right
  rw [KeySeparation.mk.injEq]
  exact ⟨Json.string.inj (congrFun same .artifactAdmissionV1),
    Json.string.inj (congrFun same .artifactDigestAdmissionV2),
    Json.string.inj (congrFun same .releaseSourceFinalizerV1),
    Json.string.inj (congrFun same .trustedFinalizer)⟩

theorem check_key_separation_ok (get : KeyDomain → Json) (keys : KeySeparation) :
    checkKeySeparation get = .ok keys ↔ get = keys.value ∧ keys.Valid := by
  simp only [checkKeySeparation, separationId, signerId, bind_ok, text_that_ok, refuse_ok, pure_ok,
    not_not]
  constructor
  · intro found
    obtain ⟨artifact, a, digest, d, source, s, finalizer, f, _, apart, same⟩ := found
    subst same
    refine ⟨?_, ?_, apart⟩
    · funext key
      cases key
      · exact a.1
      · exact d.1
      · exact s.1
      · exact f.1
    · simp [KeySeparation.ids, a.2, d.2, s.2, f.2]
  · intro found
    obtain ⟨same, valid⟩ := found
    subst same
    have named := valid.named
    simp only [KeySeparation.ids, List.mem_cons, List.not_mem_nil, or_false, forall_eq_or_imp,
      forall_eq] at named
    exact ⟨_, ⟨rfl, named.1⟩, _, ⟨rfl, named.2.1⟩, _, ⟨rfl, named.2.2.1⟩, _, ⟨rfl, named.2.2.2⟩,
      (), valid.apart, rfl⟩

section Sections

variable {host : EvidenceHost}

theorem validate_key_separation_valid {value : Json} {keys : KeySeparation}
    (ok : validateKeySeparation host value = .ok keys) : keys.Valid := by
  rw [validateKeySeparation, validate_section_ok] at ok
  obtain ⟨fields, _, _, checked⟩ := ok
  exact ((check_key_separation_ok _ _).mp checked).2

theorem validate_key_separation_written (written found : KeySeparation) :
    validateKeySeparation host (.object written.asDict) = .ok found ↔
      found = written ∧ written.Valid := by
  rw [validateKeySeparation, KeySeparation.asDict, validate_section_object,
    check_key_separation_ok]
  constructor
  · intro both
    have same := KeySeparation.value_injective both.1
    exact ⟨same.symm, same ▸ both.2⟩
  · intro both
    rw [both.1]
    exact ⟨rfl, both.2⟩

theorem validate_bootstrap_hex {value : Json} {sha256 : Text}
    (ok : validateBootstrap host value = .ok sha256) : Sha256.isHex64 sha256 = true := by
  simp only [validateBootstrap, validate_section_ok, checkBootstrap, bind_ok, text_that_ok] at ok
  obtain ⟨_, _, _, _, _, _, hex⟩ := ok
  exact hex

theorem validate_bootstrap_written (written found : Text) :
    validateBootstrap host (.object (bootstrapDict written)) = .ok found ↔
      found = written ∧ Sha256.isHex64 written = true := by
  rw [validateBootstrap, bootstrapDict, validate_section_object]
  simp only [checkBootstrap, bind_ok, exact_text_ok, text_that_ok, bootstrapValue,
    Json.string.injEq]
  constructor
  · intro both
    obtain ⟨_, _, same, hex⟩ := both
    exact ⟨same.symm, same.symm ▸ hex⟩
  · intro both
    exact ⟨(), trivial, both.1.symm, both.1 ▸ both.2⟩

theorem validate_execution_written (written found : ExecutionProfile) :
    validateExecution host (.object written.asDict) = .ok found ↔
      found = written ∧ written.candidateIsolation ∈ isolations := by
  rw [validateExecution, ExecutionProfile.asDict, validate_section_object]
  simp only [checkExecution, bind_ok, exact_text_ok, isolation_of_ok, pure_ok,
    ExecutionProfile.value, Json.string.injEq]
  constructor
  · intro both
    obtain ⟨_, _, isolation, ⟨same, known⟩, _, _, _, _, _, _, made⟩ := both
    subst made
    subst same
    exact ⟨rfl, known⟩
  · intro both
    obtain ⟨same, known⟩ := both
    subst same
    exact ⟨(), rfl, _, ⟨rfl, known⟩, (), trivial, (), trivial, (), trivial, rfl⟩

theorem validate_execution_known {value : Json} {found : ExecutionProfile}
    (ok : validateExecution host value = .ok found) : found.candidateIsolation ∈ isolations := by
  simp only [validateExecution, validate_section_ok, checkExecution, bind_ok, isolation_of_ok,
    pure_ok] at ok
  obtain ⟨_, _, _, _, _, isolation, known, _, _, _, _, _, _, made⟩ := ok
  exact made ▸ known.2

theorem validate_replay_ok {source : ReleaseSource} {producer admitter : ReleaseProducer}
    {value : Json} {replay : ReplayBinding}
    (ok : validateReplay host source producer admitter value = .ok replay) :
    replay = replayBinding source producer admitter := by
  simp only [validateReplay, validate_section_ok, checkReplay, bind_ok, refuse_ok, not_not,
    pure_ok] at ok
  obtain ⟨_, _, _, _, _, _, _, _, _, _, _, _, expected, made⟩ := ok
  rw [← made, expected]

theorem validate_github_policy_canonical {value : Json} {policy : GitHubAttestationPolicy}
    (ok : validateGithubPolicy host value = .ok policy) : Canonical policy := by
  simp only [validateGithubPolicy, validate_section_ok, checkGithubPolicy, bind_ok] at ok
  obtain ⟨_, _, _, _, _, checked⟩ := ok
  exact canonical_policy_canonical (fun _ _ same => same) checked

theorem validate_github_policy_written {policy : GitHubAttestationPolicy}
    (canonical : Canonical policy) :
    validateGithubPolicy host (.object policy.asDict) = .ok policy := by
  rw [validateGithubPolicy, GitHubAttestationPolicy.asDict, validate_section_object]
  have texts : (policyPins.all fun key => isText (policy.value key)) = true := rfl
  simp only [checkGithubPolicy, texts, bind_ok, refuse_ok]
  exact ⟨(), by decide, canonical.canonicalPolicy⟩

theorem validate_github_policy_itself {written found : GitHubAttestationPolicy}
    (ok : validateGithubPolicy host (.object written.asDict) = .ok found) :
    found = written ∧ Canonical written := by
  have canonical := validate_github_policy_canonical ok
  rw [validateGithubPolicy, GitHubAttestationPolicy.asDict, validate_section_object] at ok
  simp only [checkGithubPolicy, canonicalPolicy, bind_ok, refuse_ok, pure_ok,
    Bool.not_eq_false] at ok
  obtain ⟨_, _, checked, _, _, alike, made⟩ := ok
  subst made
  rw [List.all_eq_true] at alike
  have kept : ∀ key text, checked.value key = .string text → written.value key = .string text := by
    intro key text read
    have equal := alike key (policySchema.complete key)
    rw [read, Json.alike_of_string] at equal
    exact equal
  have same : checked = written := by
    cases checked
    cases written
    rw [GitHubAttestationPolicy.mk.injEq]
    exact ⟨(Json.string.inj (kept .repository _ rfl)).symm,
      (Json.string.inj (kept .signerWorkflow _ rfl)).symm,
      (Json.string.inj (kept .signerDigest _ rfl)).symm,
      (Json.string.inj (kept .sourceRef _ rfl)).symm,
      (Json.string.inj (kept .sourceDigest _ rfl)).symm,
      (Json.string.inj (kept .certOidcIssuer _ rfl)).symm⟩
  exact ⟨same, same ▸ canonical⟩

def expectedPins (policy : GitHubAttestationPolicy) : List (Text × Json) :=
  expectedPolicySchema.object fun key => policy.value key.policy

theorem github_policy_expected {policy : GitHubAttestationPolicy}
    (canonical : Canonical policy) :
    githubPolicyFromExpected host (expectedPins policy) = .ok policy := by
  rw [githubPolicyFromExpected, expectedPins, expectedPolicySchema.validate_object]
  have whole : expandPolicy (fun key => policy.value key.policy) = policy.value := by
    funext key
    cases key <;> rfl
  rw [whole]
  exact validate_github_policy_written canonical

structure PolicyOf (source : ReleaseSource) (producer : ReleaseProducer)
    (policy : GitHubAttestationPolicy) : Prop where
  repository : policy.repository = source.repository
  signerWorkflow :
    policy.signerWorkflow = producer.workflowRepository ++ '/' :: producer.workflowPath
  signerDigest : policy.signerDigest = producer.workflowCommitSha
  sourceRef : policy.sourceRef = mainRef
  sourceDigest : policy.sourceDigest = source.targetCommitSha
  certOidcIssuer : policy.certOidcIssuer = GithubAttestation.certOidcIssuer

variable {source : ReleaseSource} {producer : ReleaseProducer}

theorem require_protected_producer_ok {policy : GitHubAttestationPolicy} {answer : Unit} :
    requireProtectedProducer source producer policy = .ok answer ↔
      PolicyOf source producer policy := by
  simp only [requireProtectedProducer, refuse_ok, not_or, not_not]
  constructor
  · intro same
    exact ⟨same.1, same.2.1, same.2.2.1, same.2.2.2.1, same.2.2.2.2.1, same.2.2.2.2.2⟩
  · intro same
    exact ⟨same.repository, same.signerWorkflow, same.signerDigest, same.sourceRef,
      same.sourceDigest, same.certOidcIssuer⟩

structure ProviderSection.Bound (source : ReleaseSource) (producer : ReleaseProducer)
    (receipt : Digest) (provider : ProviderSection) : Prop where
  subject : provider.artifactSha256 = receipt.sha256
  canonical : Canonical provider.policy
  policy : PolicyOf source producer provider.policy

theorem validate_provider_bound {receipt : Digest} {value : Json} {provider : ProviderSection}
    (ok : validateProvider host source producer receipt value = .ok provider) :
    provider.Bound source producer receipt := by
  simp only [validateProvider, validate_section_ok, checkProvider, checkSubject, bind_ok,
    pure_ok, require_protected_producer_ok] at ok
  obtain ⟨_, _, _, _, _, _, _, ⟨sha256, size⟩, ⟨_, _, _, _, _, subject⟩, policy, canonical, _,
    bound, _, _, _, _, made⟩ := ok
  cases subject
  subst made
  exact ⟨rfl, validate_github_policy_canonical canonical, bound⟩

theorem validate_provider_policy {receipt : Digest} {written found : ProviderSection}
    (ok : validateProvider host source producer receipt (.object written.asDict) = .ok found) :
    PolicyOf source producer written.policy := by
  rw [validateProvider, ProviderSection.asDict, validate_section_object] at ok
  simp only [checkProvider, bind_ok, ProviderSection.value, require_protected_producer_ok] at ok
  obtain ⟨_, _, _, _, _, _, policy, validated, _, bound, _⟩ := ok
  exact (validate_github_policy_itself validated).1 ▸ bound

structure Identities.Bound (ids : Identities) : Prop where
  source : ids.source.Valid
  context : ids.context.Valid
  producer : ids.producer.Valid
  admitter : ids.admitter.Valid
  ofProducer : ProducerBound ids.source ids.context ids.producer
  ofAdmitter : AdmitterBound ids.source ids.producer ids.admitter

theorem validate_identities_bound {source context producer admitter : List (Text × Json)}
    {ids : Identities}
    (ok : validateIdentities host source context producer admitter = .ok ids) : ids.Bound := by
  simp only [validateIdentities, bind_ok, pure_ok, validate_context_producer_ok,
    validate_admitter_binding_ok] at ok
  obtain ⟨_, _, checked, context, _, _, _, _, _, _, _, ofProducer, _, bound, made⟩ := ok
  subst made
  rw [validateReleaseSourceContext, contextSchema.validate_ok, check_context_ok] at context
  exact ⟨bound.1, context.2.2, bound.2.1, bound.2.2.1, ofProducer, bound.2.2.2⟩

theorem validate_identities_written (written found : Identities) :
    validateIdentities host written.source.asDict written.context.asDict written.producer.asDict
        written.admitter.asDict = .ok found ↔ found = written ∧ written.Bound := by
  simp only [validateIdentities, validateReleaseSource, ReleaseSource.asDict,
    validateReleaseSourceContext, ReleaseContext.asDict, validateReleaseAdmitter,
    validateReleaseProducer, ReleaseProducer.asDict, bind_ok, pure_ok,
    validate_context_producer_ok, validate_admitter_binding_ok, validate_source_context_ok,
    sourceSchema.validate_written check_source_ok ReleaseSource.value_injective,
    contextSchema.validate_written check_context_ok ReleaseContext.value_injective,
    producerSchema.validate_written check_producer_ok ReleaseProducer.value_injective]
  constructor
  · intro both
    obtain ⟨_, ⟨rfl, s⟩, _, ⟨rfl, c⟩, _, ⟨rfl, p⟩, _, ⟨rfl, a⟩, _, _, _, ofProducer, _, bound,
      made⟩ := both
    exact ⟨made.symm, s, c, p, a, ofProducer, bound.2.2.2⟩
  · intro both
    obtain ⟨same, bound⟩ := both
    subst same
    exact ⟨_, ⟨rfl, bound.source⟩, _, ⟨rfl, bound.context⟩, _, ⟨rfl, bound.producer⟩, _,
      ⟨rfl, bound.admitter⟩, (), bound.ofProducer.describes, (), bound.ofProducer, (),
      ⟨bound.source, bound.producer, bound.admitter, bound.ofAdmitter⟩, rfl⟩

def Manifest.identities (manifest : Manifest) : Identities :=
  ⟨manifest.source, manifest.context, manifest.producer, manifest.admitter⟩

/-- What an accepted manifest satisfies. -/
structure Manifest.Valid (manifest : Manifest) : Prop where
  identities : manifest.identities.Bound
  keySeparation : manifest.keySeparation.Valid
  keyId : isKeyId manifest.keyId = true
  keyApart : manifest.keyId ∉ manifest.keySeparation.ids
  bootstrap : Sha256.isHex64 manifest.bootstrap = true
  execution : manifest.execution.candidateIsolation ∈ isolations
  replay : manifest.replay = replayBinding manifest.source manifest.producer manifest.admitter
  provider : manifest.provider.Bound manifest.source manifest.producer manifest.producerReceipt
  toolchain : manifest.toolchain.Valid

theorem check_manifest_valid {get : ManifestKey → Json} {manifest : Manifest}
    (ok : checkManifest host get = .ok manifest) : manifest.Valid := by
  simp only [checkManifest, bind_ok, pure_ok, refuse_ok] at ok
  obtain ⟨_, _, _, _, _, _, _, _, _, _, _, _, ids, identities, record, _, handoff, _, receipt, _,
    separation, keys, keyId, signed, _, apart, bootstrap, booted, execution, executed, replay,
    replayed, provider, provided, toolchain, tools, made⟩ := ok
  subst made
  rw [SigningDomain.validate, validate_section_ok] at signed
  obtain ⟨_, _, _, identity⟩ := signed
  exact
    { identities := validate_identities_bound identities
      keySeparation := validate_key_separation_valid keys
      keyId := ((signingDomain.check_ok _ _).mp identity).2
      keyApart := apart
      bootstrap := validate_bootstrap_hex booted
      execution := validate_execution_known executed
      replay := validate_replay_ok replayed
      provider := validate_provider_bound provided
      toolchain := validate_toolchain_valid _ _ tools }

theorem load_manifest_valid {data : Bytes} {manifest : Manifest}
    (ok : loadManifest host data = .ok manifest) : manifest.Valid := by
  rw [loadManifest, bind_ok] at ok
  obtain ⟨fields, _, validated⟩ := ok
  rw [validateManifest, manifestSchema.validate_ok] at validated
  exact check_manifest_valid validated.2

/-- A manifest that is read back from a written one repeats its identities, its evidence, its
runtime and its keys. -/
structure Manifest.Repeats (written found : Manifest) : Prop where
  identities : found.identities = written.identities
  bootstrap : found.bootstrap = written.bootstrap
  execution : found.execution = written.execution
  record : found.record = written.record
  handoff : found.handoff = written.handoff
  producerReceipt : found.producerReceipt = written.producerReceipt
  keySeparation : found.keySeparation = written.keySeparation
  keyId : found.keyId = written.keyId

theorem check_manifest_repeats {written found : Manifest}
    (ok : checkManifest host written.value = .ok found) : written.Repeats found := by
  simp only [checkManifest, bind_ok, pure_ok, Manifest.value, object_of_ok, Json.object.injEq,
    Material.validate_descriptor, SigningDomain.validate_block, validate_key_separation_written,
    validate_bootstrap_written, validate_execution_written] at ok
  obtain ⟨_, _, _, _, _, rfl, _, rfl, _, rfl, _, rfl, ids, identities, _, ⟨rfl, _⟩, _, ⟨rfl, _⟩, _,
    ⟨rfl, _⟩, _, ⟨rfl, _⟩, _, ⟨rfl, _⟩, _, _, _, ⟨rfl, _⟩, _, ⟨rfl, _⟩, _, _, _, _, _, _,
    made⟩ := ok
  subst made
  have same := ((validate_identities_written written.identities ids).mp identities).1
  subst same
  exact ⟨rfl, rfl, rfl, rfl, rfl, rfl, rfl, rfl⟩

end Sections

theorem same_manifest {left right : Manifest} (same : left.same right = true) :
    left = { right with
      provider := { right.provider with artifactSize := left.provider.artifactSize } } := by
  rw [Manifest.same, Bool.and_eq_true, decide_eq_true_eq] at same
  exact same.2

/-- An inspected archive whose manifest describes every byte string it holds. -/
structure InspectedAdmission.Describes (host : EvidenceHost) (bundle : InspectedAdmission)
    (manifest : Manifest) : Prop where
  loaded : bundle.manifest host = .ok manifest
  record : manifest.record = digestOf bundle.verdictBytes
  handoff : manifest.handoff = digestOf bundle.handoffBytes
  producerReceipt : manifest.producerReceipt = digestOf bundle.producerReceiptBytes
  githubReceipt : manifest.provider.receipt = digestOf bundle.githubReceiptBytes
  rawOutput : manifest.provider.rawOutput = digestOf bundle.rawOutputBytes
  materials : verifyGithubMaterials host bundle.producerReceiptBytes bundle.evidence
    manifest.provider.policy manifest.producer = .ok ()

theorem inspect_members_describes {host : EvidenceHost} {members : AdmissionMembers}
    {bundle : InspectedAdmission} (ok : inspectMembers host members = .ok bundle) :
    ∃ manifest, bundle.Describes host manifest := by
  simp only [inspectMembers, verifyDescriptor, bind_ok, pure_ok, refuse_ok, not_not] at ok
  obtain ⟨manifest, loaded, _, _, _, _, signature, _, _, record, _, handoff, _, receipt, _, github,
    _, raw, _, materials, made⟩ := ok
  subst made
  exact ⟨manifest, loaded, record, handoff, receipt, github, raw, materials⟩

theorem inspect_admission_describes {host : EvidenceHost} {zip : ZipModule} {path : Text}
    {found : FileAnswer} {bundle : InspectedAdmission}
    (ok : inspectReleaseSourceAdmission host zip path found = .ok bundle) :
    ∃ manifest, bundle.Describes host manifest := by
  simp only [inspectReleaseSourceAdmission, bind_ok, pure_ok] at ok
  obtain ⟨_, _, _, _, _, _, inspected, described, _, _, made⟩ := ok
  subst made
  exact inspect_members_describes described

/-- The provider output of an archive is about its producer receipt, and from the run of the
producer its manifest names. -/
theorem materials_attest {host : EvidenceHost} {receipt : Bytes} {evidence : ProviderEvidence}
    {policy : GitHubAttestationPolicy} {producer : ReleaseProducer} {answer : Unit}
    (canonical : Canonical policy)
    (ok : verifyGithubMaterials host receipt evidence policy producer = .ok answer) :
    Attests host evidence.rawOutput (sha256Bytes receipt) policy.repository
      producer.workflowRunId producer.workflowRunAttempt := by
  rw [verifyGithubMaterials, validate_github_policy_written canonical] at ok
  simp only [checkProviderEvidence, bind_ok] at ok
  obtain ⟨_, same, _, ⟨verified, output, _⟩, _⟩ := ok
  cases same
  exact (verifier_output_attests output).1

section

variable {host : ReleaseHost} {zip : ZipModule} {signing : SigningHost}

theorem verify_admission_ok (reads : AdmissionReads) (expectations : AdmissionExpectations)
    (answer : VerifiedAdmission) :
    verifyReleaseSourceAdmission host zip signing reads expectations = .ok answer ↔
      ∃ expected bundle manifest report,
        checkExpectations host.toEvidenceHost expectations = .ok expected ∧
        inspectReleaseSourceAdmission host.toEvidenceHost zip reads.bundlePath reads.bundle =
          .ok bundle ∧
        bundle.manifest host.toEvidenceHost = .ok manifest ∧
        manifest.meets expected = true ∧
        (∃ key, signing.loadPublic reads.publicKeyPath reads.publicKey = .ok key ∧
          signing.keyId key = manifest.keyId ∧ manifest.keyId ∉ expected.separation.ids ∧
          bundle.signature.length = 64 ∧
          signing.verifies key bundle.signature
            (signingDomain.separator ++ bundle.manifestBytes) = true) ∧
        verifyReceiptMaterials host bundle.producerReceiptBytes bundle.verdictBytes
          bundle.handoffBytes
          (expectedReceipt bundle.verdictBytes bundle.handoffBytes expected.ids.source
            expected.ids.context expected.ids.producer expected.bootstrap manifest.execution) =
            .ok report ∧
        answer = ⟨bundle, report, .allow⟩ := by
  simp only [verifyReleaseSourceAdmission, bind_ok, refuse_ok, pure_ok, Bool.not_eq_false,
    not_not]
  constructor
  · intro found
    obtain ⟨expected, checked, bundle, inspected, manifest, loaded, _, meets, ⟨verified, trusted⟩,
      signed, _, apart, _, named, _, valid, report, materials, made⟩ := found
    simp only at apart named valid
    obtain ⟨key, opened, identity, answered⟩ := (verify_bytes_ok ..).mp signed
    rw [valid, Bool.and_eq_true, decide_eq_true_eq] at answered
    exact ⟨expected, bundle, manifest, report, checked, inspected, loaded, meets,
      ⟨key, opened, identity.trans named.symm, named ▸ apart, answered.1, answered.2⟩, materials,
      made.symm⟩
  · intro found
    obtain ⟨expected, bundle, manifest, report, checked, inspected, loaded, meets,
      ⟨key, opened, identity, apart, length, valid⟩, materials, made⟩ := found
    have signed : verifyBytesWithKeyId signing (signingDomain.separator ++ bundle.manifestBytes)
        bundle.signature reads.publicKeyPath reads.publicKey = .ok (true, manifest.keyId) := by
      rw [verify_bytes_ok]
      exact ⟨key, opened, identity, by rw [length, valid]; rfl⟩
    exact ⟨expected, checked, bundle, inspected, manifest, loaded, (), meets, _, signed, (), apart,
      (), rfl, (), rfl, report, materials, made.symm⟩

theorem manifest_meets_ok {manifest : Manifest} {expected : CheckedExpectations}
    (meets : manifest.meets expected = true) :
    manifest.identities = expected.ids ∧ manifest.bootstrap = expected.bootstrap ∧
      manifest.provider.policy = expected.policy ∧ manifest.toolchain = expected.toolchain ∧
      manifest.keySeparation = expected.separation := by
  rw [Manifest.meets, decide_eq_true_eq] at meets
  obtain ⟨source, context, producer, admitter, bootstrap, policy, toolchain, _, keys⟩ := meets
  refine ⟨?_, bootstrap, policy, toolchain, keys⟩
  rw [Manifest.identities, source, context, producer, admitter]

end

end EvoomGuard.Admission.SourceAdmission
