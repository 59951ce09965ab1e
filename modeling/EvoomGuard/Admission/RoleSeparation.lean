import EvoomGuard.Admission.ReleaseArtifact
import EvoomGuard.Admission.SourceContract

/-!
Roles and keys along a release chain. No check compares all pairs: the embedded admission keeps its
own roles apart, the artifact admission keeps the two it adds apart from them and from each other,
and two registries that agree do the same for the keys.
-/

namespace EvoomGuard.Admission.ArtifactAdmission

open EvoomGuard.Admission.SourceAdmission (AdmissionExpectations inspectReleaseSourceAdmission
  manifest_meets_ok verify_admission_ok VerifiedAdmission verifyReleaseSourceAdmission)
open EvidenceBundle GithubAttestation Lib Lib.Checks Lib.Framing ReleaseChain

/-- Where a workflow is defined, and the commit it runs. -/
structure Workplace where
  repository : Text
  repositoryId : Text
  commitSha : Text

def ReleaseWorkflow.workplace (workflow : ReleaseWorkflow) : Workplace :=
  ⟨workflow.workflowRepository, workflow.workflowRepositoryId, workflow.workflowCommitSha⟩

def producerWorkplace (producer : ReleaseProducer) : Workplace :=
  ⟨producer.workflowRepository, producer.workflowRepositoryId, producer.workflowCommitSha⟩

def sourceWorkplace (source : ReleaseSource) : Workplace :=
  ⟨source.repository, source.repositoryId, source.targetCommitSha⟩

section

variable {host : EvidenceHost}

theorem require_summary_ok {role : Role} {workflow : ReleaseWorkflow} {summary : SourceSummary}
    {answer : Unit} (ok : requireSummary role workflow summary = .ok answer) :
    workflow.workplace = ⟨summary.repository, summary.repositoryId, summary.targetCommitSha⟩ := by
  simp only [requireSummary, refuse_ok, not_or, not_not] at ok
  rw [ReleaseWorkflow.workplace, ok.1, ok.2.1, ok.2.2]

theorem require_distinct_ok {builder admitter : WorkflowIdentity} {answer : Unit} :
    requireDistinct builder admitter = .ok answer ↔ builder.Apart admitter := by
  simp only [requireDistinct, bind_ok, refuse_ok]
  constructor
  · intro found
    obtain ⟨_, id, _, path, run⟩ := found
    exact ⟨id, path, run⟩
  · intro apart
    exact ⟨(), apart.id, (), apart.path, apart.run⟩

theorem overlap_eq_false_iff (left right : WorkflowIdentity) :
    overlap left right = false ↔ left.Apart right := by
  simp only [overlap, Bool.or_eq_false_iff, beq_eq_false_iff_ne]
  constructor
  · intro both
    exact ⟨both.1.1, both.1.2, both.2⟩
  · intro apart
    exact ⟨⟨apart.id, apart.path⟩, apart.run⟩

theorem require_fresh_ok {role : Role} {identity : WorkflowIdentity}
    {taken : List WorkflowIdentity} {answer : Unit} :
    requireFresh role identity taken = .ok answer ↔ ∀ other ∈ taken, identity.Apart other := by
  simp only [requireFresh, refuse_ok, Bool.not_eq_true, List.any_eq_false, overlap_eq_false_iff]

theorem role_separation_ok {builder admitter : ReleaseWorkflow}
    {manifest : SourceAdmission.Manifest} {answer : Unit}
    (ok : validateRoleSeparation builder admitter manifest = .ok answer) :
    (∀ role ∈ sourceRoles manifest, builder.identity.Apart role) ∧
      (∀ role ∈ sourceRoles manifest, admitter.identity.Apart role) ∧
      builder.identity.Apart admitter.identity := by
  simp only [validateRoleSeparation, bind_ok, require_fresh_ok, require_distinct_ok] at ok
  obtain ⟨_, builderFresh, _, admitterFresh, apart⟩ := ok
  exact ⟨builderFresh, admitterFresh, apart⟩

theorem validate_key_separation_nodup {value : Json} {keys : KeySeparation}
    (ok : validateKeySeparation host value = .ok keys) : keys.ids.Nodup := by
  simp only [validateKeySeparation, validate_section_ok, checkKeySeparation, bind_ok, refuse_ok,
    not_not, pure_ok] at ok
  obtain ⟨_, _, _, _, _, _, _, _, _, _, _, _, _, _, apart, same⟩ := ok
  exact same ▸ apart

theorem validate_summary_written {written found : SourceSummary}
    (ok : validateSourceSummary host (.object written.asDict) = .ok found) : found = written := by
  rw [validateSourceSummary, SourceSummary.asDict, validate_section_object] at ok
  simp only [checkSummary, SourceSummary.value, numericId, validateGitSha, bind_ok, text_that_ok,
    Material.validate_descriptor, Json.string.injEq, pure_ok] at ok
  obtain ⟨_, _, _, _, _, keyId, _, repository, _, repositoryId, _, commit, _, tree, _, bootstrap, _,
    bundle, made⟩ := ok
  rw [← made, bundle.1, ← keyId.1, ← repository.1, ← repositoryId.1, ← commit.1, ← tree.1,
    ← bootstrap.1]

/-- What an accepted manifest satisfies. -/
structure Manifest.Valid (manifest : Manifest) : Prop where
  builder : manifest.builder.workplace = ⟨manifest.releaseSource.repository,
    manifest.releaseSource.repositoryId, manifest.releaseSource.targetCommitSha⟩
  admitter : manifest.admitter.workplace = ⟨manifest.releaseSource.repository,
    manifest.releaseSource.repositoryId, manifest.releaseSource.targetCommitSha⟩
  keys : manifest.keySeparation.ids.Nodup
  signer : manifest.keySeparation.releaseSourceAdmissionV2 = manifest.releaseSource.keyId
  keyApart : manifest.keyId ∉ manifest.keySeparation.ids

theorem load_manifest_valid {data : Bytes} {manifest : Manifest}
    (ok : loadManifest host data = .ok manifest) : manifest.Valid := by
  rw [loadManifest, bind_ok] at ok
  obtain ⟨fields, _, validated⟩ := ok
  rw [validateManifest, manifestSchema.validate_ok] at validated
  have checked := validated.2
  simp only [checkManifest, bind_ok, refuse_ok, pure_ok, not_not] at checked
  obtain ⟨_, _, _, _, _, _, _, _, _, _, _, _, _, _, _, _, _, builder, _, admitter, _, _, _, keys, _,
    signer, _, _, _, apart, _, _, _, _, made⟩ := checked
  subst made
  exact
    { builder := require_summary_ok builder
      admitter := require_summary_ok admitter
      keys := validate_key_separation_nodup keys
      signer := signer
      keyApart := apart }

theorem policy_for_builder_repository {builder : ReleaseWorkflow} {commit : Text}
    {policy : GitHubAttestationPolicy} (ok : policyForBuilder builder commit = .ok policy) :
    policy.repository = builder.workflowRepository := by
  simp only [policyForBuilder, githubAttestationPolicy, validateRepository, bind_ok, text_that_ok,
    pure_ok, Json.string.injEq] at ok
  obtain ⟨_, read, _, _, _, _, _, _, _, _, _, _, same⟩ := ok
  rw [← same, ← read.1]

theorem artifact_materials_attest {evidence : ProviderEvidence} {artifact : Digest}
    {policy : GitHubAttestationPolicy} {builder : ReleaseWorkflow} {answer : Unit}
    (ok : verifyGithubMaterials host evidence artifact policy builder = .ok answer) :
    Attests host evidence.rawOutput artifact.sha256 policy.repository builder.workflowRunId
      builder.workflowRunAttempt := by
  simp only [verifyGithubMaterials, checkProviderEvidence, bind_ok] at ok
  obtain ⟨_, ⟨_, output, _⟩, _⟩ := ok
  exact (verifier_output_attests output).1

end

section

variable {host : ReleaseHost} {zip : ZipModule} {signing : SigningHost}

theorem map_error_ok {Problem Value : Type} {change : Problem → Problem}
    {result : Except Problem Value} {value : Value} :
    result.mapError change = .ok value ↔ result = .ok value := by
  cases result with
  | error problem =>
    constructor
    · intro impossible
      cases impossible
    · intro impossible
      cases impossible
  | ok other => rfl

theorem source_snapshot_ok {source : Bytes} {path : Text} {key : FileAnswer}
    {expectations : ArtifactExpectations} {checked : CheckedArtifactExpectations}
    {answer : VerifiedAdmission}
    (ok : verifyReleaseSourceSnapshot host zip signing source path key
      (expectations.sourceExpectations checked) = .ok answer) :
    ∃ manifest, answer.bundle.manifest host.toEvidenceHost = .ok manifest ∧
      inspectReleaseSourceAdmission host.toEvidenceHost zip stagedSource (.ok source) =
        .ok answer.bundle ∧
      manifest.source = checked.source ∧ manifest.keySeparation = checked.separation.source ∧
      manifest.Valid := by
  rw [verifyReleaseSourceSnapshot, map_error_ok, verify_admission_ok] at ok
  obtain ⟨expected, bundle, manifest, report, expecting, inspected, loaded, meets, _, _, made⟩ := ok
  have valid := SourceAdmission.load_manifest_valid loaded
  obtain ⟨identities, _, _, _, keys⟩ := manifest_meets_ok meets
  simp only [SourceAdmission.checkExpectations, ArtifactExpectations.sourceExpectations, bind_ok,
    pure_ok, SourceAdmission.validate_key_separation_written, SourceAdmission.validateIdentities]
    at expecting
  obtain ⟨separation, registered, ids, ⟨read, sourceRead, _, _, _, _, _, _, _, _, _, _, _, _, idsMade⟩,
    _, _, _, _, _, _, expectedMade⟩ := expecting
  subst made expectedMade idsMade
  refine ⟨manifest, loaded, inspected, ?_, keys.trans registered.1, valid⟩
  have first : manifest.source = read := congrArg SourceAdmission.Identities.source identities
  rw [validateReleaseSource, ReleaseSource.asDict,
    sourceSchema.validate_written check_source_ok ReleaseSource.value_injective] at sourceRead
  exact first.trans sourceRead.1

end

/-- The workflow roles of a chain: evaluation, producer, admitter of the source, builder, admitter
of the artifact. -/
def chainRoles (source : SourceAdmission.Manifest) (manifest : Manifest) : List WorkflowIdentity :=
  [source.producer.trigger, source.producer.identity, source.admitter.identity,
    manifest.builder.identity, manifest.admitter.identity]

/-- The roles after the evaluation. -/
def chainWorkplaces (source : SourceAdmission.Manifest) (manifest : Manifest) : List Workplace :=
  [producerWorkplace source.producer, producerWorkplace source.admitter, manifest.builder.workplace,
    manifest.admitter.workplace]

/-- The four registered keys, that of the source admission, and that of the artifact admission. -/
def chainKeys (source : SourceAdmission.Manifest) (manifest : Manifest) : List Text :=
  source.keySeparation.ids ++ [source.keyId, manifest.keyId]

structure Separated (source : SourceAdmission.Manifest) (manifest : Manifest) : Prop where
  evaluation : source.producer.trigger.run = source.source.workflowRunId ∧
    source.producer.triggerWorkflowRunAttempt = source.source.workflowRunAttempt
  roles : (chainRoles source manifest).Pairwise WorkflowIdentity.Apart
  workplaces : ∀ place ∈ chainWorkplaces source manifest, place = sourceWorkplace source.source
  registered : manifest.keySeparation.source = source.keySeparation
  keys : (chainKeys source manifest).Nodup

variable {source : SourceAdmission.Manifest} {manifest : Manifest}

theorem chain_roles_apart (valid : source.Valid)
    (builder : ∀ role ∈ sourceRoles source, manifest.builder.identity.Apart role)
    (admitter : ∀ role ∈ sourceRoles source, manifest.admitter.identity.Apart role)
    (apart : manifest.builder.identity.Apart manifest.admitter.identity) :
    (chainRoles source manifest).Pairwise WorkflowIdentity.Apart := by
  have ofProducer := valid.identities.ofProducer.apart
  have ofAdmitter := valid.identities.ofAdmitter
  have producerMember : source.producer.identity ∈ sourceRoles source := List.mem_cons_self
  have admitterMember : source.admitter.identity ∈ sourceRoles source :=
    List.mem_cons_of_mem _ List.mem_cons_self
  have triggerMember : source.producer.trigger ∈ sourceRoles source :=
    List.mem_cons_of_mem _ (List.mem_cons_of_mem _ List.mem_cons_self)
  simp only [chainRoles, List.pairwise_cons, List.mem_cons, List.not_mem_nil, or_false,
    forall_eq_or_imp, forall_eq, false_implies, implies_true, List.Pairwise.nil, and_true]
  exact ⟨⟨ofProducer.symm, ofAdmitter.evaluationApart.symm, (builder _ triggerMember).symm,
      (admitter _ triggerMember).symm⟩,
    ⟨ofAdmitter.producerApart.symm, (builder _ producerMember).symm,
      (admitter _ producerMember).symm⟩,
    ⟨(builder _ admitterMember).symm, (admitter _ admitterMember).symm⟩, apart⟩

theorem chain_workplaces_same (valid : source.Valid)
    (builder : manifest.builder.workplace = sourceWorkplace source.source)
    (admitter : manifest.admitter.workplace = sourceWorkplace source.source) :
    ∀ place ∈ chainWorkplaces source manifest, place = sourceWorkplace source.source := by
  have ofProducer : ProducerBound source.source source.context source.producer :=
    valid.identities.ofProducer
  have ofAdmitter : AdmitterBound source.source source.producer source.admitter :=
    valid.identities.ofAdmitter
  have producerSame : producerWorkplace source.producer = sourceWorkplace source.source := by
    rw [producerWorkplace, sourceWorkplace, ← ofProducer.repository, ← ofProducer.repositoryId,
      ← ofProducer.commit]
  have admitterSame : producerWorkplace source.admitter = sourceWorkplace source.source := by
    rw [producerWorkplace, sourceWorkplace, ofAdmitter.repository, ofAdmitter.repositoryId,
      ofAdmitter.commit]
  intro place member
  simp only [chainWorkplaces, List.mem_cons, List.not_mem_nil, or_false] at member
  rcases member with rfl | rfl | rfl | rfl
  · exact producerSame
  · exact admitterSame
  · exact builder
  · exact admitter

/-- The registry of the artifact admission has the four keys and that of the source admission, so
its distinctness, and that of the signing key from all of it, is that of the six. -/
theorem chain_keys_apart (valid : manifest.Valid)
    (registered : manifest.keySeparation.source = source.keySeparation)
    (signer : manifest.keySeparation.releaseSourceAdmissionV2 = source.keyId) :
    (chainKeys source manifest).Nodup := by
  have keys := valid.keys
  have apart := valid.keyApart
  rw [chainKeys, ← registered, ← signer]
  simp only [KeySeparation.ids, KeySeparation.source, SourceAdmission.KeySeparation.ids,
    List.nodup_cons, List.mem_cons, List.not_mem_nil, or_false, not_or, List.cons_append,
    List.nil_append, List.nodup_nil, not_false_eq_true, and_true] at keys apart ⊢
  obtain ⟨⟨a1, a2, a3, a4⟩, ⟨b1, b2, b3⟩, ⟨c1, c2⟩, d1⟩ := keys
  obtain ⟨k1, k2, k3, k4, k5⟩ := apart
  exact ⟨⟨a1, a3, a4, a2, Ne.symm k1⟩, ⟨b2, b3, b1, Ne.symm k2⟩, ⟨d1, Ne.symm c1, Ne.symm k4⟩,
    ⟨Ne.symm c2, Ne.symm k5⟩, Ne.symm k3⟩

section Accepted

variable {host : ReleaseHost} {zip : ZipModule} {signing : SigningHost}

theorem expectations_source {host : EvidenceHost} {expectations : ArtifactExpectations}
    {checked : CheckedArtifactExpectations}
    (ok : checkArtifactExpectations host expectations = .ok checked) :
    validateReleaseSource host expectations.releaseSource = .ok checked.source := by
  simp only [checkArtifactExpectations, bind_ok, pure_ok] at ok
  obtain ⟨_, _, _, _, _, _, source, read, _, _, _, _, _, _, made⟩ := ok
  rw [← made]
  exact read

/-- What an accepted chain establishes: its roles and keys are separated, and the provider output of
the artifact admission is about the detached artifact alone and from the very run of the builder. -/
structure SeparatedChain (host : ReleaseHost) (zip : ZipModule) (reads : ArtifactReads)
    (expectations : ArtifactExpectations) (answer : VerifiedArtifactAdmission)
    (source : SourceAdmission.Manifest) (manifest : Manifest) (artifact : Bytes) : Prop where
  loaded : answer.bundle.manifest host.toEvidenceHost = .ok manifest
  sourceLoaded : answer.releaseSource.bundle.manifest host.toEvidenceHost = .ok source
  embedded : inspectReleaseSourceAdmission host.toEvidenceHost zip stagedSource
    (.ok answer.bundle.sourceBytes) = .ok answer.releaseSource.bundle
  expected : validateReleaseSource host.toEvidenceHost expectations.releaseSource =
    .ok source.source
  separated : Separated source manifest
  detached : reads.artifact = .ok artifact
  attested : Attests host.toEvidenceHost answer.bundle.rawOutputBytes (sha256Bytes artifact)
    source.source.repository manifest.builder.workflowRunId manifest.builder.workflowRunAttempt

theorem accepted_chain {reads : ArtifactReads} {expectations : ArtifactExpectations}
    {answer : VerifiedArtifactAdmission}
    (accepted : verifyReleaseArtifactAdmission host zip signing reads expectations = .ok answer) :
    ∃ source manifest artifact,
      SeparatedChain host zip reads expectations answer source manifest artifact := by
  simp only [verifyReleaseArtifactAdmission, snapshotRegularArtifact, sourceSummary, bind_ok,
    pure_ok, refuse_ok, Bool.not_eq_false, not_not] at accepted
  obtain ⟨expected, expecting, subject, ⟨artifact, file, _, _, hashed⟩, bundle, _, manifest, loaded,
    _, meets, _, _, _, _, _, _, _, _, verified, embedded, source, sourceLoaded, summary, summed, _,
    same, _, roles, policy, policed, _, _, _, materials, made⟩ := accepted
  subst made hashed
  have expectedSource := expectations_source expecting
  obtain ⟨other, otherLoaded, inspected, ofSource, registry, sourceValid⟩ :=
    source_snapshot_ok embedded
  obtain rfl : source = other := Except.ok.inj (sourceLoaded.symm.trans otherLoaded)
  have valid := load_manifest_valid loaded
  have summaryIs : manifest.releaseSource = summaryOf source bundle.sourceBytes :=
    same.trans (validate_summary_written summed)
  rw [Manifest.meets, decide_eq_true_eq] at meets
  obtain ⟨_, builder, admitter, _, keys⟩ := meets
  rw [← builder, ← admitter] at roles
  rw [← builder] at policed materials
  have builderPlace : manifest.builder.workplace = sourceWorkplace source.source := by
    rw [valid.builder, summaryIs]
    rfl
  have admitterPlace : manifest.admitter.workplace = sourceWorkplace source.source := by
    rw [valid.admitter, summaryIs]
    rfl
  have signer : manifest.keySeparation.releaseSourceAdmissionV2 = source.keyId := by
    rw [valid.signer, summaryIs]
    rfl
  have registered : manifest.keySeparation.source = source.keySeparation := by
    rw [keys, registry]
  obtain ⟨builderFresh, admitterFresh, apart⟩ := role_separation_ok roles
  have repository : policy.repository = source.source.repository :=
    (policy_for_builder_repository policed).trans (congrArg Workplace.repository builderPlace)
  have ofProducer : ProducerBound source.source source.context source.producer :=
    sourceValid.identities.ofProducer
  have separated : Separated source manifest :=
    ⟨⟨ofProducer.triggerRun.symm, ofProducer.triggerAttempt.symm⟩,
      chain_roles_apart sourceValid builderFresh admitterFresh apart,
      chain_workplaces_same sourceValid builderPlace admitterPlace, registered,
      chain_keys_apart valid registered signer⟩
  exact ⟨source, manifest, artifact, loaded, sourceLoaded, inspected, ofSource ▸ expectedSource,
    separated, file, repository ▸ artifact_materials_attest materials⟩

/-- A verification raises or its chain is separated. -/
theorem accepted_chain_separated (host : ReleaseHost) (zip : ZipModule) (signing : SigningHost)
    (reads : ArtifactReads) (expectations : ArtifactExpectations) :
    (∃ problem, verifyReleaseArtifactAdmission host zip signing reads expectations =
      .error problem) ∨
    ∃ answer source manifest artifact,
      verifyReleaseArtifactAdmission host zip signing reads expectations = .ok answer ∧
      SeparatedChain host zip reads expectations answer source manifest artifact := by
  cases outcome : verifyReleaseArtifactAdmission host zip signing reads expectations with
  | error problem => exact Or.inl ⟨problem, rfl⟩
  | ok answer =>
    obtain ⟨source, manifest, artifact, chain⟩ := accepted_chain outcome
    exact Or.inr ⟨answer, source, manifest, artifact, rfl, chain⟩

end Accepted

end EvoomGuard.Admission.ArtifactAdmission
