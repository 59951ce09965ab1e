import EvoomGuard.Application.Attestation
import EvoomGuard.Finalizer.RawEvaluation

/-!
The bindings the finalizer derives from raw Git, and the context it forms once a verdict record
agrees with them. Errors are the texts that are raised.
-/

namespace EvoomGuard.Finalizer

open Application Lib Lib.Checks PackManifest Policy Verifiers

structure FinalizerSource where
  pullRequestNumber : Int
  workflowRunId : Text
  workflowRunAttempt : Int
  baseSha : Text
  headSha : Text
  deriving DecidableEq

structure FinalizerBindings where
  source : FinalizerSource
  repository : Text
  repositoryId : Text
  guardArtifactSha256 : Text
  baseTreeSha : Text
  headTreeSha : Text
  candidateSha256 : Text
  deletedPaths : List Text
  policySha256 : Text
  verifierPackSha256 : Option Text
  verifierPackManifest : Option (List (Text × Json))
  effectivePolicy : PolicyPayload

def FinalizerBindings.revisions (bindings : FinalizerBindings) : Revisions :=
  ⟨bindings.source.baseSha, bindings.source.headSha, bindings.baseTreeSha, bindings.headTreeSha⟩

def maxRunNumber : Int := 2147483647

def boundedString (value label : Text) (maximum : Nat) : Except Text Unit := do
  refuse (value = [] ∨ maximum < value.length)
    (label ++ " must be a non-empty Unicode string of at most " ++
      (toString maximum).toList ++ " characters")
  refuse (value.any fun character => decide (character.toNat < 0x20))
    (label ++ " must not contain control characters")

def validateSource (source : FinalizerSource) : Except Text Unit := do
  refuse (¬ (1 ≤ source.pullRequestNumber ∧ source.pullRequestNumber ≤ maxRunNumber))
    "source.pull_request_number is invalid"
  boundedString source.workflowRunId "source.workflow_run_id" 256
  refuse (¬ (1 ≤ source.workflowRunAttempt ∧ source.workflowRunAttempt ≤ maxRunNumber))
    "source.workflow_run_attempt is invalid"
  refuse (isGitSha source.baseSha = false) "source.base_sha must be a lowercase Git digest"
  refuse (isGitSha source.headSha = false) "source.head_sha must be a lowercase Git digest"

def validateSha256 (value label : Text) : Except Text Unit :=
  refuse (Sha256.isHex64 value = false) (label ++ " must be a lowercase SHA-256 digest")

def validateNullableSha256 (value : Option Text) (label : Text) : Except Text Unit :=
  refuse (value.all Sha256.isHex64 = false)
    (label ++ " must be a lowercase SHA-256 digest or null")

def validateManifest (quoted : Text → Text) (manifest : Option (List (Text × Json))) :
    Except Text Unit :=
  match manifest with
  | none => pure ()
  | some fields => refuse (manifestProblems quoted (.object fields) ≠ [] ∨
      extractManifest (.object fields) ≠ fields)
      "derived verifier-pack manifest is invalid"

def validateDerivedBindings (host : DerivationHost) (bindings : FinalizerBindings) :
    Except Text FinalizerBindings := do
  validateSource bindings.source
  boundedString bindings.repository "repository" 512
  boundedString bindings.repositoryId "repository_id" 256
  validateSha256 bindings.guardArtifactSha256 "guard_artifact_sha256"
  refuse (isGitSha bindings.baseTreeSha = false)
    "derived bindings base_tree_sha is invalid"
  refuse (isGitSha bindings.headTreeSha = false)
    "derived bindings head_tree_sha is invalid"
  validateSha256 bindings.candidateSha256 "candidate_sha256"
  refuse (bindings.deletedPaths.any (!isSafeRelpath host.mapping ·))
    "derived bindings deleted_paths must be safe relative paths"
  refuse (bindings.deletedPaths ≠ Text.sortedSet bindings.deletedPaths)
    "derived bindings deleted_paths must be sorted and unique"
  validateSha256 bindings.policySha256 "policy_sha256"
  validateNullableSha256 bindings.verifierPackSha256 "verifier_pack_sha256"
  refuse (effectivePolicySha256 host.dumps bindings.effectivePolicy ≠ bindings.policySha256)
    "derived bindings policy digest is inconsistent"
  validateManifest host.quoted bindings.verifierPackManifest
  refuse (bindings.verifierPackSha256 = none ∧ bindings.verifierPackManifest.isSome)
    "a null verifier-pack digest cannot have a manifest"
  pure bindings

def deriveFinalizerBindings (host : DerivationHost) (base head : CommitReader)
    (revisions : Revisions) (source : FinalizerSource)
    (repository repositoryId guardArtifactSha256 : Text) : Except Text FinalizerBindings := do
  validateSource source
  let _ ← validGitSha revisions.baseSha "base_sha"
  let _ ← validGitSha revisions.headSha "head_sha"
  let _ ← validGitSha revisions.baseTreeSha "base_tree_sha"
  let _ ← validGitSha revisions.headTreeSha "head_tree_sha"
  refuse (source.baseSha ≠ revisions.baseSha ∨ source.headSha ≠ revisions.headSha)
    "source revision does not match derivation revision"
  boundedString repository "repository" 512
  boundedString repositoryId "repository_id" 256
  validateSha256 guardArtifactSha256 "guard_artifact_sha256"
  let raw ← deriveRawEvaluation host base head revisions none none none
  validateDerivedBindings host
    { source := source
      repository := repository
      repositoryId := repositoryId
      guardArtifactSha256 := guardArtifactSha256
      baseTreeSha := revisions.baseTreeSha
      headTreeSha := revisions.headTreeSha
      candidateSha256 := raw.candidateSha256
      deletedPaths := raw.deletedPaths
      policySha256 := raw.policySha256
      verifierPackSha256 := raw.verifierPackSha256
      verifierPackManifest := raw.verifierPackManifest
      effectivePolicy := raw.effectivePolicy }

structure EvidenceContext where
  repository : Text
  repositoryId : Text
  runId : Text
  runAttempt : Int
  revisions : Revisions
  candidateSha256 : Text
  policySha256 : Text
  verifierPackSha256 : Option Text
  guardArtifactSha256 : Text

def namesRevision (named : Option Text) (given : Text) : Bool := named.all (· == given)

def contextSha (value label : Text) : Except Text Unit :=
  refuse (isGitSha value = false)
    ("context." ++ label ++ " must be null or a lowercase 40/64-character Git digest")

def contextMatches (label : String) (agrees : Bool) : Except Text Unit :=
  refuse (agrees = false) ("context." ++ label.toList ++
    " does not match verdict.attestation." ++ label.toList)

def contextNames (label : String) (named : Option Text) (given : Text) : Except Text Unit :=
  refuse (namesRevision named given = false) ("context." ++ label.toList ++
    " does not match the non-null verdict attestation")

def validateEvidenceContext (context : EvidenceContext) (attestation : RecordAttestation) :
    Except Text EvidenceContext := do
  boundedString context.repository "context.repository" 512
  boundedString context.repositoryId "context.repository_id" 256
  boundedString context.runId "context.run_id" 256
  refuse (context.runAttempt < 1 ∨ maxRunNumber < context.runAttempt)
    "context.run_attempt must be an integer from 1 through 2147483647"
  contextSha context.revisions.baseSha "base_sha"
  contextSha context.revisions.headSha "head_sha"
  contextSha context.revisions.baseTreeSha "base_tree_sha"
  contextSha context.revisions.headTreeSha "head_tree_sha"
  validateSha256 context.candidateSha256 "context.candidate_sha256"
  validateSha256 context.policySha256 "context.policy_sha256"
  validateSha256 context.guardArtifactSha256 "context.guard_artifact_sha256"
  refuse (context.verifierPackSha256.all Sha256.isHex64 = false)
    "context.verifier_pack_sha256 must be null or a lowercase SHA-256 digest"
  contextMatches "candidate_sha256" (context.candidateSha256 == attestation.candidateSha256)
  contextMatches "policy_sha256" (context.policySha256 == attestation.policySha256)
  contextMatches "verifier_pack_sha256"
    (context.verifierPackSha256 == attestation.verifierPackSha256)
  contextNames "base_sha" attestation.baseSha context.revisions.baseSha
  contextNames "head_sha" attestation.headSha context.revisions.headSha
  contextNames "base_tree_sha" attestation.baseTreeSha context.revisions.baseTreeSha
  contextNames "head_tree_sha" attestation.headTreeSha context.revisions.headTreeSha
  pure context

def recordNames (label : String) (named : Option Text) (given : Text) : Except Text Unit :=
  refuse (namesRevision named given = false)
    ("record " ++ label.toList ++ " differs from raw-Git derivation")

def FinalizerBindings.context (bindings : FinalizerBindings) (recordPack : Option Text) :
    EvidenceContext where
  repository := bindings.repository
  repositoryId := bindings.repositoryId
  runId := bindings.source.workflowRunId
  runAttempt := bindings.source.workflowRunAttempt
  revisions := bindings.revisions
  candidateSha256 := bindings.candidateSha256
  policySha256 := bindings.policySha256
  verifierPackSha256 := recordPack
  guardArtifactSha256 := bindings.guardArtifactSha256

-- Payload and manifest come from one builder each, so equal dictionaries are equal lists.
def contextFromVerifiedBindings (bindings : FinalizerBindings)
    (attestation : Option RecordAttestation) : Except Text (FinalizerSource × EvidenceContext) :=
  match attestation with
  | none => .error "verdict record has no attestation"
  | some attestation => do
      refuse (attestation.candidateSha256 ≠ bindings.candidateSha256)
        "record candidate digest differs from raw-Git derivation"
      refuse (attestation.deletedPaths ≠ bindings.deletedPaths)
        "record deleted paths differ from raw-Git derivation"
      refuse (attestation.policySha256 ≠ bindings.policySha256)
        "record policy digest differs from raw-Git derivation"
      refuse (attestation.effectivePolicy ≠ bindings.effectivePolicy)
        "record effective policy differs from raw-Git derivation"
      refuse (attestation.verifierPackSha256 ≠ none ∧
          attestation.verifierPackSha256 ≠ bindings.verifierPackSha256)
        "record verifier-pack digest differs from raw-Git derivation"
      refuse (attestation.verifierPackManifest ≠
          attestation.verifierPackSha256.bind fun _ => bindings.verifierPackManifest)
        "record verifier-pack manifest differs from raw-Git derivation"
      recordNames "base_sha" attestation.baseSha bindings.source.baseSha
      recordNames "head_sha" attestation.headSha bindings.source.headSha
      recordNames "base_tree_sha" attestation.baseTreeSha bindings.baseTreeSha
      recordNames "head_tree_sha" attestation.headTreeSha bindings.headTreeSha
      let context ← (validateEvidenceContext
        (bindings.context attestation.verifierPackSha256) attestation).mapError
          ("derived context does not bind verdict: " ++ ·)
      pure (bindings.source, context)

/-- The facts of a validated derivation that its context is checked for again. -/
structure Wellformed (bindings : FinalizerBindings) : Prop where
  attempt : 1 ≤ bindings.source.workflowRunAttempt ∧
    bindings.source.workflowRunAttempt ≤ maxRunNumber
  runId : ∀ label, boundedString bindings.source.workflowRunId label 256 = .ok ()
  repository : ∀ label, boundedString bindings.repository label 512 = .ok ()
  repositoryId : ∀ label, boundedString bindings.repositoryId label 256 = .ok ()
  revisions : isGitSha bindings.source.baseSha = true ∧ isGitSha bindings.source.headSha = true ∧
    isGitSha bindings.baseTreeSha = true ∧ isGitSha bindings.headTreeSha = true
  digests : Sha256.isHex64 bindings.candidateSha256 = true ∧
    Sha256.isHex64 bindings.policySha256 = true ∧
    Sha256.isHex64 bindings.guardArtifactSha256 = true
  pack : bindings.verifierPackSha256.all Sha256.isHex64 = true

theorem bounded_string_any_label (value label : Text) (maximum : Nat)
    (bounded : boundedString value label maximum = .ok ()) (other : Text) :
    boundedString value other maximum = .ok () := by
  simp only [boundedString, bind_ok, refuse_ok] at bounded ⊢
  exact bounded

theorem validate_source_ok (source : FinalizerSource) (valid : validateSource source = .ok ()) :
    (1 ≤ source.workflowRunAttempt ∧ source.workflowRunAttempt ≤ maxRunNumber) ∧
      (∀ label, boundedString source.workflowRunId label 256 = .ok ()) ∧
      isGitSha source.baseSha = true ∧ isGitSha source.headSha = true := by
  simp only [validateSource, bind_ok, refuse_ok, Bool.not_eq_false] at valid
  rcases valid with ⟨_, _, _, runId, _, attempt, _, baseSha, headSha⟩
  exact ⟨not_not.mp attempt, bounded_string_any_label _ _ _ runId, baseSha, headSha⟩

theorem validate_bindings_wellformed (host : DerivationHost) (bindings answer : FinalizerBindings)
    (valid : validateDerivedBindings host bindings = .ok answer) :
    answer = bindings ∧ Wellformed bindings := by
  simp only [validateDerivedBindings, validateSha256, validateNullableSha256, bind_ok, pure_ok,
    refuse_ok, Bool.not_eq_false] at valid
  rcases valid with ⟨_, source, _, repository, _, repositoryId, _, artifact, _, baseTree, _, headTree,
    _, candidate, _, _, _, _, _, policy, _, pack, _, _, _, _, _, _, same⟩
  have facts := validate_source_ok bindings.source source
  exact ⟨same.symm,
    { attempt := facts.1
      runId := facts.2.1
      repository := bounded_string_any_label _ _ _ repository
      repositoryId := bounded_string_any_label _ _ _ repositoryId
      revisions := ⟨facts.2.2.1, facts.2.2.2, baseTree, headTree⟩
      digests := ⟨candidate, policy, artifact⟩
      pack := pack }⟩

theorem derived_bindings_ok (host : DerivationHost) (base head : CommitReader)
    (revisions : Revisions) (source : FinalizerSource)
    (repository repositoryId guardArtifactSha256 : Text) (bindings : FinalizerBindings)
    (derived : deriveFinalizerBindings host base head revisions source repository repositoryId
      guardArtifactSha256 = .ok bindings) :
    Wellformed bindings ∧ bindings.revisions = revisions ∧
      ∃ raw, deriveRawEvaluation host base head revisions none none none = .ok raw ∧
        bindings.candidateSha256 = raw.candidateSha256 ∧
        bindings.deletedPaths = raw.deletedPaths ∧
        bindings.policySha256 = raw.policySha256 ∧
        bindings.verifierPackSha256 = raw.verifierPackSha256 ∧
        bindings.verifierPackManifest = raw.verifierPackManifest ∧
        bindings.effectivePolicy = raw.effectivePolicy := by
  simp only [deriveFinalizerBindings, bind_ok, refuse_ok, not_or, not_not] at derived
  rcases derived with ⟨_, _, _, _, _, _, _, _, _, _, _, same, _, _, _, _, _, _, raw, evaluated, valid⟩
  rcases validate_bindings_wellformed host _ _ valid with ⟨built, wellformed⟩
  subst built
  refine ⟨wellformed, ?_, raw, evaluated, rfl, rfl, rfl, rfl, rfl, rfl⟩
  simp only [FinalizerBindings.revisions, same.1, same.2]

/-- What accepted bindings and a record have in common. -/
structure Binds (bindings : FinalizerBindings) (attestation : RecordAttestation) : Prop where
  candidate : attestation.candidateSha256 = bindings.candidateSha256
  deletions : attestation.deletedPaths = bindings.deletedPaths
  policySha256 : attestation.policySha256 = bindings.policySha256
  policy : attestation.effectivePolicy = bindings.effectivePolicy
  pack : attestation.verifierPackSha256 = none ∨
    attestation.verifierPackSha256 = bindings.verifierPackSha256
  manifest : attestation.verifierPackManifest =
    attestation.verifierPackSha256.bind fun _ => bindings.verifierPackManifest
  baseSha : namesRevision attestation.baseSha bindings.source.baseSha = true
  headSha : namesRevision attestation.headSha bindings.source.headSha = true
  baseTreeSha : namesRevision attestation.baseTreeSha bindings.baseTreeSha = true
  headTreeSha : namesRevision attestation.headTreeSha bindings.headTreeSha = true

theorem evidence_context_ok (bindings : FinalizerBindings) (attestation : RecordAttestation)
    (wellformed : Wellformed bindings) (binds : Binds bindings attestation) :
    validateEvidenceContext (bindings.context attestation.verifierPackSha256) attestation =
      .ok (bindings.context attestation.verifierPackSha256) := by
  have pack : attestation.verifierPackSha256.all Sha256.isHex64 = true := by
    rcases binds.pack with absent | same
    · rw [absent]
      rfl
    · rw [same]
      exact wellformed.pack
  have attempt : ¬ (bindings.source.workflowRunAttempt < 1 ∨
      maxRunNumber < bindings.source.workflowRunAttempt) := by
    have bounds := wellformed.attempt
    omega
  simp only [validateEvidenceContext, validateSha256, contextSha, contextMatches, contextNames,
    bind_ok, pure_ok, refuse_ok, Bool.not_eq_false, beq_iff_eq]
  exact ⟨(), wellformed.repository _, (), wellformed.repositoryId _, (), wellformed.runId _, (),
    attempt, (), wellformed.revisions.1, (), wellformed.revisions.2.1, (),
    wellformed.revisions.2.2.1, (), wellformed.revisions.2.2.2, (), wellformed.digests.1, (),
    wellformed.digests.2.1, (), wellformed.digests.2.2, (), pack, (), binds.candidate.symm, (),
    binds.policySha256.symm, (), rfl, (), binds.baseSha, (), binds.headSha, (), binds.baseTreeSha,
    (), binds.headTreeSha, trivial⟩

theorem context_accepts_iff (bindings : FinalizerBindings) (attestation : RecordAttestation)
    (wellformed : Wellformed bindings) :
    (∃ answer, contextFromVerifiedBindings bindings (some attestation) = .ok answer) ↔
      Binds bindings attestation := by
  simp only [contextFromVerifiedBindings, recordNames, bind_ok, pure_ok, refuse_ok, not_not,
    Bool.not_eq_false]
  constructor
  · rintro ⟨_, _, candidate, _, deletions, _, policySha256, _, policy, _, pack, _, manifest, _,
      baseSha, _, headSha, _, baseTreeSha, _, headTreeSha, _⟩
    exact
      { candidate := candidate
        deletions := deletions
        policySha256 := policySha256
        policy := policy
        pack := by
          by_contra apart
          exact pack (not_or.mp apart)
        manifest := manifest
        baseSha := baseSha
        headSha := headSha
        baseTreeSha := baseTreeSha
        headTreeSha := headTreeSha }
  · intro binds
    have pack : ¬ (attestation.verifierPackSha256 ≠ none ∧
        attestation.verifierPackSha256 ≠ bindings.verifierPackSha256) := by
      intro apart
      rcases binds.pack with absent | same
      · exact apart.1 absent
      · exact apart.2 same
    have context := evidence_context_ok bindings attestation wellformed binds
    exact ⟨_, (), binds.candidate, (), binds.deletions, (), binds.policySha256, (), binds.policy, (),
      pack, (), binds.manifest, (), binds.baseSha, (), binds.headSha, (), binds.baseTreeSha, (),
      binds.headTreeSha, _, by rw [context]; rfl, rfl⟩

end EvoomGuard.Finalizer
