import EvoomGuard.Finalizer.RawEvaluation
import EvoomGuard.ReleaseChain.Source

/-!
The bindings of a release source derived from raw Git, the context they form with a verdict record,
and the handoff that names both with the exact verdict bytes.
-/

namespace EvoomGuard.ReleaseChain

open EvidenceBundle Finalizer Lib Lib.Checks Lib.Framing

/-- What raw Git answers about `refs/heads/main`: its commit, the row `rev-list --parents` prints
for it, and the two commits. -/
structure ReleaseGit where
  refCommit : Except Text Text
  parents : Except Text (List Text)
  head : CommitReader
  parent : CommitReader

structure RefParentPair where
  commit : Text
  tree : Text
  parent : Text
  parentTree : Text
  deriving DecidableEq

/-- `derive_raw_ref_parent_pair`: a commit with exactly one parent. -/
def deriveRefParentPair (git : ReleaseGit) : Except Text RefParentPair := do
  let named ← git.refCommit
  let commit ← validGitSha named "derived ref"
  let parents ← git.parents
  match parents with
  | [self, parent] => do
      refuse (self ≠ commit) notLinear
      let parent ← validGitSha parent "derived parent commit"
      let tree ← git.head.commitTree commit
      let parentTree ← git.parent.commitTree parent
      pure ⟨commit, tree, parent, parentTree⟩
  | _ => .error notLinear
where
  notLinear : Text :=
    ("V1 protected-release source must be a non-merge commit with exactly one " ++ "parent").toList

structure DerivedReleaseSourceBindings where
  source : ReleaseSource
  parentCommitSha : Text
  parentTreeSha : Text
  candidateSha256 : Text
  policySha256 : Text
  verifierPackSha256 : Option Text
  deriving DecidableEq

/-- `_validate_release_source_derivation`. The keys and the format are those of the structure. -/
def validateDerivation (host : EvidenceHost) (bindings : DerivedReleaseSourceBindings) :
    Except Text DerivedReleaseSourceBindings := do
  let source ← validateReleaseSource host bindings.source.asDict
  let parentCommit ← validateGitSha "release-source derivation parent_commit_sha"
    (.string bindings.parentCommitSha)
  let parentTree ← validateGitSha "release-source derivation parent_tree_sha"
    (.string bindings.parentTreeSha)
  refuse (parentCommit = source.targetCommitSha)
    ("release-source raw-Git derivation parent_commit_sha must differ from " ++ "target").toList
  let candidate ← validateSha256 "release-source derivation candidate_sha256"
    (.string bindings.candidateSha256)
  let policy ← validateSha256 "release-source derivation policy_sha256"
    (.string bindings.policySha256)
  let pack ← validateNullableSha256 "release-source derivation verifier_pack_sha256"
    (nullable bindings.verifierPackSha256)
  pure ⟨source, parentCommit, parentTree, candidate, policy, pack⟩

def derivationFailed (problem : Text) : Text :=
  "release-source raw-Git derivation failed: " ++ problem

def deriveReleaseSourceBindings (host : EvidenceHost) (derivation : DerivationHost)
    (git : ReleaseGit) (source : ReleaseSource) : Except Text DerivedReleaseSourceBindings := do
  let source ← validateReleaseSource host source.asDict
  let pair ← (deriveRefParentPair git).mapError derivationFailed
  refuse (source.targetCommitSha ≠ pair.commit ∨ source.targetTreeSha ≠ pair.tree)
    "trusted raw-Git refs/heads/main does not match the expected release source"
  let raw ← (deriveRawEvaluation derivation git.parent git.head
    ⟨pair.parent, pair.commit, pair.parentTree, pair.tree⟩ none none none).mapError
      derivationFailed
  validateDerivation host
    ⟨source, pair.parent, pair.parentTree, raw.candidateSha256, raw.policySha256,
      raw.verifierPackSha256⟩

/-- What `verify_record` reports: whether every check passed, and the checks that failed. -/
structure RecordReport where
  ok : Bool
  failed : List Text
  deriving DecidableEq

/-- `_validate_record_context`, of one attested value. -/
def requireAttested (attestation : List (Text × Json)) (recordKey contextKey : String)
    (expected : Json) : Except Text Unit :=
  refuse ((attestation.lookup recordKey.toList).getD .null ≠ expected)
    ("verdict.attestation." ++ recordKey.toList ++ " does not match context." ++
      contextKey.toList)

def validateRecordContext (record : List (Text × Json)) (context : ReleaseContext) :
    Except Text Unit :=
  match record.lookup "attestation".toList with
  | some (.object attestation) => do
      requireAttested attestation "base_sha" "parent_commit_sha" (.string context.parentCommitSha)
      requireAttested attestation "head_sha" "target_commit_sha" (.string context.targetCommitSha)
      requireAttested attestation "base_tree_sha" "parent_tree_sha" (.string context.parentTreeSha)
      requireAttested attestation "head_tree_sha" "target_tree_sha" (.string context.targetTreeSha)
      requireAttested attestation "candidate_sha256" "candidate_sha256"
        (.string context.candidateSha256)
      requireAttested attestation "policy_sha256" "policy_sha256" (.string context.policySha256)
      requireAttested attestation "verifier_pack_sha256" "verifier_pack_sha256"
        (nullable context.verifierPackSha256)
  | _ => .error ("release-source finalization requires a non-null verdict.attestation " ++
      "object").toList

/-- The context of some bindings, before it is compared with anything. -/
def DerivedReleaseSourceBindings.context (bindings : DerivedReleaseSourceBindings) :
    ReleaseContext where
  repository := bindings.source.repository
  repositoryId := bindings.source.repositoryId
  runId := bindings.source.workflowRunId
  runAttempt := bindings.source.workflowRunAttempt
  targetCommitSha := bindings.source.targetCommitSha
  targetTreeSha := bindings.source.targetTreeSha
  parentCommitSha := bindings.parentCommitSha
  parentTreeSha := bindings.parentTreeSha
  candidateSha256 := bindings.candidateSha256
  policySha256 := bindings.policySha256
  verifierPackSha256 := bindings.verifierPackSha256

/-- `context_from_release_source_bindings`. -/
def contextFromBindings (host : EvidenceHost) (bindings : DerivedReleaseSourceBindings)
    (record : List (Text × Json)) : Except Text ReleaseContext := do
  let verified ← validateDerivation host bindings
  let context ← validateReleaseSourceContext host verified.context.asDict
  validateRecordContext record context
  pure context

section Record

variable (host : EvidenceHost) (verifyRecord : List (Text × Json) → RecordReport)

structure RecordSnapshot where
  bytes : Bytes
  verdict : List (Text × Json)
  report : RecordReport

def recordSnapshot (path : Text) (found : FileAnswer) : Except Text RecordSnapshot := do
  let bytes ← readRegularFileBytes host maxVerdictBytes "verdict" path found
  let verdict ← loadJsonObjectBytes host bytes "verdict"
  let report := verifyRecord verdict
  refuse (report.ok = false)
    ("verdict record is semantically invalid: " ++
      Text.join ", " report.failed)
  pure ⟨bytes, verdict, report⟩

def handoffFormat : Text := "EVOGUARD_RELEASE_SOURCE_FINALIZER_HANDOFF_V1"

def maxHandoffBytes : Nat := 512 * 1024

structure InspectedReleaseSourceHandoff where
  handoffBytes : Bytes
  source : ReleaseSource
  context : ReleaseContext
  record : Digest

inductive HandoffKey where
  | format
  | source
  | context
  | record
  deriving DecidableEq

def HandoffKey.text : HandoffKey → Text
  | .format => "format"
  | .source => "source"
  | .context => "context"
  | .record => "record"

def handoffSchema : Schema HandoffKey where
  keys := [.format, .source, .context, .record]
  name := HandoffKey.text

def checkRecordDescriptor (get : DigestKey → Json) : Except Text Digest := do
  let sha256 ← validateSha256 "record.sha256" (get .sha256)
  let size ← intWithin 1 maxVerdictBytes
    "record.size must be an integer from 1 through 8388608" (get .size)
  pure ⟨sha256, size⟩

def validateRecordDescriptor (fields : List (Text × Json)) : Except Text Digest :=
  digestSchema.validate host.shownList "release-source handoff record"
    checkRecordDescriptor fields

def handoffParts : Text :=
  "release-source handoff source, context, and record must be objects"

def checkHandoff (handoffBytes : Bytes) (get : HandoffKey → Json) :
    Except Text InspectedReleaseSourceHandoff := do
  exactText handoffFormat ("unsupported release-source handoff format: " ++
    host.shown (get .format)) (get .format)
  let source ← objectOf handoffParts (get .source)
  let context ← objectOf handoffParts (get .context)
  let record ← objectOf handoffParts (get .record)
  let source ← validateReleaseSource host source
  let context ← validateReleaseSourceContext host context
  validateSourceContext source context
  let record ← validateRecordDescriptor host record
  pure ⟨handoffBytes, source, context, record⟩

def inspectHandoffPayload (handoffBytes : Bytes) : Except Text InspectedReleaseSourceHandoff := do
  let payload ← loadJsonObjectBytes host handoffBytes "release-source handoff"
  let canonical ← canonicalJsonBytes host payload
  refuse (canonical ≠ handoffBytes) "release-source handoff is not canonical JSON"
  handoffSchema.validate host.shownList "release-source handoff"
    (checkHandoff host handoffBytes) payload

def inspectReleaseSourceHandoff (path : Text) (found : FileAnswer) :
    Except Text InspectedReleaseSourceHandoff := do
  let handoffBytes ← readRegularFileBytes host maxHandoffBytes "release-source handoff"
    path found
  inspectHandoffPayload host handoffBytes

def inspectReleaseSourceHandoffBytes (handoffBytes : Bytes) :
    Except Text InspectedReleaseSourceHandoff := do
  refuse (maxHandoffBytes < handoffBytes.length)
    "release-source handoff exceeds its size limit"
  inspectHandoffPayload host handoffBytes

structure VerifiedReleaseSourceHandoff where
  inspection : InspectedReleaseSourceHandoff
  verdictBytes : Bytes
  verdict : List (Text × Json)
  recordReport : RecordReport

def verifyReleaseSourceHandoff (inspected : InspectedReleaseSourceHandoff) (verdictPath : Text)
    (verdictFile : FileAnswer) (source : ReleaseSource) (context : ReleaseContext) :
    Except Text VerifiedReleaseSourceHandoff := do
  let source ← validateReleaseSource host source.asDict
  let context ← validateReleaseSourceContext host context.asDict
  validateSourceContext source context
  refuse (inspected.source ≠ source)
    "release-source handoff source does not exactly match expected source"
  refuse (inspected.context ≠ context)
    "release-source handoff context does not exactly match expected context"
  let snapshot ← recordSnapshot host verifyRecord verdictPath verdictFile
  let descriptor ← validateRecordDescriptor host inspected.record.asDict
  refuse (descriptor ≠ digestOf snapshot.bytes)
    "release-source handoff record does not match exact verdict bytes"
  validateRecordContext snapshot.verdict context
  pure ⟨inspected, snapshot.bytes, snapshot.verdict, snapshot.report⟩

end Record

theorem validate_source_written (host : EvidenceHost) (written found : ReleaseSource) :
    validateReleaseSource host written.asDict = .ok found ↔ found = written ∧ written.Valid := by
  rw [validateReleaseSource, ReleaseSource.asDict,
    sourceSchema.validate_written check_source_ok ReleaseSource.value_injective]

theorem validate_context_written (host : EvidenceHost) (written found : ReleaseContext) :
    validateReleaseSourceContext host written.asDict = .ok found ↔
      found = written ∧ written.Valid := by
  rw [validateReleaseSourceContext, ReleaseContext.asDict,
    contextSchema.validate_written check_context_ok ReleaseContext.value_injective]

variable {host : EvidenceHost}

theorem validate_derivation_source {written found : DerivedReleaseSourceBindings}
    (ok : validateDerivation host written = .ok found) : found.source = written.source := by
  simp only [validateDerivation, validate_source_written, bind_ok, pure_ok] at ok
  obtain ⟨source, kept, _, _, _, _, _, _, _, _, _, _, _, _, made⟩ := ok
  rw [← made, kept.1]

theorem derive_bindings_source {derivation : DerivationHost} {git : ReleaseGit}
    {source : ReleaseSource} {bindings : DerivedReleaseSourceBindings}
    (ok : deriveReleaseSourceBindings host derivation git source = .ok bindings) :
    bindings.source = source := by
  simp only [deriveReleaseSourceBindings, validate_source_written, bind_ok] at ok
  obtain ⟨_, kept, _, _, _, _, _, _, derived⟩ := ok
  rw [validate_derivation_source derived, kept.1]

theorem record_snapshot_ok {verifyRecord : List (Text × Json) → RecordReport}
    {path : Text} {found : FileAnswer} {snapshot : RecordSnapshot}
    (ok : recordSnapshot host verifyRecord path found = .ok snapshot) :
    found = .ok snapshot.bytes ∧
      loadJsonObjectBytes host snapshot.bytes "verdict" = .ok snapshot.verdict ∧
      snapshot.report = verifyRecord snapshot.verdict ∧ snapshot.report.ok = true := by
  simp only [recordSnapshot, bind_ok, read_regular_file_ok, refuse_ok, Bool.not_eq_false,
    pure_ok] at ok
  obtain ⟨bytes, read, verdict, loaded, _, accepted, made⟩ := ok
  subst made
  exact ⟨read.1, loaded, rfl, accepted⟩

/-- A verified handoff is about exactly the verdict bytes, whose record is valid. -/
structure VerifiedReleaseSourceHandoff.Of (host : EvidenceHost)
    (verifyRecord : List (Text × Json) → RecordReport)
    (handoff : VerifiedReleaseSourceHandoff) : Prop where
  record : handoff.inspection.record = digestOf handoff.verdictBytes
  loaded : loadJsonObjectBytes host handoff.verdictBytes "verdict" = .ok handoff.verdict
  report : handoff.recordReport = verifyRecord handoff.verdict
  accepted : handoff.recordReport.ok = true

theorem verify_handoff_ok {verifyRecord : List (Text × Json) → RecordReport}
    {inspected : InspectedReleaseSourceHandoff} {path : Text} {found : FileAnswer}
    {source : ReleaseSource} {context : ReleaseContext} {handoff : VerifiedReleaseSourceHandoff}
    (ok : verifyReleaseSourceHandoff host verifyRecord inspected path found source context =
      .ok handoff) :
    handoff.Of host verifyRecord ∧ handoff.inspection = inspected ∧
      found = .ok handoff.verdictBytes ∧ inspected.source = source ∧
      inspected.context = context := by
  simp only [verifyReleaseSourceHandoff, validate_source_written, validate_context_written,
    validateRecordDescriptor, Digest.asDict, digestSchema.validate_object, bind_ok, refuse_ok,
    not_not, pure_ok] at ok
  obtain ⟨_, ⟨rfl, _⟩, _, ⟨rfl, _⟩, _, _, _, sameSource, _, sameContext, snapshot, recorded,
    descriptor, checked, _, digest, _, _, made⟩ := ok
  subst made
  obtain ⟨read, loaded, report, accepted⟩ := record_snapshot_ok recorded
  have kept : descriptor = inspected.record := by
    simp only [checkRecordDescriptor, validateSha256, bind_ok, text_that_ok, int_within_ok,
      pure_ok, Digest.value, Json.string.injEq, Json.int.injEq] at checked
    obtain ⟨_, ⟨rfl, _⟩, _, ⟨rfl, _⟩, same⟩ := checked
    exact same.symm
  exact ⟨⟨kept ▸ digest, loaded, report, accepted⟩, rfl, read, sameSource, sameContext⟩

end EvoomGuard.ReleaseChain
