import EvoomGuard.GithubAttestation.Receipt
import EvoomGuard.GithubAttestation.SigningKeyPath
import EvoomGuard.ReleaseChain.Handoff
import EvoomGuard.ReleaseChain.Roles

/-!
The producer receipt: what a protected workflow claims about one verdict, the local and raw-Git
checks of the claim, and the fresh provider verification of its exact bytes.
-/

namespace EvoomGuard.ReleaseChain

open EvidenceBundle Finalizer GithubAttestation Lib Lib.Checks Lib.Framing
open EvoomGuard.Verifiers (isSafeRelpath)

def isolations : List Text := ["docker", "gvisor"]

/-- `value not in {"docker", "gvisor"}`; a list or a dictionary has no hash. -/
def isolationOf (problem : Text) : Json → Except Text Text
  | .string text => if isolations.contains text then .ok text else .error problem
  | .array _ => .error "unhashable type: 'list'"
  | .object _ => .error "unhashable type: 'dict'"
  | _ => .error problem

@[simp]
theorem isolation_of_ok (problem : Text) (value : Json) (text : Text) :
    isolationOf problem value = .ok text ↔ value = .string text ∧ text ∈ isolations := by
  cases value with
  | string found =>
    rw [isolationOf, Json.string.injEq]
    by_cases known : isolations.contains found = true
    · rw [if_pos known, Except.ok.injEq]
      constructor
      · intro same
        exact ⟨same, same ▸ List.contains_iff_mem.mp known⟩
      · exact And.left
    · rw [if_neg known]
      constructor
      · intro impossible
        cases impossible
      · intro both
        exact absurd (List.contains_iff_mem.mpr (both.1 ▸ both.2)) known
  | _ => simp [isolationOf]

/-- The only profile that is admitted; the isolation is what varies. -/
structure ExecutionProfile where
  candidateIsolation : Text
  deriving DecidableEq

inductive ExecutionKey where
  | outcome
  | guardExitCode
  | candidateIsolation
  | network
  | reportIntegrity
  | overallProfile
  deriving DecidableEq

def ExecutionKey.text : ExecutionKey → Text
  | .outcome => "outcome"
  | .guardExitCode => "guard_exit_code"
  | .candidateIsolation => "candidate_isolation"
  | .network => "network"
  | .reportIntegrity => "report_integrity"
  | .overallProfile => "overall_profile"

def executionSchema : Schema ExecutionKey where
  keys := [.outcome, .guardExitCode, .candidateIsolation, .network, .reportIntegrity,
    .overallProfile]
  name := ExecutionKey.text

def externalIntegrity : Text := "external_process_isolated"

def externalProfile : Text := "black_box_external_judge"

def ExecutionProfile.value (profile : ExecutionProfile) : ExecutionKey → Json
  | .outcome => .string "PASS"
  | .guardExitCode => .int 0
  | .candidateIsolation => .string profile.candidateIsolation
  | .network => .string "none"
  | .reportIntegrity => .string externalIntegrity
  | .overallProfile => .string externalProfile

def ExecutionProfile.asDict (profile : ExecutionProfile) : List (Text × Json) :=
  executionSchema.object profile.value

def checkReceiptExecution (get : ExecutionKey → Json) : Except Text ExecutionProfile := do
  refuse (get .outcome ≠ .string "PASS" ∨ (get .guardExitCode).alike (.int 0) = false)
    "producer receipt execution must record outcome PASS and guard_exit_code 0"
  let isolation ← isolationOf
    "producer receipt execution.candidate_isolation must be docker or gvisor"
    (get .candidateIsolation)
  exactText "none" "producer receipt execution.network must be 'none'"
    (get .network)
  exactText externalIntegrity ("producer receipt execution.report_integrity must be " ++
    "external_process_isolated").toList (get .reportIntegrity)
  exactText externalProfile ("producer receipt execution.overall_profile must be " ++
    "black_box_external_judge").toList (get .overallProfile)
  pure ⟨isolation⟩

def runtimeFormat : Text := "EVOGUARD_GUARD_ZIPAPP_SHA256_V1"

inductive BootstrapKey where
  | runtimeIdentityFormat
  | guardArtifactSha256
  deriving DecidableEq

def BootstrapKey.text : BootstrapKey → Text
  | .runtimeIdentityFormat => "runtime_identity_format"
  | .guardArtifactSha256 => "guard_artifact_sha256"

def bootstrapSchema : Schema BootstrapKey where
  keys := [.runtimeIdentityFormat, .guardArtifactSha256]
  name := BootstrapKey.text

/-- A bootstrap descriptor is the digest of the guard artifact. -/
def bootstrapValue (guardArtifactSha256 : Text) : BootstrapKey → Json
  | .runtimeIdentityFormat => .string runtimeFormat
  | .guardArtifactSha256 => .string guardArtifactSha256

def bootstrapDict (guardArtifactSha256 : Text) : List (Text × Json) :=
  bootstrapSchema.object (bootstrapValue guardArtifactSha256)

def checkReceiptBootstrap (get : BootstrapKey → Json) : Except Text Text := do
  exactText runtimeFormat
    ("producer receipt bootstrap.runtime_identity_format must be '" ++ runtimeFormat ++
      "'") (get .runtimeIdentityFormat)
  validateSha256 "producer receipt bootstrap.guard_artifact_sha256"
    (get .guardArtifactSha256)

section

variable (host : EvidenceHost)

def requireField (owner : String) (fields : List (Text × Json)) (key : String) (expected : Json) :
    Except Text Unit :=
  refuse (((fields.lookup key.toList).getD .null).alike expected = false)
    ("producer receipt requires " ++ owner.toList ++ '.' :: key.toList ++ '=' ::
      host.shown expected)

def childObject (problem : String) (fields : List (Text × Json)) (key : String) :
    Except Text (List (Text × Json)) :=
  objectOf problem.toList ((fields.lookup key.toList).getD .null)

def requireBlackboxPolicy (policy : List (Text × Json)) : Except Text Unit := do
  requireField host "effective_policy" policy "blackbox" (.bool true)
  requireField host "effective_policy" policy "blackbox_only" (.bool true)
  requireField host "effective_policy" policy "require_report_integrity"
    (.string externalIntegrity)
  requireField host "effective_policy" policy "docker_network" (.string "none")

def requireIsolatedAssurance (assurance : List (Text × Json)) (isolation : Text) :
    Except Text Unit := do
  requireField host "assurance" assurance "execution_state" (.string "completed")
  requireField host "assurance" assurance "execution_phase" (.string "blackbox_pack")
  requireField host "assurance" assurance "suite_isolation" (.string isolation)
  requireField host "assurance" assurance "report_integrity" (.string externalIntegrity)
  requireField host "assurance" assurance "overall_profile" (.string externalProfile)

def requireUnmountedPack (pack : List (Text × Json)) (context : ReleaseContext) :
    Except Text Unit := do
  requireField host "verifier_pack" pack "configured" (.bool true)
  requireField host "verifier_pack" pack "present" (.bool true)
  requireField host "verifier_pack" pack "identity_verified" (.bool true)
  requireField host "verifier_pack" pack "execution_state" (.string "completed")
  requireField host "verifier_pack" pack "secrecy" (.string "unmounted_from_candidate")
  refuse ((pack.lookup "snapshot_sha256".toList).getD .null ≠ nullable context.verifierPackSha256)
    "producer receipt verifier-pack snapshot does not match release-source context"

def validateAllowRecord (record : List (Text × Json)) (context : ReleaseContext) :
    Except Text ExecutionProfile := do
  exactText "PASS" "producer receipt requires verdict PASS"
    ((record.lookup "verdict".toList).getD .null)
  let attestation ← childObject
    "producer receipt requires verdict attestation and assurance objects" record "attestation"
  let assurance ← childObject
    "producer receipt requires verdict attestation and assurance objects" record "assurance"
  let policy ← childObject "producer receipt requires a complete effective policy object"
    attestation "effective_policy"
  requireBlackboxPolicy host policy
  let isolation ← isolationOf
    "producer receipt requires docker or gvisor candidate isolation"
    ((assurance.lookup "candidate_isolation".toList).getD .null)
  requireIsolatedAssurance host assurance isolation
  let pack ← childObject "producer receipt requires a verifier-pack assurance" assurance
    "verifier_pack"
  requireUnmountedPack host pack context
  pure ⟨isolation⟩

end

def producerReceiptFormat : Text := "EVOGUARD_RELEASE_SOURCE_PRODUCER_RECEIPT_V1"

def maxProducerReceiptBytes : Nat := 512 * 1024

structure ReleaseProducerReceipt where
  source : ReleaseSource
  context : ReleaseContext
  record : Digest
  handoff : Digest
  bootstrap : Text
  execution : ExecutionProfile
  producer : ReleaseProducer
  deriving DecidableEq

inductive ProducerReceiptKey where
  | format
  | source
  | context
  | record
  | handoff
  | bootstrap
  | execution
  | producer
  deriving DecidableEq

def ProducerReceiptKey.text : ProducerReceiptKey → Text
  | .format => "format"
  | .source => "source"
  | .context => "context"
  | .record => "record"
  | .handoff => "handoff"
  | .bootstrap => "bootstrap"
  | .execution => "execution"
  | .producer => "producer"

def producerReceiptSchema : Schema ProducerReceiptKey where
  keys := [.format, .source, .context, .record, .handoff, .bootstrap, .execution, .producer]
  name := ProducerReceiptKey.text

def ReleaseProducerReceipt.value (receipt : ReleaseProducerReceipt) : ProducerReceiptKey → Json
  | .format => .string producerReceiptFormat
  | .source => .object receipt.source.asDict
  | .context => .object receipt.context.asDict
  | .record => .object receipt.record.asDict
  | .handoff => .object receipt.handoff.asDict
  | .bootstrap => .object (bootstrapDict receipt.bootstrap)
  | .execution => .object receipt.execution.asDict
  | .producer => .object receipt.producer.asDict

def ReleaseProducerReceipt.asDict (receipt : ReleaseProducerReceipt) : List (Text × Json) :=
  producerReceiptSchema.object receipt.value

section Receipt

variable (host : EvidenceHost)

def checkDescriptor (label : Text) (maximum : Int) (shownMaximum : Text) (get : DigestKey → Json) :
    Except Text Digest := do
  let size ← intWithin 1 maximum
    (label ++ ".size must be an integer from 1 through " ++ shownMaximum) (get .size)
  let sha256 ← validateSha256 (label ++ ".sha256") (get .sha256)
  pure ⟨sha256, size⟩

def validateDescriptor (label : Text) (maximum : Nat) (fields : List (Text × Json)) :
    Except Text Digest :=
  digestSchema.validate host.shownList label
    (checkDescriptor label maximum (JsonCodec.natText maximum)) fields

def receiptPartsProblem : Text :=
  ("producer receipt source, context, record, handoff, and producer must be " ++ "objects").toList

def checkProducerReceipt (get : ProducerReceiptKey → Json) :
    Except Text ReleaseProducerReceipt := do
  exactText producerReceiptFormat ("unsupported producer receipt format: " ++
    host.shown (get .format)) (get .format)
  let source ← objectOf receiptPartsProblem (get .source)
  let context ← objectOf receiptPartsProblem (get .context)
  let record ← objectOf receiptPartsProblem (get .record)
  let handoff ← objectOf receiptPartsProblem (get .handoff)
  let producer ← objectOf receiptPartsProblem (get .producer)
  let source ← validateReleaseSource host source
  let context ← validateReleaseSourceContext host context
  let producer ← validateReleaseProducer host producer
  validateContextProducer source context producer
  let record ← validateDescriptor host "producer receipt record" maxVerdictBytes record
  let handoff ← validateDescriptor host "producer receipt handoff" maxHandoffBytes handoff
  let bootstrap ← objectOf "producer receipt bootstrap must be an object" (get .bootstrap)
  let bootstrap ← bootstrapSchema.validate host.shownList "producer receipt bootstrap"
    checkReceiptBootstrap bootstrap
  let execution ← objectOf "producer receipt execution must be an object" (get .execution)
  let execution ← executionSchema.validate host.shownList "producer receipt execution"
    checkReceiptExecution execution
  pure ⟨source, context, record, handoff, bootstrap, execution, producer⟩

/-- `validate_release_source_producer_receipt`. -/
def validateProducerReceipt (fields : List (Text × Json)) : Except Text ReleaseProducerReceipt :=
  producerReceiptSchema.validate host.shownList "release-source producer receipt"
    (checkProducerReceipt host) fields

structure InspectedProducerReceipt where
  receiptBytes : Bytes
  payload : ReleaseProducerReceipt

/-- The decoding every reader of a receipt starts with. -/
def readProducerReceipt (receiptBytes : Bytes) : Except Text ReleaseProducerReceipt := do
  let payload ← loadJsonObjectBytes host receiptBytes "release-source producer receipt"
  let checked ← validateProducerReceipt host payload
  let canonical ← canonicalJsonBytes host checked.asDict
  refuse (canonical ≠ receiptBytes)
    "release-source producer receipt is not canonical JSON"
  pure checked

/-- `inspect_release_source_producer_receipt`. -/
def inspectProducerReceipt (path : Text) (found : FileAnswer) :
    Except Text InspectedProducerReceipt := do
  let receiptBytes ← readRegularFileBytes host maxProducerReceiptBytes
    "release-source producer receipt" path found
  let payload ← readProducerReceipt host receiptBytes
  pure ⟨receiptBytes, payload⟩

end Receipt

section

variable (derivation : DerivationHost) (reader : CommitReader)

def collectBlobs (entries : Dict Text GitEntry) : List Text → Except Text (List (Text × Text))
  | [] => pure []
  | path :: rest =>
    match entries.entries.lookup path with
    | some entry =>
      if entry.regular then do
        let sha ← validGitSha entry.objectId "regular blob"
        let others ← collectBlobs entries rest
        pure ((path, sha) :: others)
      else collectBlobs entries rest
    | none => collectBlobs entries rest

/-- `resolve_raw_git_regular_blobs`. -/
def resolveRegularBlobs (treeish : Text) (paths : List Text) :
    Except Text (List (Text × Text)) := do
  refuse ((paths.any fun path => !isSafeRelpath derivation.mapping path) = true)
    "raw Git regular-blob path must be a safe relative path"
  let entries ← reader.treeAt derivation treeish
  collectBlobs entries paths

def requireBlob (role : String) (blobs : List (Text × Text)) (path expected : Text) :
    Except Text Unit :=
  match blobs.lookup path with
  | none => .error (role.toList ++
      " workflow path is not a regular blob in the protected-main tree")
  | some sha => refuse (sha ≠ expected)
      (role.toList ++ " workflow blob does not match the protected-main raw Git tree")

/-- `_verify_producer_workflow_blobs`. -/
def verifyProducerBlobs (source : ReleaseSource) (producer : ReleaseProducer) :
    Except Text Unit := do
  let blobs ← (resolveRegularBlobs derivation reader source.targetTreeSha
    [producer.workflowPath, producer.triggerWorkflowPath]).mapError fun problem =>
      "could not resolve producer workflow from raw Git: " ++ problem
  requireBlob "producer" blobs producer.workflowPath producer.workflowBlobSha
  requireBlob "trigger" blobs producer.triggerWorkflowPath producer.triggerWorkflowBlobSha

/-- `verify_release_source_admitter_workflow_blob`. -/
def verifyAdmitterBlob (host : EvidenceHost) (source : ReleaseSource)
    (producer admitter : ReleaseProducer) : Except Text ReleaseProducer := do
  let source ← validateReleaseSource host source.asDict
  let producer ← validateReleaseProducer host producer.asDict
  let admitter ← validateReleaseAdmitter host admitter.asDict
  validateAdmitterBinding host source producer admitter
  let blobs ← (resolveRegularBlobs derivation reader source.targetTreeSha
    [admitter.workflowPath]).mapError fun problem =>
      "could not resolve admitter workflow from raw Git: " ++ problem
  requireBlob "admitter" blobs admitter.workflowPath admitter.workflowBlobSha
  pure admitter

end

/-- The value under a path of keys, or null. -/
def fieldAt : List String → List (Text × Json) → Json
  | [], fields => .object fields
  | [key], fields => (fields.lookup key.toList).getD .null
  | key :: rest, fields =>
    match fields.lookup key.toList with
    | some (.object inner) => fieldAt rest inner
    | _ => .null

/-- The fields of a passing record whose only evidence is an isolated black-box pack. -/
def isolatedFields (isolation : Text) : List (List String × Json) :=
  [(["verdict"], .string "PASS"),
    (["attestation", "effective_policy", "blackbox"], .bool true),
    (["attestation", "effective_policy", "blackbox_only"], .bool true),
    (["attestation", "effective_policy", "require_report_integrity"], .string externalIntegrity),
    (["attestation", "effective_policy", "docker_network"], .string "none"),
    (["assurance", "candidate_isolation"], .string isolation),
    (["assurance", "execution_state"], .string "completed"),
    (["assurance", "execution_phase"], .string "blackbox_pack"),
    (["assurance", "suite_isolation"], .string isolation),
    (["assurance", "report_integrity"], .string externalIntegrity),
    (["assurance", "overall_profile"], .string externalProfile),
    (["assurance", "verifier_pack", "configured"], .bool true),
    (["assurance", "verifier_pack", "present"], .bool true),
    (["assurance", "verifier_pack", "identity_verified"], .bool true),
    (["assurance", "verifier_pack", "execution_state"], .string "completed"),
    (["assurance", "verifier_pack", "secrecy"], .string "unmounted_from_candidate")]

/-- A pass of the isolated black-box profile, over the pack of the context. -/
structure IsolatedPass (record : List (Text × Json)) (context : ReleaseContext)
    (profile : ExecutionProfile) : Prop where
  isolation : profile.candidateIsolation ∈ isolations
  fields : ∀ field ∈ isolatedFields profile.candidateIsolation,
    (fieldAt field.1 record).alike field.2 = true
  pack : fieldAt ["assurance", "verifier_pack", "snapshot_sha256"] record =
    nullable context.verifierPackSha256

theorem child_object_ok (problem : String) (fields : List (Text × Json)) (key : String)
    (child : List (Text × Json)) :
    childObject problem fields key = .ok child ↔ fields.lookup key.toList = some (.object child) := by
  rw [childObject, object_of_ok]
  cases fields.lookup key.toList <;> simp

theorem field_under (key : String) (next : String) (rest : List String)
    (fields inner : List (Text × Json)) (found : fields.lookup key.toList = some (.object inner)) :
    fieldAt (key :: next :: rest) fields = fieldAt (next :: rest) inner := by
  rw [fieldAt, found]
  intro same
  cases same

theorem allow_record_isolated {host : EvidenceHost} {record : List (Text × Json)}
    {context : ReleaseContext} {profile : ExecutionProfile}
    (ok : validateAllowRecord host record context = .ok profile) :
    IsolatedPass record context profile := by
  simp only [validateAllowRecord, requireBlackboxPolicy, requireIsolatedAssurance,
    requireUnmountedPack, requireField, bind_ok, exact_text_ok, child_object_ok, isolation_of_ok,
    refuse_ok, Bool.not_eq_false, not_not, pure_ok] at ok
  obtain ⟨_, verdict, attestation, inRecord, assurance, assured, policy, inAttestation, _,
    ⟨_, blackbox, _, only, _, integrity, network⟩, isolation, ⟨observed, known⟩, _,
    ⟨_, state, _, phase, _, suite, _, report, overall⟩, pack, inAssurance, _,
    ⟨_, configured, _, present, _, identity, _, completed, _, secrecy, snapshot⟩, made⟩ := ok
  subst made
  have ofPolicy : ∀ key, fieldAt ["attestation", "effective_policy", key] record =
      (policy.lookup key.toList).getD .null := by
    intro key
    rw [field_under _ _ _ _ _ inRecord, field_under _ _ _ _ _ inAttestation, fieldAt]
  have ofAssurance : ∀ key, fieldAt ["assurance", key] record =
      (assurance.lookup key.toList).getD .null := by
    intro key
    rw [field_under _ _ _ _ _ assured, fieldAt]
  have ofPack : ∀ key, fieldAt ["assurance", "verifier_pack", key] record =
      (pack.lookup key.toList).getD .null := by
    intro key
    rw [field_under _ _ _ _ _ assured, field_under _ _ _ _ _ inAssurance, fieldAt]
  refine ⟨known, ?_, ?_⟩
  · simp only [isolatedFields, List.mem_cons, List.not_mem_nil, or_false, forall_eq_or_imp,
      forall_eq, ofPolicy, ofAssurance, ofPack]
    refine ⟨?_, blackbox, only, integrity, network, ?_, state, phase, suite, report, overall,
      configured, present, identity, completed, secrecy⟩
    · rw [fieldAt, verdict]
      exact (Json.alike_string _ _).mpr rfl
    · rw [observed]
      exact (Json.alike_string _ _).mpr rfl
  · rw [ofPack, snapshot]

theorem validate_producer_written (host : EvidenceHost) (written found : ReleaseProducer) :
    validateReleaseProducer host written.asDict = .ok found ↔ found = written ∧ written.Valid := by
  rw [validateReleaseProducer, ReleaseProducer.asDict,
    producerSchema.validate_written check_producer_ok ReleaseProducer.value_injective]

theorem validate_descriptor_kept {host : EvidenceHost} {label : Text} {maximum : Nat}
    {written found : Digest}
    (ok : validateDescriptor host label maximum written.asDict = .ok found) : found = written := by
  rw [validateDescriptor, Digest.asDict, digestSchema.validate_object] at ok
  simp only [checkDescriptor, validateSha256, bind_ok, text_that_ok, int_within_ok, pure_ok,
    Digest.value, Json.string.injEq, Json.int.injEq] at ok
  obtain ⟨_, ⟨rfl, _⟩, _, ⟨rfl, _⟩, made⟩ := ok
  exact made.symm

theorem producer_receipt_kept {host : EvidenceHost} {written found : ReleaseProducerReceipt}
    (ok : validateProducerReceipt host written.asDict = .ok found) : found = written := by
  rw [validateProducerReceipt, ReleaseProducerReceipt.asDict,
    producerReceiptSchema.validate_object] at ok
  simp only [checkProducerReceipt, ReleaseProducerReceipt.value, bind_ok, object_of_ok,
    Json.object.injEq, pure_ok] at ok
  obtain ⟨_, _, _, rfl, _, rfl, _, rfl, _, rfl, _, rfl, source, ofSource, context, ofContext,
    producer, ofProducer, _, _, record, ofRecord, handoff, ofHandoff, _, rfl, bootstrap, booted, _,
    rfl, execution, executed, made⟩ := ok
  rw [bootstrapDict, bootstrapSchema.validate_object] at booted
  rw [ExecutionProfile.asDict, executionSchema.validate_object] at executed
  simp only [checkReceiptBootstrap, validateSha256, bootstrapValue, bind_ok, exact_text_ok,
    text_that_ok, Json.string.injEq] at booted
  simp only [checkReceiptExecution, ExecutionProfile.value, bind_ok, exact_text_ok,
    isolation_of_ok, pure_ok, Json.string.injEq] at executed
  obtain ⟨_, _, sameBootstrap, _⟩ := booted
  obtain ⟨_, _, _, ⟨sameIsolation, _⟩, _, _, _, _, _, _, profile⟩ := executed
  have sameProfile : execution = written.execution := by
    rw [← profile, ← sameIsolation]
  rw [← made, validate_descriptor_kept ofRecord, validate_descriptor_kept ofHandoff,
    ((validate_source_written ..).mp ofSource).1, ((validate_context_written ..).mp ofContext).1,
    ((validate_producer_written ..).mp ofProducer).1, ← sameBootstrap, sameProfile]

end EvoomGuard.ReleaseChain
