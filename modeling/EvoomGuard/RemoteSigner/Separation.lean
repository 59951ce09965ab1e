import EvoomGuard.RemoteSigner.Messages
import EvoomGuard.RemoteSigner.OperationRoundTrip

/-!
Two signer messages with the same bytes are of the same kind and agree in every framed field.
-/

namespace EvoomGuard.RemoteSigner

open Lib Lib.Checks Lib.Framing

theorem u64_injective (left right limit : Nat) (small : limit < 2 ^ 64) (leftFits : left ≤ limit)
    (rightFits : right ≤ limit) (same : u64 left = u64 right) : left = right := by
  apply big_endian_faithful 8 left right _ _ same
  · exact Nat.lt_of_le_of_lt leftFits small
  · exact Nat.lt_of_le_of_lt rightFits small

theorem identity_fields_injective (left right : OperationIdentity) (leftFacts : IdentityFacts left)
    (rightFacts : IdentityFacts right) (same : left.framedFields = right.framedFields) :
    left = right := by
  simp only [OperationIdentity.framedFields, List.cons.injEq, Prod.mk.injEq, true_and,
    and_true] at same
  rcases same with ⟨gate, authorization, role, keyId, _, purpose, round, slot, payload, size⟩
  have limit : maxPayloadBytes < 2 ^ 64 := by decide
  have gates := digest_bytes_injective _ _ leftFacts.gate rightFacts.gate gate
  have receipts :=
    digest_bytes_injective _ _ leftFacts.authorization rightFacts.authorization authorization
  have roles := ascii_bytes_injective _ _ (role_facts _ leftFacts.role).1
    (role_facts _ rightFacts.role).1 role
  have keys := ascii_bytes_injective _ _ (key_id_facts _ leftFacts.keyId).1
    (key_id_facts _ rightFacts.keyId).1 keyId
  have domains : left.signatureDomain = right.signatureDomain := by
    rw [leftFacts.domain, rightFacts.domain]
  have purposes := ascii_bytes_injective _ _ (purpose_facts _ leftFacts.purpose).1
    (purpose_facts _ rightFacts.purpose).1 purpose
  have rounds := ascii_bytes_injective _ _ (identifier_facts _ leftFacts.round).1
    (identifier_facts _ rightFacts.round).1 round
  have slots := digest_bytes_injective _ _ leftFacts.slot rightFacts.slot slot
  have payloads := digest_bytes_injective _ _ leftFacts.payload rightFacts.payload payload
  have sizes := u64_injective _ _ _ limit leftFacts.size.2 rightFacts.size.2 size
  cases left
  cases right
  simp only at gates receipts roles keys domains purposes rounds slots payloads sizes
  subst gates receipts roles keys domains purposes rounds slots payloads sizes
  rfl

theorem operation_id_message_ok (identity : OperationIdentity) (message : Bytes)
    (made : operationIdMessage identity = .ok message) :
    IdentityFacts identity ∧ frameMessage operationIdMagic identity.framedFields = .ok message := by
  unfold operationIdMessage at made
  cases checked : identity.check with
  | error problem =>
    rw [checked] at made
    cases made
  | ok done =>
    rw [checked] at made
    exact ⟨(identity_check_ok identity).mp checked, made⟩

theorem detached_framable (roundId purpose : Text) (payload : Bytes)
    (round : identifierPattern.accepts roundId = true)
    (known : purposePattern.accepts purpose = true) (short : payload.length ≤ maxPayloadBytes) :
    ∀ field ∈ detachedFields roundId purpose payload, Framable field := by
  have limit : maxPayloadBytes < 2 ^ 64 := by decide
  simp only [detachedFields, List.forall_mem_cons, List.not_mem_nil, false_implies, implies_true,
    and_true]
  exact ⟨framable_of_name _ (by decide) _
      (ascii_short _ 64 (identifier_facts _ round).2 (by decide)),
    framable_of_name _ (by decide) _
      (ascii_short _ 128 (purpose_facts _ known).2 (by decide)),
    framable_of_name _ (by decide) _ (Nat.lt_of_le_of_lt short limit)⟩

theorem receipt_framable (payload : Bytes) (short : payload.length ≤ maxReceiptBytes) :
    ∀ field ∈ receiptFields payload, Framable field := by
  have limit : maxReceiptBytes < 2 ^ 64 := by decide
  simp only [receiptFields, List.forall_mem_cons, List.not_mem_nil, false_implies, implies_true,
    and_true]
  exact ⟨framable_of_name _ (by decide) _ (by decide),
    framable_of_name _ (by decide) _ (by decide),
    framable_of_name _ (by decide) _ (Nat.lt_of_le_of_lt short limit)⟩

theorem projection_short (host : Host) (projection : List (Text × Json)) (payload : Bytes)
    (made : projectionBytes host projection = .ok payload) : payload.length ≤ maxReceiptBytes := by
  unfold projectionBytes at made
  simp only [bind_ok, pure_ok, refuse_ok] at made
  rcases made with ⟨_, _, _, _, _, _, bytes, _, _, short, same⟩
  subst same
  exact Nat.not_lt.mp short

structure FramedRequestFacts (request : FramedRequest) : Prop where
  method : request.method = Method.post.text ∨ request.method = Method.get.text
  path : isAscii request.path = true ∧ request.path.length ≤ maxPathBytes
  service : Sha256.isHex64 request.signerServiceIdentitySha256 = true
  operation : Sha256.isHex64 request.operationId = true
  requester : isKeyId request.requesterKeyId = true
  size : request.bodySize ≤ maxOperationBytes
  body : Sha256.isHex64 request.bodySha256 = true

theorem request_check_ok (request : SignerRequest) (checked : request.check = .ok ()) :
    FramedRequestFacts request.framed := by
  unfold SignerRequest.check at checked
  simp only [bind_ok, pure_ok, refuse_ok, require_sha256_ok, require_key_id_ok, Json.string.injEq,
    Bool.not_eq_false] at checked
  rcases checked with ⟨_, method, _, ascii, _, path, _, body, _, _, _, _, _, ⟨service, serviceHex⟩,
    _, ⟨operation, operationHex⟩, _, ⟨requester, requesterKnown⟩, _⟩
  subst service operation requester
  simp only [isOriginPath, Bool.and_eq_true, decide_eq_true_iff] at path
  constructor
  · rw [not_and_or, not_not, not_not] at method
    exact method
  · exact ⟨ascii, path.1.1.2⟩
  · exact serviceHex
  · exact operationHex
  · exact requesterKnown
  · exact Nat.not_lt.mp body
  · exact Sha256.hexdigest_bytes_is_hex request.body

theorem method_facts (method : Text)
    (known : method = Method.post.text ∨ method = Method.get.text) :
    isAscii method = true ∧ method.length ≤ 4 := by
  rcases known with post | get
  · rw [post]
    decide
  · rw [get]
    decide

theorem request_framable (request : FramedRequest) (facts : FramedRequestFacts request) :
    ∀ field ∈ request.fields, Framable field := by
  have limit : maxPathBytes < 2 ^ 64 := by decide
  simp only [FramedRequest.fields, List.forall_mem_cons, List.not_mem_nil, false_implies,
    implies_true, and_true]
  exact ⟨framable_of_name _ (by decide) _ (by decide),
    framable_of_name _ (by decide) _
      (ascii_short _ 4 (method_facts _ facts.method).2 (by decide)),
    framable_of_name _ (by decide) _ (ascii_short _ _ facts.path.2 limit),
    framable_of_name _ (by decide) _ (digest_short _ facts.service),
    framable_of_name _ (by decide) _ (digest_short _ facts.operation),
    framable_of_name _ (by decide) _
      (ascii_short _ 71 (Nat.le_of_eq (key_id_facts _ facts.requester).2) (by decide)),
    framable_of_name _ (by decide) _ (u64_short _),
    framable_of_name _ (by decide) _ (digest_short _ facts.body)⟩

theorem request_fields_injective (left right : FramedRequest)
    (leftFacts : FramedRequestFacts left) (rightFacts : FramedRequestFacts right)
    (same : left.fields = right.fields) : left = right := by
  simp only [FramedRequest.fields, List.cons.injEq, Prod.mk.injEq, true_and, and_true] at same
  rcases same with ⟨method, path, service, operation, requester, size, body⟩
  have limit : maxOperationBytes < 2 ^ 64 := by decide
  have methods := ascii_bytes_injective _ _ (method_facts _ leftFacts.method).1
    (method_facts _ rightFacts.method).1 method
  have paths := ascii_bytes_injective _ _ leftFacts.path.1 rightFacts.path.1 path
  have services := digest_bytes_injective _ _ leftFacts.service rightFacts.service service
  have operations := digest_bytes_injective _ _ leftFacts.operation rightFacts.operation operation
  have requesters := ascii_bytes_injective _ _ (key_id_facts _ leftFacts.requester).1
    (key_id_facts _ rightFacts.requester).1 requester
  have sizes := u64_injective _ _ _ limit leftFacts.size rightFacts.size size
  have bodies := digest_bytes_injective _ _ leftFacts.body rightFacts.body body
  cases left
  cases right
  simp only at methods paths services operations requesters sizes bodies
  subst methods paths services operations requesters sizes bodies
  rfl

/-- A message as its framed fields describe it. -/
inductive SignerMessage where
  | operationId (identity : OperationIdentity)
  | detached (roundId purpose : Text) (payload : Bytes)
  | receipt (projection : Bytes)
  | request (framed : FramedRequest)
  deriving DecidableEq

namespace SignerMessage

def magic : SignerMessage → Bytes
  | operationId _ => operationIdMagic
  | detached _ _ _ => detachedSignatureMagic
  | receipt _ => signerReceiptSignatureMagic
  | request _ => requestAuthenticationMagic

def fields : SignerMessage → List (Text × Bytes)
  | operationId identity => identity.framedFields
  | detached roundId purpose payload => detachedFields roundId purpose payload
  | receipt projection => receiptFields projection
  | request framed => framed.fields

/-- The client accepts a value with these fields and hashes or signs these bytes. -/
def IsSigned (host : Host) (message : Bytes) : SignerMessage → Prop
  | operationId identity => operationIdMessage identity = .ok message
  | detached roundId purpose payload => ∃ raw operation parts,
      parseOperationBytes host raw = .ok (operation, parts) ∧
        operationPayloadBytes operation = .ok payload ∧ parts.identity.roundId = roundId ∧
          parts.identity.signaturePurpose = purpose ∧ signatureMessage host raw = .ok message
  | receipt projection => ∃ value, projectionBytes host value = .ok projection ∧
      signerReceiptSignatureMessage host value = .ok message
  | request framed => ∃ value : SignerRequest, value.framed = framed ∧
      requestSignatureMessage value = .ok message

/-- What the checks before the framing leave. -/
def Checked : SignerMessage → Prop
  | operationId identity => IdentityFacts identity
  | detached roundId purpose payload => identifierPattern.accepts roundId = true ∧
      purposePattern.accepts purpose = true ∧ payload.length ≤ maxPayloadBytes
  | receipt projection => projection.length ≤ maxReceiptBytes
  | request framed => FramedRequestFacts framed

theorem magic_mem (message : SignerMessage) : message.magic ∈ signerMagics := by
  cases message <;> simp [magic, signerMagics]

theorem checked_framable (message : SignerMessage) (checked : message.Checked) :
    ∀ field ∈ message.fields, Framable field := by
  cases message with
  | operationId identity => exact identity_framable identity checked
  | detached roundId purpose payload =>
    exact detached_framable roundId purpose payload checked.1 checked.2.1 checked.2.2
  | receipt projection => exact receipt_framable projection checked
  | request framed => exact request_framable framed checked

theorem signed_is_framed (host : Host) (bytes : Bytes) (message : SignerMessage)
    (signed : message.IsSigned host bytes) :
    message.Checked ∧ frameMessage message.magic message.fields = .ok bytes := by
  cases message with
  | operationId identity => exact operation_id_message_ok identity bytes signed
  | detached roundId purpose payload =>
    rcases signed with ⟨raw, operation, parts, parsed, decoded, round, known, made⟩
    have facts := (parse_operation_ok host raw operation parts parsed).1
    have identity := (derive_facts _ _ facts.derived).1
    have short := ((decode_canonical_ok ..).mp decoded).2.2
    subst round known
    unfold signatureMessage at made
    rw [parsed] at made
    simp only [bind_ok, Except.ok.injEq, exists_eq_left', decoded] at made
    exact ⟨⟨identity.round, identity.purpose, short⟩, made⟩
  | receipt projection =>
    rcases signed with ⟨value, written, made⟩
    unfold signerReceiptSignatureMessage at made
    rw [written] at made
    exact ⟨projection_short host value projection written, made⟩
  | request framed =>
    rcases signed with ⟨value, same, made⟩
    subst same
    unfold requestSignatureMessage at made
    cases checked : value.check with
    | error problem =>
      rw [checked] at made
      cases made
    | ok done =>
      rw [checked] at made
      exact ⟨request_check_ok value checked, made⟩

theorem magics_differ : operationIdMagic ≠ detachedSignatureMagic ∧
    operationIdMagic ≠ signerReceiptSignatureMagic ∧
    operationIdMagic ≠ requestAuthenticationMagic ∧
    detachedSignatureMagic ≠ signerReceiptSignatureMagic ∧
    detachedSignatureMagic ≠ requestAuthenticationMagic ∧
    signerReceiptSignatureMagic ≠ requestAuthenticationMagic := by
  decide

theorem determined_by_fields (left right : SignerMessage) (leftChecked : left.Checked)
    (rightChecked : right.Checked) (sameMagic : left.magic = right.magic)
    (sameFields : left.fields = right.fields) : left = right := by
  have differ := magics_differ
  cases left with
  | operationId identity =>
    cases right with
    | operationId other =>
      rw [identity_fields_injective identity other leftChecked rightChecked sameFields]
    | detached _ _ _ => exact absurd sameMagic differ.1
    | receipt _ => exact absurd sameMagic differ.2.1
    | request _ => exact absurd sameMagic differ.2.2.1
  | detached roundId purpose payload =>
    cases right with
    | operationId _ => exact absurd sameMagic.symm differ.1
    | detached otherRound otherPurpose otherPayload =>
      simp only [fields, detachedFields, List.cons.injEq, Prod.mk.injEq, true_and,
        and_true] at sameFields
      rw [ascii_bytes_injective _ _ (identifier_facts _ leftChecked.1).1
          (identifier_facts _ rightChecked.1).1 sameFields.1,
        ascii_bytes_injective _ _ (purpose_facts _ leftChecked.2.1).1
          (purpose_facts _ rightChecked.2.1).1 sameFields.2.1, sameFields.2.2]
    | receipt _ => exact absurd sameMagic differ.2.2.2.1
    | request _ => exact absurd sameMagic differ.2.2.2.2.1
  | receipt projection =>
    cases right with
    | operationId _ => exact absurd sameMagic.symm differ.2.1
    | detached _ _ _ => exact absurd sameMagic.symm differ.2.2.2.1
    | receipt other =>
      simp only [fields, receiptFields, List.cons.injEq, Prod.mk.injEq, true_and,
        and_true] at sameFields
      rw [sameFields]
    | request _ => exact absurd sameMagic differ.2.2.2.2.2
  | request framed =>
    cases right with
    | operationId _ => exact absurd sameMagic.symm differ.2.2.1
    | detached _ _ _ => exact absurd sameMagic.symm differ.2.2.2.2.1
    | receipt _ => exact absurd sameMagic.symm differ.2.2.2.2.2
    | request other =>
      rw [request_fields_injective framed other leftChecked rightChecked sameFields]

end SignerMessage

/-- Frames under the four magics are unambiguous, and so is what the client hashes and signs. -/
theorem signed_messages_are_separated (host : Host) :
    (∀ (left right : Bytes) (lefts rights : List (Text × Bytes)), left ∈ signerMagics →
      right ∈ signerMagics → (∀ field ∈ lefts, Framable field) →
      (∀ field ∈ rights, Framable field) →
      frameMessage left lefts = frameMessage right rights → left = right ∧ lefts = rights) ∧
    (∀ (bytes : Bytes) (left right : SignerMessage), left.IsSigned host bytes →
      right.IsSigned host bytes → left = right) := by
  constructor
  · intro left right lefts rights leftMagic rightMagic leftValid rightValid same
    exact frame_message_injective left right leftMagic rightMagic lefts rights leftValid rightValid
      same
  · intro bytes left right leftSigned rightSigned
    have leftFramed := SignerMessage.signed_is_framed host bytes left leftSigned
    have rightFramed := SignerMessage.signed_is_framed host bytes right rightSigned
    have parts := frame_message_injective _ _ left.magic_mem right.magic_mem _ _
      (left.checked_framable leftFramed.1) (right.checked_framable rightFramed.1)
      (leftFramed.2.trans rightFramed.2.symm)
    exact left.determined_by_fields right leftFramed.1 rightFramed.1 parts.1 parts.2

def statusRequest : SignerRequest where
  method := "GET"
  path := "/operations"
  signerServiceIdentitySha256 := List.replicate 64 '0'
  operationId := List.replicate 64 'a'
  body := []
  requesterKeyId := "sha256:" ++ List.replicate 64 '0'

/-- A request that is signed, with fields that are framed; no other message has its bytes. -/
theorem status_request_separated :
    (∀ field ∈ statusRequest.framed.fields, Framable field) ∧
    ∀ host : Host, ∃ bytes, (SignerMessage.request statusRequest.framed).IsSigned host bytes ∧
      ∀ other : SignerMessage, other.IsSigned host bytes →
        other = .request statusRequest.framed := by
  have checked : statusRequest.check = .ok () := rfl
  have framable := request_framable _ (request_check_ok statusRequest checked)
  have framed := frame_message_ok requestAuthenticationMagic (by simp [signerMagics]) _ framable
  refine ⟨framable, fun host => ?_⟩
  have signed : (SignerMessage.request statusRequest.framed).IsSigned host _ :=
    ⟨statusRequest, rfl, by rw [requestSignatureMessage, checked]; exact framed⟩
  exact ⟨_, signed, fun other same =>
    (signed_messages_are_separated host).2 _ other _ same signed⟩

end EvoomGuard.RemoteSigner
