import EvoomGuard.RemoteSigner.Framing

/-!
Operations that pass `validate_operation`, and what a request has to bring so that it is built.
-/

namespace EvoomGuard.RemoteSigner

open Lib Lib.Checks Lib.Framing

structure IdentityFacts (identity : OperationIdentity) : Prop where
  gate : Sha256.isHex64 identity.gateContractSha256 = true
  authorization : Sha256.isHex64 identity.authorizationReceiptSha256 = true
  role : rolePattern.accepts identity.authorityRole = true
  keyId : isKeyId identity.authorityKeyId = true
  domain : identity.signatureDomain = detachedSignatureSchema
  purpose : purposePattern.accepts identity.signaturePurpose = true
  supported : identity.signaturePurpose ∈ supportedSignaturePurposes
  round : identifierPattern.accepts identity.roundId = true
  slot : Sha256.isHex64 identity.slotId = true
  payload : Sha256.isHex64 identity.payloadSha256 = true
  size : 1 ≤ identity.payloadSizeBytes ∧ identity.payloadSizeBytes ≤ maxPayloadBytes

theorem detached_schema_accepted : domainPattern.accepts detachedSignatureSchema = true := by
  decide

variable (identity : OperationIdentity)

theorem identity_check_ok :
    identity.check = .ok () ↔ IdentityFacts identity := by
  have unfolded : identity.check = .ok () ↔
      Sha256.isHex64 identity.gateContractSha256 = true ∧
      Sha256.isHex64 identity.authorizationReceiptSha256 = true ∧
      rolePattern.accepts identity.authorityRole = true ∧
      isKeyId identity.authorityKeyId = true ∧
      domainPattern.accepts identity.signatureDomain = true ∧
      purposePattern.accepts identity.signaturePurpose = true ∧
      identity.signatureDomain = detachedSignatureSchema ∧
      identity.signaturePurpose ∈ supportedSignaturePurposes ∧
      identifierPattern.accepts identity.roundId = true ∧
      Sha256.isHex64 identity.slotId = true ∧ Sha256.isHex64 identity.payloadSha256 = true ∧
      1 ≤ identity.payloadSizeBytes ∧ identity.payloadSizeBytes ≤ maxPayloadBytes := by
    unfold OperationIdentity.check
    simp only [bind_ok, pure_ok, refuse_ok, require_sha256_ok, require_key_id_ok, require_text_ok,
      require_size_ok, Json.string.injEq, Json.int.injEq, exists_eq_left', exists_and_left,
      exists_const, not_not, and_assoc, Nat.cast_inj, and_true]
  rw [unfolded]
  constructor
  · intro checked
    rcases checked with ⟨gate, authorization, role, keyId, _, purpose, domain, supported, round,
      slot, payload, size⟩
    exact ⟨gate, authorization, role, keyId, domain, purpose, supported, round, slot, payload, size⟩
  · intro facts
    exact ⟨facts.gate, facts.authorization, facts.role, facts.keyId,
      facts.domain ▸ detached_schema_accepted, facts.purpose, facts.domain, facts.supported,
      facts.round, facts.slot, facts.payload, facts.size⟩

theorem derive_facts (operationId : Text)
    (derived : deriveOperationId identity = .ok operationId) :
    IdentityFacts identity ∧ Sha256.isHex64 operationId = true := by
  unfold deriveOperationId operationIdMessage at derived
  cases checked : identity.check with
  | error problem =>
    rw [checked] at derived
    cases derived
  | ok done =>
    apply And.intro ((identity_check_ok identity).mp checked)
    rw [checked] at derived
    cases framed : frameMessage operationIdMagic identity.framedFields with
    | error problem =>
      rw [framed] at derived
      cases derived
    | ok message =>
      rw [framed] at derived
      simp only [Except.ok.injEq] at derived
      rw [← derived]
      exact Sha256.hexdigest_bytes_is_hex message

theorem digest_short (text : Text) (hex : Sha256.isHex64 text = true) :
    (fromHex text).length < 2 ^ 64 := by
  rw [from_hex_length, (hex64_facts text hex).1]
  decide

theorem ascii_short (text : Text) (limit : Nat) (bounded : text.length ≤ limit)
    (small : limit < 2 ^ 64) : (asciiBytes text).length < 2 ^ 64 := by
  rw [ascii_bytes_length]
  omega

theorem u64_short (value : Nat) : (u64 value).length < 2 ^ 64 := by
  rw [u64, big_endian_length]
  decide

theorem identity_framable (facts : IdentityFacts identity) :
    ∀ field ∈ identity.framedFields, Framable field := by
  simp only [OperationIdentity.framedFields, List.forall_mem_cons, List.not_mem_nil,
    false_implies, implies_true, and_true]
  have domain : identity.signatureDomain.length ≤ 192 := by
    rw [facts.domain]
    decide
  exact ⟨framable_of_name _ (by decide) _ (digest_short _ facts.gate),
    framable_of_name _ (by decide) _ (digest_short _ facts.authorization),
    framable_of_name _ (by decide) _
      (ascii_short _ 64 (role_facts _ facts.role).2 (by decide)),
    framable_of_name _ (by decide) _
      (ascii_short _ 71 (Nat.le_of_eq (key_id_facts _ facts.keyId).2) (by decide)),
    framable_of_name _ (by decide) _ (ascii_short _ 192 domain (by decide)),
    framable_of_name _ (by decide) _
      (ascii_short _ 128 (purpose_facts _ facts.purpose).2 (by decide)),
    framable_of_name _ (by decide) _
      (ascii_short _ 64 (identifier_facts _ facts.round).2 (by decide)),
    framable_of_name _ (by decide) _ (by decide),
    framable_of_name _ (by decide) _ (digest_short _ facts.slot),
    framable_of_name _ (by decide) _ (digest_short _ facts.payload),
    framable_of_name _ (by decide) _ (u64_short _)⟩

theorem derive_of_facts (facts : IdentityFacts identity) :
    ∃ operationId, deriveOperationId identity = .ok operationId := by
  have framed := frame_message_ok operationIdMagic (by simp [signerMagics]) _
    (identity_framable identity facts)
  unfold deriveOperationId operationIdMessage
  rw [(identity_check_ok identity).mpr facts]
  simp only
  rw [framed]
  exact ⟨_, rfl⟩

section

variable (host : Host)

structure OperationFacts (get : OperationKey → Json) (parts : OperationParts) : Prop where
  schema : get .schemaVersion = .string operationSchema
  fieldClaim : get .fieldClaimAuthorized = .bool false
  runtimeGate : get .runtimeGateComplete = .bool false
  nonForking : get .nonForkingProven = .bool false
  operationId : get .operationId = .string parts.operationId
  gate : get .gateContractSha256 = .string parts.identity.gateContractSha256
  authorization : get .authorizationReceiptSha256 =
    .string parts.identity.authorizationReceiptSha256
  role : get .authorityRole = .string parts.identity.authorityRole
  keyId : get .authorityKeyId = .string parts.identity.authorityKeyId
  domain : get .signatureDomain = .string parts.identity.signatureDomain
  purpose : get .signaturePurpose = .string parts.identity.signaturePurpose
  round : get .roundId = .string parts.identity.roundId
  slot : get .slotId = .string parts.identity.slotId
  payload : get .payloadSha256 = .string parts.identity.payloadSha256
  size : get .payloadSizeBytes = .int parts.identity.payloadSizeBytes
  receiptBytes : decodeCanonicalBase64 "authorization_receipt_canonical_base64"
    maxAuthorizationReceiptBytes (get .authorizationReceiptCanonicalBase64) =
      .ok parts.authorizationBytes
  payloadBytes : decodeCanonicalBase64 "payload_canonical_base64" maxPayloadBytes
    (get .payloadCanonicalBase64) = .ok parts.payloadBytes
  receiptParsed : ∃ fields, parseCanonicalObject host "authorization receipt"
    maxAuthorizationReceiptBytes parts.authorizationBytes = .ok fields
  payloadParsed : ∃ fields, parseCanonicalObject host "signature payload" maxPayloadBytes
    parts.payloadBytes = .ok fields
  receiptDigest : sha256Hex parts.authorizationBytes = parts.identity.authorizationReceiptSha256
  payloadDigest : sha256Hex parts.payloadBytes = parts.identity.payloadSha256
  payloadSize : parts.payloadBytes.length = parts.identity.payloadSizeBytes
  derived : deriveOperationId parts.identity = .ok parts.operationId

theorem is_text_iff (expected : Text) (value : Json) :
    isText expected value = true ↔ value = .string expected := by
  cases value with
  | string text | _ => simp [isText]

theorem is_false_iff (value : Json) : isFalse value = true ↔ value = .bool false := by
  cases value with
  | bool flag => cases flag <;> simp [isFalse]
  | _ => simp [isFalse]

theorem check_operation_facts (get : OperationKey → Json) (parts : OperationParts)
    (checked : checkOperation host get = .ok parts) : OperationFacts host get parts := by
  unfold checkOperation at checked
  simp only [bind_ok, pure_ok, refuse_ok, require_sha256_ok, require_key_id_ok, require_text_ok,
    require_size_ok, Bool.not_eq_false, Bool.and_eq_true, is_text_iff, is_false_iff, not_not,
    not_or] at checked
  rcases checked with ⟨_, schema, _, ⟨⟨fieldClaim, runtimeGate⟩, nonForking⟩, operationId,
    ⟨idValue, _⟩, gate, ⟨gateValue, _⟩, authorization, ⟨authorizationValue, _⟩, role,
    ⟨roleValue, _⟩, keyId, ⟨keyIdValue, _⟩, domain, ⟨domainValue, _⟩, purpose, ⟨purposeValue, _⟩,
    _, _, _, _, round, ⟨roundValue, _⟩, slot, ⟨slotValue, _⟩, payload, ⟨payloadValue, _⟩, size,
    ⟨sizeValue, _⟩, receiptBytes, receiptDecoded, payloadBytes, payloadDecoded, receiptFields,
    receiptParsed, payloadFields, payloadParsed, _, bindings, expected, derived, _, same, made⟩
  subst made
  subst same
  exact ⟨schema, fieldClaim, runtimeGate, nonForking, idValue, gateValue, authorizationValue,
    roleValue, keyIdValue, domainValue, purposeValue, roundValue, slotValue, payloadValue,
    sizeValue, receiptDecoded, payloadDecoded, ⟨receiptFields, receiptParsed⟩,
    ⟨payloadFields, payloadParsed⟩, bindings.1, bindings.2.1, bindings.2.2, derived⟩

theorem check_operation_of_facts (get : OperationKey → Json) (parts : OperationParts)
    (facts : OperationFacts host get parts) : checkOperation host get = .ok parts := by
  have identity := derive_facts parts.identity parts.operationId facts.derived
  rcases facts.receiptParsed with ⟨receiptFields, receiptParsed⟩
  rcases facts.payloadParsed with ⟨payloadFields, payloadParsed⟩
  unfold checkOperation
  simp only [bind_ok, pure_ok, refuse_ok, require_sha256_ok, require_key_id_ok, require_text_ok,
    require_size_ok, Bool.not_eq_false, Bool.and_eq_true, is_text_iff, is_false_iff, not_not,
    not_or]
  exact ⟨(), facts.schema, (), ⟨⟨facts.fieldClaim, facts.runtimeGate⟩, facts.nonForking⟩,
    parts.operationId, ⟨facts.operationId, identity.2⟩,
    parts.identity.gateContractSha256, ⟨facts.gate, identity.1.gate⟩,
    parts.identity.authorizationReceiptSha256, ⟨facts.authorization, identity.1.authorization⟩,
    parts.identity.authorityRole, ⟨facts.role, identity.1.role⟩,
    parts.identity.authorityKeyId, ⟨facts.keyId, identity.1.keyId⟩,
    parts.identity.signatureDomain,
    ⟨facts.domain, identity.1.domain ▸ detached_schema_accepted⟩,
    parts.identity.signaturePurpose, ⟨facts.purpose, identity.1.purpose⟩,
    (), identity.1.domain, (), identity.1.supported,
    parts.identity.roundId, ⟨facts.round, identity.1.round⟩,
    parts.identity.slotId, ⟨facts.slot, identity.1.slot⟩,
    parts.identity.payloadSha256, ⟨facts.payload, identity.1.payload⟩,
    parts.identity.payloadSizeBytes, ⟨facts.size, identity.1.size⟩,
    parts.authorizationBytes, facts.receiptBytes, parts.payloadBytes, facts.payloadBytes,
    receiptFields, receiptParsed, payloadFields, payloadParsed,
    (), ⟨facts.receiptDigest, facts.payloadDigest, facts.payloadSize⟩,
    parts.operationId, facts.derived, (), rfl, rfl⟩

end

end EvoomGuard.RemoteSigner
