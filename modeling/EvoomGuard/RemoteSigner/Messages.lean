import EvoomGuard.RemoteSigner.Framing

/-!
The messages the signer contract hashes or signs: the operation ID, the detached signature, the
receipt projection and the authenticated request. Two of them with the same bytes agree in every
framed field.
-/

namespace EvoomGuard.RemoteSigner

open Lib Lib.Checks Lib.Framing

def maxReceiptBytes : Nat := 64 * 1024
def maxPathBytes : Nat := 2048

section Messages

variable (host : Host)

def detachedFields (roundId purpose : Text) (payload : Bytes) : List (Text × Bytes) :=
  [("round_id", asciiBytes roundId), ("purpose", asciiBytes purpose),
    ("canonical_json", payload)]

def signatureMessage (operationBytes : Bytes) : Except SignerProtocolError Bytes := do
  let (fields, parts) ← parseOperationBytes host operationBytes
  let payload ← operationPayloadBytes fields
  frameMessage detachedSignatureMagic
    (detachedFields parts.identity.roundId parts.identity.signaturePurpose payload)

inductive ReceiptKey where
  | schemaVersion
  | operationId
  | requestSha256
  | gateContractSha256
  | authorizationReceiptSha256
  | signerServiceIdentitySha256
  | signerReceiptKeyId
  | authenticatedRequesterIdentitySha256
  | authorityRole
  | authorityKeyId
  | signatureDomain
  | signaturePurpose
  | roundId
  | slotId
  | payloadSha256
  | payloadSizeBytes
  | signatureMessageSha256
  | authoritySignature
  | serviceAuthentication
  | fieldClaimAuthorized
  | runtimeGateComplete
  | nonForkingProven
  deriving DecidableEq, Repr

namespace ReceiptKey

def label : ReceiptKey → String
  | schemaVersion => "schema_version"
  | operationId => "operation_id"
  | requestSha256 => "request_sha256"
  | gateContractSha256 => "gate_contract_sha256"
  | authorizationReceiptSha256 => "authorization_receipt_sha256"
  | signerServiceIdentitySha256 => "signer_service_identity_sha256"
  | signerReceiptKeyId => "signer_receipt_key_id"
  | authenticatedRequesterIdentitySha256 => "authenticated_requester_identity_sha256"
  | authorityRole => "authority_role"
  | authorityKeyId => "authority_key_id"
  | signatureDomain => "signature_domain"
  | signaturePurpose => "signature_purpose"
  | roundId => "round_id"
  | slotId => "slot_id"
  | payloadSha256 => "payload_sha256"
  | payloadSizeBytes => "payload_size_bytes"
  | signatureMessageSha256 => "signature_message_sha256"
  | authoritySignature => "authority_signature"
  | serviceAuthentication => "service_authentication"
  | fieldClaimAuthorized => "field_claim_authorized"
  | runtimeGateComplete => "runtime_gate_complete"
  | nonForkingProven => "non_forking_proven"

/-- `RECEIPT_PROJECTION_KEYS`. -/
def projected : List ReceiptKey :=
  [schemaVersion, operationId, requestSha256, gateContractSha256, authorizationReceiptSha256,
    signerServiceIdentitySha256, signerReceiptKeyId, authenticatedRequesterIdentitySha256,
    authorityRole, authorityKeyId, signatureDomain, signaturePurpose, roundId, slotId,
    payloadSha256, payloadSizeBytes, signatureMessageSha256, authoritySignature,
    fieldClaimAuthorized, runtimeGateComplete, nonForkingProven]

/-- The digests a receipt checks first, in their order. -/
def digests : List ReceiptKey :=
  [operationId, requestSha256, gateContractSha256, authorizationReceiptSha256,
    signerServiceIdentitySha256, authenticatedRequesterIdentitySha256, payloadSha256,
    signatureMessageSha256]

end ReceiptKey

def receiptSchema : Text := "evoom-guard/runtime-signer-receipt/v1"

def receiptGet (fields : List (Text × Json)) (key : ReceiptKey) : Json :=
  (fields.lookup key.label.toList).getD .null

def signatureRecordKeys : List Text :=
  ["algorithm", "key_id", "signature_encoding", "signature"]

def fieldOf (fields : List (Text × Json)) (name : Text) : Json := (fields.lookup name).getD .null

def validateSignatureRecord (label : String) (expectedKeyId : Text) :
    Json → Except SignerProtocolError Bytes
  | .object fields => do
      refuse (hasExactly signatureRecordKeys fields = false) (.signatureRecord label)
      refuse ((isText "Ed25519" (fieldOf fields "algorithm") &&
        isText expectedKeyId (fieldOf fields "key_id") &&
          isText "base64" (fieldOf fields "signature_encoding")) = false)
        (.signatureFields label)
      let signature ← decodeCanonicalBase64 (label ++ " signature") 64
        (fieldOf fields "signature")
      refuse (signature.length ≠ 64) (.signatureLength label)
      return signature
  | _ => .error (.signatureRecord label)

def requireDigests (fields : List (Text × Json)) :
    List ReceiptKey → Except SignerProtocolError Unit
  | [] => .ok ()
  | key :: rest =>
    match requireSha256 key.label (receiptGet fields key) with
    | .error problem => .error problem
    | .ok _ => requireDigests fields rest

def validateReceipt (fields : List (Text × Json)) : Except SignerProtocolError Unit := do
  refuse (hasExactly ((ReceiptKey.serviceAuthentication :: ReceiptKey.projected).map
    fun key => key.label.toList) fields = false) .receiptSchema
  refuse (isText receiptSchema (receiptGet fields .schemaVersion) = false) .receiptVersion
  refuse ((isFalse (receiptGet fields .fieldClaimAuthorized) &&
    isFalse (receiptGet fields .runtimeGateComplete) &&
      isFalse (receiptGet fields .nonForkingProven)) = false) (.nonclaims "runtime signer receipt")
  requireDigests fields ReceiptKey.digests
  let _ ← requireText "authority_role" rolePattern (receiptGet fields .authorityRole)
  let authorityKeyId ← requireKeyId "authority_key_id" (receiptGet fields .authorityKeyId)
  let receiptKeyId ← requireKeyId "signer_receipt_key_id" (receiptGet fields .signerReceiptKeyId)
  refuse (receiptKeyId = authorityKeyId) .receiptKeyIds
  let _ ← requireText "signature_domain" domainPattern (receiptGet fields .signatureDomain)
  let _ ← requireText "signature_purpose" purposePattern (receiptGet fields .signaturePurpose)
  let _ ← requireText "round_id" identifierPattern (receiptGet fields .roundId)
  let _ ← requireSha256 "slot_id" (receiptGet fields .slotId)
  let _ ← requireSize "payload_size_bytes" maxPayloadBytes (receiptGet fields .payloadSizeBytes)
  let _ ← validateSignatureRecord "runtime signer authority signature" authorityKeyId
    (receiptGet fields .authoritySignature)
  let _ ← validateSignatureRecord "runtime signer service authentication" receiptKeyId
    (receiptGet fields .serviceAuthentication)
  let encoded ← canonicalJsonBytes host (.object fields)
  refuse (maxReceiptBytes < encoded.length) .oversizedReceipt

/-- The placeholder under which a projection is validated. -/
def emptyAuthentication (receiptKeyId : Text) : Json :=
  .object [("algorithm", .string "Ed25519"), ("key_id", .string receiptKeyId),
    ("signature_encoding", .string "base64"),
    ("signature", .string (Base64.encode (List.replicate 64 0)))]

def receiptFields (payload : Bytes) : List (Text × Bytes) :=
  [("domain", asciiBytes receiptSchema),
    ("purpose", asciiBytes "attest-runtime-signature-operation"),
    ("canonical_json", payload)]

/-- The canonical JSON of an accepted projection. -/
def projectionBytes (projection : List (Text × Json)) : Except SignerProtocolError Bytes := do
  refuse (hasExactly (ReceiptKey.projected.map fun key => key.label.toList) projection = false)
    .projectionSchema
  let receiptKeyId ← requireKeyId "signer_receipt_key_id"
    (receiptGet projection .signerReceiptKeyId)
  validateReceipt host (projection ++
    [(ReceiptKey.serviceAuthentication.label.toList, emptyAuthentication receiptKeyId)])
  let payload ← canonicalJsonBytes host (.object projection)
  refuse (maxReceiptBytes < payload.length) .oversizedProjection
  return payload

def signerReceiptSignatureMessage (projection : List (Text × Json)) :
    Except SignerProtocolError Bytes := do
  let payload ← projectionBytes host projection
  frameMessage signerReceiptSignatureMagic (receiptFields payload)

end Messages

inductive Method where
  | post
  | get
  deriving DecidableEq, Repr

def Method.text : Method → Text
  | .post => "POST"
  | .get => "GET"

structure SignerRequest where
  method : Text
  path : Text
  signerServiceIdentitySha256 : Text
  operationId : Text
  body : Bytes
  requesterKeyId : Text

def requestAuthenticationSchema : Text := "evoom-guard/signer-request-authentication/v1"

def isOriginPath (path : Text) : Bool :=
  !path.isEmpty && decide (path.length ≤ maxPathBytes) && Text.startsWith path ['/'] &&
    path.all fun character => !(['?', '#', '\x00', '\r', '\n'].contains character)

structure FramedRequest where
  method : Text
  path : Text
  signerServiceIdentitySha256 : Text
  operationId : Text
  requesterKeyId : Text
  bodySize : Nat
  bodySha256 : Text
  deriving DecidableEq

def SignerRequest.framed (request : SignerRequest) : FramedRequest where
  method := request.method
  path := request.path
  signerServiceIdentitySha256 := request.signerServiceIdentitySha256
  operationId := request.operationId
  requesterKeyId := request.requesterKeyId
  bodySize := request.body.length
  bodySha256 := sha256Hex request.body

def FramedRequest.fields (request : FramedRequest) : List (Text × Bytes) :=
  [("domain", asciiBytes requestAuthenticationSchema),
    ("method", asciiBytes request.method),
    ("path", asciiBytes request.path),
    ("signer_service_identity_sha256", fromHex request.signerServiceIdentitySha256),
    ("operation_id", fromHex request.operationId),
    ("requester_key_id", asciiBytes request.requesterKeyId),
    ("body_size_bytes", u64 request.bodySize),
    ("body_sha256", fromHex request.bodySha256)]

def SignerRequest.check (request : SignerRequest) : Except SignerProtocolError Unit := do
  refuse (request.method ≠ Method.post.text ∧ request.method ≠ Method.get.text) .requestMethod
  refuse (isAscii request.path = false) .requestPathText
  refuse (isOriginPath request.path = false) .requestPath
  refuse (maxOperationBytes < request.body.length) .requestBody
  refuse (request.method = Method.post.text ∧ request.body = []) .emptyPostBody
  refuse (request.method = Method.get.text ∧ request.body ≠ []) .getBody
  let _ ← requireSha256 "signer_service_identity_sha256" (.string request.signerServiceIdentitySha256)
  let _ ← requireSha256 "operation_id" (.string request.operationId)
  let _ ← requireKeyId "requester_key_id" (.string request.requesterKeyId)
  return ()

def requestSignatureMessage (request : SignerRequest) : Except SignerProtocolError Bytes :=
  match request.check with
  | .error problem => .error problem
  | .ok () => frameMessage requestAuthenticationMagic request.framed.fields

end EvoomGuard.RemoteSigner
