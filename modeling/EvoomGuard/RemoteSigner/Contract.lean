import EvoomGuard.Lib.Base64
import EvoomGuard.Lib.Checks
import EvoomGuard.Lib.JsonRoundTrip
import EvoomGuard.Lib.Sha256

/-!
The wire contract of `remote_signer_client.py`: its canonical JSON profile, its text and digest
checks, the framing of signed messages, and the signer operation that is built, validated and
parsed. The Unicode database and the conversion of floats belong to the interpreter; a string with
an unpaired surrogate is refused while it is read and not while it is written. The errors are those
of the client; `overflow` is the one the conversion of a length raises by itself.
-/

namespace EvoomGuard.RemoteSigner

open Lib Lib.Checks Lib.Framing

inductive SignerProtocolError where
  | nonNfc
  | integerRange
  | floatingPoint
  | nesting
  | keyText
  | notUtf8
  | duplicateKey (key : Text)
  | constant (name : Text)
  | integerLiteral
  | notBounded (label : String)
  | notStrictJson (label : String)
  | notObject (label : String)
  | notCanonicalJson (label : String)
  | notSha256 (label : String)
  | notKeyId (label : String)
  | notCanonicalText (label : String)
  | outsideRange (label : String)
  | nonclaims (label : String)
  | base64Text (label : String)
  | base64Form (label : String)
  | base64Value (label : String)
  | frameMagic
  | frameName
  | frameField
  | overflow
  | signatureDomain
  | signaturePurpose
  | operationSchema
  | operationVersion
  | embeddedBinding
  | operationIdBinding
  | oversizedOperation
  | signatureRecord (label : String)
  | signatureFields (label : String)
  | signatureLength (label : String)
  | receiptSchema
  | receiptVersion
  | receiptKeyIds
  | oversizedReceipt
  | projectionSchema
  | oversizedProjection
  | requestMethod
  | requestPathText
  | requestPath
  | requestBody
  | emptyPostBody
  | getBody
  deriving DecidableEq, Repr

def maxJsonDepth : Nat := 128
def maxPayloadBytes : Nat := 16 * 1024 * 1024
def maxAuthorizationReceiptBytes : Nat := 1024 * 1024
def maxOperationBytes : Nat := 24 * 1024 * 1024

/-- What the interpreter knows: `unicodedata.normalize("NFC", ·)`, which leaves ASCII alone, and
the reading and writing of floats. -/
structure Host where
  nfc : Text → Text
  nfc_ascii : ∀ text : Text, (∀ character ∈ text, character.toNat < 128) → nfc text = text
  readFloat : Text → Rat
  floatText : Rat → Text

section

variable (host : Host)

def validateJsonScalar : Json → Except SignerProtocolError Unit
  | .string text => if host.nfc text ≠ text then .error .nonNfc else .ok ()
  | .int value => if -2 ^ 63 ≤ value ∧ value ≤ 2 ^ 63 - 1 then .ok () else .error .integerRange
  | _ => .error .floatingPoint

mutual

def validateJsonValue (depth : Nat) : Json → Except SignerProtocolError Unit
  | .null => if maxJsonDepth < depth then .error .nesting else .ok ()
  | .bool _ => if maxJsonDepth < depth then .error .nesting else .ok ()
  | .array items =>
    if maxJsonDepth < depth then .error .nesting else validateJsonItems (depth + 1) items
  | .object fields =>
    if maxJsonDepth < depth then .error .nesting else validateJsonFields (depth + 1) fields
  | .string text =>
    if maxJsonDepth < depth then .error .nesting else validateJsonScalar host (.string text)
  | .int value =>
    if maxJsonDepth < depth then .error .nesting else validateJsonScalar host (.int value)
  | .float value =>
    if maxJsonDepth < depth then .error .nesting else validateJsonScalar host (.float value)

def validateJsonItems (depth : Nat) : List Json → Except SignerProtocolError Unit
  | [] => .ok ()
  | item :: rest =>
    match validateJsonValue depth item with
    | .error problem => .error problem
    | .ok () => validateJsonItems depth rest

def validateJsonFields (depth : Nat) : List (Text × Json) → Except SignerProtocolError Unit
  | [] => .ok ()
  | (key, value) :: rest =>
    if key.all (fun character => decide (character.toNat < 128)) then
      match validateJsonValue depth value with
      | .error problem => .error problem
      | .ok () => validateJsonFields depth rest
    else .error .keyText

end

def canonicalJsonBytes (value : Json) : Except SignerProtocolError Bytes :=
  match validateJsonValue host 0 value with
  | .error problem => .error problem
  | .ok () => .ok (utf8 (JsonCodec.dumps false host.floatText value))

/-- `parse_int` counts the digits behind the sign; floats are read and refused later. -/
def numberHooks : JsonCodec.NumberHooks where
  parseInt := fun literal =>
    let digits := if Text.startsWith literal ['-'] then literal.drop 1 else literal
    if 19 < digits.length then .error "JSON integer literal exceeds the protocol limit"
    else .ok (JsonCodec.intValue literal)
  parseFloat := fun literal => .ok (host.readFloat literal)

def decodeError (label : String) : JsonCodec.DecodeProblem → SignerProtocolError
  | .malformed => .notStrictJson label
  | .unpairedSurrogate => .notUtf8
  | .duplicateKey key => .duplicateKey key
  | .constant name => .constant name
  | .number _ => .integerLiteral

/-- Exactly one bounded byte-canonical JSON object. -/
def parseCanonicalObject (label : String) (maximum : Nat) (raw : Bytes) :
    Except SignerProtocolError (List (Text × Json)) :=
  if raw.isEmpty || decide (maximum < raw.length) then .error (.notBounded label)
  else
    match utf8Decode raw with
    | none => .error (.notStrictJson label)
    | some text =>
      match JsonCodec.loads (numberHooks host) text with
      | .error problem => .error (decodeError label problem)
      | .ok (.object fields) =>
        match canonicalJsonBytes host (.object fields) with
        | .error problem => .error problem
        | .ok bytes => if raw ≠ bytes then .error (.notCanonicalJson label) else .ok fields
      | .ok _ => .error (.notObject label)

end

def sha256Hex (payload : Bytes) : Text := Sha256.hexdigestBytes payload

/-- A string that passes a check, or the problem with it. -/
def requireString (accepts : Text → Bool) (problem : SignerProtocolError) :
    Json → Except SignerProtocolError Text
  | .string text => if accepts text then .ok text else .error problem
  | _ => .error problem

def requireSha256 (label : String) : Json → Except SignerProtocolError Text :=
  requireString Sha256.isHex64 (.notSha256 label)

def keyIdHead : Text := ['s', 'h', 'a', '2', '5', '6', ':']

def isKeyId (text : Text) : Bool :=
  Text.startsWith text keyIdHead && Sha256.isHex64 (text.drop keyIdHead.length)

def requireKeyId (label : String) : Json → Except SignerProtocolError Text :=
  requireString isKeyId (.notKeyId label)

/-- `^[first][rest]{least,most}$`. -/
structure TextPattern where
  first : Char → Bool
  rest : Char → Bool
  least : Nat
  most : Nat

def TextPattern.accepts (pattern : TextPattern) : Text → Bool
  | [] => false
  | character :: others =>
    pattern.first character && others.all pattern.rest && decide (pattern.least ≤ others.length) &&
      decide (others.length ≤ pattern.most)

def isLower (character : Char) : Bool := decide ('a' ≤ character ∧ character ≤ 'z')

def isUpper (character : Char) : Bool := decide ('A' ≤ character ∧ character ≤ 'Z')

def isLowerDigit (character : Char) : Bool := isLower character || character.isDigit

def identifierPattern : TextPattern where
  first := isLowerDigit
  rest := fun character => isLowerDigit character || ['.', '_', '-'].contains character
  least := 2
  most := 63

def rolePattern : TextPattern where
  first := isLower
  rest := fun character => isLowerDigit character || character == '-'
  least := 2
  most := 63

def purposePattern : TextPattern where
  first := isLower
  rest := fun character => isLowerDigit character || ['.', '_', '-'].contains character
  least := 2
  most := 127

def domainPattern : TextPattern where
  first := fun character => isUpper character || isLowerDigit character
  rest := fun character => isUpper character || isLowerDigit character ||
    ['.', '_', '/', ':', '+', '-'].contains character
  least := 2
  most := 191

def requireText (label : String) (pattern : TextPattern) : Json → Except SignerProtocolError Text :=
  requireString pattern.accepts (.notCanonicalText label)

def requireSize (label : String) (maximum : Nat) : Json → Except SignerProtocolError Nat
  | .int value =>
    if 1 ≤ value ∧ value ≤ maximum then .ok value.toNat else .error (.outsideRange label)
  | _ => .error (.outsideRange label)

def decodeCanonicalBase64 (label : String) (maximum : Nat) : Json → Except SignerProtocolError Bytes
  | .string text =>
    if text.isEmpty || decide ((maximum + 2) / 3 * 4 < text.length) then .error (.base64Text label)
    else
      match Base64.decode text with
      | none => .error (.base64Form label)
      | some raw =>
        if raw.isEmpty || decide (maximum < raw.length) || Base64.encode raw != text then
          .error (.base64Value label)
        else .ok raw
  | _ => .error (.base64Text label)

def asciiBytes (text : Text) : Bytes := text.map fun character => UInt8.ofNat character.toNat

def isAscii (text : Text) : Bool := text.all fun character => decide (character.toNat < 128)

/-- `len(name).to_bytes(2, "big") + name + len(payload).to_bytes(8, "big") + payload`. -/
def frameField (field : Text × Bytes) : Bytes :=
  bigEndian 2 field.1.length ++ asciiBytes field.1 ++ blob field.2

def frameFields : List (Text × Bytes) → Except SignerProtocolError Bytes
  | [] => .ok []
  | field :: rest =>
    if !isAscii field.1 then .error .frameName
    else if field.1.isEmpty || decide (0xffff < field.1.length) then .error .frameField
    else if 2 ^ 64 ≤ field.2.length then .error .overflow
    else
      match frameFields rest with
      | .error problem => .error problem
      | .ok framed => .ok (frameField field ++ framed)

def frameMessage (magic : Bytes) (fields : List (Text × Bytes)) :
    Except SignerProtocolError Bytes :=
  if magic.isEmpty then .error .frameMagic
  else
    match frameFields fields with
    | .error problem => .error problem
    | .ok framed => .ok (magic ++ framed)

def operationIdMagic : Bytes := asciiBytes "EVOGUARD_RUNTIME_SIGNER_OPERATION_ID_V1" ++ [0]

def detachedSignatureMagic : Bytes := asciiBytes "EVOGUARD_PRIVATE_EVAL_SIGNATURE_V1" ++ [0]

def signerReceiptSignatureMagic : Bytes :=
  asciiBytes "EVOGUARD_RUNTIME_SIGNER_RECEIPT_SIGNATURE_V1" ++ [0]

def requestAuthenticationMagic : Bytes :=
  asciiBytes "EVOGUARD_SIGNER_REQUEST_AUTHENTICATION_V1" ++ [0]

def hexNibble (character : Char) : Nat :=
  if character.toNat < 58 then character.toNat - 48 else character.toNat - 87

/-- `bytes.fromhex` of lowercase digits in pairs. -/
def fromHex : Text → Bytes
  | high :: low :: rest => UInt8.ofNat (16 * hexNibble high + hexNibble low) :: fromHex rest
  | _ => []

def operationSchema : Text := "evoom-guard/runtime-signer-operation/v1"

def detachedSignatureSchema : Text := "evoom-guard/private-eval-signature-envelope/v2"

def supportedSignaturePurposes : List Text :=
  ["label", "execution-freeze", "attempt-reservation",
    "supervisor-receipt", "baseline-supervisor-receipt",
    "baseline-supervisor-failure", "result", "finalizer-receipt",
    "verified-result-set"]

/-- The fields an operation ID is derived from. -/
structure OperationIdentity where
  gateContractSha256 : Text
  authorizationReceiptSha256 : Text
  authorityRole : Text
  authorityKeyId : Text
  signatureDomain : Text
  signaturePurpose : Text
  roundId : Text
  slotId : Text
  payloadSha256 : Text
  payloadSizeBytes : Nat
  deriving DecidableEq

def OperationIdentity.framedFields (identity : OperationIdentity) : List (Text × Bytes) :=
  [("gate_contract_sha256", fromHex identity.gateContractSha256),
    ("authorization_receipt_sha256", fromHex identity.authorizationReceiptSha256),
    ("authority_role", asciiBytes identity.authorityRole),
    ("authority_key_id", asciiBytes identity.authorityKeyId),
    ("signature_domain", asciiBytes identity.signatureDomain),
    ("signature_purpose", asciiBytes identity.signaturePurpose),
    ("round_id", asciiBytes identity.roundId),
    ("slot_id_present", [1]),
    ("slot_id", fromHex identity.slotId),
    ("payload_sha256", fromHex identity.payloadSha256),
    ("payload_size_bytes", u64 identity.payloadSizeBytes)]

/-- The checks of `derive_operation_id`, in their order. -/
def OperationIdentity.check (identity : OperationIdentity) : Except SignerProtocolError Unit := do
  let _ ← requireSha256 "gate_contract_sha256" (.string identity.gateContractSha256)
  let _ ← requireSha256 "authorization_receipt_sha256" (.string identity.authorizationReceiptSha256)
  let _ ← requireText "authority_role" rolePattern (.string identity.authorityRole)
  let _ ← requireKeyId "authority_key_id" (.string identity.authorityKeyId)
  let _ ← requireText "signature_domain" domainPattern (.string identity.signatureDomain)
  let _ ← requireText "signature_purpose" purposePattern (.string identity.signaturePurpose)
  refuse (identity.signatureDomain ≠ detachedSignatureSchema) .signatureDomain
  refuse (identity.signaturePurpose ∉ supportedSignaturePurposes) .signaturePurpose
  let _ ← requireText "round_id" identifierPattern (.string identity.roundId)
  let _ ← requireSha256 "slot_id" (.string identity.slotId)
  let _ ← requireSha256 "payload_sha256" (.string identity.payloadSha256)
  let _ ← requireSize "payload_size_bytes" maxPayloadBytes (.int identity.payloadSizeBytes)
  return ()

/-- The bytes whose digest is the operation ID. -/
def operationIdMessage (identity : OperationIdentity) : Except SignerProtocolError Bytes :=
  match identity.check with
  | .error problem => .error problem
  | .ok () => frameMessage operationIdMagic identity.framedFields

def deriveOperationId (identity : OperationIdentity) : Except SignerProtocolError Text :=
  match operationIdMessage identity with
  | .error problem => .error problem
  | .ok message => .ok (sha256Hex message)

inductive OperationKey where
  | schemaVersion
  | operationId
  | gateContractSha256
  | authorizationReceiptSha256
  | authorizationReceiptCanonicalBase64
  | authorityRole
  | authorityKeyId
  | signatureDomain
  | signaturePurpose
  | roundId
  | slotId
  | payloadSha256
  | payloadSizeBytes
  | payloadCanonicalBase64
  | fieldClaimAuthorized
  | runtimeGateComplete
  | nonForkingProven
  deriving DecidableEq, Repr

namespace OperationKey

def name : OperationKey → Text
  | schemaVersion => "schema_version"
  | operationId => "operation_id"
  | gateContractSha256 => "gate_contract_sha256"
  | authorizationReceiptSha256 => "authorization_receipt_sha256"
  | authorizationReceiptCanonicalBase64 => "authorization_receipt_canonical_base64"
  | authorityRole => "authority_role"
  | authorityKeyId => "authority_key_id"
  | signatureDomain => "signature_domain"
  | signaturePurpose => "signature_purpose"
  | roundId => "round_id"
  | slotId => "slot_id"
  | payloadSha256 => "payload_sha256"
  | payloadSizeBytes => "payload_size_bytes"
  | payloadCanonicalBase64 => "payload_canonical_base64"
  | fieldClaimAuthorized => "field_claim_authorized"
  | runtimeGateComplete => "runtime_gate_complete"
  | nonForkingProven => "non_forking_proven"

/-- `OPERATION_KEYS`, in the order in which an operation is built. -/
def all : List OperationKey :=
  [schemaVersion, operationId, gateContractSha256, authorizationReceiptSha256,
    authorizationReceiptCanonicalBase64, authorityRole, authorityKeyId, signatureDomain,
    signaturePurpose, roundId, slotId, payloadSha256, payloadSizeBytes, payloadCanonicalBase64,
    fieldClaimAuthorized, runtimeGateComplete, nonForkingProven]

end OperationKey

/-- `set(value) == names`. -/
def hasExactly (names : List Text) (fields : List (Text × Json)) : Bool :=
  (names.all fun name => (fields.map Prod.fst).contains name) &&
    (fields.map Prod.fst).all names.contains

def operationGet (fields : List (Text × Json)) (key : OperationKey) : Json :=
  (fields.lookup key.name).getD .null

/-- `value.get(key) is False`. -/
def isFalse : Json → Bool
  | .bool false => true
  | _ => false

def isText (expected : Text) : Json → Bool
  | .string text => text == expected
  | _ => false

section Operation

variable (host : Host)

/-- What an accepted operation decodes to. -/
structure OperationParts where
  operationId : Text
  identity : OperationIdentity
  authorizationBytes : Bytes
  payloadBytes : Bytes

/-- `validate_operation` behind the check of the key set. -/
def checkOperation (get : OperationKey → Json) : Except SignerProtocolError OperationParts := do
  refuse (isText operationSchema (get .schemaVersion) = false) .operationVersion
  refuse ((isFalse (get .fieldClaimAuthorized) && isFalse (get .runtimeGateComplete) &&
    isFalse (get .nonForkingProven)) = false) (.nonclaims "runtime signer operation")
  let operationId ← requireSha256 "operation_id" (get .operationId)
  let gateDigest ← requireSha256 "gate_contract_sha256" (get .gateContractSha256)
  let authorizationDigest ←
    requireSha256 "authorization_receipt_sha256" (get .authorizationReceiptSha256)
  let role ← requireText "authority_role" rolePattern (get .authorityRole)
  let keyId ← requireKeyId "authority_key_id" (get .authorityKeyId)
  let domain ← requireText "signature_domain" domainPattern (get .signatureDomain)
  let purpose ← requireText "signature_purpose" purposePattern (get .signaturePurpose)
  refuse (domain ≠ detachedSignatureSchema) .signatureDomain
  refuse (purpose ∉ supportedSignaturePurposes) .signaturePurpose
  let round ← requireText "round_id" identifierPattern (get .roundId)
  let slot ← requireSha256 "slot_id" (get .slotId)
  let payloadDigest ← requireSha256 "payload_sha256" (get .payloadSha256)
  let payloadSize ← requireSize "payload_size_bytes" maxPayloadBytes (get .payloadSizeBytes)
  let authorizationBytes ← decodeCanonicalBase64 "authorization_receipt_canonical_base64"
    maxAuthorizationReceiptBytes (get .authorizationReceiptCanonicalBase64)
  let payloadBytes ← decodeCanonicalBase64 "payload_canonical_base64" maxPayloadBytes
    (get .payloadCanonicalBase64)
  let _ ← parseCanonicalObject host "authorization receipt" maxAuthorizationReceiptBytes
    authorizationBytes
  let _ ← parseCanonicalObject host "signature payload" maxPayloadBytes payloadBytes
  refuse (sha256Hex authorizationBytes ≠ authorizationDigest ∨
    sha256Hex payloadBytes ≠ payloadDigest ∨ payloadBytes.length ≠ payloadSize) .embeddedBinding
  let identity : OperationIdentity := ⟨gateDigest, authorizationDigest, role, keyId, domain, purpose,
    round, slot, payloadDigest, payloadSize⟩
  let expectedId ← deriveOperationId identity
  refuse (operationId ≠ expectedId) .operationIdBinding
  return ⟨operationId, identity, authorizationBytes, payloadBytes⟩

def validateOperation (fields : List (Text × Json)) :
    Except SignerProtocolError OperationParts :=
  if !hasExactly (OperationKey.all.map OperationKey.name) fields then .error .operationSchema
  else
    match checkOperation host (operationGet fields) with
    | .error problem => .error problem
    | .ok parts =>
      match canonicalJsonBytes host (.object fields) with
      | .error problem => .error problem
      | .ok _ => .ok parts

def parseOperationBytes (raw : Bytes) :
    Except SignerProtocolError (List (Text × Json) × OperationParts) :=
  match parseCanonicalObject host "runtime signer operation" maxOperationBytes raw with
  | .error problem => .error problem
  | .ok fields =>
    match validateOperation host fields with
    | .error problem => .error problem
    | .ok parts => .ok (fields, parts)

def operationPayloadBytes (fields : List (Text × Json)) : Except SignerProtocolError Bytes :=
  decodeCanonicalBase64 "payload_canonical_base64" maxPayloadBytes
    (operationGet fields .payloadCanonicalBase64)

structure OperationRequest where
  gateContractSha256 : Text
  authorizationReceiptBytes : Bytes
  authorityRole : Text
  authorityKeyId : Text
  signaturePurpose : Text
  roundId : Text
  slotId : Text
  payloadBytes : Bytes

def OperationRequest.identity (request : OperationRequest) : OperationIdentity where
  gateContractSha256 := request.gateContractSha256
  authorizationReceiptSha256 := sha256Hex request.authorizationReceiptBytes
  authorityRole := request.authorityRole
  authorityKeyId := request.authorityKeyId
  signatureDomain := detachedSignatureSchema
  signaturePurpose := request.signaturePurpose
  roundId := request.roundId
  slotId := request.slotId
  payloadSha256 := sha256Hex request.payloadBytes
  payloadSizeBytes := request.payloadBytes.length

/-- The value `build_operation` gives each key. -/
def OperationRequest.value (request : OperationRequest) (operationId : Text) : OperationKey → Json
  | .schemaVersion => .string operationSchema
  | .operationId => .string operationId
  | .gateContractSha256 => .string request.gateContractSha256
  | .authorizationReceiptSha256 => .string (sha256Hex request.authorizationReceiptBytes)
  | .authorizationReceiptCanonicalBase64 =>
    .string (Base64.encode request.authorizationReceiptBytes)
  | .authorityRole => .string request.authorityRole
  | .authorityKeyId => .string request.authorityKeyId
  | .signatureDomain => .string detachedSignatureSchema
  | .signaturePurpose => .string request.signaturePurpose
  | .roundId => .string request.roundId
  | .slotId => .string request.slotId
  | .payloadSha256 => .string (sha256Hex request.payloadBytes)
  | .payloadSizeBytes => .int request.payloadBytes.length
  | .payloadCanonicalBase64 => .string (Base64.encode request.payloadBytes)
  | .fieldClaimAuthorized => .bool false
  | .runtimeGateComplete => .bool false
  | .nonForkingProven => .bool false

def OperationRequest.operation (request : OperationRequest) (operationId : Text) :
    List (Text × Json) :=
  OperationKey.all.map fun key => (key.name, request.value operationId key)

def buildOperation (request : OperationRequest) : Except SignerProtocolError (Text × Bytes) := do
  let _ ← parseCanonicalObject host "authorization receipt" maxAuthorizationReceiptBytes
    request.authorizationReceiptBytes
  let _ ← parseCanonicalObject host "signature payload" maxPayloadBytes request.payloadBytes
  let operationId ← deriveOperationId request.identity
  let _ ← validateOperation host (request.operation operationId)
  let requestBytes ← canonicalJsonBytes host (.object (request.operation operationId))
  refuse (maxOperationBytes < requestBytes.length) .oversizedOperation
  return (operationId, requestBytes)

end Operation

end EvoomGuard.RemoteSigner
