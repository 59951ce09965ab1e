import EvoomGuard.RemoteSigner.Contract

/-!
The field-ledger wire contract of `round_ledger_client.py`: its canonical JSON, the transition
request, the receipt a ledger answers with, and the verification of a receipt against the retained
request. Verifying a signature is the caller's; reading and writing floats is the interpreter's.
-/

namespace EvoomGuard.RoundLedger

open Lib Lib.Checks Lib.Framing
open EvoomGuard.RemoteSigner (TextPattern identifierPattern isKeyId hasExactly isText asciiBytes
  frameField)

/-- The exceptions of the client, with what they say. -/
inductive LedgerClientError where
  | protocol (message : Text)
  | rejected (message : Text)
  | conflict (code message : Text)
  | ambiguous (message : Text)
  | verification (message : Text)
  deriving DecidableEq

def protocolError (message : String) : LedgerClientError := .protocol message.toList

def verificationError (message : String) : LedgerClientError := .verification message.toList

def maxRequestBytes : Nat := 64 * 1024
def maxReceiptBytes : Nat := 16 * 1024
def maxResponseBytes : Nat := 1024 * 1024

def checkNesting (depth : Nat) : Except LedgerClientError Unit :=
  refuse (32 < depth) (protocolError "JSON nesting exceeds the protocol limit")

mutual

def validateJsonValue (depth : Nat) : Json → Except LedgerClientError Unit
  | .null => checkNesting depth
  | .bool _ => checkNesting depth
  | .string _ => checkNesting depth
  | .int value => do
      checkNesting depth
      refuse (value < -2 ^ 63 ∨ 2 ^ 63 - 1 < value)
        (protocolError "JSON integer is outside the 64-bit range")
  | .float _ => do
      checkNesting depth
      .error (protocolError "floats and non-JSON values are forbidden")
  | .array items => do
      checkNesting depth
      validateJsonItems (depth + 1) items
  | .object fields => do
      checkNesting depth
      validateJsonFields (depth + 1) fields

def validateJsonItems (depth : Nat) : List Json → Except LedgerClientError Unit
  | [] => .ok ()
  | item :: rest => do
      validateJsonValue depth item
      validateJsonItems depth rest

def validateJsonFields (depth : Nat) : List (Text × Json) → Except LedgerClientError Unit
  | [] => .ok ()
  | (_, value) :: rest => do
      validateJsonValue depth value
      validateJsonFields depth rest

end

def numberHooks (readFloat : Text → Rat) : JsonCodec.NumberHooks where
  parseInt := fun literal =>
    let digits := if Text.startsWith literal ['-'] then literal.drop 1 else literal
    if 19 < digits.length then .error "JSON integer literal exceeds the protocol limit"
    else .ok (JsonCodec.intValue literal)
  parseFloat := fun literal => .ok (readFloat literal)

-- An unpaired surrogate is read by the source and refused when the document is written again.
def decodeError (label : String) : JsonCodec.DecodeProblem → LedgerClientError
  | .malformed => protocolError (label ++ " is not strict UTF-8 JSON")
  | .unpairedSurrogate => protocolError "JSON cannot be represented as canonical UTF-8"
  | .duplicateKey key => .protocol ("duplicate JSON key: " ++ key)
  | .constant name => .protocol ("non-finite JSON number is forbidden: " ++ name)
  | .number problem => .protocol problem

def entry (fields : List (Text × Json)) (name : String) : Json :=
  (fields.lookup name.toList).getD .null

def names (keys : List String) : List Text := keys.map String.toList

section Documents

variable (readFloat : Text → Rat) (floatText : Rat → Text)

def canonicalJsonBytes (value : Json) : Except LedgerClientError Bytes := do
  validateJsonValue 0 value
  return utf8 (JsonCodec.dumps false floatText value)

def parseCanonicalDocument (label : String) (maximum : Nat) (body : Bytes) :
    Except LedgerClientError (List (Text × Json)) :=
  if body.isEmpty || decide (maximum < body.length) then
    .error (protocolError (label ++ " is empty, oversized, or not bytes"))
  else
    match utf8Decode body with
    | none => .error (protocolError (label ++ " is not strict UTF-8 JSON"))
    | some text =>
      match JsonCodec.loads (numberHooks readFloat) text with
      | .error problem => .error (decodeError label problem)
      | .ok (.object fields) => .ok fields
      | .ok _ => .error (protocolError (label ++ " must be a JSON object"))

def textField (accepts : Text → Bool) (message : String) : Json → Except LedgerClientError Text
  | .string text => if accepts text then .ok text else .error (protocolError message)
  | _ => .error (protocolError message)

def identifier (label : String) : Json → Except LedgerClientError Text :=
  textField identifierPattern.accepts (label ++ " is not a valid identifier")

def sha (label : String) : Json → Except LedgerClientError Text :=
  textField Sha256.isHex64 (label ++ " must be one lowercase SHA-256 value")

def nullableSha (label : String) : Json → Except LedgerClientError (Option Text)
  | .null => .ok none
  | value => (sha label value).map some

def integer (label : String) (minimum maximum : Int) : Json → Except LedgerClientError Int
  | .int value =>
    if minimum ≤ value ∧ value ≤ maximum then .ok value
    else .error (protocolError (label ++ " is outside the allowed integer range"))
  | _ => .error (protocolError (label ++ " is outside the allowed integer range"))

inductive LifecycleState where
  | reserved
  | running
  | observed
  | baselineRunning
  | baselineObserved
  | baselineFailed
  | finalizing
  | finalized
  | verified
  | included
  deriving DecidableEq, Repr

namespace LifecycleState

def name : LifecycleState → String
  | reserved => "RESERVED"
  | running => "RUNNING"
  | observed => "OBSERVED"
  | baselineRunning => "BASELINE_RUNNING"
  | baselineObserved => "BASELINE_OBSERVED"
  | baselineFailed => "BASELINE_FAILED"
  | finalizing => "FINALIZING"
  | finalized => "FINALIZED"
  | verified => "VERIFIED"
  | included => "INCLUDED"

/-- `STATES`. -/
def all : List LifecycleState :=
  [reserved, running, observed, baselineRunning, baselineObserved, baselineFailed, finalizing,
    finalized, verified, included]

/-- `NEXT_STATES`. -/
def next : LifecycleState → List LifecycleState
  | reserved => [running]
  | running => [observed]
  | observed => [baselineRunning]
  | baselineRunning => [baselineObserved, baselineFailed]
  | baselineObserved => [finalizing]
  | baselineFailed => []
  | finalizing => [finalized]
  | finalized => [verified]
  | verified => [included]
  | included => []

end LifecycleState

def lifecycleState (label : String) (value : Json) : Except LedgerClientError LifecycleState :=
  match LifecycleState.all.find? fun state => isText state.name.toList value with
  | some state => .ok state
  | none => .error (protocolError (label ++ " is not a supported lifecycle state"))

def nullableState (label : String) : Json → Except LedgerClientError (Option LifecycleState)
  | .null => .ok none
  | value => (lifecycleState label value).map some

def validateTransition (previousState state : Json) :
    Except LedgerClientError (Option LifecycleState × LifecycleState) := do
  let previous ← nullableState "previous_state" previousState
  let current ← lifecycleState "state" state
  match previous with
  | none =>
    refuse (current ≠ .reserved)
      (protocolError "an initial slot transition must enter RESERVED")
  | some before =>
    refuse (current ∉ before.next)
      (protocolError ("invalid lifecycle transition: " ++ before.name ++ " -> " ++ current.name))
  return (previous, current)

def casKeys : List String := ["expected_sequence", "expected_previous_receipt_sha256"]

def validateCas : Json → Except LedgerClientError (Int × Option Text)
  | .object fields => do
      refuse (hasExactly (names casKeys) fields = false)
        (protocolError "compare_and_swap schema is invalid")
      let sequence ← integer "compare_and_swap.expected_sequence" 0 (2 ^ 63 - 2)
        (entry fields "expected_sequence")
      let previous ← nullableSha "compare_and_swap.expected_previous_receipt_sha256"
        (entry fields "expected_previous_receipt_sha256")
      refuse (decide (sequence = 0) ≠ previous.isNone)
        (protocolError "CAS sequence zero and a null previous digest must coincide")
      return (sequence, previous)
  | _ => .error (protocolError "compare_and_swap schema is invalid")

def requestSchema : Text := "evoom-guard/field-ledger-transition-request/v1"

def receiptSchema : Text := "evoom-guard/field-ledger-transition-receipt/v1"

def signatureDomain : Text := receiptSchema

def signaturePurpose : Text := "attempt-state-transition"

def requestKeys : List String :=
  ["schema_version", "signature_domain", "signature_purpose", "ledger_id", "slot_id",
    "previous_state", "state", "input_sha256", "idempotency_key", "compare_and_swap"]

def headedBy (schema : Text) (fields : List (Text × Json)) : Bool :=
  isText schema (entry fields "schema_version") &&
    isText signatureDomain (entry fields "signature_domain") &&
      isText signaturePurpose (entry fields "signature_purpose")

def validateRequest (fields : List (Text × Json)) : Except LedgerClientError Unit := do
  refuse (hasExactly (names requestKeys) fields = false)
    (protocolError "ledger request schema is invalid")
  refuse (headedBy requestSchema fields = false)
    (protocolError "ledger request version/domain/purpose is invalid")
  let _ ← identifier "ledger_id" (entry fields "ledger_id")
  let _ ← sha "slot_id" (entry fields "slot_id")
  let _ ← validateTransition (entry fields "previous_state") (entry fields "state")
  let _ ← sha "input_sha256" (entry fields "input_sha256")
  let _ ← sha "idempotency_key" (entry fields "idempotency_key")
  let _ ← validateCas (entry fields "compare_and_swap")
  let _ ← canonicalJsonBytes floatText (.object fields)
  return ()

def parseCanonicalRequest (body : Bytes) : Except LedgerClientError (List (Text × Json)) := do
  let fields ← parseCanonicalDocument readFloat "request" maxRequestBytes body
  validateRequest floatText fields
  let written ← canonicalJsonBytes floatText (.object fields)
  refuse (body ≠ written) (protocolError "request is not exact canonical JSON")
  return fields

def receiptKeys : List String :=
  ["schema_version", "signature_domain", "signature_purpose", "ledger_id", "sequence", "slot_id",
    "previous_state", "state", "input_sha256", "previous_receipt_sha256", "idempotency_key",
    "compare_and_swap", "request_sha256", "issued_at", "authentication"]

def requestCopiedKeys : List String :=
  ["signature_domain", "signature_purpose", "ledger_id", "slot_id", "previous_state", "state",
    "input_sha256", "idempotency_key", "compare_and_swap"]

def authenticationKeys : List String := ["algorithm", "key_id", "signature_encoding", "signature"]

def validateAuthentication (label : String) : Json → Except LedgerClientError Bytes
  | .object fields => do
      refuse (hasExactly (names authenticationKeys) fields = false)
        (protocolError (label ++ " schema is invalid"))
      refuse ((isText "Ed25519" (entry fields "algorithm") &&
        isText "base64" (entry fields "signature_encoding")) = false)
        (protocolError (label ++ " metadata is invalid"))
      let _ ← textField isKeyId (label ++ " metadata is invalid") (entry fields "key_id")
      let encoded ← textField (fun _ => true) (label ++ " signature is not text")
        (entry fields "signature")
      match Base64.decode encoded with
      | none => .error (protocolError (label ++ " signature is not canonical base64"))
      | some signature =>
        if signature.length ≠ 64 ∨ Base64.encode signature ≠ encoded then
          .error (protocolError (label ++ " signature is not one Ed25519 value"))
        else .ok signature
  | _ => .error (protocolError (label ++ " schema is invalid"))

def numberAt (text : Text) (start length : Nat) : Nat :=
  JsonCodec.natValue ((text.drop start).take length)

def hasDigitsAt (text : Text) (start length : Nat) : Bool :=
  let digits := (text.drop start).take length
  digits.length == length && digits.all Char.isDigit

def hasSignAt (text : Text) (place : Nat) (sign : Char) : Bool := (text.drop place).take 1 == [sign]

/-- `TIMESTAMP_RE`: a day may be `00`. -/
def isTimestamp (text : Text) : Bool :=
  text.length == 20 && hasDigitsAt text 0 4 && hasSignAt text 4 '-' && hasDigitsAt text 5 2 &&
    hasSignAt text 7 '-' && hasDigitsAt text 8 2 && hasSignAt text 10 'T' &&
    hasDigitsAt text 11 2 && hasSignAt text 13 ':' && hasDigitsAt text 14 2 &&
    hasSignAt text 16 ':' && hasDigitsAt text 17 2 && hasSignAt text 19 'Z' &&
    decide (1 ≤ numberAt text 5 2 ∧ numberAt text 5 2 ≤ 12 ∧ numberAt text 8 2 ≤ 31 ∧
      numberAt text 11 2 ≤ 23 ∧ numberAt text 14 2 ≤ 59 ∧ numberAt text 17 2 ≤ 59)

def isLeapYear (year : Nat) : Bool := year % 4 == 0 && (year % 100 != 0 || year % 400 == 0)

def daysInMonth (year month : Nat) : Nat :=
  if month = 2 then (if isLeapYear year then 29 else 28)
  else if [4, 6, 9, 11].contains month then 30
  else 31

/-- `datetime.strptime` of a timestamp: no year 0 and no day the month does not have. -/
def isCalendarInstant (text : Text) : Bool :=
  decide (1 ≤ numberAt text 0 4 ∧ 1 ≤ numberAt text 8 2 ∧
    numberAt text 8 2 ≤ daysInMonth (numberAt text 0 4) (numberAt text 5 2))

def validateIssuedAt : Json → Except LedgerClientError Unit
  | .string text => do
      refuse (isTimestamp text = false)
        (protocolError "issued_at must be canonical UTC seconds")
      refuse (isCalendarInstant text = false)
        (protocolError "issued_at is not a real UTC calendar instant")
  | _ => .error (protocolError "issued_at must be canonical UTC seconds")

def validateReceipt (fields : List (Text × Json)) : Except LedgerClientError Unit := do
  refuse (hasExactly (names receiptKeys) fields = false)
    (protocolError "ledger receipt schema is invalid")
  refuse (headedBy receiptSchema fields = false)
    (protocolError "ledger receipt version/domain/purpose is invalid")
  let _ ← identifier "ledger_id" (entry fields "ledger_id")
  let sequence ← integer "sequence" 1 (2 ^ 63 - 1) (entry fields "sequence")
  let _ ← sha "slot_id" (entry fields "slot_id")
  let _ ← validateTransition (entry fields "previous_state") (entry fields "state")
  let _ ← sha "input_sha256" (entry fields "input_sha256")
  let previous ← nullableSha "previous_receipt_sha256" (entry fields "previous_receipt_sha256")
  let _ ← sha "idempotency_key" (entry fields "idempotency_key")
  let expected ← validateCas (entry fields "compare_and_swap")
  refuse (sequence ≠ expected.1 + 1)
    (protocolError "receipt sequence does not satisfy its CAS precondition")
  refuse (previous ≠ expected.2)
    (protocolError "receipt previous digest does not satisfy its CAS precondition")
  let _ ← sha "request_sha256" (entry fields "request_sha256")
  validateIssuedAt (entry fields "issued_at")
  let _ ← validateAuthentication "ledger receipt" (entry fields "authentication")
  let _ ← canonicalJsonBytes floatText (.object fields)
  return ()

def parseCanonicalReceipt (body : Bytes) : Except LedgerClientError (List (Text × Json)) := do
  let fields ← parseCanonicalDocument readFloat "receipt" maxReceiptBytes body
  validateReceipt floatText fields
  let written ← canonicalJsonBytes floatText (.object fields)
  refuse (body ≠ written) (protocolError "receipt is not exact canonical JSON")
  return fields

def receiptProjection (fields : List (Text × Json)) : List (Text × Json) :=
  fields.filter fun field => field.1 != "authentication"

def signatureMagic : Bytes :=
  asciiBytes "EVOGUARD_FIELD_LEDGER_RECEIPT_SIGNATURE_V1" ++ [0]

def framed (magic : Bytes) (fields : List (Text × Bytes)) : Bytes :=
  magic ++ records frameField fields

def ledgerSignatureMessage (projection : List (Text × Json)) : Except LedgerClientError Bytes := do
  refuse (isText signatureDomain (entry projection "signature_domain") = false)
    (protocolError "receipt signature domain is invalid")
  refuse (isText signaturePurpose (entry projection "signature_purpose") = false)
    (protocolError "receipt signature purpose is invalid")
  let payload ← canonicalJsonBytes floatText (.object projection)
  return framed signatureMagic [("domain", asciiBytes signatureDomain),
    ("purpose", asciiBytes signaturePurpose), ("canonical_json", payload)]

/-- `left == right` of two JSON documents. -/
def sameJson (left right : Json) : Bool :=
  (JsonCodec.sortKeys left).same (JsonCodec.sortKeys right)

/-- The first request field that the receipt does not copy. -/
def changedField (receipt request : List (Text × Json)) : Option String :=
  requestCopiedKeys.find? fun key => !sameJson (entry receipt key) (entry request key)

def checkCopied (receipt request : List (Text × Json)) : Except LedgerClientError Unit :=
  match changedField receipt request with
  | none => .ok ()
  | some key => .error (verificationError
      ("receipt field " ++ key ++ " does not match the retained request"))

/-- The caller's pinned key: its ID, and whether it verifies a signature of a message. -/
structure PinnedKey where
  keyId : Text
  verify : Bytes → Bytes → Bool

def authenticationKeyId : Json → Json
  | .object fields => entry fields "key_id"
  | _ => .null

/-- Verify a served receipt against the exact retained request bytes. -/
def verifyReceipt (key : PinnedKey) (receiptBytes requestBytes : Bytes) :
    Except LedgerClientError (List (Text × Json)) := do
  refuse (isKeyId key.keyId = false) (verificationError "pinned key ID is invalid")
  let request ← parseCanonicalRequest readFloat floatText requestBytes
  let receipt ← parseCanonicalReceipt readFloat floatText receiptBytes
  checkCopied receipt request
  refuse (isText (Sha256.hexdigestBytes requestBytes) (entry receipt "request_sha256") = false)
    (verificationError "receipt request digest does not match the retained request bytes")
  refuse (isText key.keyId (authenticationKeyId (entry receipt "authentication")) = false)
    (verificationError "receipt signer key is not the pinned key")
  let signature ← validateAuthentication "ledger receipt" (entry receipt "authentication")
  let message ← ledgerSignatureMessage floatText (receiptProjection receipt)
  refuse (key.verify signature message = false)
    (verificationError "ledger receipt signature is invalid")
  return receipt

end Documents

end EvoomGuard.RoundLedger
