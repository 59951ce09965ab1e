import EvoomGuard.RoundLedger.Contract

/-!
Which exceptions the documents of the ledger contract raise: a document is outside the contract, or
a receipt does not bind the retained request. No check of a document speaks of the commit state.
-/

namespace EvoomGuard.RoundLedger

open Lib Lib.Checks Lib.Framing

def LedgerClientError.isProtocol : LedgerClientError → Prop
  | .protocol _ => True
  | _ => False

/-- A check that only finds a document outside the contract. -/
abbrev Protocol {Value : Type} (check : Except LedgerClientError Value) : Prop :=
  Raises LedgerClientError.isProtocol check

/-- A document is outside the contract, or does not bind the retained request. -/
def LedgerClientError.isDocument : LedgerClientError → Prop
  | .protocol _ => True
  | .verification _ => True
  | _ => False

theorem LedgerClientError.document_of_protocol (error : LedgerClientError)
    (known : error.isProtocol) : error.isDocument := by
  cases error with
  | protocol message => trivial
  | _ => exact known.elim

section Errors

variable (readFloat : Text → Rat) (floatText : Rat → Text)

theorem nesting_raises (depth : Nat) : Protocol (checkNesting depth) :=
  raises_refuse trivial

mutual

theorem validate_value_raises (depth : Nat) (value : Json) :
    Protocol (validateJsonValue depth value) := by
  match value with
  | .null | .bool _ | .string _ => exact nesting_raises depth
  | .int value =>
    rw [validateJsonValue]
    exact raises_bind (nesting_raises depth) fun _ => raises_refuse trivial
  | .float value =>
    rw [validateJsonValue]
    exact raises_bind (nesting_raises depth) fun _ => raises_error trivial
  | .array items =>
    rw [validateJsonValue]
    exact raises_bind (nesting_raises depth) fun _ => validate_items_raises (depth + 1) items
  | .object fields =>
    rw [validateJsonValue]
    exact raises_bind (nesting_raises depth) fun _ => validate_fields_raises (depth + 1) fields

theorem validate_items_raises (depth : Nat) (items : List Json) :
    Protocol (validateJsonItems depth items) := by
  match items with
  | [] =>
    rw [validateJsonItems]
    exact raises_ok ()
  | item :: rest =>
    rw [validateJsonItems]
    exact raises_bind (validate_value_raises depth item) fun _ =>
      validate_items_raises depth rest

theorem validate_fields_raises (depth : Nat) (fields : List (Text × Json)) :
    Protocol (validateJsonFields depth fields) := by
  match fields with
  | [] =>
    rw [validateJsonFields]
    exact raises_ok ()
  | (_, value) :: rest =>
    rw [validateJsonFields]
    exact raises_bind (validate_value_raises depth value) fun _ =>
      validate_fields_raises depth rest

end

theorem canonical_raises (value : Json) : Protocol (canonicalJsonBytes floatText value) := by
  unfold canonicalJsonBytes
  exact raises_bind (validate_value_raises 0 value) fun _ => raises_pure _

variable (label : String)

theorem decode_error_protocol (problem : JsonCodec.DecodeProblem) :
    (decodeError label problem).isProtocol := by
  cases problem <;> trivial

theorem document_raises (maximum : Nat) (body : Bytes) :
    Protocol (parseCanonicalDocument readFloat label maximum body) := by
  unfold parseCanonicalDocument
  split
  · exact raises_error trivial
  · split
    · exact raises_error trivial
    · split
      · exact raises_error (decode_error_protocol label _)
      · exact raises_ok _
      · exact raises_error trivial

theorem text_field_raises (accepts : Text → Bool) (message : String) (value : Json) :
    Protocol (textField accepts message value) := by
  cases value with
  | string text =>
    simp only [textField]
    split
    · exact raises_ok text
    · exact raises_error trivial
  | _ => exact raises_error trivial

theorem nullable_sha_raises (value : Json) : Protocol (nullableSha label value) := by
  unfold nullableSha
  split
  · exact raises_ok none
  · exact raises_map (text_field_raises _ _ _)

theorem integer_raises (minimum maximum : Int) (value : Json) :
    Protocol (integer label minimum maximum value) := by
  cases value with
  | int number =>
    simp only [integer]
    split
    · exact raises_ok number
    · exact raises_error trivial
  | _ => exact raises_error trivial

theorem state_raises (value : Json) : Protocol (lifecycleState label value) := by
  unfold lifecycleState
  split
  · exact raises_ok _
  · exact raises_error trivial

theorem nullable_state_raises (value : Json) : Protocol (nullableState label value) := by
  unfold nullableState
  split
  · exact raises_ok none
  · exact raises_map (state_raises _ _)

theorem transition_raises (previousState state : Json) :
    Protocol (validateTransition previousState state) := by
  unfold validateTransition
  apply raises_bind (nullable_state_raises _ _)
  intro previous
  apply raises_bind (state_raises _ _)
  intro current
  cases previous with
  | none | some before => exact raises_bind (raises_refuse trivial) fun _ => raises_pure _

theorem cas_raises (value : Json) : Protocol (validateCas value) := by
  cases value with
  | object fields =>
    rw [validateCas]
    refine raises_bind (raises_refuse trivial) fun _ => ?_
    apply raises_bind (integer_raises _ _ _ _)
    intro sequence
    apply raises_bind (nullable_sha_raises _ _)
    intro previous
    exact raises_bind (raises_refuse trivial) fun _ => raises_pure _
  | _ => exact raises_error trivial

theorem authentication_raises (value : Json) : Protocol (validateAuthentication label value) := by
  cases value with
  | object fields =>
    rw [validateAuthentication]
    refine raises_bind (raises_refuse trivial) fun _ => ?_
    refine raises_bind (raises_refuse trivial) fun _ => ?_
    apply raises_bind (text_field_raises _ _ _)
    intro _
    apply raises_bind (text_field_raises _ _ _)
    intro encoded
    split
    · exact raises_error trivial
    · split
      · exact raises_error trivial
      · exact raises_ok _
  | _ => exact raises_error trivial

theorem issued_at_raises (value : Json) : Protocol (validateIssuedAt value) := by
  cases value with
  | string text => exact raises_bind (raises_refuse trivial) fun _ => raises_refuse trivial
  | _ => exact raises_error trivial

theorem validate_request_raises (fields : List (Text × Json)) :
    Protocol (validateRequest floatText fields) := by
  unfold validateRequest
  refine raises_bind (raises_refuse trivial) fun _ => ?_
  refine raises_bind (raises_refuse trivial) fun _ => ?_
  apply raises_bind (text_field_raises _ _ _)
  intro _
  apply raises_bind (text_field_raises _ _ _)
  intro _
  apply raises_bind (transition_raises _ _)
  intro _
  apply raises_bind (text_field_raises _ _ _)
  intro _
  apply raises_bind (text_field_raises _ _ _)
  intro _
  apply raises_bind (cas_raises _)
  intro _
  exact raises_bind (canonical_raises _ _) fun _ => raises_pure _

theorem parse_request_raises (body : Bytes) :
    Protocol (parseCanonicalRequest readFloat floatText body) := by
  unfold parseCanonicalRequest
  apply raises_bind (document_raises _ _ _ _)
  intro fields
  apply raises_bind (validate_request_raises _ fields)
  intro _
  apply raises_bind (canonical_raises _ _)
  intro written
  exact raises_bind (raises_refuse trivial) fun _ => raises_pure _

theorem validate_receipt_raises (fields : List (Text × Json)) :
    Protocol (validateReceipt floatText fields) := by
  unfold validateReceipt
  refine raises_bind (raises_refuse trivial) fun _ => ?_
  refine raises_bind (raises_refuse trivial) fun _ => ?_
  apply raises_bind (text_field_raises _ _ _)
  intro _
  apply raises_bind (integer_raises _ _ _ _)
  intro sequence
  apply raises_bind (text_field_raises _ _ _)
  intro _
  apply raises_bind (transition_raises _ _)
  intro _
  apply raises_bind (text_field_raises _ _ _)
  intro _
  apply raises_bind (nullable_sha_raises _ _)
  intro previous
  apply raises_bind (text_field_raises _ _ _)
  intro _
  apply raises_bind (cas_raises _)
  intro expected
  refine raises_bind (raises_refuse trivial) fun _ => ?_
  refine raises_bind (raises_refuse trivial) fun _ => ?_
  apply raises_bind (text_field_raises _ _ _)
  intro _
  apply raises_bind (issued_at_raises _)
  intro _
  apply raises_bind (authentication_raises _ _)
  intro _
  exact raises_bind (canonical_raises _ _) fun _ => raises_pure _

theorem parse_receipt_raises (body : Bytes) :
    Protocol (parseCanonicalReceipt readFloat floatText body) := by
  unfold parseCanonicalReceipt
  apply raises_bind (document_raises _ _ _ _)
  intro fields
  apply raises_bind (validate_receipt_raises _ fields)
  intro _
  apply raises_bind (canonical_raises _ _)
  intro written
  exact raises_bind (raises_refuse trivial) fun _ => raises_pure _

theorem signature_message_raises (projection : List (Text × Json)) :
    Protocol (ledgerSignatureMessage floatText projection) := by
  unfold ledgerSignatureMessage
  refine raises_bind (raises_refuse trivial) fun _ => ?_
  refine raises_bind (raises_refuse trivial) fun _ => ?_
  exact raises_bind (canonical_raises _ _) fun _ => raises_pure _

theorem raises_document {Value : Type} {check : Except LedgerClientError Value}
    (known : Protocol check) :
    Raises LedgerClientError.isDocument check := by
  intro problem raised
  exact problem.document_of_protocol (known problem raised)

theorem copied_raises (receipt request : List (Text × Json)) :
    Raises LedgerClientError.isDocument (checkCopied receipt request) := by
  unfold checkCopied
  split
  · exact raises_ok ()
  · exact raises_error trivial

/-- A receipt that is not verified is outside the contract or does not bind the request; no other
class is raised for it. -/
theorem verify_receipt_raises (key : PinnedKey) (receiptBytes requestBytes : Bytes) :
    Raises LedgerClientError.isDocument
      (verifyReceipt readFloat floatText key receiptBytes requestBytes) := by
  unfold verifyReceipt
  refine raises_bind (raises_refuse trivial) fun _ => ?_
  apply raises_bind (raises_document (parse_request_raises _ _ _))
  intro request
  apply raises_bind (raises_document (parse_receipt_raises _ _ _))
  intro receipt
  apply raises_bind (copied_raises receipt request)
  intro _
  refine raises_bind (raises_refuse trivial) fun _ => ?_
  refine raises_bind (raises_refuse trivial) fun _ => ?_
  apply raises_bind (raises_document (authentication_raises _ _))
  intro signature
  apply raises_bind (raises_document (signature_message_raises _ _))
  intro message
  exact raises_bind (raises_refuse trivial) fun _ => raises_pure _

end Errors

end EvoomGuard.RoundLedger
