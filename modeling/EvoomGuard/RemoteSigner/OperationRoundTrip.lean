import EvoomGuard.RemoteSigner.Operation
import Mathlib.Algebra.Order.BigOperators.Group.List

/-!
Signer operations round-trip: what `build_operation` writes, `parse_operation_bytes` reads, and it
reads nothing else. The limits leave the size of a built operation no room to exceed its own.
-/

namespace EvoomGuard.RemoteSigner

open Lib Lib.Checks Lib.Framing

/-! Base64 fields -/

theorem decode_canonical_ok (label : String) (maximum : Nat) (value : Json) (raw : Bytes) :
    decodeCanonicalBase64 label maximum value = .ok raw ↔
      value = .string (Base64.encode raw) ∧ raw ≠ [] ∧ raw.length ≤ maximum := by
  cases value with
  | string text =>
    simp only [decodeCanonicalBase64, Json.string.injEq]
    constructor
    · intro decoded
      split at decoded
      · cases decoded
      · split at decoded
        · cases decoded
        · next bytes _ =>
            split at decoded
            · cases decoded
            · next kept =>
                rw [Except.ok.injEq] at decoded
                subst decoded
                simp only [Bool.or_eq_true, decide_eq_true_iff, bne_iff_ne, not_or, not_not,
                  Bool.not_eq_true, Nat.not_lt, List.isEmpty_eq_false_iff] at kept
                exact ⟨kept.2.symm, kept.1.1, kept.1.2⟩
    · intro facts
      rcases facts with ⟨written, proper, bounded⟩
      have positive := List.length_pos_iff.mpr proper
      have length := Base64.encode_length raw
      have full : (Base64.encode raw).isEmpty = false := by
        rw [List.isEmpty_eq_false_iff, ← List.length_pos_iff]
        omega
      have short : ¬(maximum + 2) / 3 * 4 < (Base64.encode raw).length := by
        rw [length]
        have steps : (raw.length + 2) / 3 ≤ (maximum + 2) / 3 := Nat.div_le_div_right (by omega)
        omega
      have present : raw.isEmpty = false := List.isEmpty_eq_false_iff.mpr proper
      subst written
      rw [full, Base64.decode_encode]
      simp [short, present, bounded]
  | _ => simp [decodeCanonicalBase64]

section

variable (host : Host) (label : String) (maximum : Nat) (raw : Bytes)
  (fields : List (Text × Json))
  (parsed : parseCanonicalObject host label maximum raw = .ok fields)
include parsed

theorem parse_bounds :
    raw ≠ [] ∧ raw.length ≤ maximum := by
  unfold parseCanonicalObject at parsed
  split at parsed
  · cases parsed
  · next kept =>
      simp only [Bool.or_eq_true, decide_eq_true_iff, not_or, Bool.not_eq_true, Nat.not_lt,
        List.isEmpty_eq_false_iff] at kept
      exact kept

theorem parse_canonical :
    (∃ text, JsonCodec.loads (numberHooks host) text = .ok (.object fields)) ∧
      canonicalJsonBytes host (.object fields) = .ok raw := by
  unfold parseCanonicalObject at parsed
  split at parsed
  · cases parsed
  · split at parsed
    · cases parsed
    · next text _ =>
        split at parsed
        · cases parsed
        · next loaded =>
            split at parsed
            · cases parsed
            · next bytes written =>
                split at parsed
                · cases parsed
                · next same =>
                    cases parsed
                    rw [not_not] at same
                    exact ⟨⟨text, loaded⟩, same ▸ written⟩
        · cases parsed

end

/-! Texts that are written as they are -/

def isPlainCharacter (character : Char) : Bool :=
  decide (32 ≤ character.toNat ∧ character.toNat < 127) && character != '"' && character != '\\'

theorem escape_plain (character : Char) (plain : isPlainCharacter character = true) :
    JsonCodec.escapeChar false character = [character] := by
  rw [isPlainCharacter, Bool.and_eq_true, Bool.and_eq_true, decide_eq_true_iff, bne_iff_ne,
    bne_iff_ne] at plain
  have absent : JsonCodec.shortEscapes.find? (fun pair => pair.2 == character) = none := by
    rw [List.find?_eq_none]
    intro pair inside same
    rw [beq_iff_eq] at same
    subst same
    have special : ∀ pair ∈ JsonCodec.shortEscapes,
        pair.2 = '"' ∨ pair.2 = '\\' ∨ pair.2.toNat < 32 := by decide
    rcases special pair inside with quote | slash | control
    · exact plain.1.2 quote
    · exact plain.2 slash
    · omega
  unfold JsonCodec.escapeChar
  rw [absent]
  simp only [Bool.false_and, Bool.false_eq_true, if_false]
  rw [if_neg (by omega)]

theorem quoted_plain (text : Text) (plain : text.all isPlainCharacter = true) :
    JsonCodec.quoted false text = '"' :: text ++ ['"'] := by
  have escaped : text.flatMap (JsonCodec.escapeChar false) = text := by
    rw [List.all_eq_true] at plain
    induction text with
    | nil => rfl
    | cons character rest ih =>
      rw [List.flatMap_cons, escape_plain character (plain character List.mem_cons_self),
        ih fun other inside => plain other (List.mem_cons_of_mem _ inside)]
      rfl
  rw [JsonCodec.quoted, escaped]

theorem plain_is_ascii (text : Text) (plain : text.all isPlainCharacter = true) :
    ∀ character ∈ text, character.toNat < 128 := by
  intro character inside
  have here := List.all_eq_true.mp plain character inside
  rw [isPlainCharacter, Bool.and_eq_true, Bool.and_eq_true, decide_eq_true_iff] at here
  omega

theorem plain_of_mem (signs : List Char) (known : signs.all isPlainCharacter = true) (text : Text)
    (inside : ∀ character ∈ text, character ∈ signs) : text.all isPlainCharacter = true := by
  rw [List.all_eq_true] at known ⊢
  intro character listed
  exact known character (inside character listed)

theorem hex64_plain (text : Text) (hex : Sha256.isHex64 text = true) :
    text.all isPlainCharacter = true ∧ text.length = 64 := by
  have facts := hex64_facts text hex
  exact ⟨plain_of_mem Sha256.hexDigits (by decide) text facts.2, facts.1⟩

theorem key_id_plain (text : Text) (known : isKeyId text = true) :
    text.all isPlainCharacter = true ∧ text.length = 71 := by
  have length := (key_id_facts text known).2
  rw [isKeyId, Bool.and_eq_true, Text.startsWith, List.isPrefixOf_iff_prefix] at known
  rcases known with ⟨⟨digits, joined⟩, hex⟩
  rw [← joined, List.drop_left] at hex
  apply And.intro _ length
  rw [← joined, List.all_append, Bool.and_eq_true]
  exact ⟨by decide, (hex64_plain digits hex).1⟩

theorem accepts_plain (pattern : TextPattern) (text : Text) (accepted : pattern.accepts text = true)
    (first : ∀ character, pattern.first character = true → isPlainCharacter character = true)
    (rest : ∀ character, pattern.rest character = true → isPlainCharacter character = true) :
    text.all isPlainCharacter = true := by
  cases text with
  | nil => cases accepted
  | cons character others =>
    simp only [TextPattern.accepts, Bool.and_eq_true, decide_eq_true_iff] at accepted
    rw [List.all_cons, Bool.and_eq_true, List.all_eq_true]
    apply And.intro (first character accepted.1.1.1)
    intro other inside
    exact rest other (List.all_eq_true.mp accepted.1.1.2 other inside)

theorem lower_is_plain (character : Char) (lower : isLower character = true) :
    isPlainCharacter character = true := by
  have bounds := of_decide_eq_true lower
  have least : 97 ≤ character.toNat := bounds.1
  have most : character.toNat ≤ 122 := bounds.2
  rw [isPlainCharacter, Bool.and_eq_true, Bool.and_eq_true, decide_eq_true_iff, bne_iff_ne,
    bne_iff_ne]
  refine ⟨⟨by omega, ?_⟩, ?_⟩
  · intro same
    rw [same] at least
    exact absurd least (by decide)
  · intro same
    rw [same] at least
    exact absurd least (by decide)

theorem digit_is_plain (character : Char) (digit : character.isDigit = true) :
    isPlainCharacter character = true := by
  rw [Char.isDigit, Bool.and_eq_true, decide_eq_true_iff, decide_eq_true_iff] at digit
  have least : 48 ≤ character.toNat := digit.1
  have most : character.toNat ≤ 57 := digit.2
  rw [isPlainCharacter, Bool.and_eq_true, Bool.and_eq_true, decide_eq_true_iff, bne_iff_ne,
    bne_iff_ne]
  refine ⟨⟨by omega, ?_⟩, ?_⟩
  · intro same
    rw [same] at least
    exact absurd least (by decide)
  · intro same
    rw [same] at most
    exact absurd most (by decide)

theorem lower_digit_is_plain (character : Char) (known : isLowerDigit character = true) :
    isPlainCharacter character = true := by
  rw [isLowerDigit, Bool.or_eq_true] at known
  rcases known with lower | digit
  · exact lower_is_plain character lower
  · exact digit_is_plain character digit

theorem sign_is_plain (signs : List Char) (plain : ∀ sign ∈ signs, isPlainCharacter sign = true)
    (character : Char) (known : signs.contains character = true) :
    isPlainCharacter character = true :=
  plain character (List.contains_iff_mem.mp known)

theorem identifier_plain (text : Text) (accepted : identifierPattern.accepts text = true) :
    text.all isPlainCharacter = true := by
  apply accepts_plain identifierPattern text accepted lower_digit_is_plain
  intro character known
  rcases Bool.or_eq_true .. |>.mp known with plain | sign
  · exact lower_digit_is_plain character plain
  · exact sign_is_plain ['.', '_', '-'] (each_of_all _ _ (by decide)) character sign

theorem role_plain (text : Text) (accepted : rolePattern.accepts text = true) :
    text.all isPlainCharacter = true := by
  apply accepts_plain rolePattern text accepted lower_is_plain
  intro character known
  rcases Bool.or_eq_true .. |>.mp known with plain | sign
  · exact lower_digit_is_plain character plain
  · rw [beq_iff_eq] at sign
    subst sign
    decide

theorem purpose_plain (text : Text) (accepted : purposePattern.accepts text = true) :
    text.all isPlainCharacter = true := by
  apply accepts_plain purposePattern text accepted lower_is_plain
  intro character known
  rcases Bool.or_eq_true .. |>.mp known with plain | sign
  · exact lower_digit_is_plain character plain
  · exact sign_is_plain ['.', '_', '-'] (each_of_all _ _ (by decide)) character sign

theorem base64_plain (bytes : Bytes) : (Base64.encode bytes).all isPlainCharacter = true := by
  apply plain_of_mem ('=' :: Base64.alphabet) (by decide +kernel)
  intro character inside
  rcases Base64.encode_symbols bytes character inside with symbol | padding
  · exact List.mem_cons_of_mem _ symbol
  · rw [padding]
    exact List.mem_cons_self

/-! Values of an operation -/

/-- Texts written as they are, lengths of a payload and `false`, with room for their characters. -/
def fitsRoom (room : Nat) : Json → Prop
  | .string text => text.all isPlainCharacter = true ∧ text.length + 2 ≤ room
  | .int value => 0 ≤ value ∧ value ≤ maxPayloadBytes ∧ 8 ≤ room
  | .bool flag => flag = false ∧ 5 ≤ room
  | _ => False

/-- The integers a signer operation holds. -/
def isSize (value : Int) : Bool := decide (0 ≤ value ∧ value ≤ maxPayloadBytes)

theorem size_text (value : Int) (known : isSize value = true) :
    ∃ size : Nat, value = size ∧ JsonCodec.intText value = JsonCodec.natText size ∧
      (JsonCodec.natText size).length ≤ 8 := by
  have bounds : 0 ≤ value ∧ value ≤ maxPayloadBytes := of_decide_eq_true known
  have limit : maxPayloadBytes < 10 ^ 8 := by decide
  refine ⟨value.natAbs, by omega, ?_, JsonCodec.nat_text_length _ 8 (by omega) (by decide)⟩
  rw [JsonCodec.intText, if_neg (by omega)]

theorem size_is_read (host : Host) (value : Int) (known : isSize value = true) :
    (numberHooks host).parseInt (JsonCodec.intText value) = .ok value := by
  rcases size_text value known with ⟨size, _, written, short⟩
  have digits : ¬19 < (if Text.startsWith (JsonCodec.intText value) ['-']
      then (JsonCodec.intText value).drop 1 else JsonCodec.intText value).length := by
    rw [written]
    split
    · rw [List.length_drop]
      omega
    · omega
  simp only [numberHooks]
  rw [if_neg digits, JsonCodec.int_value_text]

theorem digit_characters (size : Nat) : ∀ character ∈ JsonCodec.natText size,
    character.toNat < 128 := by
  intro character inside
  rcases JsonCodec.nat_text_shape size with ⟨digit, digits, shape, isDigit, each, _⟩
  have known : character.isDigit = true := by
    rw [shape, List.mem_cons] at inside
    rcases inside with first | later
    · rw [first]
      exact isDigit
    · exact List.all_eq_true.mp each character later
  have plain := digit_is_plain character known
  rw [isPlainCharacter, Bool.and_eq_true, Bool.and_eq_true, decide_eq_true_iff] at plain
  omega

structure ValueFacts (host : Host) (room : Nat) (value : Json) : Prop where
  sorted : JsonCodec.sortKeys value = value
  plain : JsonCodec.plain isSize value = true
  valid : validateJsonValue host 1 value = .ok ()
  ascii : ∀ character ∈ JsonCodec.encode false host.floatText value, character.toNat < 128
  length : (JsonCodec.encode false host.floatText value).length ≤ room

theorem value_facts (host : Host) (room : Nat) (value : Json) (fits : fitsRoom room value) :
    ValueFacts host room value := by
  have shallow : ¬maxJsonDepth < 1 := by decide
  cases value with
  | string text =>
    have ascii := plain_is_ascii text fits.1
    have written := quoted_plain text fits.1
    constructor
    · rw [JsonCodec.sortKeys]
    · rw [JsonCodec.plain]
    · rw [validateJsonValue, if_neg shallow, validateJsonScalar, host.nfc_ascii text ascii]
      simp
    · intro character inside
      rw [JsonCodec.encode, written, List.cons_append, List.mem_cons, List.mem_append,
        List.mem_singleton] at inside
      rcases inside with opening | within | closing
      · rw [opening]
        decide
      · exact ascii character within
      · rw [closing]
        decide
    · rw [JsonCodec.encode, written, List.length_append, List.length_cons, List.length_singleton]
      have bound := fits.2
      omega
  | int value =>
    have known : isSize value = true := decide_eq_true ⟨fits.1, fits.2.1⟩
    have limit : maxPayloadBytes < 10 ^ 8 := by decide
    have bounds := fits.2
    rcases size_text value known with ⟨size, _, written, short⟩
    constructor
    · rw [JsonCodec.sortKeys]
    · rw [JsonCodec.plain]
      exact known
    · rw [validateJsonValue, if_neg shallow, validateJsonScalar, if_pos]
      have least := fits.1
      omega
    · rw [JsonCodec.encode, written]
      exact digit_characters size
    · rw [JsonCodec.encode, written]
      omega
  | bool flag =>
    have same : flag = false := fits.1
    subst same
    constructor
    · rw [JsonCodec.sortKeys]
    · rw [JsonCodec.plain]
    · rw [validateJsonValue, if_neg shallow]
    · rw [JsonCodec.encode]
      exact each_of_all _ _ (by decide)
    · rw [JsonCodec.encode]
      exact fits.2
  | null | float value | array items | object fields => exact fits.elim

theorem base64_room (bytes : Bytes) (maximum : Nat) (bounded : bytes.length ≤ maximum) :
    fitsRoom ((maximum + 2) / 3 * 4 + 2) (.string (Base64.encode bytes)) := by
  apply And.intro (base64_plain bytes)
  rw [Base64.encode_length]
  have steps : (bytes.length + 2) / 3 ≤ (maximum + 2) / 3 := Nat.div_le_div_right (by omega)
  omega

/-! The keys of an operation -/

namespace OperationKey

/-- The longest value a key can have, with its quotes. -/
def room : OperationKey → Nat
  | schemaVersion => operationSchema.length + 2
  | operationId => 66
  | gateContractSha256 => 66
  | authorizationReceiptSha256 => 66
  | authorizationReceiptCanonicalBase64 => (maxAuthorizationReceiptBytes + 2) / 3 * 4 + 2
  | authorityRole => 66
  | authorityKeyId => 73
  | signatureDomain => detachedSignatureSchema.length + 2
  | signaturePurpose => 130
  | roundId => 66
  | slotId => 66
  | payloadSha256 => 66
  | payloadSizeBytes => 8
  | payloadCanonicalBase64 => (maxPayloadBytes + 2) / 3 * 4 + 2
  | fieldClaimAuthorized => 5
  | runtimeGateComplete => 5
  | nonForkingProven => 5

theorem all_mem (key : OperationKey) : key ∈ all := by
  cases key <;> decide

theorem names_distinct : (all.map name).Nodup := by
  decide +kernel

theorem name_plain (key : OperationKey) : key.name.all isPlainCharacter = true := by
  cases key <;> decide

theorem rooms_fit : 2 + (all.map fun key => key.name.length + 2 + key.room + 2).sum ≤
    maxOperationBytes := by
  decide

end OperationKey

/-! Built operations -/

/-- What `build_operation` asks of its arguments before it writes anything. -/
structure RequestFacts (host : Host) (request : OperationRequest) (operationId : Text) : Prop where
  receipt : ∃ fields, parseCanonicalObject host "authorization receipt"
    maxAuthorizationReceiptBytes request.authorizationReceiptBytes = .ok fields
  payload : ∃ fields, parseCanonicalObject host "signature payload" maxPayloadBytes
    request.payloadBytes = .ok fields
  derived : deriveOperationId request.identity = .ok operationId

def OperationRequest.parts (request : OperationRequest) (operationId : Text) : OperationParts :=
  ⟨operationId, request.identity, request.authorizationReceiptBytes, request.payloadBytes⟩

section Built

variable {host : Host} {request : OperationRequest} {operationId : Text}
  (facts : RequestFacts host request operationId)

include facts

theorem receipt_bounds : request.authorizationReceiptBytes ≠ [] ∧
    request.authorizationReceiptBytes.length ≤ maxAuthorizationReceiptBytes := by
  rcases facts.receipt with ⟨fields, parsed⟩
  exact parse_bounds host _ _ _ fields parsed

theorem payload_bounds : request.payloadBytes ≠ [] ∧
    request.payloadBytes.length ≤ maxPayloadBytes := by
  rcases facts.payload with ⟨fields, parsed⟩
  exact parse_bounds host _ _ _ fields parsed

theorem request_operation_facts :
    OperationFacts host (request.value operationId) (request.parts operationId) where
  schema := rfl
  fieldClaim := rfl
  runtimeGate := rfl
  nonForking := rfl
  operationId := rfl
  gate := rfl
  authorization := rfl
  role := rfl
  keyId := rfl
  domain := rfl
  purpose := rfl
  round := rfl
  slot := rfl
  payload := rfl
  size := rfl
  receiptBytes := (decode_canonical_ok ..).mpr ⟨rfl, receipt_bounds facts⟩
  payloadBytes := (decode_canonical_ok ..).mpr ⟨rfl, payload_bounds facts⟩
  receiptParsed := facts.receipt
  payloadParsed := facts.payload
  receiptDigest := rfl
  payloadDigest := rfl
  payloadSize := rfl
  derived := facts.derived

theorem request_value_fits (key : OperationKey) :
    fitsRoom key.room (request.value operationId key) := by
  have derived := derive_facts request.identity operationId facts.derived
  have digest (text : Text) (hex : Sha256.isHex64 text = true) : fitsRoom 66 (.string text) := by
    have known := hex64_plain text hex
    exact ⟨known.1, by omega⟩
  cases key with
  | schemaVersion | signatureDomain => exact ⟨by decide, Nat.le_refl _⟩
  | operationId => exact digest operationId derived.2
  | gateContractSha256 => exact digest _ derived.1.gate
  | authorizationReceiptSha256 => exact digest _ derived.1.authorization
  | authorizationReceiptCanonicalBase64 => exact base64_room _ _ (receipt_bounds facts).2
  | authorityRole =>
    have length := (role_facts _ derived.1.role).2
    exact ⟨role_plain _ derived.1.role, Nat.add_le_add_right length 2⟩
  | authorityKeyId =>
    have known := key_id_plain _ derived.1.keyId
    exact ⟨known.1, Nat.add_le_add_right (Nat.le_of_eq known.2) 2⟩
  | signaturePurpose =>
    have length := (purpose_facts _ derived.1.purpose).2
    exact ⟨purpose_plain _ derived.1.purpose, Nat.add_le_add_right length 2⟩
  | roundId =>
    have length := (identifier_facts _ derived.1.round).2
    exact ⟨identifier_plain _ derived.1.round, Nat.add_le_add_right length 2⟩
  | slotId => exact digest _ derived.1.slot
  | payloadSha256 => exact digest _ derived.1.payload
  | payloadSizeBytes =>
    have bound := (payload_bounds facts).2
    exact ⟨Int.natCast_nonneg _, Int.ofNat_le.mpr bound, Nat.le_refl _⟩
  | payloadCanonicalBase64 => exact base64_room _ _ (payload_bounds facts).2
  | fieldClaimAuthorized | runtimeGateComplete | nonForkingProven => exact ⟨rfl, Nat.le_refl _⟩

theorem operation_member (field : Text × Json) (inside : field ∈ request.operation operationId) :
    ∃ key : OperationKey, field.1 = key.name ∧ ValueFacts host key.room field.2 := by
  rcases List.mem_map.mp inside with ⟨key, _, same⟩
  subst same
  exact ⟨key, rfl, value_facts host key.room _ (request_value_fits facts key)⟩

end Built

/-! Operations up to the order of their fields -/

theorem validate_fields_ok (host : Host) (depth : Nat) (fields : List (Text × Json))
    (keys : ∀ field ∈ fields, field.1.all (fun character => decide (character.toNat < 128)) = true)
    (values : ∀ field ∈ fields, validateJsonValue host depth field.2 = .ok ()) :
    validateJsonFields host depth fields = .ok () := by
  induction fields with
  | nil => rw [validateJsonFields]
  | cons field rest ih =>
    rcases field with ⟨key, value⟩
    rw [validateJsonFields, if_pos (keys _ List.mem_cons_self), values _ List.mem_cons_self]
    exact ih (fun other inside => keys other (List.mem_cons_of_mem _ inside))
      (fun other inside => values other (List.mem_cons_of_mem _ inside))

theorem operation_keys (request : OperationRequest) (operationId : Text) :
    (request.operation operationId).map Prod.fst = OperationKey.all.map OperationKey.name := by
  rw [OperationRequest.operation, List.map_map]
  rfl

section Ordered

variable {request : OperationRequest} {operationId : Text} {fields : List (Text × Json)}
  (same : fields.Perm (request.operation operationId))

include same

theorem ordered_distinct : (fields.map Prod.fst).Nodup := by
  rw [(same.map Prod.fst).nodup_iff, operation_keys]
  exact OperationKey.names_distinct

theorem ordered_get (key : OperationKey) :
    operationGet fields key = request.value operationId key := by
  have listed : (key.name, request.value operationId key) ∈ fields :=
    same.mem_iff.mpr (List.mem_map.mpr ⟨key, key.all_mem, rfl⟩)
  rw [operationGet, lookup_of_mem fields (ordered_distinct same) _ _ listed, Option.getD_some]

theorem ordered_has_exactly :
    hasExactly (OperationKey.all.map OperationKey.name) fields = true := by
  have names (name : Text) :
      name ∈ fields.map Prod.fst ↔ name ∈ OperationKey.all.map OperationKey.name := by
    rw [(same.map Prod.fst).mem_iff, operation_keys]
  rw [hasExactly, Bool.and_eq_true, List.all_eq_true, List.all_eq_true]
  constructor
  · intro name inside
    rw [List.contains_iff_mem, names]
    exact inside
  · intro name inside
    rw [List.contains_iff_mem, ← names]
    exact inside

variable {host : Host} (facts : RequestFacts host request operationId)

include facts

theorem ordered_member (field : Text × Json) (inside : field ∈ fields) :
    ∃ key : OperationKey, field.1 = key.name ∧ ValueFacts host key.room field.2 :=
  operation_member facts field (same.mem_iff.mp inside)

theorem ordered_canonical : canonicalJsonBytes host (.object fields) =
    .ok (utf8 (JsonCodec.dumps false host.floatText (.object (request.operation operationId)))) := by
  have valid : validateJsonValue host 0 (.object fields) = .ok () := by
    rw [validateJsonValue, if_neg (by decide)]
    apply validate_fields_ok
    · intro field inside
      rcases ordered_member same facts field inside with ⟨key, name, _⟩
      have ascii := plain_is_ascii key.name key.name_plain
      rw [name, List.all_eq_true]
      intro character listed
      exact decide_eq_true (ascii character listed)
    · intro field inside
      rcases ordered_member same facts field inside with ⟨_, _, value⟩
      exact value.valid
  unfold canonicalJsonBytes
  rw [valid]
  simp only [JsonCodec.dumps]
  rw [JsonCodec.sort_keys_perm _ _ same (ordered_distinct same)]

theorem ordered_validated :
    validateOperation host fields = .ok (request.parts operationId) := by
  have get : operationGet fields = request.value operationId := funext (ordered_get same)
  have checked := check_operation_of_facts host _ _ (request_operation_facts facts)
  unfold validateOperation
  rw [ordered_has_exactly same, get, checked, ordered_canonical same facts]
  rfl

end Ordered

/-! What is written and read back -/

section

variable {host : Host} {request : OperationRequest} {operationId : Text}
  (facts : RequestFacts host request operationId)

include facts

theorem operation_sorted :
    JsonCodec.sortKeys (.object (request.operation operationId)) =
      .object (JsonCodec.sortFields (request.operation operationId)) := by
  rw [JsonCodec.sortKeys, JsonCodec.sort_values_flat]
  intro field inside
  rcases operation_member facts field inside with ⟨_, _, value⟩
  exact value.sorted

theorem operation_plain :
    JsonCodec.plain isSize (.object (JsonCodec.sortFields (request.operation operationId))) =
      true := by
  have ordered := JsonCodec.sort_fields_perm (request.operation operationId)
  rw [JsonCodec.plain, Bool.and_eq_true, decide_eq_true_iff]
  apply And.intro (ordered_distinct ordered)
  rw [JsonCodec.plain_fields_iff]
  intro field inside
  rcases ordered_member ordered facts field inside with ⟨_, _, value⟩
  exact value.plain

theorem operation_text_ascii : ∀ character ∈ JsonCodec.dumps false host.floatText
    (.object (request.operation operationId)), character.toNat < 128 := by
  have ordered := JsonCodec.sort_fields_perm (request.operation operationId)
  rw [JsonCodec.dumps, operation_sorted facts]
  apply JsonCodec.encode_object_characters false host.floatText (fun character =>
    character.toNat < 128) (each_of_all _ _ (by decide))
  intro field inside character listed
  rcases ordered_member ordered facts field inside with ⟨key, name, value⟩
  have ascii := plain_is_ascii key.name key.name_plain
  rw [name, quoted_plain key.name key.name_plain, List.cons_append, List.cons_append,
    List.mem_cons, List.mem_append, List.mem_append, List.mem_singleton] at listed
  rcases listed with opening | (within | closing) | text
  · rw [opening]
    decide
  · exact ascii character within
  · rw [closing]
    decide
  · exact value.ascii character text

theorem operation_text_length : (JsonCodec.dumps false host.floatText
    (.object (request.operation operationId))).length ≤ maxOperationBytes := by
  have ordered := JsonCodec.sort_fields_perm (request.operation operationId)
  have members : ∀ key ∈ OperationKey.all,
      (JsonCodec.quoted false key.name).length + (JsonCodec.encode false host.floatText
        (request.value operationId key)).length + 2 ≤ key.name.length + 2 + key.room + 2 := by
    intro key _
    have value := value_facts host key.room _ (request_value_fits facts key)
    have length := value.length
    rw [quoted_plain key.name key.name_plain, List.length_append, List.length_cons,
      List.length_singleton]
    omega
  have total := List.sum_le_sum members
  have limit := OperationKey.rooms_fit
  have whole := JsonCodec.encode_object_length false host.floatText
    (JsonCodec.sortFields (request.operation operationId))
  rw [(ordered.map _).sum_eq, OperationRequest.operation, List.map_map] at whole
  rw [JsonCodec.dumps, operation_sorted facts]
  calc
    _ ≤ _ := whole
    _ ≤ 2 + (OperationKey.all.map fun key => key.name.length + 2 + key.room + 2).sum :=
        Nat.add_le_add_left total 2
    _ ≤ maxOperationBytes := limit

theorem operation_built : ∃ raw, buildOperation host request = .ok (operationId, raw) ∧
    raw ≠ [] ∧ raw.length ≤ maxOperationBytes ∧
    raw = utf8 (JsonCodec.dumps false host.floatText (.object (request.operation operationId))) := by
  obtain ⟨text, written⟩ : ∃ text, text = JsonCodec.dumps false host.floatText
    (.object (request.operation operationId)) := ⟨_, rfl⟩
  have same := List.Perm.refl (request.operation operationId)
  have short := operation_text_length facts
  have ascii := operation_text_ascii facts
  have canonical := ordered_canonical same facts
  have validated := ordered_validated same facts
  have proper : text ≠ [] := by
    rw [written, JsonCodec.dumps, operation_sorted facts, JsonCodec.encode]
    exact List.cons_ne_nil _ _
  rcases facts.receipt with ⟨receiptFields, receipt⟩
  rcases facts.payload with ⟨payloadFields, payload⟩
  rw [← written] at short ascii canonical
  have length := utf8_ascii_length text ascii
  refine ⟨utf8 text, ?_, ?_, by omega, by rw [written]⟩
  · unfold buildOperation
    simp only [bind_ok, pure_ok, refuse_ok]
    exact ⟨receiptFields, receipt, payloadFields, payload, operationId, facts.derived,
      request.parts operationId, validated, utf8 text, canonical, (), by omega, rfl⟩
  · rw [← List.length_pos_iff, length]
    exact List.length_pos_iff.mpr proper

theorem operation_read :
    parseOperationBytes host (utf8 (JsonCodec.dumps false host.floatText
      (.object (request.operation operationId)))) =
        .ok (JsonCodec.sortFields (request.operation operationId), request.parts operationId) := by
  have ordered := JsonCodec.sort_fields_perm (request.operation operationId)
  rcases operation_built facts with ⟨raw, _, proper, bounded, written⟩
  have loaded : JsonCodec.loads (numberHooks host) (JsonCodec.dumps false host.floatText
      (.object (request.operation operationId))) =
        .ok (.object (JsonCodec.sortFields (request.operation operationId))) := by
    have read := @JsonCodec.loads_encode false host.floatText (numberHooks host) isSize
      (size_is_read host) _ (operation_plain facts) [] rfl
    rw [List.append_nil] at read
    rw [JsonCodec.dumps, operation_sorted facts]
    exact read
  have parsed : parseCanonicalObject host "runtime signer operation" maxOperationBytes raw =
      .ok (JsonCodec.sortFields (request.operation operationId)) := by
    unfold parseCanonicalObject
    rw [List.isEmpty_eq_false_iff.mpr proper, Bool.false_or,
      decide_eq_false (Nat.not_lt.mpr bounded), written, utf8_decode_encode]
    simp only [Bool.false_eq_true, if_false]
    rw [loaded]
    simp only
    rw [ordered_canonical ordered facts]
    simp
  rw [← written]
  unfold parseOperationBytes
  rw [parsed]
  simp only
  rw [ordered_validated ordered facts]

end

/-! What is accepted was built -/

/-- The arguments of `build_operation` that an accepted operation decodes to. -/
def OperationParts.request (parts : OperationParts) : OperationRequest where
  gateContractSha256 := parts.identity.gateContractSha256
  authorizationReceiptBytes := parts.authorizationBytes
  authorityRole := parts.identity.authorityRole
  authorityKeyId := parts.identity.authorityKeyId
  signaturePurpose := parts.identity.signaturePurpose
  roundId := parts.identity.roundId
  slotId := parts.identity.slotId
  payloadBytes := parts.payloadBytes

section Accepted

variable {host : Host} {get : OperationKey → Json} {parts : OperationParts}
  (facts : OperationFacts host get parts)

include facts

theorem accepted_identity : parts.request.identity = parts.identity := by
  have identity := (derive_facts _ _ facts.derived).1
  have receipt := facts.receiptDigest
  have payload := facts.payloadDigest
  have size := facts.payloadSize
  have domain := identity.domain
  rcases parts with ⟨_, ⟨_, _, _, _, _, _, _, _, _, _⟩, _, _⟩
  simp only at receipt payload size domain
  simp only [OperationParts.request, OperationRequest.identity, receipt, payload, size, domain]

theorem accepted_request_facts : RequestFacts host parts.request parts.operationId where
  receipt := facts.receiptParsed
  payload := facts.payloadParsed
  derived := by
    rw [accepted_identity facts]
    exact facts.derived

theorem accepted_value (key : OperationKey) :
    get key = parts.request.value parts.operationId key := by
  have identity := accepted_identity facts
  have receipt := congrArg OperationIdentity.authorizationReceiptSha256 identity
  have payload := congrArg OperationIdentity.payloadSha256 identity
  have size := congrArg OperationIdentity.payloadSizeBytes identity
  have domain := congrArg OperationIdentity.signatureDomain identity
  simp only [OperationRequest.identity] at receipt payload size domain
  cases key with
  | schemaVersion => exact facts.schema
  | operationId => exact facts.operationId
  | gateContractSha256 => exact facts.gate
  | authorizationReceiptSha256 =>
    rw [facts.authorization, ← receipt]
    rfl
  | authorizationReceiptCanonicalBase64 =>
    exact ((decode_canonical_ok ..).mp facts.receiptBytes).1
  | authorityRole => exact facts.role
  | authorityKeyId => exact facts.keyId
  | signatureDomain =>
    rw [facts.domain, ← domain]
    rfl
  | signaturePurpose => exact facts.purpose
  | roundId => exact facts.round
  | slotId => exact facts.slot
  | payloadSha256 =>
    rw [facts.payload, ← payload]
    rfl
  | payloadSizeBytes =>
    rw [facts.size, ← size]
    rfl
  | payloadCanonicalBase64 => exact ((decode_canonical_ok ..).mp facts.payloadBytes).1
  | fieldClaimAuthorized => exact facts.fieldClaim
  | runtimeGateComplete => exact facts.runtimeGate
  | nonForkingProven => exact facts.nonForking

end Accepted

theorem fields_of_values (request : OperationRequest) (operationId : Text)
    (fields : List (Text × Json)) (distinct : (fields.map Prod.fst).Nodup)
    (exact_keys : hasExactly (OperationKey.all.map OperationKey.name) fields = true)
    (values : ∀ key, operationGet fields key = request.value operationId key) :
    fields.Perm (request.operation operationId) := by
  rw [hasExactly, Bool.and_eq_true, List.all_eq_true, List.all_eq_true] at exact_keys
  have otherDistinct : ((request.operation operationId).map Prod.fst).Nodup := by
    rw [operation_keys]
    exact OperationKey.names_distinct
  have found (key : OperationKey) (value : Json) (inside : (key.name, value) ∈ fields) :
      value = request.value operationId key := by
    rw [← values key, operationGet, lookup_of_mem fields distinct _ _ inside, Option.getD_some]
  rw [List.perm_ext_iff_of_nodup (List.Nodup.of_map _ distinct) (List.Nodup.of_map _ otherDistinct)]
  intro field
  rcases field with ⟨name, value⟩
  constructor
  · intro inside
    have known := exact_keys.2 name (List.mem_map.mpr ⟨_, inside, rfl⟩)
    rw [List.contains_iff_mem] at known
    rcases List.mem_map.mp known with ⟨key, listed, spelled⟩
    subst spelled
    exact List.mem_map.mpr ⟨key, listed, by rw [found key value inside]⟩
  · intro inside
    rcases List.mem_map.mp inside with ⟨key, listed, same⟩
    rw [Prod.mk.injEq] at same
    rcases same with ⟨spelled, written⟩
    subst spelled
    have known := exact_keys.1 key.name (List.mem_map.mpr ⟨key, listed, rfl⟩)
    rw [List.contains_iff_mem] at known
    rcases List.mem_map.mp known with ⟨⟨other, present⟩, there, spelled⟩
    simp only at spelled
    subst spelled
    rw [← written, ← found key present there]
    exact there

theorem parse_operation_ok (host : Host) (raw : Bytes) (fields : List (Text × Json))
    (parts : OperationParts) (parsed : parseOperationBytes host raw = .ok (fields, parts)) :
    OperationFacts host (operationGet fields) parts ∧
      fields.Perm (parts.request.operation parts.operationId) ∧
      canonicalJsonBytes host (.object fields) = .ok raw ∧ raw.length ≤ maxOperationBytes := by
  unfold parseOperationBytes at parsed
  split at parsed
  · cases parsed
  · next read readOk =>
      split at parsed
      · cases parsed
      · next readParts validated =>
          cases parsed
          have bounds := parse_bounds host _ _ raw _ readOk
          rcases parse_canonical host _ _ raw _ readOk with ⟨⟨text, loaded⟩, canonical⟩
          unfold validateOperation at validated
          split at validated
          · cases validated
          · next keys =>
              rw [Bool.not_eq_true, Bool.not_eq_eq_eq_not, Bool.not_false] at keys
              split at validated
              · cases validated
              · next checked =>
                  split at validated
                  · cases validated
                  · cases validated
                    have facts := check_operation_facts host _ _ checked
                    have distinct := JsonCodec.loads_distinct _ _ _ loaded
                    exact ⟨facts, fields_of_values _ _ _ distinct keys (accepted_value facts),
                      canonical, bounds.2⟩

/-- Whatever `build_operation` is given of an accepted receipt, an accepted payload and the values
`derive_operation_id` accepts, it writes; what it writes is read with the same operation ID and the
exact payload; and what is read was written for the values it decodes to. -/
theorem signer_operations_round_trip (host : Host) :
    (∀ (request : OperationRequest) (receipt payload : List (Text × Json)) (operationId : Text),
      parseCanonicalObject host "authorization receipt" maxAuthorizationReceiptBytes
        request.authorizationReceiptBytes = .ok receipt →
      parseCanonicalObject host "signature payload" maxPayloadBytes request.payloadBytes =
        .ok payload →
      deriveOperationId request.identity = .ok operationId →
      ∃ raw fields parts, buildOperation host request = .ok (operationId, raw) ∧
        parseOperationBytes host raw = .ok (fields, parts) ∧
        operationGet fields .operationId = .string operationId ∧
        operationPayloadBytes fields = .ok request.payloadBytes) ∧
    (∀ (raw : Bytes) (fields : List (Text × Json)) (parts : OperationParts),
      parseOperationBytes host raw = .ok (fields, parts) →
        buildOperation host parts.request = .ok (parts.operationId, raw) ∧
        operationGet fields .operationId = .string parts.operationId ∧
        operationPayloadBytes fields = .ok parts.payloadBytes) := by
  constructor
  · intro request receipt payload operationId receiptRead payloadRead derived
    have facts : RequestFacts host request operationId :=
      ⟨⟨receipt, receiptRead⟩, ⟨payload, payloadRead⟩, derived⟩
    have ordered := JsonCodec.sort_fields_perm (request.operation operationId)
    rcases operation_built facts with ⟨raw, built, _, _, written⟩
    refine ⟨raw, _, _, built, written ▸ operation_read facts, ordered_get ordered _, ?_⟩
    rw [operationPayloadBytes, ordered_get ordered]
    exact (request_operation_facts facts).payloadBytes
  · intro raw fields parts parsed
    rcases parse_operation_ok host raw fields parts parsed with ⟨facts, same, canonical, _⟩
    have request := accepted_request_facts facts
    rcases operation_built request with ⟨written, built, _, _, text⟩
    have bytes : written = raw := by
      rw [ordered_canonical same request, Except.ok.injEq] at canonical
      rw [text, canonical]
    exact ⟨bytes ▸ built, facts.operationId, facts.payloadBytes⟩

def sampleHost : Host where
  nfc := id
  nfc_ascii := fun _ _ => rfl
  readFloat := fun _ => 0
  floatText := fun _ => []

def sampleRequest : OperationRequest where
  gateContractSha256 := List.replicate 64 '0'
  authorizationReceiptBytes := utf8 ['\x7b', '\x7d']
  authorityRole := "curator"
  authorityKeyId := "sha256:" ++ List.replicate 64 '0'
  signaturePurpose := "label"
  roundId := "round-1"
  slotId := List.replicate 64 '0'
  payloadBytes := utf8 ['\x7b', '\x7d']

theorem sample_object_parsed (label : String) (maximum : Nat) (room : 2 ≤ maximum) :
    parseCanonicalObject sampleHost label maximum (utf8 ['\x7b', '\x7d']) = .ok [] := by
  have bytes : utf8 ['\x7b', '\x7d'] = [0x7b, 0x7d] := by decide
  have loaded : JsonCodec.loads (numberHooks sampleHost) ['\x7b', '\x7d'] = .ok (.object []) := rfl
  have bounded : ¬maximum < 2 := by omega
  have written : canonicalJsonBytes sampleHost (.object []) = .ok (utf8 ['\x7b', '\x7d']) := rfl
  unfold parseCanonicalObject
  rw [utf8_decode_encode]
  simp only [loaded, written]
  rw [bytes]
  simp [bounded]

theorem sample_operation_round_trips : ∃ operationId raw fields parts,
    buildOperation sampleHost sampleRequest = .ok (operationId, raw) ∧
      parseOperationBytes sampleHost raw = .ok (fields, parts) ∧
        operationPayloadBytes fields = .ok sampleRequest.payloadBytes := by
  have facts : IdentityFacts sampleRequest.identity := by
    constructor
    · decide
    · exact Sha256.hexdigest_bytes_is_hex _
    · decide
    · decide
    · rfl
    · decide
    · decide
    · decide
    · decide
    · exact Sha256.hexdigest_bytes_is_hex _
    · decide
  rcases derive_of_facts _ facts with ⟨operationId, derived⟩
  rcases (signer_operations_round_trip sampleHost).1 sampleRequest [] [] operationId
    (sample_object_parsed _ _ (by decide)) (sample_object_parsed _ _ (by decide))
    derived with ⟨raw, fields, parts, built, parsed, _, payload⟩
  exact ⟨operationId, raw, fields, parts, built, parsed, payload⟩

end EvoomGuard.RemoteSigner
