import EvoomGuard.RemoteSigner.Contract

/-!
Signed messages are told apart by their bytes: the framed fields can be read off a message, and
the magics, each closed by its only NUL byte, keep the kinds of messages apart.
-/

namespace EvoomGuard.RemoteSigner

open Lib Lib.Framing

theorem ascii_bytes_length (text : Text) : (asciiBytes text).length = text.length :=
     List.length_map ..

theorem ascii_bytes_back (text : Text) (ascii : isAscii text = true) :
    (asciiBytes text).map (fun byte => Char.ofNat byte.toNat) = text := by
  unfold isAscii at ascii
  rw [List.all_eq_true] at ascii
  rw [asciiBytes, List.map_map]
  conv_rhs => rw [← List.map_id text]
  apply List.map_congr_left
  intro character inside
  have small : character.toNat < 128 := of_decide_eq_true (ascii character inside)
  have byte : (UInt8.ofNat character.toNat).toNat = character.toNat := by
    rw [UInt8.toNat_ofNat']
    exact Nat.mod_eq_of_lt (by omega)
  rw [Function.comp_apply, byte, Char.ofNat_toNat]
  rfl

theorem ascii_bytes_injective (left right : Text) (leftAscii : isAscii left = true)
    (rightAscii : isAscii right = true) (same : asciiBytes left = asciiBytes right) :
    left = right := by
  rw [← ascii_bytes_back left leftAscii, same, ascii_bytes_back right rightAscii]

theorem hex_nibble_lt : ∀ digit ∈ Sha256.hexDigits, hexNibble digit < 16 :=
  each_of_all _ _ (by decide)

theorem hex_nibble_back : ∀ digit ∈ Sha256.hexDigits, JsonCodec.hexDigit
    (hexNibble digit) = digit :=
  each_of_all _ _ (by decide)

theorem hex_pair_injective : ∀ high ∈ Sha256.hexDigits, ∀ low ∈ Sha256.hexDigits,
    ∀ otherHigh ∈ Sha256.hexDigits, ∀ otherLow ∈ Sha256.hexDigits,
      16 * hexNibble high + hexNibble low = 16 * hexNibble otherHigh + hexNibble otherLow →
        high = otherHigh ∧ low = otherLow := by
  have apart (digit other : Char) (known : digit ∈ Sha256.hexDigits)
      (otherKnown : other ∈ Sha256.hexDigits) (same : hexNibble digit = hexNibble other) :
      digit = other := by
    rw [← hex_nibble_back digit known, same, hex_nibble_back other otherKnown]
  intro high highDigit low lowDigit otherHigh otherHighDigit otherLow otherLowDigit same
  have lowBound := hex_nibble_lt low lowDigit
  have otherBound := hex_nibble_lt otherLow otherLowDigit
  constructor
  · exact apart high otherHigh highDigit otherHighDigit (by omega)
  · exact apart low otherLow lowDigit otherLowDigit (by omega)

theorem hex_pair_byte (high low : Char) (highDigit : high ∈ Sha256.hexDigits)
    (lowDigit : low ∈ Sha256.hexDigits) :
    (UInt8.ofNat (16 * hexNibble high + hexNibble low)).toNat =
      16 * hexNibble high + hexNibble low := by
  have highBound := hex_nibble_lt high highDigit
  have lowBound := hex_nibble_lt low lowDigit
  rw [UInt8.toNat_ofNat']
  exact Nat.mod_eq_of_lt (by omega)

theorem from_hex_injective (left right : Text) (length : left.length = right.length)
    (even : left.length % 2 = 0) (leftDigits : ∀ digit ∈ left, digit ∈ Sha256.hexDigits)
    (rightDigits : ∀ digit ∈ right, digit ∈ Sha256.hexDigits)
    (same : fromHex left = fromHex right) : left = right := by
  induction left using fromHex.induct generalizing right with
  | case1 high low rest ih =>
    match right with
    | [] => cases length
    | [single] =>
      simp only [List.length_cons, List.length_nil] at length
      omega
    | otherHigh :: otherLow :: others =>
      simp only [List.forall_mem_cons] at leftDigits rightDigits
      simp only [List.length_cons] at length even
      rw [fromHex, fromHex, List.cons.injEq] at same
      have byte := congrArg UInt8.toNat same.1
      rw [hex_pair_byte high low leftDigits.1 leftDigits.2.1,
        hex_pair_byte otherHigh otherLow rightDigits.1 rightDigits.2.1] at byte
      have pair := hex_pair_injective high leftDigits.1 low leftDigits.2.1 otherHigh
        rightDigits.1 otherLow rightDigits.2.1 byte
      have later := ih others (by omega) (by omega) leftDigits.2.2 rightDigits.2.2 same.2
      rw [pair.1, pair.2, later]
  | case2 left short =>
    match left with
    | [] =>
      cases right with
      | nil => rfl
      | cons digit digits => cases length
    | [single] => cases even
    | high :: low :: rest => exact absurd rfl (short high low rest)

theorem hex64_facts (text : Text) (hex : Sha256.isHex64 text = true) :
    text.length = 64 ∧ ∀ digit ∈ text, digit ∈ Sha256.hexDigits := by
  rw [Sha256.isHex64, Bool.and_eq_true, beq_iff_eq, List.all_eq_true] at hex
  apply And.intro hex.1
  intro digit inside
  exact List.contains_iff_mem.mp (hex.2 digit inside)

theorem digest_bytes_injective (left right : Text) (leftHex : Sha256.isHex64 left = true)
    (rightHex : Sha256.isHex64 right = true) (same : fromHex left = fromHex right) :
    left = right := by
  have leftFacts := hex64_facts left leftHex
  have rightFacts := hex64_facts right rightHex
  apply from_hex_injective left right _ _ leftFacts.2 rightFacts.2 same
  · rw [leftFacts.1, rightFacts.1]
  · rw [leftFacts.1]

theorem from_hex_length (text : Text) : (fromHex text).length = text.length / 2 := by
  induction text using fromHex.induct with
  | case1 high low rest ih =>
    simp only [fromHex, List.length_cons, ih]
    omega
  | case2 text short =>
    match text with
    | [] => rfl
    | [single] => simp [fromHex]
    | high :: low :: rest => exact absurd rfl (short high low rest)

theorem require_string_ok (accepts : Text → Bool) (problem : SignerProtocolError) (value : Json)
    (text : Text) :
    requireString accepts problem value = .ok text ↔ value = .string text ∧ accepts text = true := by
  cases value with
  | string given =>
    simp only [requireString, Json.string.injEq]
    split
    · next known =>
        rw [Except.ok.injEq]
        constructor
        · intro same
          exact ⟨same, same ▸ known⟩
        · intro same
          exact same.1
    · next other =>
        constructor
        · intro impossible
          cases impossible
        · intro same
          exact absurd (same.1 ▸ same.2) other
  | _ => simp [requireString]

variable (label : String)

theorem require_sha256_ok (value : Json) (text : Text) :
    requireSha256 label value = .ok text ↔ value = .string text ∧ Sha256.isHex64 text = true :=
  require_string_ok _ _ value text

theorem require_key_id_ok (value : Json) (text : Text) :
    requireKeyId label value = .ok text ↔ value = .string text ∧ isKeyId text = true :=
  require_string_ok _ _ value text

theorem require_text_ok (pattern : TextPattern) (value : Json) (text : Text) :
    requireText label pattern value = .ok text ↔
      value = .string text ∧ pattern.accepts text = true :=
  require_string_ok _ _ value text

theorem require_size_ok (maximum : Nat) (value : Json) (size : Nat) :
    requireSize label maximum value = .ok size ↔
      value = .int size ∧ 1 ≤ size ∧ size ≤ maximum := by
  cases value with
  | int given =>
    simp only [requireSize, Json.int.injEq]
    split
    · rw [Except.ok.injEq]
      omega
    · simp only [reduceCtorEq, false_iff]
      omega
  | _ => simp [requireSize]

theorem accepts_facts (pattern : TextPattern) (text : Text) (accepted : pattern.accepts text = true)
    (first : ∀ character, pattern.first character = true → character.toNat < 128)
    (rest : ∀ character, pattern.rest character = true → character.toNat < 128) :
    isAscii text = true ∧ text.length ≤ pattern.most + 1 := by
  cases text with
  | nil => cases accepted
  | cons character others =>
    simp only [TextPattern.accepts, Bool.and_eq_true, decide_eq_true_iff] at accepted
    rcases accepted with ⟨⟨⟨head, tail⟩, _⟩, short⟩
    constructor
    · rw [isAscii, List.all_eq_true]
      intro other inside
      rw [decide_eq_true_iff]
      rcases List.mem_cons.mp inside with same | later
      · rw [same]
        exact first character head
      · exact rest other (List.all_eq_true.mp tail other later)
    · rw [List.length_cons]
      omega

theorem lower_is_ascii (character : Char) (lower : isLower character = true) :
    character.toNat < 128 := by
  have bounds := of_decide_eq_true lower
  have most : character.toNat ≤ 122 := bounds.2
  omega

theorem digit_is_ascii (character : Char) (digit : character.isDigit = true) :
    character.toNat < 128 := by
  rw [Char.isDigit, Bool.and_eq_true, decide_eq_true_iff, decide_eq_true_iff] at digit
  have most : character.toNat ≤ 57 := digit.2
  omega

theorem lower_digit_is_ascii (character : Char) (known : isLowerDigit character = true) :
    character.toNat < 128 := by
  rw [isLowerDigit, Bool.or_eq_true] at known
  rcases known with lower | digit
  · exact lower_is_ascii character lower
  · exact digit_is_ascii character digit

theorem sign_is_ascii (signs : List Char) (ascii : ∀ sign ∈ signs, sign.toNat < 128)
    (character : Char) (known : signs.contains character = true) : character.toNat < 128 :=
  ascii character (List.contains_iff_mem.mp known)

theorem identifier_facts (text : Text) (accepted : identifierPattern.accepts text = true) :
    isAscii text = true ∧ text.length ≤ 64 := by
  apply accepts_facts identifierPattern text accepted lower_digit_is_ascii
  intro character known
  rcases Bool.or_eq_true .. |>.mp known with plain | sign
  · exact lower_digit_is_ascii character plain
  · exact sign_is_ascii ['.', '_', '-'] (each_of_all _ _ (by decide)) character sign

theorem role_facts (text : Text) (accepted : rolePattern.accepts text = true) :
    isAscii text = true ∧ text.length ≤ 64 := by
  apply accepts_facts rolePattern text accepted lower_is_ascii
  intro character known
  rcases Bool.or_eq_true .. |>.mp known with plain | sign
  · exact lower_digit_is_ascii character plain
  · rw [beq_iff_eq] at sign
    subst sign
    decide

theorem purpose_facts (text : Text) (accepted : purposePattern.accepts text = true) :
    isAscii text = true ∧ text.length ≤ 128 := by
  apply accepts_facts purposePattern text accepted lower_is_ascii
  intro character known
  rcases Bool.or_eq_true .. |>.mp known with plain | sign
  · exact lower_digit_is_ascii character plain
  · exact sign_is_ascii ['.', '_', '-'] (each_of_all _ _ (by decide)) character sign

theorem hex_digit_is_ascii : ∀ digit ∈ Sha256.hexDigits, digit.toNat < 128 :=
  each_of_all _ _ (by decide)

theorem key_id_facts (text : Text) (known : isKeyId text = true) :
    isAscii text = true ∧ text.length = 71 := by
  rw [isKeyId, Bool.and_eq_true, Text.startsWith, List.isPrefixOf_iff_prefix] at known
  rcases known with ⟨⟨digits, joined⟩, hex⟩
  have whole := hex64_facts _ hex
  rw [← joined, List.drop_left] at whole
  rw [← joined]
  constructor
  · rw [isAscii, List.all_append, Bool.and_eq_true]
    apply And.intro (by decide)
    rw [List.all_eq_true]
    intro digit inside
    exact decide_eq_true (hex_digit_is_ascii digit (whole.2 digit inside))
  · rw [List.length_append, whole.1]
    rfl

/-- A field that a frame can hold: a non-empty ASCII name of at most 65535 bytes and a payload
shorter than 2^64 bytes. -/
def Framable (field : Text × Bytes) : Prop :=
  (isAscii field.1 = true ∧ field.1 ≠ [] ∧ field.1.length ≤ 0xffff) ∧ field.2.length < 2 ^ 64

theorem frame_field_delimits : SelfDelimiting Framable frameField := by
  have names : SelfDelimiting
      (fun name : Text => isAscii name = true ∧ name ≠ [] ∧ name.length ≤ 0xffff)
      fun name => bigEndian 2 name.length ++ asciiBytes name := by
    intro left right lefts rights leftValid rightValid same
    rw [List.append_assoc, List.append_assoc] at same
    have parts := List.append_inj same (by rw [big_endian_length, big_endian_length])
    have lengths : left.length = right.length := by
      apply big_endian_faithful 2 _ _ _ _ parts.1
      · exact Nat.lt_of_le_of_lt leftValid.2.2 (by decide)
      · exact Nat.lt_of_le_of_lt rightValid.2.2 (by decide)
    have named := List.append_inj parts.2 (by
      rw [ascii_bytes_length, ascii_bytes_length, lengths])
    exact ⟨ascii_bytes_injective left right leftValid.1 rightValid.1 named.1, named.2⟩
  exact pair_delimits names blob_delimits

theorem frame_field_present (field : Text × Bytes) : frameField field ≠ [] := by
  intro empty
  have length := congrArg List.length empty
  rw [frameField, List.length_append, List.length_append, big_endian_length] at length
  simp at length

theorem frame_fields_ok (fields : List (Text × Bytes)) (valid : ∀ field ∈ fields, Framable field) :
    frameFields fields = .ok (records frameField fields) := by
  induction fields with
  | nil => rfl
  | cons field rest ih =>
    have here := valid field List.mem_cons_self
    have later := ih fun other inside => valid other (List.mem_cons_of_mem _ inside)
    have full : field.1.isEmpty = false := by
      rw [← Bool.not_eq_true, List.isEmpty_iff]
      exact here.1.2.1
    rw [frameFields, here.1.1, full, later,
      if_neg (by decide), if_neg (by simpa using here.1.2.2), if_neg (by simpa using here.2)]
    rfl

/-- The magics of the four kinds of messages. -/
def signerMagics : List Bytes :=
  [operationIdMagic, detachedSignatureMagic, signerReceiptSignatureMagic,
    requestAuthenticationMagic]

theorem signer_magic_shape : ∀ magic ∈ signerMagics,
    magic ≠ [] ∧ (0 : UInt8) ∉ magic.dropLast ∧ magic = magic.dropLast ++ [0] := by
  decide +kernel

theorem magic_ends (left right lefts rights : Bytes) (leftMagic : left ∈ signerMagics)
    (rightMagic : right ∈ signerMagics) (same : left ++ lefts = right ++ rights) :
    left = right ∧ lefts = rights := by
  have leftShape := (signer_magic_shape left leftMagic).2
  have rightShape := (signer_magic_shape right rightMagic).2
  rw [leftShape.2, rightShape.2] at same
  have parts := terminated_delimits 0 _ _ lefts rights leftShape.1 rightShape.1 same
  apply And.intro _ parts.2
  rw [leftShape.2, rightShape.2, parts.1]

theorem frame_message_ok (magic : Bytes) (signer : magic ∈ signerMagics)
    (fields : List (Text × Bytes)) (valid : ∀ field ∈ fields, Framable field) :
    frameMessage magic fields = .ok (magic ++ records frameField fields) := by
  have full : magic.isEmpty = false := by
    rw [← Bool.not_eq_true, List.isEmpty_iff]
    exact (signer_magic_shape magic signer).1
  rw [frameMessage, full, frame_fields_ok fields valid, if_neg (by decide)]

def frameName (name : Text) : Bool :=
  isAscii name && !name.isEmpty && decide (name.length ≤ 0xffff)

theorem framable_of_name (name : Text) (known : frameName name = true) (payload : Bytes)
    (short : payload.length < 2 ^ 64) : Framable (name, payload) := by
  rw [frameName, Bool.and_eq_true, Bool.and_eq_true, Bool.not_eq_true', decide_eq_true_iff] at known
  rcases known with ⟨⟨ascii, full⟩, bounded⟩
  apply And.intro _ short
  apply And.intro ascii
  apply And.intro _ bounded
  intro empty
  simp only at empty
  rw [empty] at full
  cases full

theorem frame_message_injective (left right : Bytes) (leftMagic : left ∈ signerMagics)
    (rightMagic : right ∈ signerMagics) (lefts rights : List (Text × Bytes))
    (leftValid : ∀ field ∈ lefts, Framable field) (rightValid : ∀ field ∈ rights, Framable field)
    (same : frameMessage left lefts = frameMessage right rights) : left = right ∧ lefts = rights := by
  rw [frame_message_ok left leftMagic lefts leftValid,
    frame_message_ok right rightMagic rights rightValid, Except.ok.injEq] at same
  have parts := magic_ends left right _ _ leftMagic rightMagic same
  exact ⟨parts.1, records_faithful frame_field_delimits frame_field_present lefts rights leftValid
    rightValid parts.2⟩

end EvoomGuard.RemoteSigner
