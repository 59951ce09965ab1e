import EvoomGuard.Lib.Order

/-!
Self-delimiting byte encodings: whatever follows the encoding of a value, the value and the rest
can be read off. The rules build length-prefixed blobs, tagged records and counted lists of
records from big-endian integers.
-/

namespace EvoomGuard.Lib.Framing

abbrev Bytes := List UInt8

variable {Value Other : Type*}

/-- Among valid values, the encoding and what follows it determine the value. -/
def SelfDelimiting (valid : Value → Prop) (encode : Value → Bytes) : Prop :=
  ∀ left right lefts rights, valid left → valid right →
    encode left ++ lefts = encode right ++ rights → left = right ∧ lefts = rights

theorem fixed_length_delimits (valid : Value → Prop) (encode : Value → Bytes) (length : Nat)
    (sized : ∀ value, (encode value).length = length)
    (faithful : ∀ left right, valid left → valid right → encode left = encode right →
      left = right) : SelfDelimiting valid encode := by
  intro left right lefts rights leftValid rightValid same
  have parts := List.append_inj same (by rw [sized, sized])
  exact ⟨faithful left right leftValid rightValid parts.1, parts.2⟩

theorem terminated_delimits (mark : UInt8) :
    SelfDelimiting (fun bytes : Bytes => mark ∉ bytes) fun bytes => bytes ++ [mark] := by
  intro left
  induction left with
  | nil =>
    intro right lefts rights _ rightFree same
    cases right with
    | nil => exact ⟨rfl, (List.cons.inj same).2⟩
    | cons byte bytes =>
      rw [(List.cons.inj same).1] at rightFree
      exact absurd List.mem_cons_self rightFree
  | cons byte bytes ih =>
    intro right lefts rights leftFree rightFree same
    cases right with
    | nil =>
      rw [(List.cons.inj same).1] at leftFree
      exact absurd List.mem_cons_self leftFree
    | cons other others =>
      have parts := ih others lefts rights (fun inside => leftFree (List.mem_cons_of_mem _ inside))
        (fun inside => rightFree (List.mem_cons_of_mem _ inside)) (List.cons.inj same).2
      rw [(List.cons.inj same).1, parts.1]
      exact ⟨rfl, parts.2⟩

theorem tagged_delimits (tag : Bytes) {valid : Value → Prop} {encode : Value → Bytes}
    (delimits : SelfDelimiting valid encode) :
    SelfDelimiting valid fun value => tag ++ encode value := by
  intro left right lefts rights leftValid rightValid same
  rw [List.append_assoc, List.append_assoc] at same
  exact delimits left right lefts rights leftValid rightValid (List.append_cancel_left same)

theorem pair_delimits {first : Value → Prop} {second : Other → Prop} {encode : Value → Bytes}
    {encodeOther : Other → Bytes} (delimits : SelfDelimiting first encode)
    (otherDelimits : SelfDelimiting second encodeOther) :
    SelfDelimiting (fun pair : Value × Other => first pair.1 ∧ second pair.2)
      fun pair => encode pair.1 ++ encodeOther pair.2 := by
  intro left right lefts rights leftValid rightValid same
  rw [List.append_assoc, List.append_assoc] at same
  have head := delimits left.1 right.1 _ _ leftValid.1 rightValid.1 same
  have tail := otherDelimits left.2 right.2 lefts rights leftValid.2 rightValid.2 head.2
  exact ⟨Prod.ext head.1 tail.1, tail.2⟩

theorem comap_delimits {valid : Value → Prop} {encode : Value → Bytes}
    (delimits : SelfDelimiting valid encode) (read : Other → Value)
    (faithful : Function.Injective read) :
    SelfDelimiting (fun value => valid (read value)) fun value => encode (read value) := by
  intro left right lefts rights leftValid rightValid same
  have parts := delimits (read left) (read right) lefts rights leftValid rightValid same
  exact ⟨faithful parts.1, parts.2⟩

theorem sum_delimits {first : Value → Prop} {second : Other → Prop} {encode : Value → Bytes}
    {encodeOther : Other → Bytes} (tag otherTag : UInt8) (apart : tag ≠ otherTag)
    (delimits : SelfDelimiting first encode) (otherDelimits : SelfDelimiting second encodeOther) :
    SelfDelimiting (Sum.elim first second)
      (Sum.elim (fun value => tag :: encode value) fun value => otherTag :: encodeOther value) := by
  intro left right lefts rights leftValid rightValid same
  cases left with
  | inl value =>
    cases right with
    | inl other =>
      have parts := delimits value other lefts rights leftValid rightValid
        (List.cons.inj same).2
      exact ⟨by rw [parts.1], parts.2⟩
    | inr other => exact absurd (List.cons.inj same).1 apart
  | inr value =>
    cases right with
    | inl other => exact absurd (List.cons.inj same).1.symm apart
    | inr other =>
      have parts := otherDelimits value other lefts rights leftValid rightValid
        (List.cons.inj same).2
      exact ⟨by rw [parts.1], parts.2⟩

def bigEndian : Nat → Nat → Bytes
  | 0, _ => []
  | width + 1, value => bigEndian width (value / 256) ++ [UInt8.ofNat value]

theorem big_endian_length (width value : Nat) : (bigEndian width value).length = width := by
  induction width generalizing value with
  | zero => rfl
  | succ width ih => simp [bigEndian, ih]

theorem big_endian_faithful (width left right : Nat) (leftFits : left < 256 ^ width)
    (rightFits : right < 256 ^ width) (same : bigEndian width left = bigEndian width right) :
    left = right := by
  induction width generalizing left right with
  | zero =>
    rw [Nat.pow_zero] at leftFits rightFits
    omega
  | succ width ih =>
    have parts := List.append_inj' same rfl
    have high : left / 256 = right / 256 := by
      apply ih
      · rw [Nat.div_lt_iff_lt_mul (by decide)]
        simpa [Nat.pow_succ] using leftFits
      · rw [Nat.div_lt_iff_lt_mul (by decide)]
        simpa [Nat.pow_succ] using rightFits
      · exact parts.1
    have low : left % 256 = right % 256 := by
      have byte := congrArg UInt8.toNat (List.cons.inj parts.2).1
      simpa using byte
    omega

/-- An unsigned 64-bit integer, most significant byte first. -/
def u64 (value : Nat) : Bytes := bigEndian 8 value

theorem u64_delimits : SelfDelimiting (fun value => value < 2 ^ 64) u64 := by
  apply fixed_length_delimits _ _ 8 (big_endian_length 8)
  intro left right leftFits rightFits same
  apply big_endian_faithful 8 left right _ _ same
  · exact leftFits
  · exact rightFits

def blob (bytes : Bytes) : Bytes := u64 bytes.length ++ bytes

theorem blob_delimits : SelfDelimiting (fun bytes => bytes.length < 2 ^ 64) blob := by
  intro left right lefts rights leftFits rightFits same
  rw [blob, blob, List.append_assoc, List.append_assoc] at same
  have prefixed := u64_delimits left.length right.length _ _ leftFits rightFits same
  have parts := List.append_inj prefixed.2 prefixed.1
  exact parts

def records (encode : Value → Bytes) (values : List Value) : Bytes := values.flatMap encode

variable {valid : Value → Prop} {encode : Value → Bytes}

theorem records_of_length (delimits : SelfDelimiting valid encode) (left right : List Value)
    (lefts rights : Bytes)
    (leftValid : ∀ value ∈ left, valid value) (rightValid : ∀ value ∈ right, valid value)
    (count : left.length = right.length)
    (same : records encode left ++ lefts = records encode right ++ rights) :
    left = right ∧ lefts = rights := by
  induction left generalizing right with
  | nil =>
    cases right with
    | nil => exact ⟨rfl, same⟩
    | cons value values => cases count
  | cons value values ih =>
    cases right with
    | nil => cases count
    | cons other others =>
      simp only [records, List.flatMap_cons, List.append_assoc] at same
      have head := delimits value other _ _ (leftValid value List.mem_cons_self)
        (rightValid other List.mem_cons_self) same
      have tail := ih others (fun item inside => leftValid item (List.mem_cons_of_mem _ inside))
        (fun item inside => rightValid item (List.mem_cons_of_mem _ inside))
        (Nat.succ.inj count) head.2
      exact ⟨by rw [head.1, tail.1], tail.2⟩

def counted (encode : Value → Bytes) (values : List Value) : Bytes :=
  u64 values.length ++ records encode values

theorem counted_delimits (delimits : SelfDelimiting valid encode) :
    SelfDelimiting (fun values => values.length < 2 ^ 64 ∧ ∀ value ∈ values, valid value)
      (counted encode) := by
  intro left right lefts rights leftValid rightValid same
  rw [counted, counted, List.append_assoc, List.append_assoc] at same
  have count := u64_delimits _ _ _ _ leftValid.1 rightValid.1 same
  exact records_of_length delimits left right lefts rights leftValid.2 rightValid.2 count.1 count.2

theorem records_faithful (delimits : SelfDelimiting valid encode)
    (present : ∀ value, encode value ≠ [])
    (left right : List Value) (leftValid : ∀ value ∈ left, valid value)
    (rightValid : ∀ value ∈ right, valid value)
    (same : records encode left = records encode right) : left = right := by
  induction left generalizing right with
  | nil =>
    cases right with
    | nil => rfl
    | cons value values =>
      have empty : encode value = [] := (List.append_eq_nil_iff.mp same.symm).1
      exact absurd empty (present value)
  | cons value values ih =>
    cases right with
    | nil =>
      have empty : encode value = [] := (List.append_eq_nil_iff.mp same).1
      exact absurd empty (present value)
    | cons other others =>
      simp only [records, List.flatMap_cons] at same
      have head := delimits value other _ _ (leftValid value List.mem_cons_self)
        (rightValid other List.mem_cons_self) same
      rw [head.1, ih others (fun item inside => leftValid item (List.mem_cons_of_mem _ inside))
        (fun item inside => rightValid item (List.mem_cons_of_mem _ inside)) head.2]

/-- The strict UTF-8 encoding of a text. -/
def utf8 (text : Text) : Bytes := text.flatMap String.utf8EncodeChar

theorem utf8_injective : Function.Injective utf8 := by
  intro left right same
  have encoded : (String.ofList left).toByteArray = (String.ofList right).toByteArray := by
    simp only [String.toByteArray_ofList, List.utf8Encode]
    exact congrArg List.toByteArray same
  have strings := String.toByteArray_inj.mp encoded
  have characters := congrArg String.toList strings
  simpa only [String.toList_ofList] using characters

theorem utf8_append (left right : Text) : utf8 (left ++ right) = utf8 left ++ utf8 right :=
  List.flatMap_append

theorem utf8_length (text : Text) : (utf8 text).length ≤ 4 * text.length := by
  induction text with
  | nil => simp [utf8]
  | cons character rest ih =>
    have here := Char.utf8Size_le_four character
    rw [utf8, List.flatMap_cons, List.length_append, String.length_utf8EncodeChar,
      List.length_cons]
    unfold utf8 at ih
    omega

theorem utf8_ascii_length (text : Text) (ascii : ∀ character ∈ text, character.toNat < 128) :
    (utf8 text).length = text.length := by
  induction text with
  | nil => rfl
  | cons character rest ih =>
    have here : character.toNat < 128 := ascii character List.mem_cons_self
    have one : (String.utf8EncodeChar character).length = 1 := by
      rw [String.length_utf8EncodeChar]
      exact Char.utf8Size_eq_one_iff.mpr (by
        have code : character.val.toNat ≤ 127 := Nat.le_of_lt_succ here
        exact UInt32.le_iff_toNat_le.mpr code)
    have later := ih fun other inside => ascii other (List.mem_cons_of_mem _ inside)
    have joined : utf8 (character :: rest) = String.utf8EncodeChar character ++ utf8 rest := rfl
    rw [joined, List.length_append, one, later, List.length_cons, Nat.add_comm]

/-- `bytes.decode("utf-8")`, strict. -/
def utf8Decode (bytes : Bytes) : Option Text :=
  (String.fromUTF8? bytes.toByteArray).map String.toList

theorem utf8_decode_encode (text : Text) : utf8Decode (utf8 text) = some text := by
  have encoded : (utf8 text).toByteArray = (String.ofList text).toByteArray := by
    rw [String.toByteArray_ofList, List.utf8Encode]
    rfl
  have back (written : String) (valid : written.toByteArray.IsValidUTF8) :
      String.fromUTF8 written.toByteArray valid = written := String.toByteArray_inj.mp rfl
  rw [utf8Decode, encoded, String.fromUTF8?,
    dif_pos (by simpa using (String.ofList text).isValidUTF8), back, Option.map_some,
    String.toList_ofList]

def bytesLe : Bytes → Bytes → Bool :=
  lexLe fun left right => decide (left.toNat ≤ right.toNat)

theorem bytes_order : TotalOrder bytesLe :=
  lex_order (nat_order.comap UInt8.toNat fun _ _ => UInt8.toNat_inj.mp)

end EvoomGuard.Lib.Framing
