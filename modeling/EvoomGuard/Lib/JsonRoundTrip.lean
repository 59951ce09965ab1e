import EvoomGuard.Lib.JsonCodec
import Mathlib.Data.List.TakeWhile
import Mathlib.Data.Nat.Digits.Lemmas

/-!
What `json.dumps` writes, `json.loads` reads back: first characters and strings, then integers,
then values with any blanks between their parts, of which the compact text is the case without.
Numbers come back as far as the hooks let them.
-/

namespace EvoomGuard.Lib.JsonCodec

/-! Strings -/

theorem hex_value_digit : ∀ value < 16, hexValue (hexDigit value) = some value := by decide

theorem read_hex_digits (code : Nat) (small : code < 65536) (rest : Text) :
    readHex4 (hexDigit (code / 4096 % 16) :: hexDigit (code / 256 % 16) ::
      hexDigit (code / 16 % 16) :: hexDigit (code % 16) :: rest) = some (code, rest) := by
  rw [readHex4, hex_value_digit _ (Nat.mod_lt _ (by decide)),
    hex_value_digit _ (Nat.mod_lt _ (by decide)), hex_value_digit _ (Nat.mod_lt _ (by decide)),
    hex_value_digit _ (Nat.mod_lt _ (by decide))]
  simp only [Option.some.injEq, Prod.mk.injEq, and_true]
  omega

theorem code_is_scalar (character : Char) :
    ¬(0xd800 ≤ character.toNat ∧ character.toNat < 0xe000) ∧ character.toNat < 0x110000 := by
  rcases character.valid with low | high
  · have bound : character.toNat < 0xd800 := low
    omega
  · have least : 0xdfff < character.toNat := high.1
    have most : character.toNat < 0x110000 := high.2
    omega

theorem read_unicode_escape (character : Char) (small : character.toNat < 65536) (rest : Text) :
    readUnicode ((unicodeEscape character.toNat).drop 2 ++ rest) = .ok (character, rest) := by
  have scalar := code_is_scalar character
  simp only [unicodeEscape, List.drop_succ_cons, List.drop_zero, List.cons_append, List.nil_append,
    readUnicode, read_hex_digits _ small]
  rw [if_neg (by omega), if_neg (by omega), Char.ofNat_toNat]

theorem read_pair (high low : Nat) (isHigh : 0xd800 ≤ high ∧ high < 0xdc00)
    (isLow : 0xdc00 ≤ low ∧ low < 0xe000) (rest : Text) :
    readUnicode ((unicodeEscape high).drop 2 ++ unicodeEscape low ++ rest) =
      .ok (Char.ofNat (65536 + 1024 * (high - 0xd800) + (low - 0xdc00)), rest) := by
  simp only [unicodeEscape, List.drop_succ_cons, List.drop_zero, List.cons_append, List.nil_append,
    readUnicode, read_hex_digits high (by omega), read_hex_digits low (by omega)]
  rw [if_pos isHigh, if_pos isLow]

theorem read_surrogate_pair (character : Char) (large : 65536 ≤ character.toNat) (rest : Text) :
    readUnicode ((unicodeEscape (0xd800 + (character.toNat - 65536) / 1024)).drop 2 ++
      unicodeEscape (0xdc00 + (character.toNat - 65536) % 1024) ++ rest) =
        .ok (character, rest) := by
  have scalar := code_is_scalar character
  have whole : 65536 + 1024 * (0xd800 + (character.toNat - 65536) / 1024 - 0xd800) +
      (0xdc00 + (character.toNat - 65536) % 1024 - 0xdc00) = character.toNat := by omega
  rw [read_pair _ _ (by omega) (by omega), whole, Char.ofNat_toNat]

theorem read_escaped_unicode (text : Text) :
    readCharacter ('\\' :: 'u' :: text) =
      (readUnicode text).map fun read => (some read.1, read.2) := by
  have letter : shortEscapes.find? (fun pair => pair.1 == 'u') = none := by decide
  simp only [readCharacter, readEscape, letter]
  cases readUnicode text with
  | error problem => rfl
  | ok read => rfl

variable (ensureAscii : Bool)

theorem read_escape_char (character : Char) (rest : Text) :
    readCharacter (escapeChar ensureAscii character ++ rest) = .ok (some character, rest) := by
  unfold escapeChar
  split
  · next letter original found =>
      have same : original = character := by simpa using List.find?_some found
      have back : ∀ pair ∈ shortEscapes,
          shortEscapes.find? (fun other => other.1 == pair.1) = some pair := by decide
      have listed := back _ (List.mem_of_find?_eq_some found)
      subst same
      simp [readCharacter, readEscape, listed]
  · next absent =>
      have plain : ∀ pair ∈ shortEscapes, pair.2 ≠ character := by
        intro pair inside same
        exact absurd (beq_iff_eq.mpr same) (List.find?_eq_none.mp absent pair inside)
      have quote : character ≠ '"' := fun same => plain ('"', '"') (by decide) same.symm
      have slash : character ≠ '\\' := fun same => plain ('\\', '\\') (by decide) same.symm
      split
      · next control =>
          have read := read_unicode_escape character (by omega) rest
          simp only [unicodeEscape, List.drop_succ_cons, List.drop_zero] at read
          simp only [unicodeEscape, List.cons_append] at read ⊢
          rw [read_escaped_unicode, read]
          rfl
      · next printable =>
          split
          · split
            · next small =>
                have read := read_unicode_escape character small rest
                simp only [unicodeEscape, List.drop_succ_cons, List.drop_zero] at read
                simp only [unicodeEscape, List.cons_append] at read ⊢
                rw [read_escaped_unicode, read]
                rfl
            · next large =>
                have read := read_surrogate_pair character (by omega) rest
                simp only [unicodeEscape, List.drop_succ_cons, List.drop_zero] at read
                simp only [unicodeEscape, List.cons_append] at read ⊢
                rw [read_escaped_unicode, read]
                rfl
          · simp [readCharacter, quote, slash, printable]

theorem read_string_escaped (text rest : Text) (fuel : Nat)
    (enough : text.length < fuel) :
    readString fuel (text.flatMap (escapeChar ensureAscii) ++ '"' :: rest) = .ok (text, rest) := by
  induction text generalizing fuel with
  | nil =>
    cases fuel with
    | zero => cases enough
    | succ fuel => rfl
  | cons character characters ih =>
    cases fuel with
    | zero => cases enough
    | succ fuel =>
      rw [List.flatMap_cons, List.append_assoc, readString, read_escape_char]
      simp only [ih fuel (by simpa using enough)]

theorem escape_char_ne_nil (character : Char) :
    escapeChar ensureAscii character ≠ [] := by
  unfold escapeChar unicodeEscape
  split
  · simp
  · split
    · simp
    · split
      · split
        · simp
        · simp
      · simp

theorem escaped_length (text : Text) :
    text.length ≤ (text.flatMap (escapeChar ensureAscii)).length := by
  induction text with
  | nil => rfl
  | cons character characters ih =>
    have one := List.length_pos_iff.mpr (escape_char_ne_nil ensureAscii character)
    rw [List.flatMap_cons, List.length_append, List.length_cons]
    omega

theorem read_quoted (text rest : Text) :
    readString ((text.flatMap (escapeChar ensureAscii) ++ '"' :: rest).length + 1)
      (text.flatMap (escapeChar ensureAscii) ++ '"' :: rest) = .ok (text, rest) := by
  have long := escaped_length ensureAscii text
  apply read_string_escaped
  rw [List.length_append]
  omega

/-! Integers -/

theorem digit_code : ∀ digit < 10, (Char.ofNat (48 + digit)).toNat = 48 + digit ∧
    (Char.ofNat (48 + digit)).isDigit = true ∧
      (Char.ofNat (48 + digit) = '0' → digit = 0) := by decide

theorem nat_value_append (digits : Text) (digit : Char) :
    natValue (digits ++ [digit]) = 10 * natValue digits + (digit.toNat - 48) := by
  simp [natValue]

theorem nat_value_of_digits (digits : List Nat) (small : ∀ digit ∈ digits, digit < 10) :
    natValue (digits.reverse.map fun digit => Char.ofNat (48 + digit)) = Nat.ofDigits 10 digits := by
  induction digits with
  | nil => rfl
  | cons digit rest ih =>
    have code := (digit_code digit (small digit List.mem_cons_self)).1
    rw [List.reverse_cons, List.map_append, List.map_cons, List.map_nil, nat_value_append, code,
      ih fun other inside => small other (List.mem_cons_of_mem _ inside), Nat.ofDigits_cons]
    omega

theorem nat_value_text (value : Nat) : natValue (natText value) = value := by
  unfold natText
  split
  · next zero => rw [zero]; rfl
  · rw [nat_value_of_digits _ fun digit inside => Nat.digits_lt_base (by decide) inside,
      Nat.ofDigits_digits]

theorem nat_text_length (value digits : Nat) (fits : value < 10 ^ digits) (proper : 0 < digits) :
    (natText value).length ≤ digits := by
  unfold natText
  split
  · exact proper
  · rw [List.length_map, List.length_reverse, Nat.digits_length_le_iff (by decide)]
    exact fits

theorem nat_text_shape (value : Nat) :
    ∃ digit digits, natText value = digit :: digits ∧ digit.isDigit = true ∧
      digits.all Char.isDigit = true ∧ (digit = '0' → digits = []) := by
  unfold natText
  split
  · exact ⟨'0', [], rfl, rfl, rfl, fun _ => rfl⟩
  · next positive =>
      have proper : Nat.digits 10 value ≠ [] := Nat.digits_ne_nil_iff_ne_zero.mpr positive
      have last := Nat.getLast_digit_ne_zero 10 positive
      have small : ∀ digit ∈ Nat.digits 10 value, digit < 10 :=
        fun digit inside => Nat.digits_lt_base (by decide) inside
      cases turned : (Nat.digits 10 value).reverse with
      | nil => exact absurd (List.reverse_eq_nil_iff.mp turned) proper
      | cons digit digits =>
        have whole : Nat.digits 10 value = (digit :: digits).reverse := by
          rw [← turned, List.reverse_reverse]
        have front : digit ≠ 0 := by
          have same : (Nat.digits 10 value).getLast proper = digit := by
            simp [whole]
          exact same ▸ last
        have each : ∀ other ∈ digit :: digits, other < 10 := by
          intro other inside
          apply small
          rw [whole]
          exact List.mem_reverse.mpr inside
        have facts := digit_code digit (each digit List.mem_cons_self)
        exists Char.ofNat (48 + digit), digits.map fun digit => Char.ofNat (48 + digit)
        apply And.intro (List.map_cons ..)
        apply And.intro facts.2.1
        constructor
        · rw [List.all_map, List.all_eq_true]
          intro other inside
          exact (digit_code other (each other (List.mem_cons_of_mem _ inside))).2.1
        · intro zero
          exact absurd (facts.2.2 zero) front

/-- What may follow a value in the text of a larger one. -/
def closes : Text → Bool
  | [] => true
  | character :: _ => character == ',' || character == ']' || character == '\x7d' || isBlank character

theorem closes_head (rest : Text) (closed : closes rest = true) (character : Char) (more : Text)
    (split : rest = character :: more) :
    character.isDigit = false ∧ character ≠ '.' ∧ character ≠ 'e' ∧ character ≠ 'E' := by
  subst split
  simp only [closes, isBlank, Bool.or_eq_true, beq_iff_eq] at closed
  rcases closed with ((comma | bracket) | brace) | (((space | tab) | line) | feed)
  all_goals
    subst_vars
    decide

theorem digits_end (digits rest : Text) (each : digits.all Char.isDigit = true)
    (closed : closes rest = true) :
    (digits ++ rest).takeWhile Char.isDigit = digits ∧
      (digits ++ rest).dropWhile Char.isDigit = rest := by
  have stop : rest.takeWhile Char.isDigit = [] ∧ rest.dropWhile Char.isDigit = rest := by
    cases rest with
    | nil => exact ⟨rfl, rfl⟩
    | cons character more =>
      have other := (closes_head _ closed character more rfl).1
      simp [other]
  rw [List.takeWhile_append_of_pos (List.all_eq_true.mp each),
    List.dropWhile_append_of_pos (List.all_eq_true.mp each), stop.1, stop.2, List.append_nil]
  exact ⟨rfl, rfl⟩

theorem digit_is_no_minus (digit : Char) (isDigit : digit.isDigit = true) : digit ≠ '-' := by
  intro same
  rw [same] at isDigit
  cases isDigit

theorem integer_part_text (value : Int) (rest : Text) (closed : closes rest = true) :
    integerPart (intText value ++ rest) = some (intText value, rest) := by
  rcases nat_text_shape value.natAbs with ⟨digit, digits, shape, isDigit, each, single⟩
  have other := digit_is_no_minus digit isDigit
  have ends := digits_end digits rest each closed
  have unsigned (sign : Text) :
      (if digit = '0' then some (sign ++ ['0'], digits ++ rest)
      else if digit.isDigit then
        some (sign ++ digit :: (digits ++ rest).takeWhile Char.isDigit,
          (digits ++ rest).dropWhile Char.isDigit)
      else none) = some (sign ++ digit :: digits, rest) := by
    by_cases zero : digit = '0'
    · rw [if_pos zero, single zero, zero, List.nil_append]
    · rw [if_neg zero, if_pos isDigit, ends.1, ends.2]
  unfold intText integerPart
  rw [shape]
  split
  · simp only [List.cons_append, List.takeWhile_cons, beq_self_eq_true, if_true, beq_iff_eq, other,
      if_false, List.take_succ_cons, List.take_zero, List.length_cons, List.length_nil,
      List.drop_succ_cons, List.drop_zero]
    exact unsigned ['-']
  · simp only [List.cons_append, List.takeWhile_cons, beq_iff_eq, other, if_false, List.take_nil,
      List.length_nil, List.drop_zero]
    exact unsigned []

theorem int_value_text (value : Int) : intValue (intText value) = value := by
  rcases nat_text_shape value.natAbs with ⟨digit, digits, shape, isDigit, _, _⟩
  have read := nat_value_text value.natAbs
  unfold intText
  split
  · rw [intValue, read]
    omega
  · rw [shape] at read ⊢
    unfold intValue
    split
    · next same => exact absurd (List.cons.inj same).1 (digit_is_no_minus digit isDigit)
    · rw [read]
      omega

theorem fraction_part_closed (rest : Text) (closed : closes rest = true) :
    fractionPart rest = ([], rest) := by
  cases rest with
  | nil => rfl
  | cons character more =>
    have other := (closes_head _ closed character more rfl).2.1
    unfold fractionPart
    split
    · next same => exact absurd (List.cons.inj same).1 other
    · rfl

theorem exponent_part_closed (rest : Text) (closed : closes rest = true) :
    exponentPart rest = ([], rest) := by
  cases rest with
  | nil => rfl
  | cons character more =>
    have other := (closes_head _ closed character more rfl).2.2
    simp [exponentPart, other.1, other.2]

theorem int_text_head (value : Int) (rest : Text) :
    ∃ character more, intText value ++ rest = character :: more ∧
      (character = '-' ∧ (∃ digit others, more = digit :: others ∧ digit.isDigit = true) ∨
        character.isDigit = true) := by
  rcases nat_text_shape value.natAbs with ⟨digit, digits, shape, isDigit, _, _⟩
  unfold intText
  rw [shape]
  split
  · exact ⟨'-', digit :: (digits ++ rest), rfl, Or.inl ⟨rfl, digit, digits ++ rest, rfl, isDigit⟩⟩
  · exact ⟨digit, digits ++ rest, rfl, Or.inr isDigit⟩

theorem constants_spelled :
    constants = [['N', 'a', 'N'], ['I', 'n', 'f', 'i', 'n', 'i', 't', 'y'],
      ['-', 'I', 'n', 'f', 'i', 'n', 'i', 't', 'y']] := rfl

theorem int_text_is_no_word (value : Int) (rest word : Text)
    (spelled : word ∈ constants ∨ word = "null" ∨ word = "true" ∨
      word = "false") : Text.startsWith (intText value ++ rest) word = false := by
  have wordHead : ∃ letter letters, word = letter :: letters ∧ letter.isDigit = false ∧
      (letter = '-' → ∃ more, letters = 'I' :: more) := by
    rw [constants_spelled] at spelled
    simp only [List.mem_cons, List.not_mem_nil, or_false] at spelled
    rcases spelled with (nan | infinity | minus) | null | yes | no
    · exact ⟨'N', _, nan, rfl, fun same => absurd same (by decide)⟩
    · exact ⟨'I', _, infinity, rfl, fun same => absurd same (by decide)⟩
    · exact ⟨'-', _, minus, rfl, fun _ => ⟨_, rfl⟩⟩
    · exact ⟨'n', ['u', 'l', 'l'], null, rfl, fun same => absurd same (by decide)⟩
    · exact ⟨'t', ['r', 'u', 'e'], yes, rfl, fun same => absurd same (by decide)⟩
    · exact ⟨'f', ['a', 'l', 's', 'e'], no, rfl, fun same => absurd same (by decide)⟩
  rcases wordHead with ⟨letter, letters, shapeOfWord, letterOther, minus⟩
  rcases int_text_head value rest with ⟨character, more, shape, head⟩
  rw [shape, shapeOfWord, Text.startsWith, List.isPrefixOf, Bool.and_eq_false_iff]
  by_cases same : letter = character
  · subst same
    rcases head with ⟨sign, digit, others, following, isDigit⟩ | isDigit
    · rcases minus sign with ⟨tail, spelled⟩
      apply Or.inr
      rw [spelled, following, List.isPrefixOf, Bool.and_eq_false_iff]
      apply Or.inl
      rw [beq_eq_false_iff_ne]
      intro equal
      rw [← equal] at isDigit
      cases isDigit
    · rw [letterOther] at isDigit
      cases isDigit
  · exact Or.inl (beq_eq_false_iff_ne.mpr same)

section Values

variable {ensureAscii : Bool} {floatText : Rat → Text} {hooks : NumberHooks}

theorem read_scalar_int (value : Int) (rest : Text) (closed : closes rest = true)
    (read : hooks.parseInt (intText value) = .ok value) :
    readScalar hooks (intText value ++ rest) = .ok (.int value, rest) := by
  have noConstant : constants.find? (fun name => Text.startsWith (intText value ++ rest) name) = none := by
    rw [List.find?_eq_none]
    intro word inside
    rw [int_text_is_no_word value rest word (Or.inl inside)]
    decide
  unfold readScalar
  rw [int_text_is_no_word value rest _ (Or.inr (Or.inl rfl)),
    int_text_is_no_word value rest _ (Or.inr (Or.inr (Or.inl rfl))),
    int_text_is_no_word value rest _ (Or.inr (Or.inr (Or.inr rfl)))]
  simp only [Bool.false_eq_true, if_false]
  unfold readNumber
  rw [noConstant, integer_part_text value rest closed]
  simp only [fraction_part_closed rest closed, exponent_part_closed rest closed, List.isEmpty_nil,
    Bool.and_self, if_true, read]

/-! Values -/

mutual

/-- Values that a text gives back: no floats, integers the hook accepts, no key twice. -/
def plain (fits : Int → Bool) : Json → Bool
  | .null => true
  | .bool _ => true
  | .int value => fits value
  | .float _ => false
  | .string _ => true
  | .array items => plainItems fits items
  | .object fields => decide ((fields.map Prod.fst).Nodup) && plainFields fits fields

def plainItems (fits : Int → Bool) : List Json → Bool
  | [] => true
  | item :: rest => plain fits item && plainItems fits rest

def plainFields (fits : Int → Bool) : List (Text × Json) → Bool
  | [] => true
  | (_, value) :: rest => plain fits value && plainFields fits rest

end

theorem plain_fields_iff {fits : Int → Bool} {fields : List (Text × Json)} :
    plainFields fits fields = true ↔ ∀ field ∈ fields, plain fits field.2 = true := by
  induction fields with
  | nil => simp [plainFields]
  | cons field rest ih =>
    rcases field with ⟨key, value⟩
    rw [plainFields, Bool.and_eq_true, ih, List.forall_mem_cons]

theorem plain_object_iff {fits : Int → Bool} {fields : List (Text × Json)} :
    plain fits (.object fields) = true ↔ (fields.map Prod.fst).Nodup ∧
      ∀ key value, fields.lookup key = some value → plain fits value = true := by
  rw [plain, Bool.and_eq_true, decide_eq_true_iff, plain_fields_iff]
  refine and_congr_right fun distinct => ⟨fun each key value found =>
    each _ (mem_of_lookup_eq fields key value found), fun each field inside =>
      each field.1 field.2 (lookup_of_mem fields distinct field.1 field.2 inside)⟩

theorem repeated_key_none (seen : List Text) (pairs : List (Text × Json))
    (distinct : (seen ++ pairs.map Prod.fst).Nodup) : repeatedKey seen pairs = none := by
  induction pairs generalizing seen with
  | nil => rfl
  | cons pair rest ih =>
    rw [List.map_cons, List.nodup_middle, List.nodup_cons] at distinct
    have fresh : seen.contains pair.1 = false := by
      rw [← Bool.not_eq_true, List.contains_iff_mem]
      intro inside
      exact distinct.1 (List.mem_append_left _ inside)
    rw [repeatedKey, fresh, if_neg (by decide)]
    apply ih
    rw [List.cons_append, List.nodup_cons]
    exact distinct

theorem skip_blanks_head (character : Char) (more : Text) (visible : isBlank character = false) :
    skipBlanks (character :: more) = character :: more := by
  rw [skipBlanks, List.dropWhile_cons_of_neg (by simp [visible])]

theorem skip_blanks_append (blanks rest : Text) (blank : blanks.all isBlank = true) :
    skipBlanks (blanks ++ rest) = skipBlanks rest :=
  List.dropWhile_append_of_pos (List.all_eq_true.mp blank)

theorem closes_blanks (blanks rest : Text) (blank : blanks.all isBlank = true)
    (closed : closes rest = true) : closes (blanks ++ rest) = true := by
  cases blanks with
  | nil => exact closed
  | cons character more =>
    rw [List.all_cons, Bool.and_eq_true] at blank
    rw [List.cons_append, closes, blank.1, Bool.or_true]

theorem closes_bracket (rest : Text) : closes (']' :: rest) = true := rfl

theorem closes_comma (rest : Text) : closes (',' :: rest) = true := rfl

theorem closes_brace (rest : Text) : closes ('\x7d' :: rest) = true := rfl

variable {fits : Int → Bool}

theorem decode_scalar (value : Json) (text rest : Text) (fuel : Nat) (character : Char)
    (more : Text)
    (shape : text = character :: more)
    (other : character ≠ '"' ∧ character ≠ '[' ∧ character ≠ '\x7b')
    (read : readScalar hooks text = .ok (value, rest)) :
    decodeValue hooks (fuel + 1) text = .ok (value, rest) := by
  subst shape
  rw [decodeValue, if_neg other.1, if_neg other.2.1, if_neg other.2.2]
  exact read

theorem decode_int (value : Int) (rest : Text) (fuel : Nat) (closed : closes rest = true)
    (read : hooks.parseInt (intText value) = .ok value) :
    decodeValue hooks (fuel + 1) (intText value ++ rest) = .ok (.int value, rest) := by
  rcases int_text_head value rest with ⟨character, more, shape, head⟩
  apply decode_scalar _ _ rest fuel character more shape _ (read_scalar_int value rest closed read)
  rcases head with ⟨sign, _⟩ | isDigit
  · subst sign
    decide
  · refine ⟨?_, ?_, ?_⟩
    all_goals
      intro same
      subst same
      cases isDigit

theorem decode_string (value rest : Text) (fuel : Nat) :
    decodeValue hooks (fuel + 1) (quoted ensureAscii value ++ rest) = .ok (.string value, rest) := by
  have shape : quoted ensureAscii value ++ rest =
      '"' :: (value.flatMap (escapeChar ensureAscii) ++ '"' :: rest) := by
    simp [quoted]
  rw [shape, decodeValue, if_pos rfl, read_quoted]

section Layout

variable (ensureAscii floatText hooks fits) (gap : Nat → Text) (space : Text)

/-- Nothing but blanks between the parts of a value. -/
structure BlankLayout : Prop where
  gap (level : Nat) : (gap level).all isBlank = true
  space : space.all isBlank = true

def ReadsValue (fuel : Nat) : Prop :=
  ∀ level value, plain fits value = true → ∀ rest, closes rest = true →
    (laidOut ensureAscii floatText gap space level value).length < fuel →
      decodeValue hooks fuel (laidOut ensureAscii floatText gap space level value ++ rest) =
        .ok (value, rest)

def ReadsItems (fuel : Nat) : Prop :=
  ∀ level item items, plainItems fits (item :: items) = true → ∀ back rest,
    back.all isBlank = true →
      (laidOut ensureAscii floatText gap space level item).length +
        (laidItems ensureAscii floatText gap space level items).length + 1 < fuel →
      decodeItems hooks fuel (laidOut ensureAscii floatText gap space level item ++
          (laidItems ensureAscii floatText gap space level items ++ (back ++ ']' :: rest))) =
        .ok (item :: items, rest)

def ReadsFields (fuel : Nat) : Prop :=
  ∀ level key value fields, plainFields fits ((key, value) :: fields) = true → ∀ back rest,
    back.all isBlank = true →
      (laidOut ensureAscii floatText gap space level value).length +
        (laidFields ensureAscii floatText gap space level fields).length + 1 < fuel →
      decodeFields hooks fuel (quoted ensureAscii key ++ (':' :: (space ++
          (laidOut ensureAscii floatText gap space level value ++
            (laidFields ensureAscii floatText gap space level fields ++
              (back ++ '\x7d' :: rest)))))) =
        .ok ((key, value) :: fields, rest)

variable {ensureAscii floatText hooks fits gap space}

theorem laid_out_head (level : Nat) (value : Json) (kept : plain fits value = true) (rest : Text) :
    ∃ character more, laidOut ensureAscii floatText gap space level value ++ rest =
        character :: more ∧ isBlank character = false ∧ character ≠ ']' := by
  match value with
  | .null => exact ⟨'n', _, rfl, rfl, by decide⟩
  | .bool true => exact ⟨'t', _, rfl, rfl, by decide⟩
  | .bool false => exact ⟨'f', _, rfl, rfl, by decide⟩
  | .int value =>
    rcases int_text_head value rest with ⟨character, more, shape, head⟩
    exists character, more
    apply And.intro (by rw [laidOut]; exact shape)
    rcases head with ⟨sign, _⟩ | isDigit
    · subst sign
      decide
    · constructor
      · rw [isBlank, Bool.or_eq_false_iff, Bool.or_eq_false_iff, Bool.or_eq_false_iff]
        simp only [beq_eq_false_iff_ne]
        refine ⟨⟨⟨?_, ?_⟩, ?_⟩, ?_⟩
        all_goals
          intro same
          subst same
          cases isDigit
      · intro same
        subst same
        cases isDigit
  | .float value => cases kept
  | .string value => exact ⟨'"', _, by rw [laidOut, quoted]; rfl, rfl, by decide⟩
  | .array [] | .array (item :: items) => exact ⟨'[', _, by rw [laidOut]; rfl, rfl, by decide⟩
  | .object [] | .object ((key, value) :: fields) =>
    exact ⟨'\x7b', _, by rw [laidOut]; rfl, rfl, by decide⟩

theorem skip_laid_out (blanks : Text) (blank : blanks.all isBlank = true) (level : Nat)
    (value : Json) (kept : plain fits value = true) (rest : Text) :
    skipBlanks (blanks ++ (laidOut ensureAscii floatText gap space level value ++ rest)) =
      laidOut ensureAscii floatText gap space level value ++ rest := by
  obtain ⟨character, more, text, visible, -⟩ := laid_out_head level value kept rest
  rw [skip_blanks_append _ _ blank, text, skip_blanks_head character more visible]

theorem skip_quoted (blanks : Text) (blank : blanks.all isBlank = true) (key rest : Text) :
    skipBlanks (blanks ++ (quoted ensureAscii key ++ rest)) = quoted ensureAscii key ++ rest := by
  rw [skip_blanks_append _ _ blank, quoted, List.cons_append, List.cons_append,
    skip_blanks_head _ _ rfl]

variable (layout : BlankLayout gap space)
include layout

theorem reads_value_step (fuel : Nat)
    (numbers : ∀ value, fits value = true → hooks.parseInt (intText value) = .ok value)
    (onItems : ReadsItems ensureAscii floatText hooks fits gap space fuel)
    (onFields : ReadsFields ensureAscii floatText hooks fits gap space fuel) :
    ReadsValue ensureAscii floatText hooks fits gap space (fuel + 1) := by
  intro level value kept rest closed enough
  match value with
  | .null =>
    rw [laidOut]
    exact decode_scalar .null _ rest fuel 'n' _ rfl (by decide) rfl
  | .bool true =>
    rw [laidOut]
    exact decode_scalar (.bool true) _ rest fuel 't' _ rfl (by decide) rfl
  | .bool false =>
    rw [laidOut]
    exact decode_scalar (.bool false) _ rest fuel 'f' _ rfl (by decide) rfl
  | .int value =>
    rw [laidOut]
    rw [plain] at kept
    exact decode_int value rest fuel closed (numbers value kept)
  | .float value => cases kept
  | .string value =>
    rw [laidOut]
    exact decode_string value rest fuel
  | .array [] =>
    rw [laidOut]
    rfl
  | .array (item :: items) =>
    rw [plain] at kept
    have first : plain fits item = true := by
      rw [plainItems, Bool.and_eq_true] at kept
      exact kept.1
    rw [laidOut] at enough ⊢
    simp only [List.length_append, List.length_cons] at enough
    have read := onItems (level + 1) item items kept (gap level) rest (layout.gap level) (by omega)
    simp only [List.append_assoc, List.cons_append, List.nil_append]
    rw [decodeValue, if_neg (by decide), if_pos rfl, skip_laid_out _ (layout.gap _) _ item first]
    obtain ⟨character, more, text, -, other⟩ := laid_out_head (level + 1) item first
      (laidItems ensureAscii floatText gap space (level + 1) items ++ (gap level ++ ']' :: rest))
    rw [text] at read ⊢
    split
    · next same => exact absurd (List.cons.inj same).1 other
    · rw [read]
  | .object [] =>
    rw [laidOut]
    rfl
  | .object ((key, value) :: fields) =>
    rw [plain, Bool.and_eq_true, decide_eq_true_iff] at kept
    rw [laidOut] at enough ⊢
    simp only [List.length_append, List.length_cons] at enough
    have read := onFields (level + 1) key value fields kept.2 (gap level) rest (layout.gap level)
      (by omega)
    have unique : uniqueObject ((key, value) :: fields) =
        .ok (.object ((key, value) :: fields)) := by
      rw [uniqueObject, repeated_key_none [] ((key, value) :: fields) kept.1]
    simp only [List.append_assoc, List.cons_append, List.nil_append]
    rw [decodeValue, if_neg (by decide), if_neg (by decide), if_pos rfl,
      skip_quoted _ (layout.gap _)]
    split
    · next same => cases same
    · rw [read]
      simp only [unique]

theorem reads_items_step (fuel : Nat)
    (onValue : ReadsValue ensureAscii floatText hooks fits gap space fuel)
    (onItems : ReadsItems ensureAscii floatText hooks fits gap space fuel) :
    ReadsItems ensureAscii floatText hooks fits gap space (fuel + 1) := by
  intro level item items kept back rest blank enough
  rw [plainItems, Bool.and_eq_true] at kept
  cases items with
  | nil =>
    rw [laidItems, List.nil_append, decodeItems, onValue level item kept.1 _
      (closes_blanks _ _ blank (closes_bracket rest)) (by omega)]
    simp only [skip_blanks_append _ _ blank, skip_blanks_head ']' _ rfl]
  | cons next others =>
    rw [laidItems] at enough ⊢
    simp only [List.length_append, List.length_cons] at enough
    have later := onItems level next others kept.2 back rest blank (by omega)
    have second : plain fits next = true := by
      have both := kept.2
      rw [plainItems, Bool.and_eq_true] at both
      exact both.1
    simp only [List.append_assoc, List.cons_append]
    rw [decodeItems, onValue level item kept.1 _ (closes_comma _) (by omega)]
    simp only [skip_blanks_head ',' _ rfl, skip_laid_out _ (layout.gap _) _ next second, later]

theorem reads_fields_step (fuel : Nat)
    (onValue : ReadsValue ensureAscii floatText hooks fits gap space fuel)
    (onFields : ReadsFields ensureAscii floatText hooks fits gap space fuel) :
    ReadsFields ensureAscii floatText hooks fits gap space (fuel + 1) := by
  intro level key value fields kept back rest blank enough
  rw [plainFields, Bool.and_eq_true] at kept
  have shape (tail : Text) : quoted ensureAscii key ++ tail =
      '"' :: (key.flatMap (escapeChar ensureAscii) ++ '"' :: tail) := by
    simp [quoted]
  rw [shape, decodeFields, if_pos rfl, read_quoted]
  simp only [skip_blanks_head ':' _ rfl, skip_laid_out _ layout.space _ value kept.1]
  cases fields with
  | nil =>
    rw [laidFields, List.nil_append, onValue level value kept.1 _
      (closes_blanks _ _ blank (closes_brace rest)) (by omega)]
    simp only [skip_blanks_append _ _ blank, skip_blanks_head '\x7d' _ rfl]
  | cons next others =>
    rw [laidFields] at enough ⊢
    simp only [List.length_append, List.length_cons] at enough
    have later := onFields level next.1 next.2 others kept.2 back rest blank (by omega)
    simp only [List.append_assoc, List.cons_append]
    rw [onValue level value kept.1 _ (closes_comma _) (by omega)]
    simp only [skip_blanks_head ',' _ rfl, skip_quoted _ (layout.gap _), later]

theorem reads_all (numbers : ∀ value, fits value = true →
      hooks.parseInt (intText value) = .ok value) (fuel : Nat) :
    ReadsValue ensureAscii floatText hooks fits gap space fuel ∧
      ReadsItems ensureAscii floatText hooks fits gap space fuel ∧
        ReadsFields ensureAscii floatText hooks fits gap space fuel := by
  induction fuel with
  | zero =>
    refine ⟨?_, ?_, ?_⟩
    · intro level value _ rest _ enough
      cases enough
    · intro level item items _ back rest _ enough
      cases enough
    · intro level key value fields _ back rest _ enough
      cases enough
  | succ fuel ih =>
    rcases ih with ⟨onValue, onItems, onFields⟩
    exact ⟨reads_value_step layout fuel numbers onItems onFields,
      reads_items_step layout fuel onValue onItems, reads_fields_step layout fuel onValue onFields⟩

theorem loads_laid_out (numbers : ∀ value, fits value = true →
      hooks.parseInt (intText value) = .ok value) (level : Nat)
    (value : Json) (kept : plain fits value = true) (tail : Text) (blank : tail.all isBlank = true) :
    loads hooks (laidOut ensureAscii floatText gap space level value ++ tail) = .ok value := by
  have closed := closes_blanks tail [] blank rfl
  have nothing := skip_blanks_append tail [] blank
  rw [List.append_nil] at closed nothing
  have reads : ReadsValue ensureAscii floatText hooks fits gap space
      ((laidOut ensureAscii floatText gap space level value ++ tail).length + 1) :=
    (reads_all layout numbers _).1
  have read := reads level value kept tail closed (by rw [List.length_append]; omega)
  have skipped : skipBlanks (laidOut ensureAscii floatText gap space level value ++ tail) = _ :=
    skip_laid_out [] rfl level value kept tail
  unfold loads
  rw [skipped, read]
  simp only [nothing]
  rfl

end Layout

section Compact

variable (ensureAscii floatText)

theorem encode_items_cons (item : Json) (items : List Json) :
    encodeItems ensureAscii floatText (item :: items) = encode ensureAscii floatText item ++
      items.flatMap fun next => ',' :: encode ensureAscii floatText next := by
  induction items generalizing item with
  | nil => rw [encodeItems, List.flatMap_nil, List.append_nil]
  | cons next others ih => rw [encodeItems, ih, List.flatMap_cons, List.cons_append]

theorem encode_fields_cons (field : Text × Json) (fields : List (Text × Json)) :
    encodeFields ensureAscii floatText (field :: fields) = quoted ensureAscii field.1 ++
      ':' :: encode ensureAscii floatText field.2 ++ fields.flatMap fun next =>
        ',' :: quoted ensureAscii next.1 ++ ':' :: encode ensureAscii floatText next.2 := by
  induction fields generalizing field with
  | nil => rw [encodeFields, List.flatMap_nil, List.append_nil]
  | cons next others ih =>
    simp only [encodeFields, ih, List.flatMap_cons, List.cons_append, List.append_assoc]

mutual

/-- Without gaps and spaces the compact text is written. -/
theorem compact_encode (level : Nat) (value : Json) :
    laidOut ensureAscii floatText (fun _ => []) [] level value =
      encode ensureAscii floatText value := by
  match value with
  | .null | .bool true | .bool false | .int _ | .float _ | .string _ => rw [laidOut, encode]
  | .array [] | .object [] => rfl
  | .array (item :: items) =>
    rw [laidOut, encode, encode_items_cons, compact_encode (level + 1) item,
      compact_encode_items (level + 1) items]
    simp
  | .object ((key, value) :: fields) =>
    rw [laidOut, encode, encode_fields_cons, compact_encode (level + 1) value,
      compact_encode_fields (level + 1) fields]
    simp

theorem compact_encode_items (level : Nat) (items : List Json) :
    laidItems ensureAscii floatText (fun _ => []) [] level items =
      items.flatMap fun next => ',' :: encode ensureAscii floatText next := by
  match items with
  | [] => rw [laidItems, List.flatMap_nil]
  | next :: others =>
    rw [laidItems, compact_encode level next, compact_encode_items level others,
      List.flatMap_cons]
    rfl

theorem compact_encode_fields (level : Nat) (fields : List (Text × Json)) :
    laidFields ensureAscii floatText (fun _ => []) [] level fields = fields.flatMap fun next =>
      ',' :: quoted ensureAscii next.1 ++ ':' :: encode ensureAscii floatText next.2 := by
  match fields with
  | [] => rw [laidFields, List.flatMap_nil]
  | (key, value) :: others =>
    rw [laidFields, compact_encode level value, compact_encode_fields level others,
      List.flatMap_cons]
    simp

end

end Compact

theorem loads_encode (numbers : ∀ value, fits value = true →
      hooks.parseInt (intText value) = .ok value)
    (value : Json) (kept : plain fits value = true) (tail : Text) (blank : tail.all isBlank = true) :
    loads hooks (encode ensureAscii floatText value ++ tail) = .ok value := by
  rw [← compact_encode ensureAscii floatText 0 value]
  exact loads_laid_out ⟨fun _ => rfl, rfl⟩ numbers 0 value kept tail blank

end Values

/-! Sorted keys -/

variable (fields : List (Text × Json))

theorem sort_values_eq :
    sortValues fields = fields.map fun field => (field.1, sortKeys field.2) := by
  induction fields with
  | nil => rw [sortValues, List.map_nil]
  | cons field rest ih => rw [sortValues, ih, List.map_cons]

theorem sort_values_keys :
    (sortValues fields).map Prod.fst = fields.map Prod.fst := by
  rw [sort_values_eq, List.map_map]
  rfl

theorem sort_values_flat (flat : ∀ field ∈ fields, sortKeys field.2 = field.2) :
    sortValues fields = fields := by
  rw [sort_values_eq]
  conv_rhs => rw [← List.map_id fields]
  apply List.map_congr_left
  intro field inside
  rw [flat field inside]
  rfl

theorem sort_fields_perm : (sortFields fields).Perm fields :=
  sort_on_perm Text.le Prod.fst fields

theorem sort_keys_perm (left right : List (Text × Json)) (same : left.Perm right)
    (distinct : (left.map Prod.fst).Nodup) : sortKeys (.object left) = sortKeys (.object right) := by
  rw [sortKeys, sortKeys]
  congr 1
  apply sort_on_eq_of_perm Text.order
  · rw [sort_values_eq, sort_values_eq]
    exact same.map _
  · rw [sort_values_keys]
    exact distinct

/-! The length of an object -/

variable (ensureAscii : Bool) (floatText : Rat → Text)

theorem encode_fields_length (field : Text × Json)
    (fields : List (Text × Json)) :
    (encodeFields ensureAscii floatText (field :: fields)).length + 1 =
      ((field :: fields).map fun field => (quoted ensureAscii field.1).length +
        (encode ensureAscii floatText field.2).length + 2).sum := by
  induction fields generalizing field with
  | nil =>
    rcases field with ⟨key, value⟩
    rw [encodeFields]
    simp only [List.length_append, List.length_cons, List.map_cons, List.map_nil, List.sum_cons,
      List.sum_nil]
    omega
  | cons next rest ih =>
    rcases field with ⟨key, value⟩
    rw [encodeFields, List.map_cons, List.sum_cons, ← ih next]
    simp only [List.length_append, List.length_cons]
    omega

theorem escape_char_length (ensureAscii : Bool) (character : Char) :
    (escapeChar ensureAscii character).length ≤ 12 := by
  unfold escapeChar
  split
  · simp
  · split_ifs <;> simp [unicodeEscape]

theorem quoted_length (ensureAscii : Bool) (text : Text) :
    (quoted ensureAscii text).length ≤ 12 * text.length + 2 := by
  have inner : (text.flatMap (escapeChar ensureAscii)).length ≤ 12 * text.length := by
    induction text with
    | nil => simp
    | cons character rest ih =>
      have here := escape_char_length ensureAscii character
      rw [List.flatMap_cons, List.length_append, List.length_cons]
      omega
  rw [quoted, List.length_append, List.length_cons, List.length_singleton]
  omega

theorem encode_object_length (fields : List (Text × Json)) :
    (encode ensureAscii floatText (.object fields)).length ≤
      2 + (fields.map fun field => (quoted ensureAscii field.1).length +
        (encode ensureAscii floatText field.2).length + 2).sum := by
  rw [encode]
  cases fields with
  | nil => simp [encodeFields]
  | cons field rest =>
    have inner := encode_fields_length ensureAscii floatText field rest
    simp only [List.length_append, List.length_cons, List.length_nil]
    omega

theorem encode_object_characters (holds : Char → Prop)
    (signs : ∀ sign ∈ ['\x7b', '\x7d', ',', ':'], holds sign)
    (fields : List (Text × Json))
    (members : ∀ field ∈ fields, ∀ character ∈ quoted ensureAscii field.1 ++
      encode ensureAscii floatText field.2, holds character) :
    ∀ character ∈ encode ensureAscii floatText (.object fields), holds character := by
  have inner : ∀ character ∈ encodeFields ensureAscii floatText fields, holds character := by
    induction fields with
    | nil => simp [encodeFields]
    | cons field rest ih =>
      have here := members field List.mem_cons_self
      have later := ih fun other inside => members other (List.mem_cons_of_mem _ inside)
      rcases field with ⟨key, value⟩
      simp only [List.mem_append] at here
      cases rest with
      | nil =>
        intro character inside
        rw [encodeFields, List.mem_append, List.mem_cons] at inside
        rcases inside with name | colon | text
        · exact here character (Or.inl name)
        · exact signs character (by simp [colon])
        · exact here character (Or.inr text)
      | cons next others =>
        intro character inside
        rw [encodeFields, List.append_assoc, List.mem_append, List.cons_append, List.mem_cons,
          List.mem_append, List.mem_cons] at inside
        rcases inside with name | colon | text | comma | more
        · exact here character (Or.inl name)
        · exact signs character (by simp [colon])
        · exact here character (Or.inr text)
        · exact signs character (by simp [comma])
        · exact later character more
  intro character inside
  rw [encode, List.cons_append, List.mem_cons, List.mem_append, List.mem_singleton] at inside
  rcases inside with opening | within | closing
  · exact signs character (by simp [opening])
  · exact inner character within
  · exact signs character (by simp [closing])

/-! Keys of what is read -/

theorem repeated_key_distinct (seen : List Text) (pairs : List (Text × Json))
    (none_repeated : repeatedKey seen pairs = none) :
    (pairs.map Prod.fst).Nodup ∧ ∀ pair ∈ pairs, pair.1 ∉ seen := by
  induction pairs generalizing seen with
  | nil => simp
  | cons pair rest ih =>
    rcases pair with ⟨key, value⟩
    rw [repeatedKey] at none_repeated
    split at none_repeated
    · cases none_repeated
    · next fresh =>
        have later := ih (key :: seen) none_repeated
        rw [List.contains_iff_mem] at fresh
        constructor
        · rw [List.map_cons, List.nodup_cons]
          apply And.intro _ later.1
          intro inside
          rcases List.mem_map.mp inside with ⟨other, listed, same⟩
          exact later.2 other listed (by rw [same]; exact List.mem_cons_self)
        · intro other inside
          rcases List.mem_cons.mp inside with here | there
          · rw [here]
            exact fresh
          · intro known
            exact later.2 other there (List.mem_cons_of_mem _ known)

theorem decode_object_distinct (hooks : NumberHooks) (fuel : Nat) (text rest : Text)
    (fields : List (Text × Json))
    (read : decodeValue hooks fuel text = .ok (.object fields, rest)) :
    (fields.map Prod.fst).Nodup := by
  have scalar (word : Text) : readScalar hooks word ≠ .ok (.object fields, rest) := by
    unfold readScalar readNumber
    intro scanned
    split at scanned
    · cases scanned
    · split at scanned
      · cases scanned
      · split at scanned
        · cases scanned
        · split at scanned
          · cases scanned
          · split at scanned
            · cases scanned
            · simp only at scanned
              split at scanned <;> split at scanned <;> cases scanned
  cases fuel with
  | zero => cases read
  | succ fuel =>
    cases text with
    | nil => cases read
    | cons character more =>
      rw [decodeValue] at read
      split at read
      · split at read
        · cases read
        · cases read
      · split at read
        · split at read
          · cases read
          · split at read
            · cases read
            · cases read
        · split at read
          · split at read
            · cases read
              exact List.nodup_nil
            · split at read
              · cases read
              · next pairs _ _ =>
                  unfold uniqueObject at read
                  cases repeated : repeatedKey [] pairs with
                  | some key =>
                    rw [repeated] at read
                    cases read
                  | none =>
                    rw [repeated] at read
                    cases read
                    exact (repeated_key_distinct [] _ repeated).1
          · exact absurd read (scalar _)

theorem loads_distinct (hooks : NumberHooks) (text : Text) (fields : List (Text × Json))
    (read : loads hooks text = .ok (.object fields)) : (fields.map Prod.fst).Nodup := by
  unfold loads at read
  split at read
  · cases read
  · next value rest decoded =>
      split at read
      · cases read
        exact decode_object_distinct hooks _ _ _ _ decoded
      · cases read

end EvoomGuard.Lib.JsonCodec
