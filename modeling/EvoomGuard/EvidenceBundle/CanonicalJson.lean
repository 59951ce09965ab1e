import EvoomGuard.EvidenceBundle.Primitives
import EvoomGuard.Lib.JsonRoundTrip

/-!
The text written for a value, read back by the strict reader: the guard on nesting counts the
brackets of the value alone.
-/

namespace EvoomGuard.EvidenceBundle

open Lib Lib.Framing Lib.JsonCodec

mutual

/-- The brackets a value needs around its innermost part. -/
def depth : Json → Nat
  | .array items => depthItems items + 1
  | .object fields => depthFields fields + 1
  | _ => 0

def depthItems : List Json → Nat
  | [] => 0
  | item :: rest => max (depth item) (depthItems rest)

def depthFields : List (Text × Json) → Nat
  | [] => 0
  | (_, value) :: rest => max (depth value) (depthFields rest)

end

/-- Characters that neither open nor close anything. -/
def quiet (character : Char) : Bool :=
  character != '"' && character != '[' && character != ']' && character != '\x7b' &&
    character != '\x7d'

theorem nesting_quiet (depth : Int) (text rest : Text) (each : text.all quiet = true) :
    nestingExceeds depth false false (text ++ rest) = nestingExceeds depth false false rest := by
  induction text with
  | nil => rfl
  | cons character characters ih =>
    rw [List.all_cons, Bool.and_eq_true] at each
    have head := each.1
    simp only [quiet, Bool.and_eq_true, bne_iff_ne] at head
    obtain ⟨⟨⟨⟨quote, opening⟩, closing⟩, brace⟩, ending⟩ := head
    rw [List.cons_append, nestingExceeds, if_neg quote, if_neg (by simp [opening, brace]),
      if_neg (by simp [closing, ending]), ih each.2]

theorem nesting_inside (depth : Int) (character : Char) (rest : Text) (quote : character ≠ '"')
    (slash : character ≠ '\\') :
    nestingExceeds depth true false (character :: rest) = nestingExceeds depth true false rest := by
  rw [nestingExceeds, if_neg (by decide), if_neg slash, bne_iff_ne.mpr quote]

theorem nesting_escape (depth : Int) (character : Char) (rest : Text) :
    nestingExceeds depth true false ('\\' :: character :: rest) =
      nestingExceeds depth true false rest := by
  rw [nestingExceeds, if_neg (by decide), if_pos rfl, nestingExceeds, if_pos rfl]

theorem hex_digit_inside : ∀ value < 16, hexDigit value ≠ '"' ∧ hexDigit value ≠ '\\' := by decide

theorem nesting_unicode (depth : Int) (code : Nat) (rest : Text) :
    nestingExceeds depth true false (unicodeEscape code ++ rest) =
      nestingExceeds depth true false rest := by
  have digit (value : Nat) := hex_digit_inside (value % 16) (Nat.mod_lt _ (by decide))
  simp only [unicodeEscape, List.cons_append, List.nil_append]
  rw [nesting_escape, nesting_inside _ _ _ (digit _).1 (digit _).2,
    nesting_inside _ _ _ (digit _).1 (digit _).2, nesting_inside _ _ _ (digit _).1 (digit _).2,
    nesting_inside _ _ _ (digit _).1 (digit _).2]

theorem nesting_escaped (depth : Int) (character : Char) (rest : Text) :
    nestingExceeds depth true false (escapeChar true character ++ rest) =
      nestingExceeds depth true false rest := by
  unfold escapeChar
  split
  · exact nesting_escape depth _ rest
  · next absent =>
      have plain : ∀ pair ∈ shortEscapes, pair.2 ≠ character := by
        intro pair inside same
        exact absurd (beq_iff_eq.mpr same) (List.find?_eq_none.mp absent pair inside)
      split
      · exact nesting_unicode depth _ rest
      · split
        · split
          · exact nesting_unicode depth _ rest
          · rw [List.append_assoc, nesting_unicode, nesting_unicode]
        · exact nesting_inside depth character rest
            (fun same => plain ('"', '"') (by decide) same.symm)
            (fun same => plain ('\\', '\\') (by decide) same.symm)

theorem nesting_quoted (depth : Int) (text rest : Text) :
    nestingExceeds depth false false (quoted true text ++ rest) =
      nestingExceeds depth false false rest := by
  have inner : nestingExceeds depth true false (text.flatMap (escapeChar true) ++ '"' :: rest) =
      nestingExceeds depth false false rest := by
    induction text with
    | nil => rfl
    | cons character characters ih =>
      rw [List.flatMap_cons, List.append_assoc, nesting_escaped, ih]
  rw [quoted, List.cons_append, List.cons_append, nestingExceeds, if_pos rfl, List.append_assoc]
  exact inner

theorem nesting_int (depth : Int) (value : Int) (rest : Text) :
    nestingExceeds depth false false (intText value ++ rest) =
      nestingExceeds depth false false rest := by
  have digits : ∀ character : Char, character.isDigit = true → quiet character = true := by
    intro character isDigit
    simp only [quiet, Bool.and_eq_true, bne_iff_ne]
    refine ⟨⟨⟨⟨?_, ?_⟩, ?_⟩, ?_⟩, ?_⟩
    all_goals
      intro same
      subst same
      cases isDigit
  obtain ⟨digit, others, shape, isDigit, each, _⟩ := nat_text_shape value.natAbs
  have whole : (natText value.natAbs).all quiet = true := by
    rw [shape, List.all_cons, digits digit isDigit, Bool.true_and, List.all_eq_true]
    intro character inside
    exact digits character (List.all_eq_true.mp each character inside)
  apply nesting_quiet
  unfold intText
  split
  · rw [List.all_cons, whole]
    decide
  · exact whole

section Encode

variable (floatText : Rat → Text) (fits : Int → Bool)

theorem nesting_bracket (depth : Int) (opening closing : Char) (inner rest : Text)
    (pair : opening = '[' ∧ closing = ']' ∨ opening = '\x7b' ∧ closing = '\x7d')
    (room : depth + 1 ≤ maxJsonDepth)
    (within : nestingExceeds (depth + 1) false false (inner ++ closing :: rest) =
      nestingExceeds (depth + 1) false false (closing :: rest)) :
    nestingExceeds depth false false (opening :: inner ++ [closing] ++ rest) =
      nestingExceeds depth false false rest := by
  have fitting : decide (maxJsonDepth < depth + 1) = false := decide_eq_false (by omega)
  rw [List.cons_append, List.cons_append, List.append_assoc, List.singleton_append]
  rcases pair with ⟨rfl, rfl⟩ | ⟨rfl, rfl⟩
  · rw [nestingExceeds, if_neg (by decide), if_pos (by decide), fitting, Bool.false_or, within,
      nestingExceeds, if_neg (by decide), if_neg (by decide), if_pos (by decide), add_sub_cancel_right]
  · rw [nestingExceeds, if_neg (by decide), if_pos (by decide), fitting, Bool.false_or, within,
      nestingExceeds, if_neg (by decide), if_neg (by decide), if_pos (by decide), add_sub_cancel_right]

theorem nesting_mark (depth : Int) (mark : Char) (rest : Text) (silent : quiet mark = true) :
    nestingExceeds depth false false (mark :: rest) = nestingExceeds depth false false rest := by
  have one := nesting_quiet depth [mark] rest (by rw [List.all_cons, silent, List.all_nil]; rfl)
  exact one

mutual

theorem nesting_encode (value : Json) (kept : plain fits value = true) (level : Int) (rest : Text)
    (room : level + depth value ≤ maxJsonDepth) :
    nestingExceeds level false false (encode true floatText value ++ rest) =
      nestingExceeds level false false rest := by
  match value with
  | .null => exact nesting_quiet level _ rest rfl
  | .bool true => exact nesting_quiet level _ rest rfl
  | .bool false => exact nesting_quiet level _ rest rfl
  | .int number => exact nesting_int level number rest
  | .float number => cases kept
  | .string text => exact nesting_quoted level text rest
  | .array items =>
    rw [plain] at kept
    rw [depth] at room
    rw [encode]
    apply nesting_bracket level '[' ']' _ rest (Or.inl ⟨rfl, rfl⟩) (by omega)
    exact nesting_items items kept (level + 1) _ (by push_cast at room; omega)
  | .object fields =>
    rw [plain, Bool.and_eq_true] at kept
    rw [depth] at room
    rw [encode]
    apply nesting_bracket level '\x7b' '\x7d' _ rest (Or.inr ⟨rfl, rfl⟩) (by omega)
    exact nesting_fields fields kept.2 (level + 1) _ (by push_cast at room; omega)

theorem nesting_items (items : List Json) (kept : plainItems fits items = true) (level : Int)
    (rest : Text) (room : level + depthItems items ≤ maxJsonDepth) :
    nestingExceeds level false false (encodeItems true floatText items ++ rest) =
      nestingExceeds level false false rest := by
  match items with
  | [] => rfl
  | [item] =>
    rw [plainItems, Bool.and_eq_true] at kept
    rw [depthItems] at room
    rw [encodeItems]
    exact nesting_encode item kept.1 level rest (by omega)
  | item :: next :: more =>
    rw [plainItems, Bool.and_eq_true] at kept
    rw [depthItems] at room
    rw [encodeItems, List.append_assoc, List.cons_append,
      nesting_encode item kept.1 level _ (by omega), nesting_mark level ',' _ (by decide)]
    exact nesting_items (next :: more) kept.2 level rest (by omega)

theorem nesting_fields (fields : List (Text × Json)) (kept : plainFields fits fields = true)
    (level : Int) (rest : Text) (room : level + depthFields fields ≤ maxJsonDepth) :
    nestingExceeds level false false (encodeFields true floatText fields ++ rest) =
      nestingExceeds level false false rest := by
  match fields with
  | [] => rfl
  | [(key, value)] =>
    rw [plainFields, Bool.and_eq_true] at kept
    rw [depthFields] at room
    rw [encodeFields, List.append_assoc, List.cons_append, nesting_quoted,
      nesting_mark level ':' _ (by decide)]
    exact nesting_encode value kept.1 level rest (by omega)
  | (key, value) :: next :: more =>
    rw [plainFields, Bool.and_eq_true] at kept
    rw [depthFields] at room
    rw [encodeFields]
    simp only [List.append_assoc, List.cons_append]
    rw [nesting_quoted, nesting_mark level ':' _ (by decide),
      nesting_encode value kept.1 level _ (by omega), nesting_mark level ',' _ (by decide)]
    exact nesting_fields (next :: more) kept.2 level rest (by omega)

end

end Encode

/-- Whole numbers the reader takes. -/
def fitsDigits (value : Int) : Bool := decide ((natText value.natAbs).length ≤ maxJsonIntegerDigits)

/-- A value that is written and read back: no fraction, no long number, no key twice, and at most
this many brackets around its innermost part. -/
structure Fit (limit : Nat) (value : Json) : Prop where
  plain : plain fitsDigits value = true
  shallow : depth value ≤ limit

theorem bounded_int_text (value : Int) (fits : fitsDigits value = true) :
    boundedInt (intText value) = .ok value := by
  have digits : (intText value).dropWhile (· == '-') = natText value.natAbs := by
    obtain ⟨digit, others, shape, isDigit, _⟩ := nat_text_shape value.natAbs
    have other := digit_is_no_minus digit isDigit
    unfold intText
    split
    · rw [shape, List.dropWhile_cons_of_pos (by decide),
        List.dropWhile_cons_of_neg (by simp [other])]
    · rw [shape, List.dropWhile_cons_of_neg (by simp [other])]
  rw [fitsDigits, decide_eq_true_eq] at fits
  rw [boundedInt, digits, if_neg (Nat.not_lt.mpr fits), int_value_text]

theorem strict_loads_encoded (host : EvidenceHost) {value : Json} (fit : Fit 256 value) :
    strictJsonLoads host (encode true host.floatText value ++ ['\n']) = .ok value := by
  have within : nestingExceeds 0 false false (encode true host.floatText value ++ ['\n']) =
      false := by
    rw [nesting_encode host.floatText fitsDigits _ fit.plain 0 ['\n']
      (by
        have bound := fit.shallow
        rw [maxJsonDepth]
        omega)]
    rfl
  rw [strictJsonLoads, within, if_neg (by decide),
    loads_encode bounded_int_text _ fit.plain ['\n'] (by decide)]
  rfl

end EvoomGuard.EvidenceBundle
