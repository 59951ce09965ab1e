import EvoomGuard.Lib.Framing

/-!
Padded base64: `base64.b64encode`, and `base64.b64decode` with `validate=True` on a text of whole
groups.
-/

namespace EvoomGuard.Lib.Base64

open Lib.Framing

def alphabet : List Char :=
  "ABCDEFGHIJKLMNOPQRSTUVWXYZabcdefghijklmnopqrstuvwxyz0123456789+/"

def symbol (value : Nat) : Char := alphabet.getD value 'A'

def symbolValue (character : Char) : Option Nat := alphabet.findIdx? (· == character)

def encode : Bytes → Text
  | [] => []
  | [first] => [symbol (first.toNat / 4), symbol (first.toNat % 4 * 16), '=', '=']
  | [first, second] =>
    [symbol (first.toNat / 4), symbol (first.toNat % 4 * 16 + second.toNat / 16),
      symbol (second.toNat % 16 * 4), '=']
  | first :: second :: third :: rest =>
    symbol (first.toNat / 4) :: symbol (first.toNat % 4 * 16 + second.toNat / 16) ::
      symbol (second.toNat % 16 * 4 + third.toNat / 64) :: symbol (third.toNat % 64) :: encode rest

def groupBytes (values : List Nat) : Bytes :=
  match values with
  | [first, second] => [UInt8.ofNat (first * 4 + second / 16)]
  | [first, second, third] =>
    [UInt8.ofNat (first * 4 + second / 16), UInt8.ofNat (second % 16 * 16 + third / 4)]
  | [first, second, third, fourth] =>
    [UInt8.ofNat (first * 4 + second / 16), UInt8.ofNat (second % 16 * 16 + third / 4),
      UInt8.ofNat (third % 4 * 64 + fourth)]
  | _ => []

def decode : Text → Option Bytes
  | [] => some []
  | first :: second :: third :: fourth :: rest =>
    if fourth = '=' then
      if rest.isEmpty then
        ((if third = '=' then [first, second] else [first, second, third]).mapM
          symbolValue).map groupBytes
      else none
    else
      match [first, second, third, fourth].mapM symbolValue, decode rest with
      | some values, some bytes => some (groupBytes values ++ bytes)
      | _, _ => none
  | _ => none

theorem symbol_value : ∀ value < 64, symbolValue (symbol value) = some value ∧ symbol value ≠ '=' ∧
    symbol value ∈ alphabet := by decide

theorem byte_back (byte : UInt8) (value : Nat) (same : value = byte.toNat) :
    UInt8.ofNat value = byte := by
  rw [same, UInt8.ofNat_toNat]

theorem decode_encode (bytes : Bytes) : decode (encode bytes) = some bytes := by
  induction bytes using encode.induct with
  | case1 => rfl
  | case2 first =>
    have bound := first.toNat_lt
    have one := symbol_value (first.toNat / 4) (by omega)
    have two := symbol_value (first.toNat % 4 * 16) (by omega)
    simp only [encode, decode, List.isEmpty_nil, if_true, List.mapM_cons, List.mapM_nil, one.1,
      two.1, Option.pure_def, Option.bind_eq_bind, Option.bind_some, Option.map_some, groupBytes,
      Option.some.injEq, List.cons.injEq, and_true]
    apply byte_back
    omega
  | case3 first second =>
    have bound := first.toNat_lt
    have secondBound := second.toNat_lt
    have one := symbol_value (first.toNat / 4) (by omega)
    have two := symbol_value (first.toNat % 4 * 16 + second.toNat / 16) (by omega)
    have three := symbol_value (second.toNat % 16 * 4) (by omega)
    simp only [encode, decode, List.isEmpty_nil, if_true, if_neg three.2.1, List.mapM_cons,
      List.mapM_nil, one.1, two.1, three.1, Option.pure_def, Option.bind_eq_bind,
      Option.bind_some, Option.map_some, groupBytes, Option.some.injEq, List.cons.injEq, and_true]
    constructor
    · apply byte_back
      omega
    · apply byte_back
      omega
  | case4 first second third rest ih =>
    have bound := first.toNat_lt
    have secondBound := second.toNat_lt
    have thirdBound := third.toNat_lt
    have one := symbol_value (first.toNat / 4) (by omega)
    have two := symbol_value (first.toNat % 4 * 16 + second.toNat / 16) (by omega)
    have three := symbol_value (second.toNat % 16 * 4 + third.toNat / 64) (by omega)
    have four := symbol_value (third.toNat % 64) (by omega)
    simp only [encode, decode, if_neg four.2.1, List.mapM_cons, List.mapM_nil, one.1, two.1,
      three.1, four.1, ih, Option.pure_def, Option.bind_eq_bind, Option.bind_some, groupBytes,
      List.cons_append, List.nil_append, Option.some.injEq, List.cons.injEq, and_true]
    refine ⟨?_, ?_, ?_⟩
    · apply byte_back
      omega
    · apply byte_back
      omega
    · apply byte_back
      omega

theorem encode_length (bytes : Bytes) : (encode bytes).length = (bytes.length + 2) / 3 * 4 := by
  induction bytes using encode.induct with
  | case1 => rfl
  | case2 first | case3 first second => simp [encode]
  | case4 first second third rest ih =>
    simp only [encode, List.length_cons, ih]
    omega

theorem encode_symbols (bytes : Bytes) :
    ∀ character ∈ encode bytes, character ∈ alphabet ∨ character = '=' := by
  induction bytes using encode.induct with
  | case1 => simp [encode]
  | case2 first =>
    have bound := first.toNat_lt
    simp [encode, (symbol_value (first.toNat / 4) (by omega)).2.2,
      (symbol_value (first.toNat % 4 * 16) (by omega)).2.2]
  | case3 first second =>
    have bound := first.toNat_lt
    have secondBound := second.toNat_lt
    simp [encode, (symbol_value (first.toNat / 4) (by omega)).2.2,
      (symbol_value (first.toNat % 4 * 16 + second.toNat / 16) (by omega)).2.2,
      (symbol_value (second.toNat % 16 * 4) (by omega)).2.2]
  | case4 first second third rest ih =>
    have bound := first.toNat_lt
    have secondBound := second.toNat_lt
    have thirdBound := third.toNat_lt
    simp only [encode, List.forall_mem_cons]
    exact ⟨Or.inl (symbol_value (first.toNat / 4) (by omega)).2.2,
      Or.inl (symbol_value (first.toNat % 4 * 16 + second.toNat / 16) (by omega)).2.2,
      Or.inl (symbol_value (second.toNat % 16 * 4 + third.toNat / 64) (by omega)).2.2,
      Or.inl (symbol_value (third.toNat % 64) (by omega)).2.2, ih⟩

end EvoomGuard.Lib.Base64
