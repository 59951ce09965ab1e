import EvoomGuard.Lib.Text

/-!
SHA-256 of a text in UTF-8, as lower-case hexadecimal digits: what `hashlib` computes. The
definition runs; the only fact proved about it is the shape of its result. No
collision-resistance property is stated here.
-/

namespace EvoomGuard.Lib.Sha256

def roundConstants : List UInt32 :=
  [0x428a2f98, 0x71374491, 0xb5c0fbcf, 0xe9b5dba5, 0x3956c25b, 0x59f111f1, 0x923f82a4,
    0xab1c5ed5, 0xd807aa98, 0x12835b01, 0x243185be, 0x550c7dc3, 0x72be5d74, 0x80deb1fe,
    0x9bdc06a7, 0xc19bf174, 0xe49b69c1, 0xefbe4786, 0x0fc19dc6, 0x240ca1cc, 0x2de92c6f,
    0x4a7484aa, 0x5cb0a9dc, 0x76f988da, 0x983e5152, 0xa831c66d, 0xb00327c8, 0xbf597fc7,
    0xc6e00bf3, 0xd5a79147, 0x06ca6351, 0x14292967, 0x27b70a85, 0x2e1b2138, 0x4d2c6dfc,
    0x53380d13, 0x650a7354, 0x766a0abb, 0x81c2c92e, 0x92722c85, 0xa2bfe8a1, 0xa81a664b,
    0xc24b8b70, 0xc76c51a3, 0xd192e819, 0xd6990624, 0xf40e3585, 0x106aa070, 0x19a4c116,
    0x1e376c08, 0x2748774c, 0x34b0bcb5, 0x391c0cb3, 0x4ed8aa4a, 0x5b9cca4f, 0x682e6ff3,
    0x748f82ee, 0x78a5636f, 0x84c87814, 0x8cc70208, 0x90befffa, 0xa4506ceb, 0xbef9a3f7,
    0xc67178f2]

structure Working where
  a : UInt32
  b : UInt32
  c : UInt32
  d : UInt32
  e : UInt32
  f : UInt32
  g : UInt32
  h : UInt32

def initial : Working :=
  ⟨0x6a09e667, 0xbb67ae85, 0x3c6ef372, 0xa54ff53a, 0x510e527f, 0x9b05688c, 0x1f83d9ab,
    0x5be0cd19⟩

def rotateRight (word amount : UInt32) : UInt32 := (word >>> amount) ||| (word <<< (32 - amount))

def smallSigma0 (word : UInt32) : UInt32 :=
  rotateRight word 7 ^^^ rotateRight word 18 ^^^ (word >>> 3)

def smallSigma1 (word : UInt32) : UInt32 :=
  rotateRight word 17 ^^^ rotateRight word 19 ^^^ (word >>> 10)

def bigSigma0 (word : UInt32) : UInt32 :=
  rotateRight word 2 ^^^ rotateRight word 13 ^^^ rotateRight word 22

def bigSigma1 (word : UInt32) : UInt32 :=
  rotateRight word 6 ^^^ rotateRight word 11 ^^^ rotateRight word 25

-- The message schedule, newest word first.
def extend : Nat → List UInt32 → List UInt32
  | 0, words => words
  | count + 1, words =>
    extend count
      ((smallSigma1 (words.getD 1 0) + words.getD 6 0 + smallSigma0 (words.getD 14 0) +
        words.getD 15 0) :: words)

def round (state : Working) (input : UInt32 × UInt32) : Working :=
  let choice := (state.e &&& state.f) ^^^ ((~~~ state.e) &&& state.g)
  let majority := (state.a &&& state.b) ^^^ (state.a &&& state.c) ^^^ (state.b &&& state.c)
  let first := state.h + bigSigma1 state.e + choice + input.1 + input.2
  let second := bigSigma0 state.a + majority
  ⟨first + second, state.a, state.b, state.c, state.d + first, state.e, state.f, state.g⟩

def word (bytes : List UInt8) : UInt32 :=
  bytes.foldl (fun value byte => value <<< 8 ||| byte.toUInt32) 0

def compress (state : Working) (block : List UInt8) : Working :=
  let words := (List.range 16).map fun index => word ((block.drop (4 * index)).take 4)
  let schedule := (extend 48 words.reverse).reverse
  let mixed := (roundConstants.zip schedule).foldl round state
  ⟨state.a + mixed.a, state.b + mixed.b, state.c + mixed.c, state.d + mixed.d,
    state.e + mixed.e, state.f + mixed.f, state.g + mixed.g, state.h + mixed.h⟩

def lengthBytes (bits : Nat) : List UInt8 :=
  (List.range 8).map fun index => UInt8.ofNat (bits / 256 ^ (7 - index))

def padding (length : Nat) : List UInt8 :=
  0x80 :: List.replicate ((119 - length % 64) % 64) 0 ++ lengthBytes (8 * length)

def compressBlocks : Nat → Working → List UInt8 → Working
  | 0, state, _ => state
  | count + 1, state, bytes => compressBlocks count (compress state (bytes.take 64)) (bytes.drop 64)

def digestWords (bytes : List UInt8) : List UInt32 :=
  let padded := bytes ++ padding bytes.length
  let state := compressBlocks (padded.length / 64) initial padded
  [state.a, state.b, state.c, state.d, state.e, state.f, state.g, state.h]

def hexDigits : List Char :=
  ['0', '1', '2', '3', '4', '5', '6', '7', '8', '9', 'a', 'b', 'c', 'd', 'e', 'f']

def hexWord (value : UInt32) : Text :=
  (List.range 8).map fun index => hexDigits.getD (value.toNat / 16 ^ (7 - index) % 16) '0'

def hexdigestBytes (bytes : List UInt8) : Text := (digestWords bytes).flatMap hexWord

def utf8Bytes (text : Text) : List UInt8 := (String.ofList text).toUTF8.toList

def hexdigest (text : Text) : Text := hexdigestBytes (utf8Bytes text)

def isHex64 (text : Text) : Bool := text.length == 64 && text.all hexDigits.contains

private theorem hex_word_digits (value : UInt32) :
    (hexWord value).all hexDigits.contains = true := by
  have digit : ∀ index : Nat, index < 16 → hexDigits.contains (hexDigits.getD index '0') = true := by
    decide
  rw [List.all_eq_true]
  intro character inside
  simp only [hexWord, List.mem_map] at inside
  rcases inside with ⟨index, -, rfl⟩
  apply digit
  omega

theorem hexdigest_bytes_is_hex (bytes : List UInt8) :
    isHex64 (hexdigestBytes bytes) = true := by
  have wordLength : ∀ value, (hexWord value).length = 8 := by
    intro value
    simp [hexWord]
  unfold hexdigestBytes digestWords isHex64
  simp only [List.flatMap_cons, List.flatMap_nil, List.append_nil, List.length_append, wordLength,
    List.all_append, hex_word_digits]
  rfl

theorem hexdigest_is_hex (text : Text) : isHex64 (hexdigest text) = true :=
  hexdigest_bytes_is_hex (utf8Bytes text)

end EvoomGuard.Lib.Sha256
