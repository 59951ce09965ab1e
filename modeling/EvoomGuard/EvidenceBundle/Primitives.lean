import EvoomGuard.Lib.Base64
import EvoomGuard.Lib.ClosedObject
import EvoomGuard.Lib.JsonCodec
import EvoomGuard.Lib.Sha256

/-!
The byte primitives evidence is kept with: strict JSON in both directions, digests, bounded reads
of a file. An error is the text that is raised.
-/

namespace EvoomGuard.EvidenceBundle

open Lib Lib.Checks Lib.Framing Lib.JsonCodec

/-- What the interpreter answers: how numbers with a fraction are read and written, which
characters are decimal digits, `repr` of a value, and the texts of exceptions inside a message. -/
structure EvidenceHost where
  readFloat : Text → Option Rat
  floatText : Rat → Text
  isDecimal : Char → Bool
  shown : Json → Text
  decodeText : DecodeProblem → Text
  unicodeText : Bytes → Text

variable (host : EvidenceHost)

def EvidenceHost.quoted (text : Text) : Text := host.shown (.string text)

def EvidenceHost.shownList (texts : List Text) : Text :=
  host.shown (.array (texts.map Json.string))

def maxJsonDepth : Int := 256

def maxJsonIntegerDigits : Nat := 128

def maxJsonNumberChars : Nat := 256

/-- `_check_nesting`: whether the depth ever passes the limit outside a string. -/
def nestingExceeds : Int → Bool → Bool → Text → Bool
  | _, _, _, [] => false
  | depth, true, escaped, character :: rest =>
    if escaped then nestingExceeds depth true false rest
    else if character = '\\' then nestingExceeds depth true true rest
    else nestingExceeds depth (character != '"') false rest
  | depth, false, _, character :: rest =>
    if character = '"' then nestingExceeds depth true false rest
    else if character = '[' ∨ character = '\x7b' then
      decide (maxJsonDepth < depth + 1) || nestingExceeds (depth + 1) false false rest
    else if character = ']' ∨ character = '\x7d' then nestingExceeds (depth - 1) false false rest
    else nestingExceeds depth false false rest

def boundedInt (literal : Text) : Except Text Int :=
  if maxJsonIntegerDigits < (literal.dropWhile (· == '-')).length then
    .error "JSON integer exceeds the 128-digit parser limit"
  else .ok (intValue literal)

def boundedFloat (literal : Text) : Except Text Rat :=
  if maxJsonNumberChars < literal.length then
    .error "JSON number exceeds the 256-character parser limit"
  else
    match host.readFloat literal with
    | none => .error ("non-finite JSON number is not permitted: " ++ literal)
    | some value => .ok value

def strictHooks : NumberHooks := ⟨boundedInt, boundedFloat host⟩

def strictJsonLoads (text : Text) : Except Text Json :=
  if nestingExceeds 0 false false text then
    .error "JSON nesting exceeds the 256-level parser limit"
  else (loads (strictHooks host) text).mapError host.decodeText

/-- `_canonical_json`: sorted keys, compact separators, ASCII and a final line feed. -/
def canonicalJsonBytes (fields : List (Text × Json)) : Except Text Bytes :=
  let text := dumps true host.floatText (.object fields) ++ ['\n']
  match strictJsonLoads host text with
  | .error problem => .error ("value cannot be encoded as canonical JSON: " ++ problem)
  | .ok _ => .ok (utf8 text)

def loadJsonObjectBytes (data : Bytes) (label : Text) : Except Text (List (Text × Json)) :=
  match utf8Decode data with
  | none => .error (label ++ " is not strict UTF-8 JSON: " ++ host.unicodeText data)
  | some text =>
    match strictJsonLoads host text with
    | .error problem => .error (label ++ " is not strict UTF-8 JSON: " ++ problem)
    | .ok (.object fields) => .ok fields
    | .ok _ => .error (label ++ " must be a JSON object")

theorem load_json_object_ok (data : Bytes) (label : Text) (fields : List (Text × Json)) :
    loadJsonObjectBytes host data label = .ok fields ↔
      ∃ text, utf8Decode data = some text ∧ strictJsonLoads host text = .ok (.object fields) := by
  unfold loadJsonObjectBytes
  cases opened : utf8Decode data with
  | none => simp
  | some text =>
    cases loaded : strictJsonLoads host text with
    | error problem => simp [loaded]
    | ok value => cases value <;> simp [loaded]

/-- What one stable read of a path finds: its bytes, or why there are none. -/
abbrev FileAnswer := Except Text Bytes

def readRegularFileBytes (limit : Nat) (label path : Text) (found : FileAnswer) :
    Except Text Bytes :=
  match found with
  | .error problem => .error problem
  | .ok data =>
    if limit < data.length then
      .error (label ++ " exceeds the " ++ natText limit ++ "-byte limit: " ++
        host.quoted path)
    else .ok data

theorem read_regular_file_ok (limit : Nat) (label path : Text) (found : FileAnswer)
    (data : Bytes) :
    readRegularFileBytes host limit label path found = .ok data ↔
      found = .ok data ∧ data.length ≤ limit := by
  cases found with
  | error problem => simp [readRegularFileBytes]
  | ok bytes =>
    rw [readRegularFileBytes, Except.ok.injEq]
    by_cases long : limit < bytes.length
    · rw [if_pos long]
      constructor
      · intro impossible
        cases impossible
      · intro both
        exact absurd (both.1 ▸ both.2) (Nat.not_le.mpr long)
    · rw [if_neg long, Except.ok.injEq]
      constructor
      · intro same
        exact ⟨same, same ▸ Nat.not_lt.mp long⟩
      · exact And.left

def sha256Bytes (data : Bytes) : Text := Sha256.hexdigestBytes data

/-- `{"sha256": …, "size": …}` of some bytes. -/
structure Digest where
  sha256 : Text
  size : Int
  deriving DecidableEq

def digestOf (data : Bytes) : Digest := ⟨sha256Bytes data, data.length⟩

inductive DigestKey where
  | sha256
  | size
  deriving DecidableEq

def DigestKey.text : DigestKey → Text
  | .sha256 => "sha256"
  | .size => "size"

def digestSchema : Schema DigestKey where
  keys := [.sha256, .size]
  name := DigestKey.text

def Digest.value (digest : Digest) : DigestKey → Json
  | .sha256 => .string digest.sha256
  | .size => .int digest.size

def Digest.asDict (digest : Digest) : List (Text × Json) := digestSchema.object digest.value

/-- `re.compile(r"(?:[0-9a-f]{40}|[0-9a-f]{64})\Z")`. -/
def isGitDigest (text : Text) : Bool :=
  (text.length == 40 || text.length == 64) && text.all Sha256.hexDigits.contains

def keyIdPrefix : Text := "sha256:"

def isKeyId (text : Text) : Bool :=
  Text.startsWith text keyIdPrefix && Sha256.isHex64 (text.drop keyIdPrefix.length)

/-- `_decode_signature`: one canonical base64 line of 64 bytes. -/
def decodeSignature (subject : Text) (data : Bytes) : Except Text Bytes := do
  refuse (data.length ≠ 88 ∨ data.any fun byte => decide (0x7F < byte.toNat))
    (subject ++ " must be exactly 88 ASCII base64 bytes")
  match Base64.decode (data.map fun byte => Char.ofNat byte.toNat) with
  | none => .error (subject ++ " is not canonical base64")
  | some signature =>
    if signature.length ≠ 64 ∨ utf8 (Base64.encode signature) ≠ data then
      .error (subject ++ " is not one canonical Ed25519 signature")
    else .ok signature

end EvoomGuard.EvidenceBundle
