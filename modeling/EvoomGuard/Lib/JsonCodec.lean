import EvoomGuard.Lib.Json
import EvoomGuard.Lib.Order
import Mathlib.Data.Nat.Digits.Defs

/-!
The texts `json.dumps` writes with sorted keys and compact separators or with an indentation, and
the texts `json.loads` reads. Hooks for numbers are parameters, as they are in the library; a
repeated key, a constant such as `NaN` and a string with an unpaired surrogate are refused by every
strict reader of the repository, and refused here.
-/

namespace EvoomGuard.Lib.JsonCodec

def hexDigit (value : Nat) : Char := Char.ofNat (if value < 10 then 48 + value else 87 + value)

/-- `\uXXXX` with lowercase digits. -/
def unicodeEscape (code : Nat) : Text :=
  ['\\', 'u', hexDigit (code / 4096 % 16), hexDigit (code / 256 % 16), hexDigit (code / 16 % 16),
    hexDigit (code % 16)]

/-- The letters after a backslash that stand for one character. -/
def shortEscapes : List (Char × Char) :=
  [('"', '"'), ('\\', '\\'), ('n', '\n'), ('r', '\r'), ('t', '\t'), ('f', '\x0c'), ('b', '\x08')]

def escapeChar (ensureAscii : Bool) (character : Char) : Text :=
  match shortEscapes.find? fun pair => pair.2 == character with
  | some (letter, _) => ['\\', letter]
  | none =>
    if character.toNat < 32 then unicodeEscape character.toNat
    else if ensureAscii && decide (126 < character.toNat) then
      if character.toNat < 65536 then unicodeEscape character.toNat
      else
        unicodeEscape (0xd800 + (character.toNat - 65536) / 1024) ++
          unicodeEscape (0xdc00 + (character.toNat - 65536) % 1024)
    else [character]

def quoted (ensureAscii : Bool) (text : Text) : Text :=
  '"' :: text.flatMap (escapeChar ensureAscii) ++ ['"']

def natText (value : Nat) : Text :=
  if value = 0 then ['0'] else (Nat.digits 10 value).reverse.map fun digit => Char.ofNat (48 + digit)

def intText (value : Int) : Text :=
  if value < 0 then '-' :: natText value.natAbs else natText value.natAbs

section Writer

variable (ensureAscii : Bool) (floatText : Rat → Text)

mutual

/-- One value with the keys of every object as they stand. -/
def encode : Json → Text
  | .null => "null"
  | .bool true => "true"
  | .bool false => "false"
  | .int value => intText value
  | .float value => floatText value
  | .string value => quoted ensureAscii value
  | .array items => '[' :: encodeItems items ++ [']']
  | .object fields => '\x7b' :: encodeFields fields ++ ['\x7d']

def encodeItems : List Json → Text
  | [] => []
  | [item] => encode item
  | item :: next :: rest => encode item ++ ',' :: encodeItems (next :: rest)

def encodeFields : List (Text × Json) → Text
  | [] => []
  | [(key, value)] => quoted ensureAscii key ++ ':' :: encode value
  | (key, value) :: next :: rest =>
    quoted ensureAscii key ++ ':' :: encode value ++ ',' :: encodeFields (next :: rest)

end

section Layout

variable (gap : Nat → Text) (space : Text)

mutual

/-- One value at a level, with the gap of the level before every member and before the end, and a
space behind every colon. -/
def laidOut (level : Nat) : Json → Text
  | .null => "null"
  | .bool true => "true"
  | .bool false => "false"
  | .int value => intText value
  | .float value => floatText value
  | .string value => quoted ensureAscii value
  | .array [] => "[]"
  | .array (item :: items) =>
    '[' :: gap (level + 1) ++ laidOut (level + 1) item ++ laidItems (level + 1) items ++
      gap level ++ [']']
  | .object [] => ['\x7b', '\x7d']
  | .object ((key, value) :: fields) =>
    '\x7b' :: gap (level + 1) ++ quoted ensureAscii key ++ ':' :: space ++
      laidOut (level + 1) value ++ laidFields (level + 1) fields ++ gap level ++ ['\x7d']

def laidItems (level : Nat) : List Json → Text
  | [] => []
  | item :: rest => ',' :: gap level ++ laidOut level item ++ laidItems level rest

def laidFields (level : Nat) : List (Text × Json) → Text
  | [] => []
  | (key, value) :: rest =>
    ',' :: gap level ++ quoted ensureAscii key ++ ':' :: space ++ laidOut level value ++
      laidFields level rest

end

end Layout

def sortFields (fields : List (Text × Json)) : List (Text × Json) := sortOn Text.le Prod.fst fields

mutual

/-- Every object with its keys in ascending order. -/
def sortKeys : Json → Json
  | .null => .null
  | .bool value => .bool value
  | .int value => .int value
  | .float value => .float value
  | .string value => .string value
  | .array items => .array (sortItems items)
  | .object fields => .object (sortFields (sortValues fields))

def sortItems : List Json → List Json
  | [] => []
  | item :: rest => sortKeys item :: sortItems rest

def sortValues : List (Text × Json) → List (Text × Json)
  | [] => []
  | (key, value) :: rest => (key, sortKeys value) :: sortValues rest

end

/-- `json.dumps(value, sort_keys=True, separators=(",", ":"))`. -/
def dumps (value : Json) : Text := encode ensureAscii floatText (sortKeys value)

end Writer

inductive DecodeProblem where
  | malformed
  | unpairedSurrogate
  | duplicateKey (key : Text)
  | constant (name : Text)
  | number (problem : Text)
  deriving DecidableEq, Repr

/-- `parse_int` and `parse_float`. -/
structure NumberHooks where
  parseInt : Text → Except Text Int
  parseFloat : Text → Except Text Rat

def isBlank (character : Char) : Bool :=
  character == ' ' || character == '\t' || character == '\n' || character == '\r'

def skipBlanks (text : Text) : Text := text.dropWhile isBlank

def hexValue (character : Char) : Option Nat :=
  if '0' ≤ character ∧ character ≤ '9' then some (character.toNat - 48)
  else if 'a' ≤ character ∧ character ≤ 'f' then some (character.toNat - 87)
  else if 'A' ≤ character ∧ character ≤ 'F' then some (character.toNat - 55)
  else none

def readHex4 : Text → Option (Nat × Text)
  | first :: second :: third :: fourth :: rest =>
    match hexValue first, hexValue second, hexValue third, hexValue fourth with
    | some a, some b, some c, some d => some (4096 * a + 256 * b + 16 * c + d, rest)
    | _, _, _, _ => none
  | _ => none

/-- What follows `\u`: a high surrogate is read together with the low one after it. -/
def readUnicode (text : Text) : Except DecodeProblem (Char × Text) :=
  match readHex4 text with
  | none => .error .malformed
  | some (code, rest) =>
    if 0xd800 ≤ code ∧ code < 0xdc00 then
      match rest with
      | '\\' :: 'u' :: more =>
        match readHex4 more with
        | none => .error .malformed
        | some (low, rest) =>
          if 0xdc00 ≤ low ∧ low < 0xe000 then
            .ok (Char.ofNat (65536 + 1024 * (code - 0xd800) + (low - 0xdc00)), rest)
          else .error .unpairedSurrogate
      | _ => .error .unpairedSurrogate
    else if 0xdc00 ≤ code ∧ code < 0xe000 then .error .unpairedSurrogate
    else .ok (Char.ofNat code, rest)

def readEscape : Text → Except DecodeProblem (Char × Text)
  | [] => .error .malformed
  | letter :: rest =>
    match shortEscapes.find? fun pair => pair.1 == letter with
    | some (_, character) => .ok (character, rest)
    | none =>
      if letter = '/' then .ok ('/', rest)
      else if letter = 'u' then readUnicode rest
      else .error .malformed

/-- The next character of a string, or nothing at its closing quote. -/
def readCharacter : Text → Except DecodeProblem (Option Char × Text)
  | [] => .error .malformed
  | character :: rest =>
    if character = '"' then .ok (none, rest)
    else if character = '\\' then
      match readEscape rest with
      | .error problem => .error problem
      | .ok (read, rest) => .ok (some read, rest)
    else if character.toNat < 32 then .error .malformed
    else .ok (some character, rest)

/-- The rest of a string after its opening quote; every turn consumes a character. -/
def readString : Nat → Text → Except DecodeProblem (Text × Text)
  | 0, _ => .error .malformed
  | fuel + 1, text =>
    match readCharacter text with
    | .error problem => .error problem
    | .ok (none, rest) => .ok ([], rest)
    | .ok (some character, rest) =>
      match readString fuel rest with
      | .error problem => .error problem
      | .ok (more, rest) => .ok (character :: more, rest)

def natValue (digits : Text) : Nat :=
  digits.foldl (fun value digit => 10 * value + (digit.toNat - 48)) 0

/-- `int(literal)` of a literal the scanner has found. -/
def intValue : Text → Int
  | '-' :: digits => -(natValue digits : Int)
  | digits => natValue digits

def integerPart (text : Text) : Option (Text × Text) :=
  let sign := text.takeWhile (· == '-') |>.take 1
  match text.drop sign.length with
  | [] => none
  | digit :: rest =>
    if digit = '0' then some (sign ++ ['0'], rest)
    else if digit.isDigit then
      some (sign ++ digit :: rest.takeWhile Char.isDigit, rest.dropWhile Char.isDigit)
    else none

def fractionPart : Text → Text × Text
  | '.' :: rest =>
    if (rest.takeWhile Char.isDigit).isEmpty then ([], '.' :: rest)
    else ('.' :: rest.takeWhile Char.isDigit, rest.dropWhile Char.isDigit)
  | text => ([], text)

def exponentPart : Text → Text × Text
  | [] => ([], [])
  | mark :: rest =>
    if mark = 'e' || mark = 'E' then
      let sign := (rest.takeWhile fun character => character == '+' || character == '-').take 1
      let digits := (rest.drop sign.length).takeWhile Char.isDigit
      if digits.isEmpty then ([], mark :: rest)
      else (mark :: sign ++ digits, (rest.drop sign.length).dropWhile Char.isDigit)
    else ([], mark :: rest)

/-- The constants `json.loads` knows beside the literals. -/
def constants : List Text := ["NaN", "Infinity", "-Infinity"]

section Reader

variable (hooks : NumberHooks)

def readNumber (text : Text) : Except DecodeProblem (Json × Text) :=
  match constants.find? fun name => Text.startsWith text name with
  | some name => .error (.constant name)
  | none =>
    match integerPart text with
    | none => .error .malformed
    | some (literal, rest) =>
      let fraction := fractionPart rest
      let exponent := exponentPart fraction.2
      if fraction.1.isEmpty && exponent.1.isEmpty then
        match hooks.parseInt literal with
        | .error problem => .error (.number problem)
        | .ok value => .ok (.int value, rest)
      else
        match hooks.parseFloat (literal ++ fraction.1 ++ exponent.1) with
        | .error problem => .error (.number problem)
        | .ok value => .ok (.float value, exponent.2)

/-- A literal name, a number or a constant. -/
def readScalar (text : Text) : Except DecodeProblem (Json × Text) :=
  if Text.startsWith text "null" then .ok (.null, text.drop 4)
  else if Text.startsWith text "true" then .ok (.bool true, text.drop 4)
  else if Text.startsWith text "false" then .ok (.bool false, text.drop 5)
  else readNumber hooks text

/-- The first key that an earlier pair already has. -/
def repeatedKey : List Text → List (Text × Json) → Option Text
  | _, [] => none
  | seen, (key, _) :: rest => if seen.contains key then some key else repeatedKey (key :: seen) rest

def uniqueObject (pairs : List (Text × Json)) : Except DecodeProblem Json :=
  match repeatedKey [] pairs with
  | some key => .error (.duplicateKey key)
  | none => .ok (.object pairs)

mutual

/-- One value at the start of the text. Every call consumes a character, so the length of the text
is fuel enough. -/
def decodeValue : Nat → Text → Except DecodeProblem (Json × Text)
  | 0, _ => .error .malformed
  | _ + 1, [] => .error .malformed
  | fuel + 1, character :: rest =>
    if character = '"' then
      match readString (rest.length + 1) rest with
      | .error problem => .error problem
      | .ok (value, rest) => .ok (.string value, rest)
    else if character = '[' then
      match skipBlanks rest with
      | ']' :: rest => .ok (.array [], rest)
      | rest =>
        match decodeItems fuel rest with
        | .error problem => .error problem
        | .ok (items, rest) => .ok (.array items, rest)
    else if character = '\x7b' then
      match skipBlanks rest with
      | '\x7d' :: rest => .ok (.object [], rest)
      | rest =>
        match decodeFields fuel rest with
        | .error problem => .error problem
        | .ok (pairs, rest) =>
          match uniqueObject pairs with
          | .error problem => .error problem
          | .ok value => .ok (value, rest)
    else readScalar hooks (character :: rest)

def decodeItems : Nat → Text → Except DecodeProblem (List Json × Text)
  | 0, _ => .error .malformed
  | fuel + 1, text =>
    match decodeValue fuel text with
    | .error problem => .error problem
    | .ok (item, rest) =>
      match skipBlanks rest with
      | ']' :: rest => .ok ([item], rest)
      | ',' :: rest =>
        match decodeItems fuel (skipBlanks rest) with
        | .error problem => .error problem
        | .ok (items, rest) => .ok (item :: items, rest)
      | _ => .error .malformed

def decodeFields : Nat → Text → Except DecodeProblem (List (Text × Json) × Text)
  | 0, _ => .error .malformed
  | _ + 1, [] => .error .malformed
  | fuel + 1, character :: text =>
    if character = '"' then
      match readString (text.length + 1) text with
      | .error problem => .error problem
      | .ok (key, rest) =>
        match skipBlanks rest with
        | ':' :: rest =>
          match decodeValue fuel (skipBlanks rest) with
          | .error problem => .error problem
          | .ok (value, rest) =>
            match skipBlanks rest with
            | '\x7d' :: rest => .ok ([(key, value)], rest)
            | ',' :: rest =>
              match decodeFields fuel (skipBlanks rest) with
              | .error problem => .error problem
              | .ok (pairs, rest) => .ok ((key, value) :: pairs, rest)
            | _ => .error .malformed
        | _ => .error .malformed
    else .error .malformed

end

/-- `json.loads`: one value with nothing but blanks around it. -/
def loads (text : Text) : Except DecodeProblem Json :=
  match decodeValue hooks (text.length + 1) (skipBlanks text) with
  | .error problem => .error problem
  | .ok (value, rest) => if (skipBlanks rest).isEmpty then .ok value else .error .malformed

end Reader

end EvoomGuard.Lib.JsonCodec
