
/-!
JSON documents and the texts that spell them, over code points. A text may hold any code point,
a surrogate among them, and so may the strings of a document. The three constants that decoders
accept beside the numbers are left to the spelling of a number.
-/

namespace EvoomGuard.Lib.JsonGrammar

/-- A string as its code points. -/
abbrev Letters := List Nat

def letters (text : String) : Letters := text.toList.map Char.toNat

/-- A document over some kind of number. An object keeps its members as they are written. -/
inductive Doc (Number : Type) where
  | null
  | bool (value : Bool)
  | number (value : Number)
  | string (value : Letters)
  | array (items : List (Doc Number))
  | object (members : List (Letters × Doc Number))

namespace Doc

variable {Number Other : Type}

mutual

/-- How deep arrays and objects are nested. -/
def height : Doc Number → Nat
  | .null => 0
  | .bool _ => 0
  | .number _ => 0
  | .string _ => 0
  | .array items => heightItems items + 1
  | .object members => heightMembers members + 1

def heightItems : List (Doc Number) → Nat
  | [] => 0
  | item :: rest => max (height item) (heightItems rest)

def heightMembers : List (Letters × Doc Number) → Nat
  | [] => 0
  | (_, value) :: rest => max (height value) (heightMembers rest)

end

mutual

def map (convert : Number → Other) : Doc Number → Doc Other
  | .null => .null
  | .bool value => .bool value
  | .number value => .number (convert value)
  | .string value => .string value
  | .array items => .array (mapItems convert items)
  | .object members => .object (mapMembers convert members)

def mapItems (convert : Number → Other) : List (Doc Number) → List (Doc Other)
  | [] => []
  | item :: rest => map convert item :: mapItems convert rest

def mapMembers (convert : Number → Other) :
    List (Letters × Doc Number) → List (Letters × Doc Other)
  | [] => []
  | (name, value) :: rest => (name, map convert value) :: mapMembers convert rest

end

mutual

/-- The document and everything in it. -/
def Everywhere (holds : Doc Number → Prop) : Doc Number → Prop
  | .null => holds .null
  | .bool value => holds (.bool value)
  | .number value => holds (.number value)
  | .string value => holds (.string value)
  | .array items => holds (.array items) ∧ EveryItem holds items
  | .object members => holds (.object members) ∧ EveryMember holds members

def EveryItem (holds : Doc Number → Prop) : List (Doc Number) → Prop
  | [] => True
  | item :: rest => Everywhere holds item ∧ EveryItem holds rest

def EveryMember (holds : Doc Number → Prop) : List (Letters × Doc Number) → Prop
  | [] => True
  | (_, value) :: rest => Everywhere holds value ∧ EveryMember holds rest

end

theorem map_member_names (convert : Number → Other) (members : List (Letters × Doc Number)) :
    (mapMembers convert members).map Prod.fst = members.map Prod.fst := by
  induction members with
  | nil => rfl
  | cons member rest ih => rw [mapMembers, List.map_cons, List.map_cons, ih]

section Everywhere

variable (first second : Doc Number → Prop)

mutual

theorem everywhere_and (doc : Doc Number) :
    Everywhere (fun inner => first inner ∧ second inner) doc ↔
      Everywhere first doc ∧ Everywhere second doc := by
  cases doc with
  | null | bool value | number value | string value => exact Iff.rfl
  | array items =>
    rw [Everywhere, Everywhere, Everywhere, every_item_and items]
    exact and_and_and_comm
  | object members =>
    rw [Everywhere, Everywhere, Everywhere, every_member_and members]
    exact and_and_and_comm

theorem every_item_and (items : List (Doc Number)) :
    EveryItem (fun inner => first inner ∧ second inner) items ↔
      EveryItem first items ∧ EveryItem second items := by
  cases items with
  | nil => exact (and_self_iff (a := True)).symm
  | cons item rest =>
    rw [EveryItem, EveryItem, EveryItem, everywhere_and item, every_item_and rest]
    exact and_and_and_comm

theorem every_member_and (members : List (Letters × Doc Number)) :
    EveryMember (fun inner => first inner ∧ second inner) members ↔
      EveryMember first members ∧ EveryMember second members := by
  cases members with
  | nil => exact (and_self_iff (a := True)).symm
  | cons member rest =>
    rw [EveryMember, EveryMember, EveryMember, everywhere_and member.2, every_member_and rest]
    exact and_and_and_comm

end

variable {first}

theorem every_item_iff (items : List (Doc Number)) :
    EveryItem first items ↔ ∀ item ∈ items, Everywhere first item := by
  induction items with
  | nil => simp [EveryItem]
  | cons item rest ih => rw [EveryItem, ih, List.forall_mem_cons]

theorem every_member_iff (members : List (Letters × Doc Number)) :
    EveryMember first members ↔ ∀ member ∈ members, Everywhere first member.2 := by
  induction members with
  | nil => simp [EveryMember]
  | cons member rest ih => rw [EveryMember, ih, List.forall_mem_cons]

end Everywhere

end Doc

def Blank (text : Letters) : Prop :=
  ∀ letter ∈ text, letter = 32 ∨ letter = 9 ∨ letter = 10 ∨ letter = 13

/-- The letters after a backslash that stand for one code point. -/
def shortEscapes : List (Nat × Nat) :=
  [(34, 34), (92, 92), (47, 47), (98, 8), (102, 12), (110, 10), (114, 13), (116, 9)]

def hexDigit? (letter : Nat) : Option Nat :=
  if 48 ≤ letter ∧ letter ≤ 57 then some (letter - 48)
  else if 97 ≤ letter ∧ letter ≤ 102 then some (letter - 87)
  else if 65 ≤ letter ∧ letter ≤ 70 then some (letter - 55)
  else none

/-- Four hexadecimal digits. -/
def hexCode? : Letters → Option Nat
  | [first, second, third, fourth] =>
    match hexDigit? first, hexDigit? second, hexDigit? third, hexDigit? fourth with
    | some a, some b, some c, some d => some (4096 * a + 256 * b + 16 * c + d)
    | _, _, _, _ => none
  | _ => none

def IsHigh (code : Nat) : Prop := 0xd800 ≤ code ∧ code < 0xdc00

def IsLow (code : Nat) : Prop := 0xdc00 ≤ code ∧ code < 0xe000

/-- `\u` and its digits. -/
def unicodeEscape (digits : Letters) : Letters := 92 :: 117 :: digits

/-- The text between two quotes, and the code points it stands for. Two escapes of a surrogate
pair stand for one code point, so an escape of a high surrogate stands alone only where no escape
of a low one follows. -/
inductive Spelled : Letters → Letters → Prop where
  | done : Spelled [] []
  | plain {letter : Nat} {text value : Letters} (printable : 32 ≤ letter) (quote : letter ≠ 34)
      (backslash : letter ≠ 92) (rest : Spelled text value) :
      Spelled (letter :: text) (letter :: value)
  | short {letter code : Nat} {text value : Letters} (listed : (letter, code) ∈ shortEscapes)
      (rest : Spelled text value) : Spelled (92 :: letter :: text) (code :: value)
  | unit {digits text value : Letters} {code : Nat} (read : hexCode? digits = some code)
      (alone : IsHigh code → ∀ after low more, text = unicodeEscape after ++ more →
        hexCode? after = some low → ¬IsLow low) (rest : Spelled text value) :
      Spelled (unicodeEscape digits ++ text) (code :: value)
  | pair {digits after text value : Letters} {high low : Nat} (read : hexCode? digits = some high)
      (isHigh : IsHigh high) (readLow : hexCode? after = some low) (isLow : IsLow low)
      (rest : Spelled text value) :
      Spelled (unicodeEscape digits ++ (unicodeEscape after ++ text))
        ((65536 + 1024 * (high - 0xd800) + (low - 0xdc00)) :: value)

def IsDigit (letter : Nat) : Prop := 48 ≤ letter ∧ letter ≤ 57

def Digits (text : Letters) : Prop := text ≠ [] ∧ ∀ letter ∈ text, IsDigit letter

/-- No zero leads a longer run of digits. -/
def WholePart (text : Letters) : Prop := Digits text ∧ (text.head? = some 48 → text = [48])

def IntegerLiteral (text : Letters) : Prop :=
  ∃ sign whole, (sign = [] ∨ sign = [45]) ∧ WholePart whole ∧ text = sign ++ whole

def FractionPart (text : Letters) : Prop := ∃ digits, Digits digits ∧ text = 46 :: digits

def ExponentPart (text : Letters) : Prop :=
  ∃ mark sign digits, (mark = 101 ∨ mark = 69) ∧ (sign = [] ∨ sign = [43] ∨ sign = [45]) ∧
    Digits digits ∧ text = mark :: (sign ++ digits)

/-- A number with a fraction, an exponent or both. -/
def DecimalLiteral (text : Letters) : Prop :=
  ∃ whole fraction exponent, IntegerLiteral whole ∧ (fraction = [] ∨ FractionPart fraction) ∧
    (exponent = [] ∨ ExponentPart exponent) ∧ (fraction ≠ [] ∨ exponent ≠ []) ∧
      text = whole ++ (fraction ++ exponent)

/-- Blanks on both sides. -/
def Padded (spelled : Letters → Prop) (text : Letters) : Prop :=
  ∃ before inner after, Blank before ∧ spelled inner ∧ Blank after ∧
    text = before ++ (inner ++ after)

def Quoted (value text : Letters) : Prop :=
  ∃ body, Spelled body value ∧ text = 34 :: (body ++ [34])

/-- A name, a colon and a value. -/
def Member (name : Letters) (spelled : Letters → Prop) (text : Letters) : Prop :=
  ∃ quoted value, Padded (Quoted name) quoted ∧ Padded spelled value ∧
    text = quoted ++ 58 :: value

section Written

variable {Number : Type} (number : Number → Letters → Prop)

mutual

/-- The texts of a document, over those of its numbers. -/
def Written : Doc Number → Letters → Prop
  | .null => fun text => text = letters "null"
  | .bool true => fun text => text = letters "true"
  | .bool false => fun text => text = letters "false"
  | .number value => number value
  | .string value => Quoted value
  | .array items => fun text => ∃ body, ItemsWritten items body ∧ text = 91 :: (body ++ [93])
  | .object members => fun text =>
    ∃ body, MembersWritten members body ∧ text = 123 :: (body ++ [125])

def ItemsWritten : List (Doc Number) → Letters → Prop
  | [] => Blank
  | item :: rest => fun text =>
    ∃ first more, Padded (Written item) first ∧ MoreItems rest more ∧ text = first ++ more

def MoreItems : List (Doc Number) → Letters → Prop
  | [] => fun text => text = []
  | item :: rest => fun text =>
    ∃ first more, Padded (Written item) first ∧ MoreItems rest more ∧ text = 44 :: (first ++ more)

def MembersWritten : List (Letters × Doc Number) → Letters → Prop
  | [] => Blank
  | (name, value) :: rest => fun text =>
    ∃ first more, Member name (Written value) first ∧ MoreMembers rest more ∧
      text = first ++ more

def MoreMembers : List (Letters × Doc Number) → Letters → Prop
  | [] => fun text => text = []
  | (name, value) :: rest => fun text =>
    ∃ first more, Member name (Written value) first ∧ MoreMembers rest more ∧
      text = 44 :: (first ++ more)

end

/-- A whole text. -/
def Spells (text : Letters) (doc : Doc Number) : Prop := Padded (Written number doc) text

end Written

end EvoomGuard.Lib.JsonGrammar
