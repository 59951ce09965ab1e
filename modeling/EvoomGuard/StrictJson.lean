import EvoomGuard.Lib.JsonGrammar
import Mathlib.Algebra.GroupWithZero.Nat
import Mathlib.Data.List.Nodup

/-!
`strict_json.py`: a scan of the nesting before the decoder runs, the hooks the decoder calls, and
a walk over the decoded value for unpaired surrogates. The decoder is an argument; a text and the
strings of a document are code points, with surrogates among them. The scan keeps the decoder far
from the recursion limit of the language, which is not modelled.
-/

namespace EvoomGuard.StrictJson

open Lib.JsonGrammar Lib.JsonGrammar.Doc

def maxJsonDepth : Nat := 256

def maxJsonIntegerDigits : Nat := 128

def maxJsonNumberChars : Nat := 256

inductive Problem where
  | nesting
  | malformed
  | duplicateKey (key : Letters)
  | constant (name : Letters)
  | numberChars
  | nonFinite (literal : Letters)
  | integerDigits
  | unpairedSurrogate
  deriving DecidableEq

/-! The scan of the nesting -/

structure Scan where
  depth : Int
  inString : Bool
  escaped : Bool

/-- One turn of the loop in `_check_nesting`; no state is left when it raises. -/
def Scan.step (state : Scan) (letter : Nat) : Option Scan :=
  if state.inString then
    if state.escaped then some { state with escaped := false }
    else if letter = 92 then some { state with escaped := true }
    else if letter = 34 then some { state with inString := false }
    else some state
  else if letter = 34 then some { state with inString := true }
  else if letter = 91 ∨ letter = 123 then
    if (maxJsonDepth : Int) < state.depth + 1 then none
    else some { state with depth := state.depth + 1 }
  else if letter = 93 ∨ letter = 125 then some { state with depth := state.depth - 1 }
  else some state

def scan : Scan → Letters → Option Scan
  | state, [] => some state
  | state, letter :: rest =>
    match state.step letter with
    | none => none
    | some next => scan next rest

def checkNesting (text : Letters) : Except Problem Unit :=
  match scan ⟨0, false, false⟩ text with
  | none => .error .nesting
  | some _ => .ok ()

/-! The hooks -/

/-- A number as it is written. -/
inductive Literal where
  | integer (text : Letters)
  | decimal (text : Letters)
  | constant (name : Letters)

def constants : List Letters := [letters "NaN", letters "Infinity", letters "-Infinity"]

/-- What the decoder takes for a number: a literal, or one of its constants. -/
def LiteralWritten : Literal → Letters → Prop
  | .integer literal => fun text => text = literal ∧ IntegerLiteral literal
  | .decimal literal => fun text => text = literal ∧ DecimalLiteral literal
  | .constant name => fun text => text = name ∧ name ∈ constants

abbrev Tree := Doc Literal

inductive Scalar (Float : Type) where
  | int (value : Int)
  | float (value : Float)

abbrev Value (Float : Type) := Doc (Scalar Float)

structure FloatHost (Float : Type) where
  float : Letters → Float
  isFinite : Float → Bool

section Decode

variable {Float : Type} (host : FloatHost Float)

/-- `int(literal)`. -/
def intValue (literal : Letters) : Int :=
  let digits := literal.dropWhile (· == 45)
  let magnitude : Nat := digits.foldl (fun value digit => 10 * value + (digit - 48)) 0
  if literal.head? = some 45 then -(magnitude : Int) else magnitude

def boundedInt (literal : Letters) : Except Problem (Scalar Float) :=
  if maxJsonIntegerDigits < (literal.dropWhile (· == 45)).length then .error .integerDigits
  else .ok (.int (intValue literal))

def boundedFloat (literal : Letters) : Except Problem (Scalar Float) :=
  if maxJsonNumberChars < literal.length then .error .numberChars
  else if host.isFinite (host.float literal) then .ok (.float (host.float literal))
  else .error (.nonFinite literal)

def rejectConstant (name : Letters) : Except Problem (Scalar Float) := .error (.constant name)

def readNumber : Literal → Except Problem (Scalar Float)
  | .integer literal => boundedInt literal
  | .decimal literal => boundedFloat host literal
  | .constant name => rejectConstant name

def uniqueFrom (result : List (Letters × Value Float)) :
    List (Letters × Value Float) → Except Problem (List (Letters × Value Float))
  | [] => .ok result
  | (key, value) :: rest =>
    if key ∈ result.map Prod.fst then .error (.duplicateKey key)
    else uniqueFrom (result ++ [(key, value)]) rest

def uniqueObject (pairs : List (Letters × Value Float)) : Except Problem (Value Float) :=
  (uniqueFrom [] pairs).map .object

mutual

/-- The value the decoder makes of a document with its hooks, in the order of the text. -/
def build : Tree → Except Problem (Value Float)
  | .null => .ok .null
  | .bool value => .ok (.bool value)
  | .number literal => (readNumber host literal).map .number
  | .string value => .ok (.string value)
  | .array items => (buildItems items).map .array
  | .object members =>
    match buildMembers members with
    | .error problem => .error problem
    | .ok pairs => uniqueObject pairs

def buildItems : List Tree → Except Problem (List (Value Float))
  | [] => .ok []
  | item :: rest =>
    match build item with
    | .error problem => .error problem
    | .ok value => (buildItems rest).map (value :: ·)

def buildMembers : List (Letters × Tree) → Except Problem (List (Letters × Value Float))
  | [] => .ok []
  | (name, item) :: rest =>
    match build item with
    | .error problem => .error problem
    | .ok value => (buildMembers rest).map ((name, value) :: ·)

end

end Decode

/-! The walk over the decoded value -/

def isSurrogate (code : Nat) : Bool := 0xd800 ≤ code && code < 0xe000

mutual

/-- How many turns a value takes on the work list. -/
def turns {Number : Type} : Doc Number → Nat
  | .null => 1
  | .bool _ => 1
  | .number _ => 1
  | .string _ => 1
  | .array items => itemTurns items + 1
  | .object members => memberTurns members + 1

def itemTurns {Number : Type} : List (Doc Number) → Nat
  | [] => 0
  | item :: rest => turns item + itemTurns rest

def memberTurns {Number : Type} : List (Letters × Doc Number) → Nat
  | [] => 0
  | (_, value) :: rest => turns value + 1 + memberTurns rest

end

/-- The loop of `_reject_unpaired_surrogates`, with the end of the list first. -/
def walk {Number : Type} : Nat → List (Doc Number) → Except Problem Unit
  | 0, _ => .ok ()
  | _ + 1, [] => .ok ()
  | fuel + 1, item :: pending =>
    match item with
    | .string value =>
      if value.any isSurrogate then .error .unpairedSurrogate else walk fuel pending
    | .object members =>
      walk fuel ((members.map Prod.snd).reverse ++
        ((members.map fun member => Doc.string member.1).reverse ++ pending))
    | .array items => walk fuel (items.reverse ++ pending)
    | _ => walk fuel pending

def rejectUnpairedSurrogates {Number : Type} (value : Doc Number) : Except Problem Unit :=
  walk (turns value) [value]

section Loads

variable {Float : Type} (host : FloatHost Float) (decoder : Letters → Option Tree)

/-- What `json.loads` gives with the hooks: the decoder's document, built. -/
def jsonLoads (text : Letters) : Except Problem (Value Float) :=
  match decoder text with
  | none => .error .malformed
  | some tree => build host tree

def strictJsonLoads (text : Letters) : Except Problem (Value Float) :=
  match checkNesting text with
  | .error problem => .error problem
  | .ok () =>
    match jsonLoads host decoder text with
    | .error problem => .error problem
    | .ok value =>
      match rejectUnpairedSurrogates value with
      | .error problem => .error problem
      | .ok () => .ok value

end Loads

/-! What the scan makes of a document's text -/

/-- Outside strings, a text that nests this deep is passed when it stays within the limit. -/
def Crosses (height : Nat) (text : Letters) : Prop :=
  ∀ (depth : Int) (rest : Letters), depth ≤ maxJsonDepth →
    scan ⟨depth, false, false⟩ (text ++ rest) =
      if depth + height ≤ maxJsonDepth then scan ⟨depth, false, false⟩ rest else none

theorem crosses_flat {text : Letters} (passes : ∀ depth rest,
    scan ⟨depth, false, false⟩ (text ++ rest) = scan ⟨depth, false, false⟩ rest) :
    Crosses 0 text := by
  intro depth rest within
  rw [passes, if_pos (by omega)]

theorem crosses_append {first second : Nat} {left right : Letters} (one : Crosses first left)
    (other : Crosses second right) : Crosses (max first second) (left ++ right) := by
  intro depth rest within
  rw [List.append_assoc, one depth _ within, other depth rest within]
  by_cases high : depth + first ≤ maxJsonDepth
  · rw [if_pos high]
    by_cases low : depth + second ≤ maxJsonDepth
    · rw [if_pos low, if_pos (by omega)]
    · rw [if_neg low, if_neg (by omega)]
  · rw [if_neg high, if_neg (by omega)]

/-- A letter that means nothing to the scan outside a string. -/
def Plain (letter : Nat) : Prop :=
  letter ≠ 34 ∧ letter ≠ 91 ∧ letter ≠ 123 ∧ letter ≠ 93 ∧ letter ≠ 125

variable (depth : Int)

theorem plain_step {letter : Nat} (plain : Plain letter) :
    Scan.step ⟨depth, false, false⟩ letter = some ⟨depth, false, false⟩ := by
  obtain ⟨quote, opens, brace, closes, unbrace⟩ := plain
  simp [Scan.step, quote, opens, brace, closes, unbrace]

theorem crosses_plain {text : Letters} (plain : ∀ letter ∈ text, Plain letter) :
    Crosses 0 text := by
  apply crosses_flat
  intro depth rest
  induction text with
  | nil => rfl
  | cons letter text ih =>
    rw [List.cons_append, scan, plain_step depth (plain letter List.mem_cons_self)]
    exact ih fun other inside => plain other (List.mem_cons_of_mem _ inside)

theorem crosses_blank {text : Letters} (blank : Blank text) : Crosses 0 text := by
  apply crosses_plain
  intro letter inside
  have known := blank letter inside
  unfold Plain
  omega

theorem inside_step {letter : Nat} (quote : letter ≠ 34) (backslash : letter ≠ 92) :
    Scan.step ⟨depth, true, false⟩ letter = some ⟨depth, true, false⟩ := by
  simp [Scan.step, quote, backslash]

theorem escape_step :
    Scan.step ⟨depth, true, false⟩ 92 = some ⟨depth, true, true⟩ := rfl

theorem escaped_step (letter : Nat) :
    Scan.step ⟨depth, true, true⟩ letter = some ⟨depth, true, false⟩ := rfl

theorem hex_digit_inside {letter value : Nat} (digit : hexDigit? letter = some value) :
    letter ≠ 34 ∧ letter ≠ 92 := by
  unfold hexDigit? at digit
  split_ifs at digit <;> omega

theorem hex_code_digits {digits : Letters} {code : Nat} (read : hexCode? digits = some code) :
    ∀ letter ∈ digits, letter ≠ 34 ∧ letter ≠ 92 := by
  unfold hexCode? at read
  split at read
  · rename_i first second third fourth
    split at read
    · rename_i a b c d one two three four
      intro letter inside
      simp only [List.mem_cons, List.not_mem_nil, or_false] at inside
      rcases inside with same | same | same | same
      · exact same ▸ hex_digit_inside one
      · exact same ▸ hex_digit_inside two
      · exact same ▸ hex_digit_inside three
      · exact same ▸ hex_digit_inside four
    · cases read
  · cases read

theorem scan_inside {text : Letters}
    (inside : ∀ letter ∈ text, letter ≠ 34 ∧ letter ≠ 92) (rest : Letters) :
    scan ⟨depth, true, false⟩ (text ++ rest) = scan ⟨depth, true, false⟩ rest := by
  induction text with
  | nil => rfl
  | cons letter text ih =>
    have here := inside letter List.mem_cons_self
    rw [List.cons_append, scan, inside_step depth here.1 here.2]
    exact ih fun other later => inside other (List.mem_cons_of_mem _ later)

theorem scan_unicode {digits : Letters} {code : Nat}
    (read : hexCode? digits = some code) (rest : Letters) :
    scan ⟨depth, true, false⟩ (unicodeEscape digits ++ rest) = scan ⟨depth, true, false⟩ rest := by
  rw [unicodeEscape, List.cons_append, List.cons_append, scan, escape_step]
  change scan ⟨depth, true, true⟩ (117 :: (digits ++ rest)) = _
  rw [scan, escaped_step]
  exact scan_inside depth (hex_code_digits read) rest

theorem scan_spelled {body value : Letters} (spelled : Spelled body value) :
    ∀ (depth : Int) (rest : Letters),
      scan ⟨depth, true, false⟩ (body ++ rest) = scan ⟨depth, true, false⟩ rest := by
  induction spelled with
  | done => exact fun _ _ => rfl
  | plain printable quote backslash later ih =>
    intro depth rest
    rw [List.cons_append, scan, inside_step depth quote backslash]
    exact ih depth rest
  | short listed later ih =>
    intro depth rest
    rw [List.cons_append, List.cons_append, scan, escape_step]
    change scan ⟨depth, true, true⟩ (_ :: (_ ++ rest)) = _
    rw [scan, escaped_step]
    exact ih depth rest
  | unit read alone later ih =>
    intro depth rest
    rw [List.append_assoc, scan_unicode depth read]
    exact ih depth rest
  | pair read isHigh readLow isLow later ih =>
    intro depth rest
    rw [List.append_assoc, scan_unicode depth read, List.append_assoc, scan_unicode depth readLow]
    exact ih depth rest

theorem crosses_quoted {value text : Letters} (quoted : Quoted value text) : Crosses 0 text := by
  obtain ⟨body, spelled, whole⟩ := quoted
  apply crosses_flat
  intro depth rest
  rw [whole, List.cons_append, List.append_assoc, scan]
  change scan ⟨depth, true, false⟩ (body ++ ([34] ++ rest)) = _
  rw [scan_spelled spelled]
  rfl

theorem crosses_bracket {height : Nat} {body : Letters} (opens closes : Nat)
    (brackets : opens = 91 ∧ closes = 93 ∨ opens = 123 ∧ closes = 125)
    (crosses : Crosses height body) : Crosses (height + 1) (opens :: (body ++ [closes])) := by
  intro depth rest within
  have opened : Scan.step ⟨depth, false, false⟩ opens =
      if (maxJsonDepth : Int) < depth + 1 then none else some ⟨depth + 1, false, false⟩ := by
    rcases brackets with ⟨same, _⟩ | ⟨same, _⟩ <;> rw [same] <;> rfl
  have closed : Scan.step ⟨depth + 1, false, false⟩ closes = some ⟨depth, false, false⟩ := by
    have back : depth + 1 - 1 = depth := by omega
    rcases brackets with ⟨_, same⟩ | ⟨_, same⟩ <;> rw [same] <;>
      exact congrArg (fun level => some (Scan.mk level false false)) back
  rw [List.cons_append, List.append_assoc, scan, opened]
  by_cases deep : (maxJsonDepth : Int) < depth + 1
  · rw [if_pos deep, if_neg (by omega)]
  · rw [if_neg deep]
    change scan ⟨depth + 1, false, false⟩ (body ++ ([closes] ++ rest)) = _
    rw [crosses (depth + 1) _ (by omega)]
    have after : scan ⟨depth + 1, false, false⟩ ([closes] ++ rest) =
        scan ⟨depth, false, false⟩ rest := by
      rw [List.singleton_append, scan, closed]
    by_cases fits : depth + 1 + height ≤ maxJsonDepth
    · rw [if_pos fits, if_pos (by omega), after]
    · rw [if_neg fits, if_neg (by omega)]

theorem crosses_padded {height : Nat} {spelled : Letters → Prop} {text : Letters}
    (inner : ∀ part, spelled part → Crosses height part) (padded : Padded spelled text) :
    Crosses height text := by
  obtain ⟨before, part, after, blank, here, trailing, whole⟩ := padded
  have crosses := crosses_append (crosses_blank blank)
    (crosses_append (inner part here) (crosses_blank trailing))
  rw [whole]
  simpa using crosses

theorem crosses_member {height : Nat} {name : Letters} {spelled : Letters → Prop} {text : Letters}
    (inner : ∀ part, spelled part → Crosses height part) (member : Member name spelled text) :
    Crosses height text := by
  obtain ⟨quoted, value, named, valued, whole⟩ := member
  have colon : Crosses 0 [58] := crosses_plain (by simp [Plain])
  have crosses := crosses_append (crosses_padded (fun _ quote => crosses_quoted quote) named)
    (crosses_append colon (crosses_padded inner valued))
  rw [whole]
  simpa using crosses

theorem crosses_comma {height : Nat} {text : Letters} (crosses : Crosses height text) :
    Crosses height (44 :: text) := by
  have comma : Crosses 0 [44] := crosses_plain (by simp [Plain])
  simpa using crosses_append comma crosses

/-! Numbers are plain -/

variable {text : Letters}

theorem digits_plain (digits : Digits text) : ∀ letter ∈ text, Plain letter := by
  intro letter inside
  have digit := digits.2 letter inside
  unfold IsDigit at digit
  unfold Plain
  omega

theorem integer_plain (literal : IntegerLiteral text) :
    ∀ letter ∈ text, Plain letter := by
  obtain ⟨sign, whole, signed, part, rfl⟩ := literal
  intro letter inside
  rw [List.mem_append] at inside
  rcases inside with first | later
  · rcases signed with empty | minus
    · rw [empty] at first
      cases first
    · rw [minus, List.mem_singleton] at first
      unfold Plain
      omega
  · exact digits_plain part.1 letter later

theorem fraction_plain (part : text = [] ∨ FractionPart text) :
    ∀ letter ∈ text, Plain letter := by
  intro letter inside
  rcases part with empty | ⟨digits, each, whole⟩
  · rw [empty] at inside
    cases inside
  · rw [whole, List.mem_cons] at inside
    rcases inside with point | later
    · unfold Plain
      omega
    · exact digits_plain each letter later

theorem exponent_plain (part : text = [] ∨ ExponentPart text) :
    ∀ letter ∈ text, Plain letter := by
  intro letter inside
  rcases part with empty | ⟨mark, sign, digits, marked, signed, each, whole⟩
  · rw [empty] at inside
    cases inside
  · rw [whole, List.mem_cons, List.mem_append] at inside
    rcases inside with here | here | later
    · unfold Plain
      omega
    · rcases signed with none | plus | minus
      · rw [none] at here
        cases here
      · rw [plus, List.mem_singleton] at here
        unfold Plain
        omega
      · rw [minus, List.mem_singleton] at here
        unfold Plain
        omega
    · exact digits_plain each letter later

theorem literal_plain {literal : Literal} {text : Letters}
    (written : LiteralWritten literal text) : ∀ letter ∈ text, Plain letter := by
  cases literal with
  | integer value =>
    rw [written.1]
    exact integer_plain written.2
  | decimal value =>
    obtain ⟨same, whole, fraction, exponent, started, fractioned, raised, _, parts⟩ := written
    intro letter inside
    rw [same, parts, List.mem_append, List.mem_append] at inside
    rcases inside with first | second | third
    · exact integer_plain started letter first
    · exact fraction_plain fractioned letter second
    · exact exponent_plain raised letter third
  | constant name =>
    obtain ⟨same, listed⟩ := written
    have plain : ∀ name ∈ constants, ∀ letter ∈ name, letter ≠ 34 ∧ letter ≠ 91 ∧
        letter ≠ 123 ∧ letter ≠ 93 ∧ letter ≠ 125 := by decide
    rw [same]
    exact plain name listed

/-! The whole text -/

theorem word_crosses (word : Letters) (plain : ∀ letter ∈ word, letter ≠ 34 ∧ letter ≠ 91 ∧
    letter ≠ 123 ∧ letter ≠ 93 ∧ letter ≠ 125) {text : Letters} (same : text = word) :
    Crosses 0 text :=
  same ▸ crosses_plain plain

mutual

theorem written_crosses (tree : Tree) :
    ∀ text, Written LiteralWritten tree text → Crosses tree.height text := by
  intro text written
  cases tree with
  | null => exact word_crosses (letters "null") (by decide) written
  | bool value =>
    cases value with
    | true => exact word_crosses (letters "true") (by decide) written
    | false => exact word_crosses (letters "false") (by decide) written
  | number literal => exact crosses_plain (literal_plain written)
  | string value => exact crosses_quoted written
  | array items =>
    obtain ⟨body, inner, whole⟩ := written
    rw [whole]
    exact crosses_bracket 91 93 (Or.inl ⟨rfl, rfl⟩) (items_cross items body inner)
  | object members =>
    obtain ⟨body, inner, whole⟩ := written
    rw [whole]
    exact crosses_bracket 123 125 (Or.inr ⟨rfl, rfl⟩) (members_cross members body inner)

theorem items_cross (items : List Tree) :
    ∀ text, ItemsWritten LiteralWritten items text → Crosses (heightItems items) text := by
  intro text written
  cases items with
  | nil => exact crosses_blank written
  | cons item rest =>
    obtain ⟨first, more, padded, later, whole⟩ := written
    rw [whole]
    exact crosses_append (crosses_padded (written_crosses item) padded)
      (more_items_cross rest more later)

theorem more_items_cross (items : List Tree) :
    ∀ text, MoreItems LiteralWritten items text → Crosses (heightItems items) text := by
  intro text written
  cases items with
  | nil =>
    rw [show text = [] from written]
    exact crosses_plain (by simp)
  | cons item rest =>
    obtain ⟨first, more, padded, later, whole⟩ := written
    rw [whole]
    exact crosses_comma (crosses_append (crosses_padded (written_crosses item) padded)
      (more_items_cross rest more later))

theorem members_cross (members : List (Letters × Tree)) :
    ∀ text, MembersWritten LiteralWritten members text → Crosses (heightMembers members) text := by
  intro text written
  cases members with
  | nil => exact crosses_blank written
  | cons member rest =>
    obtain ⟨first, more, named, later, whole⟩ := written
    rw [whole]
    exact crosses_append (crosses_member (written_crosses member.2) named)
      (more_members_cross rest more later)

theorem more_members_cross (members : List (Letters × Tree)) :
    ∀ text, MoreMembers LiteralWritten members text → Crosses (heightMembers members) text := by
  intro text written
  cases members with
  | nil =>
    rw [show text = [] from written]
    exact crosses_plain (by simp)
  | cons member rest =>
    obtain ⟨first, more, named, later, whole⟩ := written
    rw [whole]
    exact crosses_comma (crosses_append (crosses_member (written_crosses member.2) named)
      (more_members_cross rest more later))

end

theorem check_nesting_iff {text : Letters} {tree : Tree}
    (spells : Spells LiteralWritten text tree) :
    checkNesting text = .ok () ↔ tree.height ≤ maxJsonDepth := by
  have crosses := crosses_padded (written_crosses tree) spells 0 [] (by decide)
  rw [List.append_nil] at crosses
  rw [checkNesting, crosses]
  by_cases fits : tree.height ≤ maxJsonDepth
  · rw [if_pos (by omega)]
    exact ⟨fun _ => fits, fun _ => rfl⟩
  · rw [if_neg (by omega)]
    constructor
    · intro impossible
      cases impossible
    · exact fun deep => absurd deep fits

/-! What the hooks accept -/

section

variable {Float : Type} (host : FloatHost Float)

/-- No name stands twice in an object. -/
def DistinctNames : Tree → Prop
  | .object members => (members.map Prod.fst).Nodup
  | _ => True

def NotConstant : Tree → Prop
  | .number (.constant _) => False
  | _ => True

def Bounded : Tree → Prop
  | .number (.integer literal) =>
    (literal.dropWhile (· == 45)).length ≤ maxJsonIntegerDigits
  | .number (.decimal literal) =>
    literal.length ≤ maxJsonNumberChars ∧ host.isFinite (host.float literal) = true
  | _ => True

/-- What each part of a document must be for the hooks to accept it. -/
def Accepted (tree : Tree) : Prop :=
  DistinctNames tree ∧ NotConstant tree ∧ Bounded host tree

def numberValue : Literal → Scalar Float
  | .integer literal => .int (intValue literal)
  | .decimal literal => .float (host.float literal)
  | .constant name => .float (host.float name)

theorem read_number_iff (literal : Literal) (value : Scalar Float) :
    readNumber host literal = .ok value ↔
      Accepted host (.number literal) ∧ value = numberValue host literal := by
  cases literal with
  | integer text =>
    simp only [readNumber, boundedInt, Accepted, DistinctNames, NotConstant, Bounded, numberValue,
      true_and]
    split_ifs with long
    · simp only [false_iff, not_and]
      omega
    · rw [Except.ok.injEq, eq_comm]
      exact ⟨fun same => ⟨Nat.le_of_not_lt long, same⟩, fun both => both.2⟩
  | decimal text =>
    simp only [readNumber, boundedFloat, Accepted, DistinctNames, NotConstant, Bounded, numberValue,
      true_and]
    split_ifs with long finite
    · simp only [false_iff, not_and]
      omega
    · rw [Except.ok.injEq, eq_comm]
      exact ⟨fun same => ⟨⟨Nat.le_of_not_lt long, finite⟩, same⟩, fun both => both.2⟩
    · simp [finite]
  | constant name => simp [readNumber, rejectConstant, Accepted, NotConstant]

theorem unique_from_iff (pairs : List (Letters × Value Float)) :
    ∀ result found, (result.map Prod.fst).Nodup →
      (uniqueFrom result pairs = .ok found ↔
        ((result ++ pairs).map Prod.fst).Nodup ∧ found = result ++ pairs) := by
  induction pairs with
  | nil =>
    intro result found distinct
    rw [uniqueFrom, List.append_nil, Except.ok.injEq, eq_comm]
    exact ⟨fun same => ⟨distinct, same⟩, fun both => both.2⟩
  | cons pair rest ih =>
    intro result found distinct
    have joined : result ++ pair :: rest = result ++ [pair] ++ rest := by simp
    rw [uniqueFrom]
    by_cases seen : pair.1 ∈ result.map Prod.fst
    · rw [if_pos seen]
      constructor
      · intro impossible
        cases impossible
      · intro both
        have apart := both.1
        rw [List.map_append, List.map_cons, List.nodup_append] at apart
        exact absurd rfl (apart.2.2 pair.1 seen pair.1 List.mem_cons_self)
    · rw [if_neg seen, joined]
      apply ih
      rw [List.map_append, List.map_singleton, List.nodup_append]
      refine ⟨distinct, List.nodup_singleton _, ?_⟩
      intro key inside other single same
      rw [List.mem_singleton] at single
      exact seen (single ▸ same ▸ inside)

theorem unique_object_iff (pairs : List (Letters × Value Float)) (value : Value Float) :
    uniqueObject pairs = .ok value ↔ (pairs.map Prod.fst).Nodup ∧ value = .object pairs := by
  have known := unique_from_iff pairs [] pairs List.nodup_nil
  rw [List.nil_append] at known
  rw [uniqueObject]
  by_cases distinct : (pairs.map Prod.fst).Nodup
  · rw [known.mpr ⟨distinct, rfl⟩, Except.map, Except.ok.injEq, eq_comm]
    exact ⟨fun same => ⟨distinct, same⟩, fun both => both.2⟩
  · constructor
    · intro built
      cases found : uniqueFrom [] pairs with
      | error problem =>
        rw [found] at built
        cases built
      | ok result =>
        have same := (unique_from_iff pairs [] result List.nodup_nil).mp found
        exact absurd same.1 distinct
    · exact fun both => absurd both.1 distinct

/-- An answer that is accepted exactly when the fact holds, and then is the known one. -/
def Exactly {Result : Type} (answer : Except Problem Result) (fact : Prop) (known : Result) :
    Prop :=
  ∀ result, answer = .ok result ↔ fact ∧ result = known

section

variable {First Second : Type} {answer : Except Problem First} {fact : Prop} {known : First}
  (exactly : Exactly answer fact known)
include exactly

theorem Exactly.cases :
    (answer = .ok known ∧ fact) ∨ ∃ problem, answer = .error problem ∧ ¬fact := by
  cases answer with
  | error problem =>
    exact .inr ⟨problem, rfl, fun holds => nomatch (exactly known).mpr ⟨holds, rfl⟩⟩
  | ok result =>
    obtain ⟨holds, rfl⟩ := (exactly result).mp rfl
    exact .inl ⟨rfl, holds⟩

theorem Exactly.map (wrap : First → Second) : Exactly (answer.map wrap) fact (wrap known) := by
  intro value
  rcases exactly.cases with ⟨rfl, holds⟩ | ⟨problem, rfl, fails⟩
  · simp [Except.map, holds, eq_comm]
  · simp [Except.map, fails]

end

mutual

theorem build_iff (tree : Tree) :
    Exactly (build host tree) (Everywhere (Accepted host) tree) (tree.map (numberValue host)) := by
  cases tree with
  | null | bool flag | string text =>
    simp [Exactly, build, Everywhere, Accepted, DistinctNames, NotConstant, Bounded, Doc.map,
      eq_comm]
  | number literal =>
    rw [build, Everywhere, Doc.map]
    exact Exactly.map (read_number_iff host literal) _
  | array items =>
    intro value
    rw [build, Everywhere, Doc.map, (build_items_iff items).map _ value]
    simp [Accepted, DistinctNames, NotConstant, Bounded]
  | object members =>
    have names := map_member_names (numberValue host) members
    intro value
    rw [build, Everywhere, Doc.map]
    rcases (build_members_iff members).cases with ⟨built, every⟩ | ⟨problem, built, fails⟩
    · rw [built]
      dsimp only
      rw [unique_object_iff, names]
      constructor
      · intro both
        exact ⟨⟨⟨both.1, trivial, trivial⟩, every⟩, both.2⟩
      · intro both
        exact ⟨both.1.1.1, both.2⟩
    · rw [built]
      exact iff_of_false (fun impossible => nomatch impossible) fun both => fails both.1.2

theorem build_items_iff (items : List Tree) :
    Exactly (buildItems host items) (EveryItem (Accepted host) items)
      (mapItems (numberValue host) items) := by
  cases items with
  | nil => simp [Exactly, buildItems, EveryItem, mapItems, eq_comm]
  | cons item rest =>
    intro values
    rw [buildItems, EveryItem, mapItems]
    rcases (build_iff item).cases with ⟨built, here⟩ | ⟨problem, built, fails⟩
    · rw [built]
      dsimp only
      rw [(build_items_iff rest).map _ values, and_iff_right here]
    · rw [built]
      exact iff_of_false (fun impossible => nomatch impossible) fun both => fails both.1.1

theorem build_members_iff (members : List (Letters × Tree)) :
    Exactly (buildMembers host members) (EveryMember (Accepted host) members)
      (mapMembers (numberValue host) members) := by
  cases members with
  | nil => simp [Exactly, buildMembers, EveryMember, mapMembers, eq_comm]
  | cons member rest =>
    intro pairs
    rw [buildMembers, EveryMember, mapMembers]
    rcases (build_iff member.2).cases with ⟨built, here⟩ | ⟨problem, built, fails⟩
    · rw [built]
      dsimp only
      rw [(build_members_iff rest).map _ pairs, and_iff_right here]
    · rw [built]
      exact iff_of_false (fun impossible => nomatch impossible) fun both => fails both.1.1

end

end

/-! What the walk accepts -/

section

variable {Number : Type}

/-- A string of scalar values. -/
def Scalars (text : Letters) : Prop := ∀ code ∈ text, isSurrogate code = false

/-- No string of the document and no name of it has a surrogate left. -/
def Paired : Doc Number → Prop
  | .string text => Scalars text
  | .object members => ∀ member ∈ members, Scalars member.1
  | _ => True

theorem any_surrogate_iff (text : Letters) : text.any isSurrogate = false ↔ Scalars text := by
  rw [List.any_eq_false]
  simp [Scalars]

def pendingTurns (pending : List (Doc Number)) : Nat := (pending.map turns).sum

theorem pending_turns_append (left right : List (Doc Number)) :
    pendingTurns (left ++ right) = pendingTurns left + pendingTurns right := by
  simp [pendingTurns]

theorem pending_turns_reverse (pending : List (Doc Number)) :
    pendingTurns pending.reverse = pendingTurns pending := by
  simp [pendingTurns, List.sum_reverse]

theorem item_turns_eq (items : List (Doc Number)) : itemTurns items = pendingTurns items := by
  induction items with
  | nil => rfl
  | cons item rest ih =>
    rw [itemTurns, ih]
    rfl

theorem member_turns_eq (members : List (Letters × Doc Number)) :
    memberTurns members = pendingTurns (members.map Prod.snd) +
      pendingTurns (members.map fun member => (Doc.string member.1 : Doc Number)) := by
  induction members with
  | nil => rfl
  | cons member rest ih =>
    rw [memberTurns, ih]
    simp only [pendingTurns, List.map_cons, List.sum_cons, turns]
    omega

theorem walk_iff (fuel : Nat) :
    ∀ pending : List (Doc Number), pendingTurns pending ≤ fuel →
      (walk fuel pending = .ok () ↔ ∀ item ∈ pending, Everywhere Paired item) := by
  induction fuel with
  | zero =>
    intro pending enough
    cases pending with
    | nil => simp [walk]
    | cons item rest =>
      have some : 0 < turns item := by cases item <;> simp [turns]
      simp only [pendingTurns, List.map_cons, List.sum_cons] at enough
      omega
  | succ fuel ih =>
    intro pending enough
    cases pending with
    | nil => simp [walk]
    | cons item rest =>
      rw [List.forall_mem_cons]
      have split : turns item + pendingTurns rest ≤ fuel + 1 := enough
      cases item with
      | null | bool value | number value =>
        rw [turns] at split
        change walk fuel rest = .ok () ↔ _
        rw [ih rest (by omega)]
        simp [Everywhere, Paired]
      | string value =>
        rw [turns] at split
        rw [walk, Everywhere, Paired, ← any_surrogate_iff]
        split_ifs with broken
        · simp [broken]
        · rw [ih rest (by omega)]
          simp [broken]
      | array items =>
        rw [turns, item_turns_eq] at split
        rw [walk, Everywhere, every_item_iff]
        rw [ih _ (by rw [pending_turns_append, pending_turns_reverse]; omega)]
        simp only [List.mem_append, List.mem_reverse, or_imp, forall_and, Paired, true_and]
      | object members =>
        rw [turns, member_turns_eq] at split
        rw [walk, Everywhere, every_member_iff]
        rw [ih _ (by
          rw [pending_turns_append, pending_turns_append, pending_turns_reverse,
            pending_turns_reverse]
          omega)]
        simp only [List.mem_append, List.mem_reverse, List.mem_map, or_imp, forall_and,
          forall_exists_index, and_imp, forall_apply_eq_imp_iff₂, Everywhere, Paired]
        tauto

theorem reject_unpaired_iff (value : Doc Number) :
    rejectUnpairedSurrogates value = .ok () ↔ Everywhere Paired value := by
  have enough : pendingTurns [value] ≤ turns value := by simp [pendingTurns]
  rw [rejectUnpairedSurrogates, walk_iff _ _ enough]
  simp

mutual

theorem paired_map {Other : Type} (convert : Number → Other) (doc : Doc Number) :
    Everywhere Paired (doc.map convert) ↔ Everywhere Paired doc := by
  cases doc with
  | null | bool value | number value | string value => exact Iff.rfl
  | array items =>
    rw [Doc.map, Everywhere, Everywhere, paired_map_items convert items]
    exact Iff.rfl
  | object members =>
    have names := map_member_names convert members
    have same : Paired (.object (mapMembers convert members)) ↔ Paired (.object members) := by
      have each (some : List (Letters × Doc Number)) :
          Paired (.object some) ↔ ∀ name ∈ some.map Prod.fst, Scalars name := by
        simp [Paired]
      have every (some : List (Letters × Doc Other)) :
          Paired (.object some) ↔ ∀ name ∈ some.map Prod.fst, Scalars name := by
        simp [Paired]
      rw [each, every, names]
    rw [Doc.map, Everywhere, Everywhere, same, paired_map_members convert members]

theorem paired_map_items {Other : Type} (convert : Number → Other) (items : List (Doc Number)) :
    EveryItem Paired (mapItems convert items) ↔ EveryItem Paired items := by
  cases items with
  | nil => exact Iff.rfl
  | cons item rest =>
    rw [mapItems, EveryItem, EveryItem, paired_map convert item, paired_map_items convert rest]

theorem paired_map_members {Other : Type} (convert : Number → Other)
    (members : List (Letters × Doc Number)) :
    EveryMember Paired (mapMembers convert members) ↔ EveryMember Paired members := by
  cases members with
  | nil => exact Iff.rfl
  | cons member rest =>
    rw [mapMembers, EveryMember, EveryMember, paired_map convert member.2,
      paired_map_members convert rest]

end

end

/-! The language that is accepted -/

/-- A document the strict decoder is for, within the bounds on its numbers. -/
structure Restricted {Float : Type} (host : FloatHost Float) (tree : Tree) : Prop where
  nested : tree.height ≤ maxJsonDepth
  distinct : Everywhere DistinctNames tree
  finite : Everywhere NotConstant tree
  paired : Everywhere Paired tree
  bounded : Everywhere (Bounded host) tree

/-- On a text that the decoder reads as the grammar has it, the strict decoder accepts exactly the
restricted documents and gives their values. -/
theorem strict_json_loads_iff {Float : Type} (host : FloatHost Float)
    (decoder : Letters → Option Tree) (text : Letters)
    (correct : ∀ tree, decoder text = some tree ↔ Spells LiteralWritten text tree)
    (value : Value Float) :
    strictJsonLoads host decoder text = .ok value ↔
      ∃ tree, Spells LiteralWritten text tree ∧ Restricted host tree ∧
        value = tree.map (numberValue host) := by
  have accepted (tree : Tree) : Everywhere (Accepted host) tree ↔
      Everywhere DistinctNames tree ∧ Everywhere NotConstant tree ∧
        Everywhere (Bounded host) tree := by
    have first := everywhere_and DistinctNames (fun inner => NotConstant inner ∧ Bounded host inner)
      tree
    rw [everywhere_and NotConstant (Bounded host) tree] at first
    exact first
  constructor
  · intro loaded
    unfold strictJsonLoads jsonLoads at loaded
    split at loaded
    · cases loaded
    · rename_i flat
      cases decoded : decoder text with
      | none =>
        rw [decoded] at loaded
        cases loaded
      | some tree =>
        have spells := (correct tree).mp decoded
        rw [decoded] at loaded
        dsimp only at loaded
        cases built : build host tree with
        | error problem =>
          rw [built] at loaded
          cases loaded
        | ok found =>
          rw [built] at loaded
          dsimp only at loaded
          split at loaded
          · cases loaded
          · rename_i walked
            cases loaded
            obtain ⟨every, same⟩ := (build_iff host tree value).mp built
            obtain ⟨distinct, finite, bounded⟩ := (accepted tree).mp every
            rw [reject_unpaired_iff, same, paired_map] at walked
            exact ⟨tree, spells, ⟨(check_nesting_iff spells).mp flat, distinct, finite, walked,
              bounded⟩, same⟩
  · intro restricted
    obtain ⟨tree, spells, held, same⟩ := restricted
    have built := (build_iff host tree value).mpr
      ⟨(accepted tree).mpr ⟨held.distinct, held.finite, held.bounded⟩, same⟩
    have walked : rejectUnpairedSurrogates value = .ok () := by
      rw [reject_unpaired_iff, same, paired_map]
      exact held.paired
    unfold strictJsonLoads jsonLoads
    rw [(check_nesting_iff spells).mpr held.nested, (correct tree).mpr spells]
    dsimp only
    rw [built]
    dsimp only
    rw [walked]

/-! A nested document -/

/-- Neither blanks nor commas. -/
def Compact (text : Letters) : Prop :=
  ∀ letter ∈ text, ¬(letter = 32 ∨ letter = 9 ∨ letter = 10 ∨ letter = 13) ∧ letter ≠ 44

instance : DecidablePred Compact := fun _ => List.decidableBAll ..

theorem compact_padded {spelled : Letters → Prop} {text : Letters} (compact : Compact text) :
    Padded spelled text ↔ spelled text := by
  have blank : Blank [] := fun _ inside => nomatch inside
  constructor
  · rintro ⟨before, inner, after, front, here, behind, rfl⟩
    cases before with
    | cons letter => exact absurd (front letter (by simp)) (compact letter (by simp)).1
    | nil =>
      cases after with
      | cons letter => exact absurd (behind letter (by simp)) (compact letter (by simp)).1
      | nil => simpa using here
  · exact fun here => ⟨[], text, [], blank, here, blank, by simp⟩

/-- What opens with a brace is an object. -/
theorem written_brace {tree : Tree} {text : Letters}
    (written : Written LiteralWritten tree (123 :: text)) :
    ∃ members body, tree = .object members ∧ MembersWritten LiteralWritten members body ∧
      text = body ++ [125] := by
  cases tree with
  | null => exact absurd (show 123 :: text = letters "null" from written) (by simp [letters])
  | bool value =>
    cases value with
    | true => exact absurd (show 123 :: text = letters "true" from written) (by simp [letters])
    | false => exact absurd (show 123 :: text = letters "false" from written) (by simp [letters])
  | number literal => exact absurd rfl (literal_plain written 123 List.mem_cons_self).2.2.1
  | string | array =>
    obtain ⟨_, _, whole⟩ := written
    cases whole
  | object members =>
    obtain ⟨body, inner, whole⟩ := written
    exact ⟨members, body, rfl, inner, (List.cons.inj whole).2⟩

theorem quoted_letter {letter : Nat} (plain : 32 ≤ letter ∧ letter ≠ 34 ∧ letter ≠ 92)
    {name text rest more : Letters} (quoted : Quoted name text)
    (same : text ++ rest = 34 :: letter :: 34 :: more) : name = [letter] ∧ rest = more := by
  obtain ⟨body, spelled, rfl⟩ := quoted
  have inside : body ++ 34 :: rest = letter :: 34 :: more := by simpa using same
  cases spelled with
  | done => exact absurd (List.cons.inj inside).1.symm plain.2.1
  | plain printable quote backslash spelled =>
    obtain ⟨rfl, behind⟩ := List.cons.inj inside
    cases spelled with
    | done => exact ⟨rfl, (List.cons.inj behind).2⟩
    | plain _ other _ _ => exact absurd (List.cons.inj behind).1 other
    | short | unit | pair => cases behind
  | short | unit | pair => exact absurd (List.cons.inj inside).1.symm plain.2.2

/-- An object with one member under a name of one letter. -/
theorem written_member_iff {letter : Nat} (plain : 32 ≤ letter ∧ letter ≠ 34 ∧ letter ≠ 92)
    {inner : Letters} (compact : Compact (34 :: letter :: 34 :: 58 :: inner)) (tree : Tree) :
    Written LiteralWritten tree (123 :: 34 :: letter :: 34 :: 58 :: (inner ++ [125])) ↔
      ∃ value, tree = .object [([letter], value)] ∧ Written LiteralWritten value inner := by
  have behind : Compact inner := fun other inside => compact other (by simp [inside])
  constructor
  · intro written
    obtain ⟨members, body, rfl, named, whole⟩ := written_brace written
    obtain rfl := @List.append_cancel_right _ (34 :: letter :: 34 :: 58 :: inner) _ _ whole
    cases members with
    | nil => exact absurd (named 34 List.mem_cons_self) (by decide)
    | cons member rest =>
      obtain ⟨first, more, ⟨quoted, value, front, back, rfl⟩, later, parts⟩ := named
      rw [parts] at compact
      rw [compact_padded fun other inside => compact other (by simp [inside])] at front back
      rw [List.append_assoc] at parts
      obtain ⟨name, rest'⟩ := quoted_letter plain front parts.symm
      cases rest with
      | cons =>
        obtain ⟨_, _, _, _, rfl⟩ := later
        exact absurd rfl (compact 44 (by simp)).2
      | nil =>
        obtain rfl : more = [] := later
        obtain rfl : value = inner := by simpa using rest'
        exact ⟨member.2, by rw [← name], back⟩
  · rintro ⟨value, rfl, written⟩
    have quoted : Compact [34, letter, 34] := fun other inside => compact other (by
      simp only [List.mem_cons] at inside ⊢
      tauto)
    refine ⟨34 :: letter :: 34 :: 58 :: inner, ?_, by simp⟩
    refine ⟨_, [], ⟨[34, letter, 34], inner, (compact_padded quoted).mpr ?_,
      (compact_padded behind).mpr written, rfl⟩, rfl, by simp⟩
    exact ⟨[letter], .plain plain.1 plain.2.1 plain.2.2 .done, rfl⟩

theorem written_newline_iff (tree : Tree) :
    Written LiteralWritten tree (letters "\"\\n\"") ↔ tree = .string [10] := by
  have codes : letters "\"\\n\"" = [34, 92, 110, 34] := by decide
  rw [codes]
  constructor
  · intro written
    cases tree with
    | null => exact absurd (show [34, 92, 110, 34] = letters "null" from written) (by decide)
    | bool value =>
      cases value with
      | true => exact absurd (show [34, 92, 110, 34] = letters "true" from written) (by decide)
      | false => exact absurd (show [34, 92, 110, 34] = letters "false" from written) (by decide)
    | number literal => exact absurd rfl (literal_plain written 34 List.mem_cons_self).1
    | array | object =>
      obtain ⟨_, _, whole⟩ := written
      cases whole
    | string value =>
      obtain ⟨body, spelled, whole⟩ := written
      cases spelled with
      | done | unit | pair => cases whole
      | plain _ _ backslash _ =>
        exact absurd (List.cons.inj (List.cons.inj whole).2).1.symm backslash
      | short listed spelled =>
        obtain ⟨rfl, behind⟩ := List.cons.inj (List.cons.inj (List.cons.inj whole).2).2
        cases spelled with
        | done =>
          have code : ∀ pair ∈ shortEscapes, pair.1 = 110 → pair.2 = 10 := by decide
          exact congrArg (fun code => Doc.string [code]) (code _ listed rfl)
        | plain _ quote _ _ => exact absurd (List.cons.inj behind).1.symm quote
        | short | unit | pair => cases behind
  · rintro rfl
    exact ⟨[92, 110], .short (by decide) .done, rfl⟩

/-- A host whose numbers are never asked for. -/
def idleHost : FloatHost Unit := ⟨fun _ => (), fun _ => true⟩

/-- The text of an object in an object, with an escaped line feed in it. -/
def nestedText : Letters := letters "\x7b\"a\":\x7b\"b\":\"\\n\"\x7d\x7d"

def nestedTree : Tree := .object [([97], .object [([98], .string [10])])]

theorem spells_nested_iff (tree : Tree) :
    Spells LiteralWritten nestedText tree ↔ tree = nestedTree := by
  have outer : nestedText = 123 :: 34 :: 97 :: 34 :: 58 ::
      (123 :: 34 :: 98 :: 34 :: 58 :: (letters "\"\\n\"" ++ [125]) ++ [125]) := by decide
  rw [Spells, compact_padded (by decide), outer, written_member_iff (by decide) (by decide)]
  constructor
  · rintro ⟨value, rfl, inside⟩
    obtain ⟨value, rfl, inner⟩ := (written_member_iff (by decide) (by decide) value).mp inside
    rw [(written_newline_iff value).mp inner]
    rfl
  · rintro rfl
    exact ⟨_, rfl, (written_member_iff (by decide) (by decide) _).mpr
      ⟨_, rfl, (written_newline_iff _).mpr rfl⟩⟩

theorem strict_nested_object :
    strictJsonLoads idleHost (fun _ => some nestedTree) nestedText =
      .ok (.object [([97], .object [([98], .string [10])])]) := by
  rw [strict_json_loads_iff idleHost _ nestedText fun tree => by
    rw [spells_nested_iff, Option.some.injEq, eq_comm]]
  refine ⟨nestedTree, (spells_nested_iff _).mpr rfl, ⟨by decide, ?_, ?_, ?_, ?_⟩, rfl⟩
  · simp [nestedTree, Everywhere, EveryMember, DistinctNames]
  · simp [nestedTree, Everywhere, EveryMember, NotConstant]
  · simp [nestedTree, Everywhere, EveryMember, Paired, Scalars, isSurrogate]
  · simp [nestedTree, Everywhere, EveryMember, Bounded]

end EvoomGuard.StrictJson
