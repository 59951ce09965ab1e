import EvoomGuard.Lib.Text

/-!
A backtracking matcher with Python's preference order, for expressions whose
repetitions are all over one character class. The continuation carries the rest of
the search, so a later failure makes an earlier repetition give up a character
(greedy) or take one more (lazy), and the first success is the match Python reports.
Anchors, look-around and back references are not in the syntax.
-/

namespace EvoomGuard.Lib.Regex

/-- `Group` names the capture groups of one expression. -/
inductive Expr (Group : Type) where
  | empty
  | one (accepts : Char → Bool)
  | many (accepts : Char → Bool)
  | manyLazy (accepts : Char → Bool)
  | seq (first second : Expr Group)
  | alt (first second : Expr Group)
  | group (name : Group) (body : Expr Group)

/-- Captured texts, the latest first. A group that took no part has no entry. -/
abbrev Captures (Group : Type) := List (Group × Text)

variable {Group Result : Type}

/-- Takes as many characters as it can, then gives them back one by one. -/
def runMany (accepts : Char → Bool) (next : Text → Option Result) : Text → Option Result
  | [] => next []
  | character :: rest =>
    if accepts character then
      match runMany accepts next rest with
      | some result => some result
      | none => next (character :: rest)
    else next (character :: rest)

/-- Takes one more character only when what follows fails. -/
def runManyLazy (accepts : Char → Bool) (next : Text → Option Result) : Text → Option Result
  | [] => next []
  | character :: rest =>
    match next (character :: rest) with
    | some result => some result
    | none => if accepts character then runManyLazy accepts next rest else none

def run : Expr Group → Text → Captures Group →
    (Text → Captures Group → Option Result) → Option Result
  | .empty, text, captures, next => next text captures
  | .one _, [], _, _ => none
  | .one accepts, character :: rest, captures, next =>
    if accepts character then next rest captures else none
  | .many accepts, text, captures, next =>
    runMany accepts (fun rest => next rest captures) text
  | .manyLazy accepts, text, captures, next =>
    runManyLazy accepts (fun rest => next rest captures) text
  | .seq first second, text, captures, next =>
    run first text captures fun rest taken => run second rest taken next
  | .alt first second, text, captures, next =>
    match run first text captures next with
    | some result => some result
    | none => run second text captures next
  | .group name body, text, captures, next =>
    run body text captures fun rest taken =>
      next rest ((name, text.take (text.length - rest.length)) :: taken)

/-- The match at the start of `text`: what remains after it and the captures. -/
def matchAt (expr : Expr Group) (text : Text) : Option (Text × Captures Group) :=
  run expr text [] fun rest captures => some (rest, captures)

def fullmatch (expr : Expr Group) (text : Text) : Bool :=
  (run expr text [] fun rest _ => if rest.isEmpty then some () else none).isSome

/-- The non-overlapping matches from left to right. Every expression it is used with
starts with a character, so a match is never empty. -/
def finditerWith (expr : Expr Group) : Nat → Text → List (Captures Group)
  | 0, _ => []
  | _ + 1, [] => []
  | fuel + 1, character :: rest =>
    match matchAt expr (character :: rest) with
    | some (after, captures) => captures :: finditerWith expr fuel after
    | none => finditerWith expr fuel rest

def finditer (expr : Expr Group) (text : Text) : List (Captures Group) :=
  finditerWith expr text.length text

/-- `match.group(name)` with `None` for a group that took no part. -/
def capture? [DecidableEq Group] (captures : Captures Group) (name : Group) : Option Text :=
  captures.lookup name

def chain : List (Expr Group) → Expr Group
  | [] => .empty
  | [expr] => expr
  | expr :: next :: rest => .seq expr (chain (next :: rest))

def char (character : Char) : Expr Group := .one fun other => other == character

def literal (text : Text) : Expr Group := chain (text.map char)

def optional (expr : Expr Group) : Expr Group := .alt expr .empty

def some1 (accepts : Char → Bool) : Expr Group := .seq (.one accepts) (.many accepts)

def some1Lazy (accepts : Char → Bool) : Expr Group := .seq (.one accepts) (.manyLazy accepts)

def anyChar (_ : Char) : Bool := true

/-- A literal letter under `re.IGNORECASE`. Besides the two ASCII cases, `i` also stands
for the dotless and the dotted capital letter, `s` for the long one and `k` for the
Kelvin sign. -/
def sameIgnoringCase (letter other : Char) : Bool :=
  other.toLower == letter.toLower ||
    (letter.toLower == 'i' && (other.toNat == 0x131 || other.toNat == 0x130)) ||
    (letter.toLower == 's' && other.toNat == 0x17f) ||
    (letter.toLower == 'k' && other.toNat == 0x212a)

def literalIgnoringCase (text : Text) : Expr Group :=
  chain (text.map fun letter => .one (sameIgnoringCase letter))

end EvoomGuard.Lib.Regex
