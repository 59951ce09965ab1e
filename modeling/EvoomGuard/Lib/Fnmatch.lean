import EvoomGuard.Lib.Text

/-!
Shell patterns as `fnmatch.fnmatchcase` reads them: `*`, `?`, `[seq]` and `[!seq]`,
with the chunk rule that decides which hyphens of a bracket make a range. A
bracket that is never closed is a literal `[`. The translation to a regular
expression is not modelled as text; the tokens below are what that expression
accepts, newline included.
-/

namespace EvoomGuard.Lib.Fnmatch

/-- One element of a translated pattern. -/
inductive Token where
  | star
  | any
  | never
  | literal (character : Char)
  | oneOf (negated : Bool) (singles : List Char) (ranges : List (Char × Char))
  deriving DecidableEq, Repr

/-- Splits a bracket body at the first hyphen that stands at or after `position`. -/
def cutAtHyphen : Nat → Text → Option (Text × Text)
  | _, [] => none
  | 0, character :: rest =>
    if character = '-' then some ([], rest)
    else (cutAtHyphen 0 rest).map fun cut => (character :: cut.1, cut.2)
  | position + 1, character :: rest =>
    (cutAtHyphen position rest).map fun cut => (character :: cut.1, cut.2)

/-- The chunks of a bracket body. A hyphen ends a chunk when at least `minimum`
characters stand before it; every later chunk has at least two characters before its
hyphen. A trailing hyphen belongs to the chunk it follows. `fuel` bounds the number of
chunks and the length of the body suffices. -/
def chunksOf : Nat → Nat → Text → List Text
  | 0, _, body => [body]
  | fuel + 1, minimum, body =>
    match cutAtHyphen minimum body with
    | none => [body]
    | some (chunk, []) => [chunk ++ ['-']]
    | some (chunk, rest) => chunk :: chunksOf fuel 2 rest

/-- Empty ranges are removed from the right: the two characters around the hyphen go and
the chunks around it become one. -/
def mergeEmptyRanges : List Text → List Text
  | [] => []
  | chunk :: rest =>
    match mergeEmptyRanges rest with
    | [] => [chunk]
    | next :: others =>
      match chunk.getLast?, next.head? with
      | some low, some high =>
        if high.toNat < low.toNat then (chunk.dropLast ++ next.tail) :: others
        else chunk :: next :: others
      | _, _ => chunk :: next :: others

def rangesBetween : List Text → List (Char × Char)
  | chunk :: next :: rest =>
    match chunk.getLast?, next.head? with
    | some low, some high => (low, high) :: rangesBetween (next :: rest)
    | _, _ => rangesBetween (next :: rest)
  | _ => []

def bracketToken (body : Text) : Token :=
  let chunks :=
    if body.contains '-' then
      mergeEmptyRanges (chunksOf body.length (if body.head? = some '!' then 2 else 1) body)
    else [body]
  match chunks with
  | [[]] => .never
  | [['!']] => .any
  | ('!' :: first) :: others =>
    .oneOf true (first ++ others.flatten) (rangesBetween (('!' :: first) :: others))
  | _ => .oneOf false chunks.flatten (rangesBetween chunks)

/-- The body of a bracket that opens before `text` and what follows it. A `]` directly
after the opening, or after `!`, does not close the bracket. -/
def bracketBody (text : Text) : Option (Text × Text) :=
  let leading : Text :=
    match text with
    | '!' :: ']' :: _ => ['!', ']']
    | '!' :: _ => ['!']
    | ']' :: _ => [']']
    | _ => []
  let scanned := text.drop leading.length
  let body := scanned.takeWhile (· != ']')
  match scanned.drop body.length with
  | [] => none
  | _ :: rest => some (leading ++ body, rest)

/-- Every step consumes at least one character, so the length of the pattern is fuel enough. -/
def translateWith : Nat → Text → List Token
  | 0, _ => []
  | _ + 1, [] => []
  | fuel + 1, character :: rest =>
    if character = '*' then .star :: translateWith fuel rest
    else if character = '?' then .any :: translateWith fuel rest
    else if character = '[' then
      match bracketBody rest with
      | none => .literal '[' :: translateWith fuel rest
      | some (body, after) => bracketToken body :: translateWith fuel after
    else .literal character :: translateWith fuel rest

def translate (pattern : Text) : List Token := translateWith pattern.length pattern

def accepts : Token → Char → Bool
  | .star, _ => false
  | .any, _ => true
  | .never, _ => false
  | .literal character, other => character == other
  | .oneOf negated singles ranges, other =>
    negated !=
      (singles.contains other ||
        ranges.any fun range => range.1.toNat ≤ other.toNat && other.toNat ≤ range.2.toNat)

def matchTokens : List Token → Text → Bool
  | [], text => text.isEmpty
  | .star :: tokens, text => text.tails.any fun suffix => matchTokens tokens suffix
  | _ :: _, [] => false
  | token :: tokens, character :: rest => accepts token character && matchTokens tokens rest

/-- `fnmatch.fnmatch(name, pattern)` on a POSIX host, where `normcase` is the identity. -/
def fnmatch (name pattern : Text) : Bool := matchTokens (translate pattern) name

/-- The characters a translation does not copy. -/
def isSpecial (character : Char) : Bool :=
  character == '*' || character == '?' || character == '['

theorem translate_literal (pattern : Text) (plain : pattern.any isSpecial = false) :
    translate pattern = pattern.map Token.literal := by
  unfold translate
  induction pattern with
  | nil => rfl
  | cons character rest ih =>
    simp only [List.any_cons, Bool.or_eq_false_iff, isSpecial, beq_eq_false_iff_ne] at plain
    rw [List.length_cons, translateWith, if_neg plain.1.1.1, if_neg plain.1.1.2,
      if_neg plain.1.2, ih plain.2]
    rfl

theorem fnmatch_literal (name pattern : Text) (plain : pattern.any isSpecial = false) :
    fnmatch name pattern = true ↔ name = pattern := by
  rw [fnmatch, translate_literal pattern plain]
  clear plain
  induction pattern generalizing name with
  | nil => simp [matchTokens]
  | cons character rest ih =>
    cases name with
    | nil => simp [matchTokens]
    | cons other others =>
      rw [List.map_cons, matchTokens.eq_4 _ _ _ _ (by intro same; cases same),
        Bool.and_eq_true, ih others, accepts, beq_iff_eq, List.cons.injEq, eq_comm]

example : fnmatch "test_a.py" "test_*.py" = true := by decide
example : fnmatch "b" "[!a-c]" = false ∧ fnmatch "-" "[a-]" = true := by decide

end EvoomGuard.Lib.Fnmatch
