import EvoomGuard.Lib.Shlex
import EvoomGuard.Runners.Registry

/-!
The adapter for shell wrappers in `runners/shell.py`: the script of `sh -c` is split at its last
operator, and the command behind it is instrumented by the adapter that takes it.
-/

namespace EvoomGuard.Runners.Shell

open Lib Runners.Command Runners.Registry

structure Scanning where
  quote : Option Char
  escaped : Bool
  commandSubstitutionDepth : Nat
  deriving DecidableEq

namespace Scanning

def start : Scanning := ⟨none, false, 0⟩

def startsWithAny (ahead : Text) (heads : List Text) : Bool := heads.any (Text.startsWith ahead)

def isQuote (char : Char) : Bool := char = '\'' || char = '"' || char = '`'

/-! A turn of the loop at the character in front of `rest`: what is carried on, how many characters
are passed, and whether they are recorded as an operator. -/

/-- Outside quotes and substitutions. -/
def operatorTurn (previous : Option Char) (char : Char) (rest : Text) : Nat × Bool :=
  let ahead := char :: rest
  if startsWithAny ahead ["&&", "||"] then (2, true)
  else if startsWithAny ahead ["|&"] then (2, true)
  else if char = '|' then (1, true)
  else if char = '&' then
    -- The empty text, before the first character, is `in` every text.
    (1, previous.any (fun previous => previous ≠ '<' && previous ≠ '>') && rest.head? ≠ some '>')
  else if char = ';' ∨ char = '\n' then (1, true)
  else if char = '#' ∧ previous.all Text.isSpace then (1, true)
  else (1, false)

def unquotedTurn (scanning : Scanning) (previous : Option Char) (char : Char) (rest : Text) :
    Scanning × Nat × Bool :=
  let depth := scanning.commandSubstitutionDepth
  if isQuote char then ({ scanning with quote := some char }, 1, false)
  else if startsWithAny (char :: rest) ["$(", "<(", ">("] then
    ({ scanning with commandSubstitutionDepth := depth + 1 }, 2, false)
  else if depth ≠ 0 then
    ({ scanning with
        commandSubstitutionDepth :=
          if char = ')' then depth - 1 else if char = '(' then depth + 1 else depth }, 1, false)
  else (scanning, operatorTurn previous char rest)

def turn (scanning : Scanning) (previous : Option Char) (char : Char) (rest : Text) :
    Scanning × Nat × Bool :=
  if scanning.escaped then ({ scanning with escaped := false }, 1, false)
  else if char = '\\' ∧ scanning.quote ≠ some '\'' then ({ scanning with escaped := true }, 1, false)
  else
    match scanning.quote with
    | some quote =>
      ({ scanning with quote := if char = quote then none else some quote }, 1, false)
    | none => scanning.unquotedTurn previous char rest

end Scanning

/-- The recorded operators in the rest of the text, with their positions and widths. -/
def operators (scanning : Scanning) (previous : Option Char) (i : Nat) : Text → List (Nat × Nat)
  | [] => []
  | char :: rest =>
    let (next, width, operator) := scanning.turn previous char rest
    let recorded := if operator then [(i, width)] else []
    match width, rest with
    | 2, second :: later => recorded ++ operators next (some second) (i + 2) later
    | _, rest => recorded ++ operators next (some char) (i + 1) rest

def splitLastCmd (shellStr : Text) : Text × Text × Text :=
  match (operators .start none 0 shellStr).getLast? with
  | none => ([], [], Text.strip shellStr)
  | some (start, width) =>
    let left := (Text.rstripWhile Text.isSpace (shellStr.take start)).length
    let right := start + width +
      ((shellStr.drop (start + width)).takeWhile Text.isSpace).length
    (shellStr.take left, (shellStr.take right).drop left, Text.strip (shellStr.drop right))

example : splitLastCmd "a; b || c".toList = ("a; b".toList, " || ".toList, "c".toList) := by
  decide

section

variable (letters : CommandLetters)

/-- The last command with the options of the report, as a suffix or, for a plain command, anywhere. -/
def instrumentLast (last : Text) (lastTokens instrumented : List Text) : Option Text :=
  if instrumented.take lastTokens.length = lastTokens then
    let extraTokens := instrumented.drop lastTokens.length
    some (Text.rstripWhile Text.isSpace last ++
      if extraTokens = [] then [] else " ".toList ++ Shlex.join extraTokens)
  else if Shlex.join lastTokens = Text.strip last then some (Shlex.join instrumented)
  else none

def prefixEnv (env : List (Text × Text)) : Text :=
  Text.join " " (env.map fun entry => entry.1 ++ "=" ++ Shlex.quote entry.2)

/-- `instrument_with_adapters`, for an argv that `matches` accepts. -/
def instrumentWithAdapters (cmd : List Text) (reportPath : Text) (inner : List Runner) :
    Option (List Text) := do
  let shell ← cmd[0]?
  let shellStr ← cmd[2]?
  let (before, operator, last) := splitLastCmd shellStr
  let lastTokens ← Shlex.split last
  let adapter ← inner.find? (Runner.matches letters lastTokens)
  let instrumented ← adapter.instrument lastTokens reportPath
  let newLast ← instrumentLast last lastTokens instrumented
  let env := prefixEnv (adapter.reportEnv reportPath)
  let newLast := if env = [] then newLast else env ++ " " ++ newLast
  some [shell, "-c", if operator = [] then newLast else before ++ operator ++ newLast]

end

end EvoomGuard.Runners.Shell
