import EvoomGuard.Lib.NtPath

/-!
The command grammar of `runners/_command.py`: which token of an argv is the executable that runs,
directly or behind a launcher.
-/

namespace EvoomGuard.Runners.Command

open Lib Lib.NtPath

/-- The character classes of the interpreter: `\d` of its regular expressions, and
`str.isdigit`. -/
structure CommandLetters where
  mapping : CaseMapping
  isDecimal : Char → Bool
  isDigit : Char → Bool

def asciiCommandLetters : CommandLetters where
  mapping := asciiCase
  isDecimal := Char.isDigit
  isDigit := Char.isDigit

def windowsExecutableSuffixes : List Text :=
  [".bat", ".cmd", ".com", ".exe"]

section Grammar

variable (letters : CommandLetters)

/-- The basename of a token in one case and without a launcher suffix. -/
def executableName (token : Text) : Text :=
  let name := letters.mapping.casefold (basename (Text.rstripWhile isSeparator token))
  if windowsExecutableSuffixes.contains (splitext name).2 then (splitext name).1 else name

def isOption (token : Text) : Bool := Text.startsWith token "-"

def takesValue (valueOptions : List Text) (token : Text) : Bool :=
  !token.contains '=' && valueOptions.contains token

/-- How many tokens the options take; `value` says that the first one is a value. The last option
may ask for a value that is not there. -/
def optionTokens (valueOptions : List Text) : Bool → List Text → Nat
  | value, [] => if value then 1 else 0
  | true, _ :: rest => 1 + optionTokens valueOptions false rest
  | false, token :: rest =>
    if token = "--" then 1
    else if isOption token then 1 + optionTokens valueOptions (takesValue valueOptions token) rest
    else 0

def optionValueEnd (tokens : List Text) (start : Nat) (valueOptions : List Text) : Nat :=
  start + optionTokens valueOptions false (tokens.drop start)

/-- A launcher whose sub-command may be left out. -/
def scriptCommandIndex (tokens : List Text) (valueOptions laterOptions : List Text) : Nat :=
  let i := optionValueEnd tokens 1 valueOptions
  if tokens[i]?.any ["dlx".toList, "exec".toList, "run".toList].contains then
    optionValueEnd tokens (i + 1) laterOptions
  else i

/-- Where the first `exec` or `x` behind the launcher stands. -/
def npmMarker (tokens : List Text) : Option Nat :=
  ((tokens.drop 1).findIdx? ["exec".toList, "x".toList].contains).map (· + 1)

def wrappedCommandIndex (tokens : List Text) : Option Nat :=
  match tokens with
  | [] => none
  | first :: _ =>
    let launcher := executableName letters first
    if launcher = "npx" ∨ launcher = "bunx" then
      some (optionValueEnd tokens 1
        ["-p", "--package", "-c".toList, "--call".toList])
    else if launcher = "pnpm" then
      some (scriptCommandIndex tokens
        ["-C", "--dir", "-F".toList, "--filter".toList, "--config-dir".toList]
        ["-c", "--shell-mode"])
    else if launcher = "yarn" ∨ launcher = "yarnpkg" then
      some (scriptCommandIndex tokens
        ["--cwd", "--use-yarnrc".toList, "--cache-folder".toList, "--mutex".toList] [])
    else if launcher = "npm" then
      (npmMarker tokens).map fun marker => optionValueEnd tokens (marker + 1)
        ["-c", "--call", "--package".toList]
    else if launcher = "bundle".toList ∧ 3 ≤ tokens.length ∧ tokens[1]? = some "exec".toList then
      some 2
    else if (launcher = "poetry" ∨ launcher = "pipenv" ∨ launcher = "uv") ∧
        3 ≤ tokens.length ∧ tokens[1]? = some "run".toList then
      some 2
    else none

def namesAt (runner : Text) (tokens : List Text) (index : Nat) : Bool :=
  tokens[index]?.any (executableName letters · == runner)

def invokesRunner (tokens : List Text) (runner : Text) : Bool :=
  namesAt letters runner tokens 0 ||
    (wrappedCommandIndex letters tokens).any (namesAt letters runner tokens)

/-- `python`, with a version of one or two numbers. -/
def isVersionedPython (name : Text) : Bool :=
  let number (part : Text) : Bool := !part.isEmpty && part.all letters.isDecimal
  Text.startsWith name "python" &&
    match Text.split '.' (name.drop 6) with
    | [major] => major.isEmpty || number major
    | [major, minor] => number major && number minor
    | _ => false

def isPythonExecutable (token : Text) : Bool :=
  let executable := executableName letters token
  executable == "py" || isVersionedPython letters executable

/-- The tokens from the index on start with `python -m` and the module. -/
def modulesAt (module : Text) (tokens : List Text) (index : Nat) : Bool :=
  tokens[index]?.any (isPythonExecutable letters) && tokens[index + 1]? == some "-m".toList &&
    tokens[index + 2]?.any (letters.mapping.casefold · == module)

def invokesPythonModule (tokens : List Text) (module : Text) : Bool :=
  modulesAt letters module tokens 0 ||
    (wrappedCommandIndex letters tokens).any (modulesAt letters module tokens)

end Grammar

end EvoomGuard.Runners.Command
