import EvoomGuard.Lib.Text

/-!
The `shlex` module of the Python standard library: words of a command line in POSIX mode, without
comments, and the quoting that takes words back into a command line.
-/

namespace EvoomGuard.Lib.Shlex

inductive Mode where
  | word
  | quoted (mark : Char)
  /-- Behind a backslash, in quotes or not. -/
  | escaped (mark : Option Char)

def isBlank (character : Char) : Bool :=
  character = ' ' || character = '\t' || character = '\r' || character = '\n'

/-- A backslash in double quotes goes only in front of another or of the quote. -/
def escapedText (mark : Option Char) (character : Char) : Text :=
  if mark.any fun mark => character ≠ '\\' && character ≠ mark then ['\\', character]
  else [character]

/-- The words of the text, when one of them is begun already. -/
def words : Mode → Option Text → Text → Option (List Text)
  | .word, begun, [] => some begun.toList
  | .quoted _, _, [] => none
  | .escaped _, _, [] => none
  | .word, begun, character :: rest =>
    if isBlank character then (words .word none rest).map (begun.toList ++ ·)
    else if character = '\\' then words (.escaped none) begun rest
    else if character = '\'' ∨ character = '"' then
      words (.quoted character) (some (begun.getD [])) rest
    else words .word (some (begun.getD [] ++ [character])) rest
  | .quoted mark, begun, character :: rest =>
    if character = mark then words .word begun rest
    else if character = '\\' ∧ mark = '"' then words (.escaped (some mark)) begun rest
    else words (.quoted mark) (some (begun.getD [] ++ [character])) rest
  | .escaped mark, begun, character :: rest =>
    words (mark.elim .word .quoted) (some (begun.getD [] ++ escapedText mark character)) rest

/-- `shlex.split`; nothing where it raises `ValueError`. -/
def split (text : Text) : Option (List Text) := words .word none text

def isSafe (character : Char) : Bool :=
  character.isAlphanum || "_@%+=:,./-".toList.contains character

def quote (text : Text) : Text :=
  if text = [] then "''"
  else if text.all isSafe then text
  else "'" ++
    (text.flatMap fun character => if character = '\'' then "'\"'\"'" else [character]) ++
      "'"

def join (texts : List Text) : Text := Text.join " " (texts.map quote)

end EvoomGuard.Lib.Shlex
