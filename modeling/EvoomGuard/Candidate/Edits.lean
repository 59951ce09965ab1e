import EvoomGuard.Lib.Regex

/-!
The textual candidate formats of `candidate/edits.py`. The four expressions are written
piece by piece in the order of the source; the lenient pair ignores case. Nothing here
says that a text has one reading: the strict and the lenient parsers are two functions,
and which of them a caller uses is the caller's choice.
-/

namespace EvoomGuard.Candidate

open Lib Lib.Regex

inductive EditGroup where
  | path
  | body
  | search
  | replace
  deriving DecidableEq, Repr

abbrev Piece := Expr EditGroup

def spaces : Piece := .many Text.isSpace

def optionalCr : Piece := optional (char '\r')

def optionalLf : Piece := optional (char '\n')

def pathCharacter (character : Char) : Bool := character != '>' && character != '\n'

def lazyBody (name : EditGroup) : Piece := .group name (.manyLazy anyChar)

def blockRe : Piece :=
  chain [literal "<<<FILE:", spaces, .group .path (some1Lazy pathCharacter), spaces,
    literal ">>>", optionalCr, char '\n', lazyBody .body, optionalCr, optionalLf,
    literal "<<<END", spaces, literal "FILE>>>"]

def patchBlockRe : Piece :=
  chain [literal "<<<PATCH:", spaces, .group .path (some1Lazy pathCharacter), spaces,
    literal ">>>", optionalCr, char '\n',
    literal "<<<SEARCH>>>", optionalCr, char '\n', lazyBody .search, optionalCr, char '\n',
    literal "<<<REPLACE>>>", optionalCr, char '\n', lazyBody .replace, optionalCr,
    optionalLf, literal "<<<END", spaces, literal "PATCH>>>"]

def openAngles : Piece := some1 (· == '<')

def closeAngles : Piece := some1 (· == '>')

def word (text : String) : Piece := literalIgnoringCase text.toList

/-- `<+\s*/?\s*(?:END\s*)?WORD\s*>+` -/
def lenientClose (text : String) : Piece :=
  chain [openAngles, spaces, optional (char '/'), spaces,
    optional (chain [word "END", spaces]), word text, spaces, closeAngles]

/-- `\s*(?:<+\s*/\s*WORD\s*>+\s*)?` -/
def lenientSectionEnd (text : String) : Piece :=
  chain [spaces, optional (chain [openAngles, spaces, char '/', spaces, word text, spaces,
    closeAngles, spaces])]

def lenientFileRe : Piece :=
  chain [openAngles, spaces, word "FILE", spaces, char ':', spaces,
    .group .path (some1Lazy pathCharacter), spaces, closeAngles, optionalCr, optionalLf,
    lazyBody .body, optionalCr, optionalLf, lenientClose "FILE"]

def lenientPatchRe : Piece :=
  chain [openAngles, spaces, word "PATCH", spaces,
    optional (chain [char ':', spaces, .group .path (.manyLazy pathCharacter)]), spaces,
    closeAngles, spaces,
    openAngles, spaces, word "SEARCH", spaces, closeAngles, optionalCr, optionalLf,
    lazyBody .search, lenientSectionEnd "SEARCH",
    openAngles, spaces, word "REPLACE", spaces, closeAngles, optionalCr, optionalLf,
    lazyBody .replace, lenientSectionEnd "REPLACE",
    lenientClose "PATCH"]

def captured (captures : Captures EditGroup) (name : EditGroup) : Text :=
  (capture? captures name).getD []

/-- One unique-anchor search/replace edit for one file. -/
structure PatchBlock where
  path : Text
  search : Text
  replace : Text
  deriving DecidableEq

def parseFileBlocks (hypothesis : Text) : Dict Text Text :=
  Dict.ofPairs ((finditer blockRe hypothesis).map fun captures =>
    (Text.strip (captured captures .path), captured captures .body))

def parsePatchBlocks (hypothesis : Text) : List PatchBlock :=
  (finditer patchBlockRe hypothesis).map fun captures =>
    ⟨Text.strip (captured captures .path), captured captures .search,
      captured captures .replace⟩

/-- A patch without a path of its own takes the default one, and is dropped without it. -/
def lenientPatch (defaultPath : Option Text) (captures : Captures EditGroup) :
    Option PatchBlock :=
  let own := Text.strip (captured captures .path)
  let path := if own.isEmpty then defaultPath.getD [] else own
  if path.isEmpty then none
  else some ⟨path, captured captures .search, captured captures .replace⟩

/-- Best-effort recovery of near-miss block formats. -/
def parseBlocksLenient (hypothesis : Text) (defaultPath : Option Text) :
    Dict Text Text × List PatchBlock :=
  (Dict.ofPairs ((finditer lenientFileRe hypothesis).map fun captures =>
      (Text.strip (captured captures .path), captured captures .body)),
    (finditer lenientPatchRe hypothesis).filterMap (lenientPatch defaultPath))

/-- The paths a parsed candidate would create or modify, in order. -/
def editedPaths (fileBlocks : Dict Text Text) (patchBlocks : List PatchBlock) : List Text :=
  Text.sortedSet (fileBlocks.keys ++ patchBlocks.map PatchBlock.path)

theorem mem_edited_paths {fileBlocks : Dict Text Text} {patchBlocks : List PatchBlock}
    {path : Text} :
    path ∈ editedPaths fileBlocks patchBlocks ↔
      path ∈ fileBlocks.keys ∨ ∃ block ∈ patchBlocks, block.path = path := by
  rw [editedPaths, Text.mem_sorted_set, List.mem_append, List.mem_map]

end EvoomGuard.Candidate
