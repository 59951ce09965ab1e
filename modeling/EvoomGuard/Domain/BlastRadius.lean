import EvoomGuard.Domain.Harness
import EvoomGuard.Lib.Checks
import EvoomGuard.Lib.Framing
import EvoomGuard.Lib.JsonGrammar
import EvoomGuard.Lib.JsonRoundTrip

/-!
`domain/blast_radius.py`: the materialized change set of the blast radius, its canonical form and
its bytes. A decoded string is a list of code points, a lone surrogate among them; what survives
the encoding to UTF-8 is a text.
-/

namespace EvoomGuard.Domain.BlastRadius

open Lib Lib.Checks Lib.Framing Lib.JsonGrammar

inductive Number where
  | int (value : Int)
  | float (value : Rat)
  deriving DecidableEq

abbrev Value := Doc Number

/-- What the interpreter and its Unicode database supply. -/
structure UnicodeHost where
  mapping : CaseMapping
  normalizeNfc : Text → Text
  category : Char → Text
  /-- `repr`, where it does not raise: an integer may have too many digits for it. -/
  repr : Value → Option Text

inductive Raised where
  | contract (message : Text)
  | unicodeEncode
  | repr
  deriving DecidableEq

def contractError (message : Text) : Raised :=
  .contract ("blast-radius V2 contract: " ++ message)

def maxMaterializedChanges : Nat := 10000

def maxMaterializedPathBytes : Nat := 4096

def maxMaterializedCounter : Nat := 2 ^ 63 - 1

/-- `value.encode("utf-8")` decoded again: nothing where a code point is a surrogate. -/
def scalarText : Letters → Option Text
  | [] => some []
  | code :: rest =>
    if code.isValidChar then (scalarText rest).map (Char.ofNat code :: ·) else none

def codePoints (text : Text) : Letters := text.map Char.toNat

def validateCounter (value : Value) (field : String) : Except Raised Nat :=
  match value with
  | .number (.int counter) =>
    if counter < 0 ∨ (maxMaterializedCounter : Int) < counter then
      .error (contractError (field.toList ++ " must be between 0 and 9223372036854775807"))
    else .ok counter.toNat
  | _ => .error (contractError (field.toList ++ " must be an integer"))

section Validation

variable (host : UnicodeHost)

def checkPath (field : String) (path : Text) : Except Raised Unit := do
  refuse (maxMaterializedPathBytes < (utf8 path).length)
    (contractError (field.toList ++ " exceeds the UTF-8 byte limit"))
  refuse (host.normalizeNfc path ≠ path)
    (contractError (field.toList ++ " must use NFC Unicode normalization"))
  refuse (Harness.isPortableRepoPath host.mapping path = false)
    (contractError (field.toList ++
      " must be one portable, normalized, repository-relative path"))
  refuse ((path.any fun character =>
      ["Cc".toList, "Cf".toList, "Cs".toList].contains (host.category character)) = true)
    (contractError (field.toList ++ " cannot contain control or format characters"))
  refuse (((Text.split '/' path).any fun segment =>
      host.mapping.casefold segment == ".git") = true)
    (contractError (field.toList ++ " cannot address Git administrative paths"))

def validatePath (value : Value) (field : String) : Except Raised (Option Text) :=
  match value with
  | .null => .ok none
  | .string codes =>
    match scalarText codes with
    | none => .error .unicodeEncode
    | some path => do
        checkPath host field path
        return some path
  | _ => .error (contractError (field.toList ++ " must be a string or null"))

end Validation

inductive Operation where
  | add
  | modify
  | delete
  | rename
  | copy
  | mode
  deriving DecidableEq

def Operation.all : List Operation := [.add, .modify, .delete, .rename, .copy, .mode]

def Operation.name : Operation → String
  | .add => "add"
  | .modify => "modify"
  | .delete => "delete"
  | .rename => "rename"
  | .copy => "copy"
  | .mode => "mode"

/-- `MaterializedChangeV2`. -/
structure Change where
  operation : Operation
  oldPath : Option Text
  newPath : Option Text
  linesAdded : Nat
  linesRemoved : Nat
  binary : Bool
  deriving DecidableEq

section Semantics

variable (change : Change)

def validateAdd : Except Raised Unit :=
  refuse (change.oldPath ≠ none ∨ change.newPath = none ∨ change.linesRemoved ≠ 0)
    (contractError "add requires old_path=null, one new_path, and lines_removed=0")

def validateDelete : Except Raised Unit :=
  refuse (change.oldPath = none ∨ change.newPath ≠ none ∨ change.linesAdded ≠ 0)
    (contractError "delete requires one old_path, new_path=null, and lines_added=0")

def validateSamePath : Except Raised Unit :=
  refuse (change.oldPath = none ∨ change.newPath = none ∨ change.oldPath ≠ change.newPath)
    (contractError (change.operation.name.toList ++
      " requires identical non-null old_path and new_path"))

def validateModify : Except Raised Unit := do
  validateSamePath change
  refuse (change.binary = false ∧ change.linesAdded = change.linesRemoved ∧
      change.linesRemoved = 0)
    (contractError "a zero-line text modify must be represented as mode")

def validateMode : Except Raised Unit := do
  validateSamePath change
  refuse (change.linesAdded ≠ 0 ∨ change.linesRemoved ≠ 0)
    (contractError "mode requires zero line counters")

def validateDistinctPaths : Except Raised Unit :=
  refuse (change.oldPath = none ∨ change.newPath = none ∨ change.oldPath = change.newPath)
    (contractError (change.operation.name.toList ++
      " requires distinct non-null old_path and new_path"))

def validateRename : Except Raised Unit := validateDistinctPaths change

def validateCopy : Except Raised Unit := do
  validateDistinctPaths change
  refuse (change.linesRemoved ≠ 0) (contractError "copy requires lines_removed=0")

def validateOperation : Except Raised Unit :=
  match change.operation with
  | .add => validateAdd change
  | .modify => validateModify change
  | .delete => validateDelete change
  | .rename => validateRename change
  | .copy => validateCopy change
  | .mode => validateMode change

def validateChangeSemantics : Except Raised Unit := do
  validateOperation change
  refuse (change.binary = true ∧ (change.linesAdded ≠ 0 ∨ change.linesRemoved ≠ 0))
    (contractError "binary changes require zero line counters")

/-- The paths a change affects; the source of a copy stays as it is. -/
def Change.affectedPaths : List Text :=
  match change.operation with
  | .add => change.newPath.toList
  | .delete => change.oldPath.toList
  | .rename => change.oldPath.toList ++ change.newPath.toList
  | _ => change.newPath.toList

end Semantics

/-- `set(raw) == keys` for the keys of an object. -/
def hasKeys (members : List (Letters × Value)) (keys : List String) : Bool :=
  (members.all fun member => (keys.map letters).contains member.1) &&
    keys.all fun key => (members.map Prod.fst).contains (letters key)

def changeKeys : List String :=
  ["operation", "old_path", "new_path", "lines_added", "lines_removed", "binary"]

def rootKeys : List String := ["format", "changes"]

def member (members : List (Letters × Value)) (key : String) : Value :=
  (members.lookup (letters key)).getD .null

def operationOf : Value → Option Operation
  | .string codes => Operation.all.find? fun operation => letters operation.name = codes
  | _ => none

def validateBinary : Value → Except Raised Bool
  | .bool binary => .ok binary
  | _ => .error (contractError "binary must be a boolean")

section Host

variable (host : UnicodeHost)

def validateOperationName (value : Value) : Except Raised Operation :=
  match operationOf value with
  | some operation => .ok operation
  | none =>
    match host.repr value with
    | some text => .error (contractError ("unsupported operation: " ++ text))
    | none => .error .repr

/-- `MaterializedChangeV2.from_dict` with the checks of the constructor. -/
def Change.fromDict (value : Value) : Except Raised Change :=
  match value with
  | .object raw => do
      refuse (hasKeys raw changeKeys = false)
        (contractError ("each changes entry must contain exactly: binary, lines_added, " ++
          "lines_removed, new_path, old_path, operation").toList)
      let operation ← validateOperationName host (member raw "operation")
      let oldPath ← validatePath host (member raw "old_path") "old_path"
      let newPath ← validatePath host (member raw "new_path") "new_path"
      let linesAdded ← validateCounter (member raw "lines_added") "lines_added"
      let linesRemoved ← validateCounter (member raw "lines_removed") "lines_removed"
      let binary ← validateBinary (member raw "binary")
      let change : Change := ⟨operation, oldPath, newPath, linesAdded, linesRemoved, binary⟩
      validateChangeSemantics change
      return change
  | _ => .error (contractError "each changes entry must be an object")

def changesFromList : List Value → Except Raised (List Change)
  | [] => .ok []
  | item :: rest => do
      let change ← Change.fromDict host item
      let changes ← changesFromList rest
      return change :: changes

/-- `_change_sort_key`, with every component as code points or as one number. -/
def changeSortKey (change : Change) : List Letters :=
  [codePoints (host.mapping.casefold (change.affectedPaths.head?.getD [])),
    letters change.operation.name, codePoints (change.oldPath.getD []),
    codePoints (change.newPath.getD []), [change.linesAdded], [change.linesRemoved],
    [change.binary.toNat]]

def keyLe : List Letters → List Letters → Bool :=
  lexLe (lexLe fun left right : Nat => decide (left ≤ right))

/-- `MaterializedChangeSetV2`, whose format is a constant. -/
structure ChangeSet where
  changes : List Change
  deriving DecidableEq

def foldedPaths (changes : List Change) : List Text :=
  (changes.flatMap Change.affectedPaths).map host.mapping.casefold

/-- The constructor. -/
def ChangeSet.make (changes : List Change) : Except Raised ChangeSet := do
  refuse (maxMaterializedChanges < changes.length)
    (contractError "changes exceeds the entry limit")
  let canonical := sortOn keyLe (changeSortKey host) changes
  refuse ((foldedPaths host canonical).dedup.length ≠ (foldedPaths host canonical).length)
    (contractError "affected paths must be unique without cross-platform case collisions")
  refuse (maxMaterializedCounter < (canonical.map Change.linesAdded).sum)
    (contractError "aggregate lines_added exceeds the counter limit")
  refuse (maxMaterializedCounter < (canonical.map Change.linesRemoved).sum)
    (contractError "aggregate lines_removed exceeds the counter limit")
  return ⟨canonical⟩

def formatName : String := "EVOGUARD_BLAST_RADIUS_V2"

def isFormat : Value → Bool
  | .string codes => codes == letters formatName
  | _ => false

def ChangeSet.fromDict (value : Value) : Except Raised ChangeSet :=
  match value with
  | .object raw => do
      refuse (hasKeys raw rootKeys = false)
        (contractError "input must contain exactly format and changes")
      refuse (isFormat (member raw "format") = false)
        (contractError ("format must be '" ++ formatName.toList ++ ['\'']))
      match member raw "changes" with
      | .array items => do
          let changes ← changesFromList host items
          ChangeSet.make host changes
      | _ => .error (contractError "changes must be an array")
  | _ => .error (contractError
      "input must be a V2 object, not raw diff text or another representation")

end Host

def pathJson : Option Text → Json
  | none => .null
  | some path => .string path

def Change.asDict (change : Change) : Json :=
  .object [("operation", .string change.operation.name.toList),
    ("old_path", pathJson change.oldPath), ("new_path", pathJson change.newPath),
    ("lines_added", .int change.linesAdded),
    ("lines_removed", .int change.linesRemoved), ("binary", .bool change.binary)]

def ChangeSet.asDict (set : ChangeSet) : Json :=
  .object [("format", .string formatName.toList),
    ("changes", .array (set.changes.map Change.asDict))]

/-- `canonical_materialized_change_v2_bytes`. -/
def canonicalBytes (host : UnicodeHost) (floatText : Rat → Text) (value : Value) :
    Except Raised Bytes := do
  let checked ← ChangeSet.fromDict host value
  return utf8 (JsonCodec.dumps false floatText checked.asDict)

mutual

def valueOf : Json → Value
  | .null => .null
  | .bool flag => .bool flag
  | .int number => .number (.int number)
  | .float number => .number (.float number)
  | .string text => .string (codePoints text)
  | .array items => .array (valuesOf items)
  | .object fields => .object (membersOf fields)

def valuesOf : List Json → List Value
  | [] => []
  | item :: rest => valueOf item :: valuesOf rest

def membersOf : List (Text × Json) → List (Letters × Value)
  | [] => []
  | (key, value) :: rest => (codePoints key, valueOf value) :: membersOf rest

end

end EvoomGuard.Domain.BlastRadius
