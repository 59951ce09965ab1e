import EvoomGuard.Lib.PathOrder
import EvoomGuard.PackManifest
import EvoomGuard.Verifiers.HarnessPolicy

/-!
The raw-Git side of `finalizer_derivation.py`: the listing of a tree, its blobs, and the
identity of a verifier pack inside it. What Git answers is given as the rows of a recursive
listing and the content of each object; errors are the texts that are raised.
-/

namespace EvoomGuard.Finalizer

open Lib Lib.Framing PackManifest Verifiers

/-- One raw Git tree entry. Git trees have no explicit directory entries. -/
structure GitEntry where
  mode : Text
  objectType : Text
  objectId : Text
  deriving DecidableEq

def GitEntry.regular (entry : GitEntry) : Bool :=
  ["100644".toList, "100755".toList].contains entry.mode && entry.objectType == "blob".toList

def maxGitTreeEntries : Nat := 100000

/-- What the reader is told: the rows of `ls-tree -rz` and the content of an object. -/
structure GitReader where
  rows : List (Text × GitEntry)
  content : Text → ByteArray

section Reader

variable (mapping : CaseMapping) (quoted : Text → Text)

def readRows (entries : Dict Text GitEntry) :
    List (Text × GitEntry) → Except Text (Dict Text GitEntry)
  | [] => .ok entries
  | (path, entry) :: rest =>
    if !isSafeRelpath mapping path then
      .error ("raw Git tree has unsafe path: " ++ quoted path)
    else if entries.keys.contains path then
      .error ("raw Git tree duplicates path: " ++ quoted path)
    else if maxGitTreeEntries ≤ entries.entries.length then
      .error "raw Git tree exceeds the entry limit"
    else readRows (entries.insert path entry) rest

def GitReader.tree (reader : GitReader) : Except Text (Dict Text GitEntry) :=
  readRows mapping quoted Dict.empty reader.rows

def GitReader.blob (reader : GitReader) (objectId : Text) (maximum : Nat) (label : Text) :
    Except Text ByteArray :=
  if maximum < (reader.content objectId).size then
    .error (label ++ " exceeds the " ++ Nat.toDigits 10 maximum ++
      "-byte finalizer limit")
  else .ok (reader.content objectId)

end Reader

/-- The directories above a path, as texts. -/
def properPrefixes (path : Text) : List Text :=
  let pieces := Text.split '/' path
  (List.range (pieces.length - 1)).map fun index => Text.join ['/'] (pieces.take (index + 1))

theorem mem_proper_prefixes (path : List Text) (proper : path ≠ [])
    (free : ∀ part ∈ path, '/' ∉ part) (text : Text) :
    text ∈ properPrefixes (Text.join ['/'] path) ↔
      ∃ above below, above ≠ [] ∧ below ≠ [] ∧ path = above ++ below ∧
        text = Text.join ['/'] above := by
  rw [properPrefixes, Text.split_join '/' path proper free]
  simp only [List.mem_map, List.mem_range]
  constructor
  · intro found
    rcases found with ⟨index, bound, built⟩
    refine ⟨path.take (index + 1), path.drop (index + 1), ?_, ?_, by simp, built.symm⟩
    · simp [proper]
    · rw [ne_eq, List.drop_eq_nil_iff]
      omega
  · intro found
    rcases found with ⟨above, below, aboveProper, belowProper, joined, built⟩
    have aboveLength := List.length_pos_iff.mpr aboveProper
    have belowLength := List.length_pos_iff.mpr belowProper
    refine ⟨above.length - 1, ?_, ?_⟩
    · rw [joined, List.length_append]
      omega
    · have index : above.length - 1 + 1 = above.length := by omega
      rw [joined, index, List.take_left, built]

section

variable (mapping : CaseMapping) (quoted : Text → Text)
  (decode : ByteArray → Except Text Json)

def parsePackManifest (data : ByteArray) : Except Text (List (Text × Json)) :=
  if maxPackManifestBytes < data.size then
    .error ("raw Git pack.json exceeds the " ++ Nat.toDigits 10 maxPackManifestBytes ++
      "-byte limit")
  else
    match decode data with
    | .error problem => .error ("raw Git pack.json is invalid JSON: " ++ problem)
    | .ok manifest =>
      if (manifestProblems quoted manifest).isEmpty then .ok (extractManifest manifest)
      else .error ("raw Git pack.json is invalid: " ++
        Text.join "; " (manifestProblems quoted manifest))

structure PackFold where
  bytes : Bytes := []
  total : Nat := 0
  manifest : Option (List (Text × Json)) := none
  hasTest : Bool := false

def foldPackFile (reader : GitReader) (state : PackFold) (rel : Text) (entry : GitEntry) :
    Except Text PackFold :=
  match reader.blob entry.objectId maxPackFileBytes ("verifier-pack path " ++ quoted rel) with
  | .error problem => .error problem
  | .ok data =>
    if maxPackBytes < state.total + data.size then
      .error "verifier_pack exceeds the total finalizer limit"
    else
      let next : PackFold :=
        { state with
          bytes := state.bytes ++ fileRecord (rel, data)
          total := state.total + data.size
          hasTest := state.hasTest || isPackTest rel }
      if rel = "pack.json" then
        match parsePackManifest quoted decode data with
        | .error problem => .error problem
        | .ok manifest => .ok { next with manifest := some manifest }
      else .ok next

def foldPackFiles (reader : GitReader) (state : PackFold) :
    List (Text × GitEntry) → Except Text PackFold
  | [] => .ok state
  | (rel, entry) :: rest =>
    match foldPackFile quoted decode reader state rel entry with
    | .error problem => .error problem
    | .ok next => foldPackFiles reader next rest

def packPrefix (packPath : Text) : Text := Text.rstripWhile (· == '/') packPath ++ ['/']

/-- The entries below a directory, under their names in it. -/
def packMembers (packPath : Text) (tree : Dict Text GitEntry) : List (Text × GitEntry) :=
  tree.entries.filterMap fun item =>
    if Text.startsWith item.1 (packPrefix packPath) then
      some (item.1.drop (packPrefix packPath).length, item.2)
    else none

def packDirectories (members : List (Text × GitEntry)) : List Text :=
  Text.sortedSet (members.flatMap fun member => properPrefixes member.1)

def rawPackBytes (reader : GitReader) (packPath : Text) :
    Except Text (Bytes × Option (List (Text × Json))) :=
  if !isSafeRelpath mapping packPath then
    .error "verifier_pack must be a safe relative base-tree path"
  else
    match reader.tree mapping quoted with
    | .error problem => .error problem
    | .ok tree =>
      let members := packMembers packPath tree
      if members.isEmpty then
        .error "verifier_pack is absent from the immutable base tree"
      else if members.any (fun member => member.1.isEmpty || !isSafeRelpath mapping member.1) then
        .error "verifier_pack contains an unsafe raw Git path"
      else if members.any (fun member => !member.2.regular) then
        .error "verifier_pack contains a symlink, submodule, or special path"
      else if maxPackEntries < members.length + (packDirectories members).length then
        .error ("verifier_pack exceeds the " ++ Nat.toDigits 10 maxPackEntries ++
          "-entry limit")
      else
        match foldPackFiles quoted decode reader
            { bytes := packHeader ++ records directoryRecord (packDirectories members) }
            (sortOn Text.le Prod.fst members) with
        | .error problem => .error problem
        | .ok folded =>
          if !folded.hasTest then .error "verifier_pack contains no test_*.py file"
          else .ok (folded.bytes, folded.manifest)

def rawPackIdentity (reader : GitReader) (packPath : Text) :
    Except Text (Text × Option (List (Text × Json))) :=
  (rawPackBytes mapping quoted decode reader packPath).map fun found =>
    (Sha256.hexdigestBytes found.1, found.2)

end

end EvoomGuard.Finalizer
