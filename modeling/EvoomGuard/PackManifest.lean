import EvoomGuard.Lib.FileTree
import EvoomGuard.Lib.Framing
import EvoomGuard.Lib.Json
import EvoomGuard.Lib.Listing
import EvoomGuard.Lib.Sha256

/-!
The verifier-pack contract of `pack_manifest.py` on a pack that does not change while it is
read: the inventory, its digest and the optional manifest. Unreadable entries are not modelled;
the JSON decoder and the representation of a path in an error text are parameters.
-/

namespace EvoomGuard.PackManifest

open Lib Lib.Framing

def packRequired : List Text := ["id", "version"]

def packOptional : List Text := ["description", "target_type", "protocol"]

def packKeys : List Text := packRequired ++ packOptional

def packDigestFormat : Text := "EVOGUARD_PACK_V2"

def maxPackFileBytes : Nat := 8 * 1024 * 1024

def maxPackBytes : Nat := 32 * 1024 * 1024

def maxPackManifestBytes : Nat := 64 * 1024

def maxPackEntries : Nat := 10000

inductive PackManifestError where
  | linkedDirectory (rel : Text)
  | linkedFile (rel : Text)
  | fileTooLarge (rel : Text)
  | packTooLarge
  | tooManyEntries
  | noTestFiles
  | manifestNotRegular
  | manifestTooLarge
  | manifestUnreadable (problem : Text)
  | manifestInvalid (problems : List Text)

def PackManifestError.text (quoted : Text → Text) (packDir : Text) : PackManifestError → Text
  | .linkedDirectory rel =>
    "verifier pack contains a symlinked or special directory: " ++ quoted rel
  | .linkedFile rel => "verifier pack contains a symlink or special file: " ++ quoted rel
  | .fileTooLarge rel => "verifier pack file exceeds the " ++
      Nat.toDigits 10 maxPackFileBytes ++ "-byte limit: " ++ quoted rel
  | .packTooLarge => "verifier pack exceeds the " ++ Nat.toDigits 10 maxPackBytes ++
      "-byte total limit"
  | .tooManyEntries => "verifier pack exceeds the " ++ Nat.toDigits 10 maxPackEntries ++
      "-entry limit"
  | .noTestFiles => "verifier pack contains no pytest test files (test_*.py)"
  | .manifestNotRegular => "pack.json exists but is not a regular file"
  | .manifestTooLarge => "pack.json exceeds the " ++
      Nat.toDigits 10 maxPackManifestBytes ++ "-byte limit"
  | .manifestUnreadable problem => "pack.json in " ++ quoted packDir ++
      " is not readable JSON (" ++ problem ++ (") — fix it " ++
        "or remove it (a plain folder of tests is a valid pack); check with " ++
        "`evo-guard pack-doctor`").toList
  | .manifestInvalid problems => "pack.json in " ++ quoted packDir ++
      " is invalid: " ++ Text.join "; " problems ++
      (" — a manifest names a versioned behaviour contract; check with " ++
        "`evo-guard pack-doctor`").toList

section

variable (quoted : Text → Text)

def isText : Option Json → Bool
  | some (.string _) => true
  | _ => false

def isFilledText : Option Json → Bool
  | some (.string value) => !(Text.strip value).isEmpty
  | _ => false

def manifestProblems : Json → List Text
  | .object fields =>
    (packRequired.filter fun key => !isFilledText (Json.field? fields key)).map
      (fun key => "pack.json missing required string field " ++ quoted key) ++
    (packOptional.filter fun key => (Json.field? fields key).isSome &&
      !isText (Json.field? fields key)).map
      (fun key => "pack.json field " ++ quoted key ++ " must be a string") ++
    (let unknown := Text.sortedSet ((fields.map Prod.fst).filter fun key =>
        !packKeys.contains key)
      if unknown.isEmpty then []
      else ["pack.json has unknown field(s): " ++ Text.join ", " unknown ++
        " (accepted: " ++ Text.join ", " packKeys ++ [')']])
  | _ => ["pack.json must be a JSON object"]

/-- The canonical record every judge places in its attestation. -/
def extractManifest : Json → List (Text × Json)
  | .object fields => packKeys.filterMap fun key =>
    (Json.field? fields key).map fun value => (key, value)
  | _ => []

end

def isDirectoryNode (node : Node) : Bool := node == .directory

/-- A pack on disk. `linkedDirectory` says which links lead to a directory. -/
structure Pack where
  listing : Listing Text isDirectoryNode
  linkedDirectory : List Text → Bool
  slashFree : ∀ path name, (listing.entry (path ++ [name])).isSome = true → '/' ∉ name

namespace Pack

variable (pack : Pack)

def looksLikeDirectory (path : List Text) : Bool :=
  match pack.listing.entry path with
  | some .directory => true
  | some (.symlink _) => pack.linkedDirectory path
  | _ => false

/-- A pack given by its entries, without links. -/
def ofEntries (entries : List (List Text × Node)) (distinct : (entries.map Prod.fst).Nodup)
    (root : (Listing.entryIn entries []).any isDirectoryNode = true)
    (parent : ∀ item ∈ entries, item.1 ≠ [] →
      (Listing.entryIn entries item.1.dropLast).any isDirectoryNode = true)
    (free : ∀ item ∈ entries, ∀ name ∈ item.1, '/' ∉ name) : Pack where
  listing := Listing.ofEntries entries distinct root parent
  linkedDirectory := fun _ => false
  slashFree := by
    intro path name present
    have inside := (Listing.entry_in_is_some entries _).mp present
    rcases List.mem_map.mp inside with ⟨item, found, same⟩
    exact free item found name (by simp [same])

end Pack

def relativePackPath (path : List Text) : Text := Text.join ['/'] path

/-- What the walk finds: a name listed as a directory, or any other one with its content, which
only a regular file has. -/
inductive PackEvent where
  | directory (rel : Text) (real : Bool)
  | file (rel : Text) (data : Option ByteArray)

def fileData : Option Node → Option ByteArray
  | some (.file _ data) => some data
  | _ => none

def visitEvents (pack : Pack) (visit : Visit Text) : List PackEvent :=
  visit.dirnames.map (fun name => .directory (relativePackPath (visit.path ++ [name]))
    (pack.listing.isDirectory (visit.path ++ [name]))) ++
  (Text.sorted visit.filenames).map (fun name => .file (relativePackPath (visit.path ++ [name]))
    (fileData (pack.listing.entry (visit.path ++ [name]))))

def packWalk (pack : Pack) : List (Visit Text) :=
  pack.listing.walk pack.looksLikeDirectory fun _ names => Text.sorted names

structure Inventory where
  directories : List Text := []
  files : List (Text × ByteArray) := []
  totalBytes : Nat := 0

def requirePackEntryCount (inventory : Inventory) : Except PackManifestError Inventory :=
  if maxPackEntries < inventory.directories.length + inventory.files.length then
    .error .tooManyEntries
  else .ok inventory

def inventoryStep (inventory : Inventory) : PackEvent → Except PackManifestError Inventory
  | .directory rel false => .error (.linkedDirectory rel)
  | .directory rel true =>
    requirePackEntryCount { inventory with directories := inventory.directories ++ [rel] }
  | .file rel none => .error (.linkedFile rel)
  | .file rel (some data) =>
    if maxPackFileBytes < data.size then .error (.fileTooLarge rel)
    else if maxPackBytes < inventory.totalBytes + data.size then .error .packTooLarge
    else
      requirePackEntryCount
        { inventory with
          files := inventory.files ++ [(rel, data)]
          totalBytes := inventory.totalBytes + data.size }

def inventoryFrom (inventory : Inventory) :
    List PackEvent → Except PackManifestError Inventory
  | [] => .ok inventory
  | event :: rest =>
    match inventoryStep inventory event with
    | .error problem => .error problem
    | .ok next => inventoryFrom next rest

/-- The directories and the regular files of a pack, in the order of the walk. -/
def packInventory (pack : Pack) : Except PackManifestError Inventory :=
  inventoryFrom {} ((packWalk pack).flatMap (visitEvents pack))

def dataBytes (data : ByteArray) : Bytes := data.data.toList

def packHeader : Bytes := utf8 packDigestFormat ++ [0]

def framedPath (kind : Bytes) (rel : Text) : Bytes := kind ++ blob (utf8 rel)

def directoryRecord (rel : Text) : Bytes := framedPath (utf8 ['D']) rel

def fileRecord (file : Text × ByteArray) : Bytes :=
  framedPath (utf8 ['F']) file.1 ++ (u64 file.2.size ++ dataBytes file.2)

/-- The limits are checked once more while the files are hashed. -/
def hashPackFiles (total : Nat) : List (Text × ByteArray) → Except PackManifestError Bytes
  | [] => .ok []
  | file :: rest =>
    if maxPackFileBytes < file.2.size then .error (.fileTooLarge file.1)
    else if maxPackBytes < total + file.2.size then .error .packTooLarge
    else
      match hashPackFiles (total + file.2.size) rest with
      | .error problem => .error problem
      | .ok later => .ok (fileRecord file ++ later)

def inventoryBytes (directories : List Text) (files : List (Text × ByteArray)) :
    Except PackManifestError Bytes :=
  match hashPackFiles 0 files with
  | .error problem => .error problem
  | .ok hashed => .ok (packHeader ++ (records directoryRecord directories ++ hashed))

def isPackTest (rel : Text) : Bool :=
  Text.startsWith (Text.lastSegment rel) "test_" && Text.endsWith rel ".py"

section Identity

variable (quoted : Text → Text) (decode : ByteArray → Except Text Json)

def checkedManifest (decoded : Except Text Json) :
    Except PackManifestError (Option (List (Text × Json))) :=
  match decoded with
  | .error problem => .error (.manifestUnreadable problem)
  | .ok manifest =>
    if (manifestProblems quoted manifest).isEmpty then .ok (some (extractManifest manifest))
    else .error (.manifestInvalid (manifestProblems quoted manifest))

def loadPackManifest (pack : Pack) : Except PackManifestError (Option (List (Text × Json))) :=
  match pack.listing.entry ["pack.json"] with
  | none => .ok none
  | some (.file _ data) =>
    if maxPackManifestBytes < data.size then .error .manifestTooLarge
    else checkedManifest quoted (decode data)
  | some _ => .error .manifestNotRegular

/-- The identity pair recorded by every judge, over the bytes its digest hashes. -/
def digestedBytesAndManifest (pack : Pack) :
    Except PackManifestError (Bytes × Option (List (Text × Json))) :=
  match packInventory pack with
  | .error problem => .error problem
  | .ok inventory =>
    if !inventory.files.any (fun file => isPackTest file.1) then .error .noTestFiles
    else
      match inventoryBytes inventory.directories inventory.files with
      | .error problem => .error problem
      | .ok bytes =>
        match loadPackManifest quoted decode pack with
        | .error problem => .error problem
        | .ok manifest => .ok (bytes, manifest)

def digestAndManifest (pack : Pack) :
    Except PackManifestError (Text × Option (List (Text × Json))) :=
  (digestedBytesAndManifest quoted decode pack).map fun found =>
    (Sha256.hexdigestBytes found.1, found.2)

/-- Copy, verify, and identify the exact snapshot a judge will execute; `copied` is what the copy
of the directory left. -/
def snapshotPack (packDir destination : Text) (pack : Pack) (copied : Except Text Pack) :
    Except Text (Text × Option (List (Text × Json))) :=
  match digestAndManifest quoted decode pack with
  | .error problem => .error (problem.text quoted packDir)
  | .ok identity =>
    match copied with
    | .error problem => .error ("verifier pack could not be snapshotted: " ++ problem)
    | .ok copy =>
      match digestAndManifest quoted decode copy with
      | .error problem => .error (problem.text quoted destination)
      | .ok again =>
        if identity ≠ again then
          .error "verifier pack changed while it was being snapshotted"
        else .ok again

theorem snapshot_pack_ok (packDir destination : Text) (pack : Pack) (copied : Except Text Pack)
    (identity : Text × Option (List (Text × Json)))
    (taken : snapshotPack quoted decode packDir destination pack copied = .ok identity) :
    digestAndManifest quoted decode pack = .ok identity := by
  unfold snapshotPack at taken
  split at taken
  · cases taken
  · rename_i found identified
    split at taken
    · cases taken
    · split at taken
      · cases taken
      · split_ifs at taken with same
        cases taken
        rw [identified, not_not.mp same]

end Identity

end EvoomGuard.PackManifest
