import EvoomGuard.EvidenceBundle.Primitives

/-!
The stored ZIP archives evidence is kept in. The library that writes and lists an archive is a
parameter; the preflight over the raw bytes and the checks of every member are the repository's.
-/

namespace EvoomGuard.EvidenceBundle

open Lib Lib.Checks Lib.Framing

/-- The fields of `zipfile.ZipInfo` that are written or judged. -/
structure ZipInfo where
  filename : Text
  flagBits : Nat
  compressType : Nat
  extra : Bytes
  comment : Bytes
  createSystem : Nat
  externalAttr : Nat
  dateTime : List Nat
  deriving DecidableEq

/-- A listed member: its declared size, and what opening and reading it gives. -/
structure ZipEntry where
  info : ZipInfo
  fileSize : Nat
  content : FileAnswer

/-- `zipfile`: the archive of some members, and the members of an archive. -/
structure ZipModule where
  write : List (ZipInfo × Bytes) → Bytes
  infolist : Bytes → Except Text (List ZipEntry)

def zipStored : Nat := 0

def zipTimestamp : List Nat := [1980, 1, 1, 0, 0, 0]

def regularFileType : Nat := 0o100000

def memberMode : Nat := 0o644

def maxArchiveMembers : Nat := 35

def maxCentralDirectoryBytes : Nat := 64 * 1024

def maxVerdictBytes : Nat := 8 * 1024 * 1024

def maxArchiveBytes : Nat := 64 * 1024 * 1024 + 1024 * 1024 + 1024 * 1024

def zipInfo (name : Text) : ZipInfo where
  filename := name
  flagBits := 0
  compressType := zipStored
  extra := []
  comment := []
  createSystem := 3
  externalAttr := (regularFileType + memberMode) * 65536
  dateTime := zipTimestamp

def canonicalArchiveBytes (zip : ZipModule) (members : List (Text × Bytes)) : Bytes :=
  zip.write (members.map fun member => (zipInfo member.1, member.2))

/-- `_safe_member_name`: a relative path whose normal form is itself. -/
def safeMemberName (name : Text) : Bool :=
  !name.isEmpty && !name.contains '\\' && !name.contains '\x00' && !name.contains ':' &&
    (Text.split '/' name).all fun part => part != [] && part != ['.'] && part != ['.', '.']

section Members

variable (host : EvidenceHost)

def validateMember (info : ZipInfo) : Except Text Unit := do
  refuse (safeMemberName info.filename = false)
    ("unsafe archive member path: " ++ host.quoted info.filename)
  refuse (info.flagBits ≠ 0)
    ("archive member general-purpose flags must be zero: " ++ info.filename)
  refuse (info.compressType ≠ zipStored)
    ("compressed archive member is not allowed: " ++ info.filename)
  refuse (info.extra ≠ [] ∨ info.comment ≠ [])
    ("archive member metadata must be empty: " ++ info.filename)
  let mode := info.externalAttr / 65536
  refuse (info.createSystem ≠ 3 ∨ mode / 4096 % 16 * 4096 ≠ regularFileType)
    ("archive member is not a canonical regular file: " ++ info.filename)
  refuse (mode % 4096 ≠ memberMode ∨ info.dateTime ≠ zipTimestamp)
    ("archive member metadata is not canonical: " ++ info.filename)

def validateMembers : List ZipEntry → Except Text Unit
  | [] => pure ()
  | entry :: rest => do
      validateMember host entry.info
      validateMembers rest

def readArchiveMember (entry : ZipEntry) (limit : Nat) : Except Text Bytes :=
  if limit < entry.fileSize then
    .error ("archive member exceeds its limit: " ++ entry.info.filename)
  else
    match entry.content with
    | .error problem =>
      .error ("cannot read archive member " ++ entry.info.filename ++ ": " ++
        problem)
    | .ok content =>
      let data := content.take (limit + 1)
      if limit < data.length ∨ data.length ≠ entry.fileSize then
        .error ("archive member size is inconsistent: " ++ entry.info.filename)
      else .ok data

def readMembers : List (ZipEntry × Nat) → Except Text (List Bytes)
  | [] => pure []
  | (entry, limit) :: rest => do
      let data ← readArchiveMember entry limit
      let others ← readMembers rest
      pure (data :: others)

end Members

def littleEndian (bytes : Bytes) : Nat :=
  bytes.foldr (fun byte value => byte.toNat + 256 * value) 0

def slice (bytes : Bytes) (start length : Nat) : Bytes := (bytes.drop start).take length

def localMagic : Bytes := [0x50, 0x4b, 0x03, 0x04]

def centralMagic : Bytes := [0x50, 0x4b, 0x01, 0x02]

def endMagic : Bytes := [0x50, 0x4b, 0x05, 0x06]

/-- `_preflight_zip`: the number of members the end record declares. -/
def preflightZip (snapshot : Bytes) : Except Text Nat := do
  refuse (snapshot.length < 22 ∨ snapshot.take 4 ≠ localMagic)
    "evidence bundle is not a canonical ZIP archive"
  let eocd := snapshot.length - 22
  let number := fun start length => littleEndian (slice snapshot (eocd + start) length)
  refuse (slice snapshot eocd 4 ≠ endMagic ∨ number 20 2 ≠ 0)
    "evidence bundle must end at one comment-free ZIP end record"
  refuse (number 4 2 ≠ 0 ∨ number 6 2 ≠ 0 ∨ number 8 2 ≠ number 10 2)
    "multi-disk evidence bundles are not allowed"
  refuse (number 10 2 = 0 ∨ maxArchiveMembers < number 10 2)
    "evidence bundle has too many archive members"
  refuse (number 16 4 + number 12 4 ≠ eocd)
    ("evidence bundle has a prefix, suffix, ZIP64 marker, or inconsistent " ++
      "directory").toList
  refuse (maxCentralDirectoryBytes < number 12 4)
    "evidence bundle central directory exceeds its size limit"
  refuse (slice snapshot (number 16 4) 4 ≠ centralMagic)
    "evidence bundle central directory is malformed"
  pure (number 10 2)

/-- The members an archive must hold, in order, each with its limit. -/
structure ArchiveLayout where
  members : List (Text × Nat)
  countProblem : Text
  namesProblem : Text

def ArchiveLayout.paths (layout : ArchiveLayout) : List Text := layout.members.map Prod.fst

def ArchiveLayout.limits (layout : ArchiveLayout) : List Nat := layout.members.map Prod.snd

/-- The listing and the reading every inspection of a fixed archive starts with. -/
def ArchiveLayout.read (layout : ArchiveLayout) (host : EvidenceHost) (zip : ZipModule)
    (snapshot : Bytes) : Except Text (List Bytes) := do
  let declared ← preflightZip snapshot
  let entries ← zip.infolist snapshot
  refuse (declared ≠ layout.members.length ∨ entries.length ≠ layout.members.length)
    layout.countProblem
  refuse ((entries.map fun entry => entry.info.filename) ≠ layout.paths) layout.namesProblem
  validateMembers host entries
  readMembers (entries.zip layout.limits)

end EvoomGuard.EvidenceBundle
