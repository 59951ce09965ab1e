import EvoomGuard.Lib.Framing
import EvoomGuard.Lib.HostPath

/-!
The publication of one text file by `integrations/guard_output.py`: the checks of the destination,
the staged write and its clean-up, on a host on which every operation may raise. Nobody else
changes the directory, and `os.replace` happens or does not happen.
-/

namespace EvoomGuard.Integrations.GuardOutput

open Lib Lib.Framing

/-- What a publication does, in the order of a run that raises nothing; the last two are those of
the clean-up. -/
inductive Operation where
  | validatePath
  | abspath
  | validateAbsolute
  | mkstemp
  | fdopen
  | writer
  | flush
  | fsync
  | closeStream
  | closeDescriptor
  | validateCurrent
  | chmod
  | replace
  | cleanupClose
  | unlink
  deriving DecidableEq

/-- An exception. The `FileNotFoundError` of an absent leaf is not among them. -/
inductive Error where
  | os (text : Text)
  | destination (code message : Text)
  | other (text : Text)
  deriving DecidableEq

namespace Error

def isOs : Error → Bool
  | .os _ => true
  | _ => false

/-- `str` of the exception. -/
def text : Error → Text
  | .os text => text
  | .destination code message => code ++ ": " ++ message
  | .other text => text

end Error

/-- An exception with the operation it comes from. -/
structure Failure where
  operation : Operation
  error : Error
  deriving DecidableEq

structure Raised where
  failure : Failure
  notes : List Text

/-- What a name in a directory leads to, with its mode. -/
inductive Leaf where
  | regular (mode : Nat) (content : Bytes)
  | other (mode : Nat)

/-- The host: where a path leads when a link at its end is not followed, the name that `mkstemp`
makes up in a directory, what each operation raises, and how much of its buffer a stream passes on
when a flush or a close raises. -/
structure OutputHost (Place : Type*) where
  platform : Platform
  casefold : Text → Text
  upper : Text → Text
  linesep : Text
  hasNotes : Bool
  abspath : Text → Text
  tempName : Text → Text
  place : Text → Place
  raises : Operation → Option Error
  passes : Operation → Nat

/-- The leaves, what the stream still holds back, and what has been called, in order and with what
it raised. -/
structure World (Place : Type*) where
  leaves : Place → Option Leaf
  pending : Bytes
  calls : List (Operation × Option Error)

def World.start {Place : Type*} (leaves : Place → Option Leaf) : World Place := ⟨leaves, [], []⟩

def hasAsciiDrivePrefix (value : Text) : Bool :=
  value[1]? == some ':' && value[0]?.any fun letter =>
    ('A' ≤ letter && letter ≤ 'Z') || ('a' ≤ letter && letter ≤ 'z')

section Destination

variable {Place : Type*} (host : OutputHost Place)

def reservedStem (stem : Text) : Bool :=
  ["CON".toList, "PRN".toList, "AUX".toList, "NUL".toList, "COM".toList, "LPT".toList].contains
      stem ||
    stem.length == 4 && ["COM".toList, "LPT".toList].contains (stem.take 3) &&
      stem[3]?.any "123456789".toList.contains

def componentError (index : Nat) (component : Text) : Option (Text × Text) :=
  if index = 0 ∧ component.length = 2 ∧ hasAsciiDrivePrefix component = true then none
  else if ':' ∈ component then
    some ("windows_namespace",
      "Windows alternate streams and device namespaces are not output paths")
  else
    let canonical := Text.rstripWhile [' ', '.'].contains component
    if reservedStem (host.upper ((Text.split '.' canonical).headD [])) then
      some ("windows_reserved_name",
        "Windows reserved device names are not output paths")
    else none

def windowsDestinationError (path : Text) : Option (Text × Text) :=
  let normalized := path.map fun character => if character = '\\' then '/' else character
  let lowered := host.casefold normalized
  if ["//?/".toList, "//./".toList, "/??/".toList, "//?/globalroot/".toList].any
      (Text.startsWith lowered) then
    some ("windows_namespace".toList,
      "Windows device and extended-length namespaces are not output paths".toList)
  else
    ((Text.split '/' normalized).filter (· ≠ [])).zipIdx.findSome? fun item =>
      componentError host item.2 item.1

def permissionBits : Option Leaf → Option Nat
  | some (.regular mode _) => some (mode &&& 0o777)
  | _ => none

/-- The portable mode bits of what is there, if a publication may replace it. -/
def replaceableMode : Option Leaf → Except Error (Option Nat)
  | none => .ok none
  | some (.other _) => .error (.destination "non_regular"
      "an existing output destination must be a regular file")
  | some (.regular mode _) =>
    if mode &&& 0o777 &&& 0o222 = 0 then
      .error (.destination "read_only"
        "an existing output destination has no write mode bit")
    else .ok (some (mode &&& 0o777))

/-- The checks of a destination; `lookup` is what `lstat` raises. -/
def checkDestination (leaves : Place → Option Leaf) (lookup : Option Error) (path : Text) :
    Except Error (Option Nat) :=
  match if host.platform = .nt then windowsDestinationError host path else none with
  | some refused => .error (.destination refused.1 refused.2)
  | none =>
    match lookup with
    | some error => .error error
    | none => replaceableMode (leaves (host.place path))

end Destination

section

variable {Place : Type*} [DecidableEq Place] (host : OutputHost Place)

namespace World

def record (world : World Place) (operation : Operation) (error : Option Error) : World Place :=
  { world with calls := world.calls ++ [(operation, error)] }

def put (world : World Place) (place : Place) (leaf : Option Leaf) : World Place :=
  { world with leaves := Function.update world.leaves place leaf }

end World

/-- One operation that raises the error or has its effect; what it does before it raises is
`broken`. -/
def attempt (operation : Operation) (error : Option Error) (done broken : World Place → World Place)
    (world : World Place) : Option Failure × World Place :=
  match error with
  | none => (none, (done world).record operation none)
  | some error => (some ⟨operation, error⟩, (broken world).record operation (some error))

def validateOutputDestination (operation : Operation) (path : Text) (world : World Place) :
    Except Failure (Option Nat) × World Place :=
  match checkDestination host world.leaves (host.raises operation) path with
  | .ok mode => (.ok mode, world.record operation none)
  | .error error => (.error ⟨operation, error⟩, world.record operation (some error))

/-- UTF-8, with the line separator of the host for each newline. -/
def encode (text : Text) : Bytes :=
  utf8 (text.flatMap fun character => if character = '\n' then host.linesep else [character])

def Leaf.edit (change : Bytes → Bytes) : Leaf → Leaf
  | .regular mode content => .regular mode (change content)
  | .other mode => .other mode

def Leaf.chmod (mode : Nat) : Leaf → Leaf
  | .regular _ content => .regular mode content
  | .other _ => .other mode

namespace World

def edit (world : World Place) (place : Place) (change : Bytes → Bytes) : World Place :=
  world.put place ((world.leaves place).map (Leaf.edit change))

/-- The stream passes on the first bytes that it holds back. -/
def pass (world : World Place) (temp : Place) (count : Nat) : World Place :=
  { world.edit temp (· ++ world.pending.take count) with pending := world.pending.drop count }

def passAll (world : World Place) (temp : Place) : World Place :=
  world.pass temp world.pending.length

end World

/-- What happens to the stream while the writer has it: a text is written, the buffer passes some of
it on, or, after a flush, the writer seeks, overwrites or truncates. -/
inductive WriterStep where
  | write (text : Text)
  | pass (count : Nat)
  | change (edit : Bytes → Bytes)

structure Writer where
  steps : List WriterStep
  raises : Option Error

def runStep (temp : Place) (world : World Place) : WriterStep → World Place
  | .write text => { world with pending := world.pending ++ encode host text }
  | .pass count => world.pass temp count
  | .change edit => (world.passAll temp).edit temp edit

def runSteps (temp : Place) (steps : List WriterStep) (world : World Place) : World Place :=
  steps.foldl (runStep host temp) world

/-- The content of a stream without a buffer. -/
def writtenStep (content : Bytes) : WriterStep → Bytes
  | .write text => content ++ encode host text
  | .pass _ => content
  | .change edit => edit content

/-- The whole text that a writer writes. -/
def written (writer : Writer) : Bytes := writer.steps.foldl (writtenStep host) []

def addExceptionNote (primary : Raised) (note : Text) : Raised :=
  if host.hasNotes then { primary with notes := primary.notes ++ [note] } else primary

def preservePrimary (primary : Option Raised) (secondary : Option Failure) (label : Text) :
    Option Raised :=
  match primary, secondary with
  | primary, none => primary
  | none, some failure => some ⟨failure, []⟩
  | some primary, some failure =>
    some (addExceptionNote host primary (label ++ ": " ++ failure.error.text))

/-- The first `try` around the stream. -/
def writeStream (temp : Place) (writer : Writer) (world : World Place) :
    Option Failure × World Place :=
  match attempt .writer writer.raises (runSteps host temp writer.steps)
      (runSteps host temp writer.steps) world with
  | (some failure, world) => (some failure, world)
  | (none, world) =>
    match attempt .flush (host.raises .flush) (·.passAll temp)
        (·.pass temp (host.passes .flush)) world with
    | (some failure, world) => (some failure, world)
    | (none, world) => attempt .fsync (host.raises .fsync) id id world

/-- Stream and descriptor are closed whatever has happened. -/
def closeBoth (temp : Place) (primary : Option Raised) (world : World Place) :
    Option Raised × World Place :=
  match attempt .closeStream (host.raises .closeStream) (·.passAll temp)
      (·.pass temp (host.passes .closeStream)) world with
  | (failure, world) =>
    let primary := preservePrimary host primary failure
      "atomic output stream close failed"
    match attempt .closeDescriptor (host.raises .closeDescriptor) id id world with
    | (failure, world) =>
      (preservePrimary host primary failure
        "atomic output raw descriptor close failed", world)

def applyMode (temp : Place) (mode : Option Nat) (world : World Place) :
    Option Failure × World Place :=
  match mode with
  | none => (none, world)
  | some mode => attempt .chmod (host.raises .chmod)
      (fun world => world.put temp ((world.leaves temp).map (Leaf.chmod mode))) id world

/-- The temporary file takes the destination's place, with the mode of what it replaces. -/
def commit (temp : Place) (destination : Text) (initialMode : Option Nat) (world : World Place) :
    Option Failure × World Place :=
  match validateOutputDestination host .validateCurrent destination world with
  | (.error failure, world) => (some failure, world)
  | (.ok currentMode, world) =>
    match applyMode host temp (currentMode.or initialMode) world with
    | (some failure, world) => (some failure, world)
    | (none, world) => attempt .replace (host.raises .replace)
        (fun world => (world.put (host.place destination) (world.leaves temp)).put temp none) id
        world

/-- What the outer `try` does; an exception comes with whether the descriptor is still open. -/
def publish (temp : Place) (destination : Text) (initialMode : Option Nat) (writer : Writer)
    (world : World Place) : Option (Raised × Bool) × World Place :=
  match attempt .fdopen (host.raises .fdopen) id id world with
  | (some failure, world) => (some (⟨failure, []⟩, true), world)
  | (none, world) =>
    match writeStream host temp writer world with
    | (failure, world) =>
      match closeBoth host temp (failure.map (⟨·, []⟩)) world with
      | (some primary, world) => (some (primary, false), world)
      | (none, world) =>
        match commit host temp destination initialMode world with
        | (failure, world) => (failure.map (⟨⟨·, []⟩, false⟩), world)

/-- The temporary file is removed, and the `OSError`s of the clean-up are noted. -/
def removeTemp (temp : Place) (closing : Option Failure) (primary : Raised) (world : World Place) :
    Raised × World Place :=
  match attempt .unlink (host.raises .unlink) (·.put temp none) id world with
  | (removal, world) =>
    match removal.filter (!·.error.isOs) with
    | some failure => (⟨failure, []⟩, world)
    | none =>
      ((closing.toList ++ removal.toList).foldl (fun primary failure =>
        addExceptionNote host primary
          ("atomic output cleanup failed: " ++ failure.error.text)) primary, world)

/-- What is no `OSError` leaves the clean-up at once, in place of the primary exception. -/
def cleanupAtomicTemp (opened : Bool) (temp : Place) (primary : Raised) (world : World Place) :
    Raised × World Place :=
  match if opened then attempt .cleanupClose (host.raises .cleanupClose) id id world
    else (none, world) with
  | (closing, world) =>
    match closing.filter (!·.error.isOs) with
    | some failure => (⟨failure, []⟩, world)
    | none => removeTemp host temp closing primary world

/-- The leaf that `mkstemp` makes beside the destination of a path. -/
def tempPlace (path : Text) : Place :=
  host.place (host.tempName (host.platform.dirname (host.abspath path)))

def validateAbsolutePath (path : Text) (initialMode : Option Nat) (world : World Place) :
    Except Failure (Option Nat) × World Place :=
  if host.abspath path = path then (.ok initialMode, world)
  else
    match validateOutputDestination host .validateAbsolute (host.abspath path) world with
    | (.error failure, world) => (.error failure, world)
    | (.ok absoluteMode, world) => (.ok (initialMode.or absoluteMode), world)

/-- What is done before the outer `try`: the checks, and the empty temporary file. -/
def stage (path : Text) (world : World Place) : Except Failure (Option Nat) × World Place :=
  match validateOutputDestination host .validatePath path world with
  | (.error failure, world) => (.error failure, world)
  | (.ok initialMode, world) =>
    match attempt .abspath (host.raises .abspath) id id world with
    | (some failure, world) => (.error failure, world)
    | (none, world) =>
      match validateAbsolutePath host path initialMode world with
      | (.error failure, world) => (.error failure, world)
      | (.ok initialMode, world) =>
        match attempt .mkstemp (host.raises .mkstemp)
            (·.put (tempPlace host path) (some (.regular 0o600 []))) id world with
        | (some failure, world) => (.error failure, world)
        | (none, world) => (.ok initialMode, world)

def atomicWrite (path : Text) (writer : Writer) (world : World Place) :
    Except Raised Unit × World Place :=
  match stage host path world with
  | (.error failure, world) => (.error ⟨failure, []⟩, world)
  | (.ok initialMode, world) =>
    match publish host (tempPlace host path) (host.abspath path) initialMode writer world with
    | (none, world) => (.ok (), world)
    | (some (primary, opened), world) =>
      match cleanupAtomicTemp host opened (tempPlace host path) primary world with
      | (raised, world) => (.error raised, world)

end

end EvoomGuard.Integrations.GuardOutput
