import EvoomGuard.Lib.Phase
import EvoomGuard.Lib.Text

/-!
The removal of judge-owned workspaces and of the plain paths beside them. Every call outside may
answer or raise anything; calls are numbered, and the log keeps the removals, the probes for
absence, the repairs and the reports.
-/

namespace EvoomGuard.Workspace.Cleanup

open Lib Lib.Phase

/-- An exception, in what the cleanup reads of it: the name of its type and its text, where these
can be read, the classes it is caught by, and the `filename` of an `OSError` where it is a `str`. -/
structure Raised where
  typeName : Option Text
  rendered : Except (Option Text) Text
  osError : Bool := false
  fileNotFound : Bool := false
  permission : Bool := false
  filename : Option Text := none

/-- `os.stat_result`. -/
structure Stat where
  device : Int
  inode : Int
  mode : Nat
  nlink : Nat
  attributes : Option Nat

def Stat.fileType (observed : Stat) : Nat := observed.mode &&& 0o170000

def Stat.isDirectory (observed : Stat) : Bool := observed.fileType == 0o040000

def Stat.isRegular (observed : Stat) : Bool := observed.fileType == 0o100000

def Stat.isLink (observed : Stat) : Bool := observed.fileType == 0o120000

def windowsReparseObserved (observed : Stat) : Bool :=
  observed.attributes.getD 0 &&& 0x400 != 0

def Stat.readonlyObserved (observed : Stat) : Bool :=
  match observed.attributes with
  | none => observed.mode &&& 0o200 == 0
  | some attributes => attributes &&& 0x1 != 0

structure PathIdentity where
  device : Int
  inode : Int
  fileType : Nat
  deriving DecidableEq

def PathIdentity.capture (observed : Stat) : PathIdentity :=
  ⟨observed.device, observed.inode, observed.fileType⟩

structure OwnedWorkspaceLease where
  rootPath : Text
  rootIdentity : PathIdentity
  parentPath : Text
  parentIdentity : PathIdentity
  platformName : Text

inductive WorkspacePath where
  | plain (path : Text)
  | owned (path : Text) (lease : OwnedWorkspaceLease)

def WorkspacePath.text : WorkspacePath → Text
  | .plain path | .owned path _ => path

/-- The answers to each call, by its number, and the path functions of the platform. -/
structure Host where
  removes : Nat → Text → Option Raised
  absent : Nat → Text → Except Raised Bool
  notes : Nat → Raised → Text → Option Raised
  looks : Nat → Text → Except Raised Stat
  changesMode : Nat → Text → Nat → Option Raised
  normalizes : Nat → Text → Except Raised Text
  commonPath : Text → Text → Option Text
  relativePath : Text → Text → Text
  join : Text → Text → Text
  separator : Char
  quoted : Text → Text

inductive Event where
  | removed (path : Text) (answer : Option Raised)
  | probed (path : Text) (answer : Except Raised Bool)
  | repaired (canonical : Text)
  | reported (target : Raised) (diagnostic : Text) (answer : Option Raised)
  | noted (target : Raised) (fallback : Text)

def Event.text : Event → Option Text
  | .reported _ diagnostic _ => some diagnostic
  | .noted _ fallback => some fallback
  | _ => none

structure World where
  time : Nat
  log : List Event

abbrev Step := Phase Raised World

def World.noted (world : World) (events : List Event) : World :=
  ⟨world.time + 1, world.log ++ events⟩

variable {Value : Type} (host : Host)

/-- A call, with what the log says of its answer. -/
def call (answers : Nat → Except Raised Value) (note : Except Raised Value → List Event) :
    Step Value := fun world =>
  match answers world.time with
  | .ok value => .ok value (world.noted (note (.ok value)))
  | .error raised => .error raised (world.noted (note (.error raised)))

def done : Option Raised → Except Raised Unit
  | none => .ok ()
  | some raised => .error raised

def removeTree (path : Text) : Step Unit :=
  call (fun number => done (host.removes number path)) fun answer =>
    [.removed path (match answer with
      | .ok _ => none
      | .error raised => some raised)]

/-- `path_absent(path) is True`. -/
def pathAbsent (path : Text) : Step Bool :=
  call (fun number => host.absent number path) fun answer => [.probed path answer]

/-! The identity of a workspace -/

def unsafeOwnedWorkspace (message : Text) : Raised :=
  { typeName := some "UnsafeOwnedWorkspace", rendered := .ok message }

/-- `os.lstat`, whose `OSError` is raised as an `UnsafeOwnedWorkspace`. -/
def lookOr (message path : Text) : Step Stat :=
  call (fun number => (host.looks number path).mapError fun raised =>
    if raised.osError then unsafeOwnedWorkspace message else raised) fun _ => []

def requireRealDirectory (path : Text) (observed : Stat) (platformName role : Text) :
    Option Raised :=
  if observed.isDirectory = false ∨ observed.isLink = true ∨
      platformName = "nt".toList ∧ windowsReparseObserved observed = true then
    some (unsafeOwnedWorkspace
      ("refusing " ++ role ++ " that is not a real directory: " ++ host.quoted path))
  else none

def samePathIdentity (role path : Text) (expected : PathIdentity) (observed : Stat) :
    Option Raised :=
  if expected = PathIdentity.capture observed then none
  else some (unsafeOwnedWorkspace
    ("owned workspace " ++ role ++ " identity changed: " ++ host.quoted path))

def validateOwnedWorkspace (lease : OwnedWorkspaceLease) : Step Unit := do
  let unknown : Text := "cannot re-establish the allocated workspace identity before cleanup"
  let parent ← lookOr host unknown lease.parentPath
  let root ← lookOr host unknown lease.rootPath
  refuse (requireRealDirectory host lease.parentPath parent lease.platformName
    "owned workspace parent")
  refuse (requireRealDirectory host lease.rootPath root lease.platformName "owned workspace root")
  refuse (samePathIdentity host "parent" lease.parentPath lease.parentIdentity parent)
  refuse (samePathIdentity host "root" lease.rootPath lease.rootIdentity root)

/-! The repair of a read-only entry -/

def canonicalCleanupPath (path : Text) : Step Text :=
  call (fun number => host.normalizes number path) fun _ => []

/-- The paths below the root; `none` when a part of the relative path is unsafe. -/
def componentsBelow (current : Text) : List Text → Option (List Text)
  | [] => some []
  | part :: rest =>
    if part = [] ∨ part = ".".toList ∨ part = "..".toList then none
    else (componentsBelow (host.join current part) rest).map (host.join current part :: ·)

/-- `_confined_workspace_components`, without the root that stands first. -/
def confinedWorkspaceComponents (lease : OwnedWorkspaceLease) (failedPath : Text) :
    Step (List Text) := do
  let root ← canonicalCleanupPath host lease.rootPath
  let target ← canonicalCleanupPath host failedPath
  refuse (if host.commonPath root target = some root then none else
    some (unsafeOwnedWorkspace
      ("cleanup retry escaped the owned workspace: " ++ host.quoted failedPath)))
  let relative := host.relativePath target root
  if relative = ".".toList then pure []
  else
    match componentsBelow host lease.rootPath (relative.split host.separator) with
    | some components => pure components
    | none => throw (unsafeOwnedWorkspace
        ("cleanup retry used an unsafe path component: " ++ host.quoted failedPath))

/-- The component and those below it, each looked at; the answer is what was seen of the last. -/
def classifyComponents (failedPath : Text) : Text → List Text → Step Stat
  | component, rest => do
    let observed ← lookOr host
      ("cannot classify cleanup retry target: " ++ host.quoted failedPath) component
    refuse (if observed.isLink ∨ windowsReparseObserved observed then
      some (unsafeOwnedWorkspace ("refusing to repair a symlink, junction, or reparse object " ++
        "during owned workspace cleanup: " ++ host.quoted component)) else none)
    match rest with
    | [] => pure observed
    | next :: more => do
      refuse (if observed.isDirectory then none else some (unsafeOwnedWorkspace
        ("cleanup retry traversed a non-directory: " ++ host.quoted component)))
      classifyComponents failedPath next more

def repairWindowsReadonlyEntry (lease : OwnedWorkspaceLease) (failedPath : Text) : Step Bool := do
  validateOwnedWorkspace host lease
  let components ← confinedWorkspaceComponents host lease failedPath
  let final ← classifyComponents host failedPath lease.rootPath components
  refuse (if final.isRegular ∨ final.isDirectory then none else some (unsafeOwnedWorkspace
    ("refusing to repair a non-file, non-directory cleanup target: " ++ host.quoted failedPath)))
  refuse (if final.isRegular ∧ final.nlink ≠ 1 then some (unsafeOwnedWorkspace
    ("refusing to repair a multiply linked file during owned workspace cleanup: " ++
      host.quoted failedPath)) else none)
  if final.readonlyObserved then do
    call (fun number => done (host.changesMode number failedPath (final.mode ||| 0o200)))
      fun _ => []
    pure true
  else pure false

/-! The removal -/

def maxWindowsReadonlyRepairs : Nat := 1024

/-- A turn of the loop: the tree is removed, or the failure is one of a path that was not repaired
before and `onward` goes on from it. -/
def removeTurn (path : Text) (lease : OwnedWorkspaceLease) (repairedPaths : List Text)
    (onward : Raised → Text → Text → Step Unit) : Step Unit :=
  tryCatch (removeTree host path) fun raised =>
    match raised.permission, raised.filename with
    | true, some failedPath => do
      refuse (if lease.platformName = "nt".toList then none else some raised)
      let canonical ← canonicalCleanupPath host failedPath
      refuse (if canonical ∈ repairedPaths then some raised else none)
      onward raised failedPath canonical
    | _, _ => throw raised

/-- The loop, with the number of repairs that it may still make. -/
def removeLoop (path : Text) (lease : OwnedWorkspaceLease) : Nat → List Text → Step Unit
  | 0, repairedPaths => removeTurn host path lease repairedPaths fun _ _ _ =>
    throw (unsafeOwnedWorkspace
      "owned workspace cleanup exceeded the bounded Windows READONLY repair limit")
  | room + 1, repairedPaths =>
    removeTurn host path lease repairedPaths fun raised failedPath canonical => do
      modify fun world => { world with log := world.log ++ [.repaired canonical] }
      let repaired ← repairWindowsReadonlyEntry host lease failedPath
      refuse (if repaired then none else some raised)
      removeLoop path lease room (repairedPaths ++ [canonical])

def removalUnproven (lease : OwnedWorkspaceLease) : Raised :=
  { typeName := some "OwnedWorkspaceRemovalUnproven"
    rendered := .ok ("recursive removal returned without proving absence of the " ++
      "judge-owned workspace root: " ++ host.quoted lease.rootPath) }

def removeOwnedWorkspaceTree (path : Text) (lease : OwnedWorkspaceLease) : Step Unit := do
  let absent ← pathAbsent host path
  if absent then pure ()
  else do
    validateOwnedWorkspace host lease
    removeLoop host path lease maxWindowsReadonlyRepairs []
    let absent ← pathAbsent host path
    refuse (if absent then none else some (removalUnproven host lease))

def removeWorkspace : WorkspacePath → Step Unit
  | .plain path => removeTree host path
  | .owned path lease => removeOwnedWorkspaceTree host path lease

/-- The body of the loop over the workspaces. A missing file is no failure when the root is then
observed absent. -/
def cleanupWorkspace (path : WorkspacePath) : Step Unit :=
  tryCatch (removeWorkspace host path) fun raised =>
    if raised.fileNotFound then do
      let absent ← pathAbsent host path.text
      refuse (if absent then none else some raised)
    else throw raised

/-! Reports -/

def maxCleanupDiagnosticChars : Nat := 2000

def maxCallbackFailureSuffixChars : Nat := 1000

def ellipsis : Text := "..."

def boundedCleanupText (message : Text) (limit : Nat) : Text :=
  if message.length ≤ limit then message
  else if limit ≤ ellipsis.length then ellipsis.take limit
  else message.take (limit - ellipsis.length) ++ ellipsis

def boundedCleanupDiagnostic (message : Text) : Text :=
  boundedCleanupText message maxCleanupDiagnosticChars

def boundedCleanupDiagnosticWithSuffix (message suffix : Text) : Text :=
  let bounded := boundedCleanupText suffix maxCallbackFailureSuffixChars
  boundedCleanupText message (maxCleanupDiagnosticChars - bounded.length) ++ bounded

theorem bounded_cleanup_text_length (message : Text) (limit : Nat) :
    (boundedCleanupText message limit).length ≤ limit := by
  unfold boundedCleanupText
  split_ifs with short narrow
  · exact short
  · exact List.length_take_le ..
  · rw [List.length_append, List.length_take]
    omega

theorem bounded_with_suffix_length (message suffix : Text) :
    (boundedCleanupDiagnosticWithSuffix message suffix).length ≤ maxCleanupDiagnosticChars := by
  have head := bounded_cleanup_text_length message (maxCleanupDiagnosticChars -
    (boundedCleanupText suffix maxCallbackFailureSuffixChars).length)
  have tail := bounded_cleanup_text_length suffix maxCallbackFailureSuffixChars
  unfold boundedCleanupDiagnosticWithSuffix maxCleanupDiagnosticChars
    maxCallbackFailureSuffixChars at *
  rw [List.length_append]
  omega

def exceptionTypeName (typeName : Option Text) : Text := typeName.getD "BaseException"

def cleanupExceptionSummary (raised : Raised) : Text :=
  exceptionTypeName raised.typeName ++ ": " ++
    match raised.rendered with
    | .ok text => text
    | .error other => "<unprintable; __str__ raised " ++ exceptionTypeName other ++ ">"

def fallbackDiagnostic (message : Text) (reportError : Raised) : Text :=
  boundedCleanupDiagnosticWithSuffix (boundedCleanupDiagnostic message)
    (" [cleanup diagnostic callback failed: " ++ cleanupExceptionSummary reportError ++ "]")

/-- `_report_cleanup_failure`; what the callback raises is told to the built-in reporter. -/
def reportCleanupFailure (target : Raised) (world : World) (message : Text) : World :=
  let diagnostic := boundedCleanupDiagnostic message
  let answer := host.notes world.time target diagnostic
  world.noted (.reported target diagnostic answer ::
    match answer with
    | none => []
    | some reportError => [.noted target (fallbackDiagnostic message reportError)])

/-- The loop over the workspaces, with the failures in order. -/
def collectFailures : List (Text × Option WorkspacePath) → World → List (Text × Raised) × World
  | [], world => ([], world)
  | (_, none) :: rest, world => collectFailures rest world
  | (label, some path) :: rest, world =>
    match cleanupWorkspace host path world with
    | .ok _ after => collectFailures rest after
    | .error raised after =>
      let (failures, last) := collectFailures rest after
      ((label, raised) :: failures, last)

def whilePreserving (owner : Text) (failure : Text × Raised) : Text :=
  owner ++ " " ++ failure.1 ++ " cleanup failed while preserving the primary exception: " ++
    cleanupExceptionSummary failure.2

def additional (owner : Text) (failure : Text × Raised) : Text :=
  "Additional " ++ owner ++ " " ++ failure.1 ++ " cleanup failure: " ++
    cleanupExceptionSummary failure.2

/-- `cleanup_repo_workspaces`. -/
def cleanupRepoWorkspaces (workspaces : List (Text × Option WorkspacePath))
    (primary : Option Raised) (owner : Text) (world : World) : Except Raised Unit × World :=
  match collectFailures host workspaces world, primary with
  | ([], world), _ => (.ok (), world)
  | (failures, world), some primary =>
    (.ok (), (failures.map (whilePreserving owner)).foldl (reportCleanupFailure host primary) world)
  | ((label, first) :: rest, world), none =>
    (.error first, ((owner ++ " " ++ label ++ " cleanup failed") ::
      rest.map (additional owner)).foldl (reportCleanupFailure host first) world)

/-! What a turn does -/

/-- The removal of one path: what the log says of it, and how it failed. -/
structure Turn where
  label : Text
  path : WorkspacePath
  events : List Event
  failure : Option Raised

def Turn.failed (turn : Turn) : Option (Text × Raised) := turn.failure.map (turn.label, ·)

def turns : List (Text × Option WorkspacePath) → World → List Turn
  | [], _ => []
  | (_, none) :: rest, world => turns rest world
  | (label, some path) :: rest, world =>
    match cleanupWorkspace host path world with
    | .ok _ after => ⟨label, path, after.log.drop world.log.length, none⟩ :: turns rest after
    | .error raised after =>
      ⟨label, path, after.log.drop world.log.length, some raised⟩ :: turns rest after

def Event.isRemoval : Event → Bool
  | .removed _ _ => true
  | _ => false

def Event.repair : Event → Option Text
  | .repaired canonical => some canonical
  | _ => none

/-- The path was removed without a failure: it was observed absent, or it is a plain path and the
removal returned. -/
def Cleared (path : WorkspacePath) (events : List Event) : Prop :=
  .probed path.text (.ok true) ∈ events ∨
    (∃ text, path = .plain text) ∧ .removed path.text none ∈ events

/-- The removal begins with a call for the path itself, and its loop is bounded. -/
structure Attempted (path : WorkspacePath) (events : List Event) : Prop where
  begun : ∃ first rest, events = first :: rest ∧ match path, first with
    | .plain text, .removed other _ => other = text
    | .owned text _, .probed other _ => other = text
    | _, _ => False
  removals : events.countP Event.isRemoval ≤ maxWindowsReadonlyRepairs + 1
  repairs : (events.filterMap Event.repair).Nodup

/-- A report on an exception: one call of the callback, and one of the built-in reporter when the
callback raised. Neither is given a text beyond the bound. -/
structure Told (target : Raised) (message : Text) (events : List Event) : Prop where
  calls : events = [.reported target (boundedCleanupDiagnostic message) none] ∨
    ∃ reportError, events = [.reported target (boundedCleanupDiagnostic message) (some reportError),
      .noted target (fallbackDiagnostic message reportError)]
  bounded : ∀ event ∈ events, ∀ text, event.text = some text →
    text.length ≤ maxCleanupDiagnosticChars

/-! Steps that the log does not show -/

def Adds (holds : List Event → Prop) (before after : World) : Prop :=
  ∃ events, after.log = before.log ++ events ∧ holds events

/-- The log is left as it was. -/
def Quiet (program : Step Value) : Prop :=
  ∀ before, Ends program before (fun after _ => after.log = before.log)
    fun after _ => after.log = before.log

section Quiet

variable {host} {Next : Type}

theorem quiet_pure (value : Value) : Quiet (pure value) := fun _ => rfl

theorem quiet_refuse (refusal : Option Raised) : Quiet (refuse refusal) := fun before =>
  ends_refuse refusal before _ _ (fun _ _ => rfl) fun _ => rfl

theorem call_ends (answers : Nat → Except Raised Value)
    (note : Except Raised Value → List Event) (before : World) :
    Ends (call answers note) before
      (fun after raised => after.log = before.log ++ note (.error raised))
      fun after value => after.log = before.log ++ note (.ok value) := by
  unfold Ends call
  cases answers before.time with
  | ok value | error raised => exact rfl

theorem quiet_call (answers : Nat → Except Raised Value) : Quiet (call answers fun _ => []) :=
  fun before => ends_weaken _ _ _ _ _ _ (call_ends answers _ before)
    (fun _ _ same => same.trans (List.append_nil _)) fun _ _ same => same.trans (List.append_nil _)

theorem Quiet.bind {program : Step Value} {continuation : Value → Step Next}
    (first : Quiet program) (rest : ∀ value, Quiet (continuation value)) :
    Quiet (program >>= continuation) := by
  intro before
  apply ends_bind _ _ _ _ _ _ (first before)
  intro value between same
  rw [← same]
  exact rest value between

theorem quiet_look (message path : Text) : Quiet (lookOr host message path) := quiet_call _

theorem quiet_validate (lease : OwnedWorkspaceLease) : Quiet (validateOwnedWorkspace host lease) :=
  (quiet_look _ _).bind fun _ => (quiet_look _ _).bind fun _ => (quiet_refuse _).bind fun _ =>
    (quiet_refuse _).bind fun _ => (quiet_refuse _).bind fun _ => quiet_refuse _

theorem quiet_components (lease : OwnedWorkspaceLease) (failedPath : Text) :
    Quiet (confinedWorkspaceComponents host lease failedPath) := by
  refine (quiet_call _).bind fun _ => (quiet_call _).bind fun _ => (quiet_refuse _).bind fun _ => ?_
  dsimp only
  split
  · exact quiet_pure _
  · split
    · exact quiet_pure _
    · exact fun _ => rfl

theorem quiet_classify (failedPath component : Text) (rest : List Text) :
    Quiet (classifyComponents host failedPath component rest) := by
  induction rest generalizing component with
  | nil =>
    unfold classifyComponents
    exact (quiet_look _ _).bind fun _ => (quiet_refuse _).bind fun _ => quiet_pure _
  | cons next more ih =>
    unfold classifyComponents
    exact (quiet_look _ _).bind fun _ => (quiet_refuse _).bind fun _ =>
      (quiet_refuse _).bind fun _ => ih next

theorem quiet_repair (lease : OwnedWorkspaceLease) (failedPath : Text) :
    Quiet (repairWindowsReadonlyEntry host lease failedPath) := by
  refine (quiet_validate lease).bind fun _ => (quiet_components lease failedPath).bind fun _ =>
    (quiet_classify _ _ _).bind fun _ => (quiet_refuse _).bind fun _ =>
      (quiet_refuse _).bind fun _ => ?_
  split
  · exact (quiet_call _).bind fun _ => quiet_pure _
  · exact quiet_pure _

end Quiet

/-! The loop -/

/-- What the loop adds to the log, when it may still repair `room` paths. -/
structure LoopLog (room : Nat) (repairedPaths : List Text) (events : List Event) : Prop where
  blind : ∀ path answer, .probed path answer ∉ events
  removals : events.countP Event.isRemoval ≤ room + 1
  repairs : (repairedPaths ++ events.filterMap Event.repair).Nodup

section Loop

variable {host}

theorem loop_log_single {repairedPaths : List Text} (distinct : repairedPaths.Nodup) (room : Nat)
    (path : Text) (answer : Option Raised) :
    LoopLog room repairedPaths [.removed path answer] := by
  refine ⟨by simp, by simp [Event.isRemoval], ?_⟩
  rw [show [Event.removed path answer].filterMap Event.repair = [] from rfl, List.append_nil]
  exact distinct

theorem remove_turn_ends {path : Text} {lease : OwnedWorkspaceLease} {room : Nat}
    {repairedPaths : List Text} {onward : Raised → Text → Text → Step Unit}
    (distinct : repairedPaths.Nodup) (before : World)
    (going : ∀ raised failedPath canonical between answer, canonical ∉ repairedPaths →
      between.log = before.log ++ [.removed path answer] →
      Ends (onward raised failedPath canonical) between
        (fun after _ => Adds (LoopLog room repairedPaths) before after)
        fun after _ => Adds (LoopLog room repairedPaths) before after) :
    Ends (removeTurn host path lease repairedPaths onward) before
      (fun after _ => Adds (LoopLog room repairedPaths) before after)
      fun after _ => Adds (LoopLog room repairedPaths) before after := by
  have single := loop_log_single distinct room path
  apply ends_try _ _ _ _ _ _ (ends_weaken _ _ _ _ _ _ (call_ends _ _ before)
    (fun _ _ left => left) fun _ _ same => ⟨_, same, single none⟩)
  intro raised between left
  have kept : ∀ later : World, later.log = between.log →
      Adds (LoopLog room repairedPaths) before later :=
    fun later same => ⟨_, same.trans left, single _⟩
  split
  · next failedPath _ _ =>
    apply ends_refuse_bind _ _ _ _ _ fun _ _ => kept between rfl
    intro _
    apply ends_bind _ _ _ _ _ _ (ends_weaken _ _ _ _ _ _ (quiet_call _ between)
      (fun later _ same => kept later same) fun _ _ same => same)
    intro canonical later same
    apply ends_refuse_bind _ _ _ _ _ fun _ _ => kept later same
    intro passed
    exact going raised failedPath canonical later (some raised)
      (fun inside => by rw [if_pos inside] at passed; cases passed) (same.trans left)
  · exact kept between rfl

/-- The room for repairs and the paths repaired grow together, so that every failure that is met
again is raised and the loop ends. -/
theorem remove_loop_ends {path : Text} {lease : OwnedWorkspaceLease} (room : Nat)
    {repairedPaths : List Text} (distinct : repairedPaths.Nodup) (before : World) :
    Ends (removeLoop host path lease room repairedPaths) before
      (fun after _ => Adds (LoopLog room repairedPaths) before after)
      fun after _ => Adds (LoopLog room repairedPaths) before after := by
  induction room generalizing repairedPaths before with
  | zero =>
    unfold removeLoop
    exact remove_turn_ends distinct before fun _ _ _ _ answer _ left =>
      ⟨_, left, loop_log_single distinct 0 path answer⟩
  | succ room ih =>
    unfold removeLoop
    apply remove_turn_ends distinct before
    intro raised failedPath canonical between answer fresh left
    have grown : (repairedPaths ++ [canonical]).Nodup :=
      List.concat_eq_append ▸ distinct.concat fresh
    have started (later : World) (same : later.log = between.log ++ [.repaired canonical]) :
        Adds (LoopLog (room + 1) repairedPaths) before later := by
      refine ⟨[.removed path answer, .repaired canonical], ?_, by simp, ?_, grown⟩
      · rw [same, left, List.append_assoc]
        rfl
      · exact Nat.succ_le_succ (Nat.zero_le _)
    apply ends_modify_bind
    apply ends_bind _ _ _ _ _ _ (ends_weaken _ _ _ _ _ _ (quiet_repair lease failedPath _)
      (fun later _ same => started later same) fun _ _ same => same)
    intro repaired later same
    apply ends_refuse_bind _ _ _ _ _ fun _ _ => started later same
    intro _
    have going (after : World) (added : Adds (LoopLog room (repairedPaths ++ [canonical])) later
        after) : Adds (LoopLog (room + 1) repairedPaths) before after := by
      obtain ⟨events, grew, blind, removals, repairs⟩ := added
      refine ⟨.removed path answer :: .repaired canonical :: events, ?_, by simpa using blind, ?_,
        ?_⟩
      · rw [grew, same]
        change between.log ++ _ ++ _ = _
        rw [left]
        simp
      · simpa [List.countP_cons, Event.isRemoval] using removals
      · rw [List.append_assoc] at repairs
        exact repairs
    exact ends_weaken _ _ _ _ _ _ (ih grown later) (fun after _ => going after)
      fun after _ => going after

end Loop

/-! One path -/

section Turn

variable {host}

/-- What a removal added to the log; `clear` says that it did not fail. -/
structure Cleaned (path : WorkspacePath) (clear : Bool) (events : List Event) : Prop where
  attempted : Attempted path events
  cleared : Cleared path events ↔ clear = true

def observed : Except Raised Bool → Bool
  | .ok absent => absent
  | .error _ => false

theorem Attempted.probed {path : WorkspacePath} {events : List Event}
    (attempted : Attempted path events) (answer : Except Raised Bool) :
    Attempted path (events ++ [.probed path.text answer]) := by
  obtain ⟨⟨first, rest, shape, begins⟩, removals, repairs⟩ := attempted
  refine ⟨⟨first, rest ++ [_], by rw [shape, List.cons_append], begins⟩, ?_, ?_⟩
  · rw [List.countP_append]
    exact removals
  · rw [List.filterMap_append]
    exact (List.append_nil (events.filterMap Event.repair)).symm ▸ repairs

theorem cleared_probed {path : WorkspacePath} {events : List Event}
    (unclear : ¬Cleared path events) (answer : Except Raised Bool) :
    Cleared path (events ++ [.probed path.text answer]) ↔ observed answer = true := by
  unfold Cleared at unclear ⊢
  rw [not_or] at unclear
  cases answer with
  | ok absent => cases absent <;> simp [unclear, observed]
  | error raised => simp [unclear, observed]

/-- The last word on a removal that failed is a probe for the absence of its root. -/
theorem probe_ends {path : WorkspacePath} {before removed : World}
    (failed : Adds (Cleaned path false) before removed) (raised : Raised) :
    Ends (do
        let absent ← pathAbsent host path.text
        refuse (if absent then none else some raised) : Step Unit) removed
      (fun after _ => Adds (Cleaned path false) before after)
      fun after _ => Adds (Cleaned path true) before after := by
  obtain ⟨events, grew, attempted, cleared⟩ := failed
  have unclear : ¬Cleared path events := fun clear => nomatch cleared.mp clear
  have probed (answer : Except Raised Bool) (after : World)
      (asked : after.log = removed.log ++ [.probed path.text answer]) :
      Adds (Cleaned path (observed answer)) before after :=
    ⟨_, by rw [asked, grew, List.append_assoc], attempted.probed answer,
      cleared_probed unclear answer⟩
  apply ends_bind _ _ _ _ _ _ (ends_weaken _ _ _ _ _ _ (call_ends _ _ removed)
    (fun after raised => probed (.error raised) after) fun _ _ asked => asked)
  intro absent after asked
  cases absent with
  | true => exact probed (.ok true) after asked
  | false => exact probed (.ok false) after asked

theorem remove_owned_ends (path : Text) (lease : OwnedWorkspaceLease) (before : World) :
    Ends (removeOwnedWorkspaceTree host path lease) before
      (fun after _ => Adds (Cleaned (.owned path lease) false) before after)
      fun after _ => Adds (Cleaned (.owned path lease) true) before after := by
  have probing (answer : Except Raised Bool) :
      Cleaned (.owned path lease) (observed answer) [.probed path answer] :=
    ⟨⟨⟨_, [], rfl, rfl⟩, Nat.zero_le _, List.nodup_nil⟩,
      @cleared_probed _ [] (by simp [Cleared]) answer⟩
  apply ends_bind _ _ _ _ _ _ (ends_weaken _ _ _ _ _ _ (call_ends _ _ before)
    (fun _ raised same => ⟨_, same, probing (.error raised)⟩) fun _ _ same => same)
  intro absent looked same
  cases absent with
  | true => exact ⟨_, same, probing (.ok true)⟩
  | false =>
    apply ends_bind _ _ _ _ _ _ (ends_weaken _ _ _ _ _ _ (quiet_validate lease looked)
      (fun later _ kept => ⟨_, kept.trans same, probing (.ok false)⟩)
      fun _ _ kept => kept.trans same)
    intro _ valid kept
    have looped (after : World) (added : Adds (LoopLog maxWindowsReadonlyRepairs []) valid after) :
        Adds (Cleaned (.owned path lease) false) before after := by
      obtain ⟨events, grew, blind, removals, repairs⟩ := added
      refine ⟨.probed path (.ok false) :: events, ?_,
        ⟨⟨_, events, rfl, rfl⟩, removals, repairs⟩, ?_⟩
      · rw [grew, kept, List.append_assoc]
        rfl
      · simp [Cleared, blind, WorkspacePath.text]
    apply ends_bind _ _ _ _ _ _ (ends_weaken _ _ _ _ _ _ (remove_loop_ends _ List.nodup_nil valid)
      (fun after _ => looped after) fun after _ => looped after)
    exact fun _ removed failed => probe_ends failed (removalUnproven host lease)

theorem remove_workspace_ends (path : WorkspacePath) (before : World) :
    Ends (removeWorkspace host path) before
      (fun after _ => Adds (Cleaned path false) before after)
      fun after _ => Adds (Cleaned path true) before after := by
  cases path with
  | owned path lease => exact remove_owned_ends path lease before
  | plain path =>
    have single (answer : Option Raised) :
        Cleaned (.plain path) answer.isNone [.removed path answer] := by
      refine ⟨⟨⟨_, [], rfl, rfl⟩, Nat.succ_le_succ (Nat.zero_le _), List.nodup_nil⟩, ?_⟩
      cases answer <;> simp [Cleared, WorkspacePath.text]
    unfold removeWorkspace removeTree
    exact ends_weaken _ _ _ _ _ _ (call_ends _ _ before)
      (fun _ raised same => ⟨_, same, single (some raised)⟩) fun _ _ same => ⟨_, same, single none⟩

theorem cleanup_workspace_ends (path : WorkspacePath) (before : World) :
    Ends (cleanupWorkspace host path) before
      (fun after _ => Adds (Cleaned path false) before after)
      fun after _ => Adds (Cleaned path true) before after := by
  apply ends_try _ _ _ _ _ _ (remove_workspace_ends path before)
  intro raised removed failed
  split
  · exact probe_ends failed raised
  · exact failed

end Turn

/-! The whole cleanup -/

theorem report_told (target : Raised) (message : Text) (world : World) :
    Adds (Told target message) world (reportCleanupFailure host target world message) := by
  have short := bounded_cleanup_text_length message maxCleanupDiagnosticChars
  cases answered : host.notes world.time target (boundedCleanupDiagnostic message) with
  | none =>
    refine ⟨[.reported target _ none], ?_, Or.inl rfl, ?_⟩
    · simp only [reportCleanupFailure, answered]
      rfl
    · rintro _ (_ | ⟨_, ⟨⟩⟩) _ ⟨⟩
      exact short
  | some reportError =>
    refine ⟨[.reported target _ (some reportError), .noted target _], ?_,
      Or.inr ⟨reportError, rfl⟩, ?_⟩
    · simp only [reportCleanupFailure, answered]
      rfl
    · rintro _ (_ | ⟨_, _ | ⟨_, ⟨⟩⟩⟩) _ ⟨⟩
      · exact short
      · exact bounded_with_suffix_length ..

theorem reports_told (target : Raised) (messages : List Text) (world : World) :
    ∃ told, List.Forall₂ (Told target) messages told ∧
      (messages.foldl (reportCleanupFailure host target) world).log =
        world.log ++ told.flatten := by
  induction messages generalizing world with
  | nil => exact ⟨[], .nil, (List.append_nil _).symm⟩
  | cons message rest ih =>
    obtain ⟨events, grew, one⟩ := report_told host target message world
    obtain ⟨told, others, last⟩ := ih (reportCleanupFailure host target world message)
    exact ⟨events :: told, .cons one others, by
      rw [List.foldl_cons, last, grew, List.append_assoc, List.flatten_cons]⟩

theorem collect_failures_turns (workspaces : List (Text × Option WorkspacePath)) (world : World) :
    (collectFailures host workspaces world).1 =
        (turns host workspaces world).filterMap Turn.failed ∧
      (collectFailures host workspaces world).2.log =
        world.log ++ (turns host workspaces world).flatMap Turn.events ∧
      (turns host workspaces world).map (fun turn => (turn.label, turn.path)) =
        workspaces.filterMap (fun entry => entry.2.map (entry.1, ·)) ∧
      ∀ turn ∈ turns host workspaces world,
        Cleaned turn.path turn.failure.isNone turn.events := by
  induction workspaces generalizing world with
  | nil => exact ⟨rfl, (List.append_nil _).symm, rfl, fun _ inside => nomatch inside⟩
  | cons entry rest ih =>
    obtain ⟨label, _ | path⟩ := entry
    · exact ih world
    · have cleaned := @cleanup_workspace_ends host path world
      unfold Ends at cleaned
      unfold collectFailures turns
      cases ended : cleanupWorkspace host path world with
      | ok _ after | error _ after =>
        rw [ended] at cleaned
        obtain ⟨events, grew, facts⟩ := cleaned
        obtain ⟨failures, log, paths, each⟩ := ih after
        have added : after.log.drop world.log.length = events := by
          rw [grew, List.drop_left]
        refine ⟨?_, ?_, congrArg _ paths, List.forall_mem_cons.mpr ⟨?_, each⟩⟩
        · dsimp only
          rw [failures]
          rfl
        · dsimp only
          rw [log, List.flatMap_cons, added, grew, List.append_assoc]
        · rw [added]
          exact facts

/-- Every path is attempted, in bounded loops, and fails exactly when it was not cleared. While an
exception is active nothing is raised and each failure is one report on it; otherwise the first
failure is raised, and without one every claimed root was observed absent. -/
theorem cleanup_keeps_precedence (workspaces : List (Text × Option WorkspacePath))
    (primary : Option Raised) (owner : Text) (world : World) :
    let made := turns host workspaces world
    let failures := made.filterMap Turn.failed
    let ended := cleanupRepoWorkspaces host workspaces primary owner world
    made.map (fun turn => (turn.label, turn.path)) =
        workspaces.filterMap (fun entry => entry.2.map (entry.1, ·)) ∧
      (∀ turn ∈ made, Attempted turn.path turn.events ∧
        (turn.failure = none ↔ Cleared turn.path turn.events)) ∧
      (∃ told, ended.2.log = world.log ++ made.flatMap Turn.events ++ told.flatten ∧
        (∀ active, primary = some active →
          List.Forall₂ (Told active) (failures.map (whilePreserving owner)) told) ∧
        ∀ first rest, primary = none → failures = first :: rest →
          List.Forall₂ (Told first.2) ((owner ++ " " ++ first.1 ++ " cleanup failed") ::
            rest.map (additional owner)) told) ∧
      (∀ active, primary = some active → ended.1 = .ok ()) ∧
      (primary = none → ended.1 = match failures with
        | [] => .ok ()
        | first :: _ => .error first.2) ∧
      (primary = none → ended.1 = .ok () →
        ∀ label path lease, (label, some (.owned path lease)) ∈ workspaces →
          ∃ turn ∈ made, turn.path = .owned path lease ∧
            .probed path (.ok true) ∈ turn.events) := by
  obtain ⟨failures, log, paths, each⟩ := collect_failures_turns host workspaces world
  dsimp only
  have cleared (turn : Turn) (inside : turn ∈ turns host workspaces world) :
      turn.failure = none ↔ Cleared turn.path turn.events := by
    rw [(each turn inside).cleared, Option.isNone_iff_eq_none]
  refine ⟨paths, fun turn inside => ⟨(each turn inside).attempted, cleared turn inside⟩, ?_⟩
  unfold cleanupRepoWorkspaces
  rw [← failures, ← log]
  rcases collected : collectFailures host workspaces world with ⟨_ | ⟨⟨label, first⟩, rest⟩, after⟩
  · refine ⟨⟨[], (List.append_nil _).symm, fun _ _ => .nil, fun _ _ _ none => nomatch none⟩,
      fun _ _ => rfl, fun _ => rfl, ?_⟩
    intro _ _ label path lease inside
    have named : (label, .owned path lease) ∈
        (turns host workspaces world).map fun turn => (turn.label, turn.path) := by
      rw [paths]
      exact List.mem_filterMap.mpr ⟨_, inside, rfl⟩
    obtain ⟨turn, made, same⟩ := List.mem_map.mp named
    have owned : turn.path = .owned path lease := congrArg Prod.snd same
    have unfailed : turn.failure = none := by
      rw [collected] at failures
      have none := List.filterMap_eq_nil_iff.mp failures.symm turn made
      exact Option.map_eq_none_iff.mp none
    refine ⟨turn, made, owned, ?_⟩
    rcases (cleared turn made).mp unfailed with seen | ⟨⟨text, plain⟩, _⟩
    · rw [owned] at seen
      exact seen
    · rw [owned] at plain
      cases plain
  · cases primary with
    | some active =>
      obtain ⟨told, reports, last⟩ := reports_told host active
        (((label, first) :: rest).map (whilePreserving owner)) after
      refine ⟨⟨told, last, ?_, fun _ _ absent => nomatch absent⟩, (fun _ _ => rfl),
        (fun absent => nomatch absent), fun absent => nomatch absent⟩
      rintro _ ⟨⟩
      exact reports
    | none =>
      obtain ⟨told, reports, last⟩ := reports_told host first
        ((owner ++ " " ++ label ++ " cleanup failed") :: rest.map (additional owner)) after
      refine ⟨⟨told, last, (fun _ absent => nomatch absent), ?_⟩, (fun _ absent => nomatch absent),
        (fun _ => rfl), fun _ returned => nomatch returned⟩
      rintro _ _ _ ⟨⟩
      exact reports

end EvoomGuard.Workspace.Cleanup
