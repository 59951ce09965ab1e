import EvoomGuard.Lib.Preorder
import EvoomGuard.Lib.Sha256
import EvoomGuard.Runtime.Symlinks

/-!
`capture_runtime_identity`: the explicit stack of the scan, its budget and its records. The tree
is stable, so the comparisons of one reading of it with a later one all succeed; the one of the
names of a directory is kept. The clock is an oracle: it says of each reading whether the deadline
has passed.
-/

namespace EvoomGuard.Runtime

open Lib Lib.Framing

inductive EntryKind where
  | dir
  | file
  | link
  deriving DecidableEq

structure RuntimeEntry where
  path : Bytes
  kind : EntryKind
  permissions : Nat
  size : Nat
  payload : Bytes
  deriving DecidableEq

structure ScanLimits where
  maxEntries : Nat
  maxPathBytes : Nat
  maxLogicalBytes : Nat
  maxFileBytes : Nat

def defaultLimits : ScanLimits where
  maxEntries := 500000
  maxPathBytes := 128 * 1024 ^ 2
  maxLogicalBytes := 32 * 1024 ^ 3
  maxFileBytes := 8 * 1024 ^ 3

structure ScanBudget where
  discoveredEntries : Nat
  pathBytes : Nat
  logicalBytes : Nat
  readings : Nat

inductive ScanError where
  | nonPositive
  | deadline
  | entries
  | pathBytes
  | fileBytes (name : Bytes) (size : Nat)
  | logicalBytes
  | symlink (path : Bytes) (problem : SymlinkError)
  | special (path : Bytes)
  | directoryChanged (path : Bytes)
  | gone
  deriving DecidableEq

inductive Action where
  | enter
  | leaf
  | exit
  deriving DecidableEq

structure WorkItem where
  action : Action
  components : List Bytes
  rel : Bytes
  names : List Bytes

structure ScanState where
  stack : List WorkItem
  records : List RuntimeEntry
  budget : ScanBudget

def childRel (rel name : Bytes) : Bytes := if rel = dot then name else rel ++ slash :: name

def chunkSize : Nat := 1024 * 1024

section Scan

variable (tree : RuntimeTree) (limits : ScanLimits) (expired : Nat → Bool)

def namesAt (path : List Bytes) : List Bytes := Listing.sortedNames tree.listing bytesLe path

def checkDeadline (budget : ScanBudget) : Except ScanError ScanBudget :=
  if expired budget.readings then .error .deadline
  else .ok { budget with readings := budget.readings + 1 }

def discoverEntry (path : Bytes) (budget : ScanBudget) : Except ScanError ScanBudget :=
  match checkDeadline expired budget with
  | .error problem => .error problem
  | .ok budget =>
    if limits.maxEntries ≤ budget.discoveredEntries then .error .entries
    else if limits.maxPathBytes < budget.pathBytes + path.length then .error .pathBytes
    else .ok { budget with
      discoveredEntries := budget.discoveredEntries + 1
      pathBytes := budget.pathBytes + path.length }

def discoverChildren (rel : Bytes) : List Bytes → ScanBudget → Except ScanError ScanBudget
  | [], budget => .ok budget
  | name :: rest, budget =>
    match discoverEntry limits expired (childRel rel name) budget with
    | .error problem => .error problem
    | .ok budget => discoverChildren rel rest budget

def reserveFile (name : Bytes) (size : Nat) (budget : ScanBudget) : Except ScanError ScanBudget :=
  match checkDeadline expired budget with
  | .error problem => .error problem
  | .ok budget =>
    if limits.maxFileBytes < size then .error (.fileBytes name size)
    else if limits.maxLogicalBytes < budget.logicalBytes + size then .error .logicalBytes
    else .ok { budget with logicalBytes := budget.logicalBytes + size }

/-- The clock is read before each chunk and before the end of the file is seen. -/
def readChunks : Nat → ScanBudget → Except ScanError ScanBudget
  | 0, budget => checkDeadline expired budget
  | chunks + 1, budget =>
    match checkDeadline expired budget with
    | .error problem => .error problem
    | .ok budget => readChunks chunks budget

def readRegular (name : Bytes) (data : ByteArray) (budget : ScanBudget) :
    Except ScanError (Nat × Bytes × ScanBudget) :=
  if limits.maxFileBytes < data.size then .error (.fileBytes name data.size)
  else
    match reserveFile limits expired name data.size budget with
    | .error problem => .error problem
    | .ok budget =>
      match readChunks expired ((data.size + chunkSize - 1) / chunkSize) budget with
      | .error problem => .error problem
      | .ok budget => .ok (data.size, utf8 (Sha256.hexdigestBytes data.toList), budget)

def descriptorLeafEntry (item : WorkItem) (budget : ScanBudget) :
    Except ScanError (RuntimeEntry × ScanBudget) :=
  match tree.listing.entry item.components with
  | none => .error .gone
  | some (.link permissions target) =>
    match validateContainedSymlinkAt tree item.components.dropLast target with
    | .error problem => .error (.symlink item.rel problem)
    | .ok () => .ok (⟨item.rel, .link, permissions, 0, target⟩, budget)
  | some (.file permissions data) =>
    match readRegular limits expired (item.components.getLastD []) data budget with
    | .error problem => .error problem
    | .ok (size, digest, budget) => .ok (⟨item.rel, .file, permissions, size, digest⟩, budget)
  | some _ => .error (.special item.rel)

def childItem (item : WorkItem) (name : Bytes) : WorkItem where
  action := if tree.listing.isDirectory (item.components ++ [name]) then .enter else .leaf
  components := item.components ++ [name]
  rel := childRel item.rel name
  names := []

/-- One turn of the loop; `stack` is what lies below `item`. -/
def scanItem (item : WorkItem) (stack : List WorkItem) (records : List RuntimeEntry)
    (budget : ScanBudget) : Except ScanError ScanState :=
  match item.action with
  | .leaf =>
    match descriptorLeafEntry tree limits expired item budget with
    | .error problem => .error problem
    | .ok (record, budget) => .ok ⟨stack, records ++ [record], budget⟩
  | .exit =>
    if item.names = namesAt tree item.components then .ok ⟨stack, records, budget⟩
    else .error (.directoryChanged item.rel)
  | .enter =>
    match tree.listing.entry item.components with
    | some (.directory permissions) =>
      let names := namesAt tree item.components
      match discoverChildren limits expired item.rel names budget with
      | .error problem => .error problem
      | .ok budget =>
        .ok ⟨names.map (childItem tree item) ++
            ({ item with action := .exit, names := names } :: stack),
          records ++ [⟨item.rel, .dir, permissions, 0, []⟩], budget⟩
    | _ => .error .gone

def scanLoop : Nat → ScanState → Option (Except ScanError ScanState)
  | _, ⟨[], records, budget⟩ => some (.ok ⟨[], records, budget⟩)
  | 0, _ => none
  | fuel + 1, ⟨item :: stack, records, budget⟩ =>
    match checkDeadline expired budget with
    | .error problem => some (.error problem)
    | .ok budget =>
      match scanItem tree limits expired item stack records budget with
      | .error problem => some (.error problem)
      | .ok state => scanLoop fuel state

/-- Every path is popped at most twice. -/
def scanTreeDescriptors : Option (Except ScanError ScanState) :=
  match discoverEntry limits expired dot ⟨0, 0, 0, 0⟩ with
  | .error problem => some (.error problem)
  | .ok budget =>
    scanLoop tree limits expired (2 * tree.listing.paths.length)
      ⟨[⟨.enter, [], dot, []⟩], [], budget⟩

end Scan

def digestHeader : Bytes := utf8 "EVOGUARD_RUNTIME_TREE_V1" ++ [0]

def EntryKind.code : EntryKind → UInt8
  | .dir => 68
  | .file => 70
  | .link => 76

def hexValue (digit : UInt8) : UInt8 := if digit ≤ 57 then digit - 48 else digit - 87

def fromHex : Bytes → Bytes
  | high :: low :: rest => (16 * hexValue high + hexValue low) :: fromHex rest
  | _ => []

def frameRecord (record : RuntimeEntry) : Bytes :=
  record.kind.code :: blob record.path ++ bigEndian 4 record.permissions ++ u64 record.size ++
    blob (if record.kind = .file then fromHex record.payload else record.payload)

def digestRecords (records : List RuntimeEntry) : Text :=
  Sha256.hexdigestBytes (digestHeader ++ records.flatMap frameRecord)

structure RuntimeIdentity where
  sha256 : Text
  entries : Nat
  regularBytes : Nat
  records : List RuntimeEntry
  deriving DecidableEq

def captureRuntimeIdentity (tree : RuntimeTree) (limits : ScanLimits) (expired : Nat → Bool) :
    Option (Except ScanError RuntimeIdentity) :=
  if limits.maxEntries = 0 ∨ limits.maxPathBytes = 0 ∨ limits.maxLogicalBytes = 0 ∨
      limits.maxFileBytes = 0 then
    some (.error .nonPositive)
  else
    (scanTreeDescriptors tree limits expired).map fun scanned =>
      match scanned with
      | .error problem => .error problem
      | .ok state =>
        .ok ⟨digestRecords state.records, state.records.length, state.budget.logicalBytes,
          state.records⟩

end EvoomGuard.Runtime
