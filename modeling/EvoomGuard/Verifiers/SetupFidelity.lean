import EvoomGuard.Lib.PathOrder
import EvoomGuard.Lib.Preorder
import EvoomGuard.Lib.Sha256
import EvoomGuard.Verifiers.HarnessPolicy

/-!
`verifiers/fidelity.py`: what setup may change in a tree. The tree is stable while it is scanned,
so every comparison of two readings of it succeeds and the two ways to scan are one.
-/

namespace EvoomGuard.Verifiers.SetupFidelity

open Lib Verifiers

inductive SpecialFormat where
  | fifo
  | characterDevice
  | blockDevice
  | socket
  deriving DecidableEq

/-- `str(stat.S_IFMT(mode))`. -/
def SpecialFormat.text : SpecialFormat → Text
  | .fifo => "4096"
  | .characterDevice => "8192"
  | .blockDevice => "24576"
  | .socket => "49152"

/-- An entry as `lstat` and one reading show it; `links` counts the names of a file. -/
inductive SetupEntry where
  | file (mode links : Nat) (data : List UInt8)
  | link (mode : Nat) (target : Text)
  | directory (mode : Nat)
  | special (mode : Nat) (format : SpecialFormat)
  deriving DecidableEq

def SetupEntry.isDirectory : SetupEntry → Bool
  | .directory _ => true
  | _ => false

structure SetupTree where
  listing : Listing Text SetupEntry.isDirectory
  named : ∀ path name, (listing.entry (path ++ [name])).isSome = true → name ≠ [] ∧ '/' ∉ name

/-- The entry without the count of its names. -/
def SetupEntry.visible : SetupEntry → SetupEntry
  | .file mode _ data => .file mode 1 data
  | entry => entry

def defaultSetupOutputDirs : List Text :=
  [".cache", ".evoguard-setup", ".mypy_cache", ".pytest_cache",
    ".ruff_cache", ".tox", ".venv", "build", "dist",
    "node_modules", "target", "venv", "vendor", "__pycache__"]

def isDefaultSetupOutput (path : Text) : Bool :=
  (Text.split '/' path).any fun part => !part.isEmpty && defaultSetupOutputDirs.contains part

/-- The kind, the permissions, and a digest, a target or a format. -/
structure FidelityState where
  kind : Text
  mode : Nat
  payload : Text
  deriving DecidableEq

/-- The paths of a scan with the states found there. -/
abbrev Snapshot := List (Text × FidelityState)

structure SetupFidelityError where
  hardlinked : Text
  names : Nat
  deriving DecidableEq

def relText (path : List Text) : Text := Text.join ['/'] path

section Scan

variable (mapping : CaseMapping) (extraOutputGlobs : List Text)

/-- An adopter's glob takes the entry out of both scans. -/
def isExtraOutput (path : List Text) (entry : SetupEntry) : Bool :=
  matchesGlobs mapping (relText path) extraOutputGlobs ||
    entry.isDirectory &&
      matchesGlobs mapping (relText path ++ ['/']) extraOutputGlobs

def scanEntryIsIgnored (baseline : Option Snapshot) (path : List Text) (entry : SetupEntry) :
    Bool :=
  isExtraOutput mapping extraOutputGlobs path entry ||
    baseline.any fun before =>
      isDefaultSetupOutput (relText path) && !(before.map Prod.fst).contains (relText path)

def entryState : SetupEntry → FidelityState
  | .file mode _ data => ⟨"file", mode, Sha256.hexdigestBytes data⟩
  | .link mode target => ⟨"link", mode, target⟩
  | .directory mode => ⟨"dir", mode, []⟩
  | .special mode format => ⟨"special", mode, format.text⟩

variable (baseline : Option Snapshot) (tree : SetupTree)

/-- One entry; `below` scans a directory. -/
def scanEntry (below : List Text → Except SetupFidelityError Snapshot) (path : List Text) :
    Except SetupFidelityError Snapshot :=
  match tree.listing.entry path with
  | none => .ok []
  | some entry =>
    if scanEntryIsIgnored mapping extraOutputGlobs baseline path entry then .ok []
    else
      match entry with
      | .file _ links _ =>
        if links = 1 then .ok [(relText path, entryState entry)]
        else .error ⟨relText path, links⟩
      | .directory _ =>
        match below path with
        | .ok rest => .ok ((relText path, entryState entry) :: rest)
        | .error problem => .error problem
      | _ => .ok [(relText path, entryState entry)]

def scanNames (below : List Text → Except SetupFidelityError Snapshot) (path : List Text) :
    List Text → Except SetupFidelityError Snapshot
  | [] => .ok []
  | name :: rest =>
    match scanEntry mapping extraOutputGlobs baseline tree below (path ++ [name]) with
    | .error problem => .error problem
    | .ok first =>
      match scanNames below path rest with
      | .error problem => .error problem
      | .ok others => .ok (first ++ others)

/-- `scan_directory`, to a depth that no path exceeds. -/
def scanDirectory : Nat → List Text → Except SetupFidelityError Snapshot
  | 0, _ => .ok []
  | depth + 1, path =>
    scanNames mapping extraOutputGlobs baseline tree (scanDirectory depth) path
      (Listing.sortedNames tree.listing Text.le path)

def setupFidelitySnapshot : Except SetupFidelityError Snapshot :=
  scanDirectory mapping extraOutputGlobs baseline tree tree.listing.height []

end Scan

def stateAt (snapshot : Snapshot) (path : Text) : Option FidelityState :=
  (snapshot.find? fun item => item.1 = path).map Prod.snd

def setupFidelityChanges (before after : Snapshot) : List Text :=
  Text.sortedSet ((before.map Prod.fst ++ after.map Prod.fst).filter fun path =>
    stateAt before path ≠ stateAt after path)

/-- The scan before setup and the one after it, which has the first for its baseline. -/
def setupChanges (mapping : CaseMapping) (extraOutputGlobs : List Text) (before after : SetupTree) :
    Except SetupFidelityError (List Text) :=
  match setupFidelitySnapshot mapping extraOutputGlobs none before with
  | .error problem => .error problem
  | .ok baseline =>
    match setupFidelitySnapshot mapping extraOutputGlobs (some baseline) after with
    | .error problem => .error problem
    | .ok snapshot => .ok (setupFidelityChanges baseline snapshot)

section

variable {mapping : CaseMapping} {extraOutputGlobs : List Text} {baseline : Option Snapshot}
  {tree : SetupTree}

/-- Nothing between the directory and the entry below it is left out, and neither is the entry. -/
def Passed (mapping : CaseMapping) (extraOutputGlobs : List Text) (baseline : Option Snapshot)
    (tree : SetupTree) (path below : List Text) : Prop :=
  ∀ front, front ≠ [] → front <+: below → ∀ entry, tree.listing.entry (path ++ front) = some entry →
    scanEntryIsIgnored mapping extraOutputGlobs baseline (path ++ front) entry = false

theorem passed_cons {path below : List Text} {name : Text} {entry : SetupEntry}
    (present : tree.listing.entry (path ++ [name]) = some entry) :
    Passed mapping extraOutputGlobs baseline tree path (name :: below) ↔
      scanEntryIsIgnored mapping extraOutputGlobs baseline (path ++ [name]) entry = false ∧
        Passed mapping extraOutputGlobs baseline tree (path ++ [name]) below := by
  constructor
  · intro passed
    refine ⟨passed [name] (by simp) (by simp) entry present, fun front some inside other found => ?_⟩
    have grouped : path ++ name :: front = path ++ [name] ++ front := by simp
    rw [← grouped] at found ⊢
    exact passed (name :: front) (by simp) (List.cons_prefix_cons.2 ⟨rfl, inside⟩) other found
  · rintro ⟨here, later⟩ front some inside other found
    obtain ⟨first, rest, rfl⟩ := List.exists_cons_of_ne_nil some
    obtain ⟨rfl, deeper⟩ := List.cons_prefix_cons.1 inside
    by_cases last : rest = []
    · subst last
      rw [present] at found
      cases found
      exact here
    · have grouped : path ++ first :: rest = path ++ [first] ++ rest := by simp
      rw [grouped] at found ⊢
      exact later rest last deeper other found

variable {below : List Text → Except SetupFidelityError Snapshot} {path : List Text}

theorem mem_scan_entry {part : Snapshot}
    (scanned : scanEntry mapping extraOutputGlobs baseline tree below path = .ok part)
    (item : Text × FidelityState) :
    item ∈ part ↔ ∃ entry, tree.listing.entry path = some entry ∧
      scanEntryIsIgnored mapping extraOutputGlobs baseline path entry = false ∧
        (item = (relText path, entryState entry) ∨
          entry.isDirectory = true ∧ ∃ rest, below path = .ok rest ∧ item ∈ rest) := by
  unfold scanEntry at scanned
  cases found : tree.listing.entry path with
  | none =>
    rw [found] at scanned
    cases scanned
    simp
  | some entry =>
    rw [found] at scanned
    dsimp only at scanned
    cases ignored : scanEntryIsIgnored mapping extraOutputGlobs baseline path entry with
    | true =>
      rw [if_pos ignored] at scanned
      cases scanned
      simp [ignored]
    | false =>
      rw [if_neg (ne_true_of_eq_false ignored)] at scanned
      cases entry with
      | file mode links data =>
        dsimp only at scanned
        split_ifs at scanned
        cases scanned
        simp [ignored, SetupEntry.isDirectory]
      | link mode target | special mode format =>
        cases scanned
        simp [ignored, SetupEntry.isDirectory]
      | directory mode =>
        dsimp only at scanned
        cases deeper : below path with
        | error problem =>
          rw [deeper] at scanned
          cases scanned
        | ok rest =>
          rw [deeper] at scanned
          cases scanned
          simp [ignored, SetupEntry.isDirectory]

theorem scan_entry_below {part : Snapshot} {entry : SetupEntry}
    (scanned : scanEntry mapping extraOutputGlobs baseline tree below path = .ok part)
    (found : tree.listing.entry path = some entry)
    (kept : scanEntryIsIgnored mapping extraOutputGlobs baseline path entry = false)
    (directory : entry.isDirectory = true) : ∃ rest, below path = .ok rest := by
  cases entry with
  | directory mode =>
    rw [scanEntry, found] at scanned
    dsimp only at scanned
    rw [if_neg (ne_true_of_eq_false kept)] at scanned
    cases deeper : below path with
    | ok rest => exact ⟨rest, rfl⟩
    | error problem =>
      rw [deeper] at scanned
      cases scanned
  | file | link | special => cases directory

theorem scan_names_ok {names : List Text} {snapshot : Snapshot}
    (scanned : scanNames mapping extraOutputGlobs baseline tree below path names = .ok snapshot) :
    (∀ name ∈ names, ∃ part,
      scanEntry mapping extraOutputGlobs baseline tree below (path ++ [name]) = .ok part) ∧
    ∀ item, item ∈ snapshot ↔ ∃ name ∈ names, ∃ part,
      scanEntry mapping extraOutputGlobs baseline tree below (path ++ [name]) = .ok part ∧
        item ∈ part := by
  induction names generalizing snapshot with
  | nil =>
    cases scanned
    simp
  | cons name rest ih =>
    unfold scanNames at scanned
    cases first : scanEntry mapping extraOutputGlobs baseline tree below (path ++ [name]) with
    | error problem =>
      rw [first] at scanned
      cases scanned
    | ok part =>
      rw [first] at scanned
      dsimp only at scanned
      cases later : scanNames mapping extraOutputGlobs baseline tree below path rest with
      | error problem =>
        rw [later] at scanned
        cases scanned
      | ok others =>
        rw [later] at scanned
        cases scanned
        obtain ⟨parts, members⟩ := ih later
        refine ⟨List.forall_mem_cons.2 ⟨⟨part, first⟩, parts⟩, fun item => ?_⟩
        rw [List.mem_append, members, List.exists_mem_cons_iff]
        simp only [first, Except.ok.injEq, exists_eq_left']

theorem mem_scan_directory {depth : Nat} {path : List Text} {snapshot : Snapshot}
    (scanned : scanDirectory mapping extraOutputGlobs baseline tree depth path = .ok snapshot)
    (item : Text × FidelityState) :
    item ∈ snapshot ↔ ∃ below entry, below ≠ [] ∧ below.length ≤ depth ∧
      tree.listing.entry (path ++ below) = some entry ∧
      item = (relText (path ++ below), entryState entry) ∧
      Passed mapping extraOutputGlobs baseline tree path below := by
  induction depth generalizing path snapshot with
  | zero =>
    cases scanned
    refine iff_of_false (fun member => nomatch member) ?_
    rintro ⟨below, entry, some, short, -⟩
    exact some (List.length_eq_zero_iff.1 (Nat.le_zero.1 short))
  | succ depth ih =>
    obtain ⟨parts, members⟩ := scan_names_ok scanned
    rw [members]
    constructor
    · rintro ⟨name, -, part, first, member⟩
      obtain ⟨entry, present, kept, same | ⟨-, rest, deeper, member⟩⟩ :=
        (mem_scan_entry first item).1 member
      · refine ⟨[name], entry, by simp, by simp, present, same, ?_⟩
        exact (passed_cons present).2 ⟨kept, fun front some inside =>
          absurd (List.prefix_nil.1 inside) some⟩
      · obtain ⟨below, other, some, short, found, same, passed⟩ := (ih deeper).1 member
        have grouped : path ++ [name] ++ below = path ++ name :: below := by simp
        rw [grouped] at found same
        exact ⟨name :: below, other, by simp, by simpa using short, found, same,
          (passed_cons present).2 ⟨kept, passed⟩⟩
    · rintro ⟨below, entry, some, short, found, same, passed⟩
      obtain ⟨name, rest, rfl⟩ := List.exists_cons_of_ne_nil some
      have grouped : path ++ name :: rest = path ++ [name] ++ rest := by simp
      rw [grouped] at found same
      have present : (tree.listing.entry (path ++ [name])).isSome = true := by
        by_cases last : rest = []
        · rw [last, List.append_nil] at found
          rw [found]
          rfl
        · apply tree.listing.is_some_of_directory
          exact tree.listing.is_directory_of_below _ rest last (by rw [found]; rfl)
      have listed := (Listing.mem_sorted_names tree.listing Text.le path name).2 present
      obtain ⟨part, first⟩ := parts name listed
      obtain ⟨here, shown⟩ := Option.isSome_iff_exists.1 present
      obtain ⟨kept, later⟩ := (passed_cons shown).1 passed
      refine ⟨name, listed, part, first, (mem_scan_entry first item).2 ⟨here, shown, kept, ?_⟩⟩
      by_cases last : rest = []
      · rw [last, List.append_nil] at found same
        rw [shown] at found
        cases found
        exact .inl same
      · have directory := tree.listing.is_directory_of_below (path ++ [name]) rest last
          (by rw [found]; rfl)
        rw [Listing.isDirectory, shown] at directory
        obtain ⟨deeper, scannedBelow⟩ := scan_entry_below first shown kept directory
        refine .inr ⟨directory, deeper, scannedBelow, (ih scannedBelow).2 ?_⟩
        exact ⟨rest, entry, last, by simpa using short, found, same, later⟩

theorem scan_entry_error {problem : SetupFidelityError}
    (failed : scanEntry mapping extraOutputGlobs baseline tree below path = .error problem) :
    ∃ entry, tree.listing.entry path = some entry ∧
      scanEntryIsIgnored mapping extraOutputGlobs baseline path entry = false ∧
        ((∃ mode links data, entry = .file mode links data ∧ links ≠ 1) ∨
          below path = .error problem) := by
  unfold scanEntry at failed
  cases found : tree.listing.entry path with
  | none =>
    rw [found] at failed
    cases failed
  | some entry =>
    rw [found] at failed
    dsimp only at failed
    split at failed
    · cases failed
    · next kept =>
        refine ⟨entry, rfl, eq_false_of_ne_true kept, ?_⟩
        cases entry with
        | file mode links data =>
          dsimp only at failed
          split_ifs at failed with single
          exact .inl ⟨mode, links, data, rfl, single⟩
        | link mode target | special mode format => cases failed
        | directory mode =>
          dsimp only at failed
          cases deeper : below path with
          | ok rest =>
            rw [deeper] at failed
            cases failed
          | error other =>
            rw [deeper] at failed
            cases failed
            exact .inr rfl

theorem scan_names_error {names : List Text} {problem : SetupFidelityError}
    (failed : scanNames mapping extraOutputGlobs baseline tree below path names =
      .error problem) : ∃ name ∈ names,
        scanEntry mapping extraOutputGlobs baseline tree below (path ++ [name]) =
          .error problem := by
  induction names with
  | nil => cases failed
  | cons name rest ih =>
    unfold scanNames at failed
    cases first : scanEntry mapping extraOutputGlobs baseline tree below (path ++ [name]) with
    | error other =>
      rw [first] at failed
      cases failed
      exact ⟨name, List.mem_cons_self, first⟩
    | ok part =>
      rw [first] at failed
      dsimp only at failed
      cases later : scanNames mapping extraOutputGlobs baseline tree below path rest with
      | error other =>
        rw [later] at failed
        cases failed
        obtain ⟨found, listed, raised⟩ := ih later
        exact ⟨found, List.mem_cons_of_mem _ listed, raised⟩
      | ok others =>
        rw [later] at failed
        cases failed

theorem scan_directory_error {depth : Nat} {path : List Text} {problem : SetupFidelityError}
    (failed : scanDirectory mapping extraOutputGlobs baseline tree depth path = .error problem) :
    ∃ below mode links data, below ≠ [] ∧
      tree.listing.entry (path ++ below) = some (.file mode links data) ∧ links ≠ 1 ∧
        Passed mapping extraOutputGlobs baseline tree path below := by
  induction depth generalizing path with
  | zero => cases failed
  | succ depth ih =>
    obtain ⟨name, -, raised⟩ := scan_names_error failed
    obtain ⟨entry, present, kept, ⟨mode, links, data, rfl, several⟩ | deeper⟩ :=
      scan_entry_error raised
    · refine ⟨[name], mode, links, data, by simp, present, several, ?_⟩
      exact (passed_cons present).2 ⟨kept, fun front some inside =>
        absurd (List.prefix_nil.1 inside) some⟩
    · obtain ⟨below, mode, links, data, some, found, several, passed⟩ := ih deeper
      have grouped : path ++ [name] ++ below = path ++ name :: below := by simp
      rw [grouped] at found
      exact ⟨name :: below, mode, links, data, by simp, found, several,
        (passed_cons present).2 ⟨kept, passed⟩⟩

end

end EvoomGuard.Verifiers.SetupFidelity
