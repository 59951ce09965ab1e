import EvoomGuard.Lib.Json

/-!
A file system under POSIX permission rules, and what an unprivileged process without supplementary
groups can do to it: nodes with an owner, a group and mode bits, directories as lists of entries,
paths walked from the root with search permission at every step. A symbolic link is an entry of
its own and is not followed, since what it names is also named by a path without links.
-/

namespace EvoomGuard.Lib.Posix

structure Credentials where
  uid : Nat
  gid : Nat
  deriving DecidableEq

inductive Access where
  | search
  | write
  | read
  deriving DecidableEq, Repr

def Access.bit : Access → Nat
  | .search => 0
  | .write => 1
  | .read => 2

inductive Kind where
  | file (content : List UInt8)
  | directory (entries : List (Text × Nat))
  | symlink (target : Text)
  | special
  deriving DecidableEq

def Kind.entries : Kind → List (Text × Nat)
  | .directory entries => entries
  | _ => []

def Kind.isDirectory : Kind → Bool
  | .directory _ => true
  | _ => false

def Kind.isFile : Kind → Bool
  | .file _ => true
  | _ => false

structure Inode where
  kind : Kind
  uid : Nat
  gid : Nat
  mode : Nat
  deriving DecidableEq

/-- The first class that matches decides: owner, then group, then others. -/
def Inode.allows (who : Credentials) (access : Access) (node : Inode) : Bool :=
  if node.uid = who.uid then node.mode.testBit (6 + access.bit)
  else if node.gid = who.gid then node.mode.testBit (3 + access.bit)
  else node.mode.testBit access.bit

def Inode.sticky (node : Inode) : Bool := node.mode.testBit 9

structure FileSystem where
  node : Nat → Option Inode
  root : Nat
  next : Nat
  unused : ∀ id, next ≤ id → node id = none

namespace FileSystem

variable (fs : FileSystem)

def entries (id : Nat) : List (Text × Nat) := ((fs.node id).map fun node => node.kind.entries).getD []

def isDirectory (id : Nat) : Bool := (fs.node id).any fun node => node.kind.isDirectory

def child (id : Nat) (name : Text) : Option Nat := (fs.entries id).lookup name

def allows (who : Credentials) (access : Access) (id : Nat) : Bool :=
  (fs.node id).any (Inode.allows who access)

def owns (who : Credentials) (id : Nat) : Bool := (fs.node id).any fun node => node.uid == who.uid

/-- Where a path leads, whoever asks. -/
def resolve : Nat → List Text → Option Nat
  | id, [] => some id
  | id, name :: rest => (fs.child id name).bind fun next => resolve next rest

/-- Where a path leads for one who needs search permission in every directory on the way. -/
def walk (who : Credentials) : Nat → List Text → Option Nat
  | id, [] => some id
  | id, name :: rest =>
    if fs.allows who .search id then (fs.child id name).bind fun next => walk who next rest
    else none

/-- A directory stands in one directory only, and the root in none. -/
structure Tree : Prop where
  root_above : ∀ directory name, (name, fs.root) ∉ fs.entries directory
  one_parent : ∀ first second name other id, fs.isDirectory id = true →
    (name, id) ∈ fs.entries first → (other, id) ∈ fs.entries second → first = second

/-! Changes of nodes -/

def update (id : Nat) (change : Inode → Inode) : FileSystem where
  node other := if other = id then (fs.node other).map change else fs.node other
  root := fs.root
  next := fs.next
  unused := by
    intro other beyond
    split_ifs
    · rw [fs.unused other beyond]
      rfl
    · exact fs.unused other beyond

def alloc (made : Inode) : FileSystem where
  node other := if other = fs.next then some made else fs.node other
  root := fs.root
  next := fs.next + 1
  unused := by
    intro other beyond
    rw [if_neg (by omega)]
    exact fs.unused other (by omega)

def setEntries (change : List (Text × Nat) → List (Text × Nat)) (node : Inode) : Inode :=
  match node.kind with
  | .directory entries => { node with kind := .directory (change entries) }
  | _ => node

end FileSystem

/-! What a process can do -/

def validName (name : Text) : Bool :=
  !name.isEmpty && !name.contains '/' && name != ['.'] && name != ['.', '.']

inductive Action where
  | read (path : List Text)
  | write (path : List Text) (content : List UInt8)
  | chmod (path : List Text) (mode : Nat)
  | create (directory : List Text) (name : Text) (made : Kind) (mode : Nat)
  | link (path directory : List Text) (name : Text)
  | remove (directory : List Text) (name : Text)
  | rename (source : List Text) (name : Text) (target : List Text) (renamed : Text)

section Steps

variable (who : Credentials) (fs : FileSystem)

def reached (path : List Text) : Option (Nat × Inode) :=
  (fs.walk who fs.root path).bind fun id => (fs.node id).map fun node => (id, node)

/-- A directory whose entries the process may change. -/
def writableDirectory (path : List Text) : Option Nat :=
  match reached who fs path with
  | some (id, node) =>
    if node.kind.isDirectory && node.allows who .write && node.allows who .search then some id
    else none
  | none => none

-- In a sticky directory only the owner of the directory or of the entry removes it.
def mayUnlink (directory id : Nat) : Bool :=
  !(fs.node directory).any Inode.sticky || fs.owns who directory || fs.owns who id

/-- What stands under the new name gives way: an empty directory to a directory, anything else to
anything else. -/
def mayReplace (moved target : Nat) : Bool :=
  if fs.isDirectory moved then fs.isDirectory target && (fs.entries target).isEmpty
  else !fs.isDirectory target

def withoutName (name : Text) (entries : List (Text × Nat)) : List (Text × Nat) :=
  entries.filter fun entry => entry.1 != name

def withEntry (name : Text) (id : Nat) (entries : List (Text × Nat)) : List (Text × Nat) :=
  withoutName name entries ++ [(name, id)]

/-- One action, or `none` where the permission rules refuse it. -/
def step : Action → Option FileSystem
  | .read path =>
    match reached who fs path with
    | some (_, node) => if node.kind.isFile && node.allows who .read then some fs else none
    | none => none
  | .write path content =>
    match reached who fs path with
    | some (id, node) =>
      if node.kind.isFile && node.allows who .write then
        some (fs.update id fun node => { node with kind := .file content })
      else none
    | none => none
  | .chmod path mode =>
    match reached who fs path with
    | some (id, node) =>
      if node.uid = who.uid then some (fs.update id fun node => { node with mode := mode })
      else none
    | none => none
  | .create directory name made mode =>
    match writableDirectory who fs directory with
    | some id =>
      if validName name && (fs.child id name).isNone && made.entries.isEmpty then
        some ((fs.alloc ⟨made, who.uid, who.gid, mode⟩).update id
          (FileSystem.setEntries (withEntry name fs.next)))
      else none
    | none => none
  | .link path directory name =>
    match reached who fs path, writableDirectory who fs directory with
    | some (target, node), some id =>
      if !node.kind.isDirectory && validName name && (fs.child id name).isNone then
        some (fs.update id (FileSystem.setEntries (withEntry name target)))
      else none
    | _, _ => none
  | .remove directory name =>
    match writableDirectory who fs directory with
    | some id =>
      match fs.child id name with
      | some target =>
        if mayUnlink who fs id target && (fs.entries target).isEmpty then
          some (fs.update id (FileSystem.setEntries (withoutName name)))
        else none
      | none => none
    | none => none
  | .rename source name target renamed =>
    match writableDirectory who fs source, writableDirectory who fs target with
    | some giving, some taking =>
      match fs.child giving name with
      | some moved =>
        if mayUnlink who fs giving moved && validName renamed &&
            (!fs.isDirectory moved || (decide (giving = taking) ||
              fs.allows who .write moved) && !(source ++ [name]).isPrefixOf target) &&
            (fs.child taking renamed).all fun replaced =>
              mayUnlink who fs taking replaced && mayReplace fs moved replaced then
          if fs.child taking renamed = some moved then some fs
          else
            some ((fs.update giving (FileSystem.setEntries (withoutName name))).update taking
              (FileSystem.setEntries (withEntry renamed moved)))
        else none
      | none => none
    | _, _ => none

def run (fs : FileSystem) : List Action → Option FileSystem
  | [] => some fs
  | action :: rest => (step who fs action).bind fun next => run next rest

end Steps

/-! Nodes and entries after a change -/

namespace FileSystem

variable (fs : FileSystem)

theorem update_other (id other : Nat) (change : Inode → Inode) (apart : other ≠ id) :
    (fs.update id change).node other = fs.node other := if_neg apart

theorem update_self (id : Nat) (change : Inode → Inode) :
    (fs.update id change).node id = (fs.node id).map change := if_pos rfl

theorem alloc_other (made : Inode) (other : Nat) (apart : other ≠ fs.next) :
    (fs.alloc made).node other = fs.node other := if_neg apart

theorem alloc_self (made : Inode) : (fs.alloc made).node fs.next = some made := if_pos rfl

theorem present_below (id : Nat) (node : Inode) (present : fs.node id = some node) :
    id < fs.next := by
  by_contra beyond
  rw [fs.unused id (by omega)] at present
  cases present

theorem entries_congr (other : FileSystem) (id : Nat) (same : other.node id = fs.node id) :
    other.entries id = fs.entries id := by
  rw [entries, entries, same]

theorem entries_present (id : Nat) (node : Inode) (present : fs.node id = some node) :
    fs.entries id = node.kind.entries := by
  rw [entries, present]
  rfl

theorem entries_set (change : List (Text × Nat) → List (Text × Nat)) (node : Inode)
    (entry : Text × Nat) (member : entry ∈ (setEntries change node).kind.entries) :
    entry ∈ change node.kind.entries := by
  cases kind : node.kind with
  | directory entries =>
    rw [setEntries, kind] at member
    exact member
  | _ =>
    rw [setEntries, kind] at member
    rw [kind] at member
    cases member

theorem entries_update_set (id : Nat) (change : List (Text × Nat) → List (Text × Nat))
    (directory : Nat) (entry : Text × Nat)
    (member : entry ∈ (fs.update id (setEntries change)).entries directory) :
    (directory ≠ id ∧ entry ∈ fs.entries directory) ∨
      (directory = id ∧ entry ∈ change (fs.entries directory)) := by
  by_cases same : directory = id
  · subst same
    cases present : fs.node directory with
    | none =>
      rw [entries, update_self, present] at member
      cases member
    | some node =>
      rw [entries_present _ directory (setEntries change node) (by
        rw [update_self, present]
        rfl)] at member
      rw [entries_present fs directory node present]
      exact Or.inr ⟨rfl, entries_set change node entry member⟩
  · rw [entries_congr fs _ directory (update_other fs id directory _ same)] at member
    exact Or.inl ⟨same, member⟩

end FileSystem

theorem without_name_mem (name : Text) (entries : List (Text × Nat)) (entry : Text × Nat)
    (member : entry ∈ withoutName name entries) : entry ∈ entries :=
  (List.mem_filter.mp member).1

theorem with_entry_mem (name : Text) (id : Nat) (entries : List (Text × Nat))
    (entry : Text × Nat) (member : entry ∈ withEntry name id entries) :
    entry ∈ entries ∨ entry.2 = id := by
  rw [withEntry, List.mem_append, List.mem_singleton] at member
  cases member with
  | inl old => exact Or.inl (without_name_mem name entries entry old)
  | inr new => exact Or.inr (by rw [new])

/-! What one action changes -/

section

variable {who : Credentials} {fs after : FileSystem}

variable {path : List Text} {id : Nat}

theorem reached_walk {node : Inode}
    (found : reached who fs path = some (id, node)) :
    fs.walk who fs.root path = some id ∧ fs.node id = some node := by
  rw [reached, Option.bind_eq_some_iff] at found
  obtain ⟨target, walked, present⟩ := found
  rw [Option.map_eq_some_iff] at present
  obtain ⟨held, stored, same⟩ := present
  cases same
  exact ⟨walked, stored⟩

theorem writable_directory_node (found : writableDirectory who fs path = some id) :
    ∃ node, fs.walk who fs.root path = some id ∧ fs.node id = some node ∧
      node.kind.isDirectory = true ∧ node.allows who .write = true ∧
      node.allows who .search = true := by
  rw [writableDirectory] at found
  cases target : reached who fs path with
  | none => simp [target] at found
  | some pair =>
    obtain ⟨reachedId, node⟩ := pair
    simp only [target] at found
    split_ifs at found with permitted
    cases found
    obtain ⟨walked, present⟩ := reached_walk target
    simp only [Bool.and_eq_true] at permitted
    exact ⟨node, walked, present, permitted.1.1, permitted.1.2, permitted.2⟩

/-- A node the process can get at and change. -/
def Exposed (who : Credentials) (fs : FileSystem) (id : Nat) : Prop :=
  ∃ path node, fs.walk who fs.root path = some id ∧ fs.node id = some node ∧
    (node.uid = who.uid ∨ node.allows who .write = true)

theorem writable_exposed (found : writableDirectory who fs path = some id) : Exposed who fs id := by
  obtain ⟨node, walked, present, directory, writable, searchable⟩ := writable_directory_node found
  exact ⟨path, node, walked, present, Or.inr writable⟩

/-- A directory the process gets at and searches holds the entry. -/
def Listed (who : Credentials) (fs : FileSystem) (id : Nat) : Prop :=
  ∃ path parent name, fs.walk who fs.root path = some parent ∧
    fs.allows who .search parent = true ∧ (name, id) ∈ fs.entries parent

/-- Everything an action can do to a file system: nodes change where they are exposed, and new
entries name a new node, a node that is no directory, or one the process found listed. -/
structure Effect (who : Credentials) (fs after : FileSystem) : Prop where
  root_same : after.root = fs.root
  next_le : fs.next ≤ after.next
  node_same : ∀ id node, fs.node id = some node → ¬ Exposed who fs id →
    after.node id = some node
  entry_new : ∀ directory name id, (name, id) ∈ after.entries directory →
    (∃ old, (old, id) ∈ fs.entries directory) ∨ fs.next ≤ id ∨ fs.isDirectory id = false ∨
      Listed who fs id

theorem effect_refl : Effect who fs fs where
  root_same := rfl
  next_le := Nat.le_refl _
  node_same _ _ present _ := present
  entry_new _ name _ member := Or.inl ⟨name, member⟩

theorem effect_update {id : Nat} {change : Inode → Inode} (exposed : Exposed who fs id)
    (kept : ∀ node, fs.node id = some node → (change node).kind.entries = node.kind.entries) :
    Effect who fs (fs.update id change) where
  root_same := rfl
  next_le := Nat.le_refl _
  node_same := by
    intro other node present hidden
    have apart : other ≠ id := by
      intro same
      rw [same] at hidden
      exact hidden exposed
    rw [fs.update_other id other change apart]
    exact present
  entry_new := by
    intro directory name target member
    by_cases same : directory = id
    · subst same
      cases present : fs.node directory with
      | none =>
        rw [FileSystem.entries, FileSystem.update_self, present] at member
        cases member
      | some node =>
        rw [FileSystem.entries_present _ directory (change node) (by
          rw [FileSystem.update_self, present]
          rfl), kept node present, ← fs.entries_present directory node present] at member
        exact Or.inl ⟨name, member⟩
    · rw [FileSystem.entries_congr fs _ directory (fs.update_other id directory change same)]
        at member
      exact Or.inl ⟨name, member⟩

theorem effect_set {id : Nat} {middle : FileSystem}
    {change : List (Text × Nat) → List (Text × Nat)} (first : Effect who fs middle)
    (exposed : Exposed who fs id)
    (allowed : ∀ entries entry, entry ∈ change entries → entry ∈ entries ∨
      fs.next ≤ entry.2 ∨ fs.isDirectory entry.2 = false ∨ Listed who fs entry.2) :
    Effect who fs (middle.update id (FileSystem.setEntries change)) where
  root_same := first.root_same
  next_le := first.next_le
  node_same := by
    intro other node present hidden
    have apart : other ≠ id := by
      intro same
      rw [same] at hidden
      exact hidden exposed
    rw [middle.update_other id other _ apart]
    exact first.node_same other node present hidden
  entry_new := by
    intro directory name target member
    cases middle.entries_update_set id change directory (name, target) member with
    | inl other => exact first.entry_new directory name target other.2
    | inr changed =>
      cases allowed _ _ changed.2 with
      | inl old => exact first.entry_new directory name target old
      | inr new => exact Or.inr new

theorem effect_alloc {made : Inode} (empty : made.kind.entries = []) :
    Effect who fs (fs.alloc made) where
  root_same := rfl
  next_le := Nat.le_succ _
  node_same := by
    intro other node present hidden
    have below := fs.present_below other node present
    rw [fs.alloc_other made other (by omega)]
    exact present
  entry_new := by
    intro directory name target member
    by_cases same : directory = fs.next
    · subst same
      rw [FileSystem.entries_present _ _ made (fs.alloc_self made), empty] at member
      cases member
    · rw [FileSystem.entries_congr fs _ directory (fs.alloc_other made directory same)] at member
      exact Or.inl ⟨name, member⟩

theorem mem_of_child {id target : Nat} {name : Text} (found : fs.child id name = some target) :
    (name, target) ∈ fs.entries id := by
  exact mem_of_lookup_eq (fs.entries id) name target found

theorem step_effect {action : Action} (stepped : step who fs action = some after) :
    Effect who fs after := by
  cases action with
  | read path =>
    rw [step] at stepped
    cases found : reached who fs path with
    | none => simp [found] at stepped
    | some pair =>
      simp only [found] at stepped
      split_ifs at stepped
      cases stepped
      exact effect_refl
  | write path content =>
    rw [step] at stepped
    cases found : reached who fs path with
    | none => simp [found] at stepped
    | some pair =>
      obtain ⟨id, node⟩ := pair
      simp only [found] at stepped
      split_ifs at stepped with permitted
      cases stepped
      rw [Bool.and_eq_true] at permitted
      obtain ⟨walked, present⟩ := reached_walk found
      apply effect_update ⟨path, node, walked, present, Or.inr permitted.2⟩
      intro other stored
      cases present.symm.trans stored
      cases kind : node.kind with
      | file old => rfl
      | _ => simp [kind, Kind.isFile] at permitted
  | chmod path mode =>
    rw [step] at stepped
    cases found : reached who fs path with
    | none => simp [found] at stepped
    | some pair =>
      obtain ⟨id, node⟩ := pair
      simp only [found] at stepped
      split_ifs at stepped with owned
      cases stepped
      obtain ⟨walked, present⟩ := reached_walk found
      apply effect_update ⟨path, node, walked, present, Or.inl owned⟩
      intro other stored
      rfl
  | create directory name made mode =>
    rw [step] at stepped
    cases found : writableDirectory who fs directory with
    | none => simp [found] at stepped
    | some id =>
      simp only [found] at stepped
      split_ifs at stepped with permitted
      cases stepped
      simp only [Bool.and_eq_true, List.isEmpty_iff] at permitted
      apply effect_set (effect_alloc permitted.2) (writable_exposed found)
      intro entries entry member
      cases with_entry_mem name fs.next entries entry member with
      | inl old => exact Or.inl old
      | inr new => exact Or.inr (Or.inl (Nat.le_of_eq new.symm))
  | link path directory name =>
    rw [step] at stepped
    cases linked : reached who fs path with
    | none => simp [linked] at stepped
    | some pair =>
      obtain ⟨target, node⟩ := pair
      cases found : writableDirectory who fs directory with
      | none => simp [linked, found] at stepped
      | some id =>
        simp only [linked, found] at stepped
        split_ifs at stepped with permitted
        cases stepped
        simp only [Bool.and_eq_true, Bool.not_eq_true'] at permitted
        obtain ⟨walked, present⟩ := reached_walk linked
        apply effect_set effect_refl (writable_exposed found)
        intro entries entry member
        cases with_entry_mem name target entries entry member with
        | inl old => exact Or.inl old
        | inr new =>
          refine Or.inr (Or.inr (Or.inl ?_))
          rw [new, FileSystem.isDirectory, present]
          exact permitted.1.1
  | remove directory name =>
    rw [step] at stepped
    cases found : writableDirectory who fs directory with
    | none => simp [found] at stepped
    | some id =>
      cases named : fs.child id name with
      | none => simp [found, named] at stepped
      | some target =>
        simp only [found, named] at stepped
        split_ifs at stepped
        cases stepped
        apply effect_set effect_refl (writable_exposed found)
        intro entries entry member
        exact Or.inl (without_name_mem name entries entry member)
  | rename source name target renamed =>
    rw [step] at stepped
    cases giving : writableDirectory who fs source with
    | none => simp [giving] at stepped
    | some old =>
      cases taking : writableDirectory who fs target with
      | none => simp [giving, taking] at stepped
      | some new =>
        cases named : fs.child old name with
        | none => simp [giving, taking, named] at stepped
        | some moved =>
          simp only [giving, taking, named] at stepped
          split_ifs at stepped
          · cases stepped
            exact effect_refl
          · cases stepped
            obtain ⟨node, walked, present, directory, writable, searchable⟩ :=
              writable_directory_node giving
            apply effect_set
            · apply effect_set effect_refl (writable_exposed giving)
              intro entries entry member
              exact Or.inl (without_name_mem name entries entry member)
            · exact writable_exposed taking
            · intro entries entry member
              cases with_entry_mem renamed moved entries entry member with
              | inl same => exact Or.inl same
              | inr added =>
                refine Or.inr (Or.inr (Or.inr ⟨source, old, name, walked, ?_, ?_⟩))
                · rw [FileSystem.allows, present]
                  exact searchable
                · rw [added]
                  exact mem_of_child named

end

/-! Paths -/

namespace FileSystem

variable (fs : FileSystem) (who : Credentials)

theorem resolve_append (id : Nat) (above below : List Text) :
    fs.resolve id (above ++ below) = (fs.resolve id above).bind fun next => fs.resolve next below := by
  induction above generalizing id with
  | nil => rfl
  | cons name rest later =>
    rw [List.cons_append, resolve, resolve, Option.bind_assoc]
    congr 1
    funext next
    exact later next

theorem walk_append (id : Nat) (above below : List Text) :
    fs.walk who id (above ++ below) =
      (fs.walk who id above).bind fun next => fs.walk who next below := by
  induction above generalizing id with
  | nil => rfl
  | cons name rest later =>
    rw [List.cons_append, walk, walk]
    by_cases searched : fs.allows who .search id = true
    · rw [if_pos searched, if_pos searched, Option.bind_assoc]
      congr 1
      funext next
      exact later next
    · rw [if_neg searched, if_neg searched]
      rfl

theorem walk_concat (id target : Nat) (above : List Text) (name : Text) :
    fs.walk who id (above ++ [name]) = some target ↔
      ∃ parent, fs.walk who id above = some parent ∧ fs.allows who .search parent = true ∧
        fs.child parent name = some target := by
  rw [walk_append, Option.bind_eq_some_iff]
  constructor
  · intro found
    obtain ⟨parent, walked, last⟩ := found
    rw [walk] at last
    split_ifs at last with searched
    rw [Option.bind_eq_some_iff] at last
    obtain ⟨next, named, same⟩ := last
    cases same
    exact ⟨parent, walked, searched, named⟩
  · intro found
    obtain ⟨parent, walked, searched, named⟩ := found
    refine ⟨parent, walked, ?_⟩
    rw [walk, if_pos searched, named]
    rfl

theorem resolve_concat (id target : Nat) (above : List Text) (name : Text) :
    fs.resolve id (above ++ [name]) = some target ↔
      ∃ parent, fs.resolve id above = some parent ∧ fs.child parent name = some target := by
  rw [resolve_append, Option.bind_eq_some_iff]
  constructor
  · intro found
    obtain ⟨parent, resolved, last⟩ := found
    rw [resolve, Option.bind_eq_some_iff] at last
    obtain ⟨next, named, same⟩ := last
    cases same
    exact ⟨parent, resolved, named⟩
  · intro found
    obtain ⟨parent, resolved, named⟩ := found
    refine ⟨parent, resolved, ?_⟩
    rw [resolve, named]
    rfl

theorem directory_of_entry (id : Nat) (entry : Text × Nat) (member : entry ∈ fs.entries id) :
    fs.isDirectory id = true := by
  rw [entries] at member
  cases present : fs.node id with
  | none =>
    rw [present] at member
    cases member
  | some node =>
    rw [present] at member
    rw [isDirectory, present]
    cases kind : node.kind with
    | directory entries => simp [kind, Kind.isDirectory]
    | _ => simp [kind, Kind.entries] at member

theorem walk_of_resolve (tree : fs.Tree) (above : List Text) :
    ∀ (id : Nat) (path : List Text), fs.isDirectory id = true →
      fs.resolve fs.root above = some id → fs.walk who fs.root path = some id →
      fs.walk who fs.root above = some id := by
  induction above using List.reverseRecOn with
  | nil =>
    intro id path directory resolved walked
    exact resolved
  | append_singleton up name higher =>
    intro id path directory resolved walked
    obtain ⟨parent, ahead, named⟩ := (fs.resolve_concat fs.root id up name).mp resolved
    have listed := mem_of_child named
    cases path using List.reverseRecOn with
    | nil =>
      cases walked
      exact absurd listed (tree.root_above parent name)
    | append_singleton before last =>
      obtain ⟨other, walkedOther, searched, namedOther⟩ :=
        (fs.walk_concat who fs.root id before last).mp walked
      have same : other = parent :=
        tree.one_parent other parent last name id directory (mem_of_child namedOther) listed
      subst same
      have again := higher other before (fs.directory_of_entry other _ listed) ahead walkedOther
      exact (fs.walk_concat who fs.root id up name).mpr ⟨other, again, searched, named⟩

end FileSystem

/-! A set of nodes out of reach -/

/-- The kept nodes can neither be chmodded nor written, or they are hidden: directories that hang
below a directory the process may not search. -/
structure Sealed (who : Credentials) (fs : FileSystem) (kept hidden : Nat → Prop) : Prop where
  present : ∀ id, kept id → ∃ node, fs.node id = some node ∧
    (hidden id ∨ (node.uid ≠ who.uid ∧ node.allows who .write = false))
  directories : ∀ id, hidden id → kept id ∧ fs.isDirectory id = true
  root_open : ¬ hidden fs.root
  parents : ∀ id directory name, hidden id → (name, id) ∈ fs.entries directory →
    kept directory ∧ (hidden directory ∨ fs.allows who .search directory = false)

section Sealing

variable {who : Credentials} {fs after : FileSystem} {kept hidden : Nat → Prop}

theorem sealed_walk (closed : Sealed who fs kept hidden) (path : List Text) :
    ∀ id, fs.walk who fs.root path = some id → ¬ hidden id := by
  induction path using List.reverseRecOn with
  | nil =>
    intro id walked
    cases walked
    exact closed.root_open
  | append_singleton before last higher =>
    intro id walked away
    obtain ⟨parent, walkedParent, searched, named⟩ :=
      (fs.walk_concat who fs.root id before last).mp walked
    cases (closed.parents id parent last away (mem_of_child named)).2 with
    | inl hiddenParent => exact higher parent walkedParent hiddenParent
    | inr unsearched =>
      rw [unsearched] at searched
      cases searched

theorem sealed_unlisted (closed : Sealed who fs kept hidden) (id : Nat) (away : hidden id) :
    ¬ Listed who fs id := by
  intro listed
  obtain ⟨path, parent, name, walked, searched, member⟩ := listed
  cases (closed.parents id parent name away member).2 with
  | inl hiddenParent => exact sealed_walk closed path parent walked hiddenParent
  | inr unsearched =>
    rw [unsearched] at searched
    cases searched

theorem sealed_unexposed (closed : Sealed who fs kept hidden) (id : Nat) (held : kept id) :
    ¬ Exposed who fs id := by
  intro exposed
  obtain ⟨path, node, walked, stored, touchable⟩ := exposed
  obtain ⟨other, present, guarded⟩ := closed.present id held
  cases stored.symm.trans present
  cases guarded with
  | inl away => exact sealed_walk closed path id walked away
  | inr refused =>
    cases touchable with
    | inl owned => exact refused.1 owned
    | inr writable =>
      rw [refused.2] at writable
      cases writable

theorem step_sealed {action : Action} (closed : Sealed who fs kept hidden)
    (stepped : step who fs action = some after) :
    Sealed who after kept hidden ∧ ∀ id, kept id → after.node id = fs.node id := by
  have effect := step_effect stepped
  have same : ∀ id, kept id → after.node id = fs.node id := by
    intro id held
    obtain ⟨node, present, guarded⟩ := closed.present id held
    rw [effect.node_same id node present (sealed_unexposed closed id held), present]
  refine ⟨?_, same⟩
  constructor
  · intro id held
    rw [same id held]
    exact closed.present id held
  · intro id away
    have before := closed.directories id away
    rw [FileSystem.isDirectory, same id before.1]
    exact before
  · rw [effect.root_same]
    exact closed.root_open
  · intro id directory name away member
    have before := closed.directories id away
    have allowed : ∀ parent, kept parent ∧ (hidden parent ∨ fs.allows who .search parent = false) →
        kept parent ∧ (hidden parent ∨ after.allows who .search parent = false) := by
      intro parent held
      rw [FileSystem.allows, same parent held.1]
      exact held
    rcases effect.entry_new directory name id member with old | new | plain | listed
    · obtain ⟨named, inside⟩ := old
      exact allowed directory (closed.parents id directory named away inside)
    · obtain ⟨node, present, guarded⟩ := closed.present id before.1
      have below := fs.present_below id node present
      omega
    · rw [before.2] at plain
      cases plain
    · exact absurd listed (sealed_unlisted closed id away)

theorem run_sealed (actions : List Action) : ∀ fs : FileSystem, Sealed who fs kept hidden →
    run who fs actions = some after →
    Sealed who after kept hidden ∧ ∀ id, kept id → after.node id = fs.node id := by
  induction actions with
  | nil =>
    intro fs closed ran
    cases ran
    exact ⟨closed, fun _ _ => rfl⟩
  | cons action rest later =>
    intro fs closed ran
    rw [run, Option.bind_eq_some_iff] at ran
    obtain ⟨next, stepped, onward⟩ := ran
    have first := step_sealed closed stepped
    have final := later next first.1 onward
    refine ⟨final.1, ?_⟩
    intro id held
    exact (final.2 id held).trans (first.2 id held)

theorem run_root (actions : List Action) : ∀ fs : FileSystem,
    run who fs actions = some after → after.root = fs.root := by
  induction actions with
  | nil =>
    intro fs ran
    cases ran
    rfl
  | cons action rest later =>
    intro fs ran
    rw [run, Option.bind_eq_some_iff] at ran
    obtain ⟨next, stepped, onward⟩ := ran
    exact (later next onward).trans (step_effect stepped).root_same

end Sealing

/-! Taking over a directory -/

namespace FileSystem

variable (fs : FileSystem)

/-- The directories a path goes through. -/
def passed : Nat → List Text → List Nat
  | _, [] => []
  | id, name :: rest => id :: ((fs.child id name).map fun next => passed next rest).getD []

variable (other : FileSystem)

theorem child_congr (id : Nat) (name : Text)
    (same : other.node id = fs.node id) : other.child id name = fs.child id name := by
  rw [child, child, fs.entries_congr other id same]

theorem walk_congr (who : Credentials) (path : List Text) :
    ∀ id, (∀ directory ∈ fs.passed id path, other.node directory = fs.node directory) →
      other.walk who id path = fs.walk who id path := by
  induction path with
  | nil =>
    intro id same
    rfl
  | cons name rest later =>
    intro id same
    have here := same id (by simp [passed])
    rw [walk, walk, allows, allows, here, fs.child_congr other id name here]
    cases named : fs.child id name with
    | none => rfl
    | some next =>
      simp only [Option.bind_some]
      rw [later next]
      intro directory member
      exact same directory (by simp [passed, named, member])

theorem resolve_congr (path : List Text) :
    ∀ id, (∀ directory ∈ fs.passed id path, other.node directory = fs.node directory) →
      other.resolve id path = fs.resolve id path := by
  induction path with
  | nil =>
    intro id same
    rfl
  | cons name rest later =>
    intro id same
    rw [resolve, resolve, fs.child_congr other id name (same id (by simp [passed]))]
    cases named : fs.child id name with
    | none => rfl
    | some next =>
      simp only [Option.bind_some]
      rw [later next]
      intro directory member
      exact same directory (by simp [passed, named, member])

theorem passed_resolve (path : List Text) : ∀ id, ∀ directory ∈ fs.passed id path,
    ∃ up down, path = up ++ down ∧ down ≠ [] ∧ fs.resolve id up = some directory := by
  induction path with
  | nil =>
    intro id directory member
    cases member
  | cons name rest later =>
    intro id directory member
    cases named : fs.child id name with
    | none =>
      simp only [passed, named, Option.map_none, Option.getD_none, List.mem_singleton] at member
      exact ⟨[], name :: rest, rfl, by simp, by rw [member]; rfl⟩
    | some next =>
      simp only [passed, named, Option.map_some, Option.getD_some, List.mem_cons] at member
      cases member with
      | inl here => exact ⟨[], name :: rest, rfl, by simp, by rw [here]; rfl⟩
      | inr below =>
        obtain ⟨up, down, joined, proper, resolved⟩ := later next directory below
        refine ⟨name :: up, down, by rw [joined, List.cons_append], proper, ?_⟩
        rw [resolve, named]
        exact resolved

theorem passed_congr (path : List Text) :
    ∀ id, (∀ directory ∈ fs.passed id path, other.node directory = fs.node directory) →
      other.passed id path = fs.passed id path := by
  induction path with
  | nil =>
    intro id same
    rfl
  | cons name rest later =>
    intro id same
    rw [passed, passed, fs.child_congr other id name (same id (by simp [passed]))]
    cases named : fs.child id name with
    | none => rfl
    | some next =>
      simp only [Option.map_some, Option.getD_some]
      rw [later next]
      intro directory member
      exact same directory (by simp [passed, named, member])

theorem resolve_of_walk (who : Credentials) (path : List Text) : ∀ id target,
    fs.walk who id path = some target → fs.resolve id path = some target := by
  induction path with
  | nil =>
    intro id target walked
    exact walked
  | cons name rest later =>
    intro id target walked
    rw [walk] at walked
    split_ifs at walked
    rw [Option.bind_eq_some_iff] at walked
    obtain ⟨next, named, onward⟩ := walked
    rw [resolve, named]
    exact later next target onward

theorem passed_concat (who : Credentials) (above : List Text) (name : Text) : ∀ id parent,
    fs.walk who id above = some parent →
      fs.passed id (above ++ [name]) = fs.passed id above ++ [parent] := by
  induction above with
  | nil =>
    intro id parent walked
    cases walked
    cases named : fs.child id name <;> simp [passed, named]
  | cons first rest later =>
    intro id parent walked
    rw [walk] at walked
    split_ifs at walked
    rw [Option.bind_eq_some_iff] at walked
    obtain ⟨next, named, onward⟩ := walked
    simp only [List.cons_append, passed, named, Option.map_some, Option.getD_some]
    rw [later next parent onward]

theorem passed_present (who : Credentials) (path : List Text) : ∀ id target,
    fs.walk who id path = some target → ∀ directory ∈ fs.passed id path,
      directory < fs.next := by
  induction path with
  | nil =>
    intro id target walked directory member
    cases member
  | cons name rest later =>
    intro id target walked directory member
    rw [walk] at walked
    split_ifs at walked with searched
    rw [Option.bind_eq_some_iff] at walked
    obtain ⟨next, named, onward⟩ := walked
    simp only [passed, named, Option.map_some, Option.getD_some, List.mem_cons] at member
    cases member with
    | inl here =>
      rw [here]
      by_contra beyond
      rw [allows, fs.unused id (by omega)] at searched
      cases searched
    | inr below => exact later next target onward directory below

end FileSystem

theorem lookup_with_entry (name : Text) (id : Nat) (entries : List (Text × Nat)) :
    (withEntry name id entries).lookup name = some id := by
  have absent : (withoutName name entries).lookup name = none := by
    rw [List.lookup_eq_none_iff]
    intro entry member
    rw [withoutName, List.mem_filter] at member
    have apart : entry.1 ≠ name := by simpa using member.2
    simpa using fun same => apart same.symm
  rw [withEntry, List.lookup_append, absent]
  simp

theorem lookup_renamed (name renamed : Text) (id : Nat) (entries : List (Text × Nat))
    (apart : renamed ≠ name) :
    (withEntry renamed id (withoutName name entries)).lookup name = none := by
  rw [List.lookup_eq_none_iff]
  intro entry member
  have different : entry.1 ≠ name := by
    rw [withEntry, List.mem_append, List.mem_singleton] at member
    cases member with
    | inl old =>
      have inside := without_name_mem renamed _ entry old
      rw [withoutName, List.mem_filter] at inside
      simpa using inside.2
    | inr new =>
      rw [new]
      exact apart
  simpa using fun same => different same.symm

/-- A directory of the process itself, open to it. -/
def OwnDirectory (who : Credentials) (fs : FileSystem) (id : Nat) : Prop :=
  ∃ node, fs.node id = some node ∧ node.kind.isDirectory = true ∧ node.uid = who.uid ∧
    node.mode.testBit 7 = true ∧ node.mode.testBit 6 = true

section Takeover

variable {who : Credentials} {fs : FileSystem}

variable {above : List Text} {id : Nat}

theorem own_directory_writable (own : OwnDirectory who fs id)
    (walked : fs.walk who fs.root above = some id) :
    writableDirectory who fs above = some id := by
  obtain ⟨node, present, directory, owned, writable, searchable⟩ := own
  have found : reached who fs above = some (id, node) := by
    rw [reached, walked, Option.bind_some, present]
    rfl
  rw [writableDirectory, found]
  simp [directory, Inode.allows, owned, Access.bit, writable, searchable]

theorem own_directory_searched {id : Nat} (own : OwnDirectory who fs id) :
    fs.allows who .search id = true := by
  obtain ⟨node, present, directory, owned, writable, searchable⟩ := own
  rw [FileSystem.allows, present]
  simp [Inode.allows, owned, Access.bit, searchable]

theorem own_directory_set {id : Nat} (own : OwnDirectory who fs id)
    (change : List (Text × Nat) → List (Text × Nat)) :
    OwnDirectory who (fs.update id (FileSystem.setEntries change)) id ∧
      (fs.update id (FileSystem.setEntries change)).entries id = change (fs.entries id) := by
  obtain ⟨node, present, directory, owned, writable, searchable⟩ := own
  have stored : (fs.update id (FileSystem.setEntries change)).node id =
      some (FileSystem.setEntries change node) := by
    rw [FileSystem.update_self, present]
    rfl
  cases kind : node.kind with
  | directory entries =>
    have set : FileSystem.setEntries change node =
        { node with kind := .directory (change entries) } := by
      rw [FileSystem.setEntries, kind]
    rw [FileSystem.entries_present _ _ _ stored, fs.entries_present id node present, kind]
    rw [set] at stored ⊢
    exact ⟨⟨_, stored, rfl, owned, writable, searchable⟩, rfl⟩
  | _ => simp [kind, Kind.isDirectory] at directory

theorem run_append (first second : List Action) : ∀ fs : FileSystem,
    run who fs (first ++ second) = (run who fs first).bind fun next => run who next second := by
  induction first with
  | nil =>
    intro fs
    rfl
  | cons action rest later =>
    intro fs
    rw [List.cons_append, run, run, Option.bind_assoc]
    congr 1
    funext next
    exact later next

theorem create_step (own : OwnDirectory who fs id)
    (walked : fs.walk who fs.root above = some id) (name : Text) (made : Kind) (mode : Nat)
    (valid : validName name = true) (absent : fs.child id name = none)
    (empty : made.entries = []) :
    ∃ after, step who fs (.create above name made mode) = some after ∧
      after.root = fs.root ∧ after.next = fs.next + 1 ∧ OwnDirectory who after id ∧
      after.child id name = some fs.next ∧
      after.node fs.next = some ⟨made, who.uid, who.gid, mode⟩ ∧
      ∀ other, other ≠ id → other < fs.next → after.node other = fs.node other := by
  obtain ⟨node, present, rest⟩ := own
  have below := fs.present_below id node present
  have kept : (fs.alloc ⟨made, who.uid, who.gid, mode⟩).node id = some node := by
    rw [FileSystem.alloc_other _ _ _ (by omega), present]
  have ownAlloc : OwnDirectory who (fs.alloc ⟨made, who.uid, who.gid, mode⟩) id :=
    ⟨node, kept, rest⟩
  obtain ⟨ownAfter, entriesAfter⟩ :=
    own_directory_set ownAlloc (withEntry name fs.next)
  refine ⟨(fs.alloc ⟨made, who.uid, who.gid, mode⟩).update id
    (FileSystem.setEntries (withEntry name fs.next)), ?_, rfl, rfl, ownAfter, ?_, ?_, ?_⟩
  · rw [step, own_directory_writable ⟨node, present, rest⟩ walked]
    simp [valid, absent, empty]
  · rw [FileSystem.child, entriesAfter]
    exact lookup_with_entry name fs.next _
  · rw [FileSystem.update_other _ _ _ _ (by omega), FileSystem.alloc_self]
  · intro other apart earlier
    rw [FileSystem.update_other _ _ _ _ apart, FileSystem.alloc_other _ _ _ (by omega)]

/-- From a directory of its own the process builds any path that is free there. -/
theorem build_path (rest : List Text) : ∀ (fs : FileSystem) (above : List Text) (id : Nat)
    (name : Text), OwnDirectory who fs id → fs.walk who fs.root above = some id →
    id ∉ fs.passed fs.root above → fs.child id name = none →
    (∀ part ∈ name :: rest, validName part = true) →
    ∃ actions after made, run who fs actions = some after ∧ after.root = fs.root ∧
      after.resolve id (name :: rest) = some made ∧ fs.next ≤ made ∧
      ∀ other, other ≠ id → other < fs.next → after.node other = fs.node other := by
  induction rest with
  | nil =>
    intro fs above id name own walked unpassed absent valid
    obtain ⟨after, stepped, root, next, ownAfter, named, stored, same⟩ :=
      create_step own walked name (.file []) 384 (valid name List.mem_cons_self) absent rfl
    refine ⟨[.create above name (.file []) 384], after, fs.next, ?_, root, ?_, Nat.le_refl _, same⟩
    · rw [run, stepped]
      rfl
    · rw [FileSystem.resolve, named]
      rfl
  | cons second later deeper =>
    intro fs above id name own walked unpassed absent valid
    obtain ⟨middle, stepped, root, next, ownMiddle, named, stored, same⟩ :=
      create_step own walked name (.directory []) 448 (valid name List.mem_cons_self) absent rfl
    obtain ⟨node, present, facts⟩ := own
    have below := fs.present_below id node present
    have passedSame : ∀ directory ∈ fs.passed fs.root above,
        middle.node directory = fs.node directory := by
      intro directory member
      apply same directory
      · intro here
        rw [here] at member
        exact unpassed member
      · exact fs.passed_present who above fs.root id walked directory member
    have walkedMiddle : middle.walk who middle.root above = some id := by
      rw [root, fs.walk_congr middle who above fs.root passedSame, walked]
    have walkedNew : middle.walk who middle.root (above ++ [name]) = some fs.next :=
      (middle.walk_concat who middle.root fs.next above name).mpr
        ⟨id, walkedMiddle, own_directory_searched ownMiddle, named⟩
    have open_ : (448 : Nat).testBit 7 = true ∧ (448 : Nat).testBit 6 = true := by decide
    have ownNew : OwnDirectory who middle fs.next := ⟨_, stored, rfl, rfl, open_⟩
    have unpassedNew : fs.next ∉ middle.passed middle.root (above ++ [name]) := by
      rw [middle.passed_concat who above name middle.root id walkedMiddle, root,
        fs.passed_congr middle above fs.root passedSame]
      intro member
      rw [List.mem_append, List.mem_singleton] at member
      cases member with
      | inl earlier =>
        have older := fs.passed_present who above fs.root id walked fs.next earlier
        omega
      | inr here => omega
    have freeNew : middle.child fs.next second = none := by
      rw [FileSystem.child, FileSystem.entries_present _ _ _ stored]
      rfl
    obtain ⟨actions, after, made, ran, rootAfter, resolved, fresh, sameAfter⟩ :=
      deeper middle (above ++ [name]) fs.next second ownNew walkedNew unpassedNew freeNew
        (fun part member => valid part (List.mem_cons_of_mem _ member))
    refine ⟨.create above name (.directory []) 448 :: actions, after, made, ?_,
      rootAfter.trans root, ?_, by omega, ?_⟩
    · rw [run, stepped]
      exact ran
    · rw [FileSystem.resolve, middle.child_congr after id name
        (sameAfter id (by omega) (by omega)), named]
      exact resolved
    · intro other apart earlier
      rw [sameAfter other (by omega) (by omega), same other apart earlier]

theorem fresh_name (names : List Text) : ∃ fresh, validName fresh = true ∧ fresh ∉ names := by
  obtain ⟨bound, bounded⟩ : ∃ bound, ∀ name ∈ names, name.length ≤ bound := by
    induction names with
    | nil => exact ⟨0, by simp⟩
    | cons first rest later =>
      obtain ⟨bound, bounded⟩ := later
      refine ⟨max first.length bound, ?_⟩
      intro name member
      rw [List.mem_cons] at member
      cases member with
      | inl same =>
        rw [same]
        exact Nat.le_max_left _ _
      | inr inside => exact (bounded name inside).trans (Nat.le_max_right _ _)
  refine ⟨List.replicate (bound + 1) 'x', ?_, ?_⟩
  · simp only [validName, List.replicate_succ]
    simp
  · intro member
    have long := bounded _ member
    rw [List.length_replicate] at long
    omega

theorem rename_step {above : List Text} {id moved : Nat} (own : OwnDirectory who fs id)
    (walked : fs.walk who fs.root above = some id) (name : Text)
    (named : fs.child id name = some moved) :
    ∃ action after, step who fs action = some after ∧ after.root = fs.root ∧
      after.next = fs.next ∧ OwnDirectory who after id ∧ after.child id name = none ∧
      ∀ other, other ≠ id → after.node other = fs.node other := by
  obtain ⟨fresh, valid, unused⟩ := fresh_name (name :: (fs.entries id).map Prod.fst)
  rw [List.mem_cons, not_or] at unused
  have free : fs.child id fresh = none := by
    rw [FileSystem.child, List.lookup_eq_none_iff]
    intro entry member
    have apart : entry.1 ≠ fresh := by
      intro same
      rw [← same] at unused
      exact unused.2 (List.mem_map_of_mem member)
    simpa using fun same => apart same.symm
  have writable := own_directory_writable own walked
  have owns : fs.owns who id = true := by
    obtain ⟨node, present, directory, owned, rest⟩ := own
    rw [FileSystem.owns, present]
    simpa using owned
  obtain ⟨ownFirst, entriesFirst⟩ := own_directory_set own (withoutName name)
  obtain ⟨ownAfter, entriesAfter⟩ := own_directory_set ownFirst (withEntry fresh moved)
  refine ⟨.rename above name above fresh,
    (fs.update id (FileSystem.setEntries (withoutName name))).update id
      (FileSystem.setEntries (withEntry fresh moved)), ?_, rfl, rfl, ownAfter, ?_, ?_⟩
  · have longer : (above ++ [name]).isPrefixOf above = false := by
      rw [Bool.eq_false_iff, Ne, List.isPrefixOf_iff_prefix]
      intro shorter
      have size := shorter.length_le
      rw [List.length_append, List.length_singleton] at size
      omega
    rw [step, writable]
    simp [named, mayUnlink, owns, valid, free, longer]
  · rw [FileSystem.child, entriesAfter, entriesFirst]
    exact lookup_renamed name fresh moved _ unused.1
  · intro other apart
    rw [FileSystem.update_other _ _ _ _ apart, FileSystem.update_other _ _ _ _ apart]

theorem name_freed (own : OwnDirectory who fs id)
    (walked : fs.walk who fs.root above = some id) (name : Text) :
    ∃ actions after, run who fs actions = some after ∧ after.root = fs.root ∧
      after.next = fs.next ∧ OwnDirectory who after id ∧ after.child id name = none ∧
      ∀ other, other ≠ id → after.node other = fs.node other := by
  cases named : fs.child id name with
  | none => exact ⟨[], fs, rfl, rfl, rfl, own, named, fun _ _ => rfl⟩
  | some moved =>
    obtain ⟨action, after, stepped, facts⟩ := rename_step own walked name named
    refine ⟨[action], after, ?_, facts⟩
    rw [run, stepped]
    rfl

/-- Whoever owns a directory it can walk to makes any path through it name a new file. -/
theorem owner_takes_over {node : Inode}
    (walked : fs.walk who fs.root above = some id) (unpassed : id ∉ fs.passed fs.root above)
    (present : fs.node id = some node) (directory : node.kind.isDirectory = true)
    (owned : node.uid = who.uid) (name : Text) (rest : List Text)
    (valid : ∀ part ∈ name :: rest, validName part = true) :
    ∃ actions after made, run who fs actions = some after ∧
      after.resolve after.root (above ++ name :: rest) = some made ∧ fs.next ≤ made := by
  have changed : step who fs (.chmod above 448) =
      some (fs.update id fun node => { node with mode := 448 }) := by
    have found : reached who fs above = some (id, node) := by
      rw [reached, walked, Option.bind_some, present]
      rfl
    rw [step, found]
    simp [owned]
  obtain ⟨opened, openedIs⟩ :
      ∃ opened, opened = fs.update id fun node => { node with mode := 448 } := ⟨_, rfl⟩
  rw [← openedIs] at changed
  have openedOther : ∀ other, other ≠ id → opened.node other = fs.node other := by
    intro other apart
    rw [openedIs, FileSystem.update_other _ _ _ _ apart]
  have own : OwnDirectory who opened id := by
    have bits : (448 : Nat).testBit 7 = true ∧ (448 : Nat).testBit 6 = true := by decide
    have stored : opened.node id = some { node with mode := 448 } := by
      rw [openedIs, FileSystem.update_self, present]
      rfl
    exact ⟨_, stored, directory, owned, bits⟩
  have rootOpened : opened.root = fs.root := by rw [openedIs]; rfl
  have nextOpened : opened.next = fs.next := by rw [openedIs]; rfl
  -- The way to the directory never leads through it, so it stays the same throughout.
  have along : ∀ later : FileSystem, later.root = fs.root →
      (∀ other, other ≠ id → other < fs.next → later.node other = fs.node other) →
      ∀ directory ∈ fs.passed fs.root above, later.node directory = fs.node directory := by
    intro later root same place member
    apply same place
    · intro here
      rw [here] at member
      exact unpassed member
    · exact fs.passed_present who above fs.root id walked place member
  have walkedAt : ∀ later : FileSystem, later.root = fs.root →
      (∀ other, other ≠ id → other < fs.next → later.node other = fs.node other) →
      later.walk who later.root above = some id := by
    intro later root same
    rw [root, fs.walk_congr later who above fs.root (along later root same), walked]
  obtain ⟨freeing, freed, ranFreeing, rootFreed, nextFreed, ownFreed, free, freedOther⟩ :=
    name_freed own (walkedAt opened rootOpened fun other apart _ => openedOther other apart) name
  have freedSame : ∀ other, other ≠ id → other < fs.next → freed.node other = fs.node other := by
    intro other apart _
    rw [freedOther other apart, openedOther other apart]
  have freedRoot : freed.root = fs.root := rootFreed.trans rootOpened
  have unpassedFreed : id ∉ freed.passed freed.root above := by
    rw [freedRoot, fs.passed_congr freed above fs.root (along freed freedRoot freedSame)]
    exact unpassed
  obtain ⟨building, after, made, ranBuilding, rootAfter, resolved, fresh, sameAfter⟩ :=
    build_path rest freed above id name ownFreed (walkedAt freed freedRoot freedSame)
      unpassedFreed free valid
  refine ⟨.chmod above 448 :: (freeing ++ building), after, made, ?_, ?_, by omega⟩
  · rw [run, changed, Option.bind_some, run_append, ranFreeing]
    exact ranBuilding
  · have afterRoot : after.root = fs.root := rootAfter.trans freedRoot
    have afterSame : ∀ other, other ≠ id → other < fs.next → after.node other = fs.node other := by
      intro other apart earlier
      rw [sameAfter other apart (by omega), freedSame other apart earlier]
    rw [FileSystem.resolve_append, after.resolve_of_walk who above after.root id
      (walkedAt after afterRoot afterSame)]
    exact resolved

end Takeover

end EvoomGuard.Lib.Posix
