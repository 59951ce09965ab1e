import EvoomGuard.Lib.Text

/-!
A POSIX directory tree as a function from component lists to entries, with path
resolution through symbolic links, and the two updates a contained workspace makes:
putting one entry into an existing directory and removing one entry with everything
below it. Hard links, ownership, directory modes and times are not part of an entry, so
two names denote one file exactly when they resolve to the same path.
-/

namespace EvoomGuard.Lib

abbrev Path := List Text

inductive Node where
  | file (mode : Nat) (data : ByteArray)
  | directory
  | symlink (target : Text)
  | special
  deriving DecidableEq

/-- A component that names an entry of its directory. -/
def isName (name : Text) : Bool := name != [] && name != ['.'] && name != ['.', '.']

/-- Every entry stands in a directory under a proper name. -/
structure Tree where
  node : Path → Option Node
  root : node [] = some .directory
  parent : ∀ path name, node (path ++ [name]) ≠ none → node path = some .directory
  named : ∀ path name, node (path ++ [name]) ≠ none → isName name = true

namespace Tree

def isDirectory (tree : Tree) (path : Path) : Bool := tree.node path = some .directory

/-- The entry at a path, directories left out. -/
def fileAt (tree : Tree) (path : Path) : Option Node :=
  match tree.node path with
  | some .directory => none
  | other => other

theorem ancestor_directory (tree : Tree) (above below : Path) (proper : below ≠ [])
    (present : tree.node (above ++ below) ≠ none) : tree.node above = some .directory := by
  induction below using List.reverseRecOn with
  | nil => exact absurd rfl proper
  | append_singleton init name ih =>
    rw [← List.append_assoc] at present
    have direct := tree.parent (above ++ init) name present
    by_cases last : init = []
    · simpa only [last, List.append_nil] using direct
    · exact ih last (by rw [direct]; exact Option.some_ne_none _)

/-- Follows `components` from the directory `current`. A symbolic link continues in
`expand` with its target in front of what is left; a component below anything but a
directory fails, also the empty one of a trailing slash. -/
def walkWith (tree : Tree) (expand : Path → List Text → Option Path) :
    Path → List Text → Option Path
  | current, [] => some current
  | current, name :: rest =>
    if name = [] || name = ['.'] then walkWith tree expand current rest
    else if name = ['.', '.'] then walkWith tree expand current.dropLast rest
    else
      match tree.node (current ++ [name]) with
      | none => none
      | some (.symlink target) =>
        expand (if Text.startsWith target ['/'] then [] else current)
          (Text.split '/' target ++ rest)
      | some .directory => walkWith tree expand (current ++ [name]) rest
      | some _ => if rest = [] then some (current ++ [name]) else none

/-- `budget` is the number of symbolic links the kernel still expands. -/
def walk (tree : Tree) : Nat → Path → List Text → Option Path
  | 0 => walkWith tree fun _ _ => none
  | budget + 1 => walkWith tree (walk tree budget)

def linkLimit : Nat := 40

def resolve (tree : Tree) (path : Path) : Option Path := walk tree linkLimit [] path

def exists? (tree : Tree) (path : Path) : Bool := (resolve tree path).isSome

/-- The parent is resolved, the last component is not followed. -/
def lexists (tree : Tree) (path : Path) : Bool :=
  match resolve tree path.dropLast, path.getLast? with
  | some above, some name =>
    tree.node above = some .directory && (tree.node (above ++ [name])).isSome
  | some _, none => true
  | none, _ => false

/-- `os.path.samefile`; `none` when one of the two does not resolve. -/
def samefile (tree : Tree) (left right : Path) : Option Bool :=
  match resolve tree left, resolve tree right with
  | some first, some second => some (first = second)
  | _, _ => none

private theorem name_not_special {name : Text} (proper : isName name = true) :
    name ≠ [] ∧ name ≠ ['.'] ∧ name ≠ ['.', '.'] := by
  simpa [isName, and_assoc] using proper

variable (tree : Tree)

theorem walkWith_entry (expand : Path → List Text → Option Path)
    (entry : Node) (direct : ∀ target, entry ≠ .symlink target) (path : Path) :
    ∀ current, tree.node (current ++ path) = some entry →
      walkWith tree expand current path = some (current ++ path) := by
  induction path with
  | nil =>
    intro current _
    simp [walkWith]
  | cons name rest ih =>
    intro current present
    have grouped : current ++ name :: rest = (current ++ [name]) ++ rest := by simp
    have here : tree.node (current ++ [name]) ≠ none := by
      by_cases last : rest = []
      · rw [grouped, last, List.append_nil] at present
        rw [present]
        exact Option.some_ne_none _
      · rw [tree.ancestor_directory (current ++ [name]) rest last
          (by rw [← grouped, present]; exact Option.some_ne_none _)]
        exact Option.some_ne_none _
    obtain ⟨nonempty, notDot, notDots⟩ := name_not_special (tree.named current name here)
    simp only [walkWith, nonempty, notDot, notDots, decide_false, Bool.or_self,
      Bool.false_eq_true, if_false]
    by_cases last : rest = []
    · subst last
      rw [present]
      cases entry with
      | file mode data | special => simp
      | directory => simp [walkWith]
      | symlink target => exact absurd rfl (direct target)
    · rw [tree.ancestor_directory (current ++ [name]) rest last
        (by rw [← grouped, present]; exact Option.some_ne_none _)]
      rw [grouped] at present ⊢
      exact ih (current ++ [name]) present

theorem exists_of_entry (path : Path) (entry : Node)
    (direct : ∀ target, entry ≠ .symlink target) (present : tree.node path = some entry) :
    tree.exists? path = true := by
  have resolved : resolve tree path = some path :=
    walkWith_entry tree (walk tree 39) entry direct path [] present
  rw [exists?, resolved]
  rfl

/-- Puts one entry into a directory. What was there before is not a directory. -/
def put (tree : Tree) (above : Path) (name : Text) (entry : Node)
    (inside : tree.node above = some .directory) (proper : isName name = true)
    (leaf : tree.node (above ++ [name]) ≠ some .directory) : Tree where
  node := fun path => if path = above ++ [name] then some entry else tree.node path
  root := by simp [tree.root]
  parent := by
    intro path child present
    by_cases same : path ++ [child] = above ++ [name]
    · obtain ⟨rfl, -⟩ := List.append_inj' same rfl
      simp [inside]
    · rw [if_neg same] at present
      have direct := tree.parent path child present
      rw [if_neg]
      · exact direct
      · rintro rfl
        exact leaf direct
  named := by
    intro path child present
    by_cases same : path ++ [child] = above ++ [name]
    · obtain ⟨-, last⟩ := List.append_inj' same rfl
      cases last
      exact proper
    · rw [if_neg same] at present
      exact tree.named path child present

/-- Removes the entry at a path below the root, with everything below it. -/
def remove (tree : Tree) (path : Path) (below : path ≠ []) : Tree where
  node := fun other => if path.isPrefixOf other then none else tree.node other
  root := by
    rw [if_neg]
    · exact tree.root
    · intro inside
      exact below (List.prefix_nil.mp (List.isPrefixOf_iff_prefix.mp inside))
  parent := by
    intro other name present
    by_cases inside : path.isPrefixOf (other ++ [name]) = true
    · rw [if_pos inside] at present
      exact absurd rfl present
    · rw [if_neg inside] at present
      rw [if_neg]
      · exact tree.parent other name present
      · intro above
        rw [List.isPrefixOf_iff_prefix] at above inside
        exact inside (above.trans (List.prefix_append other [name]))
  named := by
    intro other name present
    by_cases inside : path.isPrefixOf (other ++ [name]) = true
    · rw [if_pos inside] at present
      exact absurd rfl present
    · rw [if_neg inside] at present
      exact tree.named other name present

@[simp]
theorem put_node (above : Path) (name : Text) (entry : Node)
    (inside : tree.node above = some .directory) (proper : isName name = true)
    (leaf : tree.node (above ++ [name]) ≠ some .directory) (path : Path) :
    (tree.put above name entry inside proper leaf).node path =
      if path = above ++ [name] then some entry else tree.node path := rfl

@[simp]
theorem remove_node (path : Path) (below : path ≠ []) (other : Path) :
    (tree.remove path below).node other =
      if path.isPrefixOf other then none else tree.node other := rfl

/-- The tree with nothing but its root. -/
def bare : Tree where
  node := fun path => if path = [] then some .directory else none
  root := rfl
  parent := by
    intro path name present
    simp at present
  named := by
    intro path name present
    simp at present

/-- Where an entry can be put. -/
def Fits (tree : Tree) (above : Path) (name : Text) : Prop :=
  tree.node above = some .directory ∧ isName name = true ∧
    tree.node (above ++ [name]) ≠ some .directory

instance (tree : Tree) (above : Path) (name : Text) : Decidable (tree.Fits above name) :=
  inferInstanceAs (Decidable (_ ∧ _ ∧ _))

/-- Puts an entry where it fits and leaves the tree alone otherwise. -/
def add (tree : Tree) (above : Path) (name : Text) (entry : Node) : Tree :=
  if fits : tree.Fits above name then tree.put above name entry fits.1 fits.2.1 fits.2.2
  else tree

theorem add_node_of_ne (above : Path) (name : Text) (entry : Node) (path : Path)
    (other : path ≠ above ++ [name]) : (tree.add above name entry).node path = tree.node path := by
  unfold add
  split_ifs with fits
  · rw [put_node, if_neg other]
  · rfl

theorem add_node_self (above : Path) (name : Text) (entry : Node)
    (fits : tree.Fits above name) :
    (tree.add above name entry).node (above ++ [name]) = some entry := by
  rw [add, dif_pos fits, put_node, if_pos rfl]

/-- Removes an entry below the root; the root itself stays. -/
def drop (tree : Tree) (path : Path) : Tree :=
  if below : path ≠ [] then tree.remove path below else tree

theorem drop_node (path : Path) (below : path ≠ []) (other : Path) :
    (tree.drop path).node other = if path.isPrefixOf other then none else tree.node other := by
  rw [drop, dif_pos below, remove_node]

end Tree

end EvoomGuard.Lib
