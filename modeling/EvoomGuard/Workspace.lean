import EvoomGuard.Domain.Harness
import EvoomGuard.Lib.FileTree

/-!
The contained workspace operations of `workspace/__init__.py` on a POSIX host: reading,
writing and deleting one path below a root whose parents are opened one by one without
following a symbolic link. Concurrent changes between two system calls are not modelled,
so the re-binding checks of the source always succeed here; the temporary file of an
atomic write never outlives the call and is left out.
-/

namespace EvoomGuard.Workspace

open Lib Domain.Harness

/-- What a workspace operation raises. `FileNotFoundError` is kept apart, since callers treat
an absent path in their own way. -/
inductive WorkspaceError where
  | fileNotFound
  | unsafePath
  | rootNotDirectory
  | traversesLink
  | specialTarget
  | notRegularFile
  | undecodable
  deriving DecidableEq, Repr

def isSafeRelativePath (path : Text) : Bool :=
  !(path.isEmpty || Text.startsWith path ['/'] || path.contains '\\') &&
    (Text.split '/' path).all fun part => !isDotSegment part

def encodeUtf8 (content : Text) : ByteArray := (String.ofList content).toUTF8

def decodeUtf8 (data : ByteArray) : Option Text := (String.fromUTF8? data).map String.toList

/-- Opens the parent components one by one. A missing component is made when `create` asks for
it; a link or any other entry that is not a directory stops the walk. -/
def openParents (create : Bool) : Tree → Path → List Text → Tree × Except WorkspaceError Path
  | tree, current, [] => (tree, .ok current)
  | tree, current, name :: rest =>
    match tree.node (current ++ [name]) with
    | some .directory => openParents create tree (current ++ [name]) rest
    | none =>
      if create then
        openParents create (tree.add current name .directory) (current ++ [name]) rest
      else (tree, .error .fileNotFound)
    | some _ => (tree, .error .traversesLink)

/-- The parent directory of a path below `root`, and the tree after opening it. -/
def openParentDir (create : Bool) (tree : Tree) (root : Path) (relativePath : Text) :
    Tree × Except WorkspaceError Path :=
  if !isSafeRelativePath relativePath then (tree, .error .unsafePath)
  else if !tree.isDirectory root then (tree, .error .rootNotDirectory)
  else openParents create tree root (Text.split '/' relativePath).dropLast

/-- Replaces or creates one file in an open directory. The mode of a regular file is kept; a
new file gets the one the process mask leaves. -/
def atomicWriteAt (newFileMode : Nat) (tree : Tree) (above : Path) (leaf content : Text) :
    Tree × Except WorkspaceError Unit :=
  match tree.node (above ++ [leaf]) with
  | some .directory => (tree, .error .specialTarget)
  | some .special => (tree, .error .specialTarget)
  | some (.file mode _) => (tree.add above leaf (.file mode (encodeUtf8 content)), .ok ())
  | some (.symlink _) => (tree.add above leaf (.file newFileMode (encodeUtf8 content)), .ok ())
  | none => (tree.add above leaf (.file newFileMode (encodeUtf8 content)), .ok ())

def writeTextWithinRoot (newFileMode : Nat) (tree : Tree) (root : Path)
    (relativePath content : Text) : Tree × Except WorkspaceError Unit :=
  match openParentDir true tree root relativePath with
  | (opened, .error problem) => (opened, .error problem)
  | (opened, .ok above) =>
    atomicWriteAt newFileMode opened above (Text.lastSegment relativePath) content

def readTextWithinRoot (tree : Tree) (root : Path) (relativePath : Text) :
    Except WorkspaceError Text :=
  match (openParentDir false tree root relativePath).2 with
  | .error problem => .error problem
  | .ok above =>
    match tree.node (above ++ [Text.lastSegment relativePath]) with
    | none => .error .fileNotFound
    | some (.file _ data) =>
      match decodeUtf8 data with
      | some text => .ok text
      | none => .error .undecodable
    | some (.symlink _) => .error .traversesLink
    | some .directory => .error .notRegularFile
    | some .special => .error .notRegularFile

/-- Deletes one relative path, a directory with everything below it. The answer says whether
an entry was there. -/
def deletePathWithinRoot (tree : Tree) (root : Path) (relativePath : Text) :
    Tree × Except WorkspaceError Bool :=
  match (openParentDir false tree root relativePath).2 with
  | .error .fileNotFound => (tree, .ok false)
  | .error problem => (tree, .error problem)
  | .ok above =>
    match tree.node (above ++ [Text.lastSegment relativePath]) with
    | none => (tree, .ok false)
    | some _ => (tree.drop (above ++ [Text.lastSegment relativePath]), .ok true)

/-- The entry a repository-relative path names. -/
def locate (root : Path) (path : Text) : Path := root ++ Text.split '/' path

theorem locate_injective (root : Path) : Function.Injective (locate root) := by
  intro left right same
  exact Text.split_injective '/' (List.append_cancel_left same)

theorem split_parent_leaf (path : Text) :
    (Text.split '/' path).dropLast ++ [Text.lastSegment path] = Text.split '/' path := by
  have nonempty := Text.split_ne_nil '/' path
  rw [Text.lastSegment, List.getLastD_eq_getLast?, List.getLast?_eq_getLast_of_ne_nil nonempty]
  exact List.dropLast_append_getLast nonempty

theorem locate_eq (root : Path) (path : Text) :
    locate root path = (root ++ (Text.split '/' path).dropLast) ++ [Text.lastSegment path] := by
  rw [locate, List.append_assoc, split_parent_leaf]

variable (create : Bool) (components : List Text)

theorem open_parents_frame :
    ∀ (tree : Tree) (current path : Path),
      (openParents create tree current components).1.node path = tree.node path ∨
        (tree.node path = none ∧
          (openParents create tree current components).1.node path = some .directory) := by
  induction components with
  | nil => exact fun tree current path => Or.inl rfl
  | cons name rest ih =>
    intro tree current path
    simp only [openParents]
    split
    · exact ih tree (current ++ [name]) path
    · rename_i missing
      split_ifs
      · by_cases same : path = current ++ [name]
        · subst same
          rcases ih (tree.add current name .directory) (current ++ [name])
              (current ++ [name]) with kept | ⟨-, added⟩
          · rw [kept, Tree.add]
            split_ifs
            · exact Or.inr ⟨missing, by simp⟩
            · exact Or.inl rfl
          · exact Or.inr ⟨missing, added⟩
        · rw [← Tree.add_node_of_ne tree current name .directory path same]
          exact ih _ _ path
      · exact Or.inl rfl
    · exact Or.inl rfl

theorem open_parents_fileAt (tree : Tree)
    (current path : Path) :
    (openParents create tree current components).1.fileAt path = tree.fileAt path := by
  rcases open_parents_frame create components tree current path with kept | ⟨missing, added⟩
  · rw [Tree.fileAt, kept, Tree.fileAt]
  · rw [Tree.fileAt, added, Tree.fileAt, missing]

theorem open_parents_ok :
    ∀ (tree : Tree) (current above : Path), tree.node current = some .directory →
      (∀ name ∈ components, isName name = true) →
      (openParents create tree current components).2 = .ok above →
      above = current ++ components ∧
        (openParents create tree current components).1.node above = some .directory := by
  induction components with
  | nil =>
    intro tree current above inside _ opened
    cases opened
    exact ⟨by simp, inside⟩
  | cons name rest ih =>
    intro tree current above inside proper opened
    have grouped : current ++ name :: rest = (current ++ [name]) ++ rest := by simp
    have rightNames := fun other inRest => proper other (List.mem_cons_of_mem name inRest)
    cases found : tree.node (current ++ [name]) with
    | none =>
      simp only [openParents, found] at opened ⊢
      split_ifs at opened with creating
      have fits : tree.Fits current name :=
        ⟨inside, proper name List.mem_cons_self, by rw [found]; exact Option.some_ne_none _ ∘ Eq.symm⟩
      rw [if_pos creating, grouped]
      exact ih _ (current ++ [name]) above (Tree.add_node_self tree current name _ fits)
        rightNames opened
    | some entry =>
      cases entry with
      | directory =>
        simp only [openParents, found] at opened ⊢
        rw [grouped]
        exact ih tree (current ++ [name]) above found rightNames opened
      | file mode data | symlink target | special => simp [openParents, found] at opened

theorem names_of_safe {path : Text} (safe : isSafeRelativePath path = true) :
    ∀ name ∈ Text.split '/' path, isName name = true := by
  intro name inside
  simp only [isSafeRelativePath, Bool.and_eq_true, List.all_eq_true] at safe
  have clear := safe.2 name inside
  simpa [isDotSegment, isName, and_assoc] using clear

theorem open_parents_present :
    ∀ (tree : Tree) (current : Path), tree.node (current ++ components) = some .directory →
      openParents create tree current components = (tree, .ok (current ++ components)) := by
  induction components with
  | nil =>
    intro tree current _
    simp [openParents]
  | cons name rest ih =>
    intro tree current present
    have grouped : current ++ name :: rest = (current ++ [name]) ++ rest := by simp
    rw [grouped] at present ⊢
    have here : tree.node (current ++ [name]) = some .directory := by
      by_cases last : rest = []
      · simpa only [last, List.append_nil] using present
      · exact tree.ancestor_directory _ rest last (by rw [present]; exact Option.some_ne_none _)
    simp only [openParents, here]
    exact ih tree (current ++ [name]) present

theorem open_parent_dir_present (create : Bool) (tree : Tree) (root : Path) (path : Text)
    (safe : isSafeRelativePath path = true) (present : tree.node (locate root path) ≠ none) :
    openParentDir create tree root path =
      (tree, .ok (root ++ (Text.split '/' path).dropLast)) := by
  have above : tree.node (root ++ (Text.split '/' path).dropLast) = some .directory := by
    rw [locate_eq] at present
    exact tree.parent _ _ present
  have rootDirectory : tree.node root = some .directory :=
    tree.ancestor_directory root _ (Text.split_ne_nil '/' path) present
  rw [openParentDir, safe]
  simp only [Tree.isDirectory, rootDirectory, Bool.not_true, Bool.false_eq_true, if_false,
    decide_true]
  exact open_parents_present create _ tree root above

theorem delete_path_frame (tree : Tree) (root : Path) (path : Text) (other : Path) :
    (deletePathWithinRoot tree root path).1.node other = tree.node other ∨
      (locate root path <+: other ∧
        (deletePathWithinRoot tree root path).1.node other = none) := by
  by_cases safe : isSafeRelativePath path = true
  · by_cases present : tree.node (locate root path) = none
    · left
      unfold deletePathWithinRoot
      split
      · rfl
      · rfl
      · rename_i above opened
        have located : above ++ [Text.lastSegment path] = locate root path := by
          rw [openParentDir, safe] at opened
          simp only [Bool.not_true, Bool.false_eq_true, if_false] at opened
          split_ifs at opened with directory
          rw [locate_eq]
          rw [(open_parents_ok false _ tree root above (by simpa [Tree.isDirectory] using directory)
            (fun name inside => names_of_safe safe name ((List.dropLast_sublist _).subset inside))
            opened).1]
        rw [located, present]
    · unfold deletePathWithinRoot
      rw [open_parent_dir_present false tree root path safe present]
      simp only [← locate_eq]
      cases found : tree.node (locate root path) with
      | none => exact absurd found present
      | some entry =>
        have below : locate root path ≠ [] := by rw [locate_eq]; simp
        simp only [Tree.drop_node tree _ below]
        split_ifs with inside
        · exact Or.inr ⟨List.isPrefixOf_iff_prefix.mp inside, rfl⟩
        · exact Or.inl rfl
  · left
    simp [deletePathWithinRoot, openParentDir, safe]

theorem delete_path_gone (tree : Tree) (root : Path) (path : Text) (other : Path)
    (safe : isSafeRelativePath path = true) (below : locate root path <+: other) :
    (deletePathWithinRoot tree root path).1.node other = none := by
  by_cases present : tree.node other = none
  · rcases delete_path_frame tree root path other with kept | ⟨-, gone⟩
    · rw [kept, present]
    · exact gone
  · obtain ⟨rest, rfl⟩ := below
    have target : tree.node (locate root path) ≠ none := by
      by_cases last : rest = []
      · simpa only [last, List.append_nil] using present
      · rw [tree.ancestor_directory _ rest last present]
        exact Option.some_ne_none _
    have nonempty : locate root path ≠ [] := by rw [locate_eq]; simp
    unfold deletePathWithinRoot
    rw [open_parent_dir_present false tree root path safe target]
    simp only [← locate_eq]
    cases found : tree.node (locate root path) with
    | none => exact absurd found target
    | some entry =>
      simp only [Tree.drop_node tree _ nonempty]
      rw [if_pos (List.isPrefixOf_iff_prefix.mpr (List.prefix_append _ rest))]

end EvoomGuard.Workspace
