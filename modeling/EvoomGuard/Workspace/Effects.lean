import EvoomGuard.Workspace

/-!
The exact effect of a workspace operation whose way is clear: nothing but directories and free
names stand above its path.
-/

namespace EvoomGuard.Workspace

open Lib

/-- Above an entry there are directories, as far as there is anything. -/
def ClearAbove (tree : Tree) (current : Path) (components : List Text) : Prop :=
  ∀ init, init <+: components → tree.node (current ++ init) = none ∨
    tree.node (current ++ init) = some .directory

theorem clear_above_tail {tree : Tree} {current : Path} {name : Text} {rest : List Text}
    (clear : ClearAbove tree current (name :: rest)) : ClearAbove tree (current ++ [name]) rest := by
  intro init inside
  have longer := clear (name :: init) (List.cons_prefix_cons.mpr ⟨rfl, inside⟩)
  simpa using longer

theorem open_parents_exact (components : List Text) :
    ∀ (tree : Tree) (current : Path), tree.node current = some .directory →
      (∀ name ∈ components, isName name = true) → ClearAbove tree current components →
      ∃ opened, openParents true tree current components = (opened, .ok (current ++ components)) ∧
        ∀ place, opened.node place =
          if tree.node place = none ∧ place <+: current ++ components then some .directory
          else tree.node place := by
  induction components with
  | nil =>
    intro tree current inside _ _
    refine ⟨tree, by simp [openParents], ?_⟩
    intro place
    -- A beginning of an existing path is there.
    have present (above : place <+: current) : tree.node place ≠ none := by
      rcases above with ⟨rest, joined⟩
      subst joined
      by_cases last : rest = []
      · rw [last, List.append_nil] at inside
        simp [inside]
      · simp [tree.ancestor_directory place rest last (by simp [inside])]
    rw [if_neg]
    intro missing
    exact present (by simpa using missing.2) missing.1
  | cons name rest ih =>
    intro tree current inside proper clear
    have grouped : current ++ name :: rest = (current ++ [name]) ++ rest := by simp
    have names := fun other inRest => proper other (List.mem_cons_of_mem name inRest)
    rcases clear [name] (by simp) with missing | directory
    · have fits : tree.Fits current name :=
        ⟨inside, proper name List.mem_cons_self, by simp [missing]⟩
      have made := Tree.add_node_self tree current name .directory fits
      have later : ClearAbove (tree.add current name .directory) (current ++ [name]) rest := by
        intro init among
        by_cases first : current ++ [name] ++ init = current ++ [name]
        · rw [first]
          exact Or.inr made
        · rw [Tree.add_node_of_ne tree current name .directory _ first]
          exact clear_above_tail clear init among
      rcases ih _ (current ++ [name]) made names later with ⟨opened, ran, nodes⟩
      refine ⟨opened, ?_, ?_⟩
      · simp only [openParents, missing, if_true]
        rw [ran, grouped]
      · intro place
        rw [nodes, ← grouped]
        by_cases here : place = current ++ [name]
        · rw [here, made, if_neg (by simp), if_pos]
          exact ⟨missing, ⟨rest, by simp⟩⟩
        · rw [Tree.add_node_of_ne tree current name .directory place here]
    · rcases ih tree (current ++ [name]) directory names (clear_above_tail clear) with
        ⟨opened, ran, nodes⟩
      refine ⟨opened, ?_, ?_⟩
      · simp only [openParents, directory]
        rw [ran, grouped]
      · intro place
        rw [nodes, ← grouped]

theorem open_parents_quiet (components : List Text) :
    ∀ (tree : Tree) (current : Path), ClearAbove tree current components →
      (openParents false tree current components).2 = .error .fileNotFound ∨
        (openParents false tree current components).2 = .ok (current ++ components) := by
  induction components with
  | nil =>
    intro tree current _
    exact Or.inr (by simp [openParents])
  | cons name rest ih =>
    intro tree current clear
    have grouped : current ++ name :: rest = (current ++ [name]) ++ rest := by simp
    rcases clear [name] (by simp) with missing | directory
    · exact Or.inl (by simp [openParents, missing])
    · simp only [openParents, directory]
      rw [grouped]
      exact ih tree (current ++ [name]) (clear_above_tail clear)

section Operations

variable {tree : Tree} {root : Path} {path : Text}

theorem open_parent_dir_quiet (safe : isSafeRelativePath path = true)
    (rooted : tree.node root = some .directory)
    (clear : ClearAbove tree root (Text.split '/' path).dropLast) :
    (openParentDir false tree root path).2 = .error .fileNotFound ∨
      (openParentDir false tree root path).2 = .ok (root ++ (Text.split '/' path).dropLast) := by
  rw [openParentDir, safe]
  simp only [Tree.isDirectory, rooted, Bool.not_true, Bool.false_eq_true, if_false, decide_true]
  exact open_parents_quiet _ tree root clear

theorem decode_encode (content : Text) : decodeUtf8 (encodeUtf8 content) = some content := by
  have back (text : String) (valid : text.toByteArray.IsValidUTF8) :
      String.fromUTF8 text.toByteArray valid = text := String.toByteArray_inj.mp rfl
  rw [decodeUtf8, encodeUtf8, String.fromUTF8?, String.toUTF8,
    dif_pos (by simpa using (String.ofList content).isValidUTF8), back, Option.map_some,
    String.toList_ofList]

theorem encode_decode (data : ByteArray) (content : Text)
    (decoded : decodeUtf8 data = some content) :
    encodeUtf8 content = data := by
  rw [decodeUtf8, Option.map_eq_some_iff] at decoded
  rcases decoded with ⟨text, read, same⟩
  rw [String.fromUTF8?] at read
  split_ifs at read with valid
  rw [Option.some.injEq] at read
  rw [encodeUtf8, ← same, ← read]
  simp [String.fromUTF8]

theorem read_text_absent (safe : isSafeRelativePath path = true)
    (rooted : tree.node root = some .directory)
    (clear : ClearAbove tree root (Text.split '/' path).dropLast)
    (missing : tree.node (locate root path) = none) :
    readTextWithinRoot tree root path = .error .fileNotFound := by
  unfold readTextWithinRoot
  rcases open_parent_dir_quiet safe rooted clear with absent | opened
  · rw [absent]
  · rw [opened]
    simp only [← locate_eq, missing]

theorem read_text_present (safe : isSafeRelativePath path = true) (mode : Nat) (data : ByteArray)
    (content : Text) (present : tree.node (locate root path) = some (.file mode data))
    (decoded : decodeUtf8 data = some content) : readTextWithinRoot tree root path = .ok content := by
  unfold readTextWithinRoot
  rw [open_parent_dir_present false tree root path safe (by simp [present])]
  simp only [← locate_eq, present, decoded]

theorem delete_path_quiet (safe : isSafeRelativePath path = true)
    (rooted : tree.node root = some .directory)
    (clear : ClearAbove tree root (Text.split '/' path).dropLast) :
    ∃ existed, (deletePathWithinRoot tree root path).2 = .ok existed := by
  unfold deletePathWithinRoot
  rcases open_parent_dir_quiet safe rooted clear with absent | opened
  · rw [absent]
    exact ⟨false, rfl⟩
  · simp only [opened]
    cases tree.node (root ++ (Text.split '/' path).dropLast ++ [Text.lastSegment path]) with
    | none => exact ⟨false, rfl⟩
    | some entry => exact ⟨true, rfl⟩

def keptMode (newFileMode : Nat) : Option Node → Nat
  | some (.file mode _) => mode
  | _ => newFileMode

/-- Nothing is at the path, or a regular file. -/
def FreeOrFile (tree : Tree) (place : Path) : Prop :=
  tree.node place = none ∨ ∃ mode data, tree.node place = some (.file mode data)

/-- A write on a clear way puts its file, makes the missing parents and changes nothing else. -/
theorem write_text_exact (newFileMode : Nat) (content : Text)
    (safe : isSafeRelativePath path = true) (rooted : tree.node root = some .directory)
    (clear : ClearAbove tree root (Text.split '/' path).dropLast)
    (free : FreeOrFile tree (locate root path)) :
    ∃ written, writeTextWithinRoot newFileMode tree root path content = (written, .ok ()) ∧
      ∀ place, written.node place =
        if place = locate root path then
          some (.file (keptMode newFileMode (tree.node (locate root path))) (encodeUtf8 content))
        else if tree.node place = none ∧ place <+: locate root path then some .directory
        else tree.node place := by
  have names : ∀ name ∈ (Text.split '/' path).dropLast, isName name = true :=
    fun name inside => names_of_safe safe name ((List.dropLast_sublist _).subset inside)
  have leafName : isName (Text.lastSegment path) = true := by
    apply names_of_safe safe
    rw [← split_parent_leaf path]
    simp
  rcases open_parents_exact _ tree root rooted names clear with ⟨opened, ran, nodes⟩
  have located := locate_eq root path
  -- The leaf itself is not among the parents that are made.
  have leaf : opened.node (locate root path) = tree.node (locate root path) := by
    rw [nodes, if_neg]
    intro made
    have short := made.2.length_le
    rw [located, List.length_append, List.length_cons] at short
    omega
  have above : opened.node (root ++ (Text.split '/' path).dropLast) = some .directory := by
    rw [nodes]
    rcases clear _ List.prefix_rfl with missing | directory
    · rw [if_pos ⟨missing, List.prefix_rfl⟩]
    · rw [if_neg (by simp [directory]), directory]
  have fits : opened.Fits (root ++ (Text.split '/' path).dropLast) (Text.lastSegment path) := by
    refine ⟨above, leafName, ?_⟩
    rw [← located, leaf]
    rcases free with missing | ⟨mode, data, file⟩
    · simp [missing]
    · simp [file]
  have put : writeTextWithinRoot newFileMode tree root path content =
      (opened.add (root ++ (Text.split '/' path).dropLast) (Text.lastSegment path)
        (.file (keptMode newFileMode (tree.node (locate root path))) (encodeUtf8 content)),
        .ok ()) := by
    unfold writeTextWithinRoot
    rw [openParentDir, safe]
    simp only [Tree.isDirectory, rooted, Bool.not_true, Bool.false_eq_true, if_false, decide_true,
      ran, atomicWriteAt, ← located, leaf]
    rcases free with missing | ⟨mode, data, file⟩
    · rw [missing]
      rfl
    · rw [file]
      rfl
  refine ⟨_, put, ?_⟩
  intro place
  by_cases here : place = locate root path
  · rw [if_pos here, here, located, Tree.add_node_self opened _ _ _ fits]
  · have other : place ≠ root ++ (Text.split '/' path).dropLast ++ [Text.lastSegment path] := by
      rw [← located]
      exact here
    rw [if_neg here, Tree.add_node_of_ne opened _ _ _ place other, nodes]
    have same : place <+: locate root path ↔ place <+: root ++ (Text.split '/' path).dropLast := by
      rw [located, List.prefix_concat_iff]
      constructor
      · intro inside
        exact inside.resolve_left other
      · exact Or.inr
    simp only [same]

end Operations

end EvoomGuard.Workspace
