import EvoomGuard.Verifiers.CandidateDeletion

/-!
The ordered write transaction of `verifiers/repo_materialization.py`: FILE blocks, then
PATCH blocks, then the restored package manifests. The patcher and the manifest
restoration are arguments, as they are injected in the source; no result here depends on
what they compute.
-/

namespace EvoomGuard.Verifiers

open Lib Candidate Domain Domain.Harness Workspace

/-- Why an edit was refused. The message of a failed patch is the one the patcher raises. -/
inductive MaterializationError where
  | unreadable (path : Text) (problem : WorkspaceError)
  | unwritable (path : Text) (problem : WorkspaceError)
  | patchTargetNotFound (path : Text)
  | patchDidNotApply (path message : Text)
  | manifestDisappeared (path : Text)

/-- The rejection text, over the text of the exception behind it. -/
def MaterializationError.text (describe : WorkspaceError → Text) : MaterializationError → Text
  | .unreadable path problem =>
    ("edit source could not be read safely — refusing to treat it " ++
      "as absent: ").toList ++ path ++ " (" ++ describe problem ++ ")"
  | .unwritable path problem =>
    ("edit target escapes the repo copy or changed inside it — " ++
      "refusing to write: ").toList ++ path ++ " (" ++ describe problem ++ ")"
  | .patchTargetNotFound path =>
    "PATCH target not found: " ++ path ++
      (" — " ++ "use a <<<FILE>>> block " ++ "to create new files").toList
  | .patchDidNotApply path message =>
    "PATCH did not apply to " ++ path ++ ": " ++ message ++
      (" — " ++ "copy a unique anchor verbatim from the shown file").toList
  | .manifestDisappeared path =>
    "edited package manifest disappeared before verification: " ++ path

/-- A missing source is an answer, any other failed read an error. -/
def safeRead (tree : Tree) (root : Path) (path : Text) :
    Except MaterializationError (Option Text) :=
  match readTextWithinRoot tree root path with
  | .ok text => .ok (some text)
  | .error .fileNotFound => .ok none
  | .error problem => .error (.unreadable path problem)

def safeWrite (newFileMode : Nat) (tree : Tree) (root : Path) (path content : Text) :
    Tree × Option MaterializationError :=
  match writeTextWithinRoot newFileMode tree root path content with
  | (written, .ok ()) => (written, none)
  | (written, .error problem) => (written, some (.unwritable path problem))

def isPackageManifest (path : Text) : Bool := Text.lastSegment path == "package.json"

def packagePaths (fileBlocks : Dict Text Text) (patchBlocks : List PatchBlock) : List Text :=
  Text.sortedSet (fileBlocks.keys.filter isPackageManifest ++
    (patchBlocks.map PatchBlock.path).filter isPackageManifest)

section Transaction

variable (newFileMode : Nat) (root : Path)
  (patcher : Text → Text → Text → Except Text Text)
  (restorePackageJson : Option Text → Text → Text)

def readOriginals (tree : Tree) : List Text →
    Except MaterializationError (List (Text × Option Text))
  | [] => .ok []
  | path :: rest =>
    match safeRead tree root path with
    | .error problem => .error problem
    | .ok original =>
      match readOriginals tree rest with
      | .error problem => .error problem
      | .ok originals => .ok ((path, original) :: originals)

def writeFileBlocks : Tree → List (Text × Text) → Tree × Option MaterializationError
  | tree, [] => (tree, none)
  | tree, (path, content) :: rest =>
    match safeWrite newFileMode tree root path content with
    | (written, some problem) => (written, some problem)
    | (written, none) => writeFileBlocks written rest

def applyPatchBlocks : Tree → List PatchBlock → Tree × Option MaterializationError
  | tree, [] => (tree, none)
  | tree, block :: rest =>
    match safeRead tree root block.path with
    | .error problem => (tree, some problem)
    | .ok none => (tree, some (.patchTargetNotFound block.path))
    | .ok (some source) =>
      match patcher source block.search block.replace with
      | .error message => (tree, some (.patchDidNotApply block.path message))
      | .ok patched =>
        match safeWrite newFileMode tree root block.path patched with
        | (written, some problem) => (written, some problem)
        | (written, none) => applyPatchBlocks written rest

def restoreManifests (originals : List (Text × Option Text)) :
    Tree → List Text → Tree × Option MaterializationError
  | tree, [] => (tree, none)
  | tree, path :: rest =>
    match safeRead tree root path with
    | .error problem => (tree, some problem)
    | .ok none => (tree, some (.manifestDisappeared path))
    | .ok (some manifest) =>
      let restored := restorePackageJson ((originals.lookup path).getD none) manifest
      if restored = manifest then restoreManifests originals tree rest
      else
        match safeWrite newFileMode tree root path restored with
        | (written, some problem) => (written, some problem)
        | (written, none) => restoreManifests originals written rest

/-- Applies FILE blocks, then PATCH blocks, while preserving judge manifests. -/
def materializeCandidateEdits (tree : Tree) (fileBlocks : Dict Text Text)
    (patchBlocks : List PatchBlock) : Tree × Option MaterializationError :=
  let manifests := packagePaths fileBlocks patchBlocks
  match readOriginals root tree manifests with
  | .error problem => (tree, some problem)
  | .ok originals =>
    match writeFileBlocks newFileMode root tree fileBlocks.entries with
    | (written, some problem) => (written, some problem)
    | (written, none) =>
      match applyPatchBlocks newFileMode root patcher written patchBlocks with
      | (patched, some problem) => (patched, some problem)
      | (patched, none) =>
        restoreManifests newFileMode root restorePackageJson originals patched manifests

/-- From one tree to the other, files change only where a path of the list names them. -/
def ChangesOnly (paths : List Text) (before after : Tree) : Prop :=
  ∀ place, (∀ path ∈ paths, place ≠ locate root path) → after.fileAt place = before.fileAt place

theorem changes_only_refl (paths : List Text) (tree : Tree) : ChangesOnly root paths tree tree :=
  fun _ _ => rfl

theorem changes_only_trans {paths : List Text} {first second third : Tree}
    (early : ChangesOnly root paths first second) (late : ChangesOnly root paths second third) :
    ChangesOnly root paths first third :=
  fun place outside => (late place outside).trans (early place outside)

theorem changes_only_mono {few many : List Text} (subset : few ⊆ many) {before after : Tree}
    (changes : ChangesOnly root few before after) : ChangesOnly root many before after :=
  fun place outside => changes place fun path inside => outside path (subset inside)

/-- The entry at a path is a regular file. -/
def IsFile (tree : Tree) (path : Text) : Prop :=
  ∃ mode data, tree.fileAt (locate root path) = some (.file mode data)

/-- What one successful write does: its path is a regular file afterwards, and no other file
changes. -/
structure WriteStep (path : Text) (before after : Tree) : Prop where
  only : ChangesOnly root [path] before after
  file : IsFile root after path

theorem is_file_of_write_step {path other : Text} {before after : Tree}
    (step : WriteStep root path before after) (present : IsFile root before other) :
    IsFile root after other := by
  by_cases same : other = path
  · exact same ▸ step.file
  · obtain ⟨mode, data, found⟩ := present
    refine ⟨mode, data, ?_⟩
    rw [← found]
    refine step.only _ fun written inside located => same ?_
    cases List.mem_singleton.mp inside
    exact locate_injective root located

variable (tree written : Tree) (path content : Text)

/-- A successful write leaves a regular file with its content, and changes no other file. -/
theorem write_text_effect
    (ok : writeTextWithinRoot newFileMode tree root path content = (written, .ok ())) :
    isSafeRelativePath path = true ∧ ChangesOnly root [path] tree written ∧
      ∃ mode, written.fileAt (locate root path) = some (.file mode (encodeUtf8 content)) := by
  unfold writeTextWithinRoot openParentDir at ok
  by_cases safe : isSafeRelativePath path = true
  · by_cases directory : tree.isDirectory root = true
    · simp only [safe, directory, Bool.not_true, Bool.false_eq_true, if_false] at ok
      have frame := open_parents_fileAt true (Text.split '/' path).dropLast tree root
      have names : ∀ name ∈ (Text.split '/' path).dropLast, isName name = true :=
        fun name inside => names_of_safe safe name ((List.dropLast_sublist _).subset inside)
      have opened := open_parents_ok true (Text.split '/' path).dropLast tree root
      rcases result : openParents true tree root (Text.split '/' path).dropLast with ⟨middle, answer⟩
      rw [result] at ok frame
      cases answer with
      | error problem => simp at ok
      | ok above =>
        obtain ⟨rfl, inside⟩ := opened above (by simpa [Tree.isDirectory] using directory) names
          (by rw [result])
        rw [result] at inside
        have leafName : isName (Text.lastSegment path) = true := by
          refine names_of_safe safe _ ?_
          rw [← split_parent_leaf path]
          simp
        have written_at : ∀ mode,
            middle.node (locate root path) ≠ some .directory →
            written = middle.add (root ++ (Text.split '/' path).dropLast)
              (Text.lastSegment path) (.file mode (encodeUtf8 content)) →
            ChangesOnly root [path] tree written ∧ ∃ mode,
              written.fileAt (locate root path) = some (.file mode (encodeUtf8 content)) := by
          rintro mode notDirectory rfl
          rw [locate_eq] at notDirectory
          constructor
          · intro place outside
            have other := outside path List.mem_cons_self
            rw [locate_eq] at other
            rw [Tree.fileAt, Tree.add_node_of_ne _ _ _ _ _ other, ← frame place, Tree.fileAt]
          · apply Exists.intro mode
            rw [Tree.fileAt, locate_eq,
              Tree.add_node_self _ _ _ _ ⟨inside, leafName, notDirectory⟩]
        simp only [atomicWriteAt, ← locate_eq] at ok
        apply And.intro safe
        cases found : middle.node (locate root path) with
        | none =>
          simp only [found, Prod.mk.injEq, and_true] at ok
          exact written_at _ (by simp [found]) ok.symm
        | some entry =>
          cases entry with
          | file mode data | symlink target =>
            simp only [found, Prod.mk.injEq, and_true] at ok
            exact written_at _ (by simp [found]) ok.symm
          | directory | special => simp [found] at ok
    · simp [safe, directory] at ok
  · simp [safe] at ok

theorem write_text_step
    (ok : writeTextWithinRoot newFileMode tree root path content = (written, .ok ())) :
    WriteStep root path tree written := by
  obtain ⟨_, only, mode, found⟩ := write_text_effect newFileMode root tree written path content ok
  exact ⟨only, mode, _, found⟩

theorem safe_write_step (ok : safeWrite newFileMode tree root path content = (written, none)) :
    WriteStep root path tree written := by
  unfold safeWrite at ok
  split at ok
  · rename_i after done
    cases ok
    exact write_text_step newFileMode root tree _ path content done
  · cases ok

/-- What a successful part of the transaction over `paths` guarantees. -/
structure Transacted (paths : List Text) (before after : Tree) : Prop where
  only : ChangesOnly root paths before after
  keeps : ∀ path, IsFile root before path → IsFile root after path
  files : ∀ path ∈ paths, IsFile root after path

theorem transacted_cons {path : Text} {rest : List Text} {before middle after : Tree}
    (step : WriteStep root path before middle) (later : Transacted root rest middle after) :
    Transacted root (path :: rest) before after where
  only := changes_only_trans root
    (changes_only_mono root (by simp) step.only)
    (changes_only_mono root (List.subset_cons_self path rest) later.only)
  keeps := fun other present => later.keeps other (is_file_of_write_step root step present)
  files := by
    intro other inside
    rcases List.mem_cons.mp inside with rfl | inRest
    · exact later.keeps other step.file
    · exact later.files other inRest

theorem transacted_nil (tree : Tree) : Transacted root [] tree tree where
  only := changes_only_refl root [] tree
  keeps := fun _ present => present
  files := fun _ inside => absurd inside List.not_mem_nil

theorem write_file_blocks_transacted (entries : List (Text × Text)) :
    ∀ tree written, writeFileBlocks newFileMode root tree entries = (written, none) →
      Transacted root (entries.map Prod.fst) tree written := by
  induction entries with
  | nil =>
    intro tree written ok
    cases ok
    exact transacted_nil root tree
  | cons entry rest ih =>
    intro tree written ok
    simp only [writeFileBlocks] at ok
    rcases result : safeWrite newFileMode tree root entry.1 entry.2 with ⟨middle, problem⟩
    rw [result] at ok
    cases problem with
    | some problem => cases ok
    | none =>
      exact transacted_cons root
        (safe_write_step newFileMode root tree middle entry.1 entry.2 result)
        (ih middle written ok)

theorem apply_patch_blocks_transacted (blocks : List PatchBlock) :
    ∀ tree written, applyPatchBlocks newFileMode root patcher tree blocks = (written, none) →
      Transacted root (blocks.map PatchBlock.path) tree written := by
  induction blocks with
  | nil =>
    intro tree written ok
    cases ok
    exact transacted_nil root tree
  | cons block rest ih =>
    intro tree written ok
    simp only [applyPatchBlocks] at ok
    split at ok
    · cases ok
    · cases ok
    · rename_i source _
      split at ok
      · cases ok
      · rename_i patched _
        rcases result : safeWrite newFileMode tree root block.path patched with ⟨middle, problem⟩
        rw [result] at ok
        cases problem with
        | some problem => cases ok
        | none =>
          exact transacted_cons root
            (safe_write_step newFileMode root tree middle block.path patched result)
            (ih middle written ok)

/-- Restoring manifests rewrites manifests only; one that is left alone need not be a file
the transaction wrote. -/
theorem restore_manifests_frame (originals : List (Text × Option Text)) (paths : List Text) :
    ∀ tree written,
      restoreManifests newFileMode root restorePackageJson originals tree paths =
        (written, none) →
      ChangesOnly root paths tree written ∧
        ∀ path, IsFile root tree path → IsFile root written path := by
  induction paths with
  | nil =>
    intro tree written ok
    cases ok
    exact ⟨changes_only_refl root [] tree, fun _ present => present⟩
  | cons path rest ih =>
    intro tree written ok
    simp only [restoreManifests] at ok
    split at ok
    · cases ok
    · cases ok
    · rename_i manifest _
      split_ifs at ok with same
      · obtain ⟨only, keeps⟩ := ih tree written ok
        exact ⟨changes_only_mono root (List.subset_cons_self path rest) only, keeps⟩
      · rcases result : safeWrite newFileMode tree root path
          (restorePackageJson ((originals.lookup path).getD none) manifest) with ⟨middle, problem⟩
        rw [result] at ok
        cases problem with
        | some problem => cases ok
        | none =>
          have step := safe_write_step newFileMode root tree middle path _ result
          obtain ⟨only, keeps⟩ := ih middle written ok
          exact ⟨changes_only_trans root (changes_only_mono root (by simp) step.only)
              (changes_only_mono root (List.subset_cons_self path rest) only),
            fun other present => keeps other (is_file_of_write_step root step present)⟩

def patchedTree (tree : Tree) (fileBlocks : Dict Text Text) (patchBlocks : List PatchBlock) : Tree :=
  (applyPatchBlocks newFileMode root patcher
    (writeFileBlocks newFileMode root tree fileBlocks.entries).1 patchBlocks).1

theorem materialize_parts {tree written : Tree} {fileBlocks : Dict Text Text}
    {patchBlocks : List PatchBlock}
    (ok : materializeCandidateEdits newFileMode root patcher restorePackageJson tree fileBlocks
      patchBlocks = (written, none)) :
    ∃ originals filed,
      writeFileBlocks newFileMode root tree fileBlocks.entries = (filed, none) ∧
      applyPatchBlocks newFileMode root patcher filed patchBlocks =
        (patchedTree newFileMode root patcher tree fileBlocks patchBlocks, none) ∧
      restoreManifests newFileMode root restorePackageJson originals
        (patchedTree newFileMode root patcher tree fileBlocks patchBlocks)
        (packagePaths fileBlocks patchBlocks) = (written, none) := by
  simp only [materializeCandidateEdits] at ok
  cases read : readOriginals root tree (packagePaths fileBlocks patchBlocks) with
  | error problem => simp [read] at ok
  | ok originals =>
    rcases filed : writeFileBlocks newFileMode root tree fileBlocks.entries with ⟨first, problem⟩
    simp only [read, filed] at ok
    cases problem with
    | some problem => cases ok
    | none =>
      rcases patched : applyPatchBlocks newFileMode root patcher first patchBlocks with
        ⟨second, problem⟩
      simp only [patched] at ok
      cases problem with
      | some problem => cases ok
      | none =>
        have reached : patchedTree newFileMode root patcher tree fileBlocks patchBlocks =
            second := by
          rw [patchedTree, filed, patched]
        rw [reached]
        exact ⟨originals, first, rfl, patched, ok⟩

/-- A completed materialization changes files at the edited paths only, and leaves a regular
file at each of them. -/
theorem materialize_transacted (tree written : Tree) (fileBlocks : Dict Text Text)
    (patchBlocks : List PatchBlock)
    (ok : materializeCandidateEdits newFileMode root patcher restorePackageJson tree fileBlocks
      patchBlocks = (written, none)) :
    Transacted root (editedPaths fileBlocks patchBlocks) tree written := by
  have fileSubset : fileBlocks.entries.map Prod.fst ⊆ editedPaths fileBlocks patchBlocks :=
    fun path inside => mem_edited_paths.mpr (Or.inl inside)
  have patchSubset : patchBlocks.map PatchBlock.path ⊆ editedPaths fileBlocks patchBlocks :=
    fun path inside => mem_edited_paths.mpr (Or.inr (List.mem_map.mp inside))
  have manifestSubset : packagePaths fileBlocks patchBlocks ⊆ editedPaths fileBlocks patchBlocks := by
    intro path inside
    simp only [packagePaths, Text.mem_sorted_set, List.mem_append, List.mem_filter] at inside
    rcases inside with ⟨key, -⟩ | ⟨key, -⟩
    · exact fileSubset key
    · exact patchSubset key
  obtain ⟨originals, first, filed, patched, restored⟩ :=
    materialize_parts newFileMode root patcher restorePackageJson ok
  have filing := write_file_blocks_transacted newFileMode root _ tree first filed
  have patching := apply_patch_blocks_transacted newFileMode root patcher patchBlocks first _ patched
  obtain ⟨only, keeps⟩ := restore_manifests_frame newFileMode root restorePackageJson originals _ _
    written restored
  refine ⟨?_, ?_, ?_⟩
  · exact changes_only_trans root (changes_only_mono root fileSubset filing.only)
      (changes_only_trans root (changes_only_mono root patchSubset patching.only)
        (changes_only_mono root manifestSubset only))
  · exact fun path present => keeps path (patching.keeps path (filing.keeps path present))
  · intro path inside
    rcases mem_edited_paths.mp inside with key | ⟨block, inBlocks, rfl⟩
    · exact keeps path (patching.keeps path (filing.files path key))
    · exact keeps _ (patching.files _ (List.mem_map_of_mem inBlocks))

end Transaction

end EvoomGuard.Verifiers
