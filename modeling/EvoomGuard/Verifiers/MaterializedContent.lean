import EvoomGuard.Verifiers.RepoMaterialization
import EvoomGuard.Workspace.Effects

/-!
What the transaction leaves to be read at each edited path: the text of its FILE block, or of the
base, with the PATCH blocks of that path applied in the order of the candidate.
-/

namespace EvoomGuard.Verifiers

open Lib Candidate Workspace

/-- The contained read of a path gives this text. -/
def Holds (root : Path) (tree : Tree) (path text : Text) : Prop :=
  readTextWithinRoot tree root path = .ok text

theorem holds_unique {root : Path} {tree : Tree} {path first second : Text}
    (one : Holds root tree path first) (other : Holds root tree path second) : first = second := by
  have same := one.symm.trans other
  injection same

theorem holds_iff (root : Path) (tree : Tree) (path text : Text) :
    Holds root tree path text ↔ isSafeRelativePath path = true ∧ ∃ mode data,
      tree.fileAt (locate root path) = some (.file mode data) ∧ decodeUtf8 data = some text := by
  constructor
  · intro held
    unfold Holds readTextWithinRoot at held
    by_cases safe : isSafeRelativePath path = true
    · apply And.intro safe
      cases opened : (openParentDir false tree root path).2 with
      | error problem =>
        rw [opened] at held
        cases held
      | ok above =>
        have place : above ++ [Text.lastSegment path] = locate root path := by
          rw [openParentDir, safe] at opened
          simp only [Bool.not_true, Bool.false_eq_true, if_false] at opened
          split_ifs at opened with directory
          rw [locate_eq]
          rw [(open_parents_ok false _ tree root above
            (by simpa [Tree.isDirectory] using directory)
            (fun name inside => names_of_safe safe name
              ((List.dropLast_sublist _).subset inside)) opened).1]
        rw [opened] at held
        dsimp only at held
        rw [place] at held
        cases found : tree.node (locate root path) with
        | none =>
          rw [found] at held
          cases held
        | some entry =>
          rw [found] at held
          cases entry with
          | file mode data =>
            cases decoded : decodeUtf8 data with
            | none => simp [decoded] at held
            | some content =>
              simp only [decoded, Except.ok.injEq] at held
              rw [Tree.fileAt, found]
              exact ⟨mode, data, rfl, by rw [decoded, held]⟩
          | symlink target | directory | special => cases held
    · simp [openParentDir, safe] at held
  · intro readable
    obtain ⟨safe, mode, data, found, decoded⟩ := readable
    apply read_text_present safe mode data text _ decoded
    unfold Tree.fileAt at found
    split at found
    · exact absurd found (by simp)
    · exact found

theorem holds_frame {root : Path} {paths : List Text} {before after : Tree}
    (changes : ChangesOnly root paths before after) {path : Text} (outside : path ∉ paths)
    (text : Text) : Holds root after path text ↔ Holds root before path text := by
  have same := changes (locate root path) fun other inside equal =>
    outside (locate_injective root equal ▸ inside)
  rw [holds_iff, holds_iff, same]

section Transaction

variable (newFileMode : Nat) (root : Path)
  (patcher : Text → Text → Text → Except Text Text)
  (restorePackageJson : Option Text → Text → Text)

theorem safe_write_holds (tree written : Tree) (path content : Text)
    (ok : safeWrite newFileMode tree root path content = (written, none)) :
    Holds root written path content := by
  unfold safeWrite at ok
  split at ok
  · rename_i after done
    cases ok
    obtain ⟨safe, _, mode, found⟩ :=
      write_text_effect newFileMode root tree _ path content done
    rw [holds_iff]
    exact ⟨safe, mode, _, found, decode_encode content⟩
  · cases ok

theorem safe_read_holds {tree : Tree} {path text : Text}
    (read : safeRead tree root path = .ok (some text)) : Holds root tree path text := by
  unfold safeRead at read
  split at read
  · rename_i found done
    cases read
    exact done
  · cases read
  · cases read

theorem holds_after_write {tree written : Tree} {path content : Text}
    (ok : safeWrite newFileMode tree root path content = (written, none)) {other : Text}
    (apart : other ≠ path) (text : Text) :
    Holds root written other text ↔ Holds root tree other text := by
  have step := safe_write_step newFileMode root tree written path content ok
  apply holds_frame step.only
  rw [List.mem_singleton]
  exact apart

theorem write_file_blocks_holds (entries : List (Text × Text)) :
    ∀ tree written, (entries.map Prod.fst).Nodup →
      writeFileBlocks newFileMode root tree entries = (written, none) →
        ∀ entry ∈ entries, Holds root written entry.1 entry.2 := by
  induction entries with
  | nil => simp
  | cons entry rest ih =>
    intro tree written distinct ok other inside
    rw [List.map_cons, List.nodup_cons] at distinct
    simp only [writeFileBlocks] at ok
    rcases result : safeWrite newFileMode tree root entry.1 entry.2 with ⟨middle, problem⟩
    rw [result] at ok
    cases problem with
    | some problem => cases ok
    | none =>
      rw [List.mem_cons] at inside
      cases inside with
      | inl first =>
        have later := write_file_blocks_transacted newFileMode root rest middle written ok
        rw [first, holds_frame later.only distinct.1]
        exact safe_write_holds newFileMode root tree middle entry.1 entry.2 result
      | inr after => exact ih middle written distinct.2 ok other after

/-- The patches of one path, in the order of the candidate. -/
def patchesOf (path : Text) (blocks : List PatchBlock) : List PatchBlock :=
  blocks.filter fun block => block.path = path

/-- Each patch applied to what the one before it gives. -/
def applyInOrder : Text → List PatchBlock → Except Text Text
  | source, [] => .ok source
  | source, block :: rest =>
    match patcher source block.search block.replace with
    | .error message => .error message
    | .ok patched => applyInOrder patched rest

theorem patches_of_cons (path : Text) (block : PatchBlock) (rest : List PatchBlock) :
    patchesOf path (block :: rest) =
      if block.path = path then block :: patchesOf path rest else patchesOf path rest := by
  rw [patchesOf, List.filter_cons]
  simp only [decide_eq_true_eq]
  rfl

theorem patches_of_ne_nil {path : Text} {blocks : List PatchBlock} :
    patchesOf path blocks ≠ [] ↔ ∃ block ∈ blocks, block.path = path := by
  rw [patchesOf, ne_eq, List.filter_eq_nil_iff]
  simp

theorem apply_patch_blocks_cons {block : PatchBlock} {rest : List PatchBlock} {tree written : Tree}
    (ok : applyPatchBlocks newFileMode root patcher tree (block :: rest) = (written, none)) :
    ∃ source patched middle, Holds root tree block.path source ∧
      patcher source block.search block.replace = .ok patched ∧
      safeWrite newFileMode tree root block.path patched = (middle, none) ∧
      applyPatchBlocks newFileMode root patcher middle rest = (written, none) := by
  simp only [applyPatchBlocks] at ok
  split at ok
  · cases ok
  · cases ok
  · rename_i source read
    split at ok
    · cases ok
    · rename_i patched done
      rcases result : safeWrite newFileMode tree root block.path patched with ⟨middle, problem⟩
      rw [result] at ok
      cases problem with
      | some problem => cases ok
      | none => exact ⟨source, patched, middle, safe_read_holds root read, done, result, ok⟩

theorem apply_patch_blocks_holds (blocks : List PatchBlock) :
    ∀ tree written, applyPatchBlocks newFileMode root patcher tree blocks = (written, none) →
      ∀ path text, Holds root tree path text → ∃ final,
        applyInOrder patcher text (patchesOf path blocks) = .ok final ∧
          Holds root written path final := by
  induction blocks with
  | nil =>
    intro tree written ok path text held
    cases ok
    exact ⟨text, rfl, held⟩
  | cons block rest ih =>
    intro tree written ok path text held
    obtain ⟨source, patched, middle, read, done, wrote, later⟩ :=
      apply_patch_blocks_cons newFileMode root patcher ok
    rw [patches_of_cons]
    by_cases own : block.path = path
    · subst own
      have same := holds_unique held read
      subst same
      have next := safe_write_holds newFileMode root tree middle block.path patched wrote
      obtain ⟨final, applied, held⟩ := ih middle written later block.path patched next
      rw [if_pos rfl, applyInOrder, done]
      exact ⟨final, applied, held⟩
    · rw [if_neg own]
      apply ih middle written later
      rw [holds_after_write newFileMode root wrote (Ne.symm own)]
      exact held

theorem patch_targets_held (blocks : List PatchBlock) :
    ∀ tree written, applyPatchBlocks newFileMode root patcher tree blocks = (written, none) →
      ∀ block ∈ blocks, ∃ text, Holds root tree block.path text := by
  induction blocks with
  | nil => simp
  | cons block rest ih =>
    intro tree written ok other inside
    obtain ⟨source, patched, middle, read, done, wrote, later⟩ :=
      apply_patch_blocks_cons newFileMode root patcher ok
    by_cases same : other.path = block.path
    · exact ⟨source, same ▸ read⟩
    · rw [List.mem_cons] at inside
      cases inside with
      | inl first => exact absurd (congrArg PatchBlock.path first) same
      | inr after =>
        obtain ⟨text, held⟩ := ih middle written later other after
        rw [holds_after_write newFileMode root wrote same] at held
        exact ⟨text, held⟩

/-- The text the edits of a path start from: that of its FILE block, or of the base. -/
def StartsFrom (tree : Tree) (fileBlocks : Dict Text Text) (path text : Text) : Prop :=
  (path, text) ∈ fileBlocks.entries ∨ (path ∉ fileBlocks.keys ∧ Holds root tree path text)

theorem materialized_content {tree written : Tree} {fileBlocks : Dict Text Text}
    {patchBlocks : List PatchBlock}
    (ok : materializeCandidateEdits newFileMode root patcher restorePackageJson tree fileBlocks
      patchBlocks = (written, none)) {path : Text}
    (edited : path ∈ editedPaths fileBlocks patchBlocks) :
    ∃ text final, StartsFrom root tree fileBlocks path text ∧
      applyInOrder patcher text (patchesOf path patchBlocks) = .ok final ∧
      Holds root (patchedTree newFileMode root patcher tree fileBlocks patchBlocks) path final ∧
      (isPackageManifest path = false → Holds root written path final) := by
  obtain ⟨originals, filed, wrote, patched, restored⟩ :=
    materialize_parts newFileMode root patcher restorePackageJson ok
  have start : ∃ text, StartsFrom root tree fileBlocks path text ∧ Holds root filed path text := by
    by_cases given : path ∈ fileBlocks.keys
    · obtain ⟨entry, listed, rfl⟩ := List.mem_map.mp given
      exact ⟨entry.2, Or.inl listed, write_file_blocks_holds newFileMode root fileBlocks.entries
        tree filed fileBlocks.nodup wrote entry listed⟩
    · obtain ⟨block, listed, rfl⟩ := (mem_edited_paths.mp edited).resolve_left given
      obtain ⟨text, held⟩ := patch_targets_held newFileMode root patcher patchBlocks filed _
        patched block listed
      have filing := write_file_blocks_transacted newFileMode root fileBlocks.entries tree filed
        wrote
      have before := (holds_frame filing.only given text).mp held
      exact ⟨text, Or.inr ⟨given, before⟩, held⟩
  obtain ⟨text, starts, held⟩ := start
  obtain ⟨final, applied, after⟩ := apply_patch_blocks_holds newFileMode root patcher patchBlocks
    filed _ patched path text held
  refine ⟨text, final, starts, applied, after, ?_⟩
  intro plain
  have only := (restore_manifests_frame newFileMode root restorePackageJson originals _ _ written
    restored).1
  rw [holds_frame only]
  · exact after
  · intro listed
    simp only [packagePaths, Text.mem_sorted_set, List.mem_append, List.mem_filter, plain,
      Bool.false_eq_true, and_false, or_self] at listed

end Transaction

end EvoomGuard.Verifiers
