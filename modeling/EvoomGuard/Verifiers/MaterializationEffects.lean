import EvoomGuard.Verifiers.RepoMaterialization
import EvoomGuard.Workspace.CandidateTree
import EvoomGuard.Workspace.Effects

/-!
The exact effect of a materialization of FILE blocks and of a run of deletions whose ways are
clear.
-/

namespace EvoomGuard.Verifiers

open Lib Workspace Workspace.CandidateTree

/-- One written path does not lie above another. -/
def Independent (root : Path) (entries : List (Text × Text)) : Prop :=
  ∀ first ∈ entries, ∀ second ∈ entries, locate root first.1 <+: locate root second.1 →
    first.1 = second.1

/-- A block can be written: its path is safe, its way clear and its place free or a file. -/
structure Writable (root : Path) (tree : Tree) (path : Text) : Prop where
  safe : isSafeRelativePath path = true
  clear : ClearAbove tree root (Text.split '/' path).dropLast
  free : FreeOrFile tree (locate root path)

/-- What a completed list of writes leaves: its files, the directories above them, and everything
else as it was. -/
structure Written (newFileMode : Nat) (root : Path) (entries : List (Text × Text))
    (before after : Tree) : Prop where
  files : ∀ entry ∈ entries, after.node (locate root entry.1) = some
    (.file (keptMode newFileMode (before.node (locate root entry.1))) (encodeUtf8 entry.2))
  parents : ∀ place, before.node place = none → (∀ entry ∈ entries, place ≠ locate root entry.1) →
    (∃ entry ∈ entries, place <+: locate root entry.1) → after.node place = some .directory
  frame : ∀ place, (∀ entry ∈ entries, place ≠ locate root entry.1) →
    (before.node place = none → ∀ entry ∈ entries, ¬ place <+: locate root entry.1) →
    after.node place = before.node place

section Writing

variable (newFileMode : Nat) (root : Path)

theorem safe_write_exact (tree : Tree) (path content : Text)
    (rooted : tree.node root = some .directory) (writable : Writable root tree path) :
    ∃ written, safeWrite newFileMode tree root path content = (written, none) ∧
      ∀ place, written.node place =
        if place = locate root path then
          some (.file (keptMode newFileMode (tree.node (locate root path))) (encodeUtf8 content))
        else if tree.node place = none ∧ place <+: locate root path then some .directory
        else tree.node place := by
  rcases write_text_exact newFileMode content writable.safe rooted writable.clear writable.free with
    ⟨written, ran, nodes⟩
  exact ⟨written, by rw [safeWrite, ran], nodes⟩

theorem root_ne_locate (path : Text) : root ≠ locate root path := by
  intro same
  have lengths := congrArg List.length same
  have positive := List.length_pos_iff.mpr (Text.split_ne_nil '/' path)
  rw [locate, List.length_append] at lengths
  omega

theorem parent_prefix (path : Text) (init : List Text)
    (inside : init <+: (Text.split '/' path).dropLast) :
    root ++ init <+: locate root path ∧ root ++ init ≠ locate root path := by
  have proper : init <+: Text.split '/' path := inside.trans (List.dropLast_prefix _)
  constructor
  · exact (List.prefix_append_right_inj root).mpr proper
  · intro same
    have equal : init = Text.split '/' path := List.append_cancel_left same
    have positive := List.length_pos_iff.mpr (Text.split_ne_nil '/' path)
    have short := inside.length_le
    rw [equal, List.length_dropLast] at short
    omega

theorem writable_after (tree written : Tree) (path other content : Text)
    (nodes : ∀ place, written.node place =
      if place = locate root path then
        some (.file (keptMode newFileMode (tree.node (locate root path))) (encodeUtf8 content))
      else if tree.node place = none ∧ place <+: locate root path then some .directory
      else tree.node place)
    (apart : ¬ locate root path <+: locate root other)
    (otherApart : ¬ locate root other <+: locate root path)
    (writable : Writable root tree other) : Writable root written other := by
  constructor
  · exact writable.safe
  · intro init inside
    rcases parent_prefix root other init inside with ⟨above, _⟩
    rw [nodes, if_neg]
    · split_ifs
      · exact Or.inr rfl
      · exact writable.clear init inside
    · intro same
      rw [same] at above
      exact apart above
  · have unchanged : written.node (locate root other) = tree.node (locate root other) := by
      rw [nodes, if_neg, if_neg]
      · intro made
        exact otherApart made.2
      · intro same
        rw [same] at otherApart
        exact otherApart List.prefix_rfl
    rw [FreeOrFile, unchanged]
    exact writable.free

theorem write_file_blocks_exact (entries : List (Text × Text)) :
    ∀ tree : Tree, tree.node root = some .directory → (entries.map Prod.fst).Nodup →
      Independent root entries → (∀ entry ∈ entries, Writable root tree entry.1) →
      ∃ written, writeFileBlocks newFileMode root tree entries = (written, none) ∧
        Written newFileMode root entries tree written ∧ written.node root = some .directory := by
  induction entries with
  | nil =>
    intro tree rooted _ _ _
    refine ⟨tree, rfl, ⟨?_, ?_, ?_⟩, rooted⟩
    · intro entry inside
      cases inside
    · intro place _ _ above
      rcases above with ⟨entry, inside, _⟩
      cases inside
    · intro place _ _
      rfl
  | cons entry rest ih =>
    intro tree rooted distinct independent writable
    rw [List.map_cons, List.nodup_cons] at distinct
    rcases safe_write_exact newFileMode root tree entry.1 entry.2 rooted
      (writable entry List.mem_cons_self) with ⟨middle, ran, nodes⟩
    have apart (other : Text × Text) (inside : other ∈ rest) :
        ¬ locate root entry.1 <+: locate root other.1 ∧
          ¬ locate root other.1 <+: locate root entry.1 := by
      have different : entry.1 ≠ other.1 := by
        intro same
        exact distinct.1 (same ▸ List.mem_map_of_mem inside)
      constructor
      · intro above
        exact different (independent entry List.mem_cons_self other
          (List.mem_cons_of_mem _ inside) above)
      · intro above
        exact different (independent other (List.mem_cons_of_mem _ inside) entry
          List.mem_cons_self above).symm
    have middleRoot : middle.node root = some .directory := by
      rw [nodes, if_neg (root_ne_locate root entry.1), if_neg (by simp [rooted]), rooted]
    rcases ih middle middleRoot distinct.2
      (fun first inFirst second inSecond => independent first (List.mem_cons_of_mem _ inFirst)
        second (List.mem_cons_of_mem _ inSecond))
      (fun other inside => writable_after newFileMode root tree middle entry.1 other.1 entry.2
        nodes (apart other inside).1 (apart other inside).2
        (writable other (List.mem_cons_of_mem _ inside))) with ⟨written, later, effect, kept⟩
    have notRest (other : Text × Text) (inside : other ∈ rest) :
        locate root entry.1 ≠ locate root other.1 := by
      intro same
      rw [same] at apart
      exact (apart other inside).1 List.prefix_rfl
    have middleFile : middle.node (locate root entry.1) = some (.file
        (keptMode newFileMode (tree.node (locate root entry.1))) (encodeUtf8 entry.2)) := by
      rw [nodes, if_pos rfl]
    refine ⟨written, ?_, ⟨?_, ?_, ?_⟩, kept⟩
    · rw [writeFileBlocks, ran]
      exact later
    · intro other inside
      rcases List.mem_cons.mp inside with first | among
      · subst first
        rw [effect.frame _ notRest (by simp [middleFile]), middleFile]
      · rw [effect.files other among, nodes, if_neg (Ne.symm (notRest other among)), if_neg]
        intro made
        exact (apart other among).2 made.2
    · intro place missing outside above
      have notFirst := outside entry List.mem_cons_self
      have notLater := fun other inside => outside other (List.mem_cons_of_mem entry inside)
      by_cases made : place <+: locate root entry.1
      · have directory : middle.node place = some .directory := by
          rw [nodes, if_neg notFirst, if_pos ⟨missing, made⟩]
        rw [effect.frame place notLater (by simp [directory]), directory]
      · have absent : middle.node place = none := by
          rw [nodes, if_neg notFirst, if_neg (fun both => made both.2), missing]
        apply effect.parents place absent notLater
        rcases above with ⟨other, inside, below⟩
        rcases List.mem_cons.mp inside with first | among
        · rw [first] at below
          exact absurd below made
        · exact ⟨other, among, below⟩
    · intro place outside free
      have notFirst := outside entry List.mem_cons_self
      have notLater := fun other inside => outside other (List.mem_cons_of_mem entry inside)
      have same : middle.node place = tree.node place := by
        rw [nodes, if_neg notFirst, if_neg]
        intro made
        exact free made.1 entry List.mem_cons_self made.2
      rw [effect.frame place notLater, same]
      intro missing other inside
      rw [same] at missing
      exact free missing other (List.mem_cons_of_mem _ inside)

end Writing

/-- The text of a file before the blocks are written. -/
def originalText (tree : Tree) (root : Path) (path : Text) : Option Text :=
  match tree.node (locate root path) with
  | some (.file _ data) => decodeUtf8 data
  | _ => none

/-- A manifest that is there is text. -/
def Readable (tree : Tree) (root : Path) (path : Text) : Prop :=
  ∀ mode data, tree.node (locate root path) = some (.file mode data) →
    (decodeUtf8 data).isSome = true

section Manifests

variable (newFileMode : Nat) (root : Path) (restorePackageJson : Option Text → Text → Text)

theorem safe_read_original (tree : Tree) (path : Text) (rooted : tree.node root = some .directory)
    (writable : Writable root tree path) (readable : Readable tree root path) :
    safeRead tree root path = .ok (originalText tree root path) := by
  unfold safeRead originalText
  rcases writable.free with missing | ⟨mode, data, stored⟩
  · rw [read_text_absent writable.safe rooted writable.clear missing, missing]
  · rcases Option.isSome_iff_exists.mp (readable mode data stored) with ⟨text, decoded⟩
    rw [read_text_present writable.safe mode data text stored decoded, stored]
    simp only [decoded]

theorem read_originals_exact (tree : Tree) (paths : List Text)
    (rooted : tree.node root = some .directory)
    (writable : ∀ path ∈ paths, Writable root tree path)
    (readable : ∀ path ∈ paths, Readable tree root path) :
    readOriginals root tree paths =
      .ok (paths.map fun path => (path, originalText tree root path)) := by
  induction paths with
  | nil => rfl
  | cons path rest ih =>
    have later := ih (fun other inside => writable other (List.mem_cons_of_mem _ inside))
      (fun other inside => readable other (List.mem_cons_of_mem _ inside))
    rw [readOriginals, safe_read_original root tree path rooted (writable path List.mem_cons_self)
      (readable path List.mem_cons_self), later]
    rfl

theorem lookup_original (tree : Tree) (paths : List Text) (path : Text) (inside : path ∈ paths) :
    (paths.map fun path => (path, originalText tree root path)).lookup path =
      some (originalText tree root path) := by
  apply lookup_eq_of_mem_iff
  intro found
  rw [List.mem_map, Option.some.injEq]
  constructor
  · intro listed
    rcases listed with ⟨other, _, same⟩
    rw [Prod.mk.injEq] at same
    rw [← same.1, same.2]
  · intro same
    exact ⟨path, inside, by rw [same]⟩

theorem clear_of_present (tree : Tree) (path : Text)
    (present : tree.node (locate root path) ≠ none) :
    ClearAbove tree root (Text.split '/' path).dropLast := by
  intro init inside
  rcases parent_prefix root path init inside with ⟨⟨rest, joined⟩, apart⟩
  apply Or.inr
  apply tree.ancestor_directory (root ++ init) rest
  · intro empty
    rw [empty, List.append_nil] at joined
    exact apart joined
  · rw [joined]
    exact present

/-- Restoring manifests that were written rewrites each by its restored text. -/
theorem restore_manifests_exact (originals : List (Text × Option Text)) (paths : List Text) :
    ∀ tree : Tree, tree.node root = some .directory → paths.Nodup →
      (∀ path ∈ paths, isSafeRelativePath path = true ∧
        ∃ mode text, tree.node (locate root path) = some (.file mode (encodeUtf8 text))) →
      ∃ restored, restoreManifests newFileMode root restorePackageJson originals tree paths =
          (restored, none) ∧
        restored.node root = some .directory ∧
        (∀ path ∈ paths, ∀ mode text,
          tree.node (locate root path) = some (.file mode (encodeUtf8 text)) →
          restored.node (locate root path) = some (.file mode (encodeUtf8
            (restorePackageJson ((originals.lookup path).getD none) text)))) ∧
        ∀ place, (∀ path ∈ paths, place ≠ locate root path) →
          restored.node place = tree.node place := by
  induction paths with
  | nil =>
    intro tree rooted _ _
    refine ⟨tree, rfl, rooted, ?_, ?_⟩
    · intro path inside
      cases inside
    · intro place _
      rfl
  | cons path rest ih =>
    intro tree rooted distinct files
    rw [List.nodup_cons] at distinct
    rcases files path List.mem_cons_self with ⟨safe, mode, text, stored⟩
    have read : safeRead tree root path = .ok (some text) := by
      rw [safeRead, read_text_present safe mode _ text stored (decode_encode text)]
    -- Whether the manifest is rewritten or not, one file has the restored text.
    have step : ∃ middle,
        restoreManifests newFileMode root restorePackageJson originals tree (path :: rest) =
          restoreManifests newFileMode root restorePackageJson originals middle rest ∧
        ∀ place, middle.node place = if place = locate root path then some (.file mode
          (encodeUtf8 (restorePackageJson ((originals.lookup path).getD none) text)))
          else tree.node place := by
      by_cases same : restorePackageJson ((originals.lookup path).getD none) text = text
      · refine ⟨tree, by simp only [restoreManifests, read, if_pos same], ?_⟩
        intro place
        split_ifs with here
        · rw [here, stored, same]
        · rfl
      · have writable : Writable root tree path :=
          ⟨safe, clear_of_present root tree path (by simp [stored]), Or.inr ⟨_, _, stored⟩⟩
        rcases safe_write_exact newFileMode root tree path
          (restorePackageJson ((originals.lookup path).getD none) text) rooted writable with
          ⟨middle, ran, nodes⟩
        refine ⟨middle, by simp only [restoreManifests, read, if_neg same, ran], ?_⟩
        intro place
        rw [nodes, stored, keptMode]
        split_ifs with here made
        · rfl
        · rcases made.2 with ⟨below, joined⟩
          have directory := tree.ancestor_directory place below (by
            intro empty
            rw [empty, List.append_nil] at joined
            exact here joined) (by simp [joined, stored])
          rw [made.1] at directory
          cases directory
        · rfl
    rcases step with ⟨middle, unfolded, nodes⟩
    have apart (other : Text) (inside : other ∈ rest) : locate root other ≠ locate root path := by
      intro same
      exact distinct.1 (locate_injective root same ▸ inside)
    rcases ih middle (by rw [nodes, if_neg (root_ne_locate root path), rooted]) distinct.2 (by
        intro other inside
        rcases files other (List.mem_cons_of_mem _ inside) with ⟨otherSafe, otherFile⟩
        refine ⟨otherSafe, ?_⟩
        rw [nodes, if_neg (apart other inside)]
        exact otherFile) with ⟨restored, ran, kept, manifests, frame⟩
    refine ⟨restored, by rw [unfolded, ran], kept, ?_, ?_⟩
    · intro other inside otherMode otherText otherStored
      rcases List.mem_cons.mp inside with first | among
      · subst first
        rw [stored, Option.some.injEq, Node.file.injEq] at otherStored
        have texts : some text = some otherText := by
          rw [← decode_encode text, otherStored.2, decode_encode]
        rw [frame _ (fun later inRest => Ne.symm (apart later inRest)), nodes, if_pos rfl,
          otherStored.1, Option.some.inj texts]
      · apply manifests other among
        rw [nodes, if_neg (apart other among), otherStored]
    · intro place outside
      rw [frame place (fun later inRest => outside later (List.mem_cons_of_mem _ inRest)), nodes,
        if_neg (outside path List.mem_cons_self)]

end Manifests

theorem deletions_quiet (mapping : CaseMapping) (root : Path) (deleted : List Text) :
    ∀ tree : Tree, tree.node root = some .directory →
      (∀ path ∈ deleted, ClearAbove tree root (Text.split '/' path).dropLast) →
      (applyRepoCandidateDeletions mapping root tree deleted).2 = none := by
  induction deleted with
  | nil =>
    intro tree _ _
    rfl
  | cons path rest ih =>
    intro tree rooted clear
    have later := fun other inside => clear other (List.mem_cons_of_mem path inside)
    rw [applyRepoCandidateDeletions]
    split_ifs with refused
    · exact ih tree rooted later
    · have safe := safe_relative_of_portable mapping path (by simpa using refused)
      rcases delete_path_quiet safe rooted (clear path List.mem_cons_self) with ⟨existed, ran⟩
      have frame := delete_path_frame tree root path
      rcases result : deletePathWithinRoot tree root path with ⟨after, answer⟩
      rw [result] at ran frame
      simp only at ran frame
      subst ran
      apply ih after
      · rcases frame root with kept | ⟨below, _⟩
        · rw [kept, rooted]
        · have short := below.length_le
          have positive := List.length_pos_iff.mpr (Text.split_ne_nil '/' path)
          rw [locate, List.length_append] at short
          omega
      · intro other inside init among
        rcases frame (root ++ init) with kept | ⟨_, gone⟩
        · rw [kept]
          exact later other inside init among
        · exact Or.inl gone

section

variable (newFileMode : Nat) (root : Path) (patcher : Text → Text → Text → Except Text Text)
  (restorePackageJson : Option Text → Text → Text)

/-- The text a block leaves: its own, or the restored manifest. -/
def judgedText (tree : Tree) (blocks : Dict Text Text) (block : Text × Text) : Text :=
  if block.1 ∈ packagePaths blocks [] then
    restorePackageJson (originalText tree root block.1) block.2
  else block.2

theorem mem_package_paths (blocks : Dict Text Text) (path : Text)
    (inside : path ∈ packagePaths blocks []) : ∃ content, (path, content) ∈ blocks.entries := by
  simp only [packagePaths, List.map_nil, List.filter_nil, List.append_nil, Text.mem_sorted_set,
    List.mem_filter, Dict.keys, List.mem_map] at inside
  rcases inside with ⟨⟨entry, among, named⟩, _⟩
  exact ⟨entry.2, by rw [← named]; exact among⟩

/-- Materializing writable blocks writes their judged texts and nothing else. -/
theorem materialize_blocks_exact (tree : Tree) (blocks : Dict Text Text)
    (rooted : tree.node root = some .directory) (independent : Independent root blocks.entries)
    (writable : ∀ block ∈ blocks.entries, Writable root tree block.1)
    (readable : ∀ path ∈ packagePaths blocks [], Readable tree root path) :
    ∃ written, materializeCandidateEdits newFileMode root patcher restorePackageJson tree blocks [] =
        (written, none) ∧
      Written newFileMode root (blocks.entries.map fun block =>
        (block.1, judgedText root restorePackageJson tree blocks block)) tree written ∧
      written.node root = some .directory := by
  have manifests : ∀ path ∈ packagePaths blocks [], Writable root tree path := by
    intro path inside
    rcases mem_package_paths blocks path inside with ⟨content, among⟩
    exact writable _ among
  have read := read_originals_exact root tree (packagePaths blocks []) rooted manifests readable
  rcases write_file_blocks_exact newFileMode root blocks.entries tree rooted blocks.nodup independent
    writable with ⟨first, filed, effect, firstRoot⟩
  have distinct : (packagePaths blocks []).Nodup :=
    ((Text.sorted_perm _).nodup_iff).mpr (List.nodup_dedup _)
  have files : ∀ path ∈ packagePaths blocks [], isSafeRelativePath path = true ∧
      ∃ mode text, first.node (locate root path) = some (.file mode (encodeUtf8 text)) := by
    intro path inside
    rcases mem_package_paths blocks path inside with ⟨content, among⟩
    exact ⟨(manifests path inside).safe, _, _, effect.files _ among⟩
  rcases restore_manifests_exact newFileMode root restorePackageJson
    ((packagePaths blocks []).map fun path => (path, originalText tree root path))
    (packagePaths blocks []) first firstRoot distinct files with ⟨restored, ran, restoredRoot, restoredFiles, frame⟩
  have outside (place : Path) (other : ∀ block ∈ blocks.entries, place ≠ locate root block.1) :
      restored.node place = first.node place := by
    apply frame
    intro path inside
    rcases mem_package_paths blocks path inside with ⟨content, among⟩
    exact other _ among
  have judged (block : Text × Text) (among : block ∈ blocks.entries) :
      (block.1, judgedText root restorePackageJson tree blocks block) ∈
        blocks.entries.map fun block =>
          (block.1, judgedText root restorePackageJson tree blocks block) :=
    List.mem_map_of_mem among
  refine ⟨restored, ?_, ⟨?_, ?_, ?_⟩, restoredRoot⟩
  · simp only [materializeCandidateEdits, read, filed, applyPatchBlocks, ran]
  · intro entry inside
    rcases List.mem_map.mp inside with ⟨block, among, built⟩
    rw [← built]
    simp only [judgedText]
    have wrote := effect.files block among
    split_ifs with manifest
    · rw [restoredFiles block.1 manifest _ _ wrote, lookup_original root tree _ block.1 manifest,
        Option.getD_some]
    · rw [frame, wrote]
      intro path inPaths same
      rw [← locate_injective root same] at inPaths
      exact manifest inPaths
  · intro place missing apart above
    have others : ∀ block ∈ blocks.entries, place ≠ locate root block.1 := by
      intro block among
      have other := apart _ (judged block among)
      exact other
    rw [outside place others]
    apply effect.parents place missing others
    rcases above with ⟨entry, inside, below⟩
    rcases List.mem_map.mp inside with ⟨block, among, built⟩
    rw [← built] at below
    exact ⟨block, among, below⟩
  · intro place apart free
    have others : ∀ block ∈ blocks.entries, place ≠ locate root block.1 := by
      intro block among
      have other := apart _ (judged block among)
      exact other
    rw [outside place others]
    apply effect.frame place others
    intro missing block among
    have clear := free missing _ (judged block among)
    exact clear

end

end EvoomGuard.Verifiers
