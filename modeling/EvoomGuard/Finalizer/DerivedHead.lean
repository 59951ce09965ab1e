import EvoomGuard.Finalizer.CandidateAgreement
import EvoomGuard.Workspace.Effects

/-!
What a derived candidate says of its head: two heads with the same blocks and deletions have the
same leaves, with the same content.
-/

namespace EvoomGuard.Finalizer

open Lib Lib.Json Verifiers Workspace Workspace.CandidateTree

/-- No leaf of a Git tree stands below another. -/
def LeavesApart (tree : Dict Text GitEntry) : Prop :=
  ∀ path ∈ tree.keys, ∀ above ∈ properPrefixes path, above ∉ tree.keys

section

variable (quoted : Text → Text) (mapping : CaseMapping) (given : Option (List Text))
  (maximumPaths maximumTotalBytes : Option Nat) (base : GitReader) (baseTree : Dict Text GitEntry)
  (blocks : Dict Text Text) (deletions : List Text)

/-- The candidate is the one derived from the base and this head. -/
structure CandidateOf (head : GitReader) (headTree : Dict Text GitEntry) : Prop where
  read : head.tree mapping quoted = .ok headTree
  apart : LeavesApart headTree
  blocks :
    candidateBlocks quoted maximumPaths maximumTotalBytes mapping given base head = .ok blocks
  deletions : rawDeletedPaths baseTree headTree = deletions

/-- The entries of a path in two heads: the same, or files of the same content, whose modes can
only differ where the base has no entry. -/
def Alike (first second : GitReader) (path : Text) (entry other : GitEntry) : Prop :=
  entry = other ∨ entry.regular = true ∧ other.regular = true ∧
    first.content entry.objectId = second.content other.objectId ∧
    ∀ before, (path, before) ∈ baseTree.entries →
      entry.mode = before.mode ∧ other.mode = before.mode

end

section

variable {quoted : Text → Text} {mapping : CaseMapping} {given : Option (List Text)}
  {maximumPaths maximumTotalBytes : Option Nat} {base first second : GitReader}
  {baseTree firstTree secondTree : Dict Text GitEntry} {blocks : Dict Text Text}
  {deletions : List Text}

theorem mem_candidate_tree {tree : Dict Text GitEntry} {path : Text} {entry : GitEntry} :
    (path, entry) ∈ candidateTree given tree ↔
      (path, entry) ∈ tree.entries ∧ ignoredPath given path = false := by
  rw [candidateTree, List.mem_filter, Bool.not_eq_true']

theorem lookup_candidate_tree {path : Text} {entry : GitEntry} :
    (candidateTree given baseTree).lookup path = some entry ↔
      (path, entry) ∈ baseTree.entries ∧ ignoredPath given path = false := by
  rw [← mem_candidate_tree]
  exact ⟨mem_of_lookup_eq _ _ _, lookup_of_mem _
    (baseTree.nodup.sublist (List.filter_sublist.map Prod.fst)) _ _⟩

theorem contribution_some {head : GitReader} {path : Text} {entry : GitEntry} {block : Text × Text}
    (visible : ignoredPath given path = false)
    (found : contribution quoted head (candidateTree given baseTree) (path, entry) = some block) :
    head.content entry.objectId = encodeUtf8 block.2 ∧ entry.regular = true ∧
      ∀ before, (path, before) ∈ baseTree.entries → entry.mode = before.mode := by
  unfold contribution at found
  split_ifs at found with unchanged
  cases blob : changedBlob quoted head path ((candidateTree given baseTree).lookup path) entry with
  | error problem =>
    rw [blob] at found
    cases found
  | ok data =>
    rw [blob] at found
    obtain ⟨text, decoded, rfl⟩ := Option.map_eq_some_iff.mp found
    obtain ⟨regular, content, modes⟩ := changed_blob_ok quoted head path _ entry data blob
    exact ⟨content.trans (encode_decode data text decoded).symm, regular, fun before stored =>
      (modes before (lookup_candidate_tree.mpr ⟨stored, visible⟩)).1.symm⟩

section Leaves

variable (baseRead : base.tree mapping quoted = .ok baseTree)
  (derived : CandidateOf quoted mapping given maximumPaths maximumTotalBytes base baseTree blocks
    deletions first firstTree)

include baseRead derived

theorem block_leaf {block : Text × Text} (listed : block ∈ blocks.entries) :
    ∃ entry, (block.1, entry) ∈ firstTree.entries ∧
      first.content entry.objectId = encodeUtf8 block.2 ∧ entry.regular = true ∧
      ∀ before, (block.1, before) ∈ baseTree.entries → entry.mode = before.mode := by
  obtain ⟨⟨path, entry⟩, inside, found⟩ := ((candidate_blocks_ok _ _ _ _ _ _ _ _ _ _ baseRead
    derived.read derived.blocks).1 block).mp listed
  obtain ⟨held, visible⟩ := mem_candidate_tree.mp inside
  obtain rfl := contribution_key _ _ _ _ _ found
  exact ⟨entry, held, contribution_some visible found⟩

/-- A leaf is in the base with its entry, or it has a block. -/
theorem leaf_shown {path : Text} {entry : GitEntry} (inside : (path, entry) ∈ firstTree.entries)
    (visible : ignoredPath given path = false) :
    (path, entry) ∈ baseTree.entries ∨ ∃ block ∈ blocks.entries, block.1 = path := by
  obtain ⟨listed, represented⟩ :=
    candidate_blocks_ok _ _ _ _ _ _ _ _ _ _ baseRead derived.read derived.blocks
  have member := mem_candidate_tree.mpr ⟨inside, visible⟩
  by_cases unchanged : unchangedEntry ((candidateTree given baseTree).lookup path) entry = true
  · exact .inl (lookup_candidate_tree.mp ((unchanged_entry_iff _ _).mp unchanged)).1
  · obtain same | ⟨data, text, blob, decoded⟩ := represented _ member
    · exact absurd same unchanged
    · refine .inr ⟨(path, text), (listed _).mpr ⟨_, member, ?_⟩, rfl⟩
      unfold contribution
      rw [if_neg unchanged, blob]
      exact congrArg (Option.map _) decoded

end Leaves

theorem mem_raw_deleted_iff {path : Text} :
    path ∈ rawDeletedPaths baseTree firstTree ↔ path ∈ treePathsWithDirectories baseTree ∧
      path ∉ treePathsWithDirectories firstTree := by
  rw [rawDeletedPaths, Text.mem_sorted_set, List.mem_filter, Bool.not_eq_true', ← Bool.not_eq_true,
    List.contains_iff_mem]

theorem leaf_seen {tree : Dict Text GitEntry} {path : Text} {entry : GitEntry}
    (inside : (path, entry) ∈ tree.entries) (kept : ignoredPath none path = false) :
    path ∈ treePathsWithDirectories tree :=
  List.mem_flatMap.mpr ⟨_, mem_candidate_tree.mpr ⟨inside, kept⟩, List.mem_cons_self⟩

section Heads

variable (baseRead : base.tree mapping quoted = .ok baseTree) (baseApart : LeavesApart baseTree)
  (narrower : ∀ path, ignoredPath none path = false → ignoredPath given path = false)
  (derived : CandidateOf quoted mapping given maximumPaths maximumTotalBytes base baseTree blocks
    deletions first firstTree)
  (also : CandidateOf quoted mapping given maximumPaths maximumTotalBytes base baseTree blocks
    deletions second secondTree)

include baseRead baseApart narrower derived also

/-- A leaf that one head keeps from the base can only be missing from the other below a leaf, where
the base or the first head would have one below another. -/
theorem leaf_shared {path : Text} (kept : ignoredPath none path = false)
    (member : path ∈ firstTree.keys) : path ∈ secondTree.keys := by
  obtain ⟨item, inside, rfl⟩ := List.mem_map.mp member
  rcases leaf_shown baseRead derived inside (narrower _ kept) with based | ⟨block, listed, same⟩
  · by_contra missing
    have seen : item.1 ∈ treePathsWithDirectories secondTree := by
      by_contra gone
      have away := mem_raw_deleted_iff.mpr ⟨leaf_seen based kept, gone⟩
      rw [also.deletions, ← derived.deletions] at away
      exact (mem_raw_deleted_iff.mp away).2 (leaf_seen inside kept)
    obtain ⟨⟨leaf, other⟩, among, below⟩ := List.mem_flatMap.mp seen
    obtain ⟨held, leafKept⟩ := mem_candidate_tree.mp among
    rcases List.mem_cons.mp below with rfl | above
    · exact missing (List.mem_map.mpr ⟨_, held, rfl⟩)
    · rcases leaf_shown baseRead also held (narrower leaf leafKept) with known |
        ⟨block, listed, rfl⟩
      · exact baseApart leaf (List.mem_map_of_mem known) _ above (List.mem_map_of_mem based)
      · obtain ⟨value, found, _⟩ := block_leaf baseRead derived listed
        exact derived.apart _ (List.mem_map_of_mem found) _ above member
  · obtain ⟨other, found, _⟩ := block_leaf baseRead also listed
    rw [← same]
    exact List.mem_map_of_mem found

/-- The blocks and the deletions that are derived from a base and a head determine the head: the
same leaves with the same content, where only the mode of a new file is left open. -/
theorem derived_candidate_determines_head (path : Text) (kept : ignoredPath none path = false) :
    (path ∈ firstTree.keys ↔ path ∈ secondTree.keys) ∧
      ∀ entry other, (path, entry) ∈ firstTree.entries → (path, other) ∈ secondTree.entries →
        Alike baseTree first second path entry other := by
  refine ⟨⟨leaf_shared baseRead baseApart narrower derived also kept,
    leaf_shared baseRead baseApart narrower also derived kept⟩, ?_⟩
  intro entry other inside held
  have sole {tree : Dict Text GitEntry} {found known : GitEntry}
      (one : (path, found) ∈ tree.entries) (two : (path, known) ∈ tree.entries) : found = known :=
    congrArg Prod.snd (List.inj_on_of_nodup_map tree.nodup one two rfl)
  by_cases blocked : ∃ block ∈ blocks.entries, block.1 = path
  · obtain ⟨block, listed, rfl⟩ := blocked
    obtain ⟨_, one, content, regular, modes⟩ := block_leaf baseRead derived listed
    obtain ⟨_, two, same, alsoRegular, alsoModes⟩ := block_leaf baseRead also listed
    rw [sole inside one, sole held two]
    exact .inr ⟨regular, alsoRegular, content.trans same.symm, fun before stored =>
      ⟨modes before stored, alsoModes before stored⟩⟩
  · have one := (leaf_shown baseRead derived inside (narrower path kept)).resolve_right blocked
    have two := (leaf_shown baseRead also held (narrower path kept)).resolve_right blocked
    exact .inl (sole one two)

end Heads

end

def newFile (mode : Text) : GitReader :=
  { emptyBlobs [] with rows := [("a", ⟨mode, "blob", "e69de29"⟩)] }

def newFileTree (mode : Text) : Dict Text GitEntry := Dict.ofPairs (newFile mode).rows

theorem executable_bit_left_open :
    Alike gitEmpty (newFile "100644") (newFile "100755") "a" ⟨"100644", "blob", "e69de29"⟩
      ⟨"100755", "blob", "e69de29"⟩ := by
  have derived (mode : Text) (plain : mode = "100644" ∨ mode = "100755") :
      CandidateOf id asciiCase none none none (emptyBlobs []) gitEmpty (Dict.ofPairs [("a", [])]) []
        (newFile mode) (newFileTree mode) := by
    rcases plain with rfl | rfl <;>
      exact ⟨ok_of_read _ Dict.entries Dict.entries_injective _ (by decide),
        by unfold LeavesApart; decide,
        ok_of_read _ Dict.entries Dict.entries_injective _ (by decide), by decide⟩
  exact (derived_candidate_determines_head
    (ok_of_read _ Dict.entries Dict.entries_injective _ (by decide))
    (by unfold LeavesApart; decide) (fun _ kept => kept) (derived _ (.inl rfl))
    (derived _ (.inr rfl)) "a" (by decide)).2 _ _ (by decide) (by decide)

end EvoomGuard.Finalizer
