import EvoomGuard.Verifiers.MaterializationEffects

/-!
The derivation of a candidate from two directories and its materialization fit together: the
blocks written over the base tree and the deletions give the head tree back, as far as the names
that are never copied and the restored package manifests allow.
-/

namespace EvoomGuard.Verifiers

open Lib Workspace Workspace.CandidateTree

def RegularFiles (tree : WorkTree) : Prop :=
  ∀ path entry, tree.listing.entry path = some entry →
    entry.isDirectory = true ∨ entry.isRegular = true

def nodeOf : TreeEntry → Node
  | .regular mode data => .file mode data
  | .directory _ => .directory
  | .symlink _ target => .symlink target
  | .special _ => .special
  | .unreadable _ => .special

/-- The working copy has the entries of a tree wherever no name is ignored. -/
def CopyOf (tree : Tree) (root : Path) (source : WorkTree) : Prop :=
  ∀ path, Kept path → tree.node (root ++ path) = (source.listing.entry path).map nodeOf

def treeOf (source : WorkTree) : Tree where
  node := fun path => (source.listing.entry path).map nodeOf
  root := by
    have real : (source.listing.entry []).any TreeEntry.isDirectory = true := source.listing.root
    cases stored : source.listing.entry [] with
    | none =>
      rw [stored] at real
      cases real
    | some entry =>
      rw [stored] at real
      cases entry with
      | directory mode => rfl
      | _ => cases real
  parent := by
    intro path name present
    rw [ne_eq, Option.map_eq_none_iff] at present
    have real := source.listing.parent path name (Option.isSome_iff_ne_none.mpr present)
    cases stored : source.listing.entry path with
    | none =>
      rw [stored] at real
      cases real
    | some entry =>
      rw [stored] at real
      cases entry with
      | directory mode => rfl
      | _ => cases real
  named := by
    intro path name present
    rw [ne_eq, Option.map_eq_none_iff] at present
    exact (source.named path name (Option.isSome_iff_ne_none.mpr present)).1

theorem tree_of_copies (source : WorkTree) : CopyOf (treeOf source) [] source :=
  fun _ _ => rfl

/-- What a judged file holds: the head content, or the manifest with the judge's fields. -/
def judgedData (restorePackageJson : Option Text → Text → Text) (tree : Tree) (root : Path)
    (blocks : Dict Text Text) (path : List Text) (data : ByteArray) : ByteArray :=
  if relativePath path ∈ packagePaths blocks [] then
    encodeUtf8 (restorePackageJson (originalText tree root (relativePath path))
      ((decodeUtf8 data).getD []))
  else data

/-- One path of the result against the head: present alike, with the judged content, and with
the head's mode where the base has the path too. -/
def MatchesHead (base head : WorkTree) (judged : List Text → ByteArray → ByteArray) (final : Tree)
    (root : Path) (path : List Text) : Prop :=
  match head.listing.entry path with
  | none => final.node (root ++ path) = none
  | some (.regular mode data) =>
    ∃ keptMode, final.node (root ++ path) = some (.file keptMode (judged path data)) ∧
      ((base.listing.entry path).isSome = true → keptMode = mode)
  | some entry => final.node (root ++ path) = some (nodeOf entry)

section RoundTrip

variable {maxBytes : Nat} {base head : WorkTree} {blocks : Dict Text Text} {deleted : List Text}
  {tree : Tree} {root : Path}

theorem locate_relative (source : WorkTree) (path : List Text) (proper : path ≠ [])
    (present : (source.listing.entry path).isSome = true) :
    locate root (relativePath path) = root ++ path := by
  rw [locate, split_relative_path source path proper present]

theorem root_directory (copied : CopyOf tree root base) : tree.node root = some .directory := by
  have top := copied [] (by intro name inside; cases inside)
  rw [List.append_nil] at top
  have real : (base.listing.entry []).any TreeEntry.isDirectory = true := base.listing.root
  cases stored : base.listing.entry [] with
  | none =>
    rw [stored] at real
    cases real
  | some entry =>
    rw [stored] at real top
    cases entry with
    | directory mode => exact top
    | _ => cases real

variable (derived : Derived maxBytes base head blocks deleted) (copied : CopyOf tree root base)

include derived copied

theorem clear_above_head (path : List Text) (proper : path ≠ []) (kept : Kept path)
    (present : (head.listing.entry path).isSome = true) :
    ClearAbove tree root (Text.split '/' (relativePath path)).dropLast := by
  rw [split_relative_path head path proper present]
  intro init inside
  have inner : init <+: path := inside.trans (List.dropLast_prefix path)
  rcases inner with ⟨rest, joined⟩
  have longer : rest ≠ [] := by
    intro empty
    rw [empty, List.append_nil] at joined
    have short := inside.length_le
    have positive := List.length_pos_iff.mpr proper
    rw [joined, List.length_dropLast] at short
    omega
  rw [← joined] at kept present
  rw [kept_append] at kept
  by_cases top : init = []
  · rw [top, List.append_nil, root_directory copied]
    exact Or.inr rfl
  · have directory := head.listing.is_directory_of_below init rest longer present
    rw [copied init kept.1]
    unfold Listing.isDirectory at directory
    cases stored : head.listing.entry init with
    | none =>
      rw [stored] at directory
      cases directory
    | some entry =>
      rw [stored] at directory
      cases entry with
      | directory mode =>
        rcases directory_derived derived init mode top kept.1 stored with ⟨absent, _⟩ | same
        · rw [absent]
          exact Or.inl rfl
        · rw [same]
          exact Or.inr rfl
      | _ => cases directory

theorem blocks_writable (safe : ∀ block ∈ blocks.entries, isSafeRelativePath block.1 = true) :
    ∀ block ∈ blocks.entries, Writable root tree block.1 := by
  intro block inside
  rcases (mem_blocks_iff derived block.1 block.2).mp inside with
    ⟨path, mode, data, proper, kept, stored, named, _, changed⟩
  have present : (head.listing.entry path).isSome = true := by
    rw [stored]
    rfl
  constructor
  · exact safe block inside
  · rw [named]
    exact clear_above_head derived copied path proper kept present
  · rw [named, FreeOrFile, locate_relative head path proper present, copied path kept]
    rcases changed with absent | ⟨old, other, _⟩
    · exact Or.inl (by rw [absent]; rfl)
    · exact Or.inr ⟨mode, old, by rw [other]; rfl⟩

omit copied in
/-- A block lies in a file, so no block lies above another. -/
theorem blocks_independent : Independent root blocks.entries := by
  intro first firstInside second secondInside above
  rcases (mem_blocks_iff derived first.1 first.2).mp firstInside with
    ⟨path, mode, data, proper, _, stored, named, _, _⟩
  rcases (mem_blocks_iff derived second.1 second.2).mp secondInside with
    ⟨other, otherMode, otherData, otherProper, _, otherStored, otherNamed, _, _⟩
  rw [named, otherNamed, locate_relative head path proper (by rw [stored]; rfl),
    locate_relative head other otherProper (by rw [otherStored]; rfl),
    List.prefix_append_right_inj] at above
  rcases above with ⟨rest, joined⟩
  by_cases last : rest = []
  · rw [last, List.append_nil] at joined
    rw [named, otherNamed, joined]
  · have directory := head.listing.is_directory_of_below path rest last
      (by rw [joined, otherStored]; rfl)
    rw [Listing.isDirectory, stored] at directory
    cases directory

end RoundTrip

section

variable {maxBytes newFileMode : Nat} {base head : WorkTree} {blocks : Dict Text Text}
  {deleted : List Text} {tree written : Tree} {root : Path}
  {restorePackageJson : Option Text → Text → Text}
  (derived : Derived maxBytes base head blocks deleted) (copied : CopyOf tree root base)
  (effect : Written newFileMode root (blocks.entries.map fun block =>
    (block.1, judgedText root restorePackageJson tree blocks block)) tree written)

include derived in
theorem written_path (path : List Text) (present : ∀ mode data,
      head.listing.entry path = some (.regular mode data) →
      base.listing.entry path = some (.regular mode data)) :
    ∀ entry ∈ blocks.entries.map fun block =>
      (block.1, judgedText root restorePackageJson tree blocks block),
      root ++ path ≠ locate root entry.1 := by
  intro entry inside same
  rcases List.mem_map.mp inside with ⟨block, among, built⟩
  rw [← built] at same
  rcases (mem_blocks_iff derived block.1 block.2).mp among with
    ⟨other, mode, data, proper, _, stored, named, _, changed⟩
  simp only [named] at same
  rw [locate_relative head other proper (by rw [stored]; rfl)] at same
  have equal : path = other := List.append_cancel_left same
  rw [← equal] at stored changed
  have unchanged := present mode data stored
  rw [unchanged] at changed
  rcases changed with absent | ⟨old, kept, apart⟩
  · cases absent
  · rw [Option.some.injEq, TreeEntry.regular.injEq] at kept
    exact apart kept.2.symm

include derived copied effect in
/-- Where the base has an entry that no block replaces, it is still there. -/
theorem kept_entry (path : List Text) (kept : Kept path) (entry : TreeEntry)
    (stored : base.listing.entry path = some entry)
    (unwritten : ∀ mode data, head.listing.entry path = some (.regular mode data) →
      base.listing.entry path = some (.regular mode data)) :
    written.node (root ++ path) = some (nodeOf entry) := by
  rw [effect.frame _ (written_path derived path unwritten)]
  · rw [copied path kept, stored]
    rfl
  · intro missing
    rw [copied path kept, stored] at missing
    cases missing

include effect in
theorem written_file (path : List Text) (mode : Nat) (data : ByteArray) (text : Text)
    (proper : path ≠ []) (stored : head.listing.entry path = some (.regular mode data))
    (among : (relativePath path, text) ∈ blocks.entries) (decoded : decodeUtf8 data = some text) :
    written.node (root ++ path) = some (.file (keptMode newFileMode (tree.node (root ++ path)))
      (judgedData restorePackageJson tree root blocks path data)) := by
  have wrote := effect.files _ (List.mem_map_of_mem among)
  simp only [judgedText] at wrote
  rw [locate_relative head path proper (by rw [stored]; rfl)] at wrote
  rw [wrote, judgedData]
  split_ifs with manifest
  · rw [decoded, Option.getD_some]
  · rw [encode_decode data text decoded]

include derived copied effect in
/-- Before the deletions, every head path is as the head has it. -/
theorem written_matches (headFiles : RegularFiles head) (path : List Text) (proper : path ≠ [])
    (kept : Kept path) (present : (head.listing.entry path).isSome = true) :
    MatchesHead base head (judgedData restorePackageJson tree root blocks) written root path := by
  rcases Option.isSome_iff_exists.mp present with ⟨entry, stored⟩
  unfold MatchesHead
  rw [stored]
  cases entry with
  | regular mode data =>
    rcases regular_derived derived path mode data proper kept stored with
      unchanged | ⟨text, among, decoded⟩
    · refine ⟨mode, ?_, fun _ => rfl⟩
      have still := kept_entry derived copied effect path kept _ unchanged (by
        intro otherMode otherData same
        rwa [stored, ← unchanged] at same)
      rw [still, judgedData, if_neg]
      · rfl
      · intro manifest
        rcases mem_package_paths blocks _ manifest with ⟨content, inside⟩
        rcases (mem_blocks_iff derived _ _).mp inside with
          ⟨other, otherMode, otherData, otherProper, _, otherStored, named, _, changed⟩
        have equal : path = other := by
          rw [← split_relative_path head path proper present, named]
          exact split_relative_path head other otherProper (by rw [otherStored]; rfl)
        subst equal
        rw [stored, Option.some.injEq, TreeEntry.regular.injEq] at otherStored
        rw [unchanged] at changed
        rcases changed with absent | ⟨old, same, apart⟩
        · cases absent
        · rw [Option.some.injEq, TreeEntry.regular.injEq] at same
          exact apart (same.2.symm.trans otherStored.2)
    · refine ⟨_, written_file effect path mode data text proper stored among decoded, ?_⟩
      intro inBase
      rcases (mem_blocks_iff derived _ _).mp among with
        ⟨other, otherMode, otherData, otherProper, _, otherStored, named, _, changed⟩
      have equal : path = other := by
        rw [← split_relative_path head path proper present, named]
        exact split_relative_path head other otherProper (by rw [otherStored]; rfl)
      subst equal
      rw [stored, Option.some.injEq, TreeEntry.regular.injEq] at otherStored
      rcases changed with absent | ⟨old, same, _⟩
      · rw [absent] at inBase
        cases inBase
      · rw [copied path kept, same, otherStored.1]
        rfl
  | directory mode =>
    rcases directory_derived derived path mode proper kept stored with ⟨absent, descends⟩ | same
    · rw [regular_descendant_iff head path proper present] at descends
      rcases descends with ⟨below, fileMode, data, deeper, keptBelow, file⟩
      -- Nothing lies below a missing base directory, so the file below is a block.
      have new : base.listing.entry (path ++ below) = none := by
        rw [← Option.not_isSome_iff_eq_none]
        intro there
        have directory := base.listing.is_directory_of_below path below deeper there
        rw [Listing.isDirectory, absent] at directory
        cases directory
      have missing : tree.node (root ++ path) = none := by
        rw [copied path kept, absent]
        rfl
      rcases regular_derived derived (path ++ below) fileMode data (by simp [proper]) keptBelow file
        with unchanged | ⟨text, among, _⟩
      · rw [new] at unchanged
        cases unchanged
      · have made := effect.parents (root ++ path) missing (written_path derived path (by
          intro otherMode otherData same
          rw [stored] at same
          cases same)) ⟨_, List.mem_map_of_mem among, by
            simp only
            rw [locate_relative head _ (by simp [proper]) (by rw [file]; rfl)]
            exact ⟨below, by simp⟩⟩
        exact made
    · have still := kept_entry derived copied effect path kept _ same (by
        intro otherMode otherData impossible
        rw [stored] at impossible
        cases impossible)
      exact still
  | symlink mode target | special mode | unreadable problem =>
    rcases headFiles path _ stored with impossible | impossible <;> cases impossible

include derived copied effect in
/-- What neither tree has is not made. -/
theorem written_absent (path : List Text) (kept : Kept path)
    (noBase : base.listing.entry path = none) (noHead : head.listing.entry path = none) :
    written.node (root ++ path) = none := by
  have missing : tree.node (root ++ path) = none := by
    rw [copied path kept, noBase]
    rfl
  rw [effect.frame, missing]
  · apply written_path derived path
    intro mode data impossible
    rw [noHead] at impossible
    cases impossible
  · intro _ entry inside above
    rcases List.mem_map.mp inside with ⟨block, among, built⟩
    rw [← built] at above
    rcases (mem_blocks_iff derived block.1 block.2).mp among with
      ⟨other, mode, data, proper, _, stored, named, _, _⟩
    simp only [named] at above
    rw [locate_relative head other proper (by rw [stored]; rfl),
      List.prefix_append_right_inj] at above
    rcases above with ⟨rest, joined⟩
    by_cases last : rest = []
    · rw [last, List.append_nil] at joined
      rw [joined, stored] at noHead
      cases noHead
    · have directory := head.listing.is_directory_of_below path rest last
        (by rw [joined, stored]; rfl)
      rw [Listing.isDirectory, noHead] at directory
      cases directory

include derived copied effect in
/-- The deletions find directories above what they delete. -/
theorem deletions_clear :
    ∀ path ∈ deleted, ClearAbove written root (Text.split '/' path).dropLast := by
  intro rel inside
  rw [derived.deletions, mem_deleted_paths] at inside
  rcases inside with ⟨path, proper, kept, present, _, named⟩
  rw [named, split_relative_path base path proper present]
  intro init among
  rcases among.trans (List.dropLast_prefix path) with ⟨rest, joined⟩
  have longer : rest ≠ [] := by
    intro empty
    rw [empty, List.append_nil] at joined
    have short := among.length_le
    have positive := List.length_pos_iff.mpr proper
    rw [joined, List.length_dropLast] at short
    omega
  rw [← joined] at present kept
  rw [kept_append] at kept
  have directory := base.listing.is_directory_of_below init rest longer present
  unfold Listing.isDirectory at directory
  cases stored : base.listing.entry init with
  | none =>
    rw [stored] at directory
    cases directory
  | some entry =>
    rw [stored] at directory
    cases entry with
    | directory mode =>
      apply Or.inr
      apply kept_entry derived copied effect init kept.1 _ stored
      intro fileMode data file
      -- A base directory is not a head file: the derivation would have refused.
      by_cases top : init = []
      · have real : (head.listing.entry []).any TreeEntry.isDirectory = true := head.listing.root
        rw [top] at file
        rw [file] at real
        cases real
      · rcases regular_derived derived init fileMode data top kept.1 file with
          same | ⟨text, block, _⟩
        · exact same
        · rcases (mem_blocks_iff derived _ _).mp block with
            ⟨other, otherMode, otherData, otherProper, _, otherStored, otherNamed, _, changed⟩
          have equal : init = other := by
            rw [← split_relative_path head init top (by rw [file]; rfl), otherNamed]
            exact split_relative_path head other otherProper (by rw [otherStored]; rfl)
          rw [← equal, stored] at changed
          rcases changed with absent | ⟨old, impossible, _⟩
          · cases absent
          · cases impossible
    | _ => cases directory

end

/-- Where the derivation succeeds, its paths are safe and portable and the base manifests are
text, the materialization and the deletions succeed and every path without an ignored name is as
the head has it. -/
theorem candidate_round_trip (mapping : CaseMapping) (maxBytes newFileMode : Nat)
    (patcher : Text → Text → Text → Except Text Text)
    (restorePackageJson : Option Text → Text → Text) (base head : WorkTree) (tree : Tree)
    (root : Path) (blocks : Dict Text Text) (deleted : List Text)
    (headFiles : RegularFiles head) (copied : CopyOf tree root base)
    (ok : blocksFromDirs maxBytes (.ok base) (.ok head) = .ok (blocks, deleted))
    (safe : ∀ block ∈ blocks.entries, isSafeRelativePath block.1 = true)
    (portable : ∀ path ∈ deleted, isSafeRelpath mapping path = true)
    (readable : ∀ path ∈ packagePaths blocks [], Readable tree root path) :
    ∃ written final,
      materializeCandidateEdits newFileMode root patcher restorePackageJson tree blocks [] =
        (written, none) ∧
      applyRepoCandidateDeletions mapping root written deleted = (final, none) ∧
      ∀ path, Kept path →
        MatchesHead base head (judgedData restorePackageJson tree root blocks) final root path := by
  have derived := blocks_from_dirs_ok maxBytes base head blocks deleted ok
  have rooted := root_directory copied
  rcases materialize_blocks_exact newFileMode root patcher restorePackageJson tree blocks rooted
    (blocks_independent derived) (blocks_writable derived copied safe) readable with
    ⟨written, ran, effect, writtenRoot⟩
  have quiet := deletions_quiet mapping root deleted written writtenRoot
    (deletions_clear derived copied effect)
  refine ⟨written, (applyRepoCandidateDeletions mapping root written deleted).1, ran,
    by rw [← quiet], ?_⟩
  -- A deletion reaches a path exactly when the head lacks what it deletes.
  have deletedAbove (path : List Text)
      (reached : ∃ target ∈ deleted, locate root target <+: root ++ path) :
      head.listing.entry path = none := by
    rcases reached with ⟨target, inside, above⟩
    rw [derived.deletions, mem_deleted_paths] at inside
    rcases inside with ⟨gone, proper, _, present, absent, named⟩
    rw [named, locate_relative base gone proper present, List.prefix_append_right_inj] at above
    rcases above with ⟨rest, joined⟩
    by_cases last : rest = []
    · rw [last, List.append_nil] at joined
      rw [← joined, absent]
    · rw [← Option.not_isSome_iff_eq_none]
      intro there
      have directory := head.listing.is_directory_of_below gone rest last (by rw [joined]; exact there)
      rw [Listing.isDirectory, absent] at directory
      cases directory
  intro path kept
  rcases deletions_frame mapping root deleted (root ++ path) written with same | ⟨reached, gone⟩
  · by_cases top : path = []
    · have real : (head.listing.entry []).any TreeEntry.isDirectory = true := head.listing.root
      subst top
      unfold MatchesHead
      cases stored : head.listing.entry [] with
      | none =>
        rw [stored] at real
        cases real
      | some entry =>
        rw [stored] at real
        cases entry with
        | directory mode =>
          rw [List.append_nil] at same
          simp only [List.append_nil]
          rw [same, writtenRoot]
          rfl
        | _ => cases real
    · cases headEntry : head.listing.entry path with
      | some entry =>
        have matched := written_matches derived copied effect headFiles path top kept
          (by rw [headEntry]; rfl)
        unfold MatchesHead at matched ⊢
        rw [headEntry] at matched ⊢
        rw [same]
        exact matched
      | none =>
        unfold MatchesHead
        rw [headEntry]
        simp only
        cases baseEntry : base.listing.entry path with
        | none =>
          rw [same]
          exact written_absent derived copied effect path kept baseEntry headEntry
        | some entry =>
          have listed : relativePath path ∈ deleted := by
            rw [derived.deletions, mem_deleted_paths]
            exact ⟨path, top, kept, by rw [baseEntry]; rfl, headEntry, rfl⟩
          apply deletions_gone mapping root deleted (relativePath path) (root ++ path)
            (portable _ listed) _ written listed quiet
          have located := @locate_relative root base path top (by rw [baseEntry]; rfl)
          exact ⟨[], by rw [located, List.append_nil]⟩
  · unfold MatchesHead
    rw [deletedAbove path reached]
    exact gone

theorem regular_files_of_entries (entries : List (List Text × TreeEntry)) (tree : WorkTree)
    (given : tree.listing.entry = Listing.entryIn entries)
    (plain : entries.all (fun item => item.2.isDirectory || item.2.isRegular) = true) :
    RegularFiles tree := by
  intro path entry stored
  rw [given] at stored
  have kind := List.all_eq_true.mp plain _ (Listing.mem_of_entry_in entries path entry stored)
  simpa using kind

def refusesPatch (_ _ _ : Text) : Except Text Text := .error []

def restoreNothing (_ : Option Text) (candidate : Text) : Text := candidate

def bareEntries : List (List Text × TreeEntry) := [([], .directory 0o755)]

def bareTree : WorkTree :=
  WorkTree.ofEntries bareEntries (by decide) (by decide) (by decide) (by decide)

def backslashEntries : List (List Text × TreeEntry) :=
  [([], .directory 0o755), (["a\\b"], .regular 0o644 ByteArray.empty)]

def backslashTree : WorkTree :=
  WorkTree.ofEntries backslashEntries (by decide) (by decide) (by decide) (by decide)

/-- The derivation takes a new file whose name holds a backslash, the workspace refuses to write
it. -/
theorem backslash_name_is_derived_and_refused :
    RegularFiles bareTree ∧ RegularFiles backslashTree ∧ CopyOf (treeOf bareTree) [] bareTree ∧
      ∃ blocks deleted,
        blocksFromDirs 1000000 (.ok bareTree) (.ok backslashTree) = .ok (blocks, deleted) ∧
        (materializeCandidateEdits 0o644 [] refusesPatch restoreNothing (treeOf bareTree) blocks []).2 ≠
          none := by
  have derived := derivation_of_entries 1000000 bareTree backslashTree
    (Dict.ofPairs [("a\\b", [])]) [] (by decide)
  exact ⟨regular_files_of_entries bareEntries bareTree rfl (by decide),
    regular_files_of_entries backslashEntries backslashTree rfl (by decide),
    tree_of_copies bareTree, _, _, derived, by decide⟩

def beforeEntries : List (List Text × TreeEntry) :=
  [([], .directory 0o755), (["a"], .regular 0o755 ByteArray.empty),
    (["old"], .regular 0o644 ByteArray.empty)]

def beforeTree : WorkTree :=
  WorkTree.ofEntries beforeEntries (by decide) (by decide) (by decide) (by decide)

def afterEntries : List (List Text × TreeEntry) :=
  [([], .directory 0o755), (["a"], .regular 0o755 (encodeUtf8 "x")),
    (["d"], .directory 0o755), (["d", "n"], .regular 0o644 ByteArray.empty)]

def afterTree : WorkTree :=
  WorkTree.ofEntries afterEntries (by decide) (by decide) (by decide) (by decide)

def smallChange : Dict Text Text :=
  Dict.ofPairs [("a", "x"), ("d/n", [])]

/-- One file changes, one is new in a new directory, one is deleted. -/
theorem small_change_round_trip :
    ∃ blocks deleted written final,
      blocksFromDirs 1000000 (.ok beforeTree) (.ok afterTree) = .ok (blocks, deleted) ∧
      materializeCandidateEdits 0o644 [] refusesPatch restoreNothing (treeOf beforeTree) blocks [] =
        (written, none) ∧
      applyRepoCandidateDeletions asciiCase [] written deleted = (final, none) ∧
      ∀ path, Kept path → MatchesHead beforeTree afterTree
        (judgedData restoreNothing (treeOf beforeTree) [] blocks) final [] path := by
  have derived := derivation_of_entries 1000000 beforeTree afterTree smallChange ["old"]
    (by decide)
  rcases candidate_round_trip asciiCase 1000000 0o644 refusesPatch restoreNothing beforeTree afterTree
    (treeOf beforeTree) [] _ _ (regular_files_of_entries afterEntries afterTree rfl (by decide))
    (tree_of_copies beforeTree) derived (by decide) (by decide) (by
      intro path inside
      have none : packagePaths smallChange [] = [] := by decide
      rw [none] at inside
      cases inside) with ⟨written, final, ran, removed, matched⟩
  exact ⟨_, _, written, final, derived, ran, removed, matched⟩

end EvoomGuard.Verifiers
