import EvoomGuard.Finalizer.CandidateDerivation

/-!
Clean checkouts of two Git trees: what Guard derives from them and what the finalizer derives
from the trees themselves.
-/

namespace EvoomGuard.Finalizer

open Lib Verifiers Workspace Workspace.CandidateTree

/-- The modes a checkout leaves under the process mask. -/
structure CheckoutModes where
  plain : Nat
  executable : Nat
  link : Nat

/-- A regular blob or a symbolic link; a submodule is neither. -/
def GitEntry.tracked (entry : GitEntry) : Bool :=
  entry.regular || (entry.mode == "120000" && entry.objectType == "blob")

/-- What a checkout puts at the path of an entry; `linkText` reads the target of a link. -/
def checkedOut (modes : CheckoutModes) (linkText : ByteArray → Text) (reader : GitReader)
    (entry : GitEntry) : TreeEntry :=
  if entry.regular then
    .regular (if entry.mode = "100755" then modes.executable else modes.plain)
      (reader.content entry.objectId)
  else .symlink modes.link (linkText (reader.content entry.objectId))

/-- The leaves of a work tree are the entries of a Git tree without submodules. -/
structure Checkout (modes : CheckoutModes) (linkText : ByteArray → Text) (reader : GitReader)
    (tree : Dict Text GitEntry) (work : WorkTree) : Prop where
  tracked : ∀ item ∈ tree.entries, item.2.tracked = true
  files : ∀ item ∈ tree.entries, ∃ path, path ≠ [] ∧ item.1 = relativePath path ∧
    work.listing.entry path = some (checkedOut modes linkText reader item.2)
  leaves : ∀ path entry, work.listing.entry path = some entry → entry.isDirectory = false →
    relativePath path ∈ tree.entries.map Prod.fst

/-- Object ids are a hash of the content. -/
def Addressed (objectId : ByteArray → Text) (reader : GitReader) (tree : Dict Text GitEntry) : Prop :=
  ∀ item ∈ tree.entries, objectId (reader.content item.2.objectId) = item.2.objectId

/-- No two contents of the two trees collide. -/
def CollisionFree (objectId : ByteArray → Text) (base head : GitReader)
    (baseTree headTree : Dict Text GitEntry) : Prop :=
  ∀ first ∈ baseTree.entries, ∀ second ∈ headTree.entries,
    objectId (base.content first.2.objectId) = objectId (head.content second.2.objectId) →
    base.content first.2.objectId = head.content second.2.objectId

/-! Ignored paths -/

theorem ignored_path_iff (path : List Text) (proper : path ≠ [])
    (free : ∀ part ∈ path, '/' ∉ part) :
    ignoredPath none (relativePath path) = false ↔ Kept path := by
  rw [ignoredPath, relativePath, Text.split_join '/' path proper free, List.any_eq_false]
  have each (name : Text) : (ignoredBasenames none).contains name = true ↔ name ∈ ignoredNames := by
    rw [List.contains_iff_mem, ignoredNames, Text.mem_sorted_set]
    rfl
  constructor
  · intro clear name inside
    rw [kept_name_iff, ← each]
    exact clear name inside
  · intro kept name inside
    rw [each, ← kept_name_iff]
    exact kept name inside

section Checkouts

variable {modes : CheckoutModes} {linkText : ByteArray → Text} {reader : GitReader}
  {tree : Dict Text GitEntry} {work : WorkTree}

theorem leaf_item (checkout : Checkout modes linkText reader tree work) (path : List Text)
    (proper : path ≠ []) (entry : TreeEntry) (stored : work.listing.entry path = some entry)
    (leaf : entry.isDirectory = false) :
    ∃ item ∈ tree.entries, item.1 = relativePath path ∧
      entry = checkedOut modes linkText reader item.2 := by
  rcases List.mem_map.mp (checkout.leaves path entry stored leaf) with ⟨item, inside, named⟩
  rcases checkout.files item inside with ⟨other, otherProper, otherNamed, otherStored⟩
  have same : other = path := by
    rw [← split_relative_path work other otherProper (by rw [otherStored]; rfl), ← otherNamed, named]
    exact split_relative_path work path proper (by rw [stored]; rfl)
  rw [same, stored, Option.some.injEq] at otherStored
  exact ⟨item, inside, named, otherStored⟩

theorem checked_out_leaf (entry : GitEntry) :
    (checkedOut modes linkText reader entry).isDirectory = false := by
  unfold checkedOut
  split_ifs <;> rfl

theorem checked_out_regular (entry : GitEntry) (mode : Nat) (data : ByteArray)
    (same : checkedOut modes linkText reader entry = .regular mode data) :
    entry.regular = true ∧ reader.content entry.objectId = data ∧
      mode = if entry.mode = "100755" then modes.executable else modes.plain := by
  unfold checkedOut at same
  cases kind : entry.regular with
  | false =>
    rw [kind] at same
    cases same
  | true =>
    rw [kind, if_pos rfl, TreeEntry.regular.injEq] at same
    exact ⟨rfl, same.2, same.1.symm⟩

theorem lookup_candidate (path : List Text) (proper : path ≠ []) (kept : Kept path)
    (free : ∀ part ∈ path, '/' ∉ part) (item : Text × GitEntry) (inside : item ∈ tree.entries)
    (named : item.1 = relativePath path) :
    (candidateTree none tree).lookup (relativePath path) = some item.2 := by
  apply lookup_eq_of_mem_iff
  intro found
  rw [candidateTree, List.mem_filter, Bool.not_eq_true']
  constructor
  · intro listed
    have same := List.inj_on_of_nodup_map tree.nodup inside listed.1 named
    rw [same]
  · intro same
    refine ⟨?_, (ignored_path_iff path proper free).mpr kept⟩
    rw [← Option.some.inj same, ← named]
    exact inside

theorem lookup_candidate_absent (checkout : Checkout modes linkText reader tree work)
    (path : List Text) (proper : path ≠ []) (free : ∀ part ∈ path, '/' ∉ part)
    (absent : work.listing.entry path = none) :
    (candidateTree none tree).lookup (relativePath path) = none := by
  apply lookup_eq_of_mem_iff
  intro found
  constructor
  · intro listed
    rw [candidateTree, List.mem_filter] at listed
    rcases checkout.files _ listed.1 with ⟨other, otherProper, named, stored⟩
    have same : other = path := by
      rw [← split_relative_path work other otherProper (by rw [stored]; rfl), ← named]
      exact Text.split_join '/' path proper free
    rw [same, absent] at stored
    cases stored
  · intro impossible
    cases impossible

end Checkouts

theorem unchanged_entry_iff (original : Option GitEntry) (candidate : GitEntry) :
    unchangedEntry original candidate = true ↔ original = some candidate := by
  cases original with
  | none => simp [unchangedEntry]
  | some entry =>
    simp only [unchangedEntry, Bool.and_eq_true, decide_eq_true_eq, Option.some.injEq]
    constructor
    · intro same
      cases entry with
      | mk mode objectType objectId =>
        cases candidate with
        | mk otherMode otherType otherId =>
          obtain ⟨⟨rfl, rfl⟩, rfl⟩ := same
          rfl
    · intro same
      rw [same]
      exact ⟨⟨rfl, rfl⟩, rfl⟩

theorem changed_blob_ok (quoted : Text → Text) (head : GitReader) (path : Text)
    (original : Option GitEntry) (candidate : GitEntry) (data : ByteArray)
    (ok : changedBlob quoted head path original candidate = .ok data) :
    candidate.regular = true ∧ head.content candidate.objectId = data ∧
      ∀ entry, original = some entry →
        entry.mode = candidate.mode ∧ entry.objectType = candidate.objectType := by
  unfold changedBlob at ok
  split_ifs at ok with mode kind regular
  simp only [GitReader.blob] at ok
  split_ifs at ok with large
  refine ⟨by simpa using regular, Except.ok.inj ok, ?_⟩
  intro entry stored
  subst stored
  simp only [Option.any_some, decide_eq_true_eq, not_not] at mode kind
  exact ⟨mode, kind⟩

/-! The blocks -/

section

variable {mapping : CaseMapping} {quoted : Text → Text} {objectId : ByteArray → Text}
  {modes : CheckoutModes} {linkText : ByteArray → Text} {base head : GitReader}
  {baseTree headTree : Dict Text GitEntry} {baseWork headWork : WorkTree}
  {maximumPaths maximumTotalBytes : Option Nat} {maxBytes : Nat}
  {blocks rawBlocks : Dict Text Text} {deleted : List Text}
  (baseCheckout : Checkout modes linkText base baseTree baseWork)
  (headCheckout : Checkout modes linkText head headTree headWork)
  (derived : Derived maxBytes baseWork headWork blocks deleted)

section Blocks

variable (baseAddressed : Addressed objectId base baseTree)
  (headAddressed : Addressed objectId head headTree)
  (collisionFree : CollisionFree objectId base head baseTree headTree)
  (represented : ∀ item ∈ candidateTree none headTree,
    Representable quoted head (candidateTree none baseTree) item)

include baseCheckout

/-- For a regular head file the two sides see the same change. -/
theorem unchanged_iff (baseAddressed : Addressed objectId base baseTree)
    (headAddressed : Addressed objectId head headTree)
    (collisionFree : CollisionFree objectId base head baseTree headTree) (path : List Text)
    (proper : path ≠ []) (kept : Kept path) (item : Text × GitEntry)
    (inside : item ∈ headTree.entries) (regular : item.2.regular = true)
    (present : (headWork.listing.entry path).isSome = true)
    (sameKind : ∀ entry, (candidateTree none baseTree).lookup (relativePath path) = some entry →
      entry.mode = item.2.mode ∧ entry.objectType = item.2.objectType) :
    unchangedEntry ((candidateTree none baseTree).lookup (relativePath path)) item.2 = true ↔
      baseWork.listing.entry path = some (checkedOut modes linkText head item.2) := by
  have free := fun part among => (path_named headWork path present part among).2
  rw [unchanged_entry_iff]
  cases stored : baseWork.listing.entry path with
  | none =>
    rw [lookup_candidate_absent baseCheckout path proper free stored]
    simp
  | some entry =>
    constructor
    · intro same
      have listed : (relativePath path, item.2) ∈ baseTree.entries := by
        rcases List.lookup_eq_some_iff.mp same with ⟨before, after, joined, _⟩
        have member : (relativePath path, item.2) ∈ candidateTree none baseTree := by
          rw [joined]
          simp
        exact (List.mem_filter.mp member).1
      rcases baseCheckout.files _ listed with ⟨other, otherProper, otherNamed, otherStored⟩
      have equal : other = path := by
        rw [← split_relative_path baseWork other otherProper (by rw [otherStored]; rfl),
          ← otherNamed]
        exact Text.split_join '/' path proper free
      rw [equal, stored] at otherStored
      rw [otherStored]
      -- One object id, so one content.
      have contents := collisionFree _ listed item inside (by
        rw [baseAddressed _ listed, headAddressed item inside])
      simp only at contents
      simp only [checkedOut, regular, if_true, contents]
    · intro same
      rw [Option.some.injEq] at same
      rcases leaf_item baseCheckout path proper entry stored
        (by rw [same]; exact checked_out_leaf _) with ⟨other, listed, otherNamed, otherBuilt⟩
      have looked := lookup_candidate path proper kept free other listed otherNamed
      have kinds := sameKind other.2 looked
      have otherRegular : other.2.regular = true := by
        rw [GitEntry.regular, kinds.1, kinds.2]
        exact regular
      rw [looked, Option.some.injEq]
      have contents : base.content other.2.objectId = head.content item.2.objectId := by
        rw [same] at otherBuilt
        simp only [checkedOut, regular, otherRegular, if_true, TreeEntry.regular.injEq] at otherBuilt
        exact otherBuilt.2.symm
      have ids : other.2.objectId = item.2.objectId := by
        rw [← baseAddressed other listed, ← headAddressed item inside, contents]
      cases entryShape : other.2 with
      | mk mode objectType otherId =>
        cases itemShape : item.2 with
        | mk itemMode itemType itemId =>
          rw [entryShape, itemShape] at kinds ids
          obtain ⟨rfl, rfl⟩ := kinds
          rw [show otherId = itemId from ids]

include headCheckout derived baseAddressed headAddressed collisionFree represented

theorem blocks_agree (rawListed : ∀ block, block ∈ rawBlocks.entries ↔
      ∃ item ∈ candidateTree none headTree,
        contribution quoted head (candidateTree none baseTree) item = some block)
    (rel text : Text) : (rel, text) ∈ blocks.entries ↔ (rel, text) ∈ rawBlocks.entries := by
  rw [mem_blocks_iff derived, rawListed]
  constructor
  · intro found
    rcases found with ⟨path, mode, data, proper, kept, stored, named, decoded, changed⟩
    have present : (headWork.listing.entry path).isSome = true := by
      rw [stored]
      rfl
    have free := fun part among => (path_named headWork path present part among).2
    rcases leaf_item headCheckout path proper _ stored rfl with ⟨item, inside, itemNamed, built⟩
    rcases checked_out_regular item.2 mode data built.symm with ⟨regular, content, itemMode⟩
    have member : item ∈ candidateTree none headTree := by
      rw [candidateTree, List.mem_filter, Bool.not_eq_true', itemNamed, ignored_path_iff path proper free]
      exact ⟨inside, kept⟩
    refine ⟨item, member, ?_⟩
    have notSame : unchangedEntry ((candidateTree none baseTree).lookup item.1) item.2 = false := by
      rw [← Bool.not_eq_true, itemNamed]
      intro unchanged
      have same := (unchanged_iff baseCheckout baseAddressed headAddressed collisionFree path proper
        kept item inside regular present (by
          intro entry looked
          rw [(unchanged_entry_iff _ _).mp unchanged, Option.some.injEq] at looked
          rw [looked]
          exact ⟨rfl, rfl⟩)).mp unchanged
      rw [← built] at same
      rw [same] at changed
      rcases changed with absent | ⟨old, kept', apart⟩
      · cases absent
      · rw [Option.some.injEq, TreeEntry.regular.injEq] at kept'
        exact apart kept'.2.symm
    rcases represented item member with unchanged | ⟨blob, found, read, blobDecoded⟩
    · rw [notSame] at unchanged
      cases unchanged
    · have facts := changed_blob_ok quoted head _ _ _ _ read
      simp only [contribution, notSame, Bool.false_eq_true, if_false, read]
      rw [← facts.2.1, content, decoded, Option.map_some, itemNamed, named]
  · intro found
    rcases found with ⟨item, member, built⟩
    have key := contribution_key quoted head _ item _ built
    have inside := (List.mem_filter.mp member).1
    rcases headCheckout.files item inside with ⟨path, proper, itemNamed, stored⟩
    have present : (headWork.listing.entry path).isSome = true := by
      rw [stored]
      rfl
    have free := fun part among => (path_named headWork path present part among).2
    have kept : Kept path := by
      have clear := (List.mem_filter.mp member).2
      rwa [Bool.not_eq_true', itemNamed, ignored_path_iff path proper free] at clear
    unfold contribution at built
    split_ifs at built with unchanged
    cases read : changedBlob quoted head item.1 ((candidateTree none baseTree).lookup item.1)
        item.2 with
    | error problem =>
      rw [read] at built
      cases built
    | ok data =>
      rw [read] at built
      simp only [Option.map_eq_some_iff] at built
      rcases built with ⟨found, decoded, same⟩
      have facts := changed_blob_ok quoted head _ _ _ _ read
      rw [itemNamed] at facts unchanged
      have changed : baseWork.listing.entry path ≠
          some (checkedOut modes linkText head item.2) := by
        intro equal
        exact unchanged ((unchanged_iff baseCheckout baseAddressed headAddressed collisionFree path
          proper kept item inside facts.1 present facts.2.2).mpr equal)
      have shape : checkedOut modes linkText head item.2 = .regular
          (if item.2.mode = "100755" then modes.executable else modes.plain) data := by
        rw [checkedOut, facts.1, if_pos rfl, facts.2.1]
      rw [shape] at stored changed
      rcases regular_derived derived path _ data proper kept stored with
        same' | ⟨taken, listed, takenDecoded⟩
      · exact absurd same' changed
      · rw [decoded, Option.some.injEq] at takenDecoded
        rw [Prod.mk.injEq] at same
        rw [← mem_blocks_iff derived, ← same.1, ← same.2, itemNamed, takenDecoded]
        exact listed

end Blocks

/-! The deletions -/

/-- Below a directory there is a leaf with no ignored name on its path. -/
def KeptLeafBelow (work : WorkTree) (directory : List Text) : Prop :=
  ∃ below, below ≠ [] ∧ Kept (directory ++ below) ∧
    (work.listing.entry (directory ++ below)).any (!TreeEntry.isDirectory ·) = true

/-- What the raw Git side takes for a path of the checkout. -/
def GitSeen (work : WorkTree) (path : List Text) : Prop :=
  (work.listing.entry path).any (!TreeEntry.isDirectory ·) = true ∨ KeptLeafBelow work path

/-- A base directory with ignored content only is still in the head, and one with other content
that is still in the head has other content there. -/
def DirectoriesAgree (base head : WorkTree) : Prop :=
  ∀ directory, directory ≠ [] → Kept directory → base.listing.isDirectory directory = true →
    (¬ KeptLeafBelow base directory → (head.listing.entry directory).isSome = true) ∧
    (KeptLeafBelow base directory → head.listing.isDirectory directory = true →
      KeptLeafBelow head directory)

theorem any_leaf_iff (work : WorkTree) (path : List Text) :
    (work.listing.entry path).any (!TreeEntry.isDirectory ·) = true ↔
      ∃ entry, work.listing.entry path = some entry ∧ entry.isDirectory = false := by
  cases work.listing.entry path <;> simp

theorem git_seen_present (work : WorkTree) (path : List Text) (seen : GitSeen work path) :
    (work.listing.entry path).isSome = true := by
  rcases seen with leaf | ⟨below, proper, _, leaf⟩
  · rcases (any_leaf_iff work path).mp leaf with ⟨entry, stored, _⟩
    rw [stored]
    rfl
  · rcases (any_leaf_iff work _).mp leaf with ⟨entry, stored, _⟩
    exact work.listing.is_some_of_directory path
      (work.listing.is_directory_of_below path below proper (by rw [stored]; rfl))

theorem mem_tree_paths {reader : GitReader} {tree : Dict Text GitEntry} {work : WorkTree}
    (checkout : Checkout modes linkText reader tree work) (rel : Text) :
    rel ∈ treePathsWithDirectories tree ↔
      ∃ path, path ≠ [] ∧ Kept path ∧ GitSeen work path ∧ rel = relativePath path := by
  rw [treePathsWithDirectories, List.mem_flatMap]
  constructor
  · intro found
    rcases found with ⟨item, member, listed⟩
    have inside := List.mem_filter.mp member
    rcases checkout.files item inside.1 with ⟨path, proper, named, stored⟩
    have free := fun part among =>
      (path_named work path (by rw [stored]; rfl) part among).2
    have kept : Kept path := by
      have clear := inside.2
      rwa [Bool.not_eq_true', named, ignored_path_iff path proper free] at clear
    have leaf : (work.listing.entry path).any (!TreeEntry.isDirectory ·) = true := by
      rw [any_leaf_iff]
      exact ⟨_, stored, checked_out_leaf _⟩
    rcases List.mem_cons.mp listed with itself | above
    · exact ⟨path, proper, kept, Or.inl leaf, itself.trans named⟩
    · rw [named, relativePath, mem_proper_prefixes path proper free] at above
      rcases above with ⟨directory, below, aboveProper, belowProper, joined, built⟩
      rw [joined] at kept leaf
      exact ⟨directory, aboveProper, ((kept_append _ _).mp kept).1,
        Or.inr ⟨below, belowProper, kept, leaf⟩, built⟩
  · intro found
    rcases found with ⟨path, proper, kept, seen, named⟩
    have listed (leafPath : List Text) (leafProper : leafPath ≠ []) (leafKept : Kept leafPath)
        (leaf : (work.listing.entry leafPath).any (!TreeEntry.isDirectory ·) = true) :
        ∃ item ∈ candidateTree none tree, item.1 = relativePath leafPath := by
      rcases (any_leaf_iff work leafPath).mp leaf with ⟨entry, stored, kind⟩
      rcases leaf_item checkout leafPath leafProper entry stored kind with ⟨item, inside, itemNamed, _⟩
      refine ⟨item, ?_, itemNamed⟩
      rw [candidateTree, List.mem_filter, Bool.not_eq_true', itemNamed,
        ignored_path_iff leafPath leafProper fun part among =>
          (path_named work leafPath (by rw [stored]; rfl) part among).2]
      exact ⟨inside, leafKept⟩
    rcases seen with leaf | ⟨below, belowProper, belowKept, leaf⟩
    · rcases listed path proper kept leaf with ⟨item, member, itemNamed⟩
      exact ⟨item, member, by rw [named, itemNamed]; exact List.mem_cons_self⟩
    · rcases listed (path ++ below) (by simp [proper]) belowKept leaf with ⟨item, member, itemNamed⟩
      refine ⟨item, member, List.mem_cons_of_mem _ ?_⟩
      rcases (any_leaf_iff work _).mp leaf with ⟨entry, stored, _⟩
      rw [named, itemNamed, relativePath, relativePath,
        mem_proper_prefixes (path ++ below) (by simp [proper]) fun part among =>
          (path_named work _ (by rw [stored]; rfl) part among).2]
      exact ⟨path, below, proper, belowProper, rfl, rfl⟩

include baseCheckout headCheckout in
theorem mem_raw_deleted (rel : Text) :
    rel ∈ (treePathsWithDirectories baseTree).filter (fun path =>
        !(treePathsWithDirectories headTree).contains path) ↔
      ∃ path, path ≠ [] ∧ Kept path ∧ GitSeen baseWork path ∧ ¬ GitSeen headWork path ∧
        rel = relativePath path := by
  rw [List.mem_filter, mem_tree_paths baseCheckout, Bool.not_eq_true', ← Bool.not_eq_true,
    List.contains_iff_mem, mem_tree_paths headCheckout]
  constructor
  · intro found
    rcases found with ⟨⟨path, proper, kept, seen, named⟩, lacks⟩
    exact ⟨path, proper, kept, seen, fun there => lacks ⟨path, proper, kept, there, named⟩, named⟩
  · intro found
    rcases found with ⟨path, proper, kept, seen, unseen, named⟩
    refine ⟨⟨path, proper, kept, seen, named⟩, ?_⟩
    intro listed
    rcases listed with ⟨other, otherProper, _, there, otherNamed⟩
    have same : other = path := by
      rw [← split_relative_path headWork other otherProper (git_seen_present headWork other there),
        ← otherNamed, named]
      exact split_relative_path baseWork path proper (git_seen_present baseWork path seen)
    rw [same] at there
    exact unseen there

include baseCheckout headCheckout derived in
theorem deletions_agree_iff :
    deleted = rawDeletedPaths baseTree headTree ↔ DirectoriesAgree baseWork headWork := by
  have same : deleted = rawDeletedPaths baseTree headTree ↔ ∀ rel,
      (∃ path, path ≠ [] ∧ Kept path ∧ (baseWork.listing.entry path).isSome = true ∧
        headWork.listing.entry path = none ∧ rel = relativePath path) ↔
      ∃ path, path ≠ [] ∧ Kept path ∧ GitSeen baseWork path ∧ ¬ GitSeen headWork path ∧
        rel = relativePath path := by
    rw [derived.deletions, rawDeletedPaths, deletedPaths, Text.sorted_set_eq_iff]
    apply forall_congr'
    intro rel
    rw [mem_raw_deleted baseCheckout headCheckout, ← mem_deleted_paths, deletedPaths,
      Text.mem_sorted_set]
  rw [same]
  have leafOfDirectory (work : WorkTree) (path : List Text)
      (directory : work.listing.isDirectory path = true)
      (leaf : (work.listing.entry path).any (!TreeEntry.isDirectory ·) = true) : False := by
    rcases (any_leaf_iff work path).mp leaf with ⟨entry, stored, kind⟩
    rw [Listing.isDirectory, stored, Option.any_some, kind] at directory
    cases directory
  constructor
  · intro agree directory proper kept isDirectory
    have present := baseWork.listing.is_some_of_directory directory isDirectory
    constructor
    · intro noLeaf
      rw [← Option.ne_none_iff_isSome]
      intro gone
      rcases (agree (relativePath directory)).mp ⟨directory, proper, kept, present, gone, rfl⟩ with
        ⟨path, pathProper, _, seen, _, named⟩
      have equal : directory = path := by
        rw [← split_relative_path baseWork directory proper present, named]
        exact split_relative_path baseWork path pathProper (git_seen_present baseWork path seen)
      rw [← equal] at seen
      rcases seen with leaf | below
      · exact leafOfDirectory baseWork directory isDirectory leaf
      · exact noLeaf below
    · intro below headDirectory
      by_contra noLeaf
      have unseen : ¬ GitSeen headWork directory := by
        intro seen
        rcases seen with leaf | deeper
        · exact leafOfDirectory headWork directory headDirectory leaf
        · exact noLeaf deeper
      rcases (agree (relativePath directory)).mpr
        ⟨directory, proper, kept, Or.inr below, unseen, rfl⟩ with
        ⟨path, pathProper, _, pathPresent, gone, named⟩
      have equal : directory = path := by
        rw [← split_relative_path baseWork directory proper present, named]
        exact split_relative_path baseWork path pathProper pathPresent
      rw [← equal] at gone
      rw [Listing.isDirectory, gone] at headDirectory
      cases headDirectory
  · intro agree rel
    constructor
    · intro found
      rcases found with ⟨path, proper, kept, present, gone, named⟩
      refine ⟨path, proper, kept, ?_, ?_, named⟩
      · cases kind : baseWork.listing.isDirectory path with
        | true =>
          apply Or.inr
          by_contra noLeaf
          have still := (agree path proper kept kind).1 noLeaf
          rw [gone] at still
          cases still
        | false =>
          apply Or.inl
          rcases Option.isSome_iff_exists.mp present with ⟨entry, stored⟩
          rw [any_leaf_iff]
          refine ⟨entry, stored, ?_⟩
          rwa [Listing.isDirectory, stored, Option.any_some] at kind
      · intro seen
        have there := git_seen_present headWork path seen
        rw [gone] at there
        cases there
    · intro found
      rcases found with ⟨path, proper, kept, seen, unseen, named⟩
      refine ⟨path, proper, kept, git_seen_present baseWork path seen, ?_, named⟩
      cases stored : headWork.listing.entry path with
      | none => rfl
      | some entry =>
        exfalso
        cases kind : entry.isDirectory with
        | false => exact unseen (Or.inl ((any_leaf_iff headWork path).mpr ⟨entry, stored, kind⟩))
        | true =>
          have headDirectory : headWork.listing.isDirectory path = true := by
            rw [Listing.isDirectory, stored]
            exact kind
          cases entry with
          | directory mode =>
            -- The derivation refuses a leaf that becomes a directory.
            rcases directory_derived derived path mode proper kept stored with
              ⟨absent, _⟩ | sameDirectory
            · have there := git_seen_present baseWork path seen
              rw [absent] at there
              cases there
            · have baseDirectory : baseWork.listing.isDirectory path = true := by
                rw [Listing.isDirectory, sameDirectory]
                rfl
              rcases seen with leaf | below
              · exact leafOfDirectory baseWork path baseDirectory leaf
              · exact unseen (Or.inr ((agree path proper kept baseDirectory).2 below
                  headDirectory))
          | _ => cases kind

end

section

variable (mapping : CaseMapping) (quoted : Text → Text) (objectId : ByteArray → Text)
  (modes : CheckoutModes) (linkText : ByteArray → Text) (base head : GitReader)
  (baseTree headTree : Dict Text GitEntry) (baseWork headWork : WorkTree)
  (maximumPaths maximumTotalBytes : Option Nat) (maxBytes : Nat)
  (blocks rawBlocks : Dict Text Text) (deleted : List Text)
  (baseRead : base.tree mapping quoted = .ok baseTree)
  (headRead : head.tree mapping quoted = .ok headTree)
  (baseCheckout : Checkout modes linkText base baseTree baseWork)
  (headCheckout : Checkout modes linkText head headTree headWork)
  (baseAddressed : Addressed objectId base baseTree)
  (headAddressed : Addressed objectId head headTree)
  (collisionFree : CollisionFree objectId base head baseTree headTree)
  (guarded : blocksFromDirs maxBytes (.ok baseWork) (.ok headWork) = .ok (blocks, deleted))
  (raw : candidateBlocks quoted maximumPaths maximumTotalBytes mapping none base head = .ok rawBlocks)
include baseAddressed baseCheckout baseRead collisionFree guarded headAddressed headCheckout headRead raw

theorem candidate_texts_agree :
    blocks.entries.Perm rawBlocks.entries ∧
      serializeCandidateBlocks blocks = serializeCandidateBlocks rawBlocks := by
  have derived := blocks_from_dirs_ok maxBytes baseWork headWork blocks deleted guarded
  rcases candidate_blocks_ok quoted maximumPaths maximumTotalBytes mapping none base head baseTree
    headTree rawBlocks baseRead headRead raw with ⟨listed, represented⟩
  have same : blocks.entries.Perm rawBlocks.entries := by
    rw [List.perm_ext_iff_of_nodup (List.Nodup.of_map Prod.fst blocks.nodup)
      (List.Nodup.of_map Prod.fst rawBlocks.nodup)]
    intro block
    exact blocks_agree baseCheckout headCheckout derived baseAddressed headAddressed collisionFree
      represented listed block.1 block.2
  refine ⟨same, ?_⟩
  rw [serializeCandidateBlocks, serializeCandidateBlocks,
    sort_on_eq_of_perm Text.order Prod.fst _ _ same blocks.nodup]

/-- Where both sides succeed on clean checkouts, the blocks are the same map with one text, and
the deletion lists are the same exactly where the directories agree. -/
theorem candidate_derivations_agree_iff :
    blocks.entries.Perm rawBlocks.entries ∧
      serializeCandidateBlocks blocks = serializeCandidateBlocks rawBlocks ∧
      (deleted = rawDeletedPaths baseTree headTree ↔ DirectoriesAgree baseWork headWork) := by
  have derived := blocks_from_dirs_ok maxBytes baseWork headWork blocks deleted guarded
  have texts := candidate_texts_agree mapping quoted objectId modes linkText base head baseTree
    headTree baseWork headWork maximumPaths maximumTotalBytes maxBytes blocks rawBlocks deleted
    baseRead headRead baseCheckout headCheckout baseAddressed headAddressed collisionFree guarded raw
  exact ⟨texts.1, texts.2, deletions_agree_iff baseCheckout headCheckout derived⟩

end

/-! A package whose only tracked content is ignored -/

def emptyBlobs (paths : List Text) : GitReader where
  rows := paths.map fun path => (path, ⟨"100644", "blob", "e69de29"⟩)
  content := fun _ => ByteArray.empty

def plainModes : CheckoutModes := ⟨0o644, 0o755, 0o777⟩

def emptyEntry : TreeEntry := .regular 0o644 ByteArray.empty

theorem uniform_checkout (reader : GitReader) (blob : GitEntry) (paths : List Text)
    (tree : Dict Text GitEntry) (work : WorkTree) (entries : List (List Text × TreeEntry))
    (plain : blob.mode = "100644") (regular : blob.regular = true)
    (given : work.listing.entry = Listing.entryIn entries)
    (rows : tree.entries = paths.map fun path => (path, blob))
    (listed : ∀ path ∈ paths, ∃ item ∈ entries, item.1 ≠ [] ∧ path = relativePath item.1 ∧
      Listing.entryIn entries item.1 = some (.regular 0o644 (reader.content blob.objectId)))
    (leaves : ∀ item ∈ entries, item.2.isDirectory = true ∨ relativePath item.1 ∈ paths) :
    Checkout plainModes (fun _ => []) reader tree work := by
  constructor
  · intro item inside
    rw [rows, List.mem_map] at inside
    rcases inside with ⟨path, _, built⟩
    rw [← built, GitEntry.tracked, regular, Bool.true_or]
  · intro item inside
    rw [rows, List.mem_map] at inside
    rcases inside with ⟨path, among, built⟩
    rcases listed path among with ⟨found, _, proper, named, stored⟩
    refine ⟨found.1, proper, ?_, ?_⟩
    · rw [← built, ← named]
    · rw [given, stored, ← built, checkedOut, if_pos regular, plain]
      rfl
  · intro path entry stored leaf
    rw [given] at stored
    rcases leaves _ (Listing.mem_of_entry_in entries path entry stored) with directory | named
    · rw [leaf] at directory
      cases directory
    · rw [rows, List.map_map]
      simpa using named

theorem empty_blobs_checkout (paths : List Text) (tree : Dict Text GitEntry) (work : WorkTree)
    (entries : List (List Text × TreeEntry))
    (given : work.listing.entry = Listing.entryIn entries)
    (rows : tree.entries = (emptyBlobs paths).rows)
    (listed : ∀ path ∈ paths, ∃ item ∈ entries, item.1 ≠ [] ∧ path = relativePath item.1 ∧
      Listing.entryIn entries item.1 = some emptyEntry)
    (leaves : ∀ item ∈ entries, item.2.isDirectory = true ∨ relativePath item.1 ∈ paths) :
    Checkout plainModes (fun _ => []) (emptyBlobs paths) tree work :=
  uniform_checkout _ _ paths tree work entries rfl (by decide) given rows listed leaves

def oneId (_ : ByteArray) : Text := "e69de29"

theorem empty_blobs_addressed (paths : List Text) (tree : Dict Text GitEntry)
    (rows : tree.entries = (emptyBlobs paths).rows) : Addressed oneId (emptyBlobs paths) tree := by
  intro item inside
  rw [rows, emptyBlobs, List.mem_map] at inside
  rcases inside with ⟨path, _, built⟩
  rw [← built]
  rfl

def packagePathsBefore : List Text := ["a", "pkg/node_modules/x"]

def packageEntriesBefore : List (List Text × TreeEntry) :=
  [([], .directory 0o755), (["a"], emptyEntry), (["pkg"], .directory 0o755),
    (["pkg", "node_modules"], .directory 0o755),
    (["pkg", "node_modules", "x"], emptyEntry)]

def packageBefore : WorkTree :=
  WorkTree.ofEntries packageEntriesBefore (by decide) (by decide) (by decide) (by decide)

def packagePathsAfter : List Text := ["a"]

def packageEntriesAfter : List (List Text × TreeEntry) :=
  [([], .directory 0o755), (["a"], emptyEntry)]

def packageAfter : WorkTree :=
  WorkTree.ofEntries packageEntriesAfter (by decide) (by decide) (by decide) (by decide)

def gitBefore : Dict Text GitEntry := Dict.ofPairs (emptyBlobs packagePathsBefore).rows

def gitAfter : Dict Text GitEntry := Dict.ofPairs (emptyBlobs packagePathsAfter).rows

/-- The checkout loses the directory `pkg`, which the Git side never saw. -/
theorem ignored_package_deletions_differ :
    (emptyBlobs packagePathsBefore).tree asciiCase id = .ok gitBefore ∧
      (emptyBlobs packagePathsAfter).tree asciiCase id = .ok gitAfter ∧
      Checkout plainModes (fun _ => []) (emptyBlobs packagePathsBefore) gitBefore packageBefore ∧
      Checkout plainModes (fun _ => []) (emptyBlobs packagePathsAfter) gitAfter packageAfter ∧
      Addressed oneId (emptyBlobs packagePathsBefore) gitBefore ∧
      Addressed oneId (emptyBlobs packagePathsAfter) gitAfter ∧
      CollisionFree oneId (emptyBlobs packagePathsBefore) (emptyBlobs packagePathsAfter) gitBefore
        gitAfter ∧
      blocksFromDirs 1000000 (.ok packageBefore) (.ok packageAfter) =
        .ok (Dict.empty, ["pkg"]) ∧
      candidateBlocks id none none asciiCase none (emptyBlobs packagePathsBefore)
        (emptyBlobs packagePathsAfter) = .ok Dict.empty ∧
      rawDeletedPaths gitBefore gitAfter = [] := by
  have rowsBefore : gitBefore.entries = (emptyBlobs packagePathsBefore).rows := by decide
  have rowsAfter : gitAfter.entries = (emptyBlobs packagePathsAfter).rows := by decide
  refine ⟨ok_of_read _ Dict.entries Dict.entries_injective _ (by decide),
    ok_of_read _ Dict.entries Dict.entries_injective _ (by decide),
    empty_blobs_checkout _ _ _ packageEntriesBefore rfl rowsBefore (by decide) (by decide),
    empty_blobs_checkout _ _ _ packageEntriesAfter rfl rowsAfter (by decide) (by decide),
    empty_blobs_addressed _ _ rowsBefore, empty_blobs_addressed _ _ rowsAfter,
    fun _ _ _ _ _ => rfl, derivation_of_entries _ _ _ _ _ (by decide),
    ok_of_read _ Dict.entries Dict.entries_injective _ (by decide), by decide⟩

def rootEntries : List (List Text × TreeEntry) := [([], .directory 0o755)]

def rootOnly : WorkTree :=
  WorkTree.ofEntries rootEntries (by decide) (by decide) (by decide) (by decide)

def gitEmpty : Dict Text GitEntry := Dict.ofPairs (emptyBlobs []).rows

theorem plain_deletion_agrees :
    blocksFromDirs 1000000 (.ok packageAfter) (.ok rootOnly) = .ok (Dict.empty, ["a".toList]) ∧
      rawDeletedPaths gitAfter gitEmpty = ["a".toList] ∧
      DirectoriesAgree packageAfter rootOnly := by
  have rowsBefore : gitAfter.entries = (emptyBlobs packagePathsAfter).rows := by decide
  have rowsAfter : gitEmpty.entries = (emptyBlobs []).rows := by decide
  have guarded : blocksFromDirs 1000000 (.ok packageAfter) (.ok rootOnly) =
      .ok (Dict.empty, ["a".toList]) := derivation_of_entries _ _ _ _ _ (by decide)
  have raw : candidateBlocks id none none asciiCase none (emptyBlobs packagePathsAfter)
      (emptyBlobs []) = .ok Dict.empty :=
    ok_of_read _ Dict.entries Dict.entries_injective _ (by decide)
  have deletions : rawDeletedPaths gitAfter gitEmpty = ["a".toList] := by decide
  have agree := candidate_derivations_agree_iff asciiCase id oneId plainModes (fun _ => [])
    (emptyBlobs packagePathsAfter) (emptyBlobs []) gitAfter gitEmpty packageAfter rootOnly none none
    1000000 Dict.empty Dict.empty ["a".toList]
    (ok_of_read _ Dict.entries Dict.entries_injective _ (by decide))
    (ok_of_read _ Dict.entries Dict.entries_injective _ (by decide))
    (empty_blobs_checkout _ _ _ packageEntriesAfter rfl rowsBefore (by decide) (by decide))
    (empty_blobs_checkout _ _ _ rootEntries rfl rowsAfter (by decide) (by decide))
    (empty_blobs_addressed _ _ rowsBefore) (empty_blobs_addressed _ _ rowsAfter)
    (fun _ _ _ _ _ => rfl) guarded raw
  exact ⟨guarded, deletions, agree.2.2.mp deletions.symm⟩

end EvoomGuard.Finalizer
