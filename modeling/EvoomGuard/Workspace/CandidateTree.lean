import EvoomGuard.Lib.Fnmatch
import EvoomGuard.Lib.Json
import EvoomGuard.Lib.PathOrder
import EvoomGuard.Workspace

/-!
The base/head derivation of `workspace/candidate_tree.py` on two trees that do not change while
they are read: FILE blocks for what the head adds or changes, paths for what it lacks, and one
aggregate refusal for every change that neither can express.
-/

namespace EvoomGuard.Workspace.CandidateTree

open Lib Workspace

/-- One entry captured without following links. The content of a regular file is what every read
of it returns; a path that cannot be examined or listed has the text of the failure. -/
inductive TreeEntry where
  | regular (mode : Nat) (data : ByteArray)
  | directory (mode : Nat)
  | symlink (mode : Nat) (target : Text)
  | special (mode : Nat)
  | unreadable (problem : Text)
  deriving DecidableEq

inductive EntryKind where
  | regular
  | directory
  | symlink
  | special
  | unreadable
  deriving DecidableEq

def EntryKind.text : EntryKind → Text
  | .regular => "regular"
  | .directory => "directory"
  | .symlink => "symlink"
  | .special => "special"
  | .unreadable => "unreadable"

namespace TreeEntry

def kind : TreeEntry → EntryKind
  | .regular _ _ => .regular
  | .directory _ => .directory
  | .symlink _ _ => .symlink
  | .special _ => .special
  | .unreadable _ => .unreadable

def mode : TreeEntry → Option Nat
  | .regular mode _ => some mode
  | .directory mode => some mode
  | .symlink mode _ => some mode
  | .special mode => some mode
  | .unreadable _ => none

def isDirectory : TreeEntry → Bool
  | .directory _ => true
  | _ => false

def isRegular : TreeEntry → Bool
  | .regular _ _ => true
  | _ => false

end TreeEntry

/-- A directory tree with proper names. `linkedDirectory` says which links lead to a directory. -/
structure WorkTree where
  listing : Listing Text TreeEntry.isDirectory
  linkedDirectory : List Text → Bool
  named : ∀ path name, (listing.entry (path ++ [name])).isSome = true →
    isName name = true ∧ '/' ∉ name

def WorkTree.looksLikeDirectory (tree : WorkTree) (path : List Text) : Bool :=
  match tree.listing.entry path with
  | some (.directory _) => true
  | some (.symlink _ _) => tree.linkedDirectory path
  | _ => false

def WorkTree.ofEntries (entries : List (List Text × TreeEntry))
    (distinct : (entries.map Prod.fst).Nodup)
    (root : (Listing.entryIn entries []).any TreeEntry.isDirectory = true)
    (parent : ∀ item ∈ entries, item.1 ≠ [] →
      (Listing.entryIn entries item.1.dropLast).any TreeEntry.isDirectory = true)
    (named : ∀ item ∈ entries, ∀ name ∈ item.1, isName name = true ∧ '/' ∉ name) : WorkTree where
  listing := Listing.ofEntries entries distinct root parent
  linkedDirectory := fun _ => false
  named := by
    intro path name present
    have inside := (Listing.entry_in_is_some entries _).mp present
    rcases List.mem_map.mp inside with ⟨item, found, same⟩
    exact named item found name (by simp [same])

/-! The walk -/

/-- Basenames never copied into a throwaway candidate working copy. -/
def copyIgnore : List Text :=
  [".git", "__pycache__", ".venv", "venv", "node_modules",
    ".evo_runs", ".pytest_cache", ".mypy_cache", "dist",
    "build"]

def ignoredNames : List Text := Text.sortedSet (copyIgnore ++ [".git".toList])

/-- One basename as `shutil.ignore_patterns` matches it on a POSIX host. -/
def ignoredCopyName (name : Text) (patterns : List Text) : Bool :=
  patterns.any fun pattern => Fnmatch.fnmatch name pattern

def keptName (name : Text) : Bool := !ignoredCopyName name ignoredNames

def relativePath (path : List Text) : Text := Text.join ['/'] path

def visitEntries (tree : WorkTree) (visit : Visit Text) : List (Text × TreeEntry) :=
  (visit.dirnames ++ visit.filenames.filter keptName).filterMap fun name =>
    (tree.listing.entry (visit.path ++ [name])).map fun entry =>
      (relativePath (visit.path ++ [name]), entry)

/-- Every non-ignored path, with its entry. -/
def walkTreeEntries (tree : WorkTree) : List (Text × TreeEntry) :=
  (tree.listing.walk tree.looksLikeDirectory fun _ names => names.filter keptName).flatMap
    (visitEntries tree)

/-! Comparing and reading -/

/-- The established diagnostic for an unrepresentable entry. -/
def entryProblem : TreeEntry → Text
  | .unreadable problem => problem
  | .special _ => "path is not a regular file or symlink"
  | .symlink _ _ => "path is a symlink, which Guard file blocks cannot represent"
  | _ => "path cannot be represented safely"

def pathTypeChanged (base head : TreeEntry) : Text :=
  "path type changed from " ++ base.kind.text ++ " to " ++ head.kind.text

def pathModeChanged : Text := "path mode changed; Guard file blocks cannot preserve modes"

/-- Whether a path changed, and whether that fact is unverifiable. -/
def entriesChanged : Option TreeEntry → TreeEntry → Bool × Option Text
  | none, _ => (true, none)
  | some base, head =>
    if base.kind = .unreadable then (true, some (entryProblem base))
    else if head.kind = .unreadable then (true, some (entryProblem head))
    else if base.kind ≠ head.kind then (true, some (pathTypeChanged base head))
    else if base.mode ≠ head.mode then (true, some pathModeChanged)
    else
      match base, head with
      | .regular _ before, .regular _ after => (before ≠ after, none)
      | .symlink _ before, .symlink _ after => (before ≠ after, none)
      | .directory _, .directory _ => (false, none)
      | _, _ => (true, some (entryProblem head))

/-- Whether FILE blocks implicitly recreate a newly added directory. -/
def directoryHasRegularDescendant (entries : List (Text × TreeEntry)) (directory : Text) : Bool :=
  let head := Text.rstripWhile (· == '/') directory ++ ['/']
  entries.any fun item => Text.startsWith item.1 head && item.2.isRegular

def readChangedText (maxBytes : Nat) (data : ByteArray) : Except Text Text :=
  if maxBytes < data.size then
    .error ("changed file is " ++ Nat.toDigits 10 data.size ++ " bytes, above the " ++
      Nat.toDigits 10 maxBytes ++ "-byte limit")
  else
    match decodeUtf8 data with
    | none => .error "changed file is not valid UTF-8 text"
    | some text => .ok text

/-! The derivation -/

/-- What one head path contributes: nothing, a block, or a problem. -/
def derivePath (maxBytes : Nat) (baseEntries headEntries : List (Text × TreeEntry)) (rel : Text)
    (head : TreeEntry) : Except Text (Option Text) :=
  if head.isDirectory && (baseEntries.lookup rel).isNone then
    if directoryHasRegularDescendant headEntries rel then .ok none
    else .error "new empty directory cannot be represented"
  else
    match entriesChanged (baseEntries.lookup rel) head with
    | (_, some problem) => .error problem
    | (false, none) => .ok none
    | (true, none) =>
      match head with
      | .regular _ data => (readChangedText maxBytes data).map some
      | _ => .error (entryProblem head)

/-- The head paths in order, with what each contributes. -/
def deriveOutcomes (maxBytes : Nat) (baseEntries headEntries : List (Text × TreeEntry)) :
    List (Text × Except Text (Option Text)) :=
  (Text.sortedSet (headEntries.map Prod.fst)).filterMap fun rel =>
    (headEntries.lookup rel).map fun head =>
      (rel, derivePath maxBytes baseEntries headEntries rel head)

def outcomeProblem (outcome : Text × Except Text (Option Text)) : Option (Text × Text) :=
  match outcome.2 with
  | .error problem => some (outcome.1, problem)
  | .ok _ => none

def outcomeBlock (outcome : Text × Except Text (Option Text)) : Option (Text × Text) :=
  match outcome.2 with
  | .ok (some text) => some (outcome.1, text)
  | _ => none

def rootProblems (label : Text) : Except TreeEntry WorkTree → List (Text × Text)
  | .ok _ => []
  | .error entry => [(label, entryProblem entry)]

def deletedPaths (baseEntries headEntries : List (Text × TreeEntry)) : List Text :=
  Text.sortedSet ((baseEntries.map Prod.fst).filter fun rel =>
    !(headEntries.map Prod.fst).contains rel)

/-- Structured text blocks and deletions, or the problems of one aggregate exception. A root that
is no directory is given by its entry. -/
def blocksFromDirs (maxBytes : Nat) (base head : Except TreeEntry WorkTree) :
    Except (List (Text × Text)) (Dict Text Text × List Text) :=
  match base, head with
  | .ok baseTree, .ok headTree =>
    let baseEntries := walkTreeEntries baseTree
    let headEntries := walkTreeEntries headTree
    let outcomes := deriveOutcomes maxBytes baseEntries headEntries
    let problems := outcomes.filterMap outcomeProblem
    if problems.isEmpty then
      .ok (Dict.ofPairs (outcomes.filterMap outcomeBlock), deletedPaths baseEntries headEntries)
    else .error problems
  | _, _ =>
    .error (rootProblems "<base-root>" base ++ rootProblems "<head-root>" head)

def unverifiableChangedPaths (problems : List (Text × Text)) : Text :=
  "changed path(s) cannot be safely represented for verification (" ++
    Text.join "; " (problems.map fun problem => problem.1 ++ ": " ++ problem.2) ++
    [')']

theorem derivation_of_entries (maxBytes : Nat) (base head : WorkTree) (blocks : Dict Text Text)
    (deleted : List Text)
    (evaluated : (blocksFromDirs maxBytes (.ok base) (.ok head)).toOption.map
      (fun found => (found.1.entries, found.2)) = some (blocks.entries, deleted)) :
    blocksFromDirs maxBytes (.ok base) (.ok head) = .ok (blocks, deleted) := by
  apply ok_of_read _ (fun found : Dict Text Text × List Text => (found.1.entries, found.2)) _ _
    evaluated
  intro left right same
  rw [Prod.mk.injEq] at same
  exact Prod.ext (Dict.entries_injective same.1) same.2

/-- The canonical textual identity of structured blocks. -/
def serializeCandidateBlocks (blocks : Dict Text Text) : Text :=
  Text.join ['\n'] ((sortOn Text.le Prod.fst blocks.entries).map fun block =>
    "<<<FILE: " ++ block.1 ++ ">>>\n" ++ block.2 ++ "\n<<<END FILE>>>")

/-! What the walk finds -/

theorem kept_name_iff (name : Text) : keptName name = true ↔ name ∉ ignoredNames := by
  have plain : ∀ pattern ∈ ignoredNames, pattern.any Fnmatch.isSpecial = false := by
    decide
  rw [keptName, ignoredCopyName, Bool.not_eq_true', List.any_eq_false]
  constructor
  · intro unmatched inside
    exact unmatched name inside ((Fnmatch.fnmatch_literal name name (plain name inside)).mpr rfl)
  · intro outside pattern inside
    rw [Fnmatch.fnmatch_literal name pattern (plain pattern inside)]
    intro same
    rw [same] at outside
    exact outside inside

/-- No component of a path is an ignored name. -/
def Kept (path : List Text) : Prop := ∀ name ∈ path, keptName name = true

theorem kept_append (above below : List Text) : Kept (above ++ below) ↔ Kept above ∧ Kept below :=
  List.forall_mem_append

section Walk

variable (tree : WorkTree)

variable (path : List Text)

theorem looks_like_directory_of_real (real : tree.listing.isDirectory path = true) :
    tree.looksLikeDirectory path = true := by
  unfold Listing.isDirectory at real
  unfold WorkTree.looksLikeDirectory
  cases found : tree.listing.entry path with
  | none =>
    rw [found] at real
    cases real
  | some entry =>
    rw [found] at real
    cases entry <;> first | rfl | cases real

theorem mem_visit_entries (item : Text × TreeEntry) :
    item ∈ visitEntries tree (tree.listing.visitAt tree.looksLikeDirectory
        (fun _ names => names.filter keptName) path) ↔
      ∃ name entry, keptName name = true ∧ tree.listing.entry (path ++ [name]) = some entry ∧
        item = (relativePath (path ++ [name]), entry) := by
  simp only [visitEntries, Listing.visitAt, List.mem_filterMap, List.mem_append, List.mem_filter,
    Listing.mem_names, Option.map_eq_some_iff]
  constructor
  · intro found
    rcases found with ⟨name, listed, entry, present, built⟩
    refine ⟨name, entry, ?_, present, built.symm⟩
    rcases listed with directory | file
    · exact directory.2
    · exact file.2
  · intro found
    rcases found with ⟨name, entry, kept, present, built⟩
    refine ⟨name, ?_, entry, present, built.symm⟩
    rw [present]
    cases looks : tree.looksLikeDirectory (path ++ [name]) with
    | true => exact Or.inl ⟨⟨rfl, rfl⟩, kept⟩
    | false => exact Or.inr ⟨⟨rfl, rfl⟩, kept⟩

theorem mem_walk_tree_entries (item : Text × TreeEntry) :
    item ∈ walkTreeEntries tree ↔
      ∃ path entry, path ≠ [] ∧ Kept path ∧ tree.listing.entry path = some entry ∧
        item = (relativePath path, entry) := by
  rw [walkTreeEntries, List.mem_flatMap]
  simp only [Listing.walk, tree.listing.mem_walk_keeping tree.looksLikeDirectory keptName
    (looks_like_directory_of_real tree)]
  constructor
  · intro found
    rcases found with ⟨visit, ⟨between, same, _, keeps, _⟩, inside⟩
    rw [same, List.nil_append, mem_visit_entries] at inside
    rcases inside with ⟨name, entry, kept, present, built⟩
    refine ⟨between ++ [name], entry, by simp, ?_, present, built⟩
    rw [kept_append]
    exact ⟨keeps, by simpa [Kept] using kept⟩
  · intro found
    rcases found with ⟨path, entry, proper, kept, present, built⟩
    rcases List.eq_nil_or_concat path with empty | ⟨between, name, joined⟩
    · exact absurd empty proper
    · rw [List.concat_eq_append] at joined
      subst joined
      rw [kept_append] at kept
      have isSome : (tree.listing.entry (between ++ [name])).isSome = true := by
        rw [present]
        rfl
      have bound := tree.listing.length_le_height _ isSome
      simp only [List.length_append, List.length_cons, List.length_nil] at bound
      refine ⟨_, ⟨between, rfl, by omega, kept.1, Or.inr ?_⟩, ?_⟩
      · rw [List.nil_append]
        exact tree.listing.parent between name isSome
      · rw [List.nil_append, mem_visit_entries]
        exact ⟨name, entry, by simpa [Kept] using kept.2, present, built⟩

theorem path_named (present : (tree.listing.entry path).isSome = true) :
    ∀ part ∈ path, isName part = true ∧ '/' ∉ part :=
  tree.listing.parts_of_named tree.named path present

theorem split_relative_path (proper : path ≠ [])
    (present : (tree.listing.entry path).isSome = true) :
    Text.split '/' (relativePath path) = path :=
  Text.split_join '/' path proper fun part inside => (path_named tree path present part inside).2

theorem lookup_walk (proper : path ≠ []) (kept : Kept path)
    (free : ∀ part ∈ path, '/' ∉ part) :
    (walkTreeEntries tree).lookup (relativePath path) = tree.listing.entry path := by
  apply lookup_eq_of_mem_iff
  intro found
  rw [mem_walk_tree_entries]
  constructor
  · intro inside
    rcases inside with ⟨other, entry, otherProper, _, present, built⟩
    rw [Prod.mk.injEq] at built
    have same : path = other := by
      rw [← split_relative_path tree other otherProper (by rw [present]; rfl), ← built.1]
      exact (Text.split_join '/' path proper free).symm
    rw [same, present, built.2]
  · intro present
    exact ⟨path, found, proper, kept, present, rfl⟩

theorem mem_walk_keys (rel : Text) :
    rel ∈ (walkTreeEntries tree).map Prod.fst ↔
      ∃ path, path ≠ [] ∧ Kept path ∧ (tree.listing.entry path).isSome = true ∧
        rel = relativePath path := by
  rw [List.mem_map]
  constructor
  · intro found
    rcases found with ⟨item, inside, named⟩
    rcases (mem_walk_tree_entries tree item).mp inside with ⟨path, entry, proper, kept, present, built⟩
    exact ⟨path, proper, kept, by rw [present]; rfl, by rw [← named, built]⟩
  · intro found
    rcases found with ⟨path, proper, kept, present, named⟩
    rcases Option.isSome_iff_exists.mp present with ⟨entry, stored⟩
    exact ⟨(relativePath path, entry), (mem_walk_tree_entries tree _).mpr
      ⟨path, entry, proper, kept, stored, rfl⟩, named.symm⟩

end Walk

/-! What the derivation returns -/

structure Derived (maxBytes : Nat) (base head : WorkTree) (blocks : Dict Text Text)
    (deleted : List Text) : Prop where
  outcome : ∀ path entry, path ≠ [] → Kept path → head.listing.entry path = some entry →
    ∃ result, derivePath maxBytes (walkTreeEntries base) (walkTreeEntries head)
        (relativePath path) entry = .ok result ∧
      ∀ text, (relativePath path, text) ∈ blocks.entries ↔ result = some text
  source : ∀ rel text, (rel, text) ∈ blocks.entries →
    ∃ path entry, path ≠ [] ∧ Kept path ∧ head.listing.entry path = some entry ∧
      rel = relativePath path
  deletions : deleted = deletedPaths (walkTreeEntries base) (walkTreeEntries head)

theorem outcome_block_iff (rel : Text) (answer : Except Text (Option Text)) (block : Text × Text) :
    outcomeBlock (rel, answer) = some block ↔ rel = block.1 ∧ answer = .ok (some block.2) := by
  unfold outcomeBlock
  constructor
  · intro taken
    split at taken
    · rename_i text same
      rw [Option.some.injEq] at taken
      subst taken
      exact ⟨rfl, same⟩
    · cases taken
  · intro found
    rw [found.1, found.2]

theorem outcome_keys_nodup (maxBytes : Nat) (baseEntries headEntries : List (Text × TreeEntry)) :
    (((deriveOutcomes maxBytes baseEntries headEntries).filterMap outcomeBlock).map
      Prod.fst).Nodup := by
  have distinct : (Text.sortedSet (headEntries.map Prod.fst)).Nodup :=
    ((Text.sorted_perm _).nodup_iff).mpr (List.nodup_dedup _)
  rw [deriveOutcomes, List.filterMap_filterMap, List.map_filterMap]
  apply distinct.filterMap
  intro left right rel leftNamed rightNamed
  have read (key : Text) (found : rel ∈ Option.map Prod.fst
      (((headEntries.lookup key).map fun head =>
        (key, derivePath maxBytes baseEntries headEntries key head)).bind outcomeBlock)) :
      key = rel := by
    rw [Option.mem_def, Option.map_eq_some_iff] at found
    rcases found with ⟨block, bound, named⟩
    rw [Option.bind_eq_some_iff] at bound
    rcases bound with ⟨outcome, built, taken⟩
    rw [Option.map_eq_some_iff] at built
    rcases built with ⟨head, _, same⟩
    subst same
    rw [outcome_block_iff] at taken
    rw [taken.1, named]
  rw [read left leftNamed, read right rightNamed]

theorem blocks_from_dirs_ok (maxBytes : Nat) (base head : WorkTree) (blocks : Dict Text Text)
    (deleted : List Text)
    (ok : blocksFromDirs maxBytes (.ok base) (.ok head) = .ok (blocks, deleted)) :
    Derived maxBytes base head blocks deleted := by
  simp only [blocksFromDirs] at ok
  split_ifs at ok with clean
  rw [Except.ok.injEq, Prod.mk.injEq] at ok
  rcases ok with ⟨taken, lacking⟩
  have entries := Dict.of_pairs_entries _ (outcome_keys_nodup maxBytes (walkTreeEntries base)
    (walkTreeEntries head))
  rw [taken] at entries
  have looked (path : List Text) (entry : TreeEntry) (proper : path ≠ []) (kept : Kept path)
      (present : head.listing.entry path = some entry) :
      (walkTreeEntries head).lookup (relativePath path) = some entry := by
    rw [lookup_walk head path proper kept, present]
    intro part inside
    exact (path_named head path (by rw [present]; rfl) part inside).2
  have listed (outcome : Text × Except Text (Option Text)) :
      outcome ∈ deriveOutcomes maxBytes (walkTreeEntries base) (walkTreeEntries head) ↔
        ∃ path entry, path ≠ [] ∧ Kept path ∧ head.listing.entry path = some entry ∧
          outcome = (relativePath path, derivePath maxBytes (walkTreeEntries base)
            (walkTreeEntries head) (relativePath path) entry) := by
    rw [deriveOutcomes, List.mem_filterMap]
    constructor
    · intro found
      rcases found with ⟨rel, inside, built⟩
      rw [Text.mem_sorted_set, mem_walk_keys] at inside
      rcases inside with ⟨path, proper, kept, present, named⟩
      rcases Option.isSome_iff_exists.mp present with ⟨entry, stored⟩
      rw [named, looked path entry proper kept stored, Option.map_some, Option.some.injEq] at built
      exact ⟨path, entry, proper, kept, stored, built.symm⟩
    · intro found
      rcases found with ⟨path, entry, proper, kept, stored, built⟩
      refine ⟨relativePath path, ?_, ?_⟩
      · rw [Text.mem_sorted_set, mem_walk_keys]
        exact ⟨path, proper, kept, by rw [stored]; rfl, rfl⟩
      · rw [looked path entry proper kept stored, Option.map_some, built]
  constructor
  · intro path entry proper kept stored
    have inside := (listed _).mpr ⟨path, entry, proper, kept, stored, rfl⟩
    cases derived : derivePath maxBytes (walkTreeEntries base) (walkTreeEntries head)
        (relativePath path) entry with
    | error problem =>
      rw [derived] at inside
      rw [List.isEmpty_iff, List.filterMap_eq_nil_iff] at clean
      have sound := clean _ inside
      simp [outcomeProblem] at sound
    | ok result =>
      refine ⟨result, rfl, ?_⟩
      intro text
      rw [entries, List.mem_filterMap]
      constructor
      · intro found
        rcases found with ⟨outcome, among, block⟩
        rcases (listed outcome).mp among with ⟨other, otherEntry, otherProper, _, otherStored, same⟩
        subst same
        rw [outcome_block_iff] at block
        have samePath : other = path := by
          rw [← split_relative_path head other otherProper (by rw [otherStored]; rfl), block.1]
          exact split_relative_path head path proper (by rw [stored]; rfl)
        subst samePath
        rw [stored, Option.some.injEq] at otherStored
        subst otherStored
        rw [derived, Except.ok.injEq] at block
        exact block.2
      · intro same
        refine ⟨_, inside, ?_⟩
        rw [derived, same]
        rfl
  · intro rel text inside
    rw [entries, List.mem_filterMap] at inside
    rcases inside with ⟨outcome, among, block⟩
    rcases (listed outcome).mp among with ⟨path, entry, proper, kept, stored, same⟩
    refine ⟨path, entry, proper, kept, stored, ?_⟩
    subst same
    rw [outcome_block_iff] at block
    exact block.1.symm
  · exact lacking.symm

/-! What one path can contribute -/

section

variable {maxBytes : Nat} {baseEntries headEntries : List (Text × TreeEntry)} {rel : Text}
  {result : Option Text}

theorem entries_changed_regular (before : Option TreeEntry) (mode : Nat) (data : ByteArray)
    (changed : Bool) (sound : entriesChanged before (.regular mode data) = (changed, none)) :
    (before = none ∧ changed = true) ∨
      ∃ old, before = some (.regular mode old) ∧ changed = decide (old ≠ data) := by
  cases before with
  | none => exact Or.inl ⟨rfl, (Prod.mk.inj sound).1.symm⟩
  | some base =>
    cases base with
    | regular oldMode old =>
      by_cases same : oldMode = mode
      · subst same
        apply Or.inr
        refine ⟨old, rfl, ?_⟩
        simpa [entriesChanged, TreeEntry.kind, TreeEntry.mode, eq_comm] using sound
      · simp [entriesChanged, TreeEntry.kind, TreeEntry.mode, same] at sound
    | directory oldMode | symlink oldMode target | special oldMode | unreadable problem =>
      simp [entriesChanged, TreeEntry.kind] at sound

/-- A regular head file is new, unchanged or changed under the same mode; it becomes a block
unless it is unchanged. -/
theorem derive_regular (mode : Nat) (data : ByteArray)
    (derived : derivePath maxBytes baseEntries headEntries rel (.regular mode data) = .ok result) :
    (baseEntries.lookup rel = some (.regular mode data) ∧ result = none) ∨
      ((baseEntries.lookup rel = none ∨
          ∃ old, baseEntries.lookup rel = some (.regular mode old) ∧ old ≠ data) ∧
        ∃ text, result = some text ∧ decodeUtf8 data = some text) := by
  simp only [derivePath, TreeEntry.isDirectory, Bool.false_and, Bool.false_eq_true, if_false]
    at derived
  cases compared : entriesChanged (baseEntries.lookup rel) (.regular mode data) with
  | mk changed problem =>
    rw [compared] at derived
    cases problem with
    | some text => cases derived
    | none =>
      have cases := entries_changed_regular _ mode data changed compared
      cases changed with
      | false =>
        apply Or.inl
        rcases cases with ⟨_, impossible⟩ | ⟨old, stored, same⟩
        · cases impossible
        · have equal : old = data := by simpa using same.symm
          rw [equal] at stored
          exact ⟨stored, (Except.ok.inj derived).symm⟩
      | true =>
        apply Or.inr
        constructor
        · rcases cases with ⟨absent, _⟩ | ⟨old, stored, apart⟩
          · exact Or.inl absent
          · exact Or.inr ⟨old, stored, by simpa using apart.symm⟩
        · simp only [readChangedText] at derived
          split_ifs at derived with long
          · cases derived
          cases decoded : decodeUtf8 data with
          | none =>
            rw [decoded] at derived
            cases derived
          | some text =>
            rw [decoded] at derived
            exact ⟨text, (Except.ok.inj derived).symm, rfl⟩

theorem derive_directory (mode : Nat)
    (derived : derivePath maxBytes baseEntries headEntries rel (.directory mode) = .ok result) :
    result = none ∧ ((baseEntries.lookup rel = none ∧
      directoryHasRegularDescendant headEntries rel = true) ∨
        baseEntries.lookup rel = some (.directory mode)) := by
  cases stored : baseEntries.lookup rel with
  | none =>
    simp only [derivePath, TreeEntry.isDirectory, stored, Option.isNone_none, Bool.and_self,
      if_true] at derived
    split_ifs at derived with descendant
    exact ⟨(Except.ok.inj derived).symm, Or.inl ⟨rfl, descendant⟩⟩
  | some base =>
    simp only [derivePath, stored, Option.isNone_some, Bool.and_false, Bool.false_eq_true,
      if_false] at derived
    cases base with
    | directory oldMode =>
      by_cases same : oldMode = mode
      · subst same
        refine ⟨?_, Or.inr rfl⟩
        simpa [entriesChanged, TreeEntry.kind, TreeEntry.mode, eq_comm] using derived
      · simp [entriesChanged, TreeEntry.kind, TreeEntry.mode, same] at derived
    | regular oldMode data | symlink oldMode target | special oldMode | unreadable problem =>
      simp [entriesChanged, TreeEntry.kind] at derived

theorem derive_other (entry : TreeEntry) (notDirectory : entry.isDirectory = false)
    (notRegular : entry.isRegular = false)
    (derived : derivePath maxBytes baseEntries headEntries rel entry = .ok result) :
    result = none ∧ (baseEntries.lookup rel).isSome = true := by
  simp only [derivePath, notDirectory, Bool.false_and, Bool.false_eq_true, if_false] at derived
  cases compared : entriesChanged (baseEntries.lookup rel) entry with
  | mk changed problem =>
    rw [compared] at derived
    cases problem with
    | some text => cases derived
    | none =>
      cases changed with
      | true =>
        cases entry with
        | regular mode data => cases notRegular
        | _ => cases derived
      | false =>
        refine ⟨(Except.ok.inj derived).symm, ?_⟩
        cases stored : baseEntries.lookup rel with
        | none =>
          rw [stored] at compared
          cases compared
        | some base => rfl

end

section Derivation

variable {maxBytes : Nat} {base head : WorkTree} {blocks : Dict Text Text} {deleted : List Text}
  (derived : Derived maxBytes base head blocks deleted)

theorem lookup_base (path : List Text) (proper : path ≠ []) (kept : Kept path)
    (present : (head.listing.entry path).isSome = true) :
    (walkTreeEntries base).lookup (relativePath path) = base.listing.entry path :=
  lookup_walk base path proper kept fun part inside =>
    (path_named head path present part inside).2

include derived

theorem mem_blocks_iff (rel text : Text) :
    (rel, text) ∈ blocks.entries ↔
      ∃ path mode data, path ≠ [] ∧ Kept path ∧
        head.listing.entry path = some (.regular mode data) ∧ rel = relativePath path ∧
        decodeUtf8 data = some text ∧
        (base.listing.entry path = none ∨
          ∃ old, base.listing.entry path = some (.regular mode old) ∧ old ≠ data) := by
  constructor
  · intro inside
    rcases derived.source rel text inside with ⟨path, entry, proper, kept, stored, named⟩
    rcases derived.outcome path entry proper kept stored with ⟨result, answer, listed⟩
    rw [named, listed] at inside
    subst inside
    have before := @lookup_base base head path proper kept (by rw [stored]; rfl)
    cases entry with
    | regular mode data =>
      rcases derive_regular mode data answer with ⟨_, impossible⟩ | ⟨changed, found, same, decoded⟩
      · cases impossible
      · rw [before] at changed
        rw [← Option.some.inj same] at decoded
        exact ⟨path, mode, data, proper, kept, stored, named, decoded, changed⟩
    | directory mode => cases (derive_directory mode answer).1
    | symlink mode target | special mode | unreadable problem =>
      cases (derive_other _ rfl rfl answer).1
  · intro found
    rcases found with ⟨path, mode, data, proper, kept, stored, named, decoded, changed⟩
    rcases derived.outcome path _ proper kept stored with ⟨result, answer, listed⟩
    rw [named, listed]
    have before := @lookup_base base head path proper kept (by rw [stored]; rfl)
    rcases derive_regular mode data answer with ⟨unchanged, _⟩ | ⟨_, text', same, decoded'⟩
    · rw [before] at unchanged
      rcases changed with absent | ⟨old, other, apart⟩
      · rw [absent] at unchanged
        cases unchanged
      · rw [other, Option.some.injEq, TreeEntry.regular.injEq] at unchanged
        exact absurd unchanged.2 apart
    · rw [decoded, Option.some.injEq] at decoded'
      rw [same, decoded']

theorem directory_derived (path : List Text) (mode : Nat) (proper : path ≠ []) (kept : Kept path)
    (stored : head.listing.entry path = some (.directory mode)) :
    (base.listing.entry path = none ∧
        directoryHasRegularDescendant (walkTreeEntries head) (relativePath path) = true) ∨
      base.listing.entry path = some (.directory mode) := by
  rcases derived.outcome path _ proper kept stored with ⟨result, answer, _⟩
  have cases := (derive_directory mode answer).2
  rwa [lookup_base path proper kept (by rw [stored]; rfl)] at cases

theorem regular_derived (path : List Text) (mode : Nat) (data : ByteArray) (proper : path ≠ [])
    (kept : Kept path) (stored : head.listing.entry path = some (.regular mode data)) :
    base.listing.entry path = some (.regular mode data) ∨
      (∃ text, (relativePath path, text) ∈ blocks.entries ∧ decodeUtf8 data = some text) := by
  rcases derived.outcome path _ proper kept stored with ⟨result, answer, listed⟩
  rcases derive_regular mode data answer with ⟨unchanged, _⟩ | ⟨_, text, same, decoded⟩
  · rw [lookup_base path proper kept (by rw [stored]; rfl)] at unchanged
    exact Or.inl unchanged
  · exact Or.inr ⟨text, (listed text).mpr same, decoded⟩

end Derivation

/-- The text of a directory with a slash begins the text of what lies below it. -/
theorem regular_descendant_iff (tree : WorkTree) (directory : List Text) (proper : directory ≠ [])
    (present : (tree.listing.entry directory).isSome = true) :
    directoryHasRegularDescendant (walkTreeEntries tree) (relativePath directory) = true ↔
      ∃ below mode data, below ≠ [] ∧ Kept (directory ++ below) ∧
        tree.listing.entry (directory ++ below) = some (.regular mode data) := by
  have names := path_named tree directory present
  have stripped : Text.rstripWhile (· == '/') (relativePath directory) = relativePath directory := by
    rcases List.eq_nil_or_concat directory with empty | ⟨above, name, joined⟩
    · exact absurd empty proper
    · rw [List.concat_eq_append] at joined
      subst joined
      have last := names name (by simp)
      have ending : ∃ start, relativePath (above ++ [name]) = start ++ name := by
        by_cases top : above = []
        · exact ⟨[], by simp [top, relativePath, Text.join]⟩
        · exact ⟨Text.join ['/'] above ++ ['/'], by
            rw [relativePath, Text.join_append _ above [name] top (by simp)]
            rfl⟩
      rcases ending with ⟨start, shape⟩
      rcases List.eq_nil_or_concat name with empty | ⟨initial, character, spelled⟩
      · rw [empty] at last
        cases last.1
      · rw [List.concat_eq_append] at spelled
        have clear : (character == '/') = false := by
          rw [beq_eq_false_iff_ne]
          intro same
          exact last.2 (by simp [spelled, same])
        rw [Text.rstripWhile, shape, spelled, ← List.append_assoc, List.reverse_append,
          List.reverse_singleton, List.singleton_append, List.dropWhile_cons_of_neg (by simp [clear])]
        simp
  simp only [directoryHasRegularDescendant, stripped, List.any_eq_true, Bool.and_eq_true,
    Text.startsWith, List.isPrefixOf_iff_prefix]
  constructor
  · intro found
    rcases found with ⟨item, inside, ⟨rest, joined⟩, regular⟩
    rcases (mem_walk_tree_entries tree item).mp inside with ⟨path, entry, _, kept, stored, built⟩
    subst built
    cases entry with
    | regular mode data =>
      have split := congrArg (Text.split '/') joined
      rw [split_relative_path tree path ‹_› (by rw [stored]; rfl), List.append_assoc,
        List.singleton_append] at split
      have parts : Text.split '/' (relativePath directory ++ '/' :: rest) =
          directory ++ Text.split '/' rest := by
        have joinedParts : relativePath directory ++ '/' :: rest =
            Text.join ['/'] (directory ++ Text.split '/' rest) := by
          rw [Text.join_append _ directory _ proper (Text.split_ne_nil '/' rest),
            Text.join_split]
          simp [relativePath]
        rw [joinedParts]
        apply Text.split_join '/' _ (by simp [proper])
        intro part among
        rcases List.mem_append.mp among with first | second
        · exact (names part first).2
        · exact Text.split_parts_free '/' rest part second
      rw [parts] at split
      rw [← split] at kept stored
      exact ⟨Text.split '/' rest, mode, data, Text.split_ne_nil '/' rest, kept, stored⟩
    | _ => cases regular
  · intro found
    rcases found with ⟨below, mode, data, belowProper, kept, stored⟩
    refine ⟨(relativePath (directory ++ below), .regular mode data), ?_, ?_, rfl⟩
    · rw [mem_walk_tree_entries]
      exact ⟨directory ++ below, _, by simp [proper], kept, stored, rfl⟩
    · rw [relativePath, relativePath, Text.join_append _ directory below proper belowProper]
      exact ⟨Text.join ['/'] below, rfl⟩

theorem mem_deleted_paths (base head : WorkTree) (rel : Text) :
    rel ∈ deletedPaths (walkTreeEntries base) (walkTreeEntries head) ↔
      ∃ path, path ≠ [] ∧ Kept path ∧ (base.listing.entry path).isSome = true ∧
        head.listing.entry path = none ∧ rel = relativePath path := by
  rw [deletedPaths, Text.mem_sorted_set, List.mem_filter, mem_walk_keys, Bool.not_eq_true',
    ← Bool.not_eq_true, List.contains_iff_mem, mem_walk_keys]
  constructor
  · intro found
    rcases found with ⟨⟨path, proper, kept, present, named⟩, lacks⟩
    refine ⟨path, proper, kept, present, ?_, named⟩
    rw [← Option.not_isSome_iff_eq_none]
    intro there
    exact lacks ⟨path, proper, kept, there, named⟩
  · intro found
    rcases found with ⟨path, proper, kept, present, absent, named⟩
    refine ⟨⟨path, proper, kept, present, named⟩, ?_⟩
    intro listed
    rcases listed with ⟨other, otherProper, _, there, otherNamed⟩
    have same : other = path := by
      rw [← split_relative_path head other otherProper there, ← otherNamed, named]
      exact split_relative_path base path proper present
    rw [same, absent] at there
    cases there

end EvoomGuard.Workspace.CandidateTree
