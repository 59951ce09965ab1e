import EvoomGuard.PackInventory

/-!
When the walk of a pack lists its directories and its files in the order of their paths: a
condition on the names in each directory.
-/

namespace EvoomGuard.PackManifest

open Lib

/-- Every directory holds something. -/
def Pack.NoEmptyDirectory (pack : Pack) : Prop :=
  ∀ path, pack.listing.isDirectory path = true →
    ∃ name, (pack.listing.entry (path ++ [name])).isSome = true

/-- In one directory: a file sorts before every subdirectory with a slash, the subdirectories
sort alike with a slash, and only the last of them has subdirectories of its own. -/
structure Pack.NamesAscend (pack : Pack) (path : List Text) : Prop where
  files : ∀ file ∈ pack.listing.leaves path, ∀ below ∈ pack.listing.subdirectories path,
    Text.le file (below ++ ['/']) = true
  directories : ∀ first ∈ pack.listing.subdirectories path,
    ∀ second ∈ pack.listing.subdirectories path, first ≠ second → Text.le first second = true →
    Text.le (first ++ ['/']) (second ++ ['/']) = true
  deepest : ∀ first ∈ pack.listing.subdirectories path,
    ∀ second ∈ pack.listing.subdirectories path,
    pack.listing.subdirectories (path ++ [second]) ≠ [] → Text.le first second = true

def Pack.WalkAscends (pack : Pack) : Prop :=
  ∀ path, pack.listing.isDirectory path = true → pack.NamesAscend path

section Order

variable (pack : Pack)

variable (path : List Text)

theorem subdirectory_free (name : Text)
    (inside : name ∈ sortedDirectories pack path) : '/' ∉ name :=
  pack.slashFree path name (pack.listing.is_some_of_directory _
    ((mem_sorted_directories pack path name).mp inside))

theorem leaf_free (name : Text) (inside : name ∈ sortedFiles pack path) :
    '/' ∉ name :=
  pack.slashFree path name ((mem_sorted_files pack path name).mp inside).1

theorem file_below (full : pack.NoEmptyDirectory) (path : List Text)
    (directory : pack.listing.isDirectory path = true) :
    ∃ below, below ≠ [] ∧ (pack.listing.entry (path ++ below)).isSome = true ∧
      pack.listing.isDirectory (path ++ below) = false := by
  have bounded : ∀ levels (path : List Text), pack.listing.height < path.length + levels →
      pack.listing.isDirectory path = true →
      ∃ below, below ≠ [] ∧ (pack.listing.entry (path ++ below)).isSome = true ∧
        pack.listing.isDirectory (path ++ below) = false := by
    -- Induction on how many levels there can still be.
    intro levels
    induction levels with
    | zero =>
      intro path deep directory
      have bound := pack.listing.length_le_height path
        (pack.listing.is_some_of_directory path directory)
      omega
    | succ levels ih =>
      intro path deep directory
      rcases full path directory with ⟨name, present⟩
      cases kind : pack.listing.isDirectory (path ++ [name]) with
      | false => exact ⟨[name], by simp, present, kind⟩
      | true =>
        rcases ih (path ++ [name]) (by
          simp only [List.length_append, List.length_cons, List.length_nil]
          omega) kind with ⟨below, proper, found, leaf⟩
        exact ⟨name :: below, by simp, by simpa using found, by simpa using leaf⟩
  exact bounded (pack.listing.height + 1) path (by omega) directory

theorem files_fruitful (full : pack.NoEmptyDirectory) (path : List Text) (remaining : Nat)
    (room : path.length + remaining = pack.listing.height + 1)
    (directory : pack.listing.isDirectory path = true) :
    Listing.collect (sortedFiles pack) (sortedDirectories pack) remaining path ≠ [] := by
  rcases file_below pack full path directory with ⟨below, proper, present, leaf⟩
  rcases List.eq_nil_or_concat below with empty | ⟨between, name, joined⟩
  · exact absurd empty proper
  · rw [List.concat_eq_append] at joined
    subst joined
    rw [← List.append_assoc] at present leaf
    have bound := pack.listing.length_le_height _ present
    simp only [List.length_append, List.length_cons, List.length_nil] at bound
    apply List.ne_nil_of_mem
    rw [pack.listing.mem_collect _ _ (mem_sorted_directories pack)]
    exact ⟨between, name, rfl, by omega, (mem_sorted_files pack _ name).mpr ⟨present, leaf⟩,
      Or.inr (pack.listing.parent _ name present)⟩

theorem directories_fruitful (remaining : Nat)
    (room : path.length + remaining = pack.listing.height + 1) :
    Listing.collect (sortedDirectories pack) (sortedDirectories pack) remaining path ≠ [] ↔
      pack.listing.subdirectories path ≠ [] := by
  constructor
  · intro fruitful empty
    apply fruitful
    cases remaining with
    | zero => rfl
    | succ remaining =>
      have none : sortedDirectories pack path = [] := by
        rw [sortedDirectories, empty]
        rfl
      simp [Listing.collect, none]
  · intro present
    rcases List.exists_mem_of_ne_nil _ present with ⟨name, inside⟩
    have directory := (pack.listing.mem_subdirectories path name).mp inside
    have bound := pack.listing.length_le_height _ (pack.listing.is_some_of_directory _ directory)
    simp only [List.length_append, List.length_cons, List.length_nil] at bound
    apply List.ne_nil_of_mem
    rw [pack.listing.mem_collect _ _ (mem_sorted_directories pack)]
    exact ⟨[], name, rfl, by simp; omega, by simpa [sortedDirectories, Text.mem_sorted] using inside,
      Or.inl rfl⟩

theorem sorted_directories_pairwise :
    (sortedDirectories pack path).Pairwise fun left right => Text.le left right = true :=
  Text.sorted_pairwise _

theorem sorted_files_pairwise :
    (sortedFiles pack path).Pairwise fun left right => Text.le left right = true :=
  Text.sorted_pairwise _

theorem walk_ascending_iff (pick : List Text → List Text)
    (pickFree : ∀ path, ∀ name ∈ pick path, '/' ∉ name)
    (pickSorted : ∀ path, (pick path).Pairwise fun left right => Text.le left right = true) :
    Listing.Ascending (Listing.collect pick (sortedDirectories pack) (pack.listing.height + 1) []) ↔
      ∀ path, pack.listing.isDirectory path = true →
        Listing.AscendsAt pick (sortedDirectories pack) (pack.listing.height - path.length) path := by
  rw [pack.listing.collect_ascending_iff _ _ pickFree (subdirectory_free pack) pickSorted
    (sorted_directories_pairwise pack) (sorted_directories_nodup pack) (mem_sorted_directories pack)]
  constructor
  · intro levels path directory
    have bound := pack.listing.length_le_height path
      (pack.listing.is_some_of_directory path directory)
    exact levels path _ (by omega) (Or.inr directory)
  · intro levels between remaining room inside
    have directory : pack.listing.isDirectory between = true := by
      rcases inside with empty | found
      · subst empty
        exact pack.listing.root
      · exact found
    have same : remaining = pack.listing.height - between.length := by omega
    rw [same]
    exact levels between directory

theorem child_room (name : Text)
    (inside : name ∈ pack.listing.subdirectories path) :
    (path ++ [name]).length + (pack.listing.height - path.length) = pack.listing.height + 1 := by
  have directory := (pack.listing.mem_subdirectories path name).mp inside
  have bound := pack.listing.length_le_height _ (pack.listing.is_some_of_directory _ directory)
  simp only [List.length_append, List.length_cons, List.length_nil] at bound ⊢
  omega

theorem files_ascend_iff (full : pack.NoEmptyDirectory) (path : List Text) :
    Listing.AscendsAt (sortedFiles pack) (sortedDirectories pack)
        (pack.listing.height - path.length) path ↔
      (∀ file ∈ pack.listing.leaves path, ∀ below ∈ pack.listing.subdirectories path,
        Text.le file (below ++ ['/']) = true) ∧
      ∀ first ∈ pack.listing.subdirectories path, ∀ second ∈ pack.listing.subdirectories path,
        first ≠ second → Text.le first second = true →
        Text.le (first ++ ['/']) (second ++ ['/']) = true := by
  have fruitful (name : Text) (inside : name ∈ pack.listing.subdirectories path) :
      Listing.collect (sortedFiles pack) (sortedDirectories pack)
        (pack.listing.height - path.length) (path ++ [name]) ≠ [] :=
    files_fruitful pack full _ _ (child_room pack path name inside)
      ((pack.listing.mem_subdirectories path name).mp inside)
  have files (name : Text) : name ∈ sortedFiles pack path ↔ name ∈ pack.listing.leaves path :=
    Text.mem_sorted
  have directories (name : Text) :
      name ∈ sortedDirectories pack path ↔ name ∈ pack.listing.subdirectories path :=
    Text.mem_sorted
  constructor
  · intro ascends
    constructor
    · intro file picked below entering
      exact ascends.before file ((files file).mpr picked) below ((directories below).mpr entering)
        (fruitful below entering)
    · intro first firstInside second secondInside apart sorted
      exact ascends.between first ((directories first).mpr firstInside) second
        ((directories second).mpr secondInside) apart sorted (fruitful first firstInside)
        (fruitful second secondInside)
  · intro ascends
    constructor
    · intro file picked below entering _
      exact ascends.1 file ((files file).mp picked) below ((directories below).mp entering)
    · intro first firstInside second secondInside apart sorted _ _
      exact ascends.2 first ((directories first).mp firstInside) second
        ((directories second).mp secondInside) apart sorted

/-- Where the subdirectories sort alike with a slash, the walk of the directories asks for nothing
but that the last one is the only one to have subdirectories. -/
theorem directories_ascend_iff (alike : ∀ first ∈ pack.listing.subdirectories path,
      ∀ second ∈ pack.listing.subdirectories path, first ≠ second → Text.le first second = true →
      Text.le (first ++ ['/']) (second ++ ['/']) = true) :
    Listing.AscendsAt (sortedDirectories pack) (sortedDirectories pack)
        (pack.listing.height - path.length) path ↔
      ∀ first ∈ pack.listing.subdirectories path, ∀ second ∈ pack.listing.subdirectories path,
        pack.listing.subdirectories (path ++ [second]) ≠ [] → Text.le first second = true := by
  have directories (name : Text) :
      name ∈ sortedDirectories pack path ↔ name ∈ pack.listing.subdirectories path :=
    Text.mem_sorted
  have slash (first second : Text) (firstInside : first ∈ pack.listing.subdirectories path)
      (secondInside : second ∈ pack.listing.subdirectories path) :=
    Text.le_slash_iff first second
      (subdirectory_free pack path first ((directories first).mpr firstInside))
      fun apart below => alike second secondInside first firstInside (Ne.symm apart) below
  constructor
  · intro ascends first firstInside second secondInside branching
    rw [← slash first second firstInside secondInside]
    exact ascends.before first ((directories first).mpr firstInside) second
      ((directories second).mpr secondInside)
      ((directories_fruitful pack _ _ (child_room pack path second secondInside)).mpr branching)
  · intro deepest
    constructor
    · intro first firstInside second secondInside fruitful
      rw [directories] at firstInside secondInside
      rw [slash first second firstInside secondInside]
      exact deepest first firstInside second secondInside
        ((directories_fruitful pack _ _ (child_room pack path second secondInside)).mp fruitful)
    · intro first firstInside second secondInside apart sorted _ _
      exact alike first ((directories first).mp firstInside) second
        ((directories second).mp secondInside) apart sorted

theorem walk_ascends_iff (full : pack.NoEmptyDirectory) :
    (Listing.Ascending (walkedDirectories pack) ∧ Listing.Ascending (walkedFiles pack)) ↔
      pack.WalkAscends := by
  rw [walkedDirectories, walkedFiles,
    walk_ascending_iff pack _ (subdirectory_free pack) (sorted_directories_pairwise pack),
    walk_ascending_iff pack _ (leaf_free pack) (sorted_files_pairwise pack)]
  constructor
  · intro ascends path directory
    have files := (files_ascend_iff pack full path).mp (ascends.2 path directory)
    exact ⟨files.1, files.2,
      (directories_ascend_iff pack path files.2).mp (ascends.1 path directory)⟩
  · intro ascends
    constructor
    · intro path directory
      have names := ascends path directory
      exact (directories_ascend_iff pack path names.directories).mpr names.deepest
    · intro path directory
      have names := ascends path directory
      exact (files_ascend_iff pack full path).mpr ⟨names.files, names.directories⟩

end Order

end EvoomGuard.PackManifest
