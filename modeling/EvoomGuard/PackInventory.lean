import EvoomGuard.Lib.PathOrder
import EvoomGuard.PackManifest

/-!
What the inventory of a pack of regular files holds, and in which order: the walk lists a
directory before it descends.
-/

namespace EvoomGuard.PackManifest

open Lib Lib.Framing

def Pack.OnlyFiles (pack : Pack) : Prop :=
  ∀ path node, pack.listing.entry path = some node → node = .directory ∨ ∃ mode data, node = .file mode data

def sortedDirectories (pack : Pack) (path : List Text) : List Text :=
  Text.sorted (pack.listing.subdirectories path)

def sortedFiles (pack : Pack) (path : List Text) : List Text :=
  Text.sorted (pack.listing.leaves path)

def walkedDirectories (pack : Pack) : List (List Text) :=
  Listing.collect (sortedDirectories pack) (sortedDirectories pack) (pack.listing.height + 1) []

def walkedFiles (pack : Pack) : List (List Text) :=
  Listing.collect (sortedFiles pack) (sortedDirectories pack) (pack.listing.height + 1) []

def dataAt (pack : Pack) (path : List Text) : ByteArray :=
  (fileData (pack.listing.entry path)).getD ByteArray.empty

def fileItem (pack : Pack) (path : List Text) : Text × ByteArray :=
  (relativePackPath path, dataAt pack path)

def PackEvent.directory? : PackEvent → Option Text
  | .directory rel _ => some rel
  | .file _ _ => none

def PackEvent.file? : PackEvent → Option (Text × ByteArray)
  | .directory _ _ => none
  | .file rel data => some (rel, data.getD ByteArray.empty)

/-- An event that passes its own checks. -/
def PackEvent.Sound : PackEvent → Prop
  | .directory _ real => real = true
  | .file _ data => ∃ content, data = some content ∧ content.size ≤ maxPackFileBytes

def sizeOfFiles (files : List (Text × ByteArray)) : Nat := (files.map fun file => file.2.size).sum

theorem inventory_from_ok (events : List PackEvent) (inventory : Inventory)
    (sound : ∀ event ∈ events, event.Sound)
    (count : inventory.directories.length + inventory.files.length +
      (events.filterMap PackEvent.directory?).length + (events.filterMap PackEvent.file?).length ≤
        maxPackEntries)
    (total : inventory.totalBytes + sizeOfFiles (events.filterMap PackEvent.file?) ≤ maxPackBytes) :
    inventoryFrom inventory events = .ok
      ⟨inventory.directories ++ events.filterMap PackEvent.directory?,
        inventory.files ++ events.filterMap PackEvent.file?,
        inventory.totalBytes + sizeOfFiles (events.filterMap PackEvent.file?)⟩ := by
  induction events generalizing inventory with
  | nil => simp [inventoryFrom, sizeOfFiles]
  | cons event rest ih =>
    have later := fun other inside => sound other (List.mem_cons_of_mem event inside)
    have first := sound event List.mem_cons_self
    cases event with
    | directory rel real =>
      simp only [PackEvent.Sound] at first
      subst first
      simp only [List.filterMap_cons, PackEvent.directory?, PackEvent.file?,
        List.length_cons] at count total ⊢
      rw [inventoryFrom, inventoryStep, requirePackEntryCount, if_neg (by
        simp only [List.length_append, List.length_cons, List.length_nil]
        omega)]
      have rests := ih { inventory with directories := inventory.directories ++ [rel] } later
        (by
          simp only [List.length_append, List.length_cons, List.length_nil]
          omega) total
      simpa using rests
    | file rel data =>
      rcases first with ⟨content, found, small⟩
      subst found
      simp only [List.filterMap_cons, PackEvent.directory?, PackEvent.file?,
        List.length_cons, Option.getD_some, sizeOfFiles, List.map_cons, List.sum_cons]
        at count total ⊢
      rw [inventoryFrom, inventoryStep, if_neg (by omega), if_neg (by omega),
        requirePackEntryCount, if_neg (by
          simp only [List.length_append, List.length_cons, List.length_nil]
          omega)]
      have rests := ih
        { inventory with
          files := inventory.files ++ [(rel, content)]
          totalBytes := inventory.totalBytes + content.size } later
        (by
          simp only [List.length_append, List.length_cons, List.length_nil]
          omega)
        (by
          simp only [sizeOfFiles]
          omega)
      simpa [sizeOfFiles, Nat.add_assoc] using rests

section

variable (pack : Pack) (onlyFiles : pack.OnlyFiles)

variable (path : List Text)

theorem mem_sorted_directories (name : Text) :
    name ∈ sortedDirectories pack path ↔ pack.listing.isDirectory (path ++ [name]) = true := by
  rw [sortedDirectories, Text.mem_sorted, Listing.mem_subdirectories]

theorem mem_sorted_files (name : Text) :
    name ∈ sortedFiles pack path ↔ (pack.listing.entry (path ++ [name])).isSome = true ∧
      pack.listing.isDirectory (path ++ [name]) = false := by
  rw [sortedFiles, Text.mem_sorted, Listing.mem_leaves]

theorem sorted_directories_nodup : (sortedDirectories pack path).Nodup :=
  ((Text.sorted_perm _).nodup_iff).mpr (pack.listing.subdirectories_nodup path)

theorem sorted_files_nodup : (sortedFiles pack path).Nodup :=
  ((Text.sorted_perm _).nodup_iff).mpr (pack.listing.leaves_nodup path)

include onlyFiles

theorem looks_like_directory (path : List Text) :
    pack.looksLikeDirectory path = pack.listing.isDirectory path := by
  unfold Pack.looksLikeDirectory Listing.isDirectory
  cases found : pack.listing.entry path with
  | none => rfl
  | some node =>
    rcases onlyFiles path node found with same | ⟨mode, data, same⟩ <;> subst same <;> rfl

theorem visit_at_pack (path : List Text) :
    pack.listing.visitAt pack.looksLikeDirectory (fun _ names => Text.sorted names) path =
      ⟨path, sortedDirectories pack path, pack.listing.leaves path⟩ := by
  simp only [Listing.visitAt, looks_like_directory pack onlyFiles]
  rfl

theorem walk_visits (fuel : Nat) (path : List Text) (visit : Visit Text)
    (visited : visit ∈ pack.listing.walkFrom pack.looksLikeDirectory
      (fun _ names => Text.sorted names) fuel path) :
    ∃ here, visit = ⟨here, sortedDirectories pack here, pack.listing.leaves here⟩ := by
  induction fuel generalizing path with
  | zero => cases visited
  | succ fuel ih =>
    simp only [Listing.walkFrom, visit_at_pack pack onlyFiles, List.mem_cons,
      List.mem_flatMap] at visited
    rcases visited with same | ⟨name, _, later⟩
    · exact ⟨path, same⟩
    · exact ih (path ++ [name]) later

theorem flat_map_walk {Value : Type} (read : Visit Text → List Value) (pick : List Text → List Text)
    (place : List Text → Value)
    (reads : ∀ path, read ⟨path, sortedDirectories pack path, pack.listing.leaves path⟩ =
      (pick path).map fun name => place (path ++ [name])) (fuel : Nat) (path : List Text) :
    (pack.listing.walkFrom pack.looksLikeDirectory (fun _ names => Text.sorted names) fuel
        path).flatMap read =
      (Listing.collect pick (sortedDirectories pack) fuel path).map place := by
  induction fuel generalizing path with
  | zero => rfl
  | succ fuel ih =>
    have real : (sortedDirectories pack path).filter
        (fun name => pack.listing.isDirectory (path ++ [name])) = sortedDirectories pack path := by
      rw [List.filter_eq_self]
      intro name inside
      exact (mem_sorted_directories pack path name).mp inside
    simp only [Listing.walkFrom, Listing.collect, visit_at_pack pack onlyFiles, real,
      List.flatMap_cons, reads, List.flatMap_assoc, ih, List.map_append, List.map_map,
      List.map_flatMap]
    rfl

end

section

variable (pack : Pack)

theorem mem_walked_directories (path : List Text) :
    path ∈ walkedDirectories pack ↔ path ≠ [] ∧ pack.listing.isDirectory path = true := by
  rw [walkedDirectories, pack.listing.mem_collect _ _ (mem_sorted_directories pack)]
  constructor
  · intro found
    rcases found with ⟨between, name, joined, _, inside, _⟩
    subst joined
    exact ⟨by simp, (mem_sorted_directories pack _ name).mp inside⟩
  · intro found
    rcases List.eq_nil_or_concat path with empty | ⟨between, name, joined⟩
    · exact absurd empty found.1
    · subst joined
      have present := pack.listing.is_some_of_directory _ found.2
      have bound := pack.listing.length_le_height _ present
      rw [List.concat_eq_append] at found present bound ⊢
      simp only [List.length_append, List.length_cons, List.length_nil] at bound
      exact ⟨between, name, by simp, by omega, (mem_sorted_directories pack _ name).mpr found.2,
        Or.inr (pack.listing.parent between name present)⟩

theorem mem_walked_files (path : List Text) :
    path ∈ walkedFiles pack ↔ (pack.listing.entry path).isSome = true ∧
      pack.listing.isDirectory path = false := by
  rw [walkedFiles, pack.listing.mem_collect _ _ (mem_sorted_directories pack)]
  constructor
  · intro found
    rcases found with ⟨between, name, joined, _, inside, _⟩
    subst joined
    exact (mem_sorted_files pack _ name).mp inside
  · intro found
    rcases List.eq_nil_or_concat path with empty | ⟨between, name, joined⟩
    · have root : pack.listing.isDirectory [] = true := pack.listing.root
      rw [empty, root] at found
      cases found.2
    · subst joined
      have bound := pack.listing.length_le_height _ found.1
      rw [List.concat_eq_append] at found bound ⊢
      simp only [List.length_append, List.length_cons, List.length_nil] at bound
      exact ⟨between, name, by simp, by omega, (mem_sorted_files pack _ name).mpr found,
        Or.inr (pack.listing.parent between name found.1)⟩

theorem walked_directories_nodup : (walkedDirectories pack).Nodup :=
  Listing.collect_nodup _ _ (sorted_directories_nodup pack) (sorted_directories_nodup pack) _ _

theorem walked_files_nodup : (walkedFiles pack).Nodup :=
  Listing.collect_nodup _ _ (sorted_files_nodup pack) (sorted_directories_nodup pack) _ _

theorem walked_count :
    (walkedDirectories pack).length + (walkedFiles pack).length + 1 ≤ pack.listing.paths.length := by
  have all : ([] :: (walkedDirectories pack ++ walkedFiles pack)).Nodup := by
    rw [List.nodup_cons, List.nodup_append, List.mem_append, mem_walked_directories,
      mem_walked_files]
    refine ⟨?_, walked_directories_nodup pack, walked_files_nodup pack, ?_⟩
    · intro found
      rcases found with directory | file
      · exact directory.1 rfl
      · have root : pack.listing.isDirectory [] = true := pack.listing.root
        rw [root] at file
        cases file.2
    · intro left inLeft right inRight same
      subst same
      rw [mem_walked_directories] at inLeft
      rw [mem_walked_files, inLeft.2] at inRight
      cases inRight.2
  have inside : ([] :: (walkedDirectories pack ++ walkedFiles pack)) ⊆ pack.listing.paths := by
    intro path found
    rw [pack.listing.complete]
    simp only [List.mem_cons, List.mem_append, mem_walked_directories, mem_walked_files] at found
    rcases found with empty | directory | file
    · subst empty
      exact pack.listing.is_some_of_directory [] pack.listing.root
    · exact pack.listing.is_some_of_directory path directory.2
    · exact file.1
  have bound := (List.subperm_of_subset all inside).length_le
  simp only [List.length_cons, List.length_append] at bound
  omega

end

/-- The resource limits of the intake, as facts about the tree. -/
structure Pack.WithinLimits (pack : Pack) : Prop where
  entries : pack.listing.paths.length ≤ maxPackEntries + 1
  files : ∀ path mode data, pack.listing.entry path = some (.file mode data) →
    data.size ≤ maxPackFileBytes
  total : ((pack.listing.paths.filter fun path => !pack.listing.isDirectory path).map fun path =>
    (dataAt pack path).size).sum ≤ maxPackBytes

theorem walked_total (pack : Pack) (limits : pack.WithinLimits) :
    sizeOfFiles ((walkedFiles pack).map (fileItem pack)) ≤ maxPackBytes := by
  have same : (walkedFiles pack).Perm
      (pack.listing.paths.filter fun path => !pack.listing.isDirectory path) := by
    rw [List.perm_ext_iff_of_nodup (walked_files_nodup pack) (pack.listing.distinct.filter _)]
    intro path
    rw [mem_walked_files, List.mem_filter, pack.listing.complete, Bool.not_eq_true']
  have sums := (same.map fun path => (dataAt pack path).size).sum_nat
  have total := limits.total
  rw [← sums] at total
  simpa [sizeOfFiles, List.map_map, Function.comp_def, fileItem] using total

section Inventory

variable (pack : Pack) (onlyFiles : pack.OnlyFiles) (limits : pack.WithinLimits)

include onlyFiles

theorem file_of_leaf (path : List Text) (present : (pack.listing.entry path).isSome = true)
    (leaf : pack.listing.isDirectory path = false) :
    ∃ mode data, pack.listing.entry path = some (.file mode data) := by
  rcases Option.isSome_iff_exists.mp present with ⟨node, found⟩
  rcases onlyFiles path node found with same | ⟨mode, data, same⟩
  · subst same
    rw [Listing.isDirectory, found] at leaf
    cases leaf
  · exact ⟨mode, data, by rw [found, same]⟩

include limits

theorem walk_events_sound :
    ∀ event ∈ (packWalk pack).flatMap (visitEvents pack), event.Sound := by
  intro event inside
  rcases List.mem_flatMap.mp inside with ⟨visit, visited, found⟩
  rcases walk_visits pack onlyFiles _ [] visit visited with ⟨path, same⟩
  subst same
  simp only [visitEvents, List.mem_append, List.mem_map] at found
  rcases found with ⟨name, listed, built⟩ | ⟨name, listed, built⟩
  · subst built
    exact (mem_sorted_directories pack path name).mp listed
  · subst built
    have leaf := (mem_sorted_files pack path name).mp listed
    rcases file_of_leaf pack onlyFiles _ leaf.1 leaf.2 with ⟨mode, data, stored⟩
    exact ⟨data, by rw [stored]; rfl, limits.files _ mode data stored⟩

theorem pack_inventory_ok :
    packInventory pack = .ok
      ⟨(walkedDirectories pack).map relativePackPath, (walkedFiles pack).map (fileItem pack),
        sizeOfFiles ((walkedFiles pack).map (fileItem pack))⟩ := by
  have directories : ((packWalk pack).flatMap (visitEvents pack)).filterMap
      PackEvent.directory? = (walkedDirectories pack).map relativePackPath := by
    rw [List.filterMap_flatMap]
    apply flat_map_walk pack onlyFiles _ (sortedDirectories pack) relativePackPath
    intro path
    simp [visitEvents, List.filterMap_append, List.filterMap_map, Function.comp_def,
      PackEvent.directory?]
  have files : ((packWalk pack).flatMap (visitEvents pack)).filterMap PackEvent.file? =
      (walkedFiles pack).map (fileItem pack) := by
    rw [List.filterMap_flatMap]
    apply flat_map_walk pack onlyFiles _ (sortedFiles pack) (fileItem pack)
    intro path
    simp [visitEvents, List.filterMap_append, List.filterMap_map, Function.comp_def,
      PackEvent.file?, fileItem, dataAt, sortedFiles]
  have sound := walk_events_sound pack onlyFiles limits
  have count := walked_count pack
  have entries := limits.entries
  have total := walked_total pack limits
  unfold packInventory
  rw [inventory_from_ok _ {} sound]
  · rw [directories, files]
    simp
  · rw [directories, files, List.length_map, List.length_map]
    simp only [List.length_nil]
    omega
  · rw [files]
    simpa using total

end Inventory

end EvoomGuard.PackManifest
