import Mathlib.Data.List.Nodup
import Mathlib.Data.List.Induction

/-!
Finite directory trees: a map from component lists to entries together with an enumeration of
its domain, in whatever order the file system lists it, and the top-down `os.walk` over it. The
caller of a walk may prune and reorder the directory names before the walk descends.
-/

namespace EvoomGuard.Lib

/-- A finite tree. What lies above an entry is a directory. -/
structure Listing (Name : Type*) {Entry : Type*} (directory : Entry → Bool) where
  entry : List Name → Option Entry
  paths : List (List Name)
  distinct : paths.Nodup
  complete : ∀ path, path ∈ paths ↔ (entry path).isSome = true
  root : (entry []).any directory = true
  parent : ∀ path name, (entry (path ++ [name])).isSome = true → (entry path).any directory = true

/-- What `os.walk` yields for one directory. -/
structure Visit (Name : Type*) where
  path : List Name
  dirnames : List Name
  filenames : List Name

namespace Listing

variable {Name Entry : Type*} {directory : Entry → Bool} (listing : Listing Name directory)

def isDirectory (path : List Name) : Bool := (listing.entry path).any directory

theorem is_directory_of_below (path below : List Name) (proper : below ≠ [])
    (present : (listing.entry (path ++ below)).isSome = true) : listing.isDirectory path = true := by
  induction below using List.reverseRecOn with
  | nil => exact absurd rfl proper
  | append_singleton init name ih =>
    rw [← List.append_assoc] at present
    have above := listing.parent (path ++ init) name present
    by_cases last : init = []
    · rw [last, List.append_nil] at above
      exact above
    · apply ih last
      rw [Option.isSome_iff_ne_none]
      intro absent
      rw [absent] at above
      cases above

theorem is_some_of_directory (path : List Name) (present : listing.isDirectory path = true) :
    (listing.entry path).isSome = true := by
  unfold isDirectory at present
  cases found : listing.entry path with
  | none =>
    rw [found] at present
    cases present
  | some entry => rfl

theorem is_directory_between (path rest : List Name)
    (below : listing.isDirectory (path ++ rest) = true) : listing.isDirectory path = true := by
  by_cases last : rest = []
  · rwa [last, List.append_nil] at below
  · exact listing.is_directory_of_below path rest last (listing.is_some_of_directory _ below)

/-- What holds of every name that an entry is under holds of every part of a path to one. -/
theorem parts_of_named {named : Name → Prop}
    (each : ∀ path name, (listing.entry (path ++ [name])).isSome = true → named name)
    (path : List Name) (present : (listing.entry path).isSome = true) :
    ∀ part ∈ path, named part := by
  induction path using List.reverseRecOn with
  | nil => exact fun _ inside => nomatch inside
  | append_singleton above name ih =>
    intro part inside
    rcases List.mem_append.mp inside with earlier | last
    · exact ih (listing.is_some_of_directory above (listing.parent above name present)) part earlier
    · rw [List.mem_singleton.mp last]
      exact each above name present

section OfEntries

variable [DecidableEq Name]

def entryIn (entries : List (List Name × Entry)) (path : List Name) : Option Entry :=
  (entries.find? fun item => item.1 = path).map Prod.snd

theorem mem_of_entry_in (entries : List (List Name × Entry)) (path : List Name) (entry : Entry)
    (found : entryIn entries path = some entry) : (path, entry) ∈ entries := by
  rw [entryIn, Option.map_eq_some_iff] at found
  rcases found with ⟨item, first, same⟩
  have named : item.1 = path := by simpa using List.find?_some first
  rw [← named, ← same]
  exact List.mem_of_find?_eq_some first

theorem entry_in_is_some (entries : List (List Name × Entry)) (path : List Name) :
    (entryIn entries path).isSome = true ↔ path ∈ entries.map Prod.fst := by
  rw [entryIn, Option.isSome_map, List.find?_isSome, List.mem_map]
  simp only [decide_eq_true_eq]

/-- A tree given by its entries. -/
def ofEntries (entries : List (List Name × Entry)) (distinct : (entries.map Prod.fst).Nodup)
    (root : (entryIn entries []).any directory = true)
    (parent : ∀ item ∈ entries, item.1 ≠ [] →
      (entryIn entries item.1.dropLast).any directory = true) : Listing Name directory where
  entry := entryIn entries
  paths := entries.map Prod.fst
  distinct := distinct
  complete := fun path => (entry_in_is_some entries path).symm
  root := root
  parent := by
    intro path name present
    rw [entry_in_is_some, List.mem_map] at present
    rcases present with ⟨item, inside, same⟩
    have above := parent item inside (by simp [same])
    rwa [same, List.dropLast_concat] at above

end OfEntries

/-- No path is longer. -/
def height : Nat := (listing.paths.map List.length).foldr max 0

theorem length_le_height (path : List Name) (present : (listing.entry path).isSome = true) :
    path.length ≤ listing.height := by
  have bounded (paths : List (List Name)) (inside : path ∈ paths) :
      path.length ≤ (paths.map List.length).foldr max 0 := by
    induction paths with
    | nil => cases inside
    | cons other rest ih =>
      rw [List.map_cons, List.foldr_cons]
      rcases List.mem_cons.mp inside with same | later
      · rw [same]
        exact Nat.le_max_left _ _
      · exact Nat.le_trans (ih later) (Nat.le_max_right _ _)
  exact bounded listing.paths ((listing.complete path).mpr present)

section Names

variable [DecidableEq Name]

def nameIn (above path : List Name) : Option Name :=
  if path.dropLast = above then path.getLast? else none

def names (path : List Name) : List Name := listing.paths.filterMap (nameIn path)

theorem name_in_iff (above path : List Name) (name : Name) :
    nameIn above path = some name ↔ path = above ++ [name] := by
  unfold nameIn
  constructor
  · intro found
    split_ifs at found with same
    rw [List.getLast?_eq_some_iff] at found
    rcases found with ⟨init, joined⟩
    rw [joined, List.dropLast_concat] at same
    rw [joined, same]
  · intro joined
    rw [joined, List.dropLast_concat, if_pos rfl, List.getLast?_concat]

variable (path : List Name)

theorem mem_names (name : Name) :
    name ∈ listing.names path ↔ (listing.entry (path ++ [name])).isSome = true := by
  rw [← listing.complete, names, List.mem_filterMap]
  constructor
  · intro found
    rcases found with ⟨other, inside, named⟩
    rw [← (name_in_iff path other name).mp named]
    exact inside
  · intro inside
    exact ⟨path ++ [name], inside, (name_in_iff path _ name).mpr rfl⟩

theorem names_nodup : (listing.names path).Nodup := by
  apply listing.distinct.filterMap
  intro left right name leftNamed rightNamed
  rw [(name_in_iff path left name).mp leftNamed, (name_in_iff path right name).mp rightNamed]

/-- The subdirectories of a directory; links to directories are listed with them and not
entered. -/
def subdirectories (path : List Name) : List Name :=
  (listing.names path).filter fun name => listing.isDirectory (path ++ [name])

def leaves (path : List Name) : List Name :=
  (listing.names path).filter fun name => !listing.isDirectory (path ++ [name])

theorem mem_subdirectories (name : Name) :
    name ∈ listing.subdirectories path ↔ listing.isDirectory (path ++ [name]) = true := by
  rw [subdirectories, List.mem_filter, mem_names]
  constructor
  · intro found
    exact found.2
  · intro present
    exact ⟨listing.is_some_of_directory _ present, present⟩

theorem mem_leaves (name : Name) :
    name ∈ listing.leaves path ↔ (listing.entry (path ++ [name])).isSome = true ∧
      listing.isDirectory (path ++ [name]) = false := by
  rw [leaves, List.mem_filter, mem_names, Bool.not_eq_true']

theorem subdirectories_nodup : (listing.subdirectories path).Nodup :=
  (listing.names_nodup path).filter _

theorem leaves_nodup : (listing.leaves path).Nodup :=
  (listing.names_nodup path).filter _

section Walk

-- `looksLikeDirectory` is the answer of `DirEntry.is_dir`, which follows a link.
variable (looksLikeDirectory : List Name → Bool) (choose : List Name → List Name → List Name)

def visitAt (path : List Name) : Visit Name where
  path := path
  dirnames := choose path ((listing.names path).filter fun name =>
    looksLikeDirectory (path ++ [name]))
  filenames := (listing.names path).filter fun name => !looksLikeDirectory (path ++ [name])

def walkFrom : Nat → List Name → List (Visit Name)
  | 0, _ => []
  | fuel + 1, path =>
    let visit := visitAt listing looksLikeDirectory choose path
    visit :: (visit.dirnames.filter fun name => listing.isDirectory (path ++ [name])).flatMap
      fun name => walkFrom fuel (path ++ [name])

/-- `os.walk(root)`: as deep as there are entries. -/
def walk : List (Visit Name) :=
  walkFrom listing looksLikeDirectory choose (listing.height + 1) []

/-- Where the caller keeps names by themselves, the walk enters the directories all of whose
names are kept. -/
theorem mem_walk_keeping (keep : Name → Bool)
    (real : ∀ path, listing.isDirectory path = true → looksLikeDirectory path = true)
    (fuel : Nat) (path : List Name) (visit : Visit Name) :
    visit ∈ walkFrom listing looksLikeDirectory (fun _ names => names.filter keep) fuel path ↔
      ∃ between, visit = visitAt listing looksLikeDirectory (fun _ names => names.filter keep)
          (path ++ between) ∧ between.length < fuel ∧ (∀ name ∈ between, keep name = true) ∧
        (between = [] ∨ listing.isDirectory (path ++ between) = true) := by
  induction fuel generalizing path with
  | zero => simp [walkFrom]
  | succ fuel ih =>
    have entered (name : Name) : name ∈ (visitAt listing looksLikeDirectory
          (fun _ names => names.filter keep) path).dirnames.filter
          (fun name => listing.isDirectory (path ++ [name])) ↔
        keep name = true ∧ listing.isDirectory (path ++ [name]) = true := by
      simp only [visitAt, List.mem_filter, mem_names]
      constructor
      · intro found
        exact ⟨found.1.2, found.2⟩
      · intro found
        exact ⟨⟨⟨listing.is_some_of_directory _ found.2, real _ found.2⟩, found.1⟩, found.2⟩
    simp only [walkFrom, List.mem_cons, List.mem_flatMap, entered]
    constructor
    · intro found
      rcases found with here | ⟨name, ⟨kept, below⟩, later⟩
      · exact ⟨[], by simpa using here, by simp, by simp, Or.inl rfl⟩
      · rcases (ih (path ++ [name])).mp later with ⟨between, same, short, keeps, inside⟩
        refine ⟨name :: between, by simpa using same, by simpa using short, ?_, Or.inr ?_⟩
        · intro other among
          rcases List.mem_cons.mp among with first | rest
          · rw [first]
            exact kept
          · exact keeps other rest
        · rcases inside with empty | deeper
          · subst empty
            exact below
          · simpa using deeper
    · intro found
      rcases found with ⟨between, same, short, keeps, inside⟩
      cases between with
      | nil => exact Or.inl (by simpa using same)
      | cons name rest =>
        have below : listing.isDirectory (path ++ [name] ++ rest) = true := by
          rcases inside with empty | deeper
          · cases empty
          · simpa using deeper
        have here := listing.is_directory_between _ rest below
        apply Or.inr
        refine ⟨name, ⟨keeps name List.mem_cons_self, here⟩, (ih (path ++ [name])).mpr
          ⟨rest, by simpa using same, by simpa using short, ?_, Or.inr below⟩⟩
        exact fun other among => keeps other (List.mem_cons_of_mem _ among)

end Walk

end Names

section

-- `pick` names what is collected in a directory, `descend` the directories entered from it.
variable (pick descend : List Name → List Name)

def collect : Nat → List Name → List (List Name)
  | 0, _ => []
  | fuel + 1, path =>
    (pick path).map (fun name => path ++ [name]) ++
      (descend path).flatMap fun name => collect fuel (path ++ [name])

variable (entered : ∀ path name, name ∈ descend path ↔ listing.isDirectory (path ++ [name]) = true)

include entered

theorem mem_collect (fuel : Nat) (path target : List Name) :
    target ∈ collect pick descend fuel path ↔
      ∃ between name, target = path ++ between ++ [name] ∧ between.length < fuel ∧
        name ∈ pick (path ++ between) ∧
        (between = [] ∨ listing.isDirectory (path ++ between) = true) := by
  induction fuel generalizing path with
  | zero => simp [collect]
  | succ fuel ih =>
    simp only [collect, List.mem_append, List.mem_map, List.mem_flatMap]
    constructor
    · intro found
      rcases found with ⟨name, picked, joined⟩ | ⟨step, entering, later⟩
      · exact ⟨[], name, by simp [← joined], by simp, by simpa using picked, Or.inl rfl⟩
      · rcases (ih (path ++ [step])).mp later with ⟨between, name, joined, short, picked, inside⟩
        refine ⟨step :: between, name, by simp [joined], by simpa using short,
          by simpa using picked, Or.inr ?_⟩
        rcases inside with empty | directoryBelow
        · subst empty
          exact (entered path step).mp entering
        · simpa using directoryBelow
    · intro found
      rcases found with ⟨between, name, joined, short, picked, inside⟩
      cases between with
      | nil => exact Or.inl ⟨name, by simpa using picked, by simp [joined]⟩
      | cons step rest =>
        have below : listing.isDirectory (path ++ step :: rest) = true := by
          rcases inside with empty | below
          · cases empty
          · exact below
        have grouped : path ++ step :: rest = path ++ [step] ++ rest := by simp
        rw [grouped] at below
        have here := listing.is_directory_between _ rest below
        apply Or.inr
        refine ⟨step, (entered path step).mpr here, (ih (path ++ [step])).mpr
          ⟨rest, name, by simp [joined], by simpa using short, by simpa using picked, ?_⟩⟩
        exact Or.inr below

omit entered in
theorem collect_below (fuel : Nat) (path target : List Name)
    (inside : target ∈ collect pick descend fuel path) :
    ∃ below, below ≠ [] ∧ target = path ++ below := by
  induction fuel generalizing path with
  | zero => cases inside
  | succ fuel ih =>
    simp only [collect, List.mem_append, List.mem_map, List.mem_flatMap] at inside
    rcases inside with ⟨name, _, joined⟩ | ⟨step, _, later⟩
    · exact ⟨[name], by simp, joined.symm⟩
    · rcases ih (path ++ [step]) later with ⟨below, _, joined⟩
      exact ⟨step :: below, by simp, by simp [joined]⟩

omit entered in
theorem collect_nodup (picked : ∀ path, (pick path).Nodup) (chosen : ∀ path, (descend path).Nodup)
    (fuel : Nat) (path : List Name) : (collect pick descend fuel path).Nodup := by
  induction fuel generalizing path with
  | zero => exact List.nodup_nil
  | succ fuel ih =>
    rw [collect, List.nodup_append]
    refine ⟨(picked path).map (fun left right same => by simpa using same), ?_, ?_⟩
    · rw [List.nodup_flatMap]
      constructor
      · intro step _
        exact ih (path ++ [step])
      · apply (chosen path).imp
        intro left right apart target inLeft inRight
        rcases collect_below pick descend fuel _ target inLeft with ⟨first, _, joinedLeft⟩
        rcases collect_below pick descend fuel _ target inRight with ⟨second, _, joinedRight⟩
        rw [joinedLeft, List.append_assoc, List.append_assoc] at joinedRight
        exact apart (List.cons.inj (List.append_cancel_left joinedRight)).1
    · intro target here other below same
      subst same
      simp only [List.mem_map] at here
      simp only [List.mem_flatMap] at below
      rcases here with ⟨name, _, joined⟩
      rcases below with ⟨step, _, later⟩
      rcases collect_below pick descend fuel _ target later with ⟨rest, proper, deeper⟩
      rw [← joined, List.append_assoc] at deeper
      have lengths := congrArg List.length (List.append_cancel_left deeper)
      have positive := List.length_pos_iff.mpr proper
      simp only [List.length_append, List.length_cons, List.length_nil] at lengths
      omega

end

end Listing

end EvoomGuard.Lib
