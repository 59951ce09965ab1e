import EvoomGuard.Finalizer.RawGit
import EvoomGuard.PackOrder

/-!
The two identities of one verifier pack: the one a judge takes from a checkout and the one the
finalizer takes from the Git tree. Both hash the same records; the walk of the checkout and the
sorted list of paths put them in order.
-/

namespace EvoomGuard.Finalizer

open Lib Lib.Framing PackManifest Verifiers

/-- The hashed bytes of directories and files in a given order. -/
def packStream (directories : List Text) (files : List (Text × ByteArray)) : Bytes :=
  packHeader ++ (records directoryRecord directories ++ records fileRecord files)

/-! The framing of a pack -/

def packRecord : Text ⊕ (Text × ByteArray) → Bytes := Sum.elim directoryRecord fileRecord

def FramedDirectory (rel : Text) : Prop := (utf8 rel).length < 2 ^ 64

def FramedFile (file : Text × ByteArray) : Prop :=
  (utf8 file.1).length < 2 ^ 64 ∧ file.2.size < 2 ^ 64

theorem data_bytes_injective : Function.Injective dataBytes := by
  intro left right same
  exact ByteArray.ext (Array.toList_inj.mp same)

theorem pack_record_delimits :
    SelfDelimiting (Sum.elim FramedDirectory FramedFile) packRecord := by
  have tags : (68 : UInt8) ≠ 70 := by decide
  have paths : SelfDelimiting FramedDirectory fun rel => blob (utf8 rel) :=
    comap_delimits blob_delimits utf8 utf8_injective
  have contents : SelfDelimiting (fun data : ByteArray => data.size < 2 ^ 64)
      fun data => blob (dataBytes data) := by
    have read := comap_delimits blob_delimits dataBytes data_bytes_injective
    simpa only [dataBytes, Array.length_toList, ByteArray.size] using read
  have framed := sum_delimits 68 70 tags paths (pair_delimits paths contents)
  have same : packRecord = Sum.elim (fun rel => (68 : UInt8) :: blob (utf8 rel))
      (fun file : Text × ByteArray => (70 : UInt8) :: (blob (utf8 file.1) ++
        blob (dataBytes file.2))) := by
    funext record
    cases record with
    | inl rel => rfl
    | inr file =>
      simp only [packRecord, Sum.elim_inr, fileRecord, framedPath, blob, dataBytes,
        Array.length_toList, ByteArray.size, List.append_assoc]
      rfl
  rw [same]
  exact framed

theorem pack_stream_inj (directories others : List Text) (files rest : List (Text × ByteArray))
    (framedDirectories : ∀ rel ∈ directories, FramedDirectory rel)
    (framedOthers : ∀ rel ∈ others, FramedDirectory rel)
    (framedFiles : ∀ file ∈ files, FramedFile file) (framedRest : ∀ file ∈ rest, FramedFile file)
    (same : packStream directories files = packStream others rest) :
    directories = others ∧ files = rest := by
  have joined (names : List Text) (items : List (Text × ByteArray)) :
      records directoryRecord names ++ records fileRecord items =
        records packRecord (names.map Sum.inl ++ items.map Sum.inr) := by
    simp only [records, List.flatMap_append, List.flatMap_map]
    rfl
  have valid (names : List Text) (items : List (Text × ByteArray))
      (framedNames : ∀ rel ∈ names, FramedDirectory rel)
      (framedItems : ∀ file ∈ items, FramedFile file) :
      ∀ record ∈ names.map Sum.inl ++ items.map Sum.inr,
        Sum.elim FramedDirectory FramedFile record := by
    intro record inside
    simp only [List.mem_append, List.mem_map] at inside
    rcases inside with ⟨rel, found, built⟩ | ⟨file, found, built⟩
    · subst built
      exact framedNames rel found
    · subst built
      exact framedItems file found
  have present : ∀ record, packRecord record ≠ [] := by
    intro record
    cases record <;> simp [packRecord, directoryRecord, fileRecord, framedPath, utf8,
      String.utf8EncodeChar_ne_nil]
  have bodies := List.append_cancel_left same
  rw [joined, joined] at bodies
  have lists := records_faithful pack_record_delimits present _ _
    (valid directories files framedDirectories framedFiles) (valid others rest framedOthers framedRest)
    bodies
  have split := congrArg (List.filterMap Sum.getLeft?) lists
  have tail := congrArg (List.filterMap Sum.getRight?) lists
  simp only [List.filterMap_append, List.filterMap_map, Function.comp_def, Sum.getLeft?_inl,
    Sum.getLeft?_inr, Sum.getRight?_inl, Sum.getRight?_inr, List.filterMap_some,
    List.filterMap_none, List.append_nil, List.nil_append] at split tail
  exact ⟨split, tail⟩

/-! The checkout -/

theorem hash_pack_files_ok (files : List (Text × ByteArray)) (total : Nat)
    (small : ∀ file ∈ files, file.2.size ≤ maxPackFileBytes)
    (bounded : total + sizeOfFiles files ≤ maxPackBytes) :
    hashPackFiles total files = .ok (records fileRecord files) := by
  induction files generalizing total with
  | nil => rfl
  | cons file rest ih =>
    have here := small file List.mem_cons_self
    simp only [sizeOfFiles, List.map_cons, List.sum_cons] at bounded
    have later := ih (total + file.2.size)
      (fun other inside => small other (List.mem_cons_of_mem _ inside)) (by
        simp only [sizeOfFiles]
        omega)
    rw [hashPackFiles, if_neg (by omega), if_neg (by omega), later]
    rfl

/-- What a pack has to be for both sides to take its identity. -/
structure Finalizable (mapping : CaseMapping) (quoted : Text → Text)
    (decode rawDecode : ByteArray → Except Text Json) (pack : Pack) : Prop where
  onlyFiles : pack.OnlyFiles
  full : pack.NoEmptyDirectory
  limits : pack.WithinLimits
  portable : ∀ path ∈ walkedFiles pack, isSafeRelpath mapping (relativePackPath path) = true
  framed : ∀ path ∈ walkedFiles pack, (utf8 (relativePackPath path)).length < 2 ^ 64
  tested : ∃ path ∈ walkedFiles pack, isPackTest (relativePackPath path) = true
  manifest : ∀ node, pack.listing.entry ["pack.json".toList] = some node →
    ∃ mode data, node = .file mode data ∧ data.size ≤ maxPackManifestBytes ∧
      ∃ manifest, decode data = .ok manifest ∧ rawDecode data = .ok manifest ∧
        manifestProblems quoted manifest = []

def packManifest (decode : ByteArray → Except Text Json) (pack : Pack) :
    Option (List (Text × Json)) :=
  match pack.listing.entry ["pack.json".toList] with
  | some (.file _ data) => (decode data).toOption.map extractManifest
  | _ => none

section Checkout

variable {mapping : CaseMapping} {quoted : Text → Text}
  {decode rawDecode : ByteArray → Except Text Json} {pack : Pack}

theorem load_pack_manifest_ok (fits : Finalizable mapping quoted decode rawDecode pack) :
    loadPackManifest quoted decode pack = .ok (packManifest decode pack) := by
  unfold loadPackManifest packManifest
  cases found : pack.listing.entry ["pack.json".toList] with
  | none => rfl
  | some node =>
    rcases fits.manifest node found with ⟨mode, data, same, small, manifest, decoded, _, sound⟩
    subst same
    simp only [if_neg (Nat.not_lt.mpr small), checkedManifest, decoded, sound, List.isEmpty_nil,
      if_true, Except.toOption, Option.map_some]

theorem checkout_bytes_ok (fits : Finalizable mapping quoted decode rawDecode pack) :
    digestedBytesAndManifest quoted decode pack = .ok
      (packStream ((walkedDirectories pack).map relativePackPath)
        ((walkedFiles pack).map (fileItem pack)), packManifest decode pack) := by
  have tested : ((walkedFiles pack).map (fileItem pack)).any (fun file => isPackTest file.1) =
      true := by
    rcases fits.tested with ⟨path, inside, test⟩
    rw [List.any_eq_true]
    exact ⟨fileItem pack path, List.mem_map_of_mem inside, test⟩
  have small : ∀ file ∈ (walkedFiles pack).map (fileItem pack), file.2.size ≤ maxPackFileBytes := by
    intro file inside
    rcases List.mem_map.mp inside with ⟨path, walked, built⟩
    have leaf := (mem_walked_files pack path).mp walked
    rcases file_of_leaf pack fits.onlyFiles path leaf.1 leaf.2 with ⟨mode, data, stored⟩
    have sized := fits.limits.files path mode data stored
    rw [← built]
    simpa [fileItem, dataAt, stored, fileData] using sized
  have hashed := hash_pack_files_ok _ 0 small (by simpa using walked_total pack fits.limits)
  unfold digestedBytesAndManifest
  rw [pack_inventory_ok pack fits.onlyFiles fits.limits]
  simp only [tested, Bool.not_true, Bool.false_eq_true, if_false, inventoryBytes, hashed,
    load_pack_manifest_ok fits]
  rfl

end Checkout

/-! The Git tree -/

def memberItem (reader : GitReader) (member : Text × GitEntry) : Text × ByteArray :=
  (member.1, reader.content member.2.objectId)

theorem fold_pack_files_ok (quoted : Text → Text) (decode : ByteArray → Except Text Json)
    (reader : GitReader) (manifest : List (Text × Json)) (members : List (Text × GitEntry))
    (state : PackFold)
    (small : ∀ member ∈ members, (memberItem reader member).2.size ≤ maxPackFileBytes)
    (bounded : state.total + sizeOfFiles (members.map (memberItem reader)) ≤ maxPackBytes)
    (valid : ∀ member ∈ members, member.1 = "pack.json".toList →
      parsePackManifest quoted decode (memberItem reader member).2 = .ok manifest) :
    ∃ folded, foldPackFiles quoted decode reader state members = .ok folded ∧
      folded.bytes = state.bytes ++ records fileRecord (members.map (memberItem reader)) ∧
      folded.hasTest = (state.hasTest || members.any fun member => isPackTest member.1) ∧
      folded.manifest = if (members.map Prod.fst).contains "pack.json".toList then some manifest
        else state.manifest := by
  induction members generalizing state with
  | nil => exact ⟨state, rfl, by simp [records], by simp, by simp⟩
  | cons member rest ih =>
    have here := small member List.mem_cons_self
    simp only [sizeOfFiles, List.map_cons, List.sum_cons] at bounded
    have read : reader.blob member.2.objectId maxPackFileBytes
        ("verifier-pack path ".toList ++ quoted member.1) = .ok (memberItem reader member).2 :=
      if_neg (Nat.not_lt.mpr here)
    have room : ¬ maxPackBytes < state.total + (memberItem reader member).2.size := by omega
    -- Whatever the member is, the fold goes on from a state that has hashed it.
    have step : ∃ next, foldPackFile quoted decode reader state member.1 member.2 = .ok next ∧
        next.bytes = state.bytes ++ fileRecord (memberItem reader member) ∧
        next.total = state.total + (memberItem reader member).2.size ∧
        next.hasTest = (state.hasTest || isPackTest member.1) ∧
        next.manifest = if member.1 = "pack.json".toList then some manifest
          else state.manifest := by
      unfold foldPackFile
      rw [read]
      simp only [if_neg room]
      by_cases named : member.1 = "pack.json".toList
      · simp only [if_pos named, valid member List.mem_cons_self named]
        exact ⟨_, rfl, rfl, rfl, rfl, rfl⟩
      · simp only [if_neg named]
        exact ⟨_, rfl, rfl, rfl, rfl, rfl⟩
    rcases step with ⟨next, stepped, bytes, total, test, kept⟩
    rcases ih next (fun other inside => small other (List.mem_cons_of_mem _ inside)) (by
        simp only [sizeOfFiles]
        omega) (fun other inside => valid other (List.mem_cons_of_mem _ inside)) with
      ⟨folded, ran, laterBytes, laterTest, laterManifest⟩
    refine ⟨folded, ?_, ?_, ?_, ?_⟩
    · rw [foldPackFiles, stepped]
      exact ran
    · rw [laterBytes, bytes, List.append_assoc]
      rfl
    · rw [laterTest, test, List.any_cons, Bool.or_assoc]
    · rw [laterManifest, kept, List.map_cons, List.contains_cons]
      by_cases named : member.1 = "pack.json".toList
      · rw [if_pos named, named, BEq.rfl, Bool.true_or, ite_self, if_pos rfl]
      · have other : ("pack.json".toList == member.1) = false := by
          rw [beq_eq_false_iff_ne]
          exact Ne.symm named
        rw [if_neg named, other, Bool.false_or]

/-- The Git tree holds below `packPath` the files of a checkout and nothing else. -/
structure HoldsPack (mapping : CaseMapping) (quoted : Text → Text) (reader : GitReader)
    (packPath : Text) (pack : Pack) (tree : Dict Text GitEntry) : Prop where
  location : isSafeRelpath mapping packPath = true
  read : reader.tree mapping quoted = .ok tree
  held : ∀ path ∈ walkedFiles pack, ∃ entry, entry.regular = true ∧
    (packPrefix packPath ++ relativePackPath path, entry) ∈ tree.entries ∧
    reader.content entry.objectId = dataAt pack path
  only : ∀ rel entry, (packPrefix packPath ++ rel, entry) ∈ tree.entries →
    ∃ path ∈ walkedFiles pack, rel = relativePackPath path

theorem mem_pack_members (packPath : Text) (tree : Dict Text GitEntry) (rel : Text)
    (entry : GitEntry) :
    (rel, entry) ∈ packMembers packPath tree ↔
      (packPrefix packPath ++ rel, entry) ∈ tree.entries := by
  rw [packMembers, List.mem_filterMap]
  constructor
  · intro found
    rcases found with ⟨item, inside, named⟩
    split_ifs at named with below
    rcases List.isPrefixOf_iff_prefix.mp below with ⟨rest, joined⟩
    rw [← joined, List.drop_left, Option.some.injEq, Prod.mk.injEq] at named
    rw [← named.1, ← named.2, joined]
    exact inside
  · intro inside
    refine ⟨_, inside, ?_⟩
    have below : Text.startsWith (packPrefix packPath ++ rel) (packPrefix packPath) = true :=
      List.isPrefixOf_iff_prefix.mpr (List.prefix_append _ _)
    simp only [below, if_true, List.drop_left]

theorem pack_members_nodup (packPath : Text) (tree : Dict Text GitEntry) :
    ((packMembers packPath tree).map Prod.fst).Nodup := by
  have keys : (packMembers packPath tree).map Prod.fst = (tree.entries.map Prod.fst).filterMap
      fun path => if Text.startsWith path (packPrefix packPath) then
        some (path.drop (packPrefix packPath).length) else none := by
    rw [packMembers, List.map_filterMap, List.filterMap_map]
    apply List.filterMap_congr
    intro item _
    simp only [Function.comp_apply]
    split_ifs <;> rfl
  rw [keys]
  apply tree.nodup.filterMap
  intro left right rel leftNamed rightNamed
  rw [Option.mem_def] at leftNamed rightNamed
  split_ifs at leftNamed with leftBelow
  split_ifs at rightNamed with rightBelow
  rcases List.isPrefixOf_iff_prefix.mp leftBelow with ⟨first, leftJoined⟩
  rcases List.isPrefixOf_iff_prefix.mp rightBelow with ⟨second, rightJoined⟩
  rw [← leftJoined, List.drop_left, Option.some.injEq] at leftNamed
  rw [← rightJoined, List.drop_left, Option.some.injEq] at rightNamed
  rw [← leftJoined, ← rightJoined, leftNamed, rightNamed]

/-! The paths of a pack -/

variable (pack : Pack) (path : List Text)

theorem path_slash_free (present : (pack.listing.entry path).isSome = true) :
    ∀ part ∈ path, '/' ∉ part :=
  pack.listing.parts_of_named pack.slashFree path present

theorem split_relative (proper : path ≠ [])
    (present : (pack.listing.entry path).isSome = true) :
    Text.split '/' (relativePackPath path) = path :=
  Text.split_join '/' path proper (path_slash_free pack path present)

theorem walked_file_proper (walked : path ∈ walkedFiles pack) :
    path ≠ [] ∧ (pack.listing.entry path).isSome = true := by
  have leaf := (mem_walked_files pack path).mp walked
  constructor
  · intro empty
    have root : pack.listing.isDirectory [] = true := pack.listing.root
    rw [empty, root] at leaf
    cases leaf.2
  · exact leaf.1

theorem walked_directory_proper (walked : path ∈ walkedDirectories pack) :
    path ≠ [] ∧ (pack.listing.entry path).isSome = true := by
  have directory := (mem_walked_directories pack path).mp walked
  exact ⟨directory.1, pack.listing.is_some_of_directory path directory.2⟩

theorem relative_nodup (pack : Pack) (paths : List (List Text)) (distinct : paths.Nodup)
    (proper : ∀ path ∈ paths, path ≠ [] ∧ (pack.listing.entry path).isSome = true) :
    (paths.map relativePackPath).Nodup := by
  rw [List.nodup_map_iff_inj_on distinct]
  intro left leftInside right rightInside same
  have leftProper := proper left leftInside
  have rightProper := proper right rightInside
  rw [← split_relative pack left leftProper.1 leftProper.2, same,
    split_relative pack right rightProper.1 rightProper.2]

theorem file_items_nodup (pack : Pack) :
    (((walkedFiles pack).map (fileItem pack)).map Prod.fst).Nodup := by
  rw [List.map_map]
  exact relative_nodup pack _ (walked_files_nodup pack) (walked_file_proper pack)

section Members

variable {mapping : CaseMapping} {quoted : Text → Text} {reader : GitReader} {packPath : Text}
  {pack : Pack} {tree : Dict Text GitEntry}

section

variable (holds : HoldsPack mapping quoted reader packPath pack tree)
include holds

theorem member_of_walked
    (rel : Text) (entry : GitEntry) (member : (rel, entry) ∈ packMembers packPath tree) :
    entry.regular = true ∧ ∃ path ∈ walkedFiles pack, memberItem reader (rel, entry) =
      fileItem pack path := by
  rw [mem_pack_members] at member
  rcases holds.only rel entry member with ⟨path, walked, named⟩
  rcases holds.held path walked with ⟨other, regular, present, content⟩
  rw [← named] at present
  have same : entry = other := by
    have items := List.inj_on_of_nodup_map tree.nodup member present rfl
    exact (Prod.mk.inj items).2
  subst same
  exact ⟨regular, path, walked, Prod.ext named content⟩

theorem member_items_perm :
    ((packMembers packPath tree).map (memberItem reader)).Perm
      ((walkedFiles pack).map (fileItem pack)) := by
  have keys : ((packMembers packPath tree).map (memberItem reader)).map Prod.fst =
      (packMembers packPath tree).map Prod.fst := by
    rw [List.map_map]
    rfl
  have left : ((packMembers packPath tree).map (memberItem reader)).Nodup := by
    apply List.Nodup.of_map Prod.fst
    rw [keys]
    exact pack_members_nodup packPath tree
  rw [List.perm_ext_iff_of_nodup left (List.Nodup.of_map Prod.fst (file_items_nodup pack))]
  intro item
  constructor
  · intro found
    rcases List.mem_map.mp found with ⟨⟨rel, entry⟩, member, built⟩
    rcases member_of_walked holds rel entry member with ⟨_, path, walked, same⟩
    rw [← built, same]
    exact List.mem_map_of_mem walked
  · intro found
    rcases List.mem_map.mp found with ⟨path, walked, built⟩
    rcases holds.held path walked with ⟨entry, _, present, content⟩
    rw [List.mem_map]
    refine ⟨(relativePackPath path, entry), ?_, ?_⟩
    · rw [mem_pack_members]
      exact present
    · rw [← built]
      exact Prod.ext rfl content

theorem sorted_member_items :
    (sortOn Text.le Prod.fst (packMembers packPath tree)).map (memberItem reader) =
      sortOn Text.le Prod.fst ((walkedFiles pack).map (fileItem pack)) := by
  apply ascending_unique Text.order Prod.fst
  · exact (((sort_on_perm _ _ _).map _).trans (member_items_perm holds)).trans
      (sort_on_perm _ _ _).symm
  · rw [List.map_map]
    exact (((sort_on_perm Text.le Prod.fst _).map Prod.fst).nodup_iff).mpr
      (pack_members_nodup packPath tree)
  · rw [List.pairwise_map]
    exact sort_on_pairwise Text.order Prod.fst _
  · exact sort_on_pairwise Text.order Prod.fst _

theorem mem_pack_directories (full : pack.NoEmptyDirectory) (text : Text) :
    text ∈ packDirectories (packMembers packPath tree) ↔
      text ∈ (walkedDirectories pack).map relativePackPath := by
  rw [packDirectories, Text.mem_sorted_set, List.mem_flatMap, List.mem_map]
  constructor
  · intro found
    rcases found with ⟨⟨rel, entry⟩, member, inside⟩
    rcases member_of_walked holds rel entry member with ⟨_, path, walked, same⟩
    have file := walked_file_proper pack path walked
    have named : rel = relativePackPath path := congrArg Prod.fst same
    rw [named, relativePackPath,
      mem_proper_prefixes path file.1 (path_slash_free pack path file.2)] at inside
    rcases inside with ⟨above, below, aboveProper, belowProper, joined, built⟩
    refine ⟨above, ?_, built.symm⟩
    rw [mem_walked_directories]
    refine ⟨aboveProper, pack.listing.is_directory_of_below above below belowProper ?_⟩
    rw [← joined]
    exact file.2
  · intro found
    rcases found with ⟨above, walked, built⟩
    rw [mem_walked_directories] at walked
    rcases file_below pack full above walked.2 with ⟨below, belowProper, present, leaf⟩
    have file : above ++ below ∈ walkedFiles pack := (mem_walked_files pack _).mpr ⟨present, leaf⟩
    rcases holds.held _ file with ⟨entry, _, inside, _⟩
    refine ⟨(relativePackPath (above ++ below), entry), ?_, ?_⟩
    · rw [mem_pack_members]
      exact inside
    · rw [relativePackPath, mem_proper_prefixes _ (walked_file_proper pack _ file).1
        (path_slash_free pack _ present)]
      exact ⟨above, below, walked.1, belowProper, rfl, built.symm⟩

theorem pack_directories_eq (full : pack.NoEmptyDirectory) :
    packDirectories (packMembers packPath tree) =
      Text.sorted ((walkedDirectories pack).map relativePackPath) := by
  have distinct : ((walkedDirectories pack).map relativePackPath).Nodup :=
    relative_nodup pack _ (walked_directories_nodup pack) (walked_directory_proper pack)
  have listed : (packDirectories (packMembers packPath tree)).Nodup :=
    ((Text.sorted_perm _).nodup_iff).mpr (List.nodup_dedup _)
  apply ascending_unique Text.order id
  · apply List.Perm.trans _ (Text.sorted_perm _).symm
    rw [List.perm_ext_iff_of_nodup listed distinct]
    exact mem_pack_directories holds full
  · rw [List.map_id]
    exact listed
  · exact Text.sorted_pairwise _
  · exact Text.sorted_pairwise _

end

theorem pack_json_path (path : List Text) (walked : path ∈ walkedFiles pack) :
    relativePackPath path = "pack.json".toList ↔ path = ["pack.json".toList] := by
  have file := walked_file_proper pack path walked
  constructor
  · intro named
    have parts := split_relative pack path file.1 file.2
    rw [named] at parts
    rw [← parts]
    decide
  · intro same
    rw [same]
    rfl

variable {decode rawDecode : ByteArray → Except Text Json}

section

variable (holds : HoldsPack mapping quoted reader packPath pack tree)
include holds

theorem members_hold_manifest :
    ((packMembers packPath tree).map Prod.fst).contains "pack.json".toList =
      (pack.listing.entry ["pack.json".toList]).any (!isDirectoryNode ·) := by
  have walked : (pack.listing.entry ["pack.json".toList]).any (!isDirectoryNode ·) = true ↔
      ["pack.json".toList] ∈ walkedFiles pack := by
    rw [mem_walked_files, Listing.isDirectory]
    cases pack.listing.entry ["pack.json".toList] <;> simp
  rw [Bool.eq_iff_iff, walked, List.contains_iff_mem, List.mem_map]
  constructor
  · intro found
    rcases found with ⟨⟨rel, entry⟩, member, named⟩
    rcases member_of_walked holds rel entry member with ⟨_, path, inside, same⟩
    have rels : relativePackPath path = "pack.json".toList :=
      (congrArg Prod.fst same).symm.trans named
    rw [pack_json_path path inside] at rels
    rwa [rels] at inside
  · intro inside
    rcases holds.held _ inside with ⟨entry, _, present, _⟩
    exact ⟨("pack.json".toList, entry), (mem_pack_members _ _ _ _).mpr present, rfl⟩

theorem member_manifest (fits : Finalizable mapping quoted decode rawDecode pack) :
    ∀ member ∈ sortOn Text.le Prod.fst (packMembers packPath tree),
      member.1 = "pack.json".toList →
      parsePackManifest quoted rawDecode (memberItem reader member).2 =
        .ok ((packManifest decode pack).getD []) := by
  intro member inside named
  rw [(sort_on_perm _ _ _).mem_iff] at inside
  rcases member_of_walked holds member.1 member.2 inside with ⟨_, path, walked, same⟩
  have rels : relativePackPath path = "pack.json".toList :=
    (congrArg Prod.fst same).symm.trans named
  rw [pack_json_path path walked] at rels
  subst rels
  have leaf := (mem_walked_files pack _).mp walked
  rcases Option.isSome_iff_exists.mp leaf.1 with ⟨node, found⟩
  rcases fits.manifest node found with ⟨mode, data, file, small, manifest, decoded, raw, sound⟩
  subst file
  have content : (memberItem reader member).2 = data := by
    rw [show memberItem reader member = fileItem pack ["pack.json".toList] from same]
    simp only [fileItem, dataAt, found, fileData, Option.getD_some]
  rw [content]
  simp only [parsePackManifest, if_neg (Nat.not_lt.mpr small), raw, sound, List.isEmpty_nil,
    if_true, packManifest, found, decoded, Except.toOption, Option.map_some, Option.getD_some]

theorem raw_pack_bytes_ok (fits : Finalizable mapping quoted decode rawDecode pack) :
    rawPackBytes mapping quoted rawDecode reader packPath = .ok
      (packStream (Text.sorted ((walkedDirectories pack).map relativePackPath))
        (sortOn Text.le Prod.fst ((walkedFiles pack).map (fileItem pack))),
        packManifest decode pack) := by
  have walkedMember : ∀ member ∈ packMembers packPath tree, member.2.regular = true ∧
      ∃ path ∈ walkedFiles pack, memberItem reader member = fileItem pack path := by
    intro member inside
    exact member_of_walked holds member.1 member.2 inside
  have counts : (packMembers packPath tree).length = (walkedFiles pack).length := by
    simpa using (member_items_perm holds).length_eq
  have directoryCount : (packDirectories (packMembers packPath tree)).length =
      (walkedDirectories pack).length := by
    rw [pack_directories_eq holds fits.full, (Text.sorted_perm _).length_eq, List.length_map]
  have present : (packMembers packPath tree).isEmpty = false := by
    rcases fits.tested with ⟨path, walked, _⟩
    have positive := List.length_pos_iff.mpr (List.ne_nil_of_mem walked)
    rw [List.isEmpty_eq_false_iff, ← List.length_pos_iff]
    omega
  have safe : (packMembers packPath tree).any (fun member => member.1.isEmpty ||
      !isSafeRelpath mapping member.1) = false := by
    rw [List.any_eq_false]
    intro member inside
    rcases walkedMember member inside with ⟨_, path, walked, same⟩
    have portable := fits.portable path walked
    have named : member.1 = relativePackPath path := congrArg Prod.fst same
    rw [← named] at portable
    have filled : member.1.isEmpty = false := by
      cases empty : member.1 with
      | nil =>
        rw [empty] at portable
        cases portable
      | cons character rest => rfl
    rw [portable, filled]
    decide
  have regular : (packMembers packPath tree).any (fun member => !member.2.regular) = false := by
    rw [List.any_eq_false]
    intro member inside
    rw [(walkedMember member inside).1]
    decide
  have entries : ¬ maxPackEntries < (packMembers packPath tree).length +
      (packDirectories (packMembers packPath tree)).length := by
    have bound := walked_count pack
    have limit := fits.limits.entries
    omega
  have items := sorted_member_items holds
  have small : ∀ member ∈ sortOn Text.le Prod.fst (packMembers packPath tree),
      (memberItem reader member).2.size ≤ maxPackFileBytes := by
    intro member inside
    rw [(sort_on_perm _ _ _).mem_iff] at inside
    rcases walkedMember member inside with ⟨_, path, walked, same⟩
    have leaf := (mem_walked_files pack path).mp walked
    rcases file_of_leaf pack fits.onlyFiles path leaf.1 leaf.2 with ⟨mode, data, stored⟩
    have sized := fits.limits.files path mode data stored
    rw [same]
    simpa [fileItem, dataAt, stored, fileData] using sized
  have total : sizeOfFiles ((sortOn Text.le Prod.fst (packMembers packPath tree)).map
      (memberItem reader)) ≤ maxPackBytes := by
    have sums := ((sort_on_perm Text.le Prod.fst ((walkedFiles pack).map (fileItem pack))).map
      fun file => file.2.size).sum_nat
    rw [items, sizeOfFiles, sums]
    exact walked_total pack fits.limits
  rcases fold_pack_files_ok quoted rawDecode reader ((packManifest decode pack).getD [])
      (sortOn Text.le Prod.fst (packMembers packPath tree))
      { bytes := packHeader ++ records directoryRecord (packDirectories (packMembers packPath tree)) }
      small (by simpa using total) (member_manifest holds fits) with
    ⟨folded, ran, bytes, test, manifest⟩
  have tested : folded.hasTest = true := by
    rcases fits.tested with ⟨path, walked, isTest⟩
    rcases holds.held path walked with ⟨entry, _, inside, _⟩
    rw [test, Bool.false_or, List.any_eq_true]
    refine ⟨(relativePackPath path, entry), ?_, isTest⟩
    rw [(sort_on_perm _ _ _).mem_iff, mem_pack_members]
    exact inside
  have found : folded.manifest = packManifest decode pack := by
    have keys : ((sortOn Text.le Prod.fst (packMembers packPath tree)).map Prod.fst).contains
        "pack.json".toList = ((packMembers packPath tree).map Prod.fst).contains
          "pack.json".toList := by
      rw [Bool.eq_iff_iff, List.contains_iff_mem, List.contains_iff_mem]
      exact ((sort_on_perm Text.le Prod.fst _).map Prod.fst).mem_iff
    rw [manifest, keys, members_hold_manifest holds]
    cases stored : pack.listing.entry ["pack.json".toList] with
    | none => simp only [Option.any_none, Bool.false_eq_true, if_false, packManifest, stored]
    | some node =>
      rcases fits.manifest node stored with ⟨mode, data, file, _, parsed, decoded, _, _⟩
      subst file
      simp only [Option.any_some, packManifest, stored, decoded, Except.toOption,
        Option.map_some, Option.getD_some]
      rfl
  unfold rawPackBytes
  simp only [holds.location, holds.read, present, safe, regular, if_neg entries, ran, tested,
    Bool.not_true, Bool.false_eq_true, if_false]
  rw [bytes, items, found, pack_directories_eq holds fits.full, packStream, List.append_assoc]

end

/-! The two orders -/

theorem sorted_eq_self_iff {Item : Type} (key : Item → Text) (items : List Item)
    (distinct : (items.map key).Nodup) :
    items = sortOn Text.le key items ↔
      items.Pairwise fun left right => Text.le (key left) (key right) = true := by
  constructor
  · intro same
    rw [same]
    exact sort_on_pairwise Text.order key items
  · intro ascending
    exact ascending_unique Text.order key _ _ (sort_on_perm Text.le key items).symm distinct ascending
      (sort_on_pairwise Text.order key items)

theorem utf8_length_le (head tail : Text) : (utf8 head).length ≤ (utf8 (head ++ tail)).length := by
  rw [utf8, utf8, List.flatMap_append, List.length_append]
  omega

section

variable (fits : Finalizable mapping quoted decode rawDecode pack)
include fits

theorem framed_directories :
    ∀ rel ∈ (walkedDirectories pack).map relativePackPath, FramedDirectory rel := by
  intro rel inside
  rcases List.mem_map.mp inside with ⟨path, walked, built⟩
  rw [mem_walked_directories] at walked
  rcases file_below pack fits.full path walked.2 with ⟨below, proper, present, leaf⟩
  have framed := fits.framed _ ((mem_walked_files pack _).mpr ⟨present, leaf⟩)
  rw [relativePackPath, Text.join_append _ path below walked.1 proper, List.append_assoc] at framed
  rw [← built]
  exact Nat.lt_of_le_of_lt (utf8_length_le _ _) framed

theorem framed_files :
    ∀ file ∈ (walkedFiles pack).map (fileItem pack), FramedFile file := by
  intro file inside
  rcases List.mem_map.mp inside with ⟨path, walked, built⟩
  have leaf := (mem_walked_files pack path).mp walked
  rcases file_of_leaf pack fits.onlyFiles path leaf.1 leaf.2 with ⟨mode, data, stored⟩
  have sized := fits.limits.files path mode data stored
  rw [← built]
  refine ⟨fits.framed path walked, ?_⟩
  simp only [fileItem, dataAt, stored, fileData, Option.getD_some]
  exact Nat.lt_of_le_of_lt sized (by decide)

theorem streams_agree_iff :
    packStream ((walkedDirectories pack).map relativePackPath)
        ((walkedFiles pack).map (fileItem pack)) =
      packStream (Text.sorted ((walkedDirectories pack).map relativePackPath))
        (sortOn Text.le Prod.fst ((walkedFiles pack).map (fileItem pack))) ↔
      pack.WalkAscends := by
  have directories := sorted_eq_self_iff id ((walkedDirectories pack).map relativePackPath) (by
    rw [List.map_id]
    exact relative_nodup pack _ (walked_directories_nodup pack) (walked_directory_proper pack))
  have files := sorted_eq_self_iff Prod.fst ((walkedFiles pack).map (fileItem pack))
    (file_items_nodup pack)
  rw [List.pairwise_map] at directories files
  rw [← walk_ascends_iff pack fits.full]
  constructor
  · intro same
    have parts := pack_stream_inj _ _ _ _ (framed_directories fits)
      (fun rel inside => framed_directories fits rel (Text.mem_sorted.mp inside))
      (framed_files fits)
      (fun file inside => framed_files fits file ((sort_on_perm _ _ _).mem_iff.mp inside)) same
    exact ⟨directories.mp parts.1, files.mp parts.2⟩
  · intro ascends
    have sortedDirectories := directories.mpr ascends.1
    rw [← Text.sorted_eq_sort_on] at sortedDirectories
    rw [← sortedDirectories, ← files.mpr ascends.2]

end

end Members

/-- The bytes hashed on the two sides differ and have one SHA-256. -/
def StreamsCollide (mapping : CaseMapping) (quoted : Text → Text)
    (decode rawDecode : ByteArray → Except Text Json) (reader : GitReader) (packPath : Text)
    (pack : Pack) : Prop :=
  ∃ left right manifest, digestedBytesAndManifest quoted decode pack = .ok (left, manifest) ∧
    rawPackBytes mapping quoted rawDecode reader packPath = .ok (right, manifest) ∧
    left ≠ right ∧ Sha256.hexdigestBytes left = Sha256.hexdigestBytes right

/-- Both sides take an identity of the pack, with one manifest. The digests agree where the walk
ascends, and nowhere else unless SHA-256 collides on the two streams. -/
theorem pack_digests_agree_iff (mapping : CaseMapping) (quoted : Text → Text)
    (decode rawDecode : ByteArray → Except Text Json) (reader : GitReader) (packPath : Text)
    (pack : Pack) (tree : Dict Text GitEntry)
    (fits : Finalizable mapping quoted decode rawDecode pack)
    (holds : HoldsPack mapping quoted reader packPath pack tree) :
    ∃ checkout git manifest,
      digestAndManifest quoted decode pack = .ok (checkout, manifest) ∧
      rawPackIdentity mapping quoted rawDecode reader packPath = .ok (git, manifest) ∧
      (pack.WalkAscends → checkout = git) ∧
      (checkout = git → pack.WalkAscends ∨
        StreamsCollide mapping quoted decode rawDecode reader packPath pack) := by
  have left := checkout_bytes_ok fits
  have right := raw_pack_bytes_ok holds fits
  have agree := streams_agree_iff fits
  refine ⟨_, _, packManifest decode pack, by rw [digestAndManifest, left]; rfl,
    by rw [rawPackIdentity, right]; rfl, ?_, ?_⟩
  · intro ascends
    exact congrArg Sha256.hexdigestBytes (agree.mpr ascends)
  · intro same
    by_cases ascends : pack.WalkAscends
    · exact Or.inl ascends
    · apply Or.inr
      refine ⟨_, _, _, left, right, ?_, same⟩
      intro equal
      exact ascends (agree.mp equal)

/-! Two packs without a manifest -/

def noJson (_ : ByteArray) : Except Text Json := .error []

def plainEntry (entries : List (List Text × Node)) (item : List Text × Node) : Bool :=
  match item.2 with
  | .directory => entries.any fun child => child.1.isEmpty.not && child.1.dropLast == item.1
  | .file _ data => data.size ≤ maxPackFileBytes
  | _ => false

theorem plain_pack_fits (pack : Pack) (entries : List (List Text × Node))
    (given : pack.listing.entry = Listing.entryIn entries)
    (plain : entries.all (plainEntry entries) = true)
    (counted : pack.listing.paths.length ≤ maxPackEntries + 1)
    (total : ((pack.listing.paths.filter fun path => !pack.listing.isDirectory path).map fun path =>
      (dataAt pack path).size).sum ≤ maxPackBytes)
    (portable : ((walkedFiles pack).map relativePackPath).all (fun rel =>
      isSafeRelpath asciiCase rel && decide ((utf8 rel).length < 2 ^ 64)) = true)
    (tested : ((walkedFiles pack).map relativePackPath).any isPackTest = true)
    (bare : pack.listing.entry ["pack.json".toList] = none) :
    Finalizable asciiCase id noJson noJson pack := by
  have checked : ∀ path node, pack.listing.entry path = some node →
      plainEntry entries (path, node) = true := by
    intro path node found
    rw [given] at found
    exact List.all_eq_true.mp plain _ (Listing.mem_of_entry_in entries path node found)
  have rels : ∀ path ∈ walkedFiles pack, isSafeRelpath asciiCase (relativePackPath path) = true ∧
      (utf8 (relativePackPath path)).length < 2 ^ 64 := by
    intro path walked
    have holds := List.all_eq_true.mp portable _ (List.mem_map_of_mem walked)
    rwa [Bool.and_eq_true, decide_eq_true_eq] at holds
  constructor
  · intro path node found
    have entry := checked path node found
    cases node with
    | directory => exact Or.inl rfl
    | file mode data => exact Or.inr ⟨mode, data, rfl⟩
    | symlink target | special => cases entry
  · intro path directory
    have present := pack.listing.is_some_of_directory path directory
    rcases Option.isSome_iff_exists.mp present with ⟨node, found⟩
    have entry := checked path node found
    rw [Listing.isDirectory, found] at directory
    have kind : node = .directory := by simpa [isDirectoryNode] using directory
    subst kind
    simp only [plainEntry, List.any_eq_true, Bool.and_eq_true, Bool.not_eq_true',
      List.isEmpty_eq_false_iff, beq_iff_eq] at entry
    rcases entry with ⟨child, inside, proper, above⟩
    refine ⟨child.1.getLast proper, ?_⟩
    rw [← above, List.dropLast_append_getLast, given, Listing.entry_in_is_some]
    exact List.mem_map_of_mem inside
  · constructor
    · exact counted
    · intro path mode data found
      simpa [plainEntry] using checked path _ found
    · exact total
  · exact fun path walked => (rels path walked).1
  · exact fun path walked => (rels path walked).2
  · rw [List.any_map, List.any_eq_true] at tested
    exact tested
  · intro node found
    rw [bare] at found
    cases found

def emptyFile : Node := .file 0o644 ByteArray.empty

def emptyBlob : GitEntry := ⟨"100644".toList, "blob".toList, "e69de29".toList⟩

def readerOf (paths : List Text) : GitReader where
  rows := paths.map fun path => (path, emptyBlob)
  content := fun _ => ByteArray.empty

theorem reader_of_holds (pack : Pack) (paths : List Text)
    (location : isSafeRelpath asciiCase "p".toList = true)
    (read : ((readerOf paths).tree asciiCase id).toOption.map Dict.entries =
      some (readerOf paths).rows)
    (same : paths.Perm ((walkedFiles pack).map fun path =>
      packPrefix "p".toList ++ relativePackPath path))
    (empty : (walkedFiles pack).all (fun path => (dataAt pack path).size = 0) = true) :
    ∃ tree, HoldsPack asciiCase id (readerOf paths) "p".toList pack tree := by
  rw [Option.map_eq_some_iff] at read
  rcases read with ⟨tree, accepted, rows⟩
  refine ⟨tree, location, ok_of_read _ id Function.injective_id tree (by rw [accepted]; rfl), ?_, ?_⟩
  · intro path walked
    refine ⟨emptyBlob, by decide, ?_, ?_⟩
    · rw [rows, readerOf, List.mem_map]
      exact ⟨_, same.mem_iff.mpr (List.mem_map_of_mem walked), rfl⟩
    · have bare := List.all_eq_true.mp empty path walked
      rw [decide_eq_true_eq] at bare
      exact (ByteArray.size_eq_zero_iff.mp bare).symm
  · intro rel entry inside
    rw [rows, readerOf, List.mem_map] at inside
    rcases inside with ⟨text, listed, built⟩
    rcases List.mem_map.mp (same.mem_iff.mp listed) with ⟨path, walked, named⟩
    refine ⟨path, walked, ?_⟩
    rw [← named] at built
    exact (List.append_cancel_left (Prod.mk.inj built).1).symm

def nestedEntries : List (List Text × Node) :=
  [([], .directory), (["a".toList], .directory), (["a".toList, "x".toList], emptyFile),
    (["test_b.py".toList], emptyFile)]

/-- A test file beside a directory whose name sorts before it. -/
def nestedPack : Pack :=
  Pack.ofEntries nestedEntries (by decide) (by decide) (by decide) (by decide)

def nestedReader : GitReader := readerOf ["p/a/x".toList, "p/test_b.py".toList]

theorem nested_pack_fits : Finalizable asciiCase id noJson noJson nestedPack :=
  plain_pack_fits nestedPack nestedEntries rfl (by decide +kernel) (by decide +kernel)
    (by decide +kernel)
    (by decide +kernel) (by decide +kernel) (by decide +kernel)

theorem nested_reader_holds :
    ∃ tree, HoldsPack asciiCase id nestedReader "p".toList nestedPack tree :=
  reader_of_holds nestedPack _ (by decide +kernel) (by decide +kernel) (by decide +kernel)
    (by decide +kernel)

/-- The walk hashes `test_b.py` before `a/x`, the sorted list after it. -/
theorem nested_pack_digests_differ :
    ∃ tree, Finalizable asciiCase id noJson noJson nestedPack ∧
      HoldsPack asciiCase id nestedReader "p".toList nestedPack tree ∧
      ¬ ∃ digest checkout git,
        digestAndManifest id noJson nestedPack = .ok (digest, checkout) ∧
        rawPackIdentity asciiCase id noJson nestedReader "p".toList = .ok (digest, git) := by
  rcases nested_reader_holds with ⟨tree, holds⟩
  refine ⟨tree, nested_pack_fits, holds, ?_⟩
  intro agree
  rcases agree with ⟨digest, checkout, git, left, right⟩
  have differ : (digestAndManifest id noJson nestedPack).toOption.map Prod.fst ≠
      (rawPackIdentity asciiCase id noJson nestedReader "p".toList).toOption.map Prod.fst := by
    decide +kernel
  rw [left, right] at differ
  exact differ rfl

def sortedEntries : List (List Text × Node) :=
  [([], .directory), (["x"], .directory), (["x", "y"], emptyFile), (["test_b.py"], emptyFile)]

/-- A test file beside a directory whose name sorts behind it. -/
def sortedPack : Pack :=
  Pack.ofEntries sortedEntries (by decide) (by decide) (by decide) (by decide)

def sortedReader : GitReader := readerOf ["p/test_b.py", "p/x/y"]

theorem sorted_pack_digests_agree :
    sortedPack.WalkAscends ∧ ∃ digest checkout git,
      digestAndManifest id noJson sortedPack = .ok (digest, checkout) ∧
      rawPackIdentity asciiCase id noJson sortedReader "p".toList = .ok (digest, git) := by
  have fits : Finalizable asciiCase id noJson noJson sortedPack :=
    plain_pack_fits sortedPack sortedEntries rfl (by decide +kernel) (by decide +kernel)
      (by decide +kernel) (by decide +kernel) (by decide +kernel) (by decide +kernel)
  have held : ∃ tree, HoldsPack asciiCase id sortedReader "p".toList sortedPack tree :=
    reader_of_holds sortedPack _ (by decide +kernel) (by decide +kernel) (by decide +kernel)
      (by decide +kernel)
  have ascends : sortedPack.WalkAscends := by
    rw [← walk_ascends_iff sortedPack fits.full]
    unfold Listing.Ascending
    decide +kernel
  rcases held with ⟨tree, holds⟩
  rcases pack_digests_agree_iff asciiCase id noJson noJson sortedReader "p".toList sortedPack tree
    fits holds with ⟨checkout, git, manifest, left, right, agree, _⟩
  rw [← agree ascends] at right
  exact ⟨ascends, checkout, manifest, manifest, left, right⟩

end EvoomGuard.Finalizer
