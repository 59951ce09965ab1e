import EvoomGuard.Finalizer.PackIdentity

/-!
A pack that both sides have taken an identity of: what their checks have shown of it, and when the
two identities are one.
-/

namespace EvoomGuard.Finalizer

open Lib Lib.Framing PackManifest Verifiers

/-- A checkout of the files Git holds below a path. What the stricter reader of a manifest accepts
the other reads alike. -/
structure PackCheckout (mapping : CaseMapping) (quoted : Text → Text)
    (decode rawDecode : ByteArray → Except Text Json) (reader : GitReader) (packPath : Text)
    (pack : Pack) (tree : Dict Text GitEntry) : Prop where
  holds : HoldsPack mapping quoted reader packPath pack tree
  onlyFiles : pack.OnlyFiles
  full : pack.NoEmptyDirectory
  framed : ∀ path ∈ walkedFiles pack, (utf8 (relativePackPath path)).length < 2 ^ 64
  decoders : ∀ data manifest, rawDecode data = .ok manifest → decode data = .ok manifest

section Fold

variable (quoted : Text → Text) (decode : ByteArray → Except Text Json) (reader : GitReader)

theorem fold_pack_file_checked {state next : PackFold} {member : Text × GitEntry}
    (ran : foldPackFile quoted decode reader state member.1 member.2 = .ok next) :
    (memberItem reader member).2.size ≤ maxPackFileBytes ∧
      next.total = state.total + (memberItem reader member).2.size ∧ next.total ≤ maxPackBytes ∧
      next.hasTest = (state.hasTest || isPackTest member.1) ∧
      (member.1 = "pack.json" →
        ∃ manifest, parsePackManifest quoted decode (memberItem reader member).2 = .ok manifest) := by
  unfold foldPackFile at ran
  split at ran
  · cases ran
  · rename_i data read
    simp only [GitReader.blob] at read
    split_ifs at read with large
    cases read
    split_ifs at ran with exceeds named
    · split at ran
      · cases ran
      · rename_i manifest parsed
        cases ran
        exact ⟨Nat.not_lt.mp large, rfl, Nat.not_lt.mp exceeds, rfl, fun _ => ⟨manifest, parsed⟩⟩
    · cases ran
      exact ⟨Nat.not_lt.mp large, rfl, Nat.not_lt.mp exceeds, rfl, fun same => absurd same named⟩

theorem fold_pack_files_checked (members : List (Text × GitEntry)) (state folded : PackFold)
    (within : state.total ≤ maxPackBytes)
    (ran : foldPackFiles quoted decode reader state members = .ok folded) :
    (∀ member ∈ members, (memberItem reader member).2.size ≤ maxPackFileBytes) ∧
      state.total + sizeOfFiles (members.map (memberItem reader)) ≤ maxPackBytes ∧
      folded.hasTest = (state.hasTest || members.any fun member => isPackTest member.1) ∧
      ∀ member ∈ members, member.1 = "pack.json" →
        ∃ manifest, parsePackManifest quoted decode (memberItem reader member).2 = .ok manifest := by
  induction members generalizing state with
  | nil =>
    rw [foldPackFiles, Except.ok.injEq] at ran
    subst ran
    exact ⟨by simp, by simpa [sizeOfFiles] using within, by simp, by simp⟩
  | cons member rest ih =>
    rw [foldPackFiles] at ran
    split at ran
    · cases ran
    · rename_i next stepped
      obtain ⟨smallHere, sum, bound, testHere, validHere⟩ :=
        fold_pack_file_checked quoted decode reader stepped
      obtain ⟨small, total, test, valid⟩ := ih next bound ran
      refine ⟨List.forall_mem_cons.mpr ⟨smallHere, small⟩, ?_, ?_,
        List.forall_mem_cons.mpr ⟨validHere, valid⟩⟩
      · simpa [sizeOfFiles, sum, Nat.add_assoc] using total
      · rw [test, testHere, List.any_cons, Bool.or_assoc]

end Fold

structure CheckedMembers (mapping : CaseMapping) (quoted : Text → Text)
    (decode : ByteArray → Except Text Json) (reader : GitReader)
    (members : List (Text × GitEntry)) : Prop where
  portable : ∀ member ∈ members, isSafeRelpath mapping member.1 = true
  entries : members.length + (packDirectories members).length ≤ maxPackEntries
  small : ∀ member ∈ members, (memberItem reader member).2.size ≤ maxPackFileBytes
  total : sizeOfFiles (members.map (memberItem reader)) ≤ maxPackBytes
  tested : ∃ member ∈ members, isPackTest member.1 = true
  manifest : ∀ member ∈ members, member.1 = "pack.json" →
    ∃ manifest, parsePackManifest quoted decode (memberItem reader member).2 = .ok manifest

theorem raw_pack_bytes_checked (mapping : CaseMapping) (quoted : Text → Text)
    (decode : ByteArray → Except Text Json) (reader : GitReader) (packPath : Text)
    (tree : Dict Text GitEntry) (read : reader.tree mapping quoted = .ok tree)
    (found : Bytes × Option (List (Text × Json)))
    (raw : rawPackBytes mapping quoted decode reader packPath = .ok found) :
    CheckedMembers mapping quoted decode reader (packMembers packPath tree) := by
  unfold rawPackBytes at raw
  rw [read] at raw
  simp only at raw
  split_ifs at raw with _ _ unsafePath _ many
  split at raw
  · cases raw
  · rename_i folded ran
    split_ifs at raw with untested
    have listed (member : Text × GitEntry) :
        member ∈ sortOn Text.le Prod.fst (packMembers packPath tree) ↔
          member ∈ packMembers packPath tree := (sort_on_perm _ _ _).mem_iff
    rcases fold_pack_files_checked quoted decode reader _ _ folded (Nat.zero_le _) ran with
      ⟨small, total, test, manifest⟩
    have sums := ((sort_on_perm Text.le Prod.fst (packMembers packPath tree)).map
      fun member => (memberItem reader member).2.size).sum_nat
    constructor
    · intro member inside
      by_contra bad
      apply unsafePath
      rw [List.any_eq_true]
      refine ⟨member, inside, ?_⟩
      simp only [Bool.or_eq_true, Bool.not_eq_true']
      exact Or.inr (by simpa using bad)
    · exact Nat.not_lt.mp many
    · intro member inside
      exact small member ((listed member).mpr inside)
    · simp only [sizeOfFiles, List.map_map, Function.comp_def, Nat.zero_add] at total ⊢
      rw [sums] at total
      exact total
    · have some : folded.hasTest = true := by simpa using untested
      rw [test, Bool.false_or, List.any_eq_true] at some
      rcases some with ⟨member, inside, isTest⟩
      exact ⟨member, (listed member).mp inside, isTest⟩
    · intro member inside
      exact manifest member ((listed member).mpr inside)

section Accepted

variable {mapping : CaseMapping} {quoted : Text → Text}
  {decode rawDecode : ByteArray → Except Text Json} {reader : GitReader} {packPath : Text}
  {pack : Pack} {tree : Dict Text GitEntry}

theorem within_limits_of_checked
    (checkout : PackCheckout mapping quoted decode rawDecode reader packPath pack tree)
    (checked : CheckedMembers mapping quoted rawDecode reader (packMembers packPath tree)) :
    pack.WithinLimits := by
  have items := member_items_perm checkout.holds
  have files : (packMembers packPath tree).length = (walkedFiles pack).length := by
    simpa using items.length_eq
  have directories : (packDirectories (packMembers packPath tree)).length =
      (walkedDirectories pack).length := by
    rw [pack_directories_eq checkout.holds checkout.full, (Text.sorted_perm _).length_eq,
      List.length_map]
  constructor
  · have listed : pack.listing.paths ⊆ [] :: (walkedDirectories pack ++ walkedFiles pack) := by
      intro path inside
      rw [pack.listing.complete] at inside
      simp only [List.mem_cons, List.mem_append, mem_walked_directories, mem_walked_files]
      by_cases root : path = []
      · exact Or.inl root
      · cases kind : pack.listing.isDirectory path with
        | true => exact Or.inr (Or.inl ⟨root, rfl⟩)
        | false => exact Or.inr (Or.inr ⟨inside, rfl⟩)
    have bound := (List.subperm_of_subset pack.listing.distinct listed).length_le
    have entries := checked.entries
    simp only [List.length_cons, List.length_append] at bound
    omega
  · intro path mode data stored
    have walked : path ∈ walkedFiles pack := by
      rw [mem_walked_files, Listing.isDirectory, stored]
      exact ⟨rfl, rfl⟩
    have member : fileItem pack path ∈ (packMembers packPath tree).map (memberItem reader) :=
      items.mem_iff.mpr (List.mem_map_of_mem walked)
    rcases List.mem_map.mp member with ⟨found, inside, same⟩
    have small := checked.small found inside
    rw [same] at small
    simpa [fileItem, dataAt, stored, fileData] using small
  · have same : (walkedFiles pack).Perm
        (pack.listing.paths.filter fun path => !pack.listing.isDirectory path) := by
      rw [List.perm_ext_iff_of_nodup (walked_files_nodup pack) (pack.listing.distinct.filter _)]
      intro path
      rw [mem_walked_files, List.mem_filter, pack.listing.complete, Bool.not_eq_true']
    have total := checked.total
    rw [sizeOfFiles, (items.map fun file => file.2.size).sum_nat, List.map_map] at total
    rw [← (same.map fun path => (dataAt pack path).size).sum_nat]
    exact total

theorem load_pack_manifest_checked (found : Option (List (Text × Json)))
    (loaded : loadPackManifest quoted decode pack = .ok found) (node : Node)
    (stored : pack.listing.entry ["pack.json"] = some node) :
    ∃ mode data, node = .file mode data ∧ data.size ≤ maxPackManifestBytes ∧
      ∃ manifest, decode data = .ok manifest ∧ manifestProblems quoted manifest = [] := by
  unfold loadPackManifest at loaded
  rw [stored] at loaded
  split at loaded
  · rename_i absent
    cases absent
  · rename_i mode data same
    split_ifs at loaded with large
    unfold checkedManifest at loaded
    split at loaded
    · cases loaded
    · rename_i manifest decoded
      split_ifs at loaded with sound
      exact ⟨mode, data, Option.some.inj same, Nat.not_lt.mp large, manifest, decoded,
        List.isEmpty_iff.mp sound⟩
  · cases loaded

section

variable (checkout : PackCheckout mapping quoted decode rawDecode reader packPath pack tree)
  (identity git : Text × Option (List (Text × Json)))
  (taken : digestAndManifest quoted decode pack = .ok identity)
  (raw : rawPackIdentity mapping quoted rawDecode reader packPath = .ok git)
include checkout raw taken

theorem finalizable_of_identities :
    Finalizable mapping quoted decode rawDecode pack := by
  have checked : CheckedMembers mapping quoted rawDecode reader (packMembers packPath tree) := by
    cases found : rawPackBytes mapping quoted rawDecode reader packPath with
    | error problem =>
      rw [rawPackIdentity, found] at raw
      cases raw
    | ok bytes => exact raw_pack_bytes_checked _ _ _ _ _ _ checkout.holds.read bytes found
  have loaded : ∃ found, loadPackManifest quoted decode pack = .ok found := by
    cases found : loadPackManifest quoted decode pack with
    | ok manifest => exact ⟨manifest, rfl⟩
    | error problem =>
      unfold digestAndManifest digestedBytesAndManifest at taken
      rw [found] at taken
      split at taken
      · cases taken
      · split_ifs at taken
        · cases taken
        · split at taken <;> cases taken
  have member (path : List Text) (walked : path ∈ walkedFiles pack) :
      ∃ found ∈ packMembers packPath tree, memberItem reader found = fileItem pack path := by
    have among := (member_items_perm checkout.holds).mem_iff.mpr
      (List.mem_map_of_mem (f := fileItem pack) walked)
    exact List.mem_map.mp among
  constructor
  · exact checkout.onlyFiles
  · exact checkout.full
  · exact within_limits_of_checked checkout checked
  · intro path walked
    rcases member path walked with ⟨found, inside, same⟩
    have portable := checked.portable found inside
    rwa [show found.1 = relativePackPath path from congrArg Prod.fst same] at portable
  · exact checkout.framed
  · rcases checked.tested with ⟨found, inside, isTest⟩
    rcases member_of_walked checkout.holds found.1 found.2 inside with ⟨_, path, walked, same⟩
    refine ⟨path, walked, ?_⟩
    rwa [show found.1 = relativePackPath path from congrArg Prod.fst same] at isTest
  · intro node stored
    rcases loaded with ⟨found, loads⟩
    rcases load_pack_manifest_checked found loads node stored with
      ⟨mode, data, file, small, manifest, decoded, sound⟩
    refine ⟨mode, data, file, small, manifest, decoded, ?_, sound⟩
    subst file
    have walked : ["pack.json".toList] ∈ walkedFiles pack := by
      rw [mem_walked_files, Listing.isDirectory, stored]
      exact ⟨rfl, rfl⟩
    rcases member _ walked with ⟨held, inside, same⟩
    have content : (memberItem reader held).2 = data := by
      rw [same]
      simp only [fileItem, dataAt, stored, fileData, Option.getD_some]
    rcases checked.manifest held inside (congrArg Prod.fst same) with ⟨parsed, read⟩
    rw [content] at read
    unfold parsePackManifest at read
    split_ifs at read
    split at read
    · cases read
    · rename_i rawManifest rawDecoded
      have agreed := checkout.decoders data rawManifest rawDecoded
      rw [decoded, Except.ok.injEq] at agreed
      rw [agreed]
      exact rawDecoded

/-- Two identities of one pack are the same where the walk ascends, and elsewhere only where the
two streams collide. -/
theorem identities_agree_iff :
    identity = git ↔ pack.WalkAscends ∨
      StreamsCollide mapping quoted decode rawDecode reader packPath pack := by
  have fits := finalizable_of_identities checkout identity git taken raw
  have left := checkout_bytes_ok fits
  have right := raw_pack_bytes_ok checkout.holds fits
  rw [digestAndManifest, left] at taken
  rw [rawPackIdentity, right] at raw
  cases taken
  cases raw
  rw [Prod.mk.injEq, and_iff_left rfl]
  constructor
  · intro same
    by_cases ascends : pack.WalkAscends
    · exact Or.inl ascends
    · apply Or.inr
      refine ⟨_, _, _, left, right, ?_, same⟩
      intro equal
      exact ascends ((streams_agree_iff fits).mp equal)
  · intro agree
    rcases agree with ascends | ⟨first, second, manifest, first_ok, second_ok, _, same⟩
    · exact congrArg Sha256.hexdigestBytes ((streams_agree_iff fits).mpr ascends)
    · rw [left] at first_ok
      rw [right] at second_ok
      cases first_ok
      cases second_ok
      exact same

end

end Accepted

end EvoomGuard.Finalizer
