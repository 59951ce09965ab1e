import EvoomGuard.Lib.Differences
import EvoomGuard.Runtime.Scan

/-!
What a scan of a stable tree yields: one record for each entry, in the order of the components of
the paths. The loop ends, and what it has recorded together with what its stack still stands for
is the preorder of the tree at every turn.
-/

namespace EvoomGuard.Runtime

open Lib Lib.Framing

/-- The path of a record, built from the root down. -/
def relOf (path : List Bytes) : Bytes := path.foldl childRel dot

/-- The comparison key of `runtime_identity_changes`. -/
def recordKey (path : Bytes) : List Bytes := if path = dot then [] else components path

theorem rel_of_child (path : List Bytes) (name : Bytes) :
    childRel (relOf path) name = relOf (path ++ [name]) := by
  simp [relOf]

theorem components_name (name : Bytes) (free : slash ∉ name) : components name = [name] := by
  unfold components
  exact List.splitOn_eq_singleton free

theorem entry_name_facts (name : Bytes) (proper : isEntryName name = true) :
    name ≠ dot ∧ slash ∉ name := by
  simp only [isEntryName, Bool.and_eq_true, bne_iff_ne, ne_eq, Bool.not_eq_true',
    List.contains_eq_mem, decide_eq_false_iff_not] at proper
  exact ⟨proper.1.1.2, proper.2⟩

section Tree

variable (tree : RuntimeTree)

theorem present_above (path : List Bytes) (name : Bytes)
    (present : (tree.listing.entry (path ++ [name])).isSome = true) :
    (tree.listing.entry path).isSome = true :=
  tree.listing.is_some_of_directory path (tree.listing.parent path name present)

theorem record_key_rel (path : List Bytes) (present : (tree.listing.entry path).isSome = true) :
    recordKey (relOf path) = path ∧ (path ≠ [] → relOf path ≠ dot) := by
  induction path using List.reverseRecOn with
  | nil => exact ⟨rfl, fun other => absurd rfl other⟩
  | append_singleton path name ih =>
    have above := ih (present_above tree path name present)
    have facts := entry_name_facts name (tree.named path name present)
    rw [← rel_of_child]
    by_cases root : path = []
    · subst root
      have joined : childRel (relOf []) name = name := by simp [childRel, relOf]
      rw [joined, recordKey, if_neg facts.1, components_name name facts.2]
      exact ⟨rfl, fun _ => facts.1⟩
    · have joined : childRel (relOf path) name = relOf path ++ slash :: name := by
        rw [childRel, if_neg (above.2 root)]
      have other : relOf path ++ slash :: name ≠ dot := by
        intro same
        have inside : slash ∈ dot := by
          rw [← same]
          simp
        exact absurd inside (by decide)
      have key : components (relOf path) = path := by
        have known := above.1
        rwa [recordKey, if_neg (above.2 root)] at known
      rw [joined, recordKey, if_neg other]
      constructor
      · rw [components, List.splitOn_append_cons_self]
        exact congrArg₂ (· ++ ·) key (components_name name facts.2)
      · intro _
        exact other

def entryRecord (path : List Bytes) : Option RuntimeEntry :=
  match tree.listing.entry path with
  | some (.directory permissions) => some ⟨relOf path, .dir, permissions, 0, []⟩
  | some (.file permissions data) =>
    some ⟨relOf path, .file, permissions, data.size, utf8 (Sha256.hexdigestBytes data.toList)⟩
  | some (.link permissions target) => some ⟨relOf path, .link, permissions, 0, target⟩
  | some .special => none
  | none => none

def WorkItem.pending (item : WorkItem) : List (List Bytes) :=
  match item.action with
  | .exit => []
  | _ => Listing.preorder tree.listing bytesLe item.components

structure WorkItem.Sound (item : WorkItem) : Prop where
  rel : item.rel = relOf item.components
  present : (tree.listing.entry item.components).isSome = true
  entered : item.action = .enter → tree.listing.isDirectory item.components = true
  leaf : item.action = .leaf → tree.listing.isDirectory item.components = false

def SoundStack (stack : List WorkItem) : Prop := ∀ item ∈ stack, item.Sound tree

/-- The records written and the records to come. -/
def outline (state : ScanState) : List (Option RuntimeEntry) :=
  state.records.map some ++
    (state.stack.flatMap (WorkItem.pending tree)).map (entryRecord tree)

variable (limits : ScanLimits) (expired : Nat → Bool)

theorem read_regular_ok (name : Bytes) (data : ByteArray) (budget after : ScanBudget)
    (size : Nat) (digest : Bytes)
    (reading : readRegular limits expired name data budget = .ok (size, digest, after)) :
    size = data.size ∧ digest = utf8 (Sha256.hexdigestBytes data.toList) := by
  -- named, so that the kernel does not count the chunks down one by one
  obtain ⟨chunks, count⟩ : ∃ chunks, chunks = (data.size + chunkSize - 1) / chunkSize := ⟨_, rfl⟩
  rw [readRegular, ← count] at reading
  split at reading
  · cases reading
  · split at reading
    · cases reading
    · split at reading
      · cases reading
      · rw [Except.ok.injEq, Prod.mk.injEq, Prod.mk.injEq] at reading
        exact ⟨reading.1.symm, reading.2.1.symm⟩

variable (item : WorkItem)

theorem leaf_entry_record (budget after : ScanBudget) (record : RuntimeEntry)
    (sound : item.Sound tree)
    (read : descriptorLeafEntry tree limits expired item budget = .ok (record, after)) :
    entryRecord tree item.components = some record := by
  unfold descriptorLeafEntry at read
  unfold entryRecord
  rw [← sound.rel]
  cases found : tree.listing.entry item.components with
  | none => simp [found] at read
  | some object =>
    rw [found] at read
    cases object with
    | directory permissions | special => cases read
    | link permissions target =>
      simp only at read
      split at read
      · cases read
      · cases read
        rfl
    | file permissions data =>
      simp only at read
      split at read
      · cases read
      · next size digest _ reading =>
          have regular := read_regular_ok limits expired _ data budget _ size digest reading
          rw [Except.ok.injEq, Prod.mk.injEq] at read
          rw [← read.1, regular.1, regular.2]

theorem child_sound (sound : item.Sound tree) (name : Bytes)
    (inside : name ∈ namesAt tree item.components) : (childItem tree item name).Sound tree where
  rel := by
    rw [childItem, sound.rel]
    exact rel_of_child item.components name
  present := (Listing.mem_sorted_names tree.listing bytesLe item.components name).mp inside
  entered := by
    intro action
    unfold childItem at action ⊢
    cases kind : tree.listing.isDirectory (item.components ++ [name]) with
    | true => rfl
    | false => simp [kind] at action
  leaf := by
    intro action
    unfold childItem at action ⊢
    cases kind : tree.listing.isDirectory (item.components ++ [name]) with
    | true => simp [kind] at action
    | false => rfl

theorem child_pending (name : Bytes) :
    (childItem tree item name).pending tree =
      Listing.preorder tree.listing bytesLe (item.components ++ [name]) := by
  unfold childItem WorkItem.pending
  cases tree.listing.isDirectory (item.components ++ [name]) with
  | true => rfl
  | false => rfl

theorem children_pending (names : List Bytes) :
    (names.map (childItem tree item)).flatMap (WorkItem.pending tree) =
      names.flatMap fun name =>
        Listing.preorder tree.listing bytesLe (item.components ++ [name]) := by
  rw [List.flatMap_map]
  congr 1
  funext name
  exact child_pending tree item name

def WorkItem.turns (item : WorkItem) : Nat :=
  match item.action with
  | .exit => 1
  | _ => 2 * (Listing.preorder tree.listing bytesLe item.components).length

def turnsLeft (stack : List WorkItem) : Nat := (stack.map (WorkItem.turns tree)).sum

theorem children_turns (names : List Bytes) :
    turnsLeft tree (names.map (childItem tree item)) =
      2 * (names.flatMap fun name =>
        Listing.preorder tree.listing bytesLe (item.components ++ [name])).length := by
  have turns (name : Bytes) : (childItem tree item name).turns tree =
      2 * (Listing.preorder tree.listing bytesLe (item.components ++ [name])).length := by
    unfold childItem WorkItem.turns
    cases tree.listing.isDirectory (item.components ++ [name]) with
    | true => rfl
    | false => rfl
  induction names with
  | nil => rfl
  | cons name rest ih =>
    unfold turnsLeft at ih ⊢
    simp only [List.map_cons, List.sum_cons, List.flatMap_cons, List.length_append, turns, ih]
    omega

/-- A turn keeps the stack sound and the outline as it is, and brings the end nearer. -/
theorem scan_item_keeps (stack : List WorkItem) (records : List RuntimeEntry)
    (budget : ScanBudget) (state : ScanState) (sound : SoundStack tree (item :: stack))
    (taken : scanItem tree limits expired item stack records budget = .ok state) :
    SoundStack tree state.stack ∧
      outline tree state = outline tree ⟨item :: stack, records, budget⟩ ∧
      turnsLeft tree state.stack < turnsLeft tree (item :: stack) := by
  have here := sound item List.mem_cons_self
  have below : SoundStack tree stack := fun other inside =>
    sound other (List.mem_cons_of_mem item inside)
  unfold scanItem at taken
  cases action : item.action with
  | leaf =>
    have alone := Listing.preorder_leaf tree.listing bytesLe item.components here.present
      (here.leaf action)
    rw [action] at taken
    simp only at taken
    split at taken
    · cases taken
    · next record after reading =>
        cases taken
        have written := leaf_entry_record tree limits expired item budget after record here reading
        refine ⟨below, ?_, ?_⟩
        · simp [outline, WorkItem.pending, action, alone, written]
        · simp [turnsLeft, WorkItem.turns, action, alone]
  | exit =>
    rw [action] at taken
    simp only at taken
    split at taken
    · cases taken
      refine ⟨below, ?_, ?_⟩
      · simp [outline, WorkItem.pending, action]
      · simp [turnsLeft, WorkItem.turns, action]
    · cases taken
  | enter =>
    have step := Listing.preorder_step tree.listing bytesLe item.components here.present
    rw [action] at taken
    simp only at taken
    split at taken
    · next permissions found =>
        split at taken
        · cases taken
        · next after discovered =>
            cases taken
            have written : entryRecord tree item.components =
                some ⟨item.rel, .dir, permissions, 0, []⟩ := by
              rw [entryRecord, found, here.rel]
            refine ⟨?_, ?_, ?_⟩
            · intro other inside
              rcases List.mem_append.mp inside with child | rest
              · rcases List.mem_map.mp child with ⟨name, named, made⟩
                rw [← made]
                exact child_sound tree item here name named
              · rcases List.mem_cons.mp rest with exit | rest
                · rw [exit]
                  exact ⟨here.rel, here.present, fun wrong => (nomatch wrong),
                    fun wrong => (nomatch wrong)⟩
                · exact below other rest
            · simp only [outline, List.flatMap_append, List.flatMap_cons, children_pending,
                WorkItem.pending, action, step, List.map_append, List.map_cons, List.map_nil,
                written, List.nil_append, List.append_assoc, List.cons_append, namesAt]
            · have children := children_turns tree item (namesAt tree item.components)
              unfold namesAt at children
              simp only [turnsLeft, List.map_append, List.sum_append, List.map_cons,
                List.sum_cons, WorkItem.turns, action, step, List.length_cons] at children ⊢
              unfold namesAt
              omega
    · cases taken

theorem scan_loop_ends (fuel : Nat) (state : ScanState) (sound : SoundStack tree state.stack)
    (enough : turnsLeft tree state.stack ≤ fuel) :
    (scanLoop tree limits expired fuel state).isSome = true := by
  induction fuel generalizing state with
  | zero =>
    rcases state with ⟨stack, records, budget⟩
    cases stack with
    | nil => rfl
    | cons item stack =>
      have one : 1 ≤ item.turns tree := by
        have here := (sound item List.mem_cons_self).present
        have step := Listing.preorder_step tree.listing bytesLe item.components here
        unfold WorkItem.turns
        split
        · omega
        · rw [step]
          simp only [List.length_cons]
          omega
      simp only [turnsLeft, List.map_cons, List.sum_cons] at enough
      omega
  | succ fuel ih =>
    rcases state with ⟨stack, records, budget⟩
    cases stack with
    | nil => rfl
    | cons item stack =>
      rw [scanLoop]
      split
      · rfl
      · next after _ =>
          split
          · rfl
          · next next taken =>
              have kept := scan_item_keeps tree limits expired item stack records after next
                sound taken
              apply ih next kept.1
              simp only at enough
              omega

theorem scan_loop_outline (fuel : Nat) (state final : ScanState)
    (sound : SoundStack tree state.stack)
    (ran : scanLoop tree limits expired fuel state = some (.ok final)) :
    final.records.map some = outline tree state := by
  induction fuel generalizing state with
  | zero =>
    rcases state with ⟨stack, records, budget⟩
    cases stack with
    | nil =>
      simp only [scanLoop, Option.some.injEq, Except.ok.injEq] at ran
      subst ran
      simp [outline]
    | cons item stack => cases ran
  | succ fuel ih =>
    rcases state with ⟨stack, records, budget⟩
    cases stack with
    | nil =>
      simp only [scanLoop, Option.some.injEq, Except.ok.injEq] at ran
      subst ran
      simp [outline]
    | cons item stack =>
      rw [scanLoop] at ran
      split at ran
      · cases ran
      · next after _ =>
          split at ran
          · cases ran
          · next next taken =>
              have kept := scan_item_keeps tree limits expired item stack records after next
                sound taken
              rw [ih next kept.1 ran, kept.2.1]
              rfl

theorem root_sound : SoundStack tree [⟨.enter, [], dot, []⟩] := by
  intro item inside
  rw [List.mem_singleton] at inside
  subst inside
  exact ⟨rfl, tree.listing.is_some_of_directory [] tree.listing.root, fun _ => tree.listing.root,
    fun wrong => (nomatch wrong)⟩

theorem scan_ends : (scanTreeDescriptors tree limits expired).isSome = true := by
  unfold scanTreeDescriptors
  split
  · rfl
  · apply scan_loop_ends tree limits expired _ _ (root_sound tree)
    have total := Listing.preorder_root_length tree.listing bytesLe bytes_order
    simp only [turnsLeft, WorkItem.turns, List.map_cons, List.map_nil, List.sum_cons, List.sum_nil,
      total]
    omega

theorem scan_records (final : ScanState)
    (scanned : scanTreeDescriptors tree limits expired = some (.ok final)) :
    final.records.map some =
      (Listing.preorder tree.listing bytesLe []).map (entryRecord tree) := by
  unfold scanTreeDescriptors at scanned
  split at scanned
  · cases scanned
  · rw [scan_loop_outline tree limits expired _ _ final (root_sound tree) scanned]
    simp [outline, WorkItem.pending]

/-- Every entry has exactly one record, and the records ascend by the components of their paths. -/
structure Emits (records : List RuntimeEntry) : Prop where
  ascending : AscendingOn (lexLe bytesLe) (fun record => recordKey record.path) records
  complete : ∀ path, (tree.listing.entry path).isSome = true →
    ∃ record ∈ records, entryRecord tree path = some record
  sound : ∀ record ∈ records, entryRecord tree (recordKey record.path) = some record

theorem entry_record_path (path : List Bytes) (record : RuntimeEntry)
    (written : entryRecord tree path = some record) :
    record.path = relOf path ∧ recordKey record.path = path := by
  have named : record.path = relOf path ∧ (tree.listing.entry path).isSome = true := by
    unfold entryRecord at written
    cases found : tree.listing.entry path with
    | none => simp [found] at written
    | some object =>
      rw [found] at written
      cases object with
      | special => cases written
      | directory permissions | file permissions data | link permissions target =>
        cases written
        exact ⟨rfl, rfl⟩
  refine ⟨named.1, ?_⟩
  rw [named.1]
  exact (record_key_rel tree path named.2).1

theorem keys_of_records (records : List RuntimeEntry) (paths : List (List Bytes))
    (written : records.map some = paths.map (entryRecord tree)) :
    (records.map fun record => recordKey record.path) = paths := by
  induction records generalizing paths with
  | nil =>
    cases paths with
    | nil => rfl
    | cons path rest => cases written
  | cons record records ih =>
    cases paths with
    | nil => cases written
    | cons path rest =>
      simp only [List.map_cons, List.cons.injEq] at written
      rw [List.map_cons, ih rest written.2, (entry_record_path tree path record written.1.symm).2]

theorem emits_of_preorder (records : List RuntimeEntry)
    (written : records.map some = (Listing.preorder tree.listing bytesLe []).map (entryRecord tree)) :
    Emits tree records := by
  have each (record : RuntimeEntry) : record ∈ records ↔
      ∃ path ∈ Listing.preorder tree.listing bytesLe [], entryRecord tree path = some record := by
    rw [← List.mem_map, ← written]
    simp
  constructor
  · have keys : (records.map fun record => recordKey record.path) =
        Listing.preorder tree.listing bytesLe [] :=
      keys_of_records tree records _ written
    have ascends := Listing.preorder_ascends tree.listing bytesLe bytes_order []
    rw [← keys, List.pairwise_map] at ascends
    exact ascends
  · intro path present
    have inside := (Listing.mem_preorder_root tree.listing bytesLe path).mpr present
    have some_ : entryRecord tree path ∈ records.map some := by
      rw [written]
      exact List.mem_map_of_mem inside
    rcases List.mem_map.mp some_ with ⟨record, found, made⟩
    exact ⟨record, found, made.symm⟩
  · intro record inside
    rcases (each record).mp inside with ⟨path, _, made⟩
    rw [(entry_record_path tree path record made).2]
    exact made

end Tree

theorem capture_ends (tree : RuntimeTree) (limits : ScanLimits) (expired : Nat → Bool) :
    (captureRuntimeIdentity tree limits expired).isSome = true := by
  unfold captureRuntimeIdentity
  split
  · rfl
  · rw [Option.isSome_map]
    exact scan_ends tree limits expired

theorem capture_ok (tree : RuntimeTree) (limits : ScanLimits) (expired : Nat → Bool)
    (identity : RuntimeIdentity)
    (captured : captureRuntimeIdentity tree limits expired = some (.ok identity)) :
    Emits tree identity.records ∧ identity.sha256 = digestRecords identity.records := by
  unfold captureRuntimeIdentity at captured
  split at captured
  · cases captured
  · rw [Option.map_eq_some_iff] at captured
    rcases captured with ⟨scanned, ran, made⟩
    cases scanned with
    | error problem => cases made
    | ok final =>
      have ascends := emits_of_preorder tree _ (scan_records tree limits expired final ran)
      rw [Except.ok.injEq] at made
      rw [← made]
      exact ⟨ascends, Eq.refl _⟩

end EvoomGuard.Runtime
