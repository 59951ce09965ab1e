import EvoomGuard.Runtime.ScanRecords

/-!
When a scan comes to its end: a tree of directories and regular files that fits the limits, read
before the deadline, is captured. At every turn the budget has room for what the stack still
stands for.
-/

namespace EvoomGuard.Runtime

open Lib Lib.Framing

/-- Directories and regular files only; `longest` bounds the paths and `largest` the files. -/
structure FitsLimits (tree : RuntimeTree) (limits : ScanLimits) (longest largest : Nat) : Prop where
  plain : ∀ path object, tree.listing.entry path = some object →
    (∃ permissions, object = .directory permissions) ∨
      ∃ permissions data, object = .file permissions data ∧ data.size ≤ largest
  path : ∀ path, (tree.listing.entry path).isSome = true → (relOf path).length ≤ longest
  entries : tree.listing.paths.length ≤ limits.maxEntries
  pathBytes : tree.listing.paths.length * longest ≤ limits.maxPathBytes
  fileBytes : largest ≤ limits.maxFileBytes
  logicalBytes : tree.listing.paths.length * largest ≤ limits.maxLogicalBytes
  positive : 0 < limits.maxEntries ∧ 0 < limits.maxPathBytes ∧ 0 < limits.maxLogicalBytes ∧
    0 < limits.maxFileBytes

section Room

variable (tree : RuntimeTree) (limits : ScanLimits) (expired : Nat → Bool)

/-- The records to come, and those among them whose paths are not discovered yet. -/
def recordsLeft (stack : List WorkItem) : Nat :=
  (stack.map fun item => (item.pending tree).length).sum

def pathsAhead (stack : List WorkItem) : Nat :=
  (stack.map fun item => (item.pending tree).length - 1).sum

structure HasRoom (longest largest : Nat) (stack : List WorkItem) (budget : ScanBudget) : Prop where
  entries : budget.discoveredEntries + pathsAhead tree stack ≤ tree.listing.paths.length
  pathBytes : budget.pathBytes ≤ budget.discoveredEntries * longest
  logicalBytes : budget.logicalBytes + recordsLeft tree stack * largest ≤
    tree.listing.paths.length * largest
  settled : ∀ item ∈ stack, item.action = .exit → item.names = namesAt tree item.components

variable (item : WorkItem)

theorem records_left_cons (stack : List WorkItem) :
    recordsLeft tree (item :: stack) = (item.pending tree).length + recordsLeft tree stack := by
  simp [recordsLeft]

theorem paths_ahead_cons (stack : List WorkItem) :
    pathsAhead tree (item :: stack) = (item.pending tree).length - 1 + pathsAhead tree stack := by
  simp [pathsAhead]

theorem records_left_append (above stack : List WorkItem) :
    recordsLeft tree (above ++ stack) = recordsLeft tree above + recordsLeft tree stack := by
  simp [recordsLeft]

theorem paths_ahead_append (above stack : List WorkItem) :
    pathsAhead tree (above ++ stack) = pathsAhead tree above + pathsAhead tree stack := by
  simp [pathsAhead]

theorem children_left (names : List Bytes) :
    recordsLeft tree (names.map (childItem tree item)) =
      (names.flatMap fun name =>
        Listing.preorder tree.listing bytesLe (item.components ++ [name])).length := by
  induction names with
  | nil => rfl
  | cons name rest ih =>
    unfold recordsLeft at ih ⊢
    simp only [List.map_cons, List.sum_cons, List.flatMap_cons, List.length_append, ih,
      child_pending]

theorem children_ahead (names : List Bytes)
    (inside : ∀ name ∈ names, name ∈ namesAt tree item.components) :
    pathsAhead tree (names.map (childItem tree item)) + names.length =
      recordsLeft tree (names.map (childItem tree item)) := by
  induction names with
  | nil => rfl
  | cons name rest ih =>
    have later := ih fun other member => inside other (List.mem_cons_of_mem name member)
    have present := (Listing.mem_sorted_names tree.listing bytesLe item.components name).mp
      (inside name List.mem_cons_self)
    have one : 1 ≤ ((childItem tree item name).pending tree).length := by
      rw [child_pending, Listing.preorder_step tree.listing bytesLe _ present]
      simp
    unfold pathsAhead recordsLeft at later ⊢
    simp only [List.map_cons, List.sum_cons, List.length_cons]
    omega

variable {limits} {expired} {longest largest : Nat} (running : ∀ reading, expired reading = false)

include running

theorem deadline_ahead (budget : ScanBudget) :
    checkDeadline expired budget = .ok { budget with readings := budget.readings + 1 } := by
  rw [checkDeadline, running]
  rfl

variable (limits) in
theorem discover_entry_succeeds (path : Bytes) (budget : ScanBudget)
    (entries : budget.discoveredEntries < limits.maxEntries)
    (pathBytes : budget.pathBytes + path.length ≤ limits.maxPathBytes) :
    ∃ readings, discoverEntry limits expired path budget =
      .ok ⟨budget.discoveredEntries + 1, budget.pathBytes + path.length, budget.logicalBytes,
        readings⟩ := by
  refine ⟨budget.readings + 1, ?_⟩
  rw [discoverEntry, deadline_ahead running]
  simp only
  rw [if_neg (by omega), if_neg (by omega)]

theorem discover_children_succeeds (fits : FitsLimits tree limits longest largest) (rel : Bytes)
    (names : List Bytes) : ∀ budget : ScanBudget,
      (∀ name ∈ names, (childRel rel name).length ≤ longest) →
      budget.discoveredEntries + names.length ≤ tree.listing.paths.length →
      budget.pathBytes ≤ budget.discoveredEntries * longest →
      ∃ after, discoverChildren limits expired rel names budget = .ok after ∧
        after.discoveredEntries = budget.discoveredEntries + names.length ∧
        after.pathBytes ≤ after.discoveredEntries * longest ∧
        after.logicalBytes = budget.logicalBytes := by
  induction names with
  | nil =>
    intro budget _ _ pathBytes
    exact ⟨budget, rfl, rfl, pathBytes, rfl⟩
  | cons name rest ih =>
    intro budget short entries pathBytes
    rw [List.length_cons] at entries
    have here := short name List.mem_cons_self
    have next : budget.pathBytes + (childRel rel name).length ≤
        (budget.discoveredEntries + 1) * longest := by
      rw [Nat.succ_mul]
      omega
    have room : (budget.discoveredEntries + 1) * longest ≤ limits.maxPathBytes :=
      le_trans (Nat.mul_le_mul_right longest (by omega)) fits.pathBytes
    have known := fits.entries
    obtain ⟨readings, discovered⟩ := discover_entry_succeeds limits running
      (childRel rel name) budget (by omega) (le_trans next room)
    obtain ⟨after, ran, count, bytes, logical⟩ := ih
      ⟨budget.discoveredEntries + 1, budget.pathBytes + (childRel rel name).length,
        budget.logicalBytes, readings⟩
      (fun other member => short other (List.mem_cons_of_mem name member))
      (by simp only; omega) next
    refine ⟨after, ?_, ?_, bytes, logical⟩
    · rw [discoverChildren, discovered]
      exact ran
    · rw [count, List.length_cons]
      simp only
      omega

theorem read_chunks_succeeds (chunks : Nat) : ∀ budget : ScanBudget,
    ∃ readings, readChunks expired chunks budget = .ok { budget with readings := readings } := by
  induction chunks with
  | zero =>
    intro budget
    exact ⟨budget.readings + 1, deadline_ahead running budget⟩
  | succ chunks ih =>
    intro budget
    rw [readChunks, deadline_ahead running]
    exact ih _

variable (limits) in
theorem read_regular_succeeds (name : Bytes) (data : ByteArray) (budget : ScanBudget)
    (fileBytes : data.size ≤ limits.maxFileBytes)
    (logicalBytes : budget.logicalBytes + data.size ≤ limits.maxLogicalBytes) :
    ∃ readings, readRegular limits expired name data budget =
      .ok (data.size, utf8 (Sha256.hexdigestBytes data.toList),
        ⟨budget.discoveredEntries, budget.pathBytes, budget.logicalBytes + data.size,
          readings⟩) := by
  -- named, so that the kernel does not count the chunks down one by one
  obtain ⟨chunks, count⟩ : ∃ chunks, chunks = (data.size + chunkSize - 1) / chunkSize := ⟨_, rfl⟩
  have reserved : reserveFile limits expired name data.size budget =
      .ok ⟨budget.discoveredEntries, budget.pathBytes, budget.logicalBytes + data.size,
        budget.readings + 1⟩ := by
    rw [reserveFile, deadline_ahead running]
    simp only
    rw [if_neg (by omega), if_neg (by omega)]
  obtain ⟨readings, ran⟩ := read_chunks_succeeds running chunks
    ⟨budget.discoveredEntries, budget.pathBytes, budget.logicalBytes + data.size,
      budget.readings + 1⟩
  refine ⟨readings, ?_⟩
  rw [readRegular, if_neg (by omega), reserved, ← count]
  simp only
  rw [ran]

/-- A turn succeeds and leaves room for the rest. -/
theorem scan_item_succeeds (fits : FitsLimits tree limits longest largest) (item : WorkItem)
    (stack : List WorkItem) (records : List RuntimeEntry) (budget : ScanBudget)
    (sound : SoundStack tree (item :: stack))
    (room : HasRoom tree longest largest (item :: stack) budget) :
    ∃ state, scanItem tree limits expired item stack records budget = .ok state ∧
      HasRoom tree longest largest state.stack state.budget := by
  have here := sound item List.mem_cons_self
  have below : ∀ other ∈ stack, other.action = .exit →
      other.names = namesAt tree other.components :=
    fun other member => room.settled other (List.mem_cons_of_mem item member)
  have entries := room.entries
  have logicalBytes := room.logicalBytes
  rw [paths_ahead_cons] at entries
  rw [records_left_cons, Nat.add_mul] at logicalBytes
  obtain ⟨object, found⟩ := Option.isSome_iff_exists.mp here.present
  cases action : item.action with
  | exit =>
    have settled := room.settled item List.mem_cons_self action
    refine ⟨⟨stack, records, budget⟩, ?_, ?_⟩
    · rw [scanItem, action]
      simp only
      rw [if_pos settled]
    · constructor
      · simp only
        omega
      · exact room.pathBytes
      · simp only
        omega
      · exact below
  | leaf =>
    have alone := Listing.preorder_leaf tree.listing bytesLe item.components here.present
      (here.leaf action)
    have pending : item.pending tree = [item.components] := by
      rw [WorkItem.pending, action]
      exact alone
    rw [pending, List.length_singleton] at entries logicalBytes
    rw [Nat.one_mul] at logicalBytes
    obtain ⟨permissions, other⟩ | ⟨permissions, data, regular, small⟩ :=
      fits.plain item.components object found
    · have leaf := here.leaf action
      rw [Listing.isDirectory, found, other] at leaf
      cases leaf
    · have fileBytes := fits.fileBytes
      have total := fits.logicalBytes
      obtain ⟨readings, ran⟩ := read_regular_succeeds limits running
        (item.components.getLastD []) data budget (by omega) (by omega)
      refine ⟨⟨stack, records ++ [⟨item.rel, .file, permissions, data.size,
          utf8 (Sha256.hexdigestBytes data.toList)⟩],
        ⟨budget.discoveredEntries, budget.pathBytes, budget.logicalBytes + data.size,
          readings⟩⟩, ?_, ?_⟩
      · rw [scanItem, action]
        simp only
        rw [descriptorLeafEntry, found, regular]
        simp only
        rw [ran]
      · constructor
        · simp only
          omega
        · exact room.pathBytes
        · simp only
          omega
        · exact below
  | enter =>
    obtain ⟨permissions, directory⟩ | ⟨permissions, data, other, small⟩ :=
      fits.plain item.components object found
    · have step := Listing.preorder_step tree.listing bytesLe item.components here.present
      have left := children_left tree item (namesAt tree item.components)
      have ahead := children_ahead tree item (namesAt tree item.components) fun _ member => member
      have pending : (item.pending tree).length =
          recordsLeft tree ((namesAt tree item.components).map (childItem tree item)) + 1 := by
        rw [left, WorkItem.pending, action]
        simp only [step, List.length_cons, namesAt]
      have ended : recordsLeft tree
            ({ item with action := .exit, names := namesAt tree item.components } :: stack) =
          recordsLeft tree stack := by
        simp [records_left_cons, WorkItem.pending]
      have closed : pathsAhead tree
            ({ item with action := .exit, names := namesAt tree item.components } :: stack) =
          pathsAhead tree stack := by
        simp [paths_ahead_cons, WorkItem.pending]
      rw [pending] at entries logicalBytes
      rw [Nat.succ_mul] at logicalBytes
      have short : ∀ name ∈ namesAt tree item.components,
          (childRel item.rel name).length ≤ longest := by
        intro name member
        rw [here.rel, rel_of_child]
        exact fits.path _
          ((Listing.mem_sorted_names tree.listing bytesLe item.components name).mp member)
      obtain ⟨after, discovered, count, bytes, logical⟩ := discover_children_succeeds tree running
        fits item.rel (namesAt tree item.components) budget short (by omega) room.pathBytes
      refine ⟨⟨(namesAt tree item.components).map (childItem tree item) ++
          ({ item with action := .exit, names := namesAt tree item.components } :: stack),
        records ++ [⟨item.rel, .dir, permissions, 0, []⟩], after⟩, ?_, ?_⟩
      · rw [scanItem, action]
        simp only
        rw [found, directory]
        simp only
        rw [discovered]
      · constructor
        · rw [paths_ahead_append, closed]
          simp only
          omega
        · exact bytes
        · rw [records_left_append, ended, Nat.add_mul]
          simp only
          omega
        · intro other member exit
          rcases List.mem_append.mp member with child | rest
          · obtain ⟨name, _, made⟩ := List.mem_map.mp child
            rw [← made, childItem] at exit
            split at exit <;> cases exit
          · rcases List.mem_cons.mp rest with same | rest
            · rw [same]
            · exact below other rest exit
    · have entered := here.entered action
      rw [Listing.isDirectory, found, other] at entered
      cases entered

theorem scan_loop_succeeds (fits : FitsLimits tree limits longest largest) (fuel : Nat) :
    ∀ state : ScanState, SoundStack tree state.stack →
      turnsLeft tree state.stack ≤ fuel →
      HasRoom tree longest largest state.stack state.budget →
      ∃ final, scanLoop tree limits expired fuel state = some (.ok final) := by
  induction fuel with
  | zero =>
    intro state sound enough room
    have ends := scan_loop_ends tree limits expired 0 state sound enough
    rcases state with ⟨stack, records, budget⟩
    cases stack with
    | nil => exact ⟨_, rfl⟩
    | cons item stack => cases ends
  | succ fuel ih =>
    intro state sound enough room
    rcases state with ⟨stack, records, budget⟩
    cases stack with
    | nil => exact ⟨_, rfl⟩
    | cons item stack =>
      have ticked : HasRoom tree longest largest (item :: stack)
          { budget with readings := budget.readings + 1 } :=
        ⟨room.entries, room.pathBytes, room.logicalBytes, room.settled⟩
      obtain ⟨next, taken, onward⟩ := scan_item_succeeds tree running fits item stack records _
        sound ticked
      have kept := scan_item_keeps tree limits expired item stack records _ next sound taken
      obtain ⟨final, ran⟩ := ih next kept.1 (by simp only at enough; omega) onward
      refine ⟨final, ?_⟩
      rw [scanLoop, deadline_ahead running]
      simp only
      rw [taken]
      exact ran

theorem capture_succeeds (fits : FitsLimits tree limits longest largest) :
    ∃ identity, captureRuntimeIdentity tree limits expired = some (.ok identity) := by
  have rooted := tree.listing.is_some_of_directory [] tree.listing.root
  have nonempty : 0 < tree.listing.paths.length :=
    List.length_pos_of_mem ((tree.listing.complete []).mpr rooted)
  have total := Listing.preorder_root_length tree.listing bytesLe bytes_order
  have short : dot.length ≤ longest := fits.path [] rooted
  have once : longest ≤ tree.listing.paths.length * longest := Nat.le_mul_of_pos_left _ nonempty
  have limit := fits.pathBytes
  have entries := fits.entries
  obtain ⟨readings, discovered⟩ := discover_entry_succeeds limits running dot
    ⟨0, 0, 0, 0⟩ (by simp only; omega) (by simp only; omega)
  have room : HasRoom tree longest largest [⟨.enter, [], dot, []⟩]
      ⟨0 + 1, 0 + dot.length, 0, readings⟩ := by
    constructor
    · simp only [pathsAhead, WorkItem.pending, List.map_cons, List.map_nil, List.sum_cons,
        List.sum_nil, total]
      omega
    · simpa using short
    · simp [recordsLeft, WorkItem.pending, total]
    · intro item member exit
      rw [List.mem_singleton] at member
      rw [member] at exit
      cases exit
  obtain ⟨final, ran⟩ := scan_loop_succeeds tree running fits (2 * tree.listing.paths.length)
    ⟨[⟨.enter, [], dot, []⟩], [], ⟨0 + 1, 0 + dot.length, 0, readings⟩⟩ (root_sound tree)
    (by simp [turnsLeft, WorkItem.turns, total]) room
  refine ⟨⟨digestRecords final.records, final.records.length, final.budget.logicalBytes,
    final.records⟩, ?_⟩
  have positive := fits.positive
  rw [captureRuntimeIdentity, if_neg (by omega), scanTreeDescriptors, discovered]
  simp only
  rw [ran]
  rfl

end Room

end EvoomGuard.Runtime
