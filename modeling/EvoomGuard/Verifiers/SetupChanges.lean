import EvoomGuard.Verifiers.SetupFidelity

/-!
What the two scans around setup agree on. Directories left out of the second scan are new ones,
so no entry of the first tree lies below them.
-/

namespace EvoomGuard.Verifiers.SetupFidelity

open Lib Verifiers

variable (tree : SetupTree)

theorem SetupTree.is_some_of_front {front path : List Text}
    (inside : front <+: path) (present : (tree.listing.entry path).isSome = true) :
    (tree.listing.entry front).isSome = true := by
  obtain ⟨below, rfl⟩ := inside
  by_cases last : below = []
  · rwa [last, List.append_nil] at present
  · apply tree.listing.is_some_of_directory
    exact tree.listing.is_directory_of_below front below last present

theorem SetupTree.proper_names {path : List Text}
    (present : (tree.listing.entry path).isSome = true) :
    ∀ name ∈ path, name ≠ [] ∧ '/' ∉ name := by
  intro name member
  obtain ⟨above, below, rfl⟩ := List.append_of_mem member
  apply tree.named above name
  apply tree.is_some_of_front ⟨below, _⟩ present
  simp

theorem SetupTree.split_rel_text {path : List Text} (some : path ≠ [])
    (present : (tree.listing.entry path).isSome = true) :
    Text.split '/' (relText path) = path := by
  apply Text.split_join '/' path some
  intro name member
  exact (tree.proper_names present name member).2

def DefaultComponent (path : List Text) : Prop := ∃ name ∈ path, name ∈ defaultSetupOutputDirs

theorem SetupTree.default_component_iff {path : List Text} (some : path ≠ [])
    (present : (tree.listing.entry path).isSome = true) :
    isDefaultSetupOutput (relText path) = true ↔ DefaultComponent path := by
  rw [isDefaultSetupOutput, tree.split_rel_text some present, List.any_eq_true, DefaultComponent]
  apply exists_congr
  intro name
  apply and_congr_right
  intro member
  have proper := (tree.proper_names present name member).1
  simp [proper]

theorem DefaultComponent.of_front {front path : List Text} (inside : front <+: path)
    (component : DefaultComponent front) : DefaultComponent path := by
  obtain ⟨name, member, listed⟩ := component
  exact ⟨name, inside.subset member, listed⟩

section

variable {mapping : CaseMapping} {extraOutputGlobs : List Text} {baseline : Option Snapshot}
  {tree : SetupTree} {snapshot : Snapshot}

section

variable (scanned : setupFidelitySnapshot mapping extraOutputGlobs baseline tree = .ok snapshot)
include scanned

theorem mem_setup_fidelity_snapshot (item : Text × FidelityState) :
    item ∈ snapshot ↔ ∃ path entry, path ≠ [] ∧ tree.listing.entry path = some entry ∧
      item = (relText path, entryState entry) ∧
        Passed mapping extraOutputGlobs baseline tree [] path := by
  rw [mem_scan_directory scanned]
  apply exists_congr
  intro path
  apply exists_congr
  intro entry
  rw [List.nil_append]
  constructor
  · rintro ⟨some, -, found, same, passed⟩
    exact ⟨some, found, same, passed⟩
  · rintro ⟨some, found, same, passed⟩
    have short := tree.listing.length_le_height path (by rw [found]; rfl)
    exact ⟨some, short, found, same, passed⟩

theorem mem_setup_fidelity_snapshot_at {other : SetupTree} {path : List Text} (some : path ≠ [])
    (present : (other.listing.entry path).isSome = true) (state : FidelityState) :
    (relText path, state) ∈ snapshot ↔ ∃ entry, tree.listing.entry path = .some entry ∧
      state = entryState entry ∧ Passed mapping extraOutputGlobs baseline tree [] path := by
  rw [mem_setup_fidelity_snapshot scanned]
  constructor
  · rintro ⟨found, entry, proper, shown, same, passed⟩
    obtain ⟨sameText, rfl⟩ := Prod.mk.inj same
    have samePath : path = found := by
      rw [← other.split_rel_text some present, sameText,
        tree.split_rel_text proper (by rw [shown]; rfl)]
    rw [samePath]
    exact ⟨entry, shown, rfl, passed⟩
  · rintro ⟨entry, shown, rfl, passed⟩
    exact ⟨path, entry, some, shown, rfl, passed⟩

theorem state_at_eq_some (text : Text) (state : FidelityState) :
    stateAt snapshot text = some state ↔ (text, state) ∈ snapshot := by
  rw [stateAt, Option.map_eq_some_iff]
  constructor
  · rintro ⟨⟨other, _⟩, found, rfl⟩
    have named : other = text := by simpa using List.find?_some found
    rw [← named]
    exact List.mem_of_find?_eq_some found
  · intro member
    have present : (snapshot.find? fun item => item.1 = text).isSome = true := by
      rw [List.find?_isSome]
      exact ⟨_, member, by simp⟩
    obtain ⟨⟨other, found⟩, first⟩ := Option.isSome_iff_exists.1 present
    have named : other = text := by simpa using List.find?_some first
    subst named
    refine ⟨_, first, ?_⟩
    obtain ⟨path, entry, some, shown, same, -⟩ :=
      (mem_setup_fidelity_snapshot scanned _).1 member
    obtain ⟨rfl, rfl⟩ := Prod.mk.inj same
    have again := List.mem_of_find?_eq_some first
    obtain ⟨repeated, shownAgain, rfl, -⟩ :=
      (mem_setup_fidelity_snapshot_at scanned some (by rw [shown]; rfl) found).1 again
    rw [shown] at shownAgain
    cases shownAgain
    rfl

end

end

theorem state_at_isSome (snapshot : Snapshot) (text : Text) :
    (stateAt snapshot text).isSome = true ↔ text ∈ snapshot.map Prod.fst := by
  rw [stateAt, Option.isSome_map, List.find?_isSome, List.mem_map]
  simp only [decide_eq_true_eq]

theorem setup_fidelity_changes_eq_nil (before after : Snapshot) :
    setupFidelityChanges before after = [] ↔
      ∀ text, stateAt before text = stateAt after text := by
  rw [setupFidelityChanges, List.eq_nil_iff_forall_not_mem]
  apply forall_congr'
  intro text
  rw [Text.mem_sorted_set, List.mem_filter, List.mem_append, decide_eq_true_eq]
  constructor
  · intro absent
    by_contra different
    refine absent ⟨?_, different⟩
    rw [← state_at_isSome, ← state_at_isSome]
    by_contra neither
    rw [not_or, Bool.not_eq_true, Bool.not_eq_true, Option.isSome_eq_false_iff,
      Option.isSome_eq_false_iff, Option.isNone_iff_eq_none, Option.isNone_iff_eq_none] at neither
    exact different (neither.1.trans neither.2.symm)
  · rintro same ⟨-, different⟩
    exact different same

section

variable (mapping : CaseMapping) (extraOutputGlobs : List Text)

/-- Neither the entry nor a directory above it matches a glob. -/
def NonExempt (tree : SetupTree) (path : List Text) : Prop :=
  path ≠ [] ∧ (tree.listing.entry path).isSome = true ∧
    ∀ front, front ≠ [] → front <+: path → ∀ entry, tree.listing.entry front = some entry →
      isExtraOutput mapping extraOutputGlobs front entry = false

/-- Setup leaves what was there as it was, and adds only under the default output names. -/
structure Authorised (before after : SetupTree) : Prop where
  kept : ∀ path, NonExempt mapping extraOutputGlobs before path →
    NonExempt mapping extraOutputGlobs after path ∧
      (after.listing.entry path).map SetupEntry.visible =
        (before.listing.entry path).map SetupEntry.visible
  added : ∀ path, NonExempt mapping extraOutputGlobs after path →
    ¬ NonExempt mapping extraOutputGlobs before path → DefaultComponent path

/-- A file under several names that no glob takes out. -/
def HardLinked (tree : SetupTree) : Prop :=
  ∃ path mode links data, NonExempt mapping extraOutputGlobs tree path ∧
    tree.listing.entry path = some (.file mode links data) ∧ links ≠ 1

/-- Two files at one path have one SHA-256 only where they have one content. -/
def CollisionFree (before after : SetupTree) : Prop :=
  ∀ path mode links data mode' links' data',
    before.listing.entry path = some (.file mode links data) →
      after.listing.entry path = some (.file mode' links' data') →
        Sha256.hexdigestBytes data = Sha256.hexdigestBytes data' → data = data'

variable {mapping extraOutputGlobs}

theorem NonExempt.of_front {tree : SetupTree} {front path : List Text} (some : front ≠ [])
    (inside : front <+: path) (free : NonExempt mapping extraOutputGlobs tree path) :
    NonExempt mapping extraOutputGlobs tree front := by
  refine ⟨some, tree.is_some_of_front inside free.2.1, ?_⟩
  intro shorter proper above
  exact free.2.2 shorter proper (above.trans inside)

theorem ignored_iff (baseline : Option Snapshot) (path : List Text) (entry : SetupEntry) :
    scanEntryIsIgnored mapping extraOutputGlobs baseline path entry = false ↔
      isExtraOutput mapping extraOutputGlobs path entry = false ∧
        ∀ before, baseline = some before → isDefaultSetupOutput (relText path) = true →
          relText path ∈ before.map Prod.fst := by
  cases baseline with
  | none => simp [scanEntryIsIgnored]
  | some before =>
    rw [scanEntryIsIgnored, Bool.or_eq_false_iff, Option.any_some, Bool.and_eq_false_imp,
      Bool.not_eq_false', List.contains_iff_mem]
    simp

theorem passed_none_iff {tree : SetupTree} {path : List Text} (some : path ≠ [])
    (present : (tree.listing.entry path).isSome = true) :
    Passed mapping extraOutputGlobs none tree [] path ↔
      NonExempt mapping extraOutputGlobs tree path := by
  rw [Passed, NonExempt, and_iff_right some, and_iff_right present]
  simp only [List.nil_append, ignored_iff, reduceCtorEq, false_implies, implies_true, and_true]

theorem passed_some_iff {tree : SetupTree} {path : List Text} {before : Snapshot}
    (some : path ≠ []) (present : (tree.listing.entry path).isSome = true) :
    Passed mapping extraOutputGlobs (.some before) tree [] path ↔
      NonExempt mapping extraOutputGlobs tree path ∧
        ∀ front, front ≠ [] → front <+: path → DefaultComponent front →
          relText front ∈ before.map Prod.fst := by
  rw [Passed, NonExempt, and_iff_right some, and_iff_right present]
  simp only [List.nil_append, ignored_iff, Option.some.injEq, forall_eq']
  constructor
  · intro passed
    refine ⟨fun front proper inside entry found => (passed front proper inside entry found).1, ?_⟩
    intro front proper inside component
    have there := tree.is_some_of_front inside present
    obtain ⟨entry, found⟩ := Option.isSome_iff_exists.1 there
    exact (passed front proper inside entry found).2 ((tree.default_component_iff proper there).2 component)
  · rintro ⟨free, recorded⟩ front proper inside entry found
    refine ⟨free front proper inside entry found, fun output => ?_⟩
    apply recorded front proper inside
    exact (tree.default_component_iff proper (by rw [found]; rfl)).1 output

end

theorem SpecialFormat.text_injective {first second : SpecialFormat}
    (same : first.text = second.text) : first = second := by
  cases first <;> cases second <;> first | rfl | exact absurd same (by decide)

theorem entry_state_visible (entry : SetupEntry) : entryState entry.visible = entryState entry := by
  cases entry <;> rfl

theorem entry_state_eq {first second : SetupEntry} (same : entryState first = entryState second)
    (distinct : ∀ mode links data mode' links' data', first = .file mode links data →
      second = .file mode' links' data' →
        Sha256.hexdigestBytes data = Sha256.hexdigestBytes data' → data = data') :
    first.visible = second.visible := by
  have kinds := congrArg FidelityState.kind same
  have modes := congrArg FidelityState.mode same
  have payloads := congrArg FidelityState.payload same
  cases first with
  | file mode links data =>
    cases second with
    | file mode' links' data' =>
      have contents := distinct mode links data mode' links' data' rfl rfl payloads
      cases modes
      cases contents
      rfl
    | link | directory | special => simp [entryState] at kinds
  | link mode target =>
    cases second with
    | link mode' target' =>
      cases modes
      cases payloads
      rfl
    | file | directory | special => simp [entryState] at kinds
  | directory mode =>
    cases second with
    | directory mode' =>
      cases modes
      rfl
    | file | link | special => simp [entryState] at kinds
  | special mode format =>
    cases second with
    | special mode' format' =>
      cases modes
      cases SpecialFormat.text_injective payloads
      rfl
    | file | link | directory => simp [entryState] at kinds

section

variable {mapping : CaseMapping} {extraOutputGlobs : List Text} {before after : SetupTree}
  {baseline snapshot : Snapshot}

section

variable (first : setupFidelitySnapshot mapping extraOutputGlobs none before = .ok baseline)
include first

theorem mem_first_scan {tree : SetupTree} {path : List Text} (some : path ≠ [])
    (present : (tree.listing.entry path).isSome = true) (state : FidelityState) :
    (relText path, state) ∈ baseline ↔ NonExempt mapping extraOutputGlobs before path ∧
      (before.listing.entry path).map entryState = .some state := by
  rw [mem_setup_fidelity_snapshot_at first some present, Option.map_eq_some_iff]
  constructor
  · rintro ⟨entry, found, rfl, passed⟩
    exact ⟨(passed_none_iff some (by rw [found]; rfl)).1 passed, entry, found, rfl⟩
  · rintro ⟨free, entry, found, rfl⟩
    exact ⟨entry, found, rfl, (passed_none_iff some free.2.1).2 free⟩

theorem mem_first_keys {tree : SetupTree} {path : List Text} (some : path ≠ [])
    (present : (tree.listing.entry path).isSome = true) :
    relText path ∈ baseline.map Prod.fst ↔ NonExempt mapping extraOutputGlobs before path := by
  rw [List.mem_map]
  constructor
  · rintro ⟨⟨_, state⟩, member, rfl⟩
    exact ((mem_first_scan first some present state).1 member).1
  · intro free
    obtain ⟨entry, found⟩ := Option.isSome_iff_exists.1 free.2.1
    refine ⟨(relText path, entryState entry), ?_, rfl⟩
    exact (mem_first_scan first some present _).2 ⟨free, by rw [found]; rfl⟩

theorem mem_second_scan
    (second : setupFidelitySnapshot mapping extraOutputGlobs (some baseline) after = .ok snapshot)
    {tree : SetupTree} {path : List Text} (some : path ≠ [])
    (present : (tree.listing.entry path).isSome = true) (state : FidelityState) :
    (relText path, state) ∈ snapshot ↔ NonExempt mapping extraOutputGlobs after path ∧
      (∀ front, front ≠ [] → front <+: path → DefaultComponent front →
        NonExempt mapping extraOutputGlobs before front) ∧
      (after.listing.entry path).map entryState = .some state := by
  rw [mem_setup_fidelity_snapshot_at second some present, Option.map_eq_some_iff]
  have recorded (front : List Text) (proper : front ≠ []) (inside : front <+: path) :=
    mem_first_keys first proper (tree.is_some_of_front inside present)
  constructor
  · rintro ⟨entry, found, rfl, passed⟩
    obtain ⟨free, keys⟩ := (passed_some_iff some (by rw [found]; rfl)).1 passed
    refine ⟨free, fun front proper inside component => ?_, entry, found, rfl⟩
    exact (recorded front proper inside).1 (keys front proper inside component)
  · rintro ⟨free, keys, entry, found, rfl⟩
    refine ⟨entry, found, rfl, (passed_some_iff some free.2.1).2 ⟨free, ?_⟩⟩
    intro front proper inside component
    exact (recorded front proper inside).2 (keys front proper inside component)

theorem mem_second_scan_of_kept
    (second : setupFidelitySnapshot mapping extraOutputGlobs (some baseline) after = .ok snapshot)
    {path : List Text} (free : NonExempt mapping extraOutputGlobs before path)
    (state : FidelityState) :
    (relText path, state) ∈ snapshot ↔ NonExempt mapping extraOutputGlobs after path ∧
      (after.listing.entry path).map entryState = some state := by
  rw [mem_second_scan first second free.1 free.2.1]
  apply and_congr_right
  intro
  apply and_iff_right
  intro front proper inside _
  exact free.of_front proper inside

theorem authorised_of_no_changes
    (second : setupFidelitySnapshot mapping extraOutputGlobs (some baseline) after = .ok snapshot)
    (distinct : CollisionFree before after)
    (same : ∀ text, stateAt baseline text = stateAt snapshot text) :
    Authorised mapping extraOutputGlobs before after where
  kept := by
    intro path free
    obtain ⟨entry, found⟩ := Option.isSome_iff_exists.1 free.2.1
    have recorded : (relText path, entryState entry) ∈ baseline :=
      (mem_first_scan first free.1 free.2.1 _).2 ⟨free, by rw [found]; rfl⟩
    have again : (relText path, entryState entry) ∈ snapshot := by
      rw [← state_at_eq_some second, ← same, state_at_eq_some first]
      exact recorded
    obtain ⟨later, shown⟩ := (mem_second_scan_of_kept first second free _).1 again
    obtain ⟨other, there, states⟩ := Option.map_eq_some_iff.1 shown
    refine ⟨later, ?_⟩
    rw [found, there, Option.map_some, Option.map_some, entry_state_eq states]
    intro mode links data mode' links' data' isFile wasFile digests
    rw [isFile] at there
    rw [wasFile] at found
    exact (distinct path _ _ _ _ _ _ found there digests.symm).symm
  added := by
    intro path later new
    by_contra plain
    obtain ⟨entry, found⟩ := Option.isSome_iff_exists.1 later.2.1
    have recorded : (relText path, entryState entry) ∈ snapshot := by
      refine (mem_second_scan first second later.1 later.2.1 _).2 ⟨later, ?_, by rw [found]; rfl⟩
      intro front _ inside component
      exact absurd (component.of_front inside) plain
    have before : (relText path, entryState entry) ∈ baseline := by
      rw [← state_at_eq_some first, same, state_at_eq_some second]
      exact recorded
    exact new ((mem_first_scan first later.1 later.2.1 _).1 before).1

theorem no_changes_of_authorised
    (second : setupFidelitySnapshot mapping extraOutputGlobs (some baseline) after = .ok snapshot)
    (allowed : Authorised mapping extraOutputGlobs before after) (text : Text) :
    stateAt baseline text = stateAt snapshot text := by
  apply Option.ext
  intro state
  rw [state_at_eq_some first, state_at_eq_some second]
  -- an entry under its old name has its old state
  have kept (path : List Text) (free : NonExempt mapping extraOutputGlobs before path) :
      (relText path, state) ∈ baseline ↔ (relText path, state) ∈ snapshot := by
    obtain ⟨later, visible⟩ := allowed.kept path free
    have states := congrArg (Option.map entryState) visible
    simp only [Option.map_map, Function.comp_def, entry_state_visible] at states
    rw [mem_first_scan first free.1 free.2.1, mem_second_scan_of_kept first second free,
      and_iff_right free, and_iff_right later, states]
  constructor
  · intro member
    obtain ⟨path, entry, some, found, same, passed⟩ :=
      (mem_setup_fidelity_snapshot first _).1 member
    obtain ⟨rfl, rfl⟩ := Prod.mk.inj same
    exact (kept path ((passed_none_iff some (by rw [found]; rfl)).1 passed)).1 member
  · intro member
    obtain ⟨path, entry, some, found, same, passed⟩ :=
      (mem_setup_fidelity_snapshot second _).1 member
    obtain ⟨rfl, rfl⟩ := Prod.mk.inj same
    have present : (after.listing.entry path).isSome = true := by rw [found]; rfl
    obtain ⟨later, old, -⟩ := (mem_second_scan first second some present _).1 member
    -- a new entry under a default output name is not in the second scan
    by_cases free : NonExempt mapping extraOutputGlobs before path
    · exact (kept path free).2 member
    · exact absurd (old path some List.prefix_rfl (allowed.added path later free)) free

end

theorem hard_linked_of_error {tree : SetupTree} {earlier : Option Snapshot}
    {problem : SetupFidelityError}
    (failed : setupFidelitySnapshot mapping extraOutputGlobs earlier tree = .error problem) :
    HardLinked mapping extraOutputGlobs tree := by
  obtain ⟨path, mode, links, data, some, found, several, passed⟩ := scan_directory_error failed
  rw [List.nil_append] at found
  have present : (tree.listing.entry path).isSome = true := by rw [found]; rfl
  refine ⟨path, mode, links, data, ?_, found, several⟩
  cases earlier with
  | none => exact (passed_none_iff some present).1 passed
  | some before => exact ((passed_some_iff some present).1 passed).1

/-- Setup changed nothing it may not change exactly where no changes are reported. -/
theorem setup_changes_authorised (mapping : CaseMapping) (extraOutputGlobs : List Text)
    (before after : SetupTree) (distinct : CollisionFree before after) :
    match setupChanges mapping extraOutputGlobs before after with
    | .error _ =>
      HardLinked mapping extraOutputGlobs before ∨ HardLinked mapping extraOutputGlobs after
    | .ok changes => changes = [] ↔ Authorised mapping extraOutputGlobs before after := by
  unfold setupChanges
  cases first : setupFidelitySnapshot mapping extraOutputGlobs none before with
  | error problem => exact .inl (hard_linked_of_error first)
  | ok baseline =>
    dsimp only
    cases second : setupFidelitySnapshot mapping extraOutputGlobs (some baseline) after with
    | error problem => exact .inr (hard_linked_of_error second)
    | ok snapshot =>
      dsimp only
      rw [setup_fidelity_changes_eq_nil]
      constructor
      · exact authorised_of_no_changes first second distinct
      · exact no_changes_of_authorised first second

def SetupTree.ofEntries (entries : List (List Text × SetupEntry))
    (distinct : (entries.map Prod.fst).Nodup)
    (root : (Listing.entryIn entries []).any SetupEntry.isDirectory = true)
    (parent : ∀ item ∈ entries, item.1 ≠ [] →
      (Listing.entryIn entries item.1.dropLast).any SetupEntry.isDirectory = true)
    (named : ∀ item ∈ entries, ∀ name ∈ item.1, name ≠ [] ∧ '/' ∉ name) : SetupTree where
  listing := Listing.ofEntries entries distinct root parent
  named := by
    intro path name present
    have inside := (Listing.entry_in_is_some entries _).mp present
    obtain ⟨item, found, same⟩ := List.mem_map.mp inside
    exact named item found name (by simp [same])

def linkedEntries : List (List Text × SetupEntry) :=
  [([], .directory 0o755), (["run.py"], .file 0o644 1 [1]), (["bin"], .directory 0o755),
    (["bin", "run"], .link 0o777 "../run.py"), (["setup.log"], .file 0o644 1 [2])]

def builtEntries : List (List Text × SetupEntry) :=
  [([], .directory 0o755), (["run.py"], .file 0o644 1 [1]), (["bin"], .directory 0o755),
    (["bin", "run"], .link 0o777 "../run.py"), (["setup.log"], .file 0o644 1 [2, 3]),
    (["build"], .directory 0o755), (["build", "out"], .file 0o755 1 [4])]

def linkedTree : SetupTree :=
  SetupTree.ofEntries linkedEntries (by decide) (by decide) (by decide) (by decide)

def builtTree : SetupTree :=
  SetupTree.ofEntries builtEntries (by decide) (by decide) (by decide) (by decide)

theorem collision_free_built : CollisionFree linkedTree builtTree := by
  intro path mode links data mode' links' data' found found' same
  have before := Listing.mem_of_entry_in linkedEntries path _ found
  have after := Listing.mem_of_entry_in builtEntries path _ found'
  simp only [linkedEntries, List.mem_cons, Prod.mk.injEq, SetupEntry.file.injEq, reduceCtorEq,
    and_false, false_or, or_false, List.not_mem_nil] at before
  rcases before with ⟨rfl, -, -, rfl⟩ | ⟨rfl, -, -, rfl⟩
  · simp [builtEntries] at after
    exact after.2.2.symm
  · simp [builtEntries] at after
    rw [after.2.2] at same
    exact absurd same (by decide +kernel)

theorem built_tree_authorised :
    match setupChanges asciiCase ["*.log"] linkedTree builtTree with
    | .error _ => HardLinked asciiCase ["*.log"] linkedTree ∨
        HardLinked asciiCase ["*.log"] builtTree
    | .ok changes => changes = [] ↔ Authorised asciiCase ["*.log"] linkedTree builtTree :=
  setup_changes_authorised asciiCase ["*.log"] linkedTree builtTree collision_free_built

end

end EvoomGuard.Verifiers.SetupFidelity
