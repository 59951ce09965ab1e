import EvoomGuard.Runtime.ScanRecords

/-!
`runtime_identity_changes`: two scans are read side by side. Up to the cap on reported changes the
result is exactly the list of paths whose records differ, in the order of the scans.
-/

namespace EvoomGuard.Runtime

open Lib Lib.Framing

def maxReportedChanges : Nat := 10000

def truncatedMark : Bytes := utf8 "<runtime-change-list-truncated>"

def treeDigestMark : Bytes := utf8 "<runtime-tree-digest>"

/-- Adds a path; the flag says that the list is full and the caller returns. -/
def changed (changes : List Bytes) (path : Bytes) : List Bytes × Bool :=
  if maxReportedChanges ≤ changes.length then (changes ++ [truncatedMark], true)
  else (changes ++ [path], false)

def keyLt (left right : RuntimeEntry) : Bool :=
  !lexLe bytesLe (recordKey right.path) (recordKey left.path)

def reportRest : List RuntimeEntry → List Bytes → List Bytes
  | [], changes => changes
  | record :: rest, changes =>
    match changed changes record.path with
    | (changes, true) => changes
    | (changes, false) => reportRest rest changes

/-- The main loop and the two loops beyond what is left. -/
def compareRecords : List RuntimeEntry → List RuntimeEntry → List Bytes → List Bytes
  | left :: lefts, right :: rights, changes =>
    if left.path = right.path then
      if left = right then compareRecords lefts rights changes
      else
        match changed changes left.path with
        | (changes, true) => changes
        | (changes, false) => compareRecords lefts rights changes
    else if keyLt left right then
      match changed changes left.path with
      | (changes, true) => changes
      | (changes, false) => compareRecords lefts (right :: rights) changes
    else
      match changed changes right.path with
      | (changes, true) => changes
      | (changes, false) => compareRecords (left :: lefts) rights changes
  | [], rights, changes => reportRest rights changes
  | left :: lefts, [], changes => reportRest (left :: lefts) changes
termination_by lefts rights => lefts.length + rights.length

def runtimeIdentityChanges (expected observed : RuntimeIdentity) : List Bytes :=
  let changes := compareRecords expected.records observed.records []
  if changes = [] ∧ expected.sha256 ≠ observed.sha256 then [treeDigestMark] else changes

def capped (changes : List Bytes) : List Bytes :=
  if changes.length ≤ maxReportedChanges then changes
  else changes.take maxReportedChanges ++ [truncatedMark]

variable (changes : List Bytes)

theorem capped_full (path : Bytes) (rest : List Bytes)
    (room : changes.length ≤ maxReportedChanges) (full : maxReportedChanges ≤ changes.length) :
    capped (changes ++ path :: rest) = changes ++ [truncatedMark] := by
  have exact_ : changes.length = maxReportedChanges := by omega
  have beyond : ¬(changes ++ path :: rest).length ≤ maxReportedChanges := by
    simp only [List.length_append, List.length_cons]
    omega
  rw [capped, if_neg beyond, ← exact_, List.take_left]

theorem changed_then (path : Bytes) (rest : List Bytes)
    (next : List Bytes → List Bytes) (room : changes.length ≤ maxReportedChanges)
    (later : ∀ longer, longer.length ≤ maxReportedChanges → next longer = capped (longer ++ rest)) :
    (match changed changes path with
      | (changes, true) => changes
      | (changes, false) => next changes) = capped (changes ++ path :: rest) := by
  unfold changed
  by_cases full : maxReportedChanges ≤ changes.length
  · rw [if_pos full]
    exact (capped_full changes path rest room full).symm
  · rw [if_neg full]
    have longer := later (changes ++ [path]) (by
      simp only [List.length_append, List.length_cons, List.length_nil]
      omega)
    simpa using longer

theorem capped_self (room : changes.length ≤ maxReportedChanges) :
    capped changes = changes := by
  rw [capped, if_pos room]

theorem capped_eq_nil_iff : capped changes = [] ↔ changes = [] := by
  unfold capped
  split
  · rfl
  · next beyond =>
      constructor
      · simp
      · intro none
        rw [none] at beyond
        exact absurd (Nat.zero_le _) beyond

theorem report_rest_eq (records : List RuntimeEntry) (changes : List Bytes)
    (room : changes.length ≤ maxReportedChanges) :
    reportRest records changes = capped (changes ++ records.map RuntimeEntry.path) := by
  induction records generalizing changes with
  | nil =>
    rw [reportRest, List.map_nil, List.append_nil, capped_self changes room]
  | cons record rest ih =>
    rw [reportRest, List.map_cons]
    exact changed_then changes record.path _ (reportRest rest) room ih

def keyOf (record : RuntimeEntry) : List Bytes := recordKey record.path

def Keyed (record : RuntimeEntry) : Prop := record.path = relOf (keyOf record)

theorem same_path_iff (left right : RuntimeEntry) (leftKeyed : Keyed left)
    (rightKeyed : Keyed right) : left.path = right.path ↔ keyOf left = keyOf right := by
  constructor
  · intro same
    rw [keyOf, keyOf, same]
  · intro same
    rw [leftKeyed, rightKeyed, same]

theorem key_lt_eq (left right : RuntimeEntry) (apart : keyOf left ≠ keyOf right) :
    keyLt left right = lexLe bytesLe (keyOf left) (keyOf right) := by
  have order := lex_order bytes_order
  cases below : lexLe bytesLe (keyOf left) (keyOf right) with
  | true =>
    have above := (order.le_false_iff (keyOf right) (keyOf left)).mpr ⟨below, Ne.symm apart⟩
    unfold keyOf at above
    rw [keyLt, above]
    rfl
  | false =>
    have above := ((order.le_false_iff (keyOf left) (keyOf right)).mp below).1
    unfold keyOf at above
    rw [keyLt, above]
    rfl

def driftPaths (before after : List RuntimeEntry) : List (List Bytes) :=
  differences (lexLe bytesLe) keyOf before after

theorem map_paths (records : List RuntimeEntry) (keyed : ∀ record ∈ records, Keyed record) :
    (records.map keyOf).map relOf = records.map RuntimeEntry.path := by
  rw [List.map_map]
  apply List.map_congr_left
  intro record inside
  exact (keyed record inside).symm

theorem compare_records_eq (before after : List RuntimeEntry) (changes : List Bytes)
    (beforeKeyed : ∀ record ∈ before, Keyed record) (afterKeyed : ∀ record ∈ after, Keyed record)
    (room : changes.length ≤ maxReportedChanges) :
    compareRecords before after changes =
      capped (changes ++ (driftPaths before after).map relOf) := by
  unfold driftPaths
  induction before, after using differences.induct (lexLe bytesLe) keyOf generalizing changes with
  | case1 lefts right rights same ih =>
    rw [compareRecords, if_pos rfl, if_pos rfl, differences, if_pos rfl, if_pos rfl]
    exact ih changes (fun record inside => beforeKeyed record (List.mem_cons_of_mem _ inside))
      (fun record inside => afterKeyed record (List.mem_cons_of_mem _ inside)) room
  | case2 left lefts right rights same apart ih =>
    have leftKeyed := beforeKeyed left List.mem_cons_self
    have paths := (same_path_iff left right leftKeyed
      (afterKeyed right List.mem_cons_self)).mpr same
    rw [compareRecords, if_pos paths, if_neg apart, differences, if_pos same, if_neg apart,
      List.map_cons, ← leftKeyed]
    apply changed_then changes left.path _ (compareRecords lefts rights) room
    intro longer fits
    exact ih longer (fun record inside => beforeKeyed record (List.mem_cons_of_mem _ inside))
      (fun record inside => afterKeyed record (List.mem_cons_of_mem _ inside)) fits
  | case3 left lefts right rights apart below ih =>
    have leftKeyed := beforeKeyed left List.mem_cons_self
    have paths : ¬left.path = right.path := fun same => apart
      ((same_path_iff left right leftKeyed (afterKeyed right List.mem_cons_self)).mp same)
    rw [compareRecords, if_neg paths, key_lt_eq left right apart, if_pos below, differences,
      if_neg apart, if_pos below, List.map_cons, ← leftKeyed]
    apply changed_then changes left.path _ (compareRecords lefts (right :: rights)) room
    intro longer fits
    exact ih longer (fun record inside => beforeKeyed record (List.mem_cons_of_mem _ inside))
      afterKeyed fits
  | case4 left lefts right rights apart above ih =>
    have rightKeyed := afterKeyed right List.mem_cons_self
    have paths : ¬left.path = right.path := fun same => apart
      ((same_path_iff left right (beforeKeyed left List.mem_cons_self) rightKeyed).mp same)
    rw [compareRecords, if_neg paths, key_lt_eq left right apart, if_neg above, differences,
      if_neg apart, if_neg above, List.map_cons, ← rightKeyed]
    apply changed_then changes right.path _ (compareRecords (left :: lefts) rights) room
    intro longer fits
    exact ih longer beforeKeyed
      (fun record inside => afterKeyed record (List.mem_cons_of_mem _ inside)) fits
  | case5 rights =>
    rw [compareRecords, differences, map_paths rights afterKeyed]
    exact report_rest_eq rights changes room
  | case6 left lefts =>
    rw [compareRecords, differences, map_paths (left :: lefts) beforeKeyed]
    exact report_rest_eq (left :: lefts) changes room

section

variable (before after : RuntimeTree)

theorem keyed_of_emits (tree : RuntimeTree) (records : List RuntimeEntry)
    (emits : Emits tree records) : ∀ record ∈ records, Keyed record := by
  intro record inside
  exact (entry_record_path tree _ record (emits.sound record inside)).1

theorem mem_of_emits (tree : RuntimeTree) (records : List RuntimeEntry) (emits : Emits tree records)
    (record : RuntimeEntry) :
    record ∈ records ↔ entryRecord tree (keyOf record) = some record := by
  constructor
  · intro inside
    exact emits.sound record inside
  · intro written
    have present : (tree.listing.entry (keyOf record)).isSome = true := by
      unfold entryRecord at written
      cases found : tree.listing.entry (keyOf record) with
      | none => simp [found] at written
      | some object => rfl
    rcases emits.complete (keyOf record) present with ⟨other, inside, same⟩
    rw [written] at same
    cases same
    exact inside

theorem differs_at_iff (left right : List RuntimeEntry) (leftEmits : Emits before left)
    (rightEmits : Emits after right) (path : List Bytes) :
    DiffersAt keyOf left right path ↔ entryRecord before path ≠ entryRecord after path := by
  have keyAt (tree : RuntimeTree) (record : RuntimeEntry)
      (written : entryRecord tree path = some record) : keyOf record = path :=
    (entry_record_path tree path record written).2
  constructor
  · intro differs same
    rcases differs with ⟨record, named, apart⟩
    rw [mem_of_emits before left leftEmits, mem_of_emits after right rightEmits, named, same] at apart
    exact apart Iff.rfl
  · intro apart
    cases leftWritten : entryRecord before path with
    | none =>
      cases rightWritten : entryRecord after path with
      | none => exact absurd (leftWritten.trans rightWritten.symm) apart
      | some record =>
        refine ⟨record, keyAt after record rightWritten, ?_⟩
        rw [mem_of_emits before left leftEmits, mem_of_emits after right rightEmits,
          keyAt after record rightWritten, leftWritten, rightWritten]
        simp
    | some record =>
      refine ⟨record, keyAt before record leftWritten, ?_⟩
      rw [mem_of_emits before left leftEmits, mem_of_emits after right rightEmits,
        keyAt before record leftWritten, leftWritten]
      intro same
      exact apart (leftWritten.trans (same.mp rfl).symm)

end

/-- The drift between two trees: the paths whose records differ, in the order of the scans. -/
structure ExactDrift (before after : RuntimeTree) (paths : List (List Bytes)) : Prop where
  ascending : paths.Pairwise (Strict (lexLe bytesLe))
  exact_ : ∀ path, path ∈ paths ↔ entryRecord before path ≠ entryRecord after path

/-- A scan ends, its records are one for each entry in strictly ascending order, and the
comparison of two scans is exact up to the cap. -/
theorem runtime_drift_is_exact (before after : RuntimeTree) (beforeLimits afterLimits : ScanLimits)
    (beforeClock afterClock : Nat → Bool) :
    (captureRuntimeIdentity before beforeLimits beforeClock).isSome = true ∧
    ∀ expected observed,
      captureRuntimeIdentity before beforeLimits beforeClock = some (.ok expected) →
      captureRuntimeIdentity after afterLimits afterClock = some (.ok observed) →
      Emits before expected.records ∧
      (∃ drift, ExactDrift before after drift ∧
        runtimeIdentityChanges expected observed = capped (drift.map relOf)) ∧
      (runtimeIdentityChanges expected observed = [] ↔ expected.records = observed.records) := by
  constructor
  · exact capture_ends before beforeLimits beforeClock
  · intro expected observed beforeScan afterScan
    rcases capture_ok before beforeLimits beforeClock expected beforeScan with
      ⟨leftEmits, leftDigest⟩
    rcases capture_ok after afterLimits afterClock observed afterScan with
      ⟨rightEmits, rightDigest⟩
    have order := lex_order bytes_order
    have compared := compare_records_eq expected.records observed.records []
      (keyed_of_emits before _ leftEmits) (keyed_of_emits after _ rightEmits) (Nat.zero_le _)
    rw [List.nil_append] at compared
    have none : compareRecords expected.records observed.records [] = [] ↔
        expected.records = observed.records := by
      rw [compared, capped_eq_nil_iff, List.map_eq_nil_iff, driftPaths]
      exact differences_eq_nil_iff keyOf order _ _ leftEmits.ascending rightEmits.ascending
    have result : runtimeIdentityChanges expected observed =
        compareRecords expected.records observed.records [] := by
      unfold runtimeIdentityChanges
      rw [if_neg]
      intro silent
      apply silent.2
      rw [leftDigest, rightDigest, none.mp silent.1]
    refine ⟨leftEmits, ⟨driftPaths expected.records observed.records, ?_, ?_⟩, ?_⟩
    · constructor
      · exact differences_ascend keyOf order _ _ leftEmits.ascending rightEmits.ascending
      · intro path
        rw [driftPaths, mem_differences keyOf order _ _ leftEmits.ascending rightEmits.ascending]
        exact differs_at_iff before after _ _ leftEmits rightEmits path
    · rw [result, compared]
    · rw [result]
      exact none

/-- A file `a` and a link `b` to it. -/
def fileTree : RuntimeTree :=
  .ofEntries [([], .directory 493), ([[97]], .file 420 ⟨#[1, 2]⟩), ([[98]], .link 511 [97])]
    (by decide) (by decide) (by decide) (by decide)

/-- The same with a directory `a` that holds a file. -/
def directoryTree : RuntimeTree :=
  .ofEntries
    [([], .directory 493), ([[97]], .directory 493), ([[97], [120]], .file 420 ⟨#[1, 2]⟩),
      ([[98]], .link 511 [97])]
    (by decide) (by decide) (by decide) (by decide)

theorem captured_of_ok (result : Option (Except ScanError RuntimeIdentity))
    (ok : result.any Except.isOk = true) : ∃ identity, result = some (.ok identity) := by
  cases result with
  | none => cases ok
  | some outcome =>
    cases outcome with
    | error problem => cases ok
    | ok identity => exact ⟨identity, rfl⟩

theorem replaced_file_drifts : ∃ expected observed,
    captureRuntimeIdentity fileTree defaultLimits (fun _ => false) = some (.ok expected) ∧
    captureRuntimeIdentity directoryTree defaultLimits (fun _ => false) = some (.ok observed) ∧
    ∃ drift, ExactDrift fileTree directoryTree drift ∧
      runtimeIdentityChanges expected observed = capped (drift.map relOf) := by
  rcases captured_of_ok (captureRuntimeIdentity fileTree defaultLimits fun _ => false)
    (by decide) with ⟨expected, beforeScan⟩
  rcases captured_of_ok (captureRuntimeIdentity directoryTree defaultLimits fun _ => false)
    (by decide) with ⟨observed, afterScan⟩
  have exact_ := (runtime_drift_is_exact fileTree directoryTree defaultLimits defaultLimits
    (fun _ => false) fun _ => false).2 expected observed beforeScan afterScan
  exact ⟨expected, observed, beforeScan, afterScan, exact_.2.1⟩

end EvoomGuard.Runtime
