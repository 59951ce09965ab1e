import EvoomGuard.Lib.PathOrder
import EvoomGuard.Runtime.Continuity
import EvoomGuard.Runtime.ScanRoom

/-!
What the suite may leave behind without a pack. The filter of `verify_after_suite` reads the list
of changes after it was cut, so a drift of tolerated paths alone is accepted as long as the list
holds all of them, and counts as suite drift beyond.
-/

namespace EvoomGuard.Runtime

open Lib Lib.Framing

theorem drift_length_eq {before after : RuntimeTree} {left right : List (List Bytes)}
    (leftExact : ExactDrift before after left) (rightExact : ExactDrift before after right) :
    left.length = right.length := by
  apply List.Perm.length_eq
  rw [List.perm_ext_iff_of_nodup (leftExact.ascending.imp And.right)
    (rightExact.ascending.imp And.right)]
  intro path
  rw [leftExact.exact_, rightExact.exact_]

theorem capped_benign_iff (drift : List (List Bytes))
    (benign : ∀ path ∈ drift, isBenign (relOf path) = true) :
    (∀ path ∈ capped (drift.map relOf), isBenign path = true) ↔
      drift.length ≤ maxReportedChanges := by
  rw [← List.length_map relOf, capped]
  constructor
  · intro tolerated
    by_contra beyond
    rw [if_neg beyond] at tolerated
    have mark := tolerated truncatedMark (by simp)
    rw [truncated_mark_judged] at mark
    cases mark
  · intro room
    rw [if_pos room]
    intro path member
    obtain ⟨key, inside, made⟩ := List.mem_map.mp member
    rw [← made]
    exact benign key inside

namespace RepoRuntimeContinuity

def comparedCalls (expected observed : RuntimeIdentity) : List Call :=
  [.captureBaseline (.observed expected), .verifyAfterSuite (.observed observed)]

section Suite

variable {request : Verifiers.RuntimeContinuityRequest}
  (packless : request.packConfigured = false) (required : request.requireSuiteContinuity = true)
  (expected observed : RuntimeIdentity)

include required

theorem compared_run :
    (create request).run (comparedCalls expected observed) =
      (verifyAfterSuite
        { create request with
          baseline := some expected
          continuity := .incomplete
          phase := .captured
          scans := [(.baseline, .observed expected)] }
        (.observed observed)).1 := by
  have asked : request.required = true := by
    rw [Verifiers.RuntimeContinuityRequest.required, required, Bool.or_true]
  simp [run, comparedCalls, step, captureBaseline, create, asked, RepoRuntimeContinuity.asked]

include packless

theorem compared_unfailed_iff :
    ((create request).run (comparedCalls expected observed)).failure = none ↔
      ∀ path ∈ runtimeIdentityChanges expected observed, isBenign path = true := by
  have asked : request.required = true := by
    rw [Verifiers.RuntimeContinuityRequest.required, required, Bool.or_true]
  have kept : ((runtimeIdentityChanges expected observed).map shownPath).filter
      (fun path => !Verifiers.isBenignRuntimeWrite path) = [] ↔
      ∀ path ∈ runtimeIdentityChanges expected observed, isBenign path = true := by
    simp [List.filter_eq_nil_iff, isBenign]
  rw [compared_run required, ← kept]
  simp only [verifyAfterSuite, create, asked, if_true, verify, packless,
    Verifiers.verifyAfterSuite, Verifiers.verifyRuntime, Bool.false_eq_true, if_false,
    List.isEmpty_iff]
  by_cases none : ((runtimeIdentityChanges expected observed).map shownPath).filter
      (fun path => !Verifiers.isBenignRuntimeWrite path) = []
  · simp only [none, if_true]
    simp [RepoRuntimeContinuity.asked]
  · simp only [none, if_false]
    simp [recordFailure]

/-- A drift of tolerated paths alone is accepted exactly up to the cap on reported changes. -/
theorem benign_drift_accepted_iff (before after : RuntimeTree)
    (beforeLimits afterLimits : ScanLimits) (beforeClock afterClock : Nat → Bool)
    (baseline : captureRuntimeIdentity before beforeLimits beforeClock = some (.ok expected))
    (suite : captureRuntimeIdentity after afterLimits afterClock = some (.ok observed))
    (drift : List (List Bytes)) (exact_ : ExactDrift before after drift)
    (benign : ∀ path ∈ drift, isBenign (relOf path) = true) :
    ((create request).run (comparedCalls expected observed)).failure = none ↔
      drift.length ≤ maxReportedChanges := by
  obtain ⟨_, ⟨paths, pathsExact, reported⟩, _⟩ := (runtime_drift_is_exact before after beforeLimits
    afterLimits beforeClock afterClock).2 expected observed baseline suite
  have tolerated : ∀ path ∈ paths, isBenign (relOf path) = true := by
    intro path inside
    exact benign path ((exact_.exact_ path).mpr ((pathsExact.exact_ path).mp inside))
  rw [compared_unfailed_iff packless required, reported, capped_benign_iff paths tolerated,
    drift_length_eq exact_ pathsExact]

end Suite

end RepoRuntimeContinuity

def moduleName : Bytes := utf8 "calc.py"

def bareEntries : List (List Bytes × RuntimeObject) :=
  [([], .directory 493), ([moduleName], .file 420 ⟨#[49, 10]⟩)]

def cacheName : Bytes := utf8 "__pycache__"

/-- `aaa.pyc`, `aab.pyc` and so on. -/
def bytecodeName (index : Nat) : Bytes :=
  [UInt8.ofNat (97 + index / 676 % 26), UInt8.ofNat (97 + index / 26 % 26),
    UInt8.ofNat (97 + index % 26)] ++ utf8 ".pyc"

def cachePaths (files : Nat) : List (List Bytes) :=
  [cacheName] :: (List.range files).map fun index => [cacheName, bytecodeName index]

def cacheEntries (files : Nat) : List (List Bytes × RuntimeObject) :=
  ([cacheName], .directory 493) ::
    (List.range files).map fun index => ([cacheName, bytecodeName index], .file 420 ⟨#[]⟩)

theorem letter_value (value : Nat) : (UInt8.ofNat (97 + value % 26)).toNat = 97 + value % 26 := by
  rw [UInt8.toNat_ofNat']
  omega

theorem bytecode_name_injective (left right : Nat) (leftFew : left < 17576)
    (rightFew : right < 17576) (same : bytecodeName left = bytecodeName right) : left = right := by
  simp only [bytecodeName, List.cons_append, List.nil_append, List.cons.injEq, and_true] at same
  have first := congrArg UInt8.toNat same.1
  have second := congrArg UInt8.toNat same.2.1
  have third := congrArg UInt8.toNat same.2.2
  rw [letter_value, letter_value] at first second third
  omega

theorem bytecode_name_proper (index : Nat) : isEntryName (bytecodeName index) = true := by
  have letter (value : Nat) : UInt8.ofNat (97 + value % 26) ≠ slash := by
    intro same
    have value_ := congrArg UInt8.toNat same
    rw [letter_value] at value_
    simp only [slash, UInt8.reduceToNat] at value_
    omega
  have dotted : slash ∉ utf8 ".pyc" := by decide
  have free : slash ∉ bytecodeName index := by
    simp only [bytecodeName, List.cons_append, List.nil_append, List.mem_cons, not_or]
    exact ⟨(letter _).symm, (letter _).symm, (letter _).symm, dotted⟩
  have length : (bytecodeName index).length = 7 := rfl
  have unlike (name : Bytes) (short : name.length < 7) : bytecodeName index ≠ name := by
    intro same
    rw [same] at length
    omega
  simp only [isEntryName, Bool.and_eq_true, bne_iff_ne, ne_eq, Bool.not_eq_true',
    List.contains_eq_mem, decide_eq_false_iff_not]
  exact ⟨⟨⟨unlike [] (by decide), unlike dot (by decide)⟩, unlike dotDot (by decide)⟩, free⟩

theorem cache_entries_paths (files : Nat) :
    (cacheEntries files).map Prod.fst = cachePaths files := by
  simp [cacheEntries, cachePaths]

theorem cache_paths_nodup (files : Nat) (few : files ≤ 17576) : (cachePaths files).Nodup := by
  rw [cachePaths, List.nodup_cons]
  constructor
  · simp
  · apply List.Nodup.map_on _ List.nodup_range
    intro left leftInside right rightInside same
    rw [List.mem_range] at leftInside rightInside
    simp only [List.cons.injEq, and_true, true_and] at same
    exact bytecode_name_injective left right (by omega) (by omega) same

theorem bare_paths_apart (files : Nat) (path : List Bytes)
    (inside : path ∈ bareEntries.map Prod.fst) : path ∉ cachePaths files := by
  have other : moduleName ≠ cacheName := by decide
  simp only [bareEntries, List.map_cons, List.map_nil, List.mem_cons, List.not_mem_nil, or_false]
    at inside
  rcases inside with same | same <;> subst same <;> simp [cachePaths, other]

theorem cached_parents (files : Nat) (item : List Bytes × RuntimeObject)
    (inside : item ∈ bareEntries ++ cacheEntries files) (proper : item.1 ≠ []) :
    (Listing.entryIn (bareEntries ++ cacheEntries files) item.1.dropLast).any
      RuntimeObject.isDirectory = true := by
  have root : Listing.entryIn (bareEntries ++ cacheEntries files) [] = some (.directory 493) := rfl
  have cache : Listing.entryIn (bareEntries ++ cacheEntries files) [cacheName] =
      some (.directory 493) := by
    have other : moduleName ≠ cacheName := by decide
    simp [Listing.entryIn, bareEntries, cacheEntries, other]
  simp only [bareEntries, cacheEntries, List.cons_append, List.nil_append, List.mem_cons,
    List.mem_map] at inside
  rcases inside with same | same | same | ⟨index, _, same⟩
  · rw [same] at proper
    exact absurd rfl proper
  · rw [same]
    simp [root, RuntimeObject.isDirectory]
  · rw [same]
    simp [root, RuntimeObject.isDirectory]
  · rw [← same]
    simp [cache, RuntimeObject.isDirectory]

def bareTree : RuntimeTree :=
  .ofEntries bareEntries (by decide) (by decide) (by decide) (by decide)

def cachedTree (files : Nat) (few : files ≤ 17576) : RuntimeTree :=
  .ofEntries (bareEntries ++ cacheEntries files)
    (by
      rw [List.map_append, cache_entries_paths, List.nodup_append]
      refine ⟨by decide, cache_paths_nodup files few, ?_⟩
      intro left inside right cached same
      rw [same] at inside
      exact bare_paths_apart files right inside cached)
    rfl (cached_parents files)
    (by
      intro item inside name member
      simp only [bareEntries, cacheEntries, List.cons_append, List.nil_append, List.mem_cons,
        List.mem_map] at inside
      rcases inside with same | same | same | ⟨index, _, same⟩
      · rw [same] at member
        cases member
      · rw [same, List.mem_singleton] at member
        rw [member]
        decide
      · rw [same, List.mem_singleton] at member
        rw [member]
        decide
      · rw [← same] at member
        simp only [List.mem_cons, List.not_mem_nil, or_false] at member
        rcases member with cache | bytecode
        · rw [cache]
          decide
        · rw [bytecode]
          exact bytecode_name_proper index)

section Cached

variable (files : Nat) (few : files ≤ 17576)

theorem cached_entry (path : List Bytes) : (cachedTree files few).listing.entry path =
    (Listing.entryIn bareEntries path).or (Listing.entryIn (cacheEntries files) path) := by
  have same : (cachedTree files few).listing.entry path =
      Listing.entryIn (bareEntries ++ cacheEntries files) path := rfl
  rw [same, Listing.entryIn, List.find?_append, Option.map_or]
  rfl

theorem cache_entry_plain (path : List Bytes) (object : RuntimeObject)
    (found : Listing.entryIn (cacheEntries files) path = some object) :
    object = .directory 493 ∨ object = .file 420 ⟨#[]⟩ := by
  have inside := Listing.mem_of_entry_in (cacheEntries files) path object found
  simp only [cacheEntries, List.mem_cons, List.mem_map, Prod.mk.injEq] at inside
  rcases inside with same | ⟨_, _, same⟩
  · exact Or.inl same.2
  · exact Or.inr same.2.symm

theorem cached_differs_iff (path : List Bytes) :
    entryRecord bareTree path ≠ entryRecord (cachedTree files few) path ↔
      path ∈ cachePaths files := by
  have cached := Listing.entry_in_is_some (cacheEntries files) path
  rw [cache_entries_paths] at cached
  have bare : bareTree.listing.entry path = Listing.entryIn bareEntries path := rfl
  have joined := cached_entry files few path
  constructor
  · intro differs
    by_contra absent
    apply differs
    have none : Listing.entryIn (cacheEntries files) path = none := by
      rw [← cached, Bool.not_eq_true, Option.isSome_eq_false_iff, Option.isNone_iff_eq_none]
        at absent
      exact absent
    rw [none, Option.or_none] at joined
    rw [entryRecord, entryRecord, bare, joined]
  · intro inside
    have none : Listing.entryIn bareEntries path = none := by
      rw [← Option.not_isSome_iff_eq_none, Listing.entry_in_is_some]
      intro outside
      exact bare_paths_apart files path outside inside
    obtain ⟨object, found⟩ := Option.isSome_iff_exists.mp (cached.mpr inside)
    rw [none, Option.none_or, found] at joined
    rw [entryRecord, entryRecord, bare, none, joined]
    rcases cache_entry_plain files path object found with same | same <;> subst same <;> simp

theorem cached_drift_length (drift : List (List Bytes))
    (exact_ : ExactDrift bareTree (cachedTree files few) drift) : drift.length = files + 1 := by
  have same : drift.length = (cachePaths files).length := by
    apply List.Perm.length_eq
    rw [List.perm_ext_iff_of_nodup (exact_.ascending.imp And.right) (cache_paths_nodup files few)]
    intro path
    rw [exact_.exact_, cached_differs_iff]
  simpa [cachePaths] using same

theorem below_cache_benign (rest : Bytes) : isBenign (cacheName ++ slash :: rest) = true := by
  have shown : (shownPath (cacheName ++ slash :: rest)).map
        (fun character => if character = '\\' then '/' else character) =
      "__pycache__" ++ '/' ::
        (shownPath rest).map (fun character => if character = '\\' then '/' else character) := by
    rw [shownPath, List.map_append, List.map_append]
    rfl
  rw [isBenign, Verifiers.isBenignRuntimeWrite, shown, Text.split_of_slash_free '/' _ _ (by decide)]
  simp [Verifiers.benignRuntimeWriteSegments]

theorem cached_drift_benign (drift : List (List Bytes))
    (exact_ : ExactDrift bareTree (cachedTree files few) drift) :
    ∀ path ∈ drift, isBenign (relOf path) = true := by
  intro path member
  have inside := (cached_differs_iff files few path).mp ((exact_.exact_ path).mp member)
  simp only [cachePaths, List.mem_cons, List.mem_map] at inside
  rcases inside with same | ⟨index, _, same⟩
  · rw [same]
    decide
  · rw [← same]
    exact below_cache_benign (bytecodeName index)

theorem cached_fits : FitsLimits (cachedTree files few) defaultLimits 19 2 := by
  have size : (cachedTree files few).listing.paths.length = files + 3 := by
    have paths : (cachedTree files few).listing.paths =
        (bareEntries ++ cacheEntries files).map Prod.fst := rfl
    rw [paths]
    simp [bareEntries, cacheEntries]
  constructor
  · intro path object found
    rw [cached_entry, Option.or_eq_some_iff] at found
    rcases found with bare | ⟨_, cached⟩
    · have inside := Listing.mem_of_entry_in bareEntries path object bare
      simp only [bareEntries, List.mem_cons, List.not_mem_nil, or_false, Prod.mk.injEq] at inside
      rcases inside with same | same
      · exact Or.inl ⟨493, same.2⟩
      · exact Or.inr ⟨420, _, same.2, le_refl 2⟩
    · rcases cache_entry_plain files path object cached with same | same
      · exact Or.inl ⟨493, same⟩
      · exact Or.inr ⟨420, _, same, Nat.zero_le 2⟩
  · intro path present
    rw [← (cachedTree files few).listing.complete] at present
    have inside : path ∈ (bareEntries ++ cacheEntries files).map Prod.fst := present
    rw [List.map_append, cache_entries_paths] at inside
    simp only [bareEntries, cachePaths, List.map_cons, List.map_nil, List.mem_append,
      List.mem_cons, List.not_mem_nil, or_false, List.mem_map] at inside
    rcases inside with (same | same) | same | ⟨index, _, same⟩
    · rw [same]
      decide
    · rw [same]
      decide
    · rw [same]
      decide
    · rw [← same]
      exact le_refl 19
  · rw [size]
    simp only [defaultLimits]
    omega
  · rw [size]
    simp only [defaultLimits]
    omega
  · decide
  · rw [size]
    simp only [defaultLimits]
    omega
  · decide

theorem cached_captured : ∃ identity, captureRuntimeIdentity (cachedTree files few) defaultLimits
    (fun _ => false) = some (.ok identity) :=
  capture_succeeds (cachedTree files few) (fun _ => rfl) (cached_fits files few)

end Cached

namespace RepoRuntimeContinuity

theorem bare_captured : ∃ identity,
    captureRuntimeIdentity bareTree defaultLimits (fun _ => false) = some (.ok identity) :=
  captured_of_ok _ (by decide)

theorem small_cache_accepted : ∃ expected observed,
    captureRuntimeIdentity bareTree defaultLimits (fun _ => false) = some (.ok expected) ∧
    captureRuntimeIdentity (cachedTree 2 (by decide)) defaultLimits (fun _ => false) =
      some (.ok observed) ∧
    ((create suiteRequest).run (comparedCalls expected observed)).failure = none := by
  obtain ⟨expected, baseline⟩ := bare_captured
  obtain ⟨observed, suite⟩ := cached_captured 2 (by decide)
  obtain ⟨_, ⟨drift, exact_, _⟩, _⟩ := (runtime_drift_is_exact bareTree (cachedTree 2 (by decide))
    defaultLimits defaultLimits (fun _ => false) fun _ => false).2 expected observed baseline suite
  refine ⟨expected, observed, baseline, suite, ?_⟩
  rw [benign_drift_accepted_iff rfl rfl expected observed bareTree (cachedTree 2 (by decide))
    defaultLimits defaultLimits (fun _ => false) (fun _ => false) baseline suite drift exact_
    (cached_drift_benign 2 (by decide) drift exact_),
    cached_drift_length 2 (by decide) drift exact_]
  decide

/-- Ten thousand bytecode files and their directory: each is tolerated, the list of them is not. -/
theorem large_cache_rejected : ∃ expected observed drift,
    captureRuntimeIdentity bareTree defaultLimits (fun _ => false) = some (.ok expected) ∧
    captureRuntimeIdentity (cachedTree 10000 (by decide)) defaultLimits (fun _ => false) =
      some (.ok observed) ∧
    ExactDrift bareTree (cachedTree 10000 (by decide)) drift ∧
    (∀ path ∈ drift, isBenign (relOf path) = true) ∧
    ((create suiteRequest).run (comparedCalls expected observed)).failure ≠ none := by
  obtain ⟨expected, baseline⟩ := bare_captured
  obtain ⟨observed, suite⟩ := cached_captured 10000 (by decide)
  obtain ⟨_, ⟨drift, exact_, reported⟩, _⟩ := (runtime_drift_is_exact bareTree
    (cachedTree 10000 (by decide)) defaultLimits defaultLimits (fun _ => false)
    fun _ => false).2 expected observed baseline suite
  have benign := cached_drift_benign 10000 (by decide) drift exact_
  refine ⟨expected, observed, drift, baseline, suite, exact_, benign, ?_⟩
  rw [ne_eq, compared_unfailed_iff rfl rfl, reported, capped_benign_iff drift benign,
    cached_drift_length 10000 (by decide) drift exact_]
  decide

end RepoRuntimeContinuity

end EvoomGuard.Runtime
