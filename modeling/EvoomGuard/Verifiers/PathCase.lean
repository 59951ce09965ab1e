import EvoomGuard.Lib.Segments
import EvoomGuard.Verifiers.CandidatePreflight

/-!
What the letter case of a path decides in the preflight. Every predicate of
`verifiers/harness_policy.py` folds the case of a path before it looks at it; the test for the
reserved pack namespace compares the path as it stands.
-/

namespace EvoomGuard.Verifiers

open Lib Domain Domain.Harness

/-- `lower` and `casefold` of texts that differ in the case of ASCII letters only. The one rule of
the Unicode database that looks at the neighbours of a character asks whether they are cased,
which the case of a letter does not change. -/
structure FoldsAsciiCase (mapping : CaseMapping) : Prop where
  lower : ∀ left right : Text, left.map Char.toLower = right.map Char.toLower →
    mapping.lower left = mapping.lower right
  casefold : ∀ left right : Text, left.map Char.toLower = right.map Char.toLower →
    mapping.casefold left = mapping.casefold right

theorem ascii_case_folds : FoldsAsciiCase asciiCase := ⟨fun _ _ => id, fun _ _ => id⟩

section Predicates

variable {mapping : CaseMapping} (folds : FoldsAsciiCase mapping) {left right : Text}
  (same : left.map Char.toLower = right.map Char.toLower)

theorem map_eq_of_map_eq {Item Folded Value : Type} {fold : Item → Folded} {value : Item → Value}
    (decided : ∀ first second, fold first = fold second → value first = value second) :
    ∀ first second : List Item, first.map fold = second.map fold →
      first.map value = second.map value := by
  intro first
  induction first with
  | nil =>
    intro second folded
    rw [List.map_nil, eq_comm, List.map_eq_nil_iff] at folded
    rw [folded]
  | cons head rest ih =>
    intro second folded
    cases second with
    | nil => cases folded
    | cons other others =>
      rw [List.map_cons, List.map_cons, List.cons.injEq] at folded
      rw [List.map_cons, List.map_cons, decided head other folded.1, ih others folded.2]

theorem to_lower_slash {character : Char} (lowered : character.toLower = '/') :
    character = '/' := by
  unfold Char.toLower at lowered
  split at lowered
  · next upper =>
      have code := congrArg (fun found => found.val.toNat) lowered
      have least : 65 ≤ character.val.toNat := upper.1
      have most : character.val.toNat ≤ 90 := upper.2
      simp only [UInt32.toNat_add] at code
      change (character.val.toNat + 32) % 4294967296 = 47 at code
      omega
  · exact lowered

theorem split_to_lower (text : Text) :
    Text.split '/' (text.map Char.toLower) = (Text.split '/' text).map (List.map Char.toLower) := by
  have each := Text.split_flat_map '/' (fun character => [character.toLower]) (by decide)
    (fun character inside => to_lower_slash (List.mem_singleton.1 inside).symm) text
  simpa only [← List.map_eq_flatMap] using each

include same in
theorem split_same_case : (Text.split '/' left).map (List.map Char.toLower) =
    (Text.split '/' right).map (List.map Char.toLower) := by
  rw [← split_to_lower, ← split_to_lower, same]

include folds same in
theorem segments_folded :
    (Text.split '/' left).map mapping.lower = (Text.split '/' right).map mapping.lower :=
  map_eq_of_map_eq folds.lower _ _ (split_same_case same)

include folds same in
theorem last_segment_folded :
    mapping.lower (Text.lastSegment left) = mapping.lower (Text.lastSegment right) := by
  have each : ∀ path : Text, mapping.lower (Text.lastSegment path) =
      ((Text.split '/' path).map mapping.lower).getLastD (mapping.lower []) :=
    fun path => List.getLastD_map.symm
  rw [each, each, segments_folded folds same]

include folds same in
theorem matches_globs_folded (globs : List Text) :
    matchesGlobs mapping left globs = matchesGlobs mapping right globs := by
  simp only [matchesGlobs, folds.lower left right same]

include folds same in
theorem is_protected_folded (extra : List Text) :
    isProtected mapping left extra = isProtected mapping right extra := by
  simp only [isProtected, List.map_dropLast, segments_folded folds same,
    last_segment_folded folds same, matches_globs_folded folds same]

include folds same in
theorem is_protected_config_folded (strictHarness : Bool) :
    isProtectedConfig mapping left strictHarness =
      isProtectedConfig mapping right strictHarness := by
  simp only [isProtectedConfig, isStrictHarnessManifest, last_segment_folded folds same,
    folds.lower left right same]

include folds same in
theorem is_judge_autoexec_folded :
    isJudgeAutoexec mapping left = isJudgeAutoexec mapping right := by
  simp only [isJudgeAutoexec, last_segment_folded folds same]

include folds same in
theorem is_protected_ci_folded (localActionDirs : List Text) :
    isProtectedCi mapping left localActionDirs = isProtectedCi mapping right localActionDirs := by
  simp only [isProtectedCi, isInsideLocalActionDir, folds.lower left right same]

include folds same in
theorem is_addable_new_test_folded (extra : List Text) (isNew : Bool)
    (localActionDirs : List Text) (strictHarness : Bool) :
    isAddableNewTest mapping left extra isNew localActionDirs strictHarness =
      isAddableNewTest mapping right extra isNew localActionDirs strictHarness := by
  simp only [isAddableNewTest, is_protected_folded folds same, last_segment_folded folds same,
    matches_globs_folded folds same, is_protected_config_folded folds same,
    is_judge_autoexec_folded folds same, is_protected_ci_folded folds same]

include folds same in
theorem is_allowlist_exemptible_folded (localActionDirs : List Text) (strictHarness : Bool) :
    isAllowlistExemptible mapping left localActionDirs strictHarness =
      isAllowlistExemptible mapping right localActionDirs strictHarness := by
  simp only [isAllowlistExemptible, is_protected_folded folds same,
    is_protected_config_folded folds same, is_judge_autoexec_folded folds same,
    is_protected_ci_folded folds same]

include folds same in
/-- A path that is not there meets a declared input by its spelling only. -/
theorem targets_harness_input_folded {base : BaseTree} (leftAbsent : base.lexists left = false)
    (rightAbsent : base.lexists right = false) (harnessInputs : List Text) :
    targetsHarnessInput mapping base left harnessInputs =
      targetsHarnessInput mapping base right harnessInputs := by
  have spelled : conflictsWith mapping left = conflictsWith mapping right := by
    funext root
    simp only [conflictsWith, folds.casefold left right same]
  simp only [targetsHarnessInput, spelled, leftAbsent, rightAbsent, Bool.and_false, Bool.false_and]

include folds same in
theorem judge_owned_folded {base : BaseTree} (leftAbsent : base.lexists left = false)
    (rightAbsent : base.lexists right = false) (harnessInputs extra allow : List Text)
    (allowNewTests strictHarness isNew : Bool) :
    judgeOwned mapping base harnessInputs extra allow allowNewTests strictHarness isNew left =
      judgeOwned mapping base harnessInputs extra allow allowNewTests strictHarness isNew
        right := by
  simp only [judgeOwned, targets_harness_input_folded folds same leftAbsent rightAbsent,
    is_judge_autoexec_folded folds same, is_protected_config_folded folds same,
    is_protected_ci_folded folds same, is_protected_folded folds same,
    is_addable_new_test_folded folds same, is_allowlist_exemptible_folded folds same,
    matches_globs_folded folds same]

end Predicates

theorem mem_protected_violations {mapping : CaseMapping} {request : CandidatePreflightRequest}
    {preflight : CandidatePreflight}
    (evaluated : evaluateCandidatePreflight mapping request = .ok preflight) {path : Text}
    (touched : path ∈ request.changedPaths) :
    path ∈ preflight.protectedViolations ↔ violates mapping request path = true := by
  obtain ⟨normalized, accepted⟩ := normalized_of_evaluated mapping request preflight evaluated
  rw [evaluate_candidate_preflight_ok mapping request normalized accepted] at evaluated
  cases evaluated
  rw [Text.mem_sorted, List.mem_filter, mem_touched_paths]
  exact ⟨fun both => both.2, fun violation => ⟨.inl touched, violation⟩⟩

def ownedOutsidePack (mapping : CaseMapping) (request : CandidatePreflightRequest) (isNew : Bool)
    (path : Text) : Bool :=
  judgeOwned mapping request.base request.harnessInputs request.protectedGlobs request.allow
    request.allowNewTests request.strictHarness isNew path

/-- Of two safe paths that the base tree does not have and that differ in letter case only, as
changed paths of two candidates under one policy, both or none is a violation, exactly when both
or none stands in the pack namespace as it is spelled, or the judge owns them anyway. -/
theorem violation_case_iff (mapping : CaseMapping) (folds : FoldsAsciiCase mapping)
    (request : CandidatePreflightRequest) (first second : List Text) (left right : Text)
    (leftChanged : left ∈ first) (rightChanged : right ∈ second)
    (same : left.map Char.toLower = right.map Char.toLower)
    (leftSafe : isSafeRelpath mapping left = true)
    (rightSafe : isSafeRelpath mapping right = true)
    (leftAbsent : request.base.exists? left = false ∧ request.base.lexists left = false)
    (rightAbsent : request.base.exists? right = false ∧ request.base.lexists right = false)
    (leftPreflight rightPreflight : CandidatePreflight)
    (leftEvaluated : evaluateCandidatePreflight mapping { request with changedPaths := first } =
      .ok leftPreflight)
    (rightEvaluated : evaluateCandidatePreflight mapping { request with changedPaths := second } =
      .ok rightPreflight) :
    (left ∈ leftPreflight.protectedViolations ↔ right ∈ rightPreflight.protectedViolations) ↔
      insideVerifierPack left = insideVerifierPack right ∨
        ownedOutsidePack mapping request true left = true := by
  have new : ∀ {changed : List Text} {path : Text}, path ∈ changed →
      isSafeRelpath mapping path = true → request.base.exists? path = false →
        (newPathsOf mapping request.base changed).contains path = true := by
    intro changed path inside safe absent
    rw [List.contains_iff_mem, newPathsOf, List.mem_filter]
    exact ⟨inside, by rw [safe, absent]; rfl⟩
  have owned := judge_owned_folded folds same leftAbsent.2 rightAbsent.2 request.harnessInputs
    request.protectedGlobs request.allow request.allowNewTests request.strictHarness true
  rw [mem_protected_violations leftEvaluated leftChanged,
    mem_protected_violations rightEvaluated rightChanged]
  simp only [violates, ownedOutsidePack, new leftChanged leftSafe leftAbsent.1,
    new rightChanged rightSafe rightAbsent.1, owned]
  cases insideVerifierPack left <;> cases insideVerifierPack right <;> simp

def absentBase : BaseTree where
  exists? := fun _ => false
  lexists := fun _ => false
  samefile := fun _ _ => none
  discoverLocalActionDirs := []

def changing (path : Text) : CandidatePreflightRequest where
  base := absentBase
  changedPaths := [path]

/-- A new source file under two spellings. -/
theorem violation_case_source_file : ∃ leftPreflight rightPreflight,
    evaluateCandidatePreflight asciiCase (changing "src/a.py") = .ok leftPreflight ∧
    evaluateCandidatePreflight asciiCase (changing "SRC/A.py") = .ok rightPreflight ∧
    ("src/a.py".toList ∈ leftPreflight.protectedViolations ↔
      "SRC/A.py".toList ∈ rightPreflight.protectedViolations) := by
  have lower := evaluate_candidate_preflight_ok asciiCase (changing "src/a.py") [] rfl
  have upper := evaluate_candidate_preflight_ok asciiCase (changing "SRC/A.py") [] rfl
  exact ⟨_, _, lower, upper,
    (violation_case_iff asciiCase ascii_case_folds (changing []) ["src/a.py"]
      ["SRC/A.py"] "src/a.py" "SRC/A.py" (by decide +kernel) (by decide +kernel)
      (by decide +kernel) (by decide +kernel) (by decide +kernel) ⟨rfl, rfl⟩ ⟨rfl, rfl⟩ _ _
      lower upper).2 (.inl (by decide +kernel))⟩

/-- The pack namespace in another spelling is no violation. -/
theorem pack_namespace_case : ¬∀ (mapping : CaseMapping), FoldsAsciiCase mapping →
    ∀ (request : CandidatePreflightRequest) (first second : List Text) (left right : Text),
      left ∈ first → right ∈ second → left.map Char.toLower = right.map Char.toLower →
      isSafeRelpath mapping left = true → isSafeRelpath mapping right = true →
      request.base.exists? left = false ∧ request.base.lexists left = false →
      request.base.exists? right = false ∧ request.base.lexists right = false →
      ∀ leftPreflight rightPreflight,
        evaluateCandidatePreflight mapping { request with changedPaths := first } =
          .ok leftPreflight →
        evaluateCandidatePreflight mapping { request with changedPaths := second } =
          .ok rightPreflight →
        (left ∈ leftPreflight.protectedViolations ↔
          right ∈ rightPreflight.protectedViolations) := by
  intro folded
  have lower := evaluate_candidate_preflight_ok asciiCase
    (changing "evoguard_verifier_pack/a.py") [] rfl
  have upper := evaluate_candidate_preflight_ok asciiCase
    (changing "EvoGuard_Verifier_Pack/a.py") [] rfl
  have decided := folded asciiCase ascii_case_folds (changing [])
    ["evoguard_verifier_pack/a.py"] ["EvoGuard_Verifier_Pack/a.py"]
    "evoguard_verifier_pack/a.py" "EvoGuard_Verifier_Pack/a.py" (by decide +kernel)
    (by decide +kernel) (by decide +kernel) (by decide +kernel) (by decide +kernel) ⟨rfl, rfl⟩
    ⟨rfl, rfl⟩ _ _ lower upper
  rw [mem_protected_violations lower (by decide +kernel),
    mem_protected_violations upper (by decide +kernel)] at decided
  revert decided
  decide +kernel

end EvoomGuard.Verifiers
