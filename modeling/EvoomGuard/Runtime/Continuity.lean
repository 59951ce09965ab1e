import EvoomGuard.Runtime.Changes
import EvoomGuard.Verifiers.RepoContinuity

/-!
The judgment-local state of `verifiers/repo_runtime_continuity.py`: one baseline scan, one
comparison after the suite and one after the pack, in whatever order they are called. The state
keeps the answers of the identity scans it asked for.
-/

namespace EvoomGuard.Runtime

open Lib Lib.Framing Domain

inductive ContinuityPhase where
  | notRequired
  | notCaptured
  | captured
  | suiteVerified
  | delivered
  | failed
  deriving DecidableEq, Repr

inductive ContinuityFailureKind where
  | captureError
  | verificationError
  | suiteDrift
  | packDrift
  deriving DecidableEq, Repr

structure ContinuityFailure where
  kind : ContinuityFailureKind
  diagnostics : Text
  status : Continuity
  changes : List Text := []
  deriving DecidableEq

/-- What an identity scan answers: an identity, a `RuntimeIdentityError`, or any other exception,
which no operation catches. -/
inductive Scanned where
  | observed (identity : RuntimeIdentity)
  | refused (problem : Text)
  | raised
  deriving DecidableEq

inductive ScanPoint where
  | baseline
  | afterSuite
  | afterPack
  deriving DecidableEq, Repr

structure RepoRuntimeContinuity where
  request : Verifiers.RuntimeContinuityRequest
  baseline : Option RuntimeIdentity := none
  continuity : Continuity := .notApplicable
  delivery : Continuity := .notApplicable
  phase : ContinuityPhase := .notRequired
  failure : Option ContinuityFailure := none
  scans : List (ScanPoint × Scanned) := []

inductive CallOutcome where
  | returned (failure : Option ContinuityFailure)
  | wrongPhase
  | noBaseline
  | propagated
  deriving DecidableEq

-- The benign filter reads ASCII only: other bytes become characters outside of it.
def shownPath (path : Bytes) : Text := path.map fun byte => Char.ofNat byte.toNat

def isBenign (path : Bytes) : Bool := Verifiers.isBenignRuntimeWrite (shownPath path)

namespace RepoRuntimeContinuity

def create (request : Verifiers.RuntimeContinuityRequest) : RepoRuntimeContinuity :=
  if request.required then
    { request := request, phase := .notCaptured, delivery := request.delivery }
  else { request := request }

def recordFailure (state : RepoRuntimeContinuity) (failure : ContinuityFailure) :
    RepoRuntimeContinuity × CallOutcome :=
  ({ state with failure := some failure, phase := .failed, continuity := failure.status },
    .returned (some failure))

def asked (state : RepoRuntimeContinuity) (point : ScanPoint) (scan : Scanned) :
    RepoRuntimeContinuity :=
  { state with scans := state.scans ++ [(point, scan)] }

def captureBaseline (state : RepoRuntimeContinuity) (scan : Scanned) :
    RepoRuntimeContinuity × CallOutcome :=
  if state.request.required = false then (state, .returned none)
  else
    match state.failure with
    | some failure => (state, .returned (some failure))
    | none =>
      if state.phase = .notCaptured then
        let entered := { state.asked .baseline scan with continuity := .unavailable }
        match scan with
        | .raised => (entered, .propagated)
        | .refused problem =>
          entered.recordFailure
            ⟨.captureError, Verifiers.captureDiagnostics problem, .unavailable, []⟩
        | .observed identity =>
          ({ entered with
              baseline := some identity
              continuity := .incomplete
              phase := .captured }, .returned none)
      else (state, .wrongPhase)

/-- Compares the tree with the baseline. `judged` is the failure of the changes that count and
`accepted` what a clean comparison does to the state. -/
def verify (point : ScanPoint) (drift : ContinuityFailureKind)
    (judged : Except Text (List Text) → Option Verifiers.RuntimeFailure)
    (accepted : RepoRuntimeContinuity → RepoRuntimeContinuity) (state : RepoRuntimeContinuity)
    (scan : Scanned) : RepoRuntimeContinuity × CallOutcome :=
  match state.baseline with
  | none => (state, .noBaseline)
  | some baseline =>
    let failed (kind : ContinuityFailureKind) (failure : Verifiers.RuntimeFailure) :=
      (state.asked point scan).recordFailure
        ⟨kind, failure.diagnostics, .verificationFailed, failure.changes.getD []⟩
    match scan with
    | .raised => (state.asked point scan, .propagated)
    | .refused problem =>
      match judged (.error problem) with
      | some failure => failed .verificationError failure
      | none => (accepted (state.asked point scan), .returned none)
    | .observed identity =>
      match judged (.ok ((runtimeIdentityChanges baseline identity).map shownPath)) with
      | some failure => failed drift failure
      | none => (accepted (state.asked point scan), .returned none)

def verifyAfterSuite (state : RepoRuntimeContinuity) (scan : Scanned) :
    RepoRuntimeContinuity × CallOutcome :=
  match state.failure with
  | some failure => (state, .returned (some failure))
  | none =>
    if state.phase = .captured then
      verify .afterSuite .suiteDrift (Verifiers.verifyAfterSuite state.request.packConfigured)
        (fun state => { state with phase := .suiteVerified }) state scan
    else (state, .wrongPhase)

def finalizeSuiteOnly (state : RepoRuntimeContinuity) : RepoRuntimeContinuity × CallOutcome :=
  if state.request.packConfigured then (state, .returned none)
  else if state.phase = .suiteVerified then
    ({ state with continuity := state.delivery, phase := .delivered }, .returned none)
  else (state, .returned none)

def verifyAfterPack (state : RepoRuntimeContinuity) (scan : Scanned) :
    RepoRuntimeContinuity × CallOutcome :=
  match state.failure with
  | some failure => (state, .returned (some failure))
  | none =>
    if state.phase = .suiteVerified then
      verify .afterPack .packDrift Verifiers.verifyAfterPack
        (fun state => { state with continuity := state.delivery, phase := .delivered }) state scan
    else (state, .wrongPhase)

/-- One call, with what a scan answers if it is asked for one. -/
inductive Call where
  | captureBaseline (scan : Scanned)
  | verifyAfterSuite (scan : Scanned)
  | finalizeSuiteOnly
  | verifyAfterPack (scan : Scanned)

def step (state : RepoRuntimeContinuity) : Call → RepoRuntimeContinuity
  | .captureBaseline scan => (state.captureBaseline scan).1
  | .verifyAfterSuite scan => (state.verifyAfterSuite scan).1
  | .finalizeSuiteOnly => state.finalizeSuiteOnly.1
  | .verifyAfterPack scan => (state.verifyAfterPack scan).1

def run (state : RepoRuntimeContinuity) (calls : List Call) : RepoRuntimeContinuity :=
  calls.foldl step state

end RepoRuntimeContinuity

/-! A comparison whose reported changes are all benign -/

def judgedRecords (benign : Bytes → Bool) (records : List RuntimeEntry) : List RuntimeEntry :=
  records.filter fun record => !benign record.path

section Judged

variable (benign : Bytes → Bool)

theorem judged_records_benign (record : RuntimeEntry) (rest : List RuntimeEntry)
    (tolerated : benign record.path = true) :
    judgedRecords benign (record :: rest) = judgedRecords benign rest := by
  simp [judgedRecords, tolerated]

theorem judged_records_same (record : RuntimeEntry) (left right : List RuntimeEntry)
    (same : judgedRecords benign left = judgedRecords benign right) :
    judgedRecords benign (record :: left) = judgedRecords benign (record :: right) := by
  simp only [judgedRecords, List.filter_cons] at same ⊢
  rw [same]

/-- A path that was reported among benign changes is benign, and the report went on after it: the
mark of a full list is not. -/
theorem changed_benign (judgedMark : benign truncatedMark = false) (changes : List Bytes)
    (path : Bytes) (next : List Bytes → List Bytes)
    (tolerated : ∀ reported ∈ (match changed changes path with
      | (changes, true) => changes
      | (changes, false) => next changes), benign reported = true) :
    ∀ reported ∈ next (changes ++ [path]), benign reported = true := by
  by_cases full : maxReportedChanges ≤ changes.length
  · rw [changed, if_pos full] at tolerated
    have mark := tolerated truncatedMark (by simp)
    rw [judgedMark] at mark
    cases mark
  · rw [changed, if_neg full] at tolerated
    exact tolerated

theorem last_benign (changes : List Bytes) (path : Bytes)
    (tolerated : ∀ reported ∈ changes ++ [path], benign reported = true) :
    (∀ reported ∈ changes, benign reported = true) ∧ benign path = true := by
  constructor
  · intro reported member
    exact tolerated reported (List.mem_append_left _ member)
  · exact tolerated path (by simp)

theorem report_rest_judged (judgedMark : benign truncatedMark = false)
    (records : List RuntimeEntry) : ∀ changes : List Bytes,
      (∀ reported ∈ reportRest records changes, benign reported = true) →
      (∀ reported ∈ changes, benign reported = true) ∧ judgedRecords benign records = [] := by
  induction records with
  | nil =>
    intro changes tolerated
    exact ⟨tolerated, rfl⟩
  | cons record rest later =>
    intro changes tolerated
    rw [reportRest] at tolerated
    have onward := later _ (changed_benign benign judgedMark changes record.path
      (reportRest rest) tolerated)
    have before := last_benign benign changes record.path onward.1
    rw [judged_records_benign benign record rest before.2]
    exact ⟨before.1, onward.2⟩

theorem compare_records_judged (judgedMark : benign truncatedMark = false)
    (before after : List RuntimeEntry) (changes : List Bytes)
    (tolerated : ∀ reported ∈ compareRecords before after changes, benign reported = true) :
    (∀ reported ∈ changes, benign reported = true) ∧
      judgedRecords benign before = judgedRecords benign after := by
  induction size : before.length + after.length using Nat.strong_induction_on
    generalizing before after changes with
  | _ size shorter =>
    cases before with
    | nil =>
      rw [compareRecords] at tolerated
      have rest := report_rest_judged benign judgedMark after changes tolerated
      exact ⟨rest.1, rest.2.symm⟩
    | cons left lefts =>
      cases after with
      | nil =>
        rw [compareRecords] at tolerated
        exact report_rest_judged benign judgedMark (left :: lefts) changes tolerated
      | cons right rights =>
        simp only [List.length_cons] at size
        rw [compareRecords] at tolerated
        by_cases paths : left.path = right.path
        · rw [if_pos paths] at tolerated
          by_cases same : left = right
          · rw [if_pos same] at tolerated
            have rest := shorter _ (by omega) lefts rights changes tolerated rfl
            rw [same]
            exact ⟨rest.1, judged_records_same benign right lefts rights rest.2⟩
          · rw [if_neg same] at tolerated
            have rest := shorter _ (by omega) lefts rights _
              (changed_benign benign judgedMark changes left.path
                (compareRecords lefts rights) tolerated) rfl
            have reported := last_benign benign changes left.path rest.1
            rw [judged_records_benign benign left lefts reported.2,
              judged_records_benign benign right rights (paths ▸ reported.2)]
            exact ⟨reported.1, rest.2⟩
        · rw [if_neg paths] at tolerated
          by_cases below : keyLt left right = true
          · rw [if_pos below] at tolerated
            have rest := shorter _ (by simp only [List.length_cons]; omega) lefts
              (right :: rights) _ (changed_benign benign judgedMark changes left.path
                (compareRecords lefts (right :: rights)) tolerated) rfl
            have reported := last_benign benign changes left.path rest.1
            rw [judged_records_benign benign left lefts reported.2]
            exact ⟨reported.1, rest.2⟩
          · rw [if_neg below] at tolerated
            have rest := shorter _ (by simp only [List.length_cons]; omega) (left :: lefts)
              rights _ (changed_benign benign judgedMark changes right.path
                (compareRecords (left :: lefts) rights) tolerated) rfl
            have reported := last_benign benign changes right.path rest.1
            rw [judged_records_benign benign right rights reported.2]
            exact ⟨reported.1, rest.2⟩

theorem runtime_changes_judged (judgedMark : benign truncatedMark = false)
    (expected observed : RuntimeIdentity)
    (tolerated : ∀ reported ∈ runtimeIdentityChanges expected observed, benign reported = true) :
    judgedRecords benign expected.records = judgedRecords benign observed.records := by
  have compared : ∀ reported ∈ compareRecords expected.records observed.records [],
      benign reported = true := by
    intro reported member
    apply tolerated
    rw [runtimeIdentityChanges, if_neg]
    · exact member
    · intro silent
      rw [silent.1] at member
      cases member
  exact (compare_records_judged benign judgedMark _ _ [] compared).2

end Judged

theorem runtime_changes_none (expected observed : RuntimeIdentity)
    (unchanged : runtimeIdentityChanges expected observed = []) :
    expected.records = observed.records := by
  have same := runtime_changes_judged (fun _ => false) rfl expected observed (by
    rw [unchanged]
    intro reported member
    cases member)
  simpa [judgedRecords] using same

theorem truncated_mark_judged : isBenign truncatedMark = false := by
  decide

/-! What a state rests on -/

def recordsAt (path : Bytes) (records : List RuntimeEntry) : List RuntimeEntry :=
  records.filter fun record => record.path == path

theorem records_at_judged (benign : Bytes → Bool) (path : Bytes) (judged : benign path = false)
    (records : List RuntimeEntry) :
    recordsAt path (judgedRecords benign records) = recordsAt path records := by
  rw [recordsAt, recordsAt, judgedRecords, List.filter_filter]
  apply List.filter_congr
  intro record member
  by_cases named : record.path = path
  · simp [named, judged]
  · simp [named]

/-- The identities a kind of scan observed, in order. -/
def observedAt (point : ScanPoint) (scans : List (ScanPoint × Scanned)) : List RuntimeIdentity :=
  scans.filterMap fun scan =>
    match scan with
    | (asked, .observed identity) => if asked = point then some identity else none
    | _ => none

theorem observed_at_append (point asked : ScanPoint) (scans : List (ScanPoint × Scanned))
    (scan : Scanned) :
    observedAt point (scans ++ [(asked, scan)]) =
      observedAt point scans ++ observedAt point [(asked, scan)] := by
  rw [observedAt, List.filterMap_append]
  rfl

def isDelivered (continuity : Continuity) : Bool :=
  continuity == .readOnlyEnforced || continuity == .snapshotBoundaryChecked

namespace RepoRuntimeContinuity

variable (state : RepoRuntimeContinuity)

def BaselineCaptured : Prop :=
  ∃ base, state.baseline = some base ∧ observedAt .baseline state.scans = [base]

/-- The one tree observed after the suite is the baseline tree, up to benign paths when no pack
is configured. -/
def SuiteProven : Prop :=
  ∃ base suite, state.baseline = some base ∧ observedAt .afterSuite state.scans = [suite] ∧
    (state.request.packConfigured = true → suite.records = base.records) ∧
    ∀ path, isBenign path = false → recordsAt path suite.records = recordsAt path base.records

def PackProven : Prop :=
  ∃ base pack, state.baseline = some base ∧ observedAt .afterPack state.scans = [pack] ∧
    pack.records = base.records

/-- What holds in each phase. -/
def Justified : Prop :=
  match state.phase with
  | .notRequired | .notCaptured =>
    state.failure = none ∧ isDelivered state.continuity = false ∧
      ∀ point, observedAt point state.scans = []
  | .captured =>
    state.failure = none ∧ isDelivered state.continuity = false ∧ BaselineCaptured state ∧
      observedAt .afterSuite state.scans = [] ∧ observedAt .afterPack state.scans = []
  | .suiteVerified =>
    state.failure = none ∧ isDelivered state.continuity = false ∧ BaselineCaptured state ∧
      SuiteProven state ∧ observedAt .afterPack state.scans = []
  | .delivered =>
    state.failure = none ∧ BaselineCaptured state ∧ SuiteProven state ∧
      (state.request.packConfigured = true → PackProven state)
  | .failed => state.failure ≠ none ∧ isDelivered state.continuity = false

variable {state}

theorem created_justified (request : Verifiers.RuntimeContinuityRequest) :
    Justified (create request) := by
  unfold create
  split_ifs
  · exact ⟨rfl, rfl, fun _ => rfl⟩
  · exact ⟨rfl, rfl, fun _ => rfl⟩

theorem record_failure_justified (failure : ContinuityFailure)
    (status : isDelivered failure.status = false) :
    Justified (state.recordFailure failure).1 := by
  constructor
  · intro none
    cases none
  · exact status

variable (point asked : ScanPoint)

theorem observed_at_unobserved (scans : List (ScanPoint × Scanned))
    (scan : Scanned) (unobserved : ∀ identity, scan ≠ .observed identity) :
    observedAt point (scans ++ [(asked, scan)]) = observedAt point scans := by
  rw [observed_at_append]
  cases scan with
  | observed identity => exact absurd rfl (unobserved identity)
  | refused problem | raised => exact List.append_nil _

theorem observed_at_other (scans : List (ScanPoint × Scanned))
    (identity : RuntimeIdentity) (other : asked ≠ point) :
    observedAt point (scans ++ [(asked, .observed identity)]) = observedAt point scans := by
  rw [observed_at_append]
  simp [observedAt, other]

theorem observed_at_self (point : ScanPoint) (scans : List (ScanPoint × Scanned))
    (identity : RuntimeIdentity) :
    observedAt point (scans ++ [(point, .observed identity)]) =
      observedAt point scans ++ [identity] := by
  rw [observed_at_append]
  simp [observedAt]

theorem capture_baseline_justified (scan : Scanned) (justified : Justified state) :
    Justified (state.captureBaseline scan).1 := by
  unfold captureBaseline
  by_cases required : state.request.required = false
  · rw [if_pos required]
    exact justified
  rw [if_neg required]
  cases failed : state.failure with
  | some failure => exact justified
  | none =>
    dsimp only
    by_cases phase : state.phase = .notCaptured
    · rw [if_pos phase]
      simp only [Justified, phase] at justified
      obtain ⟨unfailed, undelivered, unobserved⟩ := justified
      cases scan with
      | refused problem => exact record_failure_justified _ rfl
      | raised =>
        simp only [Justified, asked, phase]
        refine ⟨failed, rfl, ?_⟩
        intro point
        rw [observed_at_unobserved point .baseline state.scans .raised (by simp)]
        exact unobserved point
      | observed identity =>
        refine ⟨failed, rfl, ⟨identity, rfl, ?_⟩, ?_, ?_⟩
        · rw [asked, observed_at_self, unobserved]
          rfl
        · rw [asked, observed_at_other _ _ _ _ (by decide)]
          exact unobserved .afterSuite
        · rw [asked, observed_at_other _ _ _ _ (by decide)]
          exact unobserved .afterPack
    · rw [if_neg phase]
      exact justified

/-- What a comparison can end in: nothing without a baseline, an exception goes through it, a
failure is recorded, or the tree that was observed is accepted. -/
theorem verify_ends {holds : RepoRuntimeContinuity → Prop} (point : ScanPoint)
    (drift : ContinuityFailureKind)
    (judged : Except Text (List Text) → Option Verifiers.RuntimeFailure)
    (accepted : RepoRuntimeContinuity → RepoRuntimeContinuity) (scan : Scanned)
    (strict : ∀ problem, judged (.error problem) ≠ none) (kept : holds state)
    (raised : holds (state.asked point .raised))
    (refused : ∀ failure : ContinuityFailure, isDelivered failure.status = false →
      holds ((state.asked point scan).recordFailure failure).1)
    (clean : ∀ base identity, state.baseline = some base →
      judged (.ok ((runtimeIdentityChanges base identity).map shownPath)) = none →
      holds (accepted (state.asked point (.observed identity)))) :
    holds (verify point drift judged accepted state scan).1 := by
  unfold verify
  cases captured : state.baseline with
  | none => exact kept
  | some base =>
    cases scan with
    | raised => exact raised
    | refused problem =>
      cases found : judged (.error problem) with
      | none => exact absurd found (strict problem)
      | some failure =>
        simp only [found]
        exact refused _ rfl
    | observed identity =>
      cases found : judged (.ok ((runtimeIdentityChanges base identity).map shownPath)) with
      | none =>
        simp only [found]
        exact clean base identity captured found
      | some failure =>
        simp only [found]
        exact refused _ rfl

theorem asked_raised_observed :
    observedAt point (state.asked asked .raised).scans = observedAt point state.scans := by
  exact observed_at_unobserved point asked state.scans .raised (by simp)

theorem asked_raised_justified (point : ScanPoint) (justified : Justified state) :
    Justified (state.asked point .raised) := by
  have same : (state.asked point .raised).phase = state.phase := rfl
  unfold Justified BaselineCaptured SuiteProven PackProven at justified ⊢
  simp only [asked_raised_observed, same]
  exact justified

theorem verify_runtime_none (drift : Text) (kept : List Text → List Text) (changes : List Text)
    (clean : Verifiers.verifyRuntime drift kept (.ok changes) = none) : kept changes = [] := by
  rw [Verifiers.verifyRuntime] at clean
  split_ifs at clean with empty
  exact List.isEmpty_iff.mp empty

theorem suite_judged (packConfigured : Bool) (base identity : RuntimeIdentity)
    (clean : Verifiers.verifyAfterSuite packConfigured
      (.ok ((runtimeIdentityChanges base identity).map shownPath)) = none) :
    (packConfigured = true → identity.records = base.records) ∧
      ∀ path, isBenign path = false →
        recordsAt path identity.records = recordsAt path base.records := by
  have kept := verify_runtime_none _ _ _ clean
  constructor
  · intro configured
    rw [configured, if_pos rfl, List.map_eq_nil_iff] at kept
    exact (runtime_changes_none base identity kept).symm
  · intro path judged
    have tolerated : ∀ reported ∈ runtimeIdentityChanges base identity,
        isBenign reported = true := by
      intro reported member
      cases packConfigured with
      | true =>
        rw [if_pos rfl, List.map_eq_nil_iff] at kept
        rw [kept] at member
        cases member
      | false =>
        rw [if_neg (by decide), List.filter_eq_nil_iff] at kept
        simpa [isBenign] using kept (shownPath reported) (List.mem_map_of_mem member)
    have same := runtime_changes_judged isBenign truncated_mark_judged base identity tolerated
    rw [← records_at_judged isBenign path judged identity.records, ← same,
      records_at_judged isBenign path judged base.records]

theorem verify_after_suite_justified (scan : Scanned) (justified : Justified state) :
    Justified (state.verifyAfterSuite scan).1 := by
  unfold verifyAfterSuite
  cases failed : state.failure with
  | some failure => exact justified
  | none =>
    dsimp only
    by_cases phase : state.phase = .captured
    · rw [if_pos phase]
      apply verify_ends
      · exact fun _ none => nomatch none
      · exact justified
      · exact asked_raised_justified _ justified
      · exact fun _ => record_failure_justified _
      · intro base identity captured judged
        simp only [Justified, phase] at justified
        obtain ⟨unfailed, undelivered, ⟨first, stored, scanned⟩, unsuited, unpacked⟩ := justified
        have proven := suite_judged state.request.packConfigured base identity judged
        refine ⟨failed, undelivered, ⟨first, stored, ?_⟩,
          ⟨base, identity, captured, ?_, proven.1, proven.2⟩, ?_⟩
        · rw [asked, observed_at_other _ _ _ _ (by decide)]
          exact scanned
        · rw [asked, observed_at_self, unsuited]
          rfl
        · rw [asked, observed_at_other _ _ _ _ (by decide)]
          exact unpacked
    · rw [if_neg phase]
      exact justified

theorem finalize_suite_only_justified (justified : Justified state) :
    Justified state.finalizeSuiteOnly.1 := by
  unfold finalizeSuiteOnly
  by_cases configured : state.request.packConfigured = true
  · rw [if_pos configured]
    exact justified
  · rw [if_neg configured]
    by_cases phase : state.phase = .suiteVerified
    · rw [if_pos phase]
      simp only [Justified, phase] at justified
      exact ⟨justified.1, justified.2.2.1, justified.2.2.2.1, fun pack => absurd pack configured⟩
    · rw [if_neg phase]
      exact justified

theorem verify_after_pack_justified (scan : Scanned) (justified : Justified state) :
    Justified (state.verifyAfterPack scan).1 := by
  unfold verifyAfterPack
  cases failed : state.failure with
  | some failure => exact justified
  | none =>
    dsimp only
    by_cases phase : state.phase = .suiteVerified
    · rw [if_pos phase]
      apply verify_ends
      · exact fun _ none => nomatch none
      · exact justified
      · exact asked_raised_justified _ justified
      · exact fun _ => record_failure_justified _
      · intro base identity captured judged
        simp only [Justified, phase] at justified
        obtain ⟨unfailed, undelivered, ⟨first, stored, scanned⟩,
          ⟨before, suite, held, suited, proven⟩, unpacked⟩ := justified
        have unchanged := verify_runtime_none _ _ _ judged
        rw [id_eq, List.map_eq_nil_iff] at unchanged
        refine ⟨failed, ⟨first, stored, ?_⟩, ⟨before, suite, held, ?_, proven⟩, ?_⟩
        · rw [asked, observed_at_other _ _ _ _ (by decide)]
          exact scanned
        · rw [asked, observed_at_other _ _ _ _ (by decide)]
          exact suited
        · intro configured
          refine ⟨base, identity, captured, ?_, (runtime_changes_none base identity unchanged).symm⟩
          rw [asked, observed_at_self, unpacked]
          rfl
    · rw [if_neg phase]
      exact justified

theorem step_justified (call : Call) (justified : Justified state) :
    Justified (state.step call) := by
  cases call with
  | captureBaseline scan => exact capture_baseline_justified scan justified
  | verifyAfterSuite scan => exact verify_after_suite_justified scan justified
  | finalizeSuiteOnly => exact finalize_suite_only_justified justified
  | verifyAfterPack scan => exact verify_after_pack_justified scan justified

theorem run_justified (calls : List Call) (justified : Justified state) :
    Justified (state.run calls) := by
  induction calls generalizing state with
  | nil => exact justified
  | cons call rest later => exact later (step_justified call justified)

theorem step_request (call : Call) : (state.step call).request = state.request := by
  cases call with
  | captureBaseline scan =>
    simp only [step, captureBaseline]
    split_ifs
    · rfl
    all_goals
      cases state.failure with
      | some failure => rfl
      | none =>
        cases scan <;> rfl
  | verifyAfterSuite scan =>
    simp only [step, verifyAfterSuite]
    cases state.failure with
    | some failure => rfl
    | none =>
      dsimp only
      split_ifs
      · exact @verify_ends _ (fun after => after.request = state.request) .afterSuite _ _ _ scan
          (fun _ none => nomatch none) rfl rfl (fun _ _ => rfl) fun _ _ _ _ => rfl
      · rfl
  | finalizeSuiteOnly =>
    simp only [step, finalizeSuiteOnly]
    split_ifs <;> rfl
  | verifyAfterPack scan =>
    simp only [step, verifyAfterPack]
    cases state.failure with
    | some failure => rfl
    | none =>
      dsimp only
      split_ifs
      · exact @verify_ends _ (fun after => after.request = state.request) .afterPack _ _ _ scan
          (fun _ none => nomatch none) rfl rfl (fun _ _ => rfl) fun _ _ _ _ => rfl
      · rfl

theorem run_request (calls : List Call) : (state.run calls).request = state.request := by
  induction calls generalizing state with
  | nil => rfl
  | cons call rest later => exact later.trans (step_request call)

theorem create_request (request : Verifiers.RuntimeContinuityRequest) :
    (create request).request = request := by
  unfold create
  split_ifs <;> rfl

theorem failed_step (call : Call) (failure : ContinuityFailure)
    (failed : state.failure = some failure) (phase : state.phase = .failed) :
    state.step call = state := by
  cases call with
  | captureBaseline scan =>
    simp only [step, captureBaseline, failed]
    split_ifs <;> rfl
  | verifyAfterSuite scan => simp [step, verifyAfterSuite, failed]
  | finalizeSuiteOnly => simp [step, finalizeSuiteOnly, phase]
  | verifyAfterPack scan => simp [step, verifyAfterPack, failed]

theorem failed_run (calls : List Call) (failure : ContinuityFailure)
    (failed : state.failure = some failure) (phase : state.phase = .failed) :
    state.run calls = state := by
  induction calls with
  | nil => rfl
  | cons call rest later =>
    have still : state.run (call :: rest) = (state.step call).run rest := rfl
    rw [still, failed_step call failure failed phase, later]

theorem justified_failed (justified : Justified state) (failed : state.failure ≠ none) :
    state.phase = .failed ∧ isDelivered state.continuity = false := by
  cases phase : state.phase with
  | failed =>
    simp only [Justified, phase] at justified
    exact ⟨rfl, justified.2⟩
  | _ =>
    simp only [Justified, phase] at justified
    exact absurd justified.1 failed

theorem justified_delivered (justified : Justified state)
    (delivered : isDelivered state.continuity = true) : state.phase = .delivered := by
  cases phase : state.phase with
  | delivered => rfl
  | failed =>
    simp only [Justified, phase] at justified
    rw [justified.2] at delivered
    cases delivered
  | _ =>
    simp only [Justified, phase] at justified
    rw [justified.2.1] at delivered
    cases delivered

/-- Continuity is delivered for a proven tree only, whatever is called in whatever order and
whatever the scans answer; after a recorded failure it is never delivered. -/
theorem delivered_continuity_proven (request : Verifiers.RuntimeContinuityRequest)
    (calls later : List Call) :
    (isDelivered ((create request).run calls).continuity = true →
      ((create request).run calls).failure = none ∧
      ∃ base suite, ((create request).run calls).baseline = some base ∧
        observedAt .baseline ((create request).run calls).scans = [base] ∧
        observedAt .afterSuite ((create request).run calls).scans = [suite] ∧
        (request.packConfigured = true → suite.records = base.records ∧
          ∃ pack, observedAt .afterPack ((create request).run calls).scans = [pack] ∧
            pack.records = base.records) ∧
        (request.packConfigured = false → ∀ path, isBenign path = false →
          recordsAt path suite.records = recordsAt path base.records)) ∧
    (((create request).run calls).failure ≠ none →
      isDelivered ((create request).run (calls ++ later)).continuity = false) := by
  have justified := run_justified calls (created_justified request)
  have asked : ((create request).run calls).request = request :=
    (run_request calls).trans (create_request request)
  constructor
  · intro delivered
    have phase := justified_delivered justified delivered
    simp only [Justified, phase] at justified
    obtain ⟨unfailed, ⟨base, stored, scanned⟩, ⟨before, suite, held, suited, exact_, judged⟩,
      packed⟩ := justified
    have same : before = base := Option.some.inj (held.symm.trans stored)
    subst same
    rw [asked] at exact_ packed
    refine ⟨unfailed, before, suite, stored, scanned, suited, ?_, fun _ => judged⟩
    intro configured
    obtain ⟨other, pack, kept, observed, unchanged⟩ := packed configured
    have again : other = before := Option.some.inj (kept.symm.trans stored)
    subst again
    exact ⟨exact_ configured, pack, observed, unchanged⟩
  · intro failed
    obtain ⟨failure, recorded⟩ := Option.ne_none_iff_exists'.mp failed
    have ended := justified_failed justified failed
    have onward : (create request).run (calls ++ later) =
        ((create request).run calls).run later := List.foldl_append
    rw [onward, failed_run later failure recorded ended.1]
    exact ended.2

/-- One source file, and the same tree after pytest wrote its cache. -/
def sourceRecord : RuntimeEntry := ⟨utf8 "calc.py", .file, 420, 2, [1, 2]⟩

def cacheRecord : RuntimeEntry := ⟨utf8 ".pytest_cache", .dir, 493, 0, []⟩

def identityOf (records : List RuntimeEntry) : RuntimeIdentity :=
  ⟨digestRecords records, records.length, 2, records⟩

def packRequest : Verifiers.RuntimeContinuityRequest := ⟨true, true, false, false, false⟩

def suiteRequest : Verifiers.RuntimeContinuityRequest := ⟨false, false, false, false, true⟩

def steadyCalls : List Call :=
  [.captureBaseline (.observed (identityOf [sourceRecord])),
    .verifyAfterSuite .raised,
    .verifyAfterSuite (.observed (identityOf [sourceRecord])),
    .verifyAfterPack (.observed (identityOf [sourceRecord]))]

def cachingCalls : List Call :=
  [.captureBaseline (.observed (identityOf [sourceRecord])),
    .verifyAfterSuite (.observed (identityOf [cacheRecord, sourceRecord])),
    .finalizeSuiteOnly]

def rewritingCalls : List Call :=
  [.captureBaseline (.observed (identityOf [sourceRecord])),
    .verifyAfterSuite (.observed (identityOf [cacheRecord, { sourceRecord with size := 3 }]))]

theorem steady_tree_delivered :
    (((create packRequest).run steadyCalls).failure = none ∧
      (((create suiteRequest).run cachingCalls).failure = none)) ∧
      isDelivered ((create suiteRequest).run (rewritingCalls ++ cachingCalls)).continuity =
        false := by
  have steady := (delivered_continuity_proven packRequest steadyCalls []).1 (by decide +kernel)
  have caching := (delivered_continuity_proven suiteRequest cachingCalls []).1 (by decide +kernel)
  have rewriting := (delivered_continuity_proven suiteRequest rewritingCalls cachingCalls).2
    (by decide +kernel)
  exact ⟨⟨steady.1, caching.1⟩, rewriting⟩

end RepoRuntimeContinuity

end EvoomGuard.Runtime
