import EvoomGuard.Application.Assurance
import EvoomGuard.Lib.Json

/-!
The payload of an assurance profile, and `_check_assurance_semantics` of `record_verifier.py`: what
the verifier of a record expects of the profile in each lifecycle.
-/

namespace EvoomGuard.RecordVerifier

open Lib Domain Application

abbrev Fields := List (Text × Json)

def stateName : ExecutionState → String
  | .staticGate => "static_gate"
  | .notStarted => "not_started"
  | .startedIncomplete => "started_incomplete"
  | .completed => "completed"

def continuityName : Continuity → String
  | .notApplicable => "not_applicable"
  | .unavailable => "unavailable"
  | .incomplete => "incomplete"
  | .verificationFailed => "verification_failed"
  | .readOnlyEnforced => "read_only_enforced"
  | .snapshotBoundaryChecked => "snapshot_boundary_checked"

def overallName : OverallProfile → String
  | .staticGate => "static_gate"
  | .preflight => "preflight"
  | .executionIncompleteBeforeTests => "execution_incomplete_before_tests"
  | .executionIncomplete => "execution_incomplete"
  | .compositeBlackboxRepoNative => "composite_blackbox_repo_native"
  | .blackboxCompositeShortCircuit => "blackbox_composite_short_circuit"
  | .blackBoxExternalJudge => "black_box_external_judge"
  | .mixedHostSetupRepoNative => "mixed_host_setup_repo_native"
  | .isolatedRepoNative => "isolated_repo_native"
  | .repoNativeSameProcess => "repo_native_same_process"

def integrityName : PackIntegrity → String
  | .notEvaluatedStaticGate => "not_evaluated_static_gate"
  | .notEvaluatedMissing => "not_evaluated_missing"
  | .invalid => "invalid"
  | .snapshotIdentityMismatch => "snapshot_identity_mismatch"
  | .snapshotChanged => "snapshot_changed"
  | .verifiedSnapshotReadOnly => "verified_snapshot_read_only"
  | .verifiedSnapshotPrePost => "verified_snapshot_pre_post"
  | .verifiedSnapshotPreExecution => "verified_snapshot_pre_execution"
  | .notEvaluated => "not_evaluated"

def secrecyName : PackSecrecy → String
  | .notEvaluatedStaticGate => "not_evaluated_static_gate"
  | .notEvaluatedNoExecution => "not_evaluated_no_execution"
  | .notEvaluatedNoCandidateExecution => "not_evaluated_no_candidate_execution"
  | .unmountedFromCandidate => "unmounted_from_candidate"
  | .reachableSameHost => "reachable_same_host"
  | .readableInJudgeProcess => "readable_in_judge_process"

def word (name : String) : Json := .string name.toList

def orNull {Value : Type} (json : Value → Json) : Option Value → Json
  | none => .null
  | some value => json value

/-- `VerifierPackAssurance.to_payload`. -/
def packPayload (pack : VerifierPackAssurance) : Json :=
  .object [("configured".toList, .bool pack.configured),
    ("present".toList, orNull .bool pack.present),
    ("integrity".toList, word (integrityName pack.integrity)),
    ("identity_verified".toList, orNull .bool pack.identityVerified),
    ("execution_state".toList, word (stateName pack.executionState)),
    ("secrecy".toList, word (secrecyName pack.secrecy)),
    ("snapshot_sha256".toList, orNull .string pack.snapshotSha256)]

/-- `AssuranceProfile.to_payload`. -/
def profilePayload (profile : AssuranceProfile) : Fields :=
  [("execution_state".toList, word (stateName profile.executionState)),
    ("execution_phase".toList, word profile.executionPhase.name),
    ("harness_integrity".toList, word "pre_gate_enforced"),
    ("report_integrity".toList, word profile.reportIntegrity.name),
    ("candidate_isolation".toList, word profile.candidateIsolation.name),
    ("suite_isolation".toList, word profile.suiteIsolation.name),
    ("setup_isolation".toList, orNull (word ∘ Boundary.name) profile.setupIsolation),
    ("runtime_continuity".toList, word (continuityName profile.runtimeContinuity)),
    ("verifier_pack".toList, orNull packPayload profile.verifierPack)] ++
  (profile.repoNativeSuite.map fun state =>
    ("repo_native_suite".toList, word state.name)).toList ++
  [("overall_profile".toList, word (overallName profile.overallProfile)),
    ("note".toList, .string profile.note)]

inductive CheckStatus where
  | pass
  | fail
  | skip
  deriving DecidableEq, Repr

structure Check where
  id : Text
  status : CheckStatus
  message : Text
  deriving DecidableEq

def lifecycleProfile : Text := "assurance.lifecycle_profile".toList

def skipLifecycle (message : String) : Check := ⟨lifecycleProfile, .skip, message.toList⟩

def expectLifecycle (condition : Bool) : Check :=
  if condition then
    ⟨lifecycleProfile, .pass,
      "assurance profile and report channel agree with lifecycle and mode".toList⟩
  else
    ⟨lifecycleProfile, .fail,
      "assurance profile, harness, or report-integrity claims contradict lifecycle/mode".toList⟩

/-- `fields.get(key) == value`. -/
def spells (fields : Fields) (key value : String) : Bool :=
  (Json.field? fields key.toList).bind Json.asString? == some value.toList

def spellsOneOf (fields : Fields) (key : String) (values : List String) : Bool :=
  values.any (spells fields key)

/-- `fields.get(key) is flag`. -/
def flagged (fields : Fields) (key : String) (flag : Bool) : Bool :=
  match Json.field? fields key.toList with
  | some (.bool value) => value == flag
  | _ => false

section Expected

variable (assurance policy : Fields)

def staticExpected : Bool :=
  spells assurance "overall_profile" "static_gate" &&
    spells assurance "report_integrity" "not_applicable_static_gate" &&
    spells assurance "candidate_isolation" "not_run" &&
    spells assurance "suite_isolation" "not_run" &&
    spells assurance "runtime_continuity" "not_applicable"

/-- A run without tests, before or after something else of it ran. -/
def untestedExpected (profile : String) : Bool :=
  spells assurance "overall_profile" profile &&
    spells assurance "report_integrity" "not_applicable_not_run" &&
    spells assurance "candidate_isolation" "not_run" && spells assurance "suite_isolation" "not_run"

def incompleteExpected : Bool :=
  spells assurance "overall_profile" "execution_incomplete" &&
    (if spells policy "mode" "repo" then
      spells assurance "report_integrity" "same_process_candidate_writable"
    else spells assurance "report_integrity"
      (if spellsOneOf assurance "repo_native_suite"
          ["required_started_incomplete", "composed_completed"] then
        "same_process_candidate_writable"
      else "external_process_isolated"))

def repoExpected : Bool :=
  spells assurance "report_integrity" "same_process_candidate_writable" &&
    spells assurance "overall_profile"
      (if spells assurance "setup_isolation" "subprocess_host_opt_in" then
        "mixed_host_setup_repo_native"
      else if spellsOneOf assurance "suite_isolation" ["docker", "gvisor"] then
        "isolated_repo_native"
      else "repo_native_same_process")

def blackboxExpected : Bool :=
  if flagged policy "blackbox_only" true then
    spells assurance "repo_native_suite" "not_required_blackbox_only" &&
      spells assurance "report_integrity" "external_process_isolated" &&
      spells assurance "overall_profile" "black_box_external_judge"
  else if flagged policy "blackbox_only" false &&
      spells assurance "repo_native_suite" "composed_completed" then
    spells assurance "report_integrity" "same_process_candidate_writable" &&
      spells assurance "overall_profile" "composite_blackbox_repo_native"
  else
    spellsOneOf assurance "repo_native_suite" ["required_not_run_short_circuit",
        "required_not_started", "required_started_incomplete"] &&
      spells assurance "report_integrity" "external_process_isolated" &&
      spells assurance "overall_profile" "blackbox_composite_short_circuit"

end Expected

def checkAssuranceSemantics (record : Fields) (assurance policy : Option Fields) : Check :=
  match assurance with
  | none => skipLifecycle "assurance is unavailable"
  | some assurance =>
    let enforced := spells assurance "harness_integrity" "pre_gate_enforced"
    let state := spells record "execution_state"
    let ran := flagged record "test_command_ran"
    if state "static_gate" then expectLifecycle (enforced && staticExpected assurance)
    else if state "not_started" then
      expectLifecycle (enforced && untestedExpected assurance "preflight")
    else if state "started_incomplete" && ran false then
      expectLifecycle (enforced &&
        untestedExpected assurance "execution_incomplete_before_tests")
    else if (state "started_incomplete" || state "completed") && ran true then
      match policy.filter fun policy => spellsOneOf policy "mode" ["repo", "blackbox"] with
      | none => skipLifecycle "effective policy mode is unavailable"
      | some policy =>
        if state "started_incomplete" then
          expectLifecycle (enforced && incompleteExpected assurance policy)
        else if spells policy "mode" "repo" then
          expectLifecycle (enforced && repoExpected assurance)
        else expectLifecycle (enforced && blackboxExpected assurance policy)
    else expectLifecycle false

/-- A record of repo mode, with the lifecycle that the check reads. -/
structure Emitted (record policy : Fields) (state : ExecutionState) (ran : Bool) : Prop where
  state : Json.field? record "execution_state".toList = some (word (stateName state))
  ran : Json.field? record "test_command_ran".toList = some (.bool ran)
  mode : Json.field? policy "mode".toList = some (word "repo")

theorem spells_of_field {fields : Fields} {key value : String}
    (listed : Json.field? fields key.toList = some (word value)) (other : String) :
    spells fields key other = (value == other) := by
  rw [spells, listed, word, Option.bind_some, Json.asString?, Bool.eq_iff_iff, beq_iff_eq,
    beq_iff_eq, Option.some.injEq, String.toList_inj]

theorem flagged_of_field {fields : Fields} {key : String} {value : Bool}
    (listed : Json.field? fields key.toList = some (.bool value)) (flag : Bool) :
    flagged fields key flag = (value == flag) := by
  rw [flagged, listed]

section Payload

variable (profile : AssuranceProfile)

theorem payload_harness :
    Json.field? (profilePayload profile) "harness_integrity".toList =
      some (word "pre_gate_enforced") := rfl

theorem payload_report :
    Json.field? (profilePayload profile) "report_integrity".toList =
      some (word profile.reportIntegrity.name) := rfl

theorem payload_candidate :
    Json.field? (profilePayload profile) "candidate_isolation".toList =
      some (word profile.candidateIsolation.name) := rfl

theorem payload_suite :
    Json.field? (profilePayload profile) "suite_isolation".toList =
      some (word profile.suiteIsolation.name) := rfl

theorem payload_continuity :
    Json.field? (profilePayload profile) "runtime_continuity".toList =
      some (word (continuityName profile.runtimeContinuity)) := rfl

theorem payload_overall :
    Json.field? (profilePayload profile) "overall_profile".toList =
      some (word (overallName profile.overallProfile)) := by
  unfold profilePayload
  cases profile.repoNativeSuite with
  | none => rfl
  | some state => rfl

theorem payload_setup (other : String) :
    spells (profilePayload profile) "setup_isolation" other =
      profile.setupIsolation.any fun boundary => boundary.name == other := by
  have listed : Json.field? (profilePayload profile) "setup_isolation".toList =
      some (orNull (word ∘ Boundary.name) profile.setupIsolation) := rfl
  cases reported : profile.setupIsolation with
  | none =>
    rw [reported] at listed
    rw [spells, listed]
    rfl
  | some boundary =>
    rw [reported] at listed
    rw [spells_of_field listed, Option.any_some]

end Payload

theorem static_profile_accepted (packConfigured : Bool) (record policy : Fields)
    (emitted : Emitted record policy .staticGate false) :
    (checkAssuranceSemantics record (some (profilePayload (staticAssuranceProfile packConfigured)))
      (some policy)).status = .pass := by
  have state := spells_of_field emitted.state
  simp only [checkAssuranceSemantics, state, stateName, staticExpected,
    spells_of_field (payload_harness _), spells_of_field (payload_report _),
    spells_of_field (payload_candidate _), spells_of_field (payload_suite _),
    spells_of_field (payload_continuity _), spells_of_field (payload_overall _)]
  rfl

theorem preflight_profile_accepted (lifecycle : ProfileLifecycle) (pack : Option PackRunEvidence)
    (record policy : Fields) (ran : Bool)
    (emitted : Emitted record policy lifecycle.executionState ran)
    (early : lifecycle.executionState = .notStarted ∨
      lifecycle.executionState = .startedIncomplete ∧ ran = false) :
    (checkAssuranceSemantics record
      (some (profilePayload (preflightAssuranceProfile lifecycle pack)))
      (some policy)).status = .pass := by
  have state := spells_of_field emitted.state
  have tested := flagged_of_field emitted.ran
  rcases early with unstarted | ⟨incomplete, untested⟩
  · simp only [checkAssuranceSemantics, state, unstarted, stateName, untestedExpected,
      spells_of_field (payload_harness _), spells_of_field (payload_report _),
      spells_of_field (payload_candidate _), spells_of_field (payload_suite _),
      spells_of_field (payload_overall _), preflightAssuranceProfile]
    rfl
  · subst untested
    simp only [checkAssuranceSemantics, state, tested, incomplete, stateName, untestedExpected,
      spells_of_field (payload_harness _), spells_of_field (payload_report _),
      spells_of_field (payload_candidate _), spells_of_field (payload_suite _),
      spells_of_field (payload_overall _), preflightAssuranceProfile]
    rfl

/-- The overall profile of a completed repository run, from its suite and its setup. -/
def completedProfile (suite : Boundary) (setup : Option Boundary) : OverallProfile :=
  if setup = some .hostOptIn then .mixedHostSetupRepoNative
  else if suite = .docker ∨ suite = .gvisor then .isolatedRepoNative
  else .repoNativeSameProcess

theorem completed_profile_expected (profile : AssuranceProfile)
    (writable : profile.reportIntegrity = .sameProcessCandidateWritable)
    (overall : profile.overallProfile =
      completedProfile profile.suiteIsolation profile.setupIsolation) :
    repoExpected (profilePayload profile) = true := by
  have suite := spells_of_field (payload_suite profile)
  have setup := payload_setup profile "subprocess_host_opt_in"
  rw [repoExpected, spells_of_field (payload_report profile),
    spells_of_field (payload_overall profile), writable, overall, setup]
  simp only [spellsOneOf, List.any_cons, List.any_nil, suite]
  cases profile.setupIsolation with
  | none => cases profile.suiteIsolation <;> rfl
  | some boundary => cases boundary <;> cases profile.suiteIsolation <;> rfl

theorem repo_profile_accepted (isolation : Boundary) (lifecycle : ProfileLifecycle)
    (pack : Option PackRunEvidence) (record policy : Fields)
    (emitted : Emitted record policy lifecycle.executionState lifecycle.testCommandStarted)
    (live : lifecycle.executionState ≠ .staticGate)
    (finished : lifecycle.executionState = .completed → lifecycle.testCommandStarted = true) :
    (checkAssuranceSemantics record
      (some (profilePayload (repoAssuranceProfile isolation lifecycle pack)))
      (some policy)).status = .pass := by
  unfold repoAssuranceProfile
  by_cases early : lifecycle.executionState = .notStarted ∨ lifecycle.testCommandStarted = false
  · rw [if_pos early]
    apply preflight_profile_accepted lifecycle pack record policy _ emitted
    cases reached : lifecycle.executionState with
    | staticGate => exact absurd reached live
    | notStarted => exact Or.inl rfl
    | startedIncomplete =>
      rcases early with unstarted | untested
      · rw [reached] at unstarted
        cases unstarted
      · exact Or.inr ⟨rfl, untested⟩
    | completed =>
      rcases early with unstarted | untested
      · rw [reached] at unstarted
        cases unstarted
      · rw [finished reached] at untested
        cases untested
  · rw [if_neg early]
    rw [not_or, Bool.not_eq_false] at early
    have state := spells_of_field emitted.state
    have tested := flagged_of_field emitted.ran
    have mode := spells_of_field emitted.mode
    have known : (some policy).filter (fun policy =>
        spellsOneOf policy "mode" ["repo", "blackbox"]) = some policy := by
      rw [Option.filter_some, spellsOneOf, List.any_cons, mode]
      rfl
    cases reached : lifecycle.executionState with
    | staticGate => exact absurd reached live
    | notStarted => exact absurd reached early.1
    | startedIncomplete =>
      simp only [checkAssuranceSemantics, state, tested, reached, early.2, stateName, known, mode,
        incompleteExpected, spells_of_field (payload_harness _),
        spells_of_field (payload_report _), spells_of_field (payload_overall _)]
      rfl
    | completed =>
      have expected := completed_profile_expected
        { executionState := .completed
          executionPhase := lifecycle.executionPhase
          reportIntegrity := .sameProcessCandidateWritable
          candidateIsolation := effectiveIsolation lifecycle.setupIsolation isolation
          suiteIsolation := isolation
          setupIsolation := lifecycle.setupIsolation
          runtimeContinuity := lifecycle.runtimeContinuity.getD .notApplicable
          verifierPack := pack.map (packAssurance isolation false)
          overallProfile := completedProfile isolation lifecycle.setupIsolation
          note := repoNote .completed } rfl rfl
      simp only [checkAssuranceSemantics, state, tested, reached, early.2, stateName, known, mode,
        spells_of_field (payload_harness _), ne_eq, not_true, if_false]
      simp only [completedProfile] at expected
      rw [expected]
      rfl

end EvoomGuard.RecordVerifier
