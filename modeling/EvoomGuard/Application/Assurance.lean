import EvoomGuard.Domain.Assurance

/-!
Assurance profiles and the floor check of `application/assurance.py`. A floor is compared
with what the run delivered, never with what was requested.
-/

namespace EvoomGuard.Application

open Lib Domain

def reportIntegrityRankPolicy (name : Text) : Option Nat :=
  if name = "same_process_candidate_writable" then some 0
  else if name = "external_process_isolated" then some 1
  else none

def isolationRankPolicy (name : Text) : Option Nat :=
  if name = "subprocess" then some 0
  else if name = "docker" then some 1
  else if name = "gvisor" then some 2
  else none

def rankBelow (rank : Text → Option Nat) (delivered : Text) (wanted : Nat) : Bool :=
  match rank delivered with
  | none => true
  | some got => decide (got < wanted)

def deliveredIntegrity (assurance : AssuranceProfile) : Text :=
  assurance.reportIntegrity.name.toList

def deliveredBoundary (assurance : AssuranceProfile) : Text :=
  assurance.candidateIsolation.name.toList

/-- One floor check: `unknown` and `low` are the two messages about the floor. -/
def floorShortfall (rank : Text → Option Nat) (unknown low : Text → Text)
    (delivered floor : Text) : Option Text :=
  match rank floor with
  | none => some (unknown floor)
  | some wanted => if rankBelow rank delivered wanted then some (low floor) else none

section Shortfall

-- The quoted spelling of a text, Python's repr.
variable (quoted : Text → Text)

def reportIntegrityShortfall (assurance : AssuranceProfile) (floor : Text) : Option Text :=
  floorShortfall reportIntegrityRankPolicy
    (fun floor => "unknown --require-report-integrity value: " ++ quoted floor)
    (fun floor => "required report_integrity ≥ '" ++ floor ++
      "' but the run delivered '" ++ deliveredIntegrity assurance ++
      "' (use --blackbox for external_process_isolated)")
    (deliveredIntegrity assurance) floor

def candidateIsolationShortfall (assurance : AssuranceProfile) (floor : Text) : Option Text :=
  floorShortfall isolationRankPolicy
    (fun floor => "unknown --require-candidate-isolation value: " ++ quoted floor)
    (fun floor => "required candidate_isolation ≥ '" ++ floor ++
      "' but the run used '" ++ deliveredBoundary assurance ++ "'")
    (deliveredBoundary assurance) floor

-- An absent or empty floor requires nothing.
def floorOf (requirement : Option Text) : Option Text :=
  requirement.filter fun floor => !floor.isEmpty

def assuranceShortfall (assurance : AssuranceProfile)
    (requireReportIntegrity requireCandidateIsolation : Option Text) : Option Text :=
  ((floorOf requireReportIntegrity).bind (reportIntegrityShortfall quoted assurance)).or
    ((floorOf requireCandidateIsolation).bind (candidateIsolationShortfall quoted assurance))

end Shortfall

/-- A floor is met when it is absent or its rank is known and not above the delivered rank. -/
def meetsFloor (rank : Text → Option Nat) (delivered : Text) (requirement : Option Text) : Prop :=
  ∀ floor, floorOf requirement = some floor →
    ∃ wanted got, rank floor = some wanted ∧ rank delivered = some got ∧ wanted ≤ got

def MeetsFloors (assurance : AssuranceProfile)
    (requireReportIntegrity requireCandidateIsolation : Option Text) : Prop :=
  meetsFloor reportIntegrityRankPolicy (deliveredIntegrity assurance) requireReportIntegrity ∧
    meetsFloor isolationRankPolicy (deliveredBoundary assurance) requireCandidateIsolation

theorem rank_below_false_iff (rank : Text → Option Nat) (delivered : Text) (wanted : Nat) :
    rankBelow rank delivered wanted = false ↔ ∃ got, rank delivered = some got ∧ wanted ≤ got := by
  unfold rankBelow
  cases ranked : rank delivered with
  | none => simp
  | some got => simp

theorem floor_shortfall_none_iff (rank : Text → Option Nat) (unknown low : Text → Text)
    (delivered : Text) (requirement : Option Text) :
    (floorOf requirement).bind (floorShortfall rank unknown low delivered) = none ↔
      meetsFloor rank delivered requirement := by
  unfold meetsFloor
  cases floorOf requirement with
  | none => simp
  | some floor =>
    simp only [Option.bind_some, Option.some.injEq, forall_eq', floorShortfall]
    cases rank floor with
    | none => simp
    | some wanted =>
      have met := rank_below_false_iff rank delivered wanted
      cases below : rankBelow rank delivered wanted <;> simp_all

theorem assurance_shortfall_none_iff (quoted : Text → Text) (assurance : AssuranceProfile)
    (requireReportIntegrity requireCandidateIsolation : Option Text) :
    assuranceShortfall quoted assurance requireReportIntegrity requireCandidateIsolation = none ↔
      MeetsFloors assurance requireReportIntegrity requireCandidateIsolation := by
  unfold assuranceShortfall MeetsFloors
  rw [Option.or_eq_none_iff]
  apply and_congr
  · exact floor_shortfall_none_iff reportIntegrityRankPolicy _ _ _ _
  · exact floor_shortfall_none_iff isolationRankPolicy _ _ _ _

/-- What the runner observed of the configured pack. -/
structure PackRunEvidence where
  present : Option Bool
  snapshotSha256 : Option Text
  started : Bool
  completed : Bool
  outcome : Option Outcome
  candidateLauncherInvocationObserved : Option Bool := none

def packIntegrity (isolation : Boundary) (blackbox : Bool) (evidence : PackRunEvidence) :
    PackIntegrity × Option Bool :=
  let accepted := evidence.snapshotSha256.any fun digest => !digest.isEmpty
  if evidence.present = some false then (.notEvaluatedMissing, none)
  else if evidence.outcome = some .packInvalid then (.invalid, none)
  else if evidence.outcome = some .packIdentityMismatch then
    (.snapshotIdentityMismatch, some false)
  else if evidence.outcome = some .packSnapshotChanged then (.snapshotChanged, some false)
  else if accepted && evidence.completed then
    (if !blackbox && (isolation == .docker || isolation == .gvisor) then .verifiedSnapshotReadOnly
      else .verifiedSnapshotPrePost, some true)
  else if accepted then (.verifiedSnapshotPreExecution, some true)
  else (.notEvaluated, none)

def packSecrecy (isolation : Boundary) (blackbox : Bool) (evidence : PackRunEvidence) :
    PackSecrecy :=
  if !evidence.started then .notEvaluatedNoExecution
  else if blackbox && evidence.candidateLauncherInvocationObserved == some false then
    .notEvaluatedNoCandidateExecution
  else if blackbox && (isolation == .docker || isolation == .gvisor) then .unmountedFromCandidate
  else if blackbox then .reachableSameHost
  else .readableInJudgeProcess

def packAssurance (isolation : Boundary) (blackbox : Bool) (evidence : PackRunEvidence) :
    VerifierPackAssurance where
  configured := true
  present := evidence.present
  integrity := (packIntegrity isolation blackbox evidence).1
  identityVerified := (packIntegrity isolation blackbox evidence).2
  executionState := if evidence.completed then .completed
    else if evidence.started then .startedIncomplete else .notStarted
  secrecy := packSecrecy isolation blackbox evidence
  snapshotSha256 := evidence.snapshotSha256

def staticNote : Text :=
  ("the diff pre-gate decided this result before candidate execution; " ++
    "no test command, runtime boundary, report channel, setup, or verifier " ++
    "pack was exercised. Requested runtime policy is recorded only in " ++
    "attestation.effective_policy.").toList

def staticAssuranceProfile (packConfigured : Bool) : AssuranceProfile where
  executionState := .staticGate
  executionPhase := .preGate
  reportIntegrity := .notApplicableStaticGate
  candidateIsolation := .notRun
  suiteIsolation := .notRun
  setupIsolation := none
  runtimeContinuity := .notApplicable
  verifierPack := if packConfigured then
      some ⟨true, none, .notEvaluatedStaticGate, none, .staticGate, .notEvaluatedStaticGate, none⟩
    else none
  overallProfile := .staticGate
  note := staticNote

def preflightNote (executionPhase : ExecutionPhase) : Text :=
  "runtime verification did not start a test command (furthest phase: " ++
    executionPhase.name.toList ++
    ("); no candidate isolation or report-integrity boundary is claimed. " ++
      "Requested policy remains in attestation.effective_policy.").toList

structure ProfileLifecycle where
  executionState : ExecutionState
  executionPhase : ExecutionPhase
  testCommandStarted : Bool
  setupIsolation : Option Boundary
  runtimeContinuity : Option Continuity

def preflightAssuranceProfile (lifecycle : ProfileLifecycle) (pack : Option PackRunEvidence) :
    AssuranceProfile where
  executionState := lifecycle.executionState
  executionPhase := lifecycle.executionPhase
  reportIntegrity := .notApplicableNotRun
  candidateIsolation := .notRun
  suiteIsolation := .notRun
  setupIsolation := lifecycle.setupIsolation
  runtimeContinuity := lifecycle.runtimeContinuity.getD .notApplicable
  verifierPack := pack.map (packAssurance .notRun false)
  overallProfile := if lifecycle.executionState = .startedIncomplete then
      .executionIncompleteBeforeTests
    else .preflight
  note := preflightNote lifecycle.executionPhase

def incompleteNote (state : ExecutionState) : Text :=
  if state = .completed then []
  else "Execution did not complete, so no clean verdict source is claimed. "

def repoNote (state : ExecutionState) : Text :=
  ("report_integrity is same_process_candidate_writable: a determined " ++
    "in-process patch can forge the JUnit report and exit code together. " ++
    "Guard blocks candidate edits/deletions to the modelled protected " ++
    "path set and detects persistent declared-input drift at execution " ++
    "checkpoints; it does not discover every transitive harness dependency " ++
    "or stop deliberate process-level forgery in source. The container " ++
    "modes isolate the host, not the report. Use " ++
    "--blackbox for external_process_isolated. ").toList ++ incompleteNote state ++
    "See docs/ASSURANCE.md."

/-- Host setup downgrades the candidate boundary of the whole run. -/
def effectiveIsolation (setupIsolation : Option Boundary) (isolation : Boundary) : Boundary :=
  if setupIsolation = some .hostOptIn then .subprocess else isolation

def repoAssuranceProfile (isolation : Boundary) (lifecycle : ProfileLifecycle)
    (pack : Option PackRunEvidence) : AssuranceProfile :=
  if lifecycle.executionState = .notStarted ∨ lifecycle.testCommandStarted = false then
    preflightAssuranceProfile lifecycle pack
  else
    { executionState := lifecycle.executionState
      executionPhase := lifecycle.executionPhase
      reportIntegrity := .sameProcessCandidateWritable
      candidateIsolation := effectiveIsolation lifecycle.setupIsolation isolation
      suiteIsolation := isolation
      setupIsolation := lifecycle.setupIsolation
      runtimeContinuity := lifecycle.runtimeContinuity.getD .notApplicable
      verifierPack := pack.map (packAssurance isolation false)
      overallProfile :=
        if lifecycle.executionState ≠ .completed then .executionIncomplete
        else if lifecycle.setupIsolation = some .hostOptIn then .mixedHostSetupRepoNative
        else if isolation = .docker ∨ isolation = .gvisor then .isolatedRepoNative
        else .repoNativeSameProcess
      note := repoNote lifecycle.executionState }

def blackboxNote (composed required : Bool) (suiteState : RepoSuiteState)
    (candidate isolation : Boundary) (state : ExecutionState) : Text :=
  ("The black-box phase has external_process_isolated report integrity: " ++
    "its judge-owned pytest does not import the candidate, so candidate " ++
    "report/exit forgery cannot reach that phase. ").toList ++
  (if composed then
    ("The required repo-native phase has " ++
      "same_process_candidate_writable report integrity, so the " ++
      "composite reports that weaker level; use --blackbox-only when " ++
      "an external_process_isolated floor is required. ").toList
  else if required then
    ("The repo-native phase remained required by policy but " ++
      "did not become an executed report channel; the required " ++
      "pipeline stopped in state '").toList ++ suiteState.name.toList ++ "'. "
  else "The black-box phase is the only required report channel. ") ++
  ("candidate_isolation is what was OBSERVED during a launcher invocation ('").toList ++
  candidate.name.toList ++ "'); preparing '" ++ isolation.name.toList ++
  ("' alone is not evidence. Container modes omit the " ++
    "pack mount and use a read-only candidate mount; those scoped " ++
    "controls are not proof against container escape. ").toList ++ incompleteNote state ++
  "See docs/BLACKBOX.md."

/-- A composite verdict is only as strong as its weakest required report channel. -/
def blackboxAssuranceProfile (isolation : Boundary) (composed required : Bool)
    (suiteState : RepoSuiteState) (lifecycle : ProfileLifecycle) (pack : PackRunEvidence) :
    AssuranceProfile :=
  if lifecycle.executionState = .notStarted ∨ lifecycle.testCommandStarted = false then
    preflightAssuranceProfile lifecycle (some pack)
  else
    { executionState := lifecycle.executionState
      executionPhase := lifecycle.executionPhase
      reportIntegrity := if composed then .sameProcessCandidateWritable
        else .externalProcessIsolated
      candidateIsolation := isolation
      suiteIsolation := isolation
      setupIsolation := lifecycle.setupIsolation
      runtimeContinuity := lifecycle.runtimeContinuity.getD .notApplicable
      verifierPack := some (packAssurance isolation true pack)
      repoNativeSuite := some suiteState
      overallProfile :=
        if lifecycle.executionState ≠ .completed then .executionIncomplete
        else if composed then .compositeBlackboxRepoNative
        else if required then .blackboxCompositeShortCircuit
        else .blackBoxExternalJudge
      note := blackboxNote composed required suiteState isolation isolation
        lifecycle.executionState }

end EvoomGuard.Application
