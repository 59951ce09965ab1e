import EvoomGuard.Domain.Evidence

/-!
The delivered-assurance profile, `domain/assurance.py`. The words of its fields are
enumerations; `name` gives the spelling where a text quotes one.
-/

namespace EvoomGuard.Domain

open Lib

def Boundary.name : Boundary → String
  | .notRun => "not_run"
  | .unavailable => "unavailable"
  | .subprocess => "subprocess"
  | .docker => "docker"
  | .gvisor => "gvisor"
  | .hostOptIn => "subprocess_host_opt_in"

def ExecutionPhase.name : ExecutionPhase → String
  | .preGate => "pre_gate"
  | .preflight => "preflight"
  | .setup => "setup"
  | .runtimeVerification => "runtime_verification"
  | .repoSuite => "repo_suite"
  | .verifierPack => "verifier_pack"
  | .blackboxPack => "blackbox_pack"

def RepoSuiteState.name : RepoSuiteState → String
  | .repoPhaseCompleted => "repo_phase_completed"
  | .composedCompleted => "composed_completed"
  | .requiredStartedIncomplete => "required_started_incomplete"
  | .requiredNotStarted => "required_not_started"
  | .requiredNotRunShortCircuit => "required_not_run_short_circuit"
  | .notRequiredBlackboxOnly => "not_required_blackbox_only"

inductive ReportIntegrity where
  | sameProcessCandidateWritable
  | externalProcessIsolated
  | notApplicableStaticGate
  | notApplicableNotRun
  deriving DecidableEq, Repr

def ReportIntegrity.name : ReportIntegrity → String
  | .sameProcessCandidateWritable => "same_process_candidate_writable"
  | .externalProcessIsolated => "external_process_isolated"
  | .notApplicableStaticGate => "not_applicable_static_gate"
  | .notApplicableNotRun => "not_applicable_not_run"

inductive PackIntegrity where
  | notEvaluatedStaticGate
  | notEvaluatedMissing
  | invalid
  | snapshotIdentityMismatch
  | snapshotChanged
  | verifiedSnapshotReadOnly
  | verifiedSnapshotPrePost
  | verifiedSnapshotPreExecution
  | notEvaluated
  deriving DecidableEq, Repr

inductive PackSecrecy where
  | notEvaluatedStaticGate
  | notEvaluatedNoExecution
  | notEvaluatedNoCandidateExecution
  | unmountedFromCandidate
  | reachableSameHost
  | readableInJudgeProcess
  deriving DecidableEq, Repr

inductive OverallProfile where
  | staticGate
  | preflight
  | executionIncompleteBeforeTests
  | executionIncomplete
  | compositeBlackboxRepoNative
  | blackboxCompositeShortCircuit
  | blackBoxExternalJudge
  | mixedHostSetupRepoNative
  | isolatedRepoNative
  | repoNativeSameProcess
  deriving DecidableEq, Repr

structure VerifierPackAssurance where
  configured : Bool
  present : Option Bool
  integrity : PackIntegrity
  identityVerified : Option Bool
  executionState : ExecutionState
  secrecy : PackSecrecy
  snapshotSha256 : Option Text

structure AssuranceProfile where
  executionState : ExecutionState
  executionPhase : ExecutionPhase
  reportIntegrity : ReportIntegrity
  candidateIsolation : Boundary
  suiteIsolation : Boundary
  setupIsolation : Option Boundary
  runtimeContinuity : Continuity
  verifierPack : Option VerifierPackAssurance
  repoNativeSuite : Option RepoSuiteState := none
  overallProfile : OverallProfile
  note : Text

end EvoomGuard.Domain
