import EvoomGuard.Domain.Verdict
import EvoomGuard.Domain.Verification

/-!
Execution and evidence contracts of `domain/execution.py`, `domain/evidence.py` and
`domain/decision.py`. Clock readings and the pack manifest are not evidence that any
decision reads, and have no field here.
-/

namespace EvoomGuard.Domain

open Lib

/-- A requested isolation mode. -/
inductive Isolation where
  | subprocess
  | docker
  | gvisor
  deriving DecidableEq, Repr

/-- What a phase reports as delivered. `hostOptIn` is the setup-only
`subprocess_host_opt_in`. -/
inductive Boundary where
  | notRun
  | unavailable
  | subprocess
  | docker
  | gvisor
  | hostOptIn
  deriving DecidableEq, Repr

def Isolation.boundary : Isolation → Boundary
  | .subprocess => .subprocess
  | .docker => .docker
  | .gvisor => .gvisor

def Isolation.container (isolation : Isolation) : Bool :=
  isolation == .docker || isolation == .gvisor

inductive ExecutionPhase where
  | preGate
  | preflight
  | setup
  | runtimeVerification
  | repoSuite
  | verifierPack
  | blackboxPack
  deriving DecidableEq, Repr

structure IsolationObservation where
  requested : Isolation
  delivered : Boundary
  imageDigest : Option Text
  network : Option Text
  runtime : Option Text
  note : Option Text
  deriving DecidableEq

structure ExecutionPhaseResult where
  executionState : ExecutionState := .notStarted
  executionPhase : ExecutionPhase := .preflight
  testCommandStarted : Bool := false
  testCommandCompleted : Bool := false
  verifierPackStarted : Bool := false
  verifierPackCompleted : Bool := false
  deliveredIsolation : Boundary := .notRun
  setupIsolationEvidence : Option IsolationObservation := none
  repoSuiteIsolationEvidence : Option IsolationObservation := none
  verifierPackIsolationEvidence : Option IsolationObservation := none
  primaryIsolationEvidence : Option IsolationObservation := none
  deriving DecidableEq

structure VerifierPackEvidence where
  present : Option Bool
  sha256 : Option Text
  testsPassed : Option Nat
  testsTotal : Option Nat
  junitSha256 : Option Text
  junitDigestFormat : Option DigestFormat

inductive RepoSuiteState where
  | repoPhaseCompleted
  | composedCompleted
  | requiredStartedIncomplete
  | requiredNotStarted
  | requiredNotRunShortCircuit
  | notRequiredBlackboxOnly
  deriving DecidableEq, Repr

structure RepositorySuiteEvidence where
  started : Option Bool := none
  completed : Option Bool := none
  state : Option RepoSuiteState := none
  passed : Option Bool := none
  testsPassed : Option Nat := none
  testsTotal : Option Nat := none
  verdictSource : Option VerdictSource := none
  returncode : Option Int := none
  junitSha256 : Option Text := none
  junitDigestFormat : Option DigestFormat := none

/-- The continuity words a run reports about its prepared tree. -/
inductive Continuity where
  | notApplicable
  | unavailable
  | incomplete
  | verificationFailed
  | readOnlyEnforced
  | snapshotBoundaryChecked
  deriving DecidableEq, Repr

structure RuntimeIdentityEvidence where
  treeSha256 : Option Text := none
  treeEntries : Option Nat := none
  treeBytes : Option Nat := none
  continuity : Option Continuity := none

structure VerificationEvidence where
  execution : ExecutionPhaseResult
  outcome : Option Outcome
  tamper : Option Bool
  testsPassed : Option Nat
  testsTotal : Option Nat
  verdictSource : Option VerdictSource
  junitSha256 : Option Text
  junitDigestFormat : Option DigestFormat
  setupIsolation : Option Boundary
  verifierPack : VerifierPackEvidence
  repoSuite : RepositorySuiteEvidence
  runtime : RuntimeIdentityEvidence

structure GuardDecision where
  verdict : Verdict
  reasonCode : ReasonCode
  reason : Text
  deriving DecidableEq

def GuardDecision.passed (decision : GuardDecision) : Bool := decision.verdict == .pass

end EvoomGuard.Domain
