import EvoomGuard.Lib.Text

/-!
The verdict vocabulary of `domain/verdict.py`, the two published reason contracts, and
the result object of `contracts.py`. A result's score is the decimal its producer wrote,
as an exact rational.
-/

namespace EvoomGuard.Domain

open Lib

inductive ExecutionState where
  | staticGate
  | notStarted
  | startedIncomplete
  | completed
  deriving DecidableEq, Repr

inductive Verdict where
  | pass
  | rejected
  | fail
  | error
  | tampered
  deriving DecidableEq, Repr

inductive ReasonCode where
  | testsPassed
  | protectedHarnessEdit
  | testsFailed
  | noParseableEdits
  | unsafePath
  | patchApplyFailed
  | noTestVerdict
  | junitExitMismatch
  | emptyDiff
  | binaryPatch
  | reverseApplyFailed
  | noVerifiableChanges
  | diffCoverageBelowThreshold
  | testTimeout
  | setupTimeout
  | setupFailed
  | assuranceRequirementNotMet
  | fixNotDemonstrated
  | policyRequirementUnsupported
  | verifierPackIdentityMismatch
  | verifierPackInvalid
  | verifierPackRequired
  | verifierPackNotFound
  | verifierPackSnapshotChanged
  | candidateNotExercised
  | candidateTreeChanged
  | testCommandUnavailable
  | runtimeCleanupFailed
  | assertionLivenessFailed
  deriving DecidableEq, Repr

open ExecutionState Verdict

/-- The permitted verdicts and execution states of each reason, schema 1.11. -/
def reasonContract : ReasonCode → List Verdict × List ExecutionState
  | .testsPassed => ([pass], [completed])
  | .protectedHarnessEdit => ([rejected], [staticGate])
  | .testsFailed => ([fail], [completed])
  | .noParseableEdits => ([error], [staticGate])
  | .unsafePath => ([error], [staticGate, notStarted])
  | .patchApplyFailed => ([error], [notStarted])
  | .noTestVerdict => ([error, fail], [completed])
  | .junitExitMismatch => ([tampered], [completed])
  | .emptyDiff => ([error], [notStarted])
  | .binaryPatch => ([error], [notStarted])
  | .reverseApplyFailed => ([error], [notStarted])
  | .noVerifiableChanges => ([error], [notStarted])
  | .diffCoverageBelowThreshold => ([fail], [completed])
  | .testTimeout => ([fail, error], [startedIncomplete])
  | .setupTimeout => ([error], [startedIncomplete])
  | .setupFailed => ([error], [notStarted, startedIncomplete])
  | .assuranceRequirementNotMet => ([error], [notStarted, startedIncomplete, completed])
  | .fixNotDemonstrated => ([fail], [completed])
  | .policyRequirementUnsupported => ([error], [notStarted])
  | .verifierPackIdentityMismatch => ([error], [notStarted])
  | .verifierPackInvalid => ([error], [notStarted])
  | .verifierPackRequired => ([error], [notStarted])
  | .verifierPackNotFound => ([error], [notStarted])
  | .verifierPackSnapshotChanged => ([tampered], [notStarted, startedIncomplete, completed])
  | .candidateNotExercised => ([error], [completed])
  | .candidateTreeChanged => ([tampered], [startedIncomplete, completed])
  | .testCommandUnavailable => ([error], [notStarted, startedIncomplete])
  | .runtimeCleanupFailed => ([error], [startedIncomplete])
  | .assertionLivenessFailed => ([tampered], [completed])

inductive SchemaVersion where
  | v1_11
  | v1_12
  deriving DecidableEq, Repr

/-- Schema 1.12 adds the pre-execution state to a changed candidate tree and keeps the
rest of the 1.11 table. -/
def versionedReasonContract : SchemaVersion → ReasonCode → List Verdict × List ExecutionState
  | .v1_12, .candidateTreeChanged => ([tampered], [notStarted, startedIncomplete, completed])
  | _, reason => reasonContract reason

/-- The verdict and the execution state are both among those listed for the reason. -/
def MeetsContract (contract : ReasonCode → List Verdict × List ExecutionState)
    (verdict : Verdict) (reason : ReasonCode) (state : ExecutionState) : Prop :=
  verdict ∈ (contract reason).1 ∧ state ∈ (contract reason).2

instance (contract : ReasonCode → List Verdict × List ExecutionState)
    (verdict : Verdict) (reason : ReasonCode) (state : ExecutionState) :
    Decidable (MeetsContract contract verdict reason state) :=
  inferInstanceAs (Decidable (verdict ∈ (contract reason).1 ∧ state ∈ (contract reason).2))

/-- The structured result of a verifier, over what it reports besides the verdict. -/
structure VerdictResult (Artifact : Type) where
  passed : Bool
  score : Rat
  diagnostics : Text
  artifact : Artifact

end EvoomGuard.Domain
