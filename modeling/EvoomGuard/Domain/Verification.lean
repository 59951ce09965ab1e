import EvoomGuard.Lib.Text

/-!
The evidence and phase-result contracts of `domain/verification.py`. Counts carry the
balance every producer of them establishes, so a report whose parts do not add up is not
a value of the type.
-/

namespace EvoomGuard.Domain

open Lib

structure JUnitCounts where
  passed : Nat
  total : Nat
  failures : Nat
  errors : Nat
  balanced : passed + failures + errors = total

inductive VerdictSource where
  | junitExit
  | exitOnly
  | blackbox
  | compositeRepoPack
  | compositeBlackboxRepo
  deriving DecidableEq, Repr

inductive DigestFormat where
  | junitXml
  | reportSet
  | compositeV1
  | compositeV2
  deriving DecidableEq, Repr

def DigestFormat.name : DigestFormat → String
  | .junitXml => "JUNIT_XML_SHA256"
  | .reportSet => "EVOGUARD_JUNIT_REPORT_SET_V1"
  | .compositeV1 => "EVOGUARD_JUNIT_COMPOSITE_V1"
  | .compositeV2 => "EVOGUARD_JUNIT_COMPOSITE_V2"

/-- How a run ended when it did not end in a plain verdict. -/
inductive Outcome where
  | testTimeout
  | testOutputLimit
  | setupTimeout
  | setupOutputLimit
  | setupFailed
  | runtimeContainmentError
  | isolationUnavailable
  | assertLivenessUnavailable
  | structuredVerdictUnavailable
  | runtimeIdentityUnavailable
  | packIdentityMismatch
  | packInvalid
  | testCommandUnavailable
  | packNoTests
  | packNoVerdict
  | noTestVerdict
  | candidateTreeChanged
  | packSnapshotChanged
  | assertionLivenessFailed
  deriving DecidableEq, Repr

def Outcome.name : Outcome → String
  | .testTimeout => "test_timeout"
  | .testOutputLimit => "test_output_limit"
  | .setupTimeout => "setup_timeout"
  | .setupOutputLimit => "setup_output_limit"
  | .setupFailed => "setup_failed"
  | .runtimeContainmentError => "runtime_containment_error"
  | .isolationUnavailable => "isolation_unavailable"
  | .assertLivenessUnavailable => "assert_liveness_unavailable"
  | .structuredVerdictUnavailable => "structured_verdict_unavailable"
  | .runtimeIdentityUnavailable => "runtime_identity_unavailable"
  | .packIdentityMismatch => "pack_identity_mismatch"
  | .packInvalid => "pack_invalid"
  | .testCommandUnavailable => "test_command_unavailable"
  | .packNoTests => "pack_no_tests"
  | .packNoVerdict => "pack_no_verdict"
  | .noTestVerdict => "no_test_verdict"
  | .candidateTreeChanged => "candidate_tree_changed"
  | .packSnapshotChanged => "pack_snapshot_changed"
  | .assertionLivenessFailed => "assertion_liveness_failed"

structure CompletedRunEvidence where
  returncode : Int
  junit : Option JUnitCounts
  reportExpected : Bool
  stdout : Text := []
  stderr : Text := []
  junitText : Text := []
  junitSha256 : Option Text := none
  junitDigestFormat : Option DigestFormat := none

structure RepoPhaseResult where
  passed : Bool
  score : Rat
  testsPassed : Nat
  testsTotal : Nat
  tampered : Bool
  output : Text
  verdictSource : Option VerdictSource
  outcome : Option Outcome
  returncode : Int
  junitText : Text
  junitSha256 : Option Text
  junitDigestFormat : Option DigestFormat

structure PackPhaseResult where
  passed : Bool
  score : Rat
  testsPassed : Nat
  testsTotal : Nat
  tampered : Bool
  outputSuffix : Text
  verdictSource : Option VerdictSource
  outcome : Option Outcome
  junitText : Text
  junitSha256 : Option Text
  junitDigestFormat : Option DigestFormat

structure CompositePhaseResult where
  passed : Bool
  score : Rat
  testsPassed : Nat
  testsTotal : Nat
  tampered : Bool
  output : Text
  verdictSource : Option VerdictSource
  outcome : Option Outcome
  returncode : Int
  junitSha256 : Option Text
  junitDigestFormat : Option DigestFormat

end EvoomGuard.Domain
