import EvoomGuard.RecordVerifier
import EvoomGuard.Application.DecisionGates

/-!
The repair effect that `_check_evidence_contracts` expects of a record with a measured baseline,
and what it accepts as proof that the candidate's own suite passed.
-/

namespace EvoomGuard.RecordVerifier

open Lib Domain Verifiers Application

def completedAllPassEvidence (record : Record) : Bool :=
  let countEvidence :=
    if record.verdictSource = some .exitOnly then
      record.testsPassed == some 0 && record.testsTotal == some 0
    else
      match record.testsPassed, record.testsTotal with
      | some passed, some total => decide (0 < total) && passed == total
      | _, _ => false
  record.executionState == .completed && record.testCommandRan && record.verdictSource.isSome &&
    countEvidence

def suitePhaseComplete (suite : RepositorySuiteEvidence) : Bool :=
  suite.started == some true && suite.completed == some true &&
    suite.state == some .repoPhaseCompleted && suite.passed.isSome && suite.testsPassed.isSome &&
    suite.testsTotal.isSome && (suite.returncode == some 0 || suite.returncode == some 1) &&
    (suite.verdictSource == some .junitExit || suite.verdictSource == some .exitOnly) &&
    suiteDigestValid suite

/-- A clean composite carries the same repo counts as the top-level remainder. -/
def compositeRemainder (record : Record) (passed total : Nat) : Bool :=
  record.verdictSource != some .compositeRepoPack ||
    match numericCounts record with
    | none => false
    | some counts =>
      decide ((passed : Int) = counts.repoPassed ∧ (total : Int) = counts.repoTotal)

/-- Proves the candidate's repository suite independently of a composed pack. -/
def repoSuitePassEvidence (record : Record) : Bool :=
  let suite := record.attestation.repoSuite
  if suitePhaseComplete suite then
    match suite.testsPassed, suite.testsTotal with
    | some passed, some total =>
      compositeRemainder record passed total && suite.passed == some true &&
        cleanRepoPass suite passed total
    | _, _ => false
  else if requiresRepoPhaseEvidence record.attestation then false
  else completedAllPassEvidence record

def expectedEffect (record : Record) (baseline : Option BaselineVerdict) : RepairEffect :=
  if baseline = some .noCleanVerdict then .unmeasured
  else if baseline = some .fail ∧ repoSuitePassEvidence record = true then .demonstrated
  else .notDemonstrated

end EvoomGuard.RecordVerifier
