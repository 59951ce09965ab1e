import EvoomGuard.Domain.Evidence

/-!
The ordered repo-native decision of `application/repo_decision.py`. The priority of the
source is kept: what was refused before execution, then tamper, then how the run ended,
then the verdict of the suite.
-/

namespace EvoomGuard.Application

open Lib Domain

def outcomeReasonPolicy : Outcome → Option (Verdict × ReasonCode)
  | .testTimeout => some (.fail, .testTimeout)
  | .testOutputLimit => some (.error, .testTimeout)
  | .setupTimeout => some (.error, .setupTimeout)
  | .setupOutputLimit => some (.error, .setupTimeout)
  | .setupFailed => some (.error, .setupFailed)
  | .runtimeContainmentError => some (.error, .runtimeCleanupFailed)
  | .isolationUnavailable => some (.error, .assuranceRequirementNotMet)
  | .assertLivenessUnavailable => some (.error, .assuranceRequirementNotMet)
  | .structuredVerdictUnavailable => some (.error, .assuranceRequirementNotMet)
  | .runtimeIdentityUnavailable => some (.error, .assuranceRequirementNotMet)
  | .packIdentityMismatch => some (.error, .verifierPackIdentityMismatch)
  | .packInvalid => some (.error, .verifierPackInvalid)
  | .testCommandUnavailable => some (.error, .testCommandUnavailable)
  | .packNoTests => some (.error, .noTestVerdict)
  | .packNoVerdict => some (.error, .noTestVerdict)
  | .noTestVerdict => some (.error, .noTestVerdict)
  | .candidateTreeChanged | .packSnapshotChanged | .assertionLivenessFailed => none

def tamperOutcomeReasonPolicy : Outcome → Option (ReasonCode × Text)
  | .candidateTreeChanged => some (.candidateTreeChanged,
      "prepared candidate runtime tree changed during the repo-suite/verifier-pack run")
  | .packSnapshotChanged => some (.verifierPackSnapshotChanged,
      "the accepted verifier-pack snapshot changed before or during execution")
  | .assertionLivenessFailed => some (.assertionLivenessFailed,
      ("the judge-owned assertion-liveness canary failed — candidate-imported " ++
        "code neutered the test framework's assertion machinery, so the report's " ++
        "passes cannot be trusted").toList)
  | _ => none

def orElseText (text fallback : Text) : Text := if text.isEmpty then fallback else text

def outcomeDecision (diagnostics : Text) (outcome : Outcome) : Option GuardDecision :=
  (outcomeReasonPolicy outcome).map fun (verdict, reasonCode) =>
    ⟨verdict, reasonCode,
      orElseText diagnostics ("run ended: " ++ outcome.name.toList)⟩

def countsText (evidence : VerificationEvidence) : Text :=
  Nat.toDigits 10 (evidence.testsPassed.getD 0) ++ ['/'] ++
    Nat.toDigits 10 (evidence.testsTotal.getD 0)

def mismatchReason (evidence : VerificationEvidence) : Text :=
  ("tamper signature: the suite's exit code and its judge-owned JUnit " ++
    "report disagree (").toList ++ countsText evidence ++
    " in the report) — refusing to read this as a pass"

def packMissingReason : Text := "the configured verifier-pack path does not exist"

-- What ends the run before the suite's own verdict is read.
def terminalDecision (diagnostics : Text) (evidence : VerificationEvidence) :
    Option GuardDecision :=
  match evidence.outcome.bind tamperOutcomeReasonPolicy with
  | some (reasonCode, summary) =>
    some ⟨.tampered, reasonCode, summary ++ ": " ++ diagnostics⟩
  | none =>
    if evidence.tamper = some true then
      some ⟨.tampered, .junitExitMismatch, mismatchReason evidence⟩
    else if evidence.outcome = some .packInvalid ∧ evidence.verifierPack.present = some false then
      some ⟨.error, .verifierPackNotFound, orElseText diagnostics packMissingReason⟩
    else
      match evidence.outcome with
      | none | some .noTestVerdict => none
      | some outcome => outcomeDecision diagnostics outcome

def failureReason (evidence : VerificationEvidence) : Text :=
  "the repo's tests fail on this patch (" ++ countsText evidence ++ " passed)"

def countedFailure (evidence : VerificationEvidence) : Option GuardDecision :=
  if evidence.testsTotal.getD 0 = 0 then none
  else some ⟨.fail, .testsFailed, failureReason evidence⟩

def patchApplyScore : Rat := 8 / 100

def passReason : Text :=
  ("the selected repo judge passed, and the patch did not edit or " ++
    "delete a path covered by the active harness policy").toList

def patchApplyReason : Text :=
  "the patch did not apply cleanly (a PATCH anchor did not match)"

def noVerdictReason : Text :=
  "the test session produced no clean verdict (collection/usage error)"

/-- The verdict of the suite once nothing ended the run early. -/
def suiteDecision (verifier : Option (Bool × Rat)) (diagnostics : Text)
    (evidence : Option VerificationEvidence) : GuardDecision :=
  if verifier.any Prod.fst then
    ⟨.pass, .testsPassed, passReason⟩
  else
    let ended := (evidence.bind VerificationEvidence.outcome).bind (outcomeDecision diagnostics)
    ((evidence.bind countedFailure).or ended).getD
      (if verifier.any fun result => decide (result.2 ≤ patchApplyScore) then
        ⟨.error, .patchApplyFailed, patchApplyReason⟩
      else ⟨.fail, .noTestVerdict, noVerdictReason⟩)

def noEditsReason : Text :=
  ("no parseable edit blocks — the patch produced no <<<FILE>>> or " ++
    "<<<PATCH>>> edits (and no deletions) to verify").toList

def unsafeReason (unsafePaths : List Text) : Text :=
  ("the patch references an unsafe path (absolute, '..', or escaping the " ++
    "repo root) — refusing to apply: ").toList ++ Text.join ", " unsafePaths

def protectedReason (violations : List Text) : Text :=
  ("protected-path policy: the patch edits or deletes a path covered " ++
    "by the active judge policy; use the candidate lane for source " ++
    "changes and a separately trusted maintenance lane for judge inputs (").toList ++
    Text.join ", " violations ++ [')']

def composeRepoDecision (hasChanges : Bool) (unsafePaths protectedViolations : List Text)
    (verifier : Option (Bool × Rat)) (diagnostics : Text)
    (evidence : Option VerificationEvidence) : GuardDecision :=
  if !hasChanges then
    ⟨.error, .noParseableEdits, noEditsReason⟩
  else if !unsafePaths.isEmpty then
    ⟨.error, .unsafePath, unsafeReason unsafePaths⟩
  else if !protectedViolations.isEmpty then
    ⟨.rejected, .protectedHarnessEdit, protectedReason protectedViolations⟩
  else
    (evidence.bind (terminalDecision diagnostics)).getD
      (suiteDecision verifier diagnostics evidence)

variable (diagnostics : Text)

theorem outcome_decision_not_pass (outcome : Outcome)
    (decision : GuardDecision) (decided : outcomeDecision diagnostics outcome = some decision) :
    decision.verdict ≠ .pass ∧ decision.reasonCode ≠ .testsFailed := by
  cases outcome <;> simp [outcomeDecision, outcomeReasonPolicy] at decided <;>
    subst decided <;> simp

theorem tamper_outcome_reason (outcome : Outcome) (reasonCode : ReasonCode) (summary : Text)
    (found : tamperOutcomeReasonPolicy outcome = some (reasonCode, summary)) :
    reasonCode ≠ .testsFailed := by
  cases outcome <;> cases found <;> decide

theorem terminal_decision_not_pass (evidence : VerificationEvidence)
    (decision : GuardDecision) (decided : terminalDecision diagnostics evidence = some decision) :
    decision.verdict ≠ .pass ∧ decision.reasonCode ≠ .testsFailed := by
  unfold terminalDecision at decided
  split at decided
  · rename_i reasonCode summary found
    cases decided
    rcases Option.bind_eq_some_iff.mp found with ⟨outcome, _, policy⟩
    exact ⟨Verdict.noConfusion, tamper_outcome_reason outcome reasonCode summary policy⟩
  · split_ifs at decided
    · cases decided
      exact ⟨Verdict.noConfusion, ReasonCode.noConfusion⟩
    · cases decided
      exact ⟨Verdict.noConfusion, ReasonCode.noConfusion⟩
    · split at decided
      · cases decided
      · cases decided
      · exact outcome_decision_not_pass diagnostics _ decision decided

theorem outcome_decision_some (outcome : Outcome) :
    (outcomeDecision diagnostics outcome).isSome = (tamperOutcomeReasonPolicy outcome).isNone := by
  cases outcome <;> rfl

/-- Nothing ends the run early exactly when there is no tamper flag and no outcome other
than a missing verdict. -/
theorem terminal_decision_none_iff (evidence : VerificationEvidence) :
    terminalDecision diagnostics evidence = none ↔
      evidence.tamper ≠ some true ∧
        (evidence.outcome = none ∨ evidence.outcome = some .noTestVerdict) := by
  unfold terminalDecision
  constructor
  · intro undecided
    split at undecided
    · cases undecided
    · rename_i untampered
      split_ifs at undecided with tampered
      constructor
      · exact tampered
      · split at undecided
        · exact Or.inl (by assumption)
        · exact Or.inr (by assumption)
        · rename_i outcome _ ended
          have decided := outcome_decision_some diagnostics outcome
          rw [ended, Option.bind_some] at untampered
          rw [undecided, untampered] at decided
          cases decided
  · intro clean
    rcases clean with ⟨untampered, ended | ended⟩
    · simp only [ended, Option.bind_none, if_neg untampered, reduceCtorEq, false_and, if_false]
    · simp only [ended, Option.bind_some, tamperOutcomeReasonPolicy, if_neg untampered,
        Option.some.injEq, reduceCtorEq, false_and, if_false]

theorem counted_failure_some (evidence : VerificationEvidence) (decision : GuardDecision)
    (decided : countedFailure evidence = some decision) :
    0 < evidence.testsTotal.getD 0 ∧ decision.verdict = .fail ∧
      decision.reasonCode = .testsFailed := by
  unfold countedFailure at decided
  split_ifs at decided with counted
  cases decided
  exact ⟨by omega, rfl, rfl⟩

theorem suite_decision_cases (passed : Bool) (score : Rat) (diagnostics : Text)
    (evidence : VerificationEvidence) :
    let decision := suiteDecision (some (passed, score)) diagnostics (some evidence)
    (passed = true ∧ decision.verdict = .pass ∧ decision.reasonCode = .testsPassed) ∨
      (passed = false ∧ 0 < evidence.testsTotal.getD 0 ∧ decision.verdict = .fail ∧
        decision.reasonCode = .testsFailed) ∨
      (passed = false ∧ evidence.testsTotal.getD 0 = 0 ∧ decision.verdict ≠ .pass ∧
        decision.reasonCode ≠ .testsFailed) := by
  cases passed with
  | true => exact Or.inl ⟨rfl, rfl, rfl⟩
  | false =>
    apply Or.inr
    simp only [suiteDecision, Option.any_some, Bool.false_eq_true, if_false, Option.bind_some,
      true_and]
    cases counted : countedFailure evidence with
    | some decision =>
      exact Or.inl (counted_failure_some evidence decision counted)
    | none =>
      have empty : evidence.testsTotal.getD 0 = 0 := by
        by_contra positive
        simp [countedFailure, positive] at counted
      apply Or.inr
      rw [Option.none_or]
      constructor
      · exact empty
      · cases ended : evidence.outcome.bind (outcomeDecision diagnostics) with
        | some decision =>
          rcases Option.bind_eq_some_iff.mp ended with ⟨outcome, _, decided⟩
          exact outcome_decision_not_pass diagnostics outcome decision decided
        | none =>
          rw [Option.getD_none]
          split_ifs
          · exact ⟨Verdict.noConfusion, ReasonCode.noConfusion⟩
          · exact ⟨Verdict.noConfusion, ReasonCode.noConfusion⟩

theorem suite_decision_tests_failed_iff (passed : Bool) (score : Rat) (diagnostics : Text)
    (evidence : VerificationEvidence) :
    ((suiteDecision (some (passed, score)) diagnostics (some evidence)).verdict = .fail ∧
        (suiteDecision (some (passed, score)) diagnostics (some evidence)).reasonCode =
          .testsFailed) ↔
      passed = false ∧ 0 < evidence.testsTotal.getD 0 := by
  rcases suite_decision_cases passed score diagnostics evidence with
    ⟨pass, _, reason⟩ | ⟨failed, counted, verdict, reason⟩ | ⟨failed, empty, _, reason⟩
  · rw [reason]
    simp [pass]
  · exact ⟨fun _ => ⟨failed, counted⟩, fun _ => ⟨verdict, reason⟩⟩
  · simp [reason, empty]

theorem suite_decision_pass_iff (passed : Bool) (score : Rat) (diagnostics : Text)
    (evidence : VerificationEvidence) :
    (suiteDecision (some (passed, score)) diagnostics (some evidence)).verdict = .pass ↔
      passed = true := by
  rcases suite_decision_cases passed score diagnostics evidence with
    ⟨pass, verdict, _⟩ | ⟨failed, _, verdict, _⟩ | ⟨failed, _, verdict, _⟩
  · exact ⟨fun _ => pass, fun _ => verdict⟩
  · rw [verdict]
    simp [failed]
  · constructor
    · intro passing
      exact absurd passing verdict
    · intro passing
      rw [failed] at passing
      cases passing

end EvoomGuard.Application
