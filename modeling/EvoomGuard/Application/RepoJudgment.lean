import EvoomGuard.Application.RepoDecision
import EvoomGuard.Verifiers.RepoResult

/-!
The judgment of a completed repository run, `application/repo_judgment.py`: the verifier's
result, read as evidence, goes into the ordered decision. A candidate that the preflight
refuses never reaches the verifier.
-/

namespace EvoomGuard.Application

open Lib Domain Verifiers

/-- The path classification of the preflight. -/
structure PathFacts where
  touched : List Text
  unsafePaths : List Text
  violations : List Text

def PathFacts.mayExecute (paths : PathFacts) : Bool :=
  !paths.touched.isEmpty && paths.unsafePaths.isEmpty && paths.violations.isEmpty

def runEvidence (paths : PathFacts) (verdict : RepoVerdict) : Option VerificationEvidence :=
  if paths.mayExecute then some (repoVerificationEvidenceFromArtifact verdict.artifact) else none

def buildRepoJudgment (paths : PathFacts) (verdict : RepoVerdict) : GuardDecision :=
  composeRepoDecision (!paths.touched.isEmpty) paths.unsafePaths paths.violations
    (if paths.mayExecute then some (verdict.passed, verdict.score) else none)
    (if paths.mayExecute then verdict.diagnostics else [])
    (runEvidence paths verdict)

variable (paths : PathFacts) (verdict : RepoVerdict)

theorem judgment_of_executed (executed : paths.mayExecute = true) :
    buildRepoJudgment paths verdict =
      (terminalDecision verdict.diagnostics
        (repoVerificationEvidenceFromArtifact verdict.artifact)).getD
        (suiteDecision (some (verdict.passed, verdict.score)) verdict.diagnostics
          (some (repoVerificationEvidenceFromArtifact verdict.artifact))) := by
  have facts := executed
  simp only [PathFacts.mayExecute, Bool.and_eq_true] at facts
  simp [buildRepoJudgment, runEvidence, composeRepoDecision, executed, facts]

theorem judgment_of_refused (refused : paths.mayExecute = false) :
    ((buildRepoJudgment paths verdict).verdict, (buildRepoJudgment paths verdict).reasonCode) ∈
      [(Verdict.error, ReasonCode.noParseableEdits), (.error, .unsafePath),
        (.rejected, .protectedHarnessEdit)] := by
  unfold buildRepoJudgment composeRepoDecision
  by_cases untouched : paths.touched = []
  · simp [untouched]
  · by_cases safe : paths.unsafePaths = []
    · have violated : paths.violations ≠ [] := by
        intro clean
        simp [PathFacts.mayExecute, untouched, safe, clean] at refused
      simp [untouched, safe, violated]
    · simp [untouched, safe]

theorem refused_not_pass (refused : paths.mayExecute = false) :
    (buildRepoJudgment paths verdict).verdict ≠ .pass ∧
      (buildRepoJudgment paths verdict).reasonCode ≠ .testsFailed := by
  have decided := judgment_of_refused paths verdict refused
  simp only [List.mem_cons, Prod.mk.injEq, List.not_mem_nil, or_false] at decided
  rcases decided with decided | decided | decided <;> simp [decided]

theorem judgment_iff (Holds : GuardDecision → Prop)
    (suite : Prop)
    (refused : ∀ decision : GuardDecision, decision.verdict ≠ .pass →
      decision.reasonCode ≠ .testsFailed → ¬ Holds decision)
    (decided : Holds (suiteDecision (some (verdict.passed, verdict.score)) verdict.diagnostics
      (some (repoVerificationEvidenceFromArtifact verdict.artifact))) ↔ suite) :
    Holds (buildRepoJudgment paths verdict) ↔
      paths.mayExecute = true ∧ verdict.artifact.tamper ≠ some true ∧
        (verdict.artifact.outcome = none ∨ verdict.artifact.outcome = some .noTestVerdict) ∧
        suite := by
  cases executed : paths.mayExecute with
  | false =>
    have other := refused_not_pass paths verdict executed
    simp [refused _ other.1 other.2]
  | true =>
    rw [judgment_of_executed paths verdict executed]
    have ends := terminal_decision_none_iff verdict.diagnostics
      (repoVerificationEvidenceFromArtifact verdict.artifact)
    cases ended : terminalDecision verdict.diagnostics
        (repoVerificationEvidenceFromArtifact verdict.artifact) with
    | some decision =>
      rw [ended] at ends
      have other := terminal_decision_not_pass _ _ _ ended
      constructor
      · intro holds
        exact absurd holds (refused decision other.1 other.2)
      · intro facts
        cases ends.mpr ⟨facts.2.1, facts.2.2.1⟩
    | none =>
      have clean := ends.mp ended
      rw [Option.getD_none, decided]
      constructor
      · intro holds
        exact ⟨rfl, clean.1, clean.2, holds⟩
      · intro facts
        exact facts.2.2.2

theorem judgment_tests_failed_iff :
    ((buildRepoJudgment paths verdict).verdict = .fail ∧
        (buildRepoJudgment paths verdict).reasonCode = .testsFailed) ↔
      paths.mayExecute = true ∧ verdict.artifact.tamper ≠ some true ∧
        (verdict.artifact.outcome = none ∨ verdict.artifact.outcome = some .noTestVerdict) ∧
        verdict.passed = false ∧ 0 < verdict.artifact.testsTotal.getD 0 := by
  apply judgment_iff paths verdict
    (fun decision => decision.verdict = .fail ∧ decision.reasonCode = .testsFailed)
  · intro decision _ other failed
    exact other failed.2
  · exact suite_decision_tests_failed_iff _ _ _ _

theorem judgment_pass_iff :
    (buildRepoJudgment paths verdict).verdict = .pass ↔
      paths.mayExecute = true ∧ verdict.artifact.tamper ≠ some true ∧
        (verdict.artifact.outcome = none ∨ verdict.artifact.outcome = some .noTestVerdict) ∧
        verdict.passed = true := by
  apply judgment_iff paths verdict (fun decision => decision.verdict = .pass)
  · intro decision other _
    exact other
  · exact suite_decision_pass_iff _ _ _ _

end EvoomGuard.Application
