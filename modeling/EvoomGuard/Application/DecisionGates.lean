import EvoomGuard.Application.Assurance

/-!
The ordered demotions of `application/decision_gates.py`. Each gate leaves a decision that
is not a pass alone, so none of them can turn another verdict into a pass. A float floor is
its exact rational.
-/

namespace EvoomGuard.Application

open Lib Domain

inductive CoverageEvidence where
  | unmeasured (note : Option Text)
  | measured (executed total : Nat) (percent : Text)

inductive BaselineVerdict where
  | pass
  | fail
  | noCleanVerdict
  deriving DecidableEq, Repr

inductive RepairEffect where
  | unmeasured
  | demonstrated
  | notDemonstrated
  deriving DecidableEq, Repr

inductive BaselineScope where
  | unsupportedMode
  | repoSuiteOnly
  deriving DecidableEq, Repr

structure BaselineEvidence where
  verdict : Option BaselineVerdict
  testsPassed : Option Nat
  testsTotal : Option Nat
  repairEffect : RepairEffect
  scope : BaselineScope
  note : Text

section Gates

-- Python's repr of a text and its general format of a number.
variable (quoted : Text → Text) (shown : Rat → Text)

def applyAssuranceGate (decision : GuardDecision) (assurance : AssuranceProfile)
    (executionState : ExecutionState) (executionRequested : Bool)
    (requireReportIntegrity requireCandidateIsolation : Option Text) (eagerShortfall : Bool) :
    GuardDecision :=
  let shortfall := assuranceShortfall quoted assurance requireReportIntegrity
    requireCandidateIsolation
  -- The eager mode reads the floors first; only the requested lazy mode may skip them.
  if (eagerShortfall || executionRequested) && executionState == .completed &&
      decision.verdict == .pass then
    match shortfall with
    | some reason => ⟨.error, .assuranceRequirementNotMet, reason⟩
    | none => decision
  else decision

def unmeasuredReason (note : Option Text) : Text :=
  "required changed-line coverage could not be measured: " ++
    note.getD "the collector returned no reason"

def belowFloorReason (executed total : Nat) (percent : Text) (floor : Rat) : Text :=
  "the suite passes but executed only " ++ Nat.toDigits 10 executed ++ ['/'] ++
    Nat.toDigits 10 total ++
    (" of the changed executable lines; the exact ratio is below the required ").toList ++
    shown floor ++ "% (the evidence display rounds it to " ++ percent ++
    ("%) — the change is largely unexercised by the tests that judged it").toList

def coverageBelowFloor (executed total : Nat) (floor : Rat) : Bool :=
  decide (0 < total) && decide (100 * (executed : Int) * floor.den < floor.num * total)

def applyDiffCoverageGate (decision : GuardDecision) (coverage : CoverageEvidence)
    (minDiffCoverage : Option Rat) : GuardDecision :=
  match minDiffCoverage with
  | none => decision
  | some floor =>
    if decision.verdict ≠ .pass then decision
    else
      match coverage with
      | .unmeasured note => ⟨.error, .assuranceRequirementNotMet, unmeasuredReason note⟩
      | .measured executed total percent =>
        if coverageBelowFloor executed total floor then
          ⟨.fail, .diffCoverageBelowThreshold,
            belowFloorReason shown executed total percent floor⟩
        else decision

def fixReason (baseline : BaselineEvidence) : Text :=
  ("the suite passes on the candidate, but the fix is not " ++
    "demonstrated: the pristine base ").toList ++
    (if baseline.verdict = some .pass then "already passes the same suite".toList
      else "produced no clean baseline verdict".toList) ++
    (" — --require-demonstrated-fix demands baseline FAIL → " ++
      "candidate PASS under the same base-owned judge policy").toList

def applyDemonstratedFixGate (decision : GuardDecision) (baseline : BaselineEvidence)
    (requireDemonstratedFix : Bool) : GuardDecision :=
  if requireDemonstratedFix && decision.verdict == .pass &&
      baseline.repairEffect != .demonstrated then
    ⟨.fail, .fixNotDemonstrated, fixReason baseline⟩
  else decision

end Gates

/-- The exact ratio of executed lines reaches the floor. A change without an executable line
meets every floor. -/
def MeetsCoverageFloor (coverage : CoverageEvidence) (floor : Rat) : Prop :=
  match coverage with
  | .unmeasured _ => False
  | .measured executed total _ => floor * total ≤ 100 * executed

theorem coverage_below_floor_false_iff (executed total : Nat) (floor : Rat) :
    coverageBelowFloor executed total floor = false ↔ floor * total ≤ 100 * executed := by
  have positive : (0 : Rat) < floor.den := by exact_mod_cast floor.den_pos
  have exactRatio : floor * total ≤ 100 * executed ↔
      floor.num * (total : Int) ≤ 100 * (executed : Int) * floor.den := by
    have cleared : floor * total = (floor.num * (total : Int) : Int) / floor.den := by
      rw [eq_div_iff positive.ne']
      push_cast
      rw [mul_right_comm, Rat.mul_den_eq_num]
    rw [cleared, div_le_iff₀ positive]
    norm_cast
  rw [exactRatio]
  simp only [coverageBelowFloor, Bool.and_eq_false_iff, decide_eq_false_iff_not, not_lt]
  constructor
  · intro met
    rcases met with empty | met
    · have none : total = 0 := by omega
      subst none
      simp only [Nat.cast_zero, mul_zero]
      positivity
    · exact met
  · intro met
    exact Or.inr met

theorem diff_coverage_pass_iff (shown : Rat → Text) (decision : GuardDecision)
    (coverage : CoverageEvidence) (minDiffCoverage : Option Rat) :
    (applyDiffCoverageGate shown decision coverage minDiffCoverage).verdict = .pass ↔
      decision.verdict = .pass ∧
        ∀ floor, minDiffCoverage = some floor → MeetsCoverageFloor coverage floor := by
  cases minDiffCoverage with
  | none => simp [applyDiffCoverageGate]
  | some floor =>
    simp only [applyDiffCoverageGate, Option.some.injEq, forall_eq']
    by_cases passing : decision.verdict = .pass
    · cases coverage with
      | unmeasured note => simp [passing, MeetsCoverageFloor]
      | measured executed total percent =>
        have met := coverage_below_floor_false_iff executed total floor
        cases below : coverageBelowFloor executed total floor <;>
          simp_all [MeetsCoverageFloor]
    · simp [passing]

theorem demonstrated_fix_pass_iff (decision : GuardDecision) (baseline : BaselineEvidence)
    (requireDemonstratedFix : Bool) :
    (applyDemonstratedFixGate decision baseline requireDemonstratedFix).verdict = .pass ↔
      decision.verdict = .pass ∧
        (requireDemonstratedFix = true → baseline.repairEffect = .demonstrated) := by
  unfold applyDemonstratedFixGate
  by_cases demoted : (requireDemonstratedFix && decision.verdict == .pass &&
      baseline.repairEffect != .demonstrated) = true
  · rw [if_pos demoted]
    simp_all
  · rw [if_neg demoted]
    simp_all

theorem assurance_gate_pass_iff (quoted : Text → Text) (decision : GuardDecision)
    (assurance : AssuranceProfile) (executionRequested : Bool)
    (requireReportIntegrity requireCandidateIsolation : Option Text) (eagerShortfall : Bool)
    (requested : (eagerShortfall || executionRequested) = true) :
    (applyAssuranceGate quoted decision assurance .completed executionRequested
      requireReportIntegrity requireCandidateIsolation eagerShortfall).verdict = .pass ↔
      decision.verdict = .pass ∧
        MeetsFloors assurance requireReportIntegrity requireCandidateIsolation := by
  have met := assurance_shortfall_none_iff quoted assurance requireReportIntegrity
    requireCandidateIsolation
  simp only [applyAssuranceGate, requested]
  by_cases passing : decision.verdict = .pass
  · cases short : assuranceShortfall quoted assurance requireReportIntegrity
        requireCandidateIsolation <;> simp_all
  · simp [passing]

theorem diff_coverage_keeps (shown : Rat → Text) (decision : GuardDecision)
    (coverage : CoverageEvidence) (minDiffCoverage : Option Rat)
    (other : decision.verdict ≠ .pass) :
    applyDiffCoverageGate shown decision coverage minDiffCoverage = decision := by
  cases minDiffCoverage with
  | none => rfl
  | some floor => simp [applyDiffCoverageGate, other]

theorem demonstrated_fix_keeps (decision : GuardDecision) (baseline : BaselineEvidence)
    (requireDemonstratedFix : Bool) (other : decision.verdict ≠ .pass) :
    applyDemonstratedFixGate decision baseline requireDemonstratedFix = decision := by
  simp [applyDemonstratedFixGate, other]

theorem assurance_gate_keeps (quoted : Text → Text) (decision : GuardDecision)
    (assurance : AssuranceProfile) (executionState : ExecutionState) (executionRequested : Bool)
    (requireReportIntegrity requireCandidateIsolation : Option Text) (eagerShortfall : Bool)
    (other : decision.verdict ≠ .pass) :
    applyAssuranceGate quoted decision assurance executionState executionRequested
      requireReportIntegrity requireCandidateIsolation eagerShortfall = decision := by
  simp [applyAssuranceGate, other]

end EvoomGuard.Application
