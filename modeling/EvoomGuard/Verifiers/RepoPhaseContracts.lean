import EvoomGuard.Verifiers.JunitOracle

/-!
The pure interpretation of completed judge phases, `verifiers/repo_phase_contracts.py`,
and the two functions that read a completed run into its evidence, from
`verifiers/repo_suite.py` and `verifiers/repo_pack.py`.
-/

namespace EvoomGuard.Verifiers

open Lib Domain

/-- A source is named only for a cleanly gradeable pass/fail evidence pair. -/
def cleanVerdictSource (returncode : Int) (junit : Option JUnitCounts) (reportExpected : Bool) :
    Option VerdictSource :=
  match junit with
  | some counts =>
    if decide (0 < counts.total) && (returncode == 0 || returncode == 1) then some .junitExit
    else none
  | none =>
    if !reportExpected && (returncode == 0 || returncode == 1) then some .exitOnly else none

def strictRefusal : Text :=
  ("\nstrict_harness requires a non-empty structured JUnit " ++
    "test verdict; exit-only/zero-test success was rejected").toList

def countsNothing (junit : Option JUnitCounts) : Bool :=
  match junit with
  | none => true
  | some counts => counts.total == 0

def evaluateRepoPhase (evidence : CompletedRunEvidence) (strictHarness : Bool) :
    RepoPhaseResult :=
  let grade := gradeRepoRun evidence.returncode evidence.junit evidence.reportExpected
  let refused := strictHarness && countsNothing evidence.junit
  let source := if refused then none
    else cleanVerdictSource evidence.returncode evidence.junit evidence.reportExpected
  let output := evidence.stdout ++ ['\n'] ++ evidence.stderr
  { passed := if refused then false else grade.passed
    score := if refused then 0 else grade.score
    testsPassed := grade.testsPassed
    testsTotal := grade.testsTotal
    tampered := detectTamper evidence.returncode evidence.junit
    output := if refused then output ++ strictRefusal else output
    verdictSource := source
    outcome := if source.isSome then none else some .noTestVerdict
    returncode := evidence.returncode
    junitText := evidence.junitText
    junitSha256 := evidence.junitSha256
    junitDigestFormat := evidence.junitDigestFormat }

def packOutcome (evidence : CompletedRunEvidence) : Option Outcome × Text :=
  let grade := gradeRepoRun evidence.returncode evidence.junit evidence.reportExpected
  if grade.testsTotal = 0 then
    match evidence.junit with
    | some _ => (some .packNoTests, "\nverifier pack collected zero tests")
    | none => (some .packNoVerdict, "\nverifier pack produced no valid JUnit verdict")
  else if (cleanVerdictSource evidence.returncode evidence.junit evidence.reportExpected).isNone then
    (some .packNoVerdict, "\nverifier pack produced no clean pass/fail verdict")
  else (none, [])

/-- A mandatory pack fails without a counted test or without a clean verdict. -/
def evaluatePackPhase (evidence : CompletedRunEvidence) : PackPhaseResult :=
  let grade := gradeRepoRun evidence.returncode evidence.junit evidence.reportExpected
  let ended := packOutcome evidence
  { passed := if ended.1.isSome then false else grade.passed
    score := if ended.1.isSome then 0 else grade.score
    testsPassed := grade.testsPassed
    testsTotal := grade.testsTotal
    tampered := detectTamper evidence.returncode evidence.junit
    outputSuffix := ended.2 ++ ['\n'] ++ evidence.stdout ++ ['\n'] ++ evidence.stderr
    verdictSource :=
      cleanVerdictSource evidence.returncode evidence.junit evidence.reportExpected
    outcome := ended.1
    junitText := evidence.junitText
    junitSha256 := evidence.junitSha256
    junitDigestFormat := evidence.junitDigestFormat }

def compositeIdentity (repoFormat : DigestFormat) (repoDigest packDigest : Text) : Text :=
  DigestFormat.compositeV2.name.toList ++ "\x00repo\x00" ++ repoFormat.name.toList ++
    ['\x00'] ++ repoDigest ++ "\x00verifier-pack\x00" ++
    DigestFormat.junitXml.name.toList ++ ['\x00'] ++ packDigest

def compositeDigest (repo : RepoPhaseResult) (pack : PackPhaseResult) :
    Option Text × Option DigestFormat :=
  if repo.junitDigestFormat = some .junitXml ∨ repo.junitDigestFormat = some .reportSet then
    match repo.junitDigestFormat, repo.junitSha256, pack.junitSha256 with
    | some format, some repoDigest, some packDigest =>
      (some (Sha256.hexdigest (compositeIdentity format repoDigest packDigest)),
        some .compositeV2)
    | _, _, _ => (none, none)
  else
    (some (Sha256.hexdigest ("repo\x00" ++ repo.junitText ++
      "\x00verifier-pack\x00" ++ pack.junitText)), some .compositeV1)

def composeRepoAndPack (repo : RepoPhaseResult) (pack : PackPhaseResult) :
    CompositePhaseResult where
  passed := repo.passed && pack.passed
  score := min repo.score pack.score
  testsPassed := repo.testsPassed + pack.testsPassed
  testsTotal := repo.testsTotal + pack.testsTotal
  tampered := repo.tampered || pack.tampered
  output := repo.output ++ pack.outputSuffix
  verdictSource :=
    if repo.verdictSource.isSome && pack.verdictSource.isSome then some .compositeRepoPack
    else none
  outcome := if pack.outcome.isSome then pack.outcome else repo.outcome
  returncode := repo.returncode
  junitSha256 := (compositeDigest repo pack).1
  junitDigestFormat := (compositeDigest repo pack).2

/-- The final phase of a run without a pack, in the fields it shares with a composite. -/
def repoFinal (repo : RepoPhaseResult) : CompositePhaseResult where
  passed := repo.passed
  score := repo.score
  testsPassed := repo.testsPassed
  testsTotal := repo.testsTotal
  tampered := repo.tampered
  output := repo.output
  verdictSource := repo.verdictSource
  outcome := repo.outcome
  returncode := repo.returncode
  junitSha256 := repo.junitSha256
  junitDigestFormat := repo.junitDigestFormat

def finalPhase (repo : RepoPhaseResult) : Option PackPhaseResult → CompositePhaseResult
  | none => repoFinal repo
  | some pack => composeRepoAndPack repo pack

/-- A completed judge command as its executor hands it over: the report file and the report
directory are read afterwards. -/
structure CompletedRun where
  returncode : Int
  reportExpected : Bool
  stdout : Text := []
  stderr : Text := []
  report : Option Text := none
  reportDirectory : Option (List ReportEntry) := none

section Interpretation

variable (parseXml : Text → Option Element) (lowerName : Text → Text)

def suiteEvidence (completed : CompletedRun) : CompletedRunEvidence :=
  let junitText := completed.report.getD []
  let direct := parseJunitXml parseXml junitText
  let reportSet := if direct.isNone then
      parseJunitDirWithDigest parseXml lowerName completed.reportDirectory
    else none
  { returncode := completed.returncode
    junit := if direct.isSome then direct else reportSet.map Prod.fst
    reportExpected := completed.reportExpected
    stdout := completed.stdout
    stderr := completed.stderr
    junitText := junitText
    junitSha256 := if direct.isSome then some (Sha256.hexdigest junitText)
      else reportSet.map Prod.snd
    junitDigestFormat := if direct.isSome then some .junitXml
      else reportSet.map fun _ => .reportSet }

def interpretRepoSuite (completed : CompletedRun) (strictHarness : Bool) : RepoPhaseResult :=
  evaluateRepoPhase (suiteEvidence parseXml lowerName completed) strictHarness

def packEvidence (completed : CompletedRun) : CompletedRunEvidence :=
  let junitText := completed.report.getD []
  { returncode := completed.returncode
    junit := parseJunitXml parseXml junitText
    reportExpected := completed.reportExpected
    stdout := completed.stdout
    stderr := completed.stderr
    junitText := junitText
    junitSha256 := if junitText.isEmpty then none else some (Sha256.hexdigest junitText)
    junitDigestFormat := if junitText.isEmpty then none else some .junitXml }

def interpretRepoPack (completed : CompletedRun) : PackPhaseResult :=
  evaluatePackPhase (packEvidence parseXml completed)

end Interpretation

/-- Exit code zero with a report of at least one test and no failure. -/
def cleanPass (evidence : CompletedRunEvidence) : Bool :=
  match evidence.junit with
  | some counts => evidence.returncode == 0 && decide (0 < counts.total) &&
      counts.failures == 0 && counts.errors == 0
  | none => false

/-- The exit code alone is a pass: no report was expected and strict mode is off. -/
def exitOnlyPass (evidence : CompletedRunEvidence) (strictHarness : Bool) : Bool :=
  evidence.junit.isNone && !evidence.reportExpected && evidence.returncode == 0 && !strictHarness

variable (evidence : CompletedRunEvidence)

theorem clean_pass_counted (clean : cleanPass evidence = true) :
    countsNothing evidence.junit = false ∧ evidence.returncode = 0 := by
  cases report : evidence.junit with
  | none => simp [cleanPass, report] at clean
  | some counts =>
    simp only [cleanPass, report, Bool.and_eq_true, beq_iff_eq, decide_eq_true_eq] at clean
    have counted := clean.1.1.2
    constructor
    · simp only [countsNothing, beq_eq_false_iff_ne]
      omega
    · exact clean.1.1.1

theorem grade_passed :
    (gradeRepoRun evidence.returncode evidence.junit evidence.reportExpected).passed =
      (cleanPass evidence || exitOnlyPass evidence false) := by
  cases report : evidence.junit with
  | none =>
    simp only [gradeRepoRun, cleanPass, exitOnlyPass, report]
    split_ifs with expected zero one <;> simp [*]
  | some counts =>
    simp only [gradeRepoRun, cleanPass, exitOnlyPass, report]
    split_ifs with clean <;> simp_all

theorem repo_phase_passed (strictHarness : Bool) :
    (evaluateRepoPhase evidence strictHarness).passed =
      (cleanPass evidence || exitOnlyPass evidence strictHarness) := by
  by_cases refused : (strictHarness && countsNothing evidence.junit) = true
  · have unclean : cleanPass evidence = false := by
      by_contra clean
      have counted := (clean_pass_counted evidence (by simpa using clean)).1
      simp [counted] at refused
    simp only [Bool.and_eq_true] at refused
    simp [evaluateRepoPhase, refused, unclean, exitOnlyPass]
  · simp only [evaluateRepoPhase, if_neg refused, grade_passed]
    cases report : evidence.junit with
    | none => simp_all [exitOnlyPass, countsNothing]
    | some counts => simp [exitOnlyPass, report]

theorem grade_counts (returncode : Int) (junit : Option JUnitCounts) (reportExpected : Bool) :
    (gradeRepoRun returncode junit reportExpected).testsPassed =
        (junit.map JUnitCounts.passed).getD 0 ∧
      (gradeRepoRun returncode junit reportExpected).testsTotal =
        (junit.map JUnitCounts.total).getD 0 := by
  cases junit with
  | none | some counts =>
    simp only [gradeRepoRun]
    split_ifs <;> exact ⟨rfl, rfl⟩

theorem repo_phase_counts (strictHarness : Bool) :
    (evaluateRepoPhase evidence strictHarness).testsPassed =
        (evidence.junit.map JUnitCounts.passed).getD 0 ∧
      (evaluateRepoPhase evidence strictHarness).testsTotal =
        (evidence.junit.map JUnitCounts.total).getD 0 := by
  exact grade_counts evidence.returncode evidence.junit evidence.reportExpected

theorem pack_phase_counts :
    (evaluatePackPhase evidence).testsPassed = (evidence.junit.map JUnitCounts.passed).getD 0 ∧
      (evaluatePackPhase evidence).testsTotal =
        (evidence.junit.map JUnitCounts.total).getD 0 := by
  exact grade_counts evidence.returncode evidence.junit evidence.reportExpected

theorem clean_verdict_source_some (returncode : Int) (counts : JUnitCounts)
    (reportExpected : Bool) :
    (cleanVerdictSource returncode (some counts) reportExpected).isSome = true ↔
      0 < counts.total ∧ (returncode = 0 ∨ returncode = 1) := by
  simp [cleanVerdictSource]

theorem pack_outcome_none_iff :
    (evaluatePackPhase evidence).outcome = none ↔
      countsNothing evidence.junit = false ∧
        (evidence.returncode = 0 ∨ evidence.returncode = 1) := by
  have counted := (pack_phase_counts evidence).2
  simp only [evaluatePackPhase] at counted ⊢
  cases report : evidence.junit with
  | none =>
    rw [report] at counted
    simp [packOutcome, report, counted, countsNothing]
  | some counts =>
    rw [report] at counted
    simp only [Option.map_some, Option.getD_some] at counted
    by_cases empty : counts.total = 0
    · simp [packOutcome, report, counted, countsNothing, empty]
    · have positive : 0 < counts.total := Nat.pos_of_ne_zero empty
      have source := clean_verdict_source_some evidence.returncode counts
        evidence.reportExpected
      by_cases clean : evidence.returncode = 0 ∨ evidence.returncode = 1
      · have named := source.mpr ⟨positive, clean⟩
        simp only [packOutcome, report, counted, if_neg empty, countsNothing,
          Option.isNone_iff_eq_none]
        rw [if_neg (Option.isSome_iff_ne_none.mp named)]
        simp [empty, clean]
      · have unnamed : ¬ (cleanVerdictSource evidence.returncode (some counts)
            evidence.reportExpected).isSome = true := by
          intro named
          exact clean (source.mp named).2
        rw [Bool.not_eq_true, Option.isSome_eq_false_iff] at unnamed
        simp [packOutcome, report, counted, empty, countsNothing, unnamed, clean]

theorem pack_outcome_names :
    (evaluatePackPhase evidence).outcome = none ∨
      (evaluatePackPhase evidence).outcome = some .packNoTests ∨
      (evaluatePackPhase evidence).outcome = some .packNoVerdict := by
  simp only [evaluatePackPhase, packOutcome]
  split_ifs
  · cases evidence.junit with
    | none => exact Or.inr (Or.inr rfl)
    | some counts => exact Or.inr (Or.inl rfl)
  · exact Or.inr (Or.inr rfl)
  · exact Or.inl rfl

theorem pack_phase_passed :
    (evaluatePackPhase evidence).passed = cleanPass evidence := by
  have ends := pack_outcome_none_iff evidence
  have passed : (evaluatePackPhase evidence).passed =
      if (evaluatePackPhase evidence).outcome.isSome then false
        else (cleanPass evidence || exitOnlyPass evidence false) := by
    rw [← grade_passed]
    rfl
  rw [passed]
  cases ended : (evaluatePackPhase evidence).outcome with
  | none =>
    have counted := (ends.mp ended).1
    cases report : evidence.junit with
    | none => simp [report, countsNothing] at counted
    | some counts => simp [exitOnlyPass, report]
  | some outcome =>
    by_contra clean
    have counted := clean_pass_counted evidence (by simpa using (Ne.symm clean))
    have unended := ends.mpr ⟨counted.1, Or.inl counted.2⟩
    rw [ended] at unended
    cases unended

section

variable (strictHarness : Bool)

theorem repo_phase_passed_source
    (passed : (evaluateRepoPhase evidence strictHarness).passed = true) :
    (evaluateRepoPhase evidence strictHarness).verdictSource.isSome = true := by
  rw [repo_phase_passed, Bool.or_eq_true] at passed
  rcases passed with clean | exitOnly
  · have counted := clean_pass_counted evidence clean
    cases report : evidence.junit with
    | none => simp [report, countsNothing] at counted
    | some counts =>
      have positive : 0 < counts.total := by
        simp only [report, countsNothing, beq_eq_false_iff_ne] at counted
        omega
      simp [evaluateRepoPhase, report, countsNothing, cleanVerdictSource, counted, positive,
        Nat.ne_of_gt positive]
  · simp only [exitOnlyPass, Bool.and_eq_true, Option.isNone_iff_eq_none,
      Bool.not_eq_true', beq_iff_eq] at exitOnly
    simp [evaluateRepoPhase, cleanVerdictSource, exitOnly]

theorem repo_phase_passed_outcome
    (passed : (evaluateRepoPhase evidence strictHarness).passed = true) :
    (evaluateRepoPhase evidence strictHarness).outcome = none := by
  have sourced := repo_phase_passed_source evidence strictHarness passed
  simp only [evaluateRepoPhase] at sourced ⊢
  rw [if_pos sourced]

theorem repo_outcome_of_source :
    (evaluateRepoPhase evidence strictHarness).outcome =
      if (evaluateRepoPhase evidence strictHarness).verdictSource.isSome then none
        else some .noTestVerdict := rfl

theorem repo_outcome_names :
    (evaluateRepoPhase evidence strictHarness).outcome = none ∨
      (evaluateRepoPhase evidence strictHarness).outcome = some .noTestVerdict := by
  rw [repo_outcome_of_source]
  split_ifs
  · exact Or.inl rfl
  · exact Or.inr rfl

theorem repo_source_cases :
    (evaluateRepoPhase evidence strictHarness).verdictSource = none ∨
      ((evaluateRepoPhase evidence strictHarness).verdictSource = some .junitExit ∧
        countsNothing evidence.junit = false ∧
        (evidence.returncode = 0 ∨ evidence.returncode = 1)) ∨
      ((evaluateRepoPhase evidence strictHarness).verdictSource = some .exitOnly ∧
        evidence.junit = none ∧ evidence.reportExpected = false ∧ strictHarness = false ∧
        (evidence.returncode = 0 ∨ evidence.returncode = 1)) := by
  simp only [evaluateRepoPhase]
  cases report : evidence.junit with
  | none =>
    by_cases exitOnly : evidence.reportExpected = false ∧ strictHarness = false ∧
        (evidence.returncode = 0 ∨ evidence.returncode = 1)
    · simp [countsNothing, cleanVerdictSource, exitOnly]
    · apply Or.inl
      cases strictHarness <;> cases expected : evidence.reportExpected <;>
        simp_all [countsNothing, cleanVerdictSource]
  | some counts =>
    by_cases clean : 0 < counts.total ∧ (evidence.returncode = 0 ∨ evidence.returncode = 1)
    · have positive := Nat.ne_of_gt clean.1
      simp [countsNothing, cleanVerdictSource, clean, positive]
    · apply Or.inl
      simp [cleanVerdictSource, clean]

end

theorem final_phase_passed (repo : CompletedRunEvidence) (pack : Option CompletedRunEvidence)
    (strictHarness : Bool) :
    (finalPhase (evaluateRepoPhase repo strictHarness) (pack.map evaluatePackPhase)).passed =
        true ↔
      (cleanPass repo = true ∨ exitOnlyPass repo strictHarness = true) ∧
        ∀ evidence, pack = some evidence → cleanPass evidence = true := by
  cases pack with
  | none => simp [finalPhase, repoFinal, repo_phase_passed]
  | some evidence =>
    simp [finalPhase, composeRepoAndPack, repo_phase_passed, pack_phase_passed]

theorem clean_pass_untampered (clean : cleanPass evidence = true) :
    detectTamper evidence.returncode evidence.junit = false := by
  cases report : evidence.junit with
  | none => rfl
  | some counts =>
    simp only [cleanPass, report, Bool.and_eq_true, beq_iff_eq] at clean
    simp [detectTamper, clean]

theorem final_phase_passed_clean (repo : CompletedRunEvidence)
    (pack : Option CompletedRunEvidence) (strictHarness : Bool)
    (passed : (finalPhase (evaluateRepoPhase repo strictHarness)
      (pack.map evaluatePackPhase)).passed = true) :
    (finalPhase (evaluateRepoPhase repo strictHarness)
        (pack.map evaluatePackPhase)).tampered = false ∧
      (finalPhase (evaluateRepoPhase repo strictHarness)
        (pack.map evaluatePackPhase)).outcome = none := by
  have facts := (final_phase_passed repo pack strictHarness).mp passed
  have repoPassed : (evaluateRepoPhase repo strictHarness).passed = true := by
    rw [repo_phase_passed, Bool.or_eq_true]
    exact facts.1
  have repoOutcome := repo_phase_passed_outcome repo strictHarness repoPassed
  have repoUntampered : (evaluateRepoPhase repo strictHarness).tampered = false := by
    rcases facts.1 with clean | exitOnly
    · exact clean_pass_untampered repo clean
    · simp only [exitOnlyPass, Bool.and_eq_true, Option.isNone_iff_eq_none] at exitOnly
      simp [evaluateRepoPhase, detectTamper, exitOnly]
  cases pack with
  | none => exact ⟨repoUntampered, repoOutcome⟩
  | some evidence =>
    have clean := facts.2 evidence rfl
    have packUntampered : (evaluatePackPhase evidence).tampered = false :=
      clean_pass_untampered evidence clean
    have counted := clean_pass_counted evidence clean
    have packOutcome := (pack_outcome_none_iff evidence).mpr ⟨counted.1, Or.inl counted.2⟩
    constructor
    · simp [finalPhase, composeRepoAndPack, repoUntampered, packUntampered]
    · simp [finalPhase, composeRepoAndPack, repoOutcome, packOutcome]

/-- Counts that name no failure and an exit code that is not zero are the tamper signature, so
an untampered report that is not a clean pass names a failure. -/
theorem failing_counts (counts : JUnitCounts)
    (report : evidence.junit = some counts) (counted : 0 < counts.total)
    (untampered : detectTamper evidence.returncode evidence.junit = false)
    (failed : cleanPass evidence = false) : counts.passed < counts.total := by
  have balance := counts.balanced
  by_contra full
  have noFailure : counts.failures = 0 := by omega
  have noError : counts.errors = 0 := by omega
  by_cases zero : evidence.returncode = 0
  · simp [cleanPass, report, zero, noFailure, noError] at failed
    omega
  · simp [detectTamper, report, zero, noFailure, noError] at untampered
    omega

end EvoomGuard.Verifiers
