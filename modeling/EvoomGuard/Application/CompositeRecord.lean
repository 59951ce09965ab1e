import EvoomGuard.Application.RepoRecord
import EvoomGuard.Verifiers.RepoExecution

/-!
Where the record verifier's pack and composite checks agree with the record of a run whose
suite and verifier pack both completed.
-/

namespace EvoomGuard.Application

open Lib Domain Verifiers RecordVerifier

/-! Digests of completed runs -/

section

variable (parseXml : Text → Option Element) (lowerName : Text → Text)

theorem report_set_digest (directory : Option (List ReportEntry)) (counts : JUnitCounts)
    (digest : Text)
    (parsed : parseJunitDirWithDigest parseXml lowerName directory = some (counts, digest)) :
    Sha256.isHex64 digest = true := by
  unfold parseJunitDirWithDigest at parsed
  cases directory with
  | none => cases parsed
  | some entries =>
    simp only at parsed
    split at parsed
    · cases parsed
    · split_ifs at parsed
      cases parsed
      exact Sha256.hexdigest_bytes_is_hex _

/-- A report that was read is bound by a digest of a phase format; without one there is
nothing to bind. -/
theorem suite_evidence_digest (completed : CompletedRun) :
    ((suiteEvidence parseXml lowerName completed).junit.isSome = true ∧
        isHexDigest (suiteEvidence parseXml lowerName completed).junitSha256 = true ∧
        isPhaseFormat (suiteEvidence parseXml lowerName completed).junitDigestFormat = true) ∨
      ((suiteEvidence parseXml lowerName completed).junit = none ∧
        (suiteEvidence parseXml lowerName completed).junitSha256 = none ∧
        (suiteEvidence parseXml lowerName completed).junitDigestFormat = none) := by
  unfold suiteEvidence
  cases direct : parseJunitXml parseXml (completed.report.getD []) with
  | some counts =>
    apply Or.inl
    simp [direct, isHexDigest, isPhaseFormat, Sha256.hexdigest_is_hex]
  | none =>
    cases set : parseJunitDirWithDigest parseXml lowerName completed.reportDirectory with
    | none =>
      apply Or.inr
      simp [direct]
    | some found =>
      apply Or.inl
      have digest := report_set_digest parseXml lowerName completed.reportDirectory found.1
        found.2 set
      simp [direct, isHexDigest, isPhaseFormat, digest]

theorem pack_evidence_digest (completed : CompletedRun)
    (counted : countsNothing (packEvidence parseXml completed).junit = false) :
    ∃ digest, (packEvidence parseXml completed).junitSha256 = some digest ∧
      Sha256.isHex64 digest = true ∧
      (packEvidence parseXml completed).junitDigestFormat = some .junitXml := by
  rcases counted_report _ counted with ⟨counts, report, _⟩
  have nonempty : completed.report.getD [] ≠ [] := parse_junit_xml_nonempty parseXml _ counts report
  have kept : (completed.report.getD []).isEmpty = false := by simpa using nonempty
  simp only [packEvidence, kept, Bool.false_eq_true, if_false]
  exact ⟨_, rfl, Sha256.hexdigest_is_hex _, trivial⟩

end

/-! The repository phase beside its record -/

section

variable (evidence : CompletedRunEvidence) (strictHarness : Bool)
  (sourced : (evaluateRepoPhase evidence strictHarness).verdictSource.isSome = true)
include sourced

theorem sourced_repo_phase :
    ((evaluateRepoPhase evidence strictHarness).verdictSource = some .junitExit ∨
        (evaluateRepoPhase evidence strictHarness).verdictSource = some .exitOnly) ∧
      ((evaluateRepoPhase evidence strictHarness).returncode = 0 ∨
        (evaluateRepoPhase evidence strictHarness).returncode = 1) := by
  rcases repo_source_cases evidence strictHarness with missing | structured | exitOnly
  · rw [missing] at sourced
    cases sourced
  · exact ⟨Or.inl structured.1, structured.2.2⟩
  · exact ⟨Or.inr exitOnly.1, exitOnly.2.2.2.2⟩

theorem clean_repo_pass_agrees :
    cleanRepoPass (repoSuitePhaseArtifact (evaluateRepoPhase evidence strictHarness))
        (evaluateRepoPhase evidence strictHarness).testsPassed
        (evaluateRepoPhase evidence strictHarness).testsTotal =
      (evaluateRepoPhase evidence strictHarness).passed := by
  have counts := repo_phase_counts evidence strictHarness
  rw [repo_phase_passed, cleanRepoPass, counts.1, counts.2]
  have code : (repoSuitePhaseArtifact (evaluateRepoPhase evidence strictHarness)).returncode =
      some evidence.returncode := rfl
  have kept : (repoSuitePhaseArtifact (evaluateRepoPhase evidence strictHarness)).verdictSource =
      (evaluateRepoPhase evidence strictHarness).verdictSource := rfl
  rcases repo_source_cases evidence strictHarness with missing | structured | exitOnly
  · rw [missing] at sourced
    cases sourced
  · rcases structured with ⟨source, counted, _⟩
    rcases counted_report evidence.junit counted with ⟨report, found, positive⟩
    have balance := report.balanced
    rw [source] at kept
    by_cases full : report.failures = 0 ∧ report.errors = 0
    · have all : report.passed = report.total := by omega
      simp [code, kept, cleanPass, exitOnlyPass, found, full, all]
    · have some1 : report.passed ≠ report.total := by omega
      have unclean : cleanPass evidence = false := by
        simp only [cleanPass, found]
        rcases not_and_or.mp full with failed | errored
        · simp [failed]
        · simp [errored]
      simp [code, kept, unclean, exitOnlyPass, found, some1]
  · rcases exitOnly with ⟨source, absent, unexpected, lenient, _⟩
    rw [source] at kept
    subst lenient
    simp [code, kept, cleanPass, exitOnlyPass, absent, unexpected]

end

theorem suite_digest_agrees (parseXml : Text → Option Element) (lowerName : Text → Text)
    (completed : CompletedRun) (strictHarness : Bool)
    (sourced : (interpretRepoSuite parseXml lowerName completed
      strictHarness).verdictSource.isSome = true) :
    suiteDigestValid (repoSuitePhaseArtifact
      (interpretRepoSuite parseXml lowerName completed strictHarness)) = true := by
  have digests := suite_evidence_digest parseXml lowerName completed
  have kept : (repoSuitePhaseArtifact
      (interpretRepoSuite parseXml lowerName completed strictHarness)).verdictSource =
      (interpretRepoSuite parseXml lowerName completed strictHarness).verdictSource := rfl
  have digest : (repoSuitePhaseArtifact
      (interpretRepoSuite parseXml lowerName completed strictHarness)).junitSha256 =
      (suiteEvidence parseXml lowerName completed).junitSha256 := rfl
  have format : (repoSuitePhaseArtifact
      (interpretRepoSuite parseXml lowerName completed strictHarness)).junitDigestFormat =
      (suiteEvidence parseXml lowerName completed).junitDigestFormat := rfl
  unfold suiteDigestValid
  rw [digest, format]
  rcases repo_source_cases (suiteEvidence parseXml lowerName completed) strictHarness with
    missing | structured | exitOnly
  · rw [interpretRepoSuite, missing] at sourced
    cases sourced
  · rcases counted_report _ structured.2.1 with ⟨counts, report, _⟩
    rw [interpretRepoSuite, structured.1] at kept
    rcases digests with bound | unbound
    · simp [interpretRepoSuite, kept, bound]
    · rw [report] at unbound
      cases unbound.1
  · rw [interpretRepoSuite, exitOnly.1] at kept
    rcases digests with bound | unbound
    · rw [exitOnly.2.1] at bound
      cases bound.1
    · simp [interpretRepoSuite, kept, unbound]

/-- The composite digest of two sourced phases is the one the verifier recomputes. -/
theorem composite_digest_agrees (parseXml : Text → Option Element) (lowerName : Text → Text)
    (repoRun packRun : CompletedRun) (strictHarness : Bool) (attestation : Attestation)
    (suite : attestation.repoSuite = repoSuitePhaseArtifact
      (interpretRepoSuite parseXml lowerName repoRun strictHarness))
    (top : (attestation.junitSha256, attestation.junitDigestFormat) = compositeDigest
      (interpretRepoSuite parseXml lowerName repoRun strictHarness)
      (interpretRepoPack parseXml packRun))
    (packDigest : attestation.verifierPackJunitSha256 =
      (interpretRepoPack parseXml packRun).junitSha256)
    (packFormat : attestation.verifierPackJunitDigestFormat =
      (interpretRepoPack parseXml packRun).junitDigestFormat)
    (counted : countsNothing (packEvidence parseXml packRun).junit = false)
    (sourced : (interpretRepoSuite parseXml lowerName repoRun
      strictHarness).verdictSource.isSome = true) :
    compositeDigestValid attestation = true := by
  have digest : (interpretRepoSuite parseXml lowerName repoRun strictHarness).junitSha256 =
      (suiteEvidence parseXml lowerName repoRun).junitSha256 := rfl
  have format : (interpretRepoSuite parseXml lowerName repoRun strictHarness).junitDigestFormat =
      (suiteEvidence parseXml lowerName repoRun).junitDigestFormat := rfl
  have suiteDigest : attestation.repoSuite.junitSha256 =
      (suiteEvidence parseXml lowerName repoRun).junitSha256 := by
    rw [suite]
    exact digest
  have suiteFormat : attestation.repoSuite.junitDigestFormat =
      (suiteEvidence parseXml lowerName repoRun).junitDigestFormat := by
    rw [suite]
    exact format
  have suiteSource : attestation.repoSuite.verdictSource =
      (interpretRepoSuite parseXml lowerName repoRun strictHarness).verdictSource := by
    rw [suite]
    rfl
  have digests := suite_evidence_digest parseXml lowerName repoRun
  rcases pack_evidence_digest parseXml packRun counted with ⟨packSha, packFound, packHex, packName⟩
  have packSha256 : (interpretRepoPack parseXml packRun).junitSha256 = some packSha := packFound
  rw [packSha256] at packDigest
  have packXml : attestation.verifierPackJunitDigestFormat = some .junitXml := by
    rw [packFormat]
    exact packName
  rcases repo_source_cases (suiteEvidence parseXml lowerName repoRun) strictHarness with
    missing | structured | exitOnly
  · rw [interpretRepoSuite, missing] at sourced
    cases sourced
  · rcases counted_report _ structured.2.1 with ⟨counts, report, _⟩
    rcases digests with ⟨_, hex, known⟩ | unbound
    · cases found : (suiteEvidence parseXml lowerName repoRun).junitSha256 with
      | none =>
        rw [found] at hex
        cases hex
      | some sha =>
        cases named : (suiteEvidence parseXml lowerName repoRun).junitDigestFormat with
        | none =>
          rw [named] at known
          cases known
        | some name =>
          rw [found] at digest hex suiteDigest
          rw [named] at format known suiteFormat
          have phase : name = .junitXml ∨ name = .reportSet := by
            simpa [isPhaseFormat] using known
          have composed : compositeDigest
              (interpretRepoSuite parseXml lowerName repoRun strictHarness)
              (interpretRepoPack parseXml packRun) =
              (some (Sha256.hexdigest (compositeIdentity name sha packSha)),
                some .compositeV2) := by
            simp [compositeDigest, digest, format, packSha256, phase]
          rw [composed, Prod.mk.injEq] at top
          have shaHex : Sha256.isHex64 sha = true := hex
          simp [compositeDigestValid, top, suiteDigest, suiteFormat, packDigest, packXml,
            packHex, shaHex, known, Sha256.hexdigest_is_hex]
    · rw [report] at unbound
      cases unbound.1
  · rcases digests with bound | unbound
    · rw [exitOnly.2.1] at bound
      cases bound.1
    · rw [unbound.2.2] at format suiteFormat
      rw [interpretRepoSuite, exitOnly.1] at suiteSource
      have composed : (compositeDigest
          (interpretRepoSuite parseXml lowerName repoRun strictHarness)
          (interpretRepoPack parseXml packRun)).2 = some .compositeV1 := by
        simp [compositeDigest, format]
      have topFormat : attestation.junitDigestFormat = some .compositeV1 := by
        rw [← composed, ← top]
      simp [compositeDigestValid, topFormat, suiteFormat, suiteSource]

section Composite

variable (parseXml : Text → Option Element) (lowerName : Text → Text)

/-- The trace of a run whose suite and pack both completed. -/
def compositeTrace (judge : JudgeSettings) (trace : ExecutionPhaseResult) : ExecutionPhaseResult :=
  { packCompletedTrace judge (suiteCompletedTrace judge true trace) with
    executionPhase := .verifierPack }

/-- The completed suite and pack runs, with what the record needs besides them. -/
structure CompositeRun where
  distill : Text → Text
  context : CompletedContext
  judge : JudgeSettings
  trace : ExecutionPhaseResult
  packPresent : Bool
  repo : CompletedRun
  pack : CompletedRun
  strictHarness : Bool

def CompositeRun.verdict (composite : CompositeRun) : RepoVerdict :=
  judgedRun composite.distill composite.context
    (compositeTrace composite.judge composite.trace) composite.packPresent
    (suiteEvidence parseXml lowerName composite.repo)
    (some (packEvidence parseXml composite.pack)) composite.strictHarness

/-- What an outsider reads of the pack in an empty run: it counted no test, and either the
repository run bears the tamper signature or both runs name a clean verdict source. -/
def emptyPackConflict (repo pack : CompletedRunEvidence) (strictHarness : Bool) : Bool :=
  countsNothing pack.junit &&
    (detectTamper repo.returncode repo.junit ||
      ((cleanVerdictSource pack.returncode pack.junit pack.reportExpected).isSome &&
        (cleanVerdictSource repo.returncode repo.junit repo.reportExpected).isSome &&
        !(strictHarness && countsNothing repo.junit)))

/-- A pack without a counted test ends the run without a pass; the tamper signature of the
repository run takes precedence over the missing verdict. -/
theorem empty_pack_decision (paths : PathFacts) (composite : CompositeRun)
    (executed : paths.mayExecute = true)
    (empty : countsNothing (packEvidence parseXml composite.pack).junit = true) :
    let repo := suiteEvidence parseXml lowerName composite.repo
    let decision := buildRepoJudgment paths (composite.verdict parseXml lowerName)
    decision.verdict ≠ .pass ∧
      ((decision.verdict = .error ∧ decision.reasonCode = .noTestVerdict) ↔
        detectTamper repo.returncode repo.junit = false) := by
  intro repo decision
  have decided : decision = _ := judgment_of_executed paths _ executed
  have composed : (composite.verdict parseXml lowerName).artifact.outcome =
      (if (evaluatePackPhase (packEvidence parseXml composite.pack)).outcome.isSome then
        (evaluatePackPhase (packEvidence parseXml composite.pack)).outcome
      else (evaluateRepoPhase repo composite.strictHarness).outcome) := rfl
  have tamper : (composite.verdict parseXml lowerName).artifact.tamper =
      some (detectTamper repo.returncode repo.junit ||
        detectTamper (packEvidence parseXml composite.pack).returncode
          (packEvidence parseXml composite.pack).junit) := rfl
  rw [nothing_untampered _ empty, Bool.or_false] at tamper
  have ended : (composite.verdict parseXml lowerName).artifact.outcome = some .packNoTests ∨
      (composite.verdict parseXml lowerName).artifact.outcome = some .packNoVerdict := by
    rcases pack_outcome_names (packEvidence parseXml composite.pack) with
      unended | noTests | noVerdict
    · have counted := ((pack_outcome_none_iff _).mp unended).1
      rw [empty] at counted
      cases counted
    · exact Or.inl (by simp [composed, noTests])
    · exact Or.inr (by simp [composed, noVerdict])
  have outcome : (repoVerificationEvidenceFromArtifact
      (composite.verdict parseXml lowerName).artifact).outcome =
      (composite.verdict parseXml lowerName).artifact.outcome := rfl
  have flag : (repoVerificationEvidenceFromArtifact
      (composite.verdict parseXml lowerName).artifact).tamper =
      (composite.verdict parseXml lowerName).artifact.tamper := rfl
  rw [decided]
  cases tampered : detectTamper repo.returncode repo.junit with
  | true =>
    rw [tampered] at tamper
    rcases ended with noTests | noVerdict
    · simp [terminalDecision, outcome, flag, noTests, tamper, tamperOutcomeReasonPolicy]
    · simp [terminalDecision, outcome, flag, noVerdict, tamper, tamperOutcomeReasonPolicy]
  | false =>
    rw [tampered] at tamper
    rcases ended with noTests | noVerdict
    · simp [terminalDecision, outcome, flag, noTests, tamper, tamperOutcomeReasonPolicy,
        outcomeDecision, outcomeReasonPolicy]
    · simp [terminalDecision, outcome, flag, noVerdict, tamper, tamperOutcomeReasonPolicy,
        outcomeDecision, outcomeReasonPolicy]

variable (quoted : Text → Text) (shown : Rat → Text) (policy : RepoPolicy)
  (harnessInputs : List Text) (paths : PathFacts) (coverage : CoverageEvidence)
  (run : BaselineRun) (packDirectory : Bool)

def CompositeRun.record (composite : CompositeRun) : Record :=
  repoRecord policy harnessInputs
    (finalizeRepoVerification quoted shown policy paths (composite.verdict parseXml lowerName)
      coverage run packDirectory)

def packChecks (record : Record) : Bool :=
  checkPackCounts record && checkCompositeCounts record && checkCompositePhase record

variable (record : Record)

theorem zero_pack_checks (state : record.executionState = .completed)
    (completed : record.attestation.verifierPackCompleted = some true)
    (passed : record.attestation.verifierPackTestsPassed = some 0)
    (total : record.attestation.verifierPackTestsTotal = some 0) :
    packChecks record = true ↔
      (record.verdict = .error ∧ record.reasonCode = .noTestVerdict) ∧
        record.verdictSource = none := by
  have counts : checkPackCounts record = true ↔
      (record.verdict = .error ∧ record.reasonCode = .noTestVerdict) ∧
        record.verdictSource = none := by
    simp [checkPackCounts, completedZeroTestError, validCountPair, state, completed, passed, total,
      and_assoc]
  rw [← counts, packChecks, Bool.and_eq_true, Bool.and_eq_true]
  constructor
  · intro checks
    exact checks.1.1
  · intro clean
    have unsourced := (counts.mp clean).2
    have skipped : compositeSource record = false := by simp [compositeSource, unsourced]
    simp [clean, checkCompositeCounts, checkCompositePhase, skipped]

theorem counted_pack_counts (passed total : Nat)
    (completed : record.attestation.verifierPackCompleted = some true)
    (packPassed : record.attestation.verifierPackTestsPassed = some passed)
    (packTotal : record.attestation.verifierPackTestsTotal = some total)
    (ordered : passed ≤ total) (positive : 0 < total) : checkPackCounts record = true := by
  simp [checkPackCounts, validCountPair, completed, packPassed, packTotal, ordered, positive]

theorem numeric_counts_of (repoPassed repoTotal packPassed packTotal : Nat)
    (topPassed : record.testsPassed = some (repoPassed + packPassed))
    (topTotal : record.testsTotal = some (repoTotal + packTotal))
    (passed : record.attestation.verifierPackTestsPassed = some packPassed)
    (total : record.attestation.verifierPackTestsTotal = some packTotal) :
    numericCounts record =
      some ⟨repoPassed + packPassed, repoTotal + packTotal, packPassed, packTotal⟩ := by
  simp [numericCounts, topPassed, topTotal, passed, total]

theorem composite_counts_accepted (repoPassed repoTotal packPassed packTotal : Nat)
    (numeric : numericCounts record =
      some ⟨repoPassed + packPassed, repoTotal + packTotal, packPassed, packTotal⟩)
    (packBound : packPassed ≤ packTotal) (repoBound : repoPassed ≤ repoTotal) :
    checkCompositeCounts record = true := by
  have bounds : packPassed ≤ packTotal ∧ packTotal ≤ repoTotal + packTotal ∧
      packPassed ≤ repoPassed + packPassed ∧
      (0 : Int) ≤ (↑(repoPassed + packPassed) : Int) - packPassed ∧
      (↑(repoPassed + packPassed) : Int) - packPassed ≤
        (↑(repoTotal + packTotal) : Int) - packTotal := by omega
  rw [checkCompositeCounts, numeric, Bool.or_eq_true]
  apply Or.inr
  exact decide_eq_true bounds

theorem repo_phase_accepted (phase : RepoPhaseResult)
    (packPassed packTotal : Nat)
    (suite : record.attestation.repoSuite = repoSuitePhaseArtifact phase)
    (numeric : numericCounts record =
      some ⟨phase.testsPassed + packPassed, phase.testsTotal + packTotal, packPassed, packTotal⟩)
    (counted : 0 < packTotal)
    (source : phase.verdictSource = some .junitExit ∨ phase.verdictSource = some .exitOnly)
    (code : phase.returncode = 0 ∨ phase.returncode = 1)
    (suiteDigest : suiteDigestValid (repoSuitePhaseArtifact phase) = true)
    (digest : compositeDigestValid record.attestation = true)
    (clean : cleanRepoPass (repoSuitePhaseArtifact phase) phase.testsPassed phase.testsTotal =
      phase.passed) :
    repoPhaseValid record = true := by
  have sourced : phase.verdictSource.isSome = true := by
    rcases source with structured | exitOnly
    · rw [structured]
      rfl
    · rw [exitOnly]
      rfl
  have passed : (repoSuitePhaseArtifact phase).passed = some phase.passed := if_pos sourced
  have lifecycle : (repoSuitePhaseArtifact phase).started = some true ∧
      (repoSuitePhaseArtifact phase).completed = some true ∧
      (repoSuitePhaseArtifact phase).state = some .repoPhaseCompleted ∧
      (repoSuitePhaseArtifact phase).testsPassed = some phase.testsPassed ∧
      (repoSuitePhaseArtifact phase).testsTotal = some phase.testsTotal ∧
      (repoSuitePhaseArtifact phase).verdictSource = phase.verdictSource ∧
      (repoSuitePhaseArtifact phase).returncode = some phase.returncode :=
    ⟨rfl, rfl, rfl, rfl, rfl, rfl, rfl⟩
  simp [repoPhaseValid, suite, lifecycle, passed, source, code, suiteDigest, digest, numeric,
    counted, clean, NumericCounts.repoPassed, NumericCounts.repoTotal]

theorem composite_unsourced_iff (repo pack : CompletedRunEvidence) (strictHarness : Bool) :
    (composeRepoAndPack (evaluateRepoPhase repo strictHarness)
        (evaluatePackPhase pack)).verdictSource = none ↔
      ((cleanVerdictSource pack.returncode pack.junit pack.reportExpected).isSome &&
        (cleanVerdictSource repo.returncode repo.junit repo.reportExpected).isSome &&
        !(strictHarness && countsNothing repo.junit)) = false := by
  have repoSourced : (evaluateRepoPhase repo strictHarness).verdictSource.isSome =
      ((cleanVerdictSource repo.returncode repo.junit repo.reportExpected).isSome &&
        !(strictHarness && countsNothing repo.junit)) := by
    simp only [evaluateRepoPhase]
    split_ifs with refused
    · simp [refused]
    · rw [Bool.not_eq_true] at refused
      simp [refused]
  have packSourced : (evaluatePackPhase pack).verdictSource =
      cleanVerdictSource pack.returncode pack.junit pack.reportExpected := rfl
  rw [← packSourced, Bool.and_assoc, ← repoSourced, Bool.and_comm]
  simp only [composeRepoAndPack]
  split_ifs with both
  · simp [both]
  · rw [Bool.not_eq_true] at both
    simp [both]

theorem unexecuted_record_accepted (composite : CompositeRun) (refused : paths.mayExecute = false) :
    packChecks (composite.record parseXml lowerName quoted shown policy harnessInputs paths coverage
      run packDirectory) = true := by
  have absent : (finalizeRepoVerification quoted shown policy paths
      (composite.verdict parseXml lowerName) coverage run packDirectory).evidence = none := by
    simp [finalizeRepoVerification, runEvidence, refused]
  simp [packChecks, CompositeRun.record, repoRecord, absent, checkPackCounts, validCountPair,
    checkCompositeCounts, checkCompositePhase, compositeSource]

section Executed

variable (executed : paths.mayExecute = true) (composite : CompositeRun)

include executed

theorem composite_record_evidence :
    (finalizeRepoVerification quoted shown policy paths (composite.verdict parseXml lowerName)
        coverage run packDirectory).evidence =
      some (repoVerificationEvidenceFromArtifact
        (composite.verdict parseXml lowerName).artifact) := by
  simp [finalizeRepoVerification, runEvidence, executed]

theorem composite_record_fields :
    let record := composite.record parseXml lowerName quoted shown policy harnessInputs paths
      coverage run packDirectory
    let repo := interpretRepoSuite parseXml lowerName composite.repo composite.strictHarness
    let pack := interpretRepoPack parseXml composite.pack
    record.executionState = .completed ∧ record.testCommandRan = true ∧
      record.attestation.verifierPackStarted = some true ∧
      record.attestation.verifierPackCompleted = some true ∧
      record.testsPassed = some (repo.testsPassed + pack.testsPassed) ∧
      record.testsTotal = some (repo.testsTotal + pack.testsTotal) ∧
      record.attestation.verifierPackTestsPassed = some pack.testsPassed ∧
      record.attestation.verifierPackTestsTotal = some pack.testsTotal := by
  have evidence := composite_record_evidence parseXml lowerName quoted shown policy paths coverage
    run packDirectory executed composite
  have execution : finalExecution (runEvidence paths (composite.verdict parseXml lowerName)) =
      (repoVerificationEvidenceFromArtifact
        (composite.verdict parseXml lowerName).artifact).execution := by
    simp [runEvidence, executed, finalExecution]
  intro record repo pack
  have state : record.executionState = .completed := by
    change (finalExecution (runEvidence paths
      (composite.verdict parseXml lowerName))).executionState = _
    rw [execution]
    rfl
  have ran : record.testCommandRan = true := by
    change (finalExecution (runEvidence paths
      (composite.verdict parseXml lowerName))).testCommandStarted = _
    rw [execution]
    rfl
  have attested : record.attestation.verifierPackStarted = some true ∧
      record.attestation.verifierPackCompleted = some true ∧
      record.testsPassed = some (repo.testsPassed + pack.testsPassed) ∧
      record.testsTotal = some (repo.testsTotal + pack.testsTotal) ∧
      record.attestation.verifierPackTestsPassed = some pack.testsPassed ∧
      record.attestation.verifierPackTestsTotal = some pack.testsTotal := by
    simp only [record, CompositeRun.record, repoRecord, evidence]
    exact ⟨rfl, rfl, rfl, rfl, rfl, rfl⟩
  exact ⟨state, ran, attested⟩

theorem composite_record_bindings :
    let record := composite.record parseXml lowerName quoted shown policy harnessInputs paths
      coverage run packDirectory
    let repo := interpretRepoSuite parseXml lowerName composite.repo composite.strictHarness
    let pack := interpretRepoPack parseXml composite.pack
    record.verdictSource = (composeRepoAndPack repo pack).verdictSource ∧
      record.attestation.repoSuite = repoSuitePhaseArtifact repo ∧
      (record.attestation.junitSha256, record.attestation.junitDigestFormat) =
        compositeDigest repo pack ∧
      record.attestation.verifierPackJunitSha256 = pack.junitSha256 ∧
      record.attestation.verifierPackJunitDigestFormat = pack.junitDigestFormat := by
  intro record repo pack
  have evidence := composite_record_evidence parseXml lowerName quoted shown policy paths coverage
    run packDirectory executed composite
  simp only [record, CompositeRun.record, repoRecord, evidence]
  exact ⟨rfl, rfl, rfl, rfl, rfl⟩

theorem empty_pack_accepted_iff
    (empty : countsNothing (packEvidence parseXml composite.pack).junit = true) :
    packChecks (composite.record parseXml lowerName quoted shown policy harnessInputs paths coverage
        run packDirectory) = true ↔
      emptyPackConflict (suiteEvidence parseXml lowerName composite.repo)
        (packEvidence parseXml composite.pack) composite.strictHarness = false := by
  have fields := composite_record_fields parseXml lowerName quoted shown policy harnessInputs
    paths coverage run packDirectory executed composite
  have bindings := composite_record_bindings parseXml lowerName quoted shown policy harnessInputs
    paths coverage run packDirectory executed composite
  have decided := empty_pack_decision parseXml lowerName paths composite executed empty
  have kept := finalize_keeps quoted shown policy paths (composite.verdict parseXml lowerName)
    coverage run packDirectory decided.1
  have zero := counts_nothing_zero _ empty
  have counts := pack_phase_counts (packEvidence parseXml composite.pack)
  rw [zero.1, zero.2] at counts
  simp only [interpretRepoPack, counts] at fields
  rcases fields with ⟨state, _, _, completed, _, _, passed, total⟩
  have judged : (composite.record parseXml lowerName quoted shown policy harnessInputs paths
      coverage run packDirectory).verdict =
        (buildRepoJudgment paths (composite.verdict parseXml lowerName)).verdict ∧
      (composite.record parseXml lowerName quoted shown policy harnessInputs paths
        coverage run packDirectory).reasonCode =
        (buildRepoJudgment paths (composite.verdict parseXml lowerName)).reasonCode := by
    rw [← kept]
    exact ⟨rfl, rfl⟩
  have sourced := composite_unsourced_iff (suiteEvidence parseXml lowerName composite.repo)
    (packEvidence parseXml composite.pack) composite.strictHarness
  rw [zero_pack_checks _ state completed passed total, judged.1, judged.2, decided.2, bindings.1,
    interpretRepoSuite, interpretRepoPack, sourced, emptyPackConflict, empty, Bool.true_and,
    Bool.or_eq_false_iff]

theorem counted_pack_accepted
    (counted : countsNothing (packEvidence parseXml composite.pack).junit = false) :
    packChecks (composite.record parseXml lowerName quoted shown policy harnessInputs paths coverage
      run packDirectory) = true := by
  have fields := composite_record_fields parseXml lowerName quoted shown policy harnessInputs
    paths coverage run packDirectory executed composite
  have bindings := composite_record_bindings parseXml lowerName quoted shown policy harnessInputs
    paths coverage run packDirectory executed composite
  have packCounts := pack_phase_counts (packEvidence parseXml composite.pack)
  have repoCounts := repo_phase_counts (suiteEvidence parseXml lowerName composite.repo)
    composite.strictHarness
  have packBound := passed_le_total (packEvidence parseXml composite.pack).junit
  have repoBound := passed_le_total (suiteEvidence parseXml lowerName composite.repo).junit
  have positive : 0 < (evaluatePackPhase (packEvidence parseXml composite.pack)).testsTotal := by
    rcases counted_report _ counted with ⟨report, found, positive⟩
    rw [packCounts.2, found]
    exact positive
  rw [← packCounts.1, ← packCounts.2] at packBound
  rw [← repoCounts.1, ← repoCounts.2] at repoBound
  generalize composite.record parseXml lowerName quoted shown policy harnessInputs paths coverage
    run packDirectory = record at fields bindings ⊢
  rcases fields with ⟨state, ran, started, completed, topPassed, topTotal, passed, total⟩
  rcases bindings with ⟨source, suite, top, packDigest, packFormat⟩
  have accepted := counted_pack_counts record _ _ completed passed total packBound positive
  have numeric := numeric_counts_of record _ _ _ _ topPassed topTotal passed total
  cases named : record.verdictSource with
  | none =>
    have skipped : compositeSource record = false := by simp [compositeSource, named]
    simp [packChecks, accepted, checkCompositeCounts, checkCompositePhase, skipped]
  | some name =>
    rw [named] at source
    have sources : (interpretRepoSuite parseXml lowerName composite.repo
        composite.strictHarness).verdictSource.isSome = true ∧ name = .compositeRepoPack := by
      simp only [composeRepoAndPack] at source
      split_ifs at source with both
      cases source
      rw [Bool.and_eq_true] at both
      exact ⟨both.1, rfl⟩
    have counts := composite_counts_accepted record _ _ _ _ numeric packBound repoBound
    have digest := composite_digest_agrees parseXml lowerName composite.repo composite.pack
      composite.strictHarness record.attestation suite top packDigest packFormat counted sources.1
    have suiteDigest := suite_digest_agrees parseXml lowerName composite.repo
      composite.strictHarness sources.1
    have clean := clean_repo_pass_agrees (suiteEvidence parseXml lowerName composite.repo)
      composite.strictHarness sources.1
    have origin := sourced_repo_phase (suiteEvidence parseXml lowerName composite.repo)
      composite.strictHarness sources.1
    have phase := repo_phase_accepted record _ _ _ suite numeric positive origin.1 origin.2
      suiteDigest digest clean
    have claimed : repoPhaseClaimed record.attestation.repoSuite = true := by
      rw [suite]
      rfl
    rw [sources.2] at named
    simp [packChecks, accepted, counts, checkCompositePhase, state, ran, started, completed,
      named, claimed, phase]

end Executed

/-- The record of a completed composite run meets the pack and composite checks unless its pack
counted no test while its repository run is tampered or both runs are sourced. -/
theorem composite_record_accepted_iff (composite : CompositeRun) :
    packChecks (composite.record parseXml lowerName quoted shown policy harnessInputs paths coverage
        run packDirectory) = true ↔
      ¬ (paths.mayExecute = true ∧
        emptyPackConflict (suiteEvidence parseXml lowerName composite.repo)
          (packEvidence parseXml composite.pack) composite.strictHarness = true) := by
  cases executed : paths.mayExecute with
  | false =>
    simp [unexecuted_record_accepted parseXml lowerName quoted shown policy harnessInputs paths
      coverage run packDirectory composite executed]
  | true =>
    cases empty : countsNothing (packEvidence parseXml composite.pack).junit with
    | true =>
      rw [empty_pack_accepted_iff parseXml lowerName quoted shown policy harnessInputs paths
        coverage run packDirectory executed composite empty]
      simp
    | false =>
      simp [counted_pack_accepted parseXml lowerName quoted shown policy harnessInputs paths
        coverage run packDirectory executed composite empty, emptyPackConflict, empty]

end Composite

/-! A tampered repository run beside an empty pack -/

def failingReport : Text :=
  "<testsuite tests=\"1\"><testcase><failure/></testcase></testsuite>"

def emptyReport : Text := "<testsuite tests=\"0\"/>"

def twoReports (text : Text) : Option Element :=
  if text = failingReport then
    some (.mk "testsuite" [("tests", "1")]
      [.mk "testcase" [] [.mk "failure" [] []]])
  else if text = emptyReport then
    some (.mk "testsuite" [("tests", "0")] [])
  else none

def tamperedBesideEmptyPack : CompositeRun where
  distill := id
  context := plainContext
  judge := ⟨.subprocess, "none", none, 300, none⟩
  trace := {}
  packPresent := true
  repo := ⟨0, true, [], [], some failingReport, none⟩
  pack := ⟨5, true, [], [], some emptyReport, none⟩
  strictHarness := false

def packPolicy : RepoPolicy where
  isolation := .subprocess
  packConfigured := true
  setupCommandPresent := false
  collectDiffCoverage := false
  minDiffCoverage := none
  collectBaselineEvidence := false
  requireDemonstratedFix := false
  requireReportIntegrity := none
  requireCandidateIsolation := none
  measured := no_floor_measured _
  supported := rfl

theorem tampered_run_beside_empty_pack_rejected :
    let record := tamperedBesideEmptyPack.record twoReports id id (fun _ => []) packPolicy []
      sourcePaths (.unmeasured none) ⟨.pass, none, none⟩ true
    record.verdict = .tampered ∧ record.reasonCode = .junitExitMismatch ∧
      record.attestation.verifierPackTestsTotal = some 0 ∧ packChecks record = false := by
  exact ⟨rfl, rfl, rfl, rfl⟩

end EvoomGuard.Application
