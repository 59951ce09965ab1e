import EvoomGuard.Application.CompositeRecord
import EvoomGuard.Application.RepoContract
import EvoomGuard.RecordVerifier.RepairEffect
import EvoomGuard.Verifiers.RepoSuiteReport

/-!
The repair effect a repository run writes beside its baseline, and the one the record verifier
expects of the emitted record. A failing suite that is graded from its exit code alone carries no
counts, and the verifier reads it as a pass.
-/

namespace EvoomGuard.Application

open Lib Domain Verifiers RecordVerifier

/-! The suite evidence of an emitted record -/

section

variable (record : Record)

theorem unclaimed_suite_incomplete : suitePhaseComplete {} = false := rfl

theorem unsourced_proves_nothing (unclaimed : record.attestation.repoSuite = {})
    (unsourced : record.verdictSource = none) : repoSuitePassEvidence record = false := by
  simp [repoSuitePassEvidence, unclaimed, unclaimed_suite_incomplete, completedAllPassEvidence,
    unsourced]

theorem ungraded_proves_nothing (phase : RepoPhaseResult) (missing : phase.verdictSource = none)
    (claimed : record.attestation.repoSuite = repoSuitePhaseArtifact phase)
    (required : requiresRepoPhaseEvidence record.attestation = true) :
    repoSuitePassEvidence record = false := by
  have incomplete : suitePhaseComplete record.attestation.repoSuite = false := by
    simp [suitePhaseComplete, claimed, repoSuitePhaseArtifact, missing]
  simp [repoSuitePassEvidence, incomplete, required]

theorem graded_proves_its_verdict (parseXml : Text → Option Element) (lowerName : Text → Text)
    (run : CompletedRun) (strictHarness : Bool)
    (sourced : (interpretRepoSuite parseXml lowerName run strictHarness).verdictSource.isSome = true)
    (claimed : record.attestation.repoSuite = repoSuitePhaseArtifact
      (interpretRepoSuite parseXml lowerName run strictHarness))
    (remainder : compositeRemainder record
      (interpretRepoSuite parseXml lowerName run strictHarness).testsPassed
      (interpretRepoSuite parseXml lowerName run strictHarness).testsTotal = true) :
    repoSuitePassEvidence record =
      (interpretRepoSuite parseXml lowerName run strictHarness).passed := by
  have named := sourced_repo_phase (suiteEvidence parseXml lowerName run) strictHarness sourced
  have clean := clean_repo_pass_agrees (suiteEvidence parseXml lowerName run) strictHarness sourced
  have digest := suite_digest_agrees parseXml lowerName run strictHarness sourced
  rw [← interpretRepoSuite] at named clean
  have complete : suitePhaseComplete record.attestation.repoSuite = true := by
    rw [claimed]
    unfold suitePhaseComplete
    rw [digest]
    rcases named.1 with source | source <;> rcases named.2 with code | code <;>
      simp [repoSuitePhaseArtifact, source, code]
  have passed : (repoSuitePhaseArtifact
      (interpretRepoSuite parseXml lowerName run strictHarness)).passed =
      some (interpretRepoSuite parseXml lowerName run strictHarness).passed := by
    rw [repoSuitePhaseArtifact, if_pos sourced]
  have counts : (repoSuitePhaseArtifact
      (interpretRepoSuite parseXml lowerName run strictHarness)).testsPassed =
        some (interpretRepoSuite parseXml lowerName run strictHarness).testsPassed ∧
      (repoSuitePhaseArtifact
        (interpretRepoSuite parseXml lowerName run strictHarness)).testsTotal =
        some (interpretRepoSuite parseXml lowerName run strictHarness).testsTotal := ⟨rfl, rfl⟩
  rw [repoSuitePassEvidence, if_pos complete, claimed, counts.1, counts.2]
  simp only [remainder, passed, clean]
  cases (interpretRepoSuite parseXml lowerName run strictHarness).passed <;> rfl

theorem lone_suite_evidence (evidence : CompletedRunEvidence) (strictHarness : Bool)
    (unclaimed : record.attestation.repoSuite = {})
    (optional : requiresRepoPhaseEvidence record.attestation = false)
    (completed : record.executionState = .completed) (ran : record.testCommandRan = true)
    (source : record.verdictSource = (evaluateRepoPhase evidence strictHarness).verdictSource)
    (passed : record.testsPassed = some (evaluateRepoPhase evidence strictHarness).testsPassed)
    (total : record.testsTotal = some (evaluateRepoPhase evidence strictHarness).testsTotal)
    (untampered : detectTamper evidence.returncode evidence.junit = false) :
    repoSuitePassEvidence record = ((evaluateRepoPhase evidence strictHarness).passed ||
      (evaluateRepoPhase evidence strictHarness).verdictSource == some .exitOnly) := by
  have counts := repo_phase_counts evidence strictHarness
  rw [counts.1] at passed
  rw [counts.2] at total
  have lone : repoSuitePassEvidence record = completedAllPassEvidence record := by
    simp [repoSuitePassEvidence, unclaimed, unclaimed_suite_incomplete, optional]
  rw [lone, completedAllPassEvidence, completed, ran, source, passed, total]
  rcases repo_source_cases evidence strictHarness with missing | structured | exitOnly
  · have failed : (evaluateRepoPhase evidence strictHarness).passed = false := by
      by_contra passing
      have named := repo_phase_passed_source evidence strictHarness (by simpa using passing)
      rw [missing] at named
      cases named
    simp [missing, failed]
  · rcases counted_report evidence.junit structured.2.1 with ⟨report, found, positive⟩
    rw [structured.1, repo_phase_passed]
    cases clean : cleanPass evidence with
    | true =>
      have full := clean_pass_counts evidence clean
      simp [found] at full
      simp [found, full]
    | false =>
      have failing := failing_counts evidence report found positive untampered clean
      have unequal : (report.passed == report.total) = false := by
        rw [beq_eq_false_iff_ne]
        omega
      have apart : (VerdictSource.junitExit == .exitOnly) = false := rfl
      simp [found, unequal, apart, exitOnlyPass]
  · rw [exitOnly.1]
    simp [exitOnly.2.1]

end

/-! The run behind a record -/

/-- The record of a finalized run, whatever the gates made of its decision. -/
structure Emits (policy : RepoPolicy) (verdict : RepoVerdict) (record : Record) : Prop where
  source : record.verdictSource = verdict.artifact.verdictSource
  passed : record.testsPassed = verdict.artifact.testsPassed
  total : record.testsTotal = verdict.artifact.testsTotal
  state : record.executionState = verdict.artifact.execution.executionState
  ran : record.testCommandRan = verdict.artifact.execution.testCommandStarted
  suite : record.attestation.repoSuite = verdict.artifact.repoSuite
  packPassed : record.attestation.verifierPackTestsPassed = verdict.artifact.verifierPackTestsPassed
  packTotal : record.attestation.verifierPackTestsTotal = verdict.artifact.verifierPackTestsTotal
  required : requiresRepoPhaseEvidence record.attestation = policy.packConfigured

theorem emitted_record (quoted : Text → Text) (shown : Rat → Text) (policy : RepoPolicy)
    (harnessInputs : List Text) (paths : PathFacts) (verdict : RepoVerdict)
    (coverage : CoverageEvidence) (run : BaselineRun) (packDirectory : Bool)
    (executed : paths.mayExecute = true) :
    Emits policy verdict (repoRecord policy harnessInputs (finalizeRepoVerification quoted shown
      policy paths verdict coverage run packDirectory)) := by
  have evidence : runEvidence paths verdict =
      some (repoVerificationEvidenceFromArtifact verdict.artifact) := by
    rw [runEvidence, if_pos executed]
  have required (attestation : Attestation) (version : attestation.guardVersion = some guardVersion)
      (mode : attestation.effectivePolicy.mode = .repo) :
      requiresRepoPhaseEvidence attestation = attestation.effectivePolicy.verifierPackRequired := by
    simp [requiresRepoPhaseEvidence, producerVersionAtLeast, version, mode, guardVersion]
  constructor <;> simp only [repoRecord, finalizeRepoVerification, evidence] <;>
    first | rfl | exact required _ rfl rfl

section Suite

variable (services : RepoServices) (settings : RepoSettings) (answers : RepoAnswers)
  (paths : PathFacts) (executed : paths.mayExecute = true) (policy : RepoPolicy)
  (ended : RepoRunState × RepoVerdict) (record : Record)
  (emits : Emits policy (concluded settings answers ended) record)

/-- What the producer reads of the candidate's suite. -/
def producedSuite : Bool × Bool :=
  candidateSuite (buildRepoJudgment paths (concluded settings answers ended))
    (runEvidence paths (concluded settings answers ended))

include executed

theorem produced_suite_eq : producedSuite settings answers paths ended =
    candidateSuite (buildRepoJudgment paths (concluded settings answers ended))
      (some (repoVerificationEvidenceFromArtifact
        (concluded settings answers ended).artifact)) := by
  rw [producedSuite, runEvidence, if_pos executed]

omit executed in
/-- A result that does not pass is judged as something other than a pass. -/
theorem unpassed_judgment (unpassed : ended.2.passed = false) :
    (buildRepoJudgment paths (concluded settings answers ended)).verdict ≠ .pass := by
  intro passing
  have passed := ((judgment_pass_iff paths _).mp passing).2.2.2
  have same : (concluded settings answers ended).passed = ended.2.passed := rfl
  rw [same, unpassed] at passed
  cases passed

theorem ungraded_suite
    (ungraded : (concluded settings answers ended).artifact.repoSuite.passed = none) :
    (producedSuite settings answers paths ended).2 =
      ((buildRepoJudgment paths (concluded settings answers ended)).verdict == .pass) ∧
    ((producedSuite settings answers paths ended).1 = true →
      (buildRepoJudgment paths (concluded settings answers ended)).verdict = .pass ∨
        (buildRepoJudgment paths (concluded settings answers ended)).verdict = .fail) := by
  rw [produced_suite_eq settings answers paths executed ended, candidateSuite]
  have suite : ((some (repoVerificationEvidenceFromArtifact
      (concluded settings answers ended).artifact)).map VerificationEvidence.repoSuite).getD {} =
      (concluded settings answers ended).artifact.repoSuite := rfl
  simp only [suite, ungraded]
  constructor
  · split <;> simp_all
  · intro completed
    split at completed
    · simp_all
    · simpa using completed

theorem graded_suite (phase : RepoPhaseResult) (sourced : phase.verdictSource.isSome = true)
    (held : (concluded settings answers ended).artifact.repoSuite = repoSuitePhaseArtifact phase) :
    producedSuite settings answers paths ended = (true, phase.passed) := by
  rw [produced_suite_eq settings answers paths executed ended, candidateSuite]
  have suite : ((some (repoVerificationEvidenceFromArtifact
      (concluded settings answers ended).artifact)).map VerificationEvidence.repoSuite).getD {} =
      repoSuitePhaseArtifact phase := held
  have passed : (repoSuitePhaseArtifact phase).passed = some phase.passed := by
    rw [repoSuitePhaseArtifact, if_pos sourced]
  have lifecycle : (repoSuitePhaseArtifact phase).started = some true ∧
      (repoSuitePhaseArtifact phase).completed = some true := ⟨rfl, rfl⟩
  simp only [suite, lifecycle.1, lifecycle.2, passed]

theorem refused_suite_agrees (refused : Refused ended.2)
    (silent : (concluded settings answers ended).artifact.repoSuite.passed = none)
    (proves : repoSuitePassEvidence record = false) :
    repoSuitePassEvidence record = (producedSuite settings answers paths ended).2 := by
  have judged := unpassed_judgment settings answers paths ended refused.failed
  rw [proves, (ungraded_suite settings answers paths executed ended silent).1]
  simp [judged]

include emits

theorem kept_suite_agrees (run : CompletedRun) (strictHarness : Bool)
    (required : policy.packConfigured = true)
    (unpassed : (interpretRepoSuite services.parseXml services.mapping.lower run
      strictHarness).verdictSource = none → ended.2.passed = false)
    (held : (concluded settings answers ended).artifact.repoSuite = repoSuitePhaseArtifact
      (interpretRepoSuite services.parseXml services.mapping.lower run strictHarness))
    (remainder : compositeRemainder record
      (interpretRepoSuite services.parseXml services.mapping.lower run strictHarness).testsPassed
      (interpretRepoSuite services.parseXml services.mapping.lower run strictHarness).testsTotal =
        true) :
    repoSuitePassEvidence record = (producedSuite settings answers paths ended).2 := by
  have claimed := emits.suite.trans held
  cases source : (interpretRepoSuite services.parseXml services.mapping.lower run
      strictHarness).verdictSource with
  | none =>
    have silent : (concluded settings answers ended).artifact.repoSuite.passed = none := by
      simp [held, repoSuitePhaseArtifact, source]
    have judged := unpassed_judgment settings answers paths ended (unpassed source)
    rw [ungraded_proves_nothing record _ source claimed (emits.required.trans required),
      (ungraded_suite settings answers paths executed ended silent).1]
    simp [judged]
  | some named =>
    have sourced : (interpretRepoSuite services.parseXml services.mapping.lower run
        strictHarness).verdictSource.isSome = true := by
      rw [source]
      rfl
    rw [graded_suite settings answers paths executed ended _ sourced held]
    exact graded_proves_its_verdict record services.parseXml services.mapping.lower run
      strictHarness sourced claimed remainder

omit executed in
/-- The counts of a composed record are the suite's and the pack's together. -/
theorem composed_remainder (distill : Text → Text) (context : CompletedContext)
    (phase : RepoPhaseResult) (pack : PackPhaseResult)
    (judged : ended.2 = completedVerdict distill context phase (some pack)) :
    compositeRemainder record phase.testsPassed phase.testsTotal = true := by
  have counts : numericCounts record = some ⟨phase.testsPassed + pack.testsPassed,
      phase.testsTotal + pack.testsTotal, pack.testsPassed, pack.testsTotal⟩ := by
    rw [numericCounts, emits.passed, emits.total, emits.packPassed, emits.packTotal]
    simp only [concluded, RepoResultProjection.finalize, judged]
    rfl
  simp [compositeRemainder, counts, NumericCounts.repoPassed, NumericCounts.repoTotal]

omit emits in
/-- Only a run that was not tampered with is judged a pass or a failure. -/
theorem judged_untampered (verdict : RepoVerdict)
    (judged : (buildRepoJudgment paths verdict).verdict = .pass ∨
      (buildRepoJudgment paths verdict).verdict = .fail) : verdict.artifact.tamper ≠ some true := by
  intro tampered
  have read : (repoVerificationEvidenceFromArtifact verdict.artifact).tamper = some true := tampered
  have decided : ∃ decision : GuardDecision, decision.verdict = .tampered ∧
      terminalDecision verdict.diagnostics
        (repoVerificationEvidenceFromArtifact verdict.artifact) = some decision := by
    unfold terminalDecision
    split
    · exact ⟨_, rfl, rfl⟩
    · rw [if_pos read]
      exact ⟨_, rfl, rfl⟩
  rcases decided with ⟨decision, verdictTampered, terminal⟩
  rw [judgment_of_executed paths verdict executed, terminal, Option.getD_some,
    verdictTampered] at judged
  rcases judged with impossible | impossible <;> cases impossible

omit executed emits in
theorem suite_tampered (evidence : CompletedRunEvidence) (strictHarness : Bool) :
    (evaluateRepoPhase evidence strictHarness).tampered =
      detectTamper evidence.returncode evidence.junit := by
  simp [evaluateRepoPhase]

omit emits in
theorem silent_failure_judged (verdict : RepoVerdict) (evidence : CompletedRunEvidence)
    (strictHarness : Bool) (failed : (evaluateRepoPhase evidence strictHarness).passed = false)
    (exitOnly : (evaluateRepoPhase evidence strictHarness).verdictSource = some .exitOnly)
    (passed : verdict.passed = false)
    (score : verdict.score = (evaluateRepoPhase evidence strictHarness).score)
    (outcome : verdict.artifact.outcome = (evaluateRepoPhase evidence strictHarness).outcome)
    (total : verdict.artifact.testsTotal =
      some (evaluateRepoPhase evidence strictHarness).testsTotal)
    (untampered : verdict.artifact.tamper ≠ some true) :
    (buildRepoJudgment paths verdict).verdict = .fail := by
  have unnamed : (evaluateRepoPhase evidence strictHarness).outcome = none := by
    rw [repo_outcome_of_source, exitOnly]
    rfl
  have uncounted : (evaluateRepoPhase evidence strictHarness).testsTotal = 0 := by
    rcases repo_source_cases evidence strictHarness with missing | structured | silent
    · rw [missing] at exitOnly
      cases exitOnly
    · rw [structured.1] at exitOnly
      cases exitOnly
    · rw [(repo_phase_counts evidence strictHarness).2, silent.2.1]
      rfl
  have graded := uncounted_failure_score evidence none strictHarness failed unnamed uncounted
  have above : ¬ verdict.score ≤ patchApplyScore := by
    rw [score]
    exact graded
  have undecided : terminalDecision verdict.diagnostics
      (repoVerificationEvidenceFromArtifact verdict.artifact) = none :=
    (terminal_decision_none_iff _ _).mpr ⟨untampered, Or.inl (outcome.trans unnamed)⟩
  have silent : (repoVerificationEvidenceFromArtifact verdict.artifact).outcome = none :=
    outcome.trans unnamed
  have counts : (repoVerificationEvidenceFromArtifact verdict.artifact).testsTotal = some 0 := by
    rw [← uncounted]
    exact total
  rw [judgment_of_executed paths verdict executed, undecided, passed]
  simp [suiteDecision, countedFailure, counts, silent, above]

/-- A suite judged alone: both sides agree on it unless it failed by its exit code alone. -/
theorem lone_suite_agrees_iff (distill : Text → Text) (context : CompletedContext)
    (evidence : CompletedRunEvidence) (strictHarness : Bool)
    (optional : policy.packConfigured = false)
    (dropped : ended.1.projection.repoSuitePhase = none)
    (finished : ended.1.trace.executionState = .completed)
    (started : ended.1.trace.testCommandStarted = true)
    (judged : ended.2 = completedVerdict distill context
      (evaluateRepoPhase evidence strictHarness) none) :
    ((producedSuite settings answers paths ended).1 = true →
        repoSuitePassEvidence record = (producedSuite settings answers paths ended).2) ↔
      ¬ (ended.2.passed = false ∧ ended.2.artifact.verdictSource = some .exitOnly) := by
  have unclaimed : (concluded settings answers ended).artifact.repoSuite = {} := by
    simp only [concluded, RepoResultProjection.finalize, dropped, judged]
    rfl
  have suite := ungraded_suite settings answers paths executed ended (by rw [unclaimed])
  have passed : ended.2.passed = (evaluateRepoPhase evidence strictHarness).passed := by
    rw [judged]
    rfl
  have source : ended.2.artifact.verdictSource =
      (evaluateRepoPhase evidence strictHarness).verdictSource := by
    rw [judged]
    rfl
  have tamper : (concluded settings answers ended).artifact.tamper =
      some (detectTamper evidence.returncode evidence.junit) := by
    rw [← suite_tampered evidence strictHarness]
    simp only [concluded, RepoResultProjection.finalize, judged]
    rfl
  have outcome : (concluded settings answers ended).artifact.outcome =
      (evaluateRepoPhase evidence strictHarness).outcome := by
    simp only [concluded, RepoResultProjection.finalize, judged]
    rfl
  have total : (concluded settings answers ended).artifact.testsTotal =
      some (evaluateRepoPhase evidence strictHarness).testsTotal := by
    simp only [concluded, RepoResultProjection.finalize, judged]
    rfl
  have proves (untampered : detectTamper evidence.returncode evidence.junit = false) :
      repoSuitePassEvidence record = ((evaluateRepoPhase evidence strictHarness).passed ||
        (evaluateRepoPhase evidence strictHarness).verdictSource == some .exitOnly) := by
    apply lone_suite_evidence record evidence strictHarness (emits.suite.trans unclaimed)
      (emits.required.trans optional) (emits.state.trans finished) (emits.ran.trans started)
    · exact emits.source.trans source
    · rw [emits.passed]
      simp only [concluded, RepoResultProjection.finalize, judged]
      rfl
    · exact emits.total.trans total
    · exact untampered
  rw [passed, source]
  constructor
  · rintro agrees ⟨failed, exitOnly⟩
    have absent : evidence.junit = none := by
      rcases repo_source_cases evidence strictHarness with missing | structured | silent
      · rw [missing] at exitOnly
        cases exitOnly
      · rw [structured.1] at exitOnly
        cases exitOnly
      · exact silent.2.1
    have untampered : detectTamper evidence.returncode evidence.junit = false := by
      simp [detectTamper, absent]
    have judgedFail := silent_failure_judged paths executed (concluded settings answers ended)
      evidence strictHarness failed exitOnly (passed.trans failed)
      (by simp only [concluded, RepoResultProjection.finalize, judged]; rfl) outcome total
      (by simp [tamper, untampered])
    have produced : producedSuite settings answers paths ended = (true, false) := by
      rw [produced_suite_eq settings answers paths executed ended, candidateSuite]
      have silentSuite : ((some (repoVerificationEvidenceFromArtifact
          (concluded settings answers ended).artifact)).map VerificationEvidence.repoSuite).getD {} =
          {} := unclaimed
      simp only [silentSuite, judgedFail]
      rfl
    rw [produced, proves untampered, exitOnly] at agrees
    simp at agrees
  · intro unlessSilent completed
    have judgement := suite.2 completed
    have untampered : detectTamper evidence.returncode evidence.junit = false := by
      have clean := judged_untampered paths executed _ judgement
      simpa [tamper] using clean
    rw [proves untampered, suite.1]
    cases ran : (evaluateRepoPhase evidence strictHarness).passed with
    | true =>
      have clean := (final_phase_passed_clean evidence none strictHarness ran).2
      have passing := (judgment_pass_iff paths (concluded settings answers ended)).mpr
        ⟨executed, by simp [tamper, untampered], Or.inl (outcome.trans clean), passed.trans ran⟩
      simp [passing]
    | false =>
      have other := unpassed_judgment settings answers paths ended (passed.trans ran)
      have graded : (evaluateRepoPhase evidence strictHarness).verdictSource ≠ some .exitOnly := by
        intro exitOnly
        exact unlessSilent ⟨ran, exitOnly⟩
      simp [other, graded]

end Suite

/-! Whole runs -/

/-- The candidate's own suite failed, and only its exit code says so. -/
def SilentFailure (verdict : RepoVerdict) : Prop :=
  verdict.passed = false ∧ verdict.artifact.verdictSource = some .exitOnly

instance (verdict : RepoVerdict) : Decidable (SilentFailure verdict) :=
  inferInstanceAs (Decidable (_ ∧ _))

theorem refused_not_silent (verdict : RepoVerdict) (refused : Refused verdict) :
    ¬ SilentFailure verdict := by
  intro silent
  rw [SilentFailure, refused.unsourced] at silent
  cases silent.2

theorem remainder_without_pack (record : Record) (passed total : Nat)
    (single : record.verdictSource ≠ some .compositeRepoPack) :
    compositeRemainder record passed total = true := by
  simp [compositeRemainder, single]

theorem composed_source (repo : CompletedRunEvidence) (pack : PackPhaseResult)
    (strictHarness : Bool) :
    (composeRepoAndPack (evaluateRepoPhase repo strictHarness) pack).verdictSource ≠
      some .exitOnly := by
  unfold composeRepoAndPack
  dsimp only
  split_ifs <;> simp

section Runs

variable (services : RepoServices) (settings : RepoSettings) (answers : RepoAnswers)
  (paths : PathFacts) (executed : paths.mayExecute = true) (policy : RepoPolicy)
  (configured : policy.packConfigured = settings.packConfigured)

include executed configured

/-- The verifier reads the suite of a finished run as the producer does, silent failures apart. -/
theorem reported_suite_agrees_iff (ended : RepoRunState × RepoVerdict) (record : Record)
    (emits : Emits policy (concluded settings answers ended) record)
    (reports : SuiteReport services settings ended.1 ended.2) :
    ((producedSuite settings answers paths ended).1 = true →
        repoSuitePassEvidence record = (producedSuite settings answers paths ended).2) ↔
      ¬ SilentFailure (concluded settings answers ended) := by
  cases reports with
  | unkept refused dropped =>
    have silent : (concluded settings answers ended).artifact.repoSuite = {} := by
      simp [concluded, RepoResultProjection.finalize, dropped, refused.silent]
    have proves := unsourced_proves_nothing record (emits.suite.trans silent)
      (emits.source.trans refused.unsourced)
    apply iff_of_true
    · intro _
      exact refused_suite_agrees settings answers paths executed ended record refused
        (by rw [silent]) proves
    · exact refused_not_silent ended.2 refused
  | kept run strictHarness refused packed held =>
    have suite : (concluded settings answers ended).artifact.repoSuite = repoSuitePhaseArtifact
        (interpretRepoSuite services.parseXml services.mapping.lower run strictHarness) := by
      simp [concluded, RepoResultProjection.finalize, held]
    have unsourced : record.verdictSource = none := emits.source.trans refused.unsourced
    apply iff_of_true
    · intro _
      apply kept_suite_agrees services settings answers paths executed policy ended record emits
        run strictHarness (configured.trans packed) (fun _ => refused.failed) suite
      exact remainder_without_pack record _ _ (by simp [unsourced])
    · exact refused_not_silent ended.2 refused
  | alone distill context run strictHarness unpacked dropped finished started judged =>
    exact lone_suite_agrees_iff settings answers paths executed policy ended record emits distill
      context _ strictHarness (configured.trans unpacked) dropped finished started judged
  | composed distill context run packRun strictHarness packed held judged =>
    have suite : (concluded settings answers ended).artifact.repoSuite = repoSuitePhaseArtifact
        (interpretRepoSuite services.parseXml services.mapping.lower run strictHarness) := by
      simp [concluded, RepoResultProjection.finalize, held]
    have unpassed (missing : (interpretRepoSuite services.parseXml services.mapping.lower run
        strictHarness).verdictSource = none) : ended.2.passed = false := by
      by_contra passing
      have whole : (composeRepoAndPack (interpretRepoSuite services.parseXml
          services.mapping.lower run strictHarness)
          (interpretRepoPack services.parseXml packRun)).passed = true := by
        rw [judged, Bool.not_eq_false] at passing
        exact passing
      simp only [composeRepoAndPack, Bool.and_eq_true] at whole
      have named := repo_phase_passed_source _ _ whole.1
      rw [← interpretRepoSuite, missing] at named
      cases named
    apply iff_of_true
    · intro _
      apply kept_suite_agrees services settings answers paths executed policy ended record emits
        run strictHarness (configured.trans packed) unpassed suite
      exact composed_remainder settings answers policy ended record emits distill context _ _
        judged
    · intro silent
      have source := silent.2
      simp only [concluded, RepoResultProjection.finalize, judged] at source
      exact composed_source _ _ _ source

end Runs

section Effects

variable (quoted : Text → Text) (shown : Rat → Text) (policy : RepoPolicy)
  (harnessInputs : List Text) (paths : PathFacts) (verdict : RepoVerdict)
  (coverage : CoverageEvidence) (run : BaselineRun) (packDirectory : Bool)

def MeasuresBaseline : Prop :=
  (policy.collectBaselineEvidence || policy.requireDemonstratedFix) = true ∧
    policy.isolation = .subprocess

/-- Every measured baseline of the outcome has the effect that the verifier expects. -/
def EffectAgrees (outcome : RepoFinalizationOutcome) : Prop :=
  ∀ baseline, outcome.baseline = some baseline → baseline.scope = .repoSuiteOnly →
    baseline.repairEffect = expectedEffect (repoRecord policy harnessInputs outcome)
      baseline.verdict

theorem effects_agree_iff (record : Record) (candidatePassed : Bool) :
    repairEffect run candidatePassed = expectedEffect record (some run.verdict) ↔
      (run.verdict = .fail → repoSuitePassEvidence record = candidatePassed) := by
  unfold repairEffect expectedEffect
  cases run.verdict <;> cases repoSuitePassEvidence record <;> cases candidatePassed <;> simp

theorem effect_agrees_when_measured_iff :
    let outcome := finalizeRepoVerification quoted shown policy paths verdict coverage run
      packDirectory
    let suite := candidateSuite (buildRepoJudgment paths verdict) (runEvidence paths verdict)
    EffectAgrees policy harnessInputs outcome ↔
      (MeasuresBaseline policy → suite.1 = true → run.verdict = .fail →
        repoSuitePassEvidence (repoRecord policy harnessInputs outcome) = suite.2) := by
  intro outcome suite
  have based : outcome.baseline = (baselineStep policy
      (coverageStep shown policy (buildRepoJudgment paths verdict) coverage).1 suite run).2 := rfl
  unfold EffectAgrees
  rw [based, baselineStep]
  split_ifs with measured unsupported
  · simp only [Bool.and_eq_true, beq_iff_eq] at measured
    have effects := effects_agree_iff run (repoRecord policy harnessInputs outcome) suite.2
    constructor
    · intro agrees _ _
      exact effects.mp (agrees _ rfl rfl)
    · intro expected baseline found _
      cases found
      exact effects.mpr (expected ⟨measured.1.1, measured.2⟩ measured.1.2)
  · simp only [Bool.and_eq_true, bne_iff_ne] at unsupported
    constructor
    · intro _ measures
      exact absurd measures.2 unsupported.2
    · intro _ baseline found scope
      cases found
      cases scope
  · constructor
    · intro _ measures completed
      simp [measures.1, measures.2, completed] at measured
    · intro _ baseline found
      cases found

/-- Producer and verifier agree on the repair effect of a run unless its judge measured a failing
baseline for a candidate whose suite failed by the exit code alone. -/
theorem repair_effect_agrees_iff (services : RepoServices) (settings : RepoSettings)
    (request : RepoCandidateAdmissionRequest) (answers : RepoAnswers)
    (verified : verifyRepo services settings request answers = .ok verdict)
    (configured : policy.packConfigured = settings.packConfigured) :
    EffectAgrees policy harnessInputs (finalizeRepoVerification quoted shown policy paths verdict
        coverage run packDirectory) ↔
      ¬ (paths.mayExecute = true ∧ MeasuresBaseline policy ∧ run.verdict = .fail ∧
        SilentFailure verdict) := by
  have measured := effect_agrees_when_measured_iff quoted shown policy harnessInputs paths verdict
    coverage run packDirectory
  apply measured.trans
  cases executed : paths.mayExecute with
  | false =>
    have decided := judgment_of_refused paths verdict executed
    have unread : (candidateSuite (buildRepoJudgment paths verdict)
        (runEvidence paths verdict)).1 = false := by
      simp only [List.mem_cons, Prod.mk.injEq, List.not_mem_nil, or_false] at decided
      rw [runEvidence, executed]
      rcases decided with decided | decided | decided <;>
        simp [candidateSuite, decided]
    simp [unread]
  | true =>
    rcases verify_repo_reports services settings answers request verdict verified with
      ⟨ended, conclusion, reports, _⟩
    subst conclusion
    have agrees := reported_suite_agrees_iff services settings answers paths executed policy
      configured ended _ (emitted_record quoted shown policy harnessInputs paths _ coverage run
        packDirectory executed) reports
    rw [producedSuite] at agrees
    constructor
    · rintro expected ⟨_, measures, failing, silent⟩
      apply agrees.mp _ silent
      intro completed
      exact expected measures completed failing
    · intro exempt measures completed failing
      apply agrees.mpr _ completed
      intro silent
      exact exempt ⟨rfl, measures, failing, silent⟩

end Effects

/-! A failing suite without a report beside a failing baseline -/

def makeSettings : RepoSettings :=
  { livenessSettings [] with
    command := ["make", "check"]
    structuredAdapter := false
    pytestCommand := false
    requireAssertLiveness := false }

/-- The suite exits with the given code and writes no report. -/
def silentAnswers (returncode : Int) : RepoAnswers :=
  { neuteredAnswers with suite := ⟨.finished true returncode [] [], false, none, none⟩ }

def baselinePolicy : RepoPolicy where
  isolation := .subprocess
  packConfigured := false
  setupCommandPresent := false
  collectDiffCoverage := false
  minDiffCoverage := none
  collectBaselineEvidence := true
  requireDemonstratedFix := false
  requireReportIntegrity := none
  requireCandidateIsolation := none
  measured := no_floor_measured _
  supported := packPolicy.supported

def failedBaseline : BaselineRun := ⟨.fail, none, none⟩

theorem returned_of_read {Value : Type} (result : Except RepoRunError RepoVerdict)
    (read : RepoVerdict → Value) (value : Value) (found : result.toOption.map read = some value) :
    ∃ verdict, result = .ok verdict ∧ read verdict = value := by
  cases result with
  | error problem => cases found
  | ok verdict =>
    cases found
    exact ⟨verdict, rfl, rfl⟩

theorem silent_pass_effect_agrees :
    ∃ verdict, verifyRepo plainServices makeSettings deletionRequest (silentAnswers 0) =
        .ok verdict ∧ verdict.passed = true ∧
      EffectAgrees baselinePolicy [] (finalizeRepoVerification id (fun _ => []) baselinePolicy
        deletionPaths verdict (.unmeasured none) failedBaseline false) := by
  have passed : (verifyRepo plainServices makeSettings deletionRequest
      (silentAnswers 0)).toOption.map VerdictResult.passed = some true := by decide +kernel
  rcases returned_of_read _ _ _ passed with ⟨verdict, verified, passes⟩
  have agrees := (repair_effect_agrees_iff id (fun _ => []) baselinePolicy [] deletionPaths verdict
    (.unmeasured none) failedBaseline false plainServices makeSettings deletionRequest
    (silentAnswers 0) verified rfl).mpr (by
      intro silent
      rw [SilentFailure, passes] at silent
      cases silent.2.2.2.1)
  exact ⟨verdict, verified, passes, agrees⟩

def silentOutcome (verdict : RepoVerdict) : RepoFinalizationOutcome :=
  finalizeRepoVerification id (fun _ => []) baselinePolicy deletionPaths verdict (.unmeasured none)
    failedBaseline false

/-- The baseline that is written, and the effect that the verifier expects of it. -/
def silentEffects (verdict : RepoVerdict) :
    Option (BaselineScope × Option BaselineVerdict × RepairEffect) × RepairEffect :=
  ((silentOutcome verdict).baseline.map fun baseline =>
      (baseline.scope, baseline.verdict, baseline.repairEffect),
    expectedEffect (repoRecord baselinePolicy [] (silentOutcome verdict)) (some .fail))

theorem silent_failure_read_as_repair :
    ∃ verdict, verifyRepo plainServices makeSettings deletionRequest (silentAnswers 1) =
        .ok verdict ∧
      silentEffects verdict =
        (some (.repoSuiteOnly, some .fail, .notDemonstrated), .demonstrated) ∧
      ¬ EffectAgrees baselinePolicy [] (silentOutcome verdict) := by
  have effects : (verifyRepo plainServices makeSettings deletionRequest
      (silentAnswers 1)).toOption.map silentEffects =
      some (some (.repoSuiteOnly, some .fail, .notDemonstrated), .demonstrated) := by
    decide +kernel
  rcases returned_of_read _ _ _ effects with ⟨verdict, verified, read⟩
  have written := (Prod.mk.injEq _ _ _ _).mp read
  rcases Option.map_eq_some_iff.mp written.1 with ⟨baseline, found, fields⟩
  simp only [Prod.mk.injEq] at fields
  have disagrees : ¬ EffectAgrees baselinePolicy [] (silentOutcome verdict) := by
    intro agrees
    have expected := agrees baseline found fields.1
    rw [fields.2.1, fields.2.2, written.2] at expected
    cases expected
  exact ⟨verdict, verified, read, disagrees⟩

end EvoomGuard.Application
