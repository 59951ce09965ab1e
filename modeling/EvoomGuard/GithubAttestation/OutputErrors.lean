import EvoomGuard.EvidenceBundle.CanonicalJson
import EvoomGuard.GithubAttestation.Output
import EvoomGuard.Lib.PathOrder

/-!
Which exceptions leave the interpretation of a provider's output: its own class, and the
`ValueError` of `int` on a run attempt with too many digits.
-/

namespace EvoomGuard.GithubAttestation

open EvidenceBundle Lib Lib.Checks Lib.Framing

inductive OutputError where
  | attestation (message : Text)
  | value
  deriving DecidableEq

/-- A step that raises nothing but `GitHubAttestationError`. -/
def own {Value : Type} (step : Except Text Value) : Except OutputError Value :=
  step.mapError .attestation

def maxIntDigits : Nat := 4300

/-- `int` of decimal digits. -/
def intOf (digits : Text) : Except OutputError Int :=
  if maxIntDigits < digits.length then .error .value else .ok (JsonCodec.natValue digits)

/-- What is read of an entry before the attempt of its run is converted. -/
structure CertifiedEntry where
  result : List (Text × Json)
  statement : List (Text × Json)
  signerUri : Text
  runUri : Text

/-- The checks of one loaded entry up to its run. -/
def certifyEntry (entry : List (Text × Json)) (policy : GitHubAttestationPolicy) :
    Except Text CertifiedEntry := do
  let result ← requiredMapping "verification result" "verificationResult" entry
  let signature ← requiredMapping "verification result" "signature" result
  let certificate ← requiredMapping "verification signature" "certificate" signature
  let statement ← requiredMapping "verification result" "statement" result
  let signerUri ← requiredString "verification certificate" "buildSignerURI" certificate
  refuse (signerUri ≠ signerBase policy ++ policy.signerDigest ∧
      signerUri ≠ signerBase policy ++ policy.sourceRef)
    ("GitHub attestation verifier output signer workflow URI does not match " ++
      "the expected workflow and signer digest/ref").toList
  requireCertificatePins certificate (certificatePins policy signerUri)
  let runUri ← requiredString "verification certificate" "runInvocationURI" certificate
  pure ⟨result, statement, signerUri, runUri⟩

/-- The run of the certificate: its attempt is converted once its repository is the policy's. -/
def convertRun (policy : GitHubAttestationPolicy) (expectedRun : Option (Text × Int))
    (runUri : Text) : Except OutputError VerifiedGitHubAttestationOutput := do
  match runInvocation runUri with
  | none => own (.error certificateRun.notCanonicalRun)
  | some (repository, run, attempt) => do
    own (refuse (repository ≠ policy.repository) certificateRun.notCanonicalRun)
    let number ← intOf attempt
    own (refuse (maxRunAttempt < number)
      ("GitHub attestation verifier output workflow run attempt is outside its " ++
        "range").toList)
    own (refuse (expectedRun.any fun expected => decide ((run, number) ≠ expected))
      ("GitHub attestation verifier output workflow run ID/attempt does not match " ++
        "the external expectation").toList)
    pure ⟨run, number⟩

/-- The checks behind the run. -/
def checkStatement (certified : CertifiedEntry) (subjectSha256 : Text) (subjectName : Option Text)
    (policy : GitHubAttestationPolicy) : Except Text Unit := do
  requireMatch "statement._type" certified.statement "_type" inTotoStatementType
  requireAttestationSubject certified.statement subjectSha256 subjectName
  requireMatch "statement predicateType" certified.statement "predicateType" predicateType
  requirePredicate policy certified.signerUri certified.runUri certified.statement
  let identity ← requiredMapping "verification result" "verifiedIdentity" certified.result
  requireMatch "verified identity runner environment" identity "runnerEnvironment"
    githubHostedRunner

section Interpretation

variable (host : EvidenceHost)

/-- What the expectations and the bytes give before the entry is looked into. -/
structure LoadedOutput where
  subjectSha256 : Text
  subjectName : Option Text
  policy : GitHubAttestationPolicy
  expectedRun : Option (Text × Int)
  entry : List (Text × Json)

def loadOutput (data : Bytes) (artifact : GitHubAttestationArtifact)
    (policy : GitHubAttestationPolicy) (runId : Option Text) (runAttempt : Option Int) :
    Except Text LoadedOutput := do
  let checked ← validateArtifact host "expected GitHub attestation artifact" artifact.asDict
  let (subjectSha256, subjectName) ← validatedSubject checked.sha256 none
  let policy ← validatePolicy host "expected GitHub attestation policy" policy.asDict
  let expectedRun ← validateExpectedWorkflowRun host runId runAttempt
  let entry ← loadAttestationOutput host data
  pure ⟨subjectSha256, subjectName, policy, expectedRun, entry⟩

/-- `validate_github_attestation_verifier_output`, with every exception it can let out. -/
def interpretOutput (data : Bytes) (artifact : GitHubAttestationArtifact)
    (policy : GitHubAttestationPolicy) (runId : Option Text) (runAttempt : Option Int) :
    Except OutputError VerifiedGitHubAttestationOutput := do
  let loaded ← own (loadOutput host data artifact policy runId runAttempt)
  let certified ← own (certifyEntry loaded.entry loaded.policy)
  let verified ← convertRun loaded.policy loaded.expectedRun certified.runUri
  own (checkStatement certified loaded.subjectSha256 loaded.subjectName loaded.policy)
  pure verified

end Interpretation

@[simp]
theorem own_ok {Value : Type} (step : Except Text Value) (value : Value) :
    own step = .ok value ↔ step = .ok value := by
  cases step <;> simp [own, Except.mapError]

theorem own_value {Value : Type} (step : Except Text Value) : own step ≠ .error .value := by
  cases step <;> simp [own, Except.mapError]

theorem bind_error {Problem Value Next : Type} (first : Except Problem Value)
    (next : Value → Except Problem Next) (problem : Problem) :
    (first >>= next) = .error problem ↔
      first = .error problem ∨ ∃ value, first = .ok value ∧ next value = .error problem := by
  cases first <;> simp [bind, Except.bind]

/-- The run is in the policy's repository and its attempt has more digits than `int` reads. -/
def OverlongAttempt (policy : GitHubAttestationPolicy) (runUri : Text) : Prop :=
  ∃ run attempt, runInvocation runUri = some (policy.repository, run, attempt) ∧
    maxIntDigits < attempt.length

theorem convert_run_value_iff (policy : GitHubAttestationPolicy)
    (expectedRun : Option (Text × Int)) (runUri : Text) :
    convertRun policy expectedRun runUri = .error .value ↔ OverlongAttempt policy runUri := by
  unfold convertRun OverlongAttempt
  cases found : runInvocation runUri with
  | none => simp [own_value]
  | some parts =>
    obtain ⟨repository, run, attempt⟩ := parts
    simp only [bind_error, own_value, own_ok, refuse_ok, not_not, false_or,
      Option.some.injEq, Prod.mk.injEq]
    constructor
    · rintro ⟨_, owned, raised | ⟨_, _, _, _, _, _, impossible⟩⟩
      · refine ⟨run, attempt, ⟨owned, rfl, rfl⟩, ?_⟩
        by_contra short
        rw [intOf, if_neg short] at raised
        cases raised
      · cases impossible
    · rintro ⟨_, _, ⟨owned, rfl, rfl⟩, long⟩
      exact ⟨(), owned, .inl (by rw [intOf, if_pos long])⟩

variable (host : EvidenceHost)

/-- Everything before the conversion is accepted, and the attempt is too long for it. -/
def ReachesOverlongAttempt (data : Bytes) (artifact : GitHubAttestationArtifact)
    (policy : GitHubAttestationPolicy) (runId : Option Text) (runAttempt : Option Int) : Prop :=
  ∃ loaded certified, loadOutput host data artifact policy runId runAttempt = .ok loaded ∧
    certifyEntry loaded.entry loaded.policy = .ok certified ∧
    OverlongAttempt loaded.policy certified.runUri

theorem interpret_value_iff (data : Bytes) (artifact : GitHubAttestationArtifact)
    (policy : GitHubAttestationPolicy) (runId : Option Text) (runAttempt : Option Int) :
    interpretOutput host data artifact policy runId runAttempt = .error .value ↔
      ReachesOverlongAttempt host data artifact policy runId runAttempt := by
  simp only [interpretOutput, ReachesOverlongAttempt, bind_error, own_value, own_ok, false_or,
    convert_run_value_iff]
  constructor
  · rintro ⟨loaded, load, certified, certify, overlong | ⟨_, _, _, _, impossible⟩⟩
    · exact ⟨loaded, certified, load, certify, overlong⟩
    · cases impossible
  · rintro ⟨loaded, certified, load, certify, overlong⟩
    exact ⟨loaded, load, certified, certify, .inl overlong⟩

/-- The certificate holds every pin of the policy, and its signer is the policy's workflow at the
policy's digest or reference. -/
def NamesPolicy (certificate : List (Text × Json)) (policy : GitHubAttestationPolicy) : Prop :=
  ∃ signerUri, certificate.lookup "buildSignerURI".toList = some (.string signerUri) ∧
    (signerUri = signerBase policy ++ policy.signerDigest ∨
      signerUri = signerBase policy ++ policy.sourceRef) ∧
    ∀ pin ∈ certificatePins policy signerUri,
      certificate.lookup pin.1.toList = some (.string pin.2)

def InvokedBy (statement : List (Text × Json)) (runUri : Text) : Prop :=
  ∃ predicate details metadata, statement.lookup "predicate".toList = some (.object predicate) ∧
    predicate.lookup "runDetails".toList = some (.object details) ∧
    details.lookup "metadata".toList = some (.object metadata) ∧
    metadata.lookup "invocationId".toList = some (.string runUri)

/-- The same policy, with its workflow spelled as `repository/path`. -/
structure SamePolicy (policy checked : GitHubAttestationPolicy) : Prop where
  repository : checked.repository = policy.repository
  signerWorkflow : ∃ path, matchWorkflow policy.signerWorkflow = some (policy.repository, path) ∧
    checked.signerWorkflow = policy.repository ++ '/' :: path
  signerDigest : checked.signerDigest = policy.signerDigest
  sourceRef : checked.sourceRef = policy.sourceRef
  sourceDigest : checked.sourceDigest = policy.sourceDigest
  certOidcIssuer : checked.certOidcIssuer = policy.certOidcIssuer

/-- An output is about the subject, the policy and the run that were expected, and the run that is
returned is the one of its certificate and of its predicate. -/
def ExactOutput (data : Bytes) (artifact : GitHubAttestationArtifact)
    (policy : GitHubAttestationPolicy) (runId : Option Text) (runAttempt : Option Int)
    (verified : VerifiedGitHubAttestationOutput) : Prop :=
  ∃ checked statement certificate runUri attempt, SamePolicy policy checked ∧
    SoleAttestation host data statement certificate ∧ NamesPolicy certificate checked ∧
    OnlySubject statement artifact.sha256 ∧
    certificate.lookup "runInvocationURI".toList = some (.string runUri) ∧
    InvokedBy statement runUri ∧
    runInvocation runUri = some (policy.repository, verified.workflowRunId, attempt) ∧
    (JsonCodec.natValue attempt : Int) = verified.workflowRunAttempt ∧
    (runId = none ∧ runAttempt = none ∨
      runId = some verified.workflowRunId ∧ runAttempt = some verified.workflowRunAttempt)

section Accepted

theorem certificate_pins_ok {certificate : List (Text × Json)} {pins : List (String × Text)}
    {answer : Unit} (ok : requireCertificatePins certificate pins = .ok answer) :
    ∀ pin ∈ pins, certificate.lookup pin.1.toList = some (.string pin.2) := by
  induction pins with
  | nil => exact fun pin inside => absurd inside List.not_mem_nil
  | cons pin rest ih =>
    obtain ⟨key, expected⟩ := pin
    simp only [requireCertificatePins, requireStringMatch, bind_ok, required_string_ok, refuse_ok,
      not_not] at ok
    obtain ⟨_, ⟨actual, read, same⟩, later⟩ := ok
    rw [List.forall_mem_cons]
    exact ⟨same ▸ read.1, ih later⟩

theorem certify_entry_ok {entry : List (Text × Json)} {policy : GitHubAttestationPolicy}
    {certified : CertifiedEntry} (ok : certifyEntry entry policy = .ok certified) :
    ∃ signature certificate,
      entry.lookup "verificationResult".toList = some (.object certified.result) ∧
      certified.result.lookup "statement".toList = some (.object certified.statement) ∧
      certified.result.lookup "signature".toList = some (.object signature) ∧
      signature.lookup "certificate".toList = some (.object certificate) ∧
      NamesPolicy certificate policy ∧
      certificate.lookup "runInvocationURI".toList = some (.string certified.runUri) := by
  simp only [certifyEntry, bind_ok, required_mapping_ok, required_string_ok, refuse_ok,
    pure_ok] at ok
  obtain ⟨result, inEntry, signature, signed, certificate, inSignature, statement, stated,
    signerUri, signer, _, allowed, _, pinned, runUri, run, same⟩ := ok
  subst same
  have either : signerUri = signerBase policy ++ policy.signerDigest ∨
      signerUri = signerBase policy ++ policy.sourceRef := by
    by_contra neither
    exact allowed (not_or.mp neither)
  exact ⟨signature, certificate, inEntry, stated, signed, inSignature,
    ⟨signerUri, signer.1, either, certificate_pins_ok pinned⟩, run.1⟩

theorem check_statement_ok {certified : CertifiedEntry} {sha256 : Text}
    {policy : GitHubAttestationPolicy} {answer : Unit}
    (ok : checkStatement certified sha256 none policy = .ok answer) :
    OnlySubject certified.statement sha256 ∧ InvokedBy certified.statement certified.runUri := by
  simp only [checkStatement, bind_ok] at ok
  obtain ⟨_, _, _, about, _, _, _, built, _⟩ := ok
  refine ⟨attestation_subject_ok about, ?_⟩
  simp only [requirePredicate, bind_ok, required_mapping_ok, requireMatch, refuse_ok,
    not_not] at built
  obtain ⟨predicate, stated, _, _, _, _, _, _, _, _, _, _, _, _, _, _, _, _, _, _, details,
    detailed, _, _, metadata, described, _, _, invoked⟩ := built
  exact ⟨predicate, details, metadata, stated, detailed, described, invoked⟩

theorem convert_run_ok {policy : GitHubAttestationPolicy} {expectedRun : Option (Text × Int)}
    {runUri : Text} {verified : VerifiedGitHubAttestationOutput}
    (ok : convertRun policy expectedRun runUri = .ok verified) :
    (∃ attempt, runInvocation runUri = some (policy.repository, verified.workflowRunId, attempt) ∧
      (JsonCodec.natValue attempt : Int) = verified.workflowRunAttempt) ∧
    ∀ expected, expectedRun = some expected →
      expected = (verified.workflowRunId, verified.workflowRunAttempt) := by
  unfold convertRun at ok
  cases found : runInvocation runUri with
  | none =>
    rw [found] at ok
    cases ok
  | some parts =>
    obtain ⟨repository, run, attempt⟩ := parts
    simp only [found, bind_ok, own_ok, refuse_ok, not_not, pure_ok] at ok
    obtain ⟨_, owned, number, converted, _, _, _, unlike, same⟩ := ok
    subst same owned
    have value : (JsonCodec.natValue attempt : Int) = number := by
      unfold intOf at converted
      split at converted
      · cases converted
      · exact Except.ok.inj converted
    refine ⟨⟨attempt, rfl, value⟩, ?_⟩
    rintro expected rfl
    simp only [Option.any_some, decide_eq_true_eq, not_not] at unlike
    exact unlike.symm

variable {host : EvidenceHost}

theorem expected_run_cases {runId : Option Text} {runAttempt : Option Int}
    {expected : Option (Text × Int)}
    (ok : validateExpectedWorkflowRun host runId runAttempt = .ok expected) :
    (runId = none ∧ runAttempt = none) ∨
      ∃ run attempt, runId = some run ∧ runAttempt = some attempt ∧
        expected = some (run, attempt) := by
  cases runId with
  | none =>
    cases runAttempt with
    | none => exact .inl ⟨rfl, rfl⟩
    | some attempt => cases ok
  | some run =>
    cases runAttempt with
    | none => cases ok
    | some attempt => exact .inr ⟨run, attempt, rfl, rfl, expected_run_ok ok⟩

theorem validate_policy_same {label : Text} {policy checked : GitHubAttestationPolicy}
    (ok : validatePolicy host label policy.asDict = .ok checked) : SamePolicy policy checked := by
  rw [validatePolicy, GitHubAttestationPolicy.asDict, policySchema.validate_object] at ok
  simp only [checkPolicy, githubAttestationPolicy, bind_ok, pure_ok] at ok
  obtain ⟨_, _, _, _, _, _, repository, owner, workflow, ran, signer, signed, ref, named, source,
    built, issuer, issued, same⟩ := ok
  subst same
  rw [validateRepository, text_that_ok] at owner
  rw [validateGitDigest, text_that_ok] at signed built
  simp only [validateSourceRef, validateCertOidcIssuer, bind_ok, text_that_ok, exact_text_ok,
    pure_ok] at named issued
  obtain ⟨_, text, _, _, rfl⟩ := named
  obtain ⟨_, given, rfl⟩ := issued
  have repositories := Json.string.inj owner.1
  refine ⟨repositories.symm, ?_, (Json.string.inj signed.1).symm, (Json.string.inj text.1).symm,
    (Json.string.inj built.1).symm, (Json.string.inj given).symm⟩
  simp only [validateSignerWorkflow, signerWorkflowText, bind_ok, text_that_ok] at ran
  obtain ⟨spelled, spelling, _, _, _, _, matched⟩ := ran
  rw [← Json.string.inj spelling.1] at matched
  split at matched
  · cases matched
  · next bound path found =>
      split at matched
      · cases matched
      · next same =>
          rw [not_not] at same
          subst same
          exact ⟨path, repositories.symm ▸ found, repositories.symm ▸ (Except.ok.inj matched).symm⟩

theorem interpret_output_exact {data : Bytes} {artifact : GitHubAttestationArtifact}
    {policy : GitHubAttestationPolicy} {runId : Option Text} {runAttempt : Option Int}
    {verified : VerifiedGitHubAttestationOutput}
    (ok : interpretOutput host data artifact policy runId runAttempt = .ok verified) :
    ExactOutput host data artifact policy runId runAttempt verified := by
  simp only [interpretOutput, bind_ok, own_ok, pure_ok] at ok
  obtain ⟨loaded, load, certified, certify, found, converted, _, stated, same⟩ := ok
  subst same
  simp only [loadOutput, validatedSubject, validateArtifact, bind_ok, pure_ok] at load
  obtain ⟨checked, accepted, ⟨sha256, name⟩, ⟨_, _, _, _, subject⟩, pinned, policed, expected, run,
    entry, read, made⟩ := load
  cases subject
  subst made
  have ofSubject : checked.sha256 = artifact.sha256 := by
    simp only [Digest.asDict, Schema.validate_object, checkArtifact, bind_ok, text_that_ok,
      pure_ok, Digest.value, Json.string.injEq] at accepted
    obtain ⟨_, text, _, _, whole⟩ := accepted
    rw [← whole, ← text.1]
  have samePolicy := validate_policy_same policed
  obtain ⟨signature, certificate, inEntry, inResult, signed, inSignature, names, runs⟩ :=
    certify_entry_ok certify
  obtain ⟨text, opened, whole⟩ := load_attestation_ok read
  obtain ⟨about, invoked⟩ := check_statement_ok stated
  obtain ⟨⟨attempt, uri, number⟩, expectation⟩ := convert_run_ok converted
  refine ⟨pinned, certified.statement, certificate, certified.runUri, attempt, samePolicy,
    ⟨text, entry, certified.result, signature, opened, whole, inEntry, inResult, signed,
      inSignature⟩, names, ofSubject ▸ about, runs, invoked, samePolicy.repository ▸ uri, number,
    ?_⟩
  obtain none | ⟨run, attempt, rfl, rfl, given⟩ := expected_run_cases run
  · exact .inl none
  · have both := expectation _ given
    simp only [Prod.mk.injEq] at both
    exact .inr ⟨congrArg some both.1, congrArg some both.2⟩

end Accepted

/-- The interpretation returns exact facts or raises its own class, except where an attempt that
`int` cannot read is reached. -/
theorem output_interpreted_iff (data : Bytes) (artifact : GitHubAttestationArtifact)
    (policy : GitHubAttestationPolicy) (runId : Option Text) (runAttempt : Option Int) :
    (interpretOutput host data artifact policy runId runAttempt ≠ .error .value ∧
      ∀ verified, interpretOutput host data artifact policy runId runAttempt = .ok verified →
        ExactOutput host data artifact policy runId runAttempt verified) ↔
      ¬ReachesOverlongAttempt host data artifact policy runId runAttempt := by
  rw [← interpret_value_iff]
  exact ⟨And.left, fun other => ⟨other, fun verified => interpret_output_exact⟩⟩

def plainHost : EvidenceHost where
  readFloat := fun _ => none
  floatText := fun _ => []
  isDecimal := Char.isDigit
  shown := fun _ => []
  decodeText := fun _ => []
  unicodeText := fun _ => []

def buildPolicy : GitHubAttestationPolicy where
  repository := "o/r"
  signerWorkflow := "o/r/.github/workflows/build.yml"
  signerDigest := List.replicate 40 'a'
  sourceRef := "refs/heads/main"
  sourceDigest := List.replicate 40 'b'
  certOidcIssuer := certOidcIssuer

def builtArtifact : GitHubAttestationArtifact := ⟨List.replicate 64 '0', 1⟩

def longAttempt : Text := List.replicate 4301 '1'

def runParts : List Text :=
  ["https:", [], "github.com", "o", "r", "actions",
    "runs", "7", "attempts", longAttempt]

def longRunUri : Text := Text.join ['/'] runParts

def buildSigner : Text := signerBase buildPolicy ++ buildPolicy.signerDigest

def longCertificate : List (Text × Json) :=
  ("buildSignerURI", .string buildSigner) ::
    ("runInvocationURI", .string longRunUri) ::
      (certificatePins buildPolicy buildSigner).map fun pin => (pin.1.toList, .string pin.2)

def longResult : List (Text × Json) :=
  [("signature", .object [("certificate", .object longCertificate)]),
    ("statement", .object [])]

def longEntry : List (Text × Json) := [("verificationResult", .object longResult)]

def longOutput : Bytes :=
  utf8 (JsonCodec.encode true plainHost.floatText (.array [.object longEntry]) ++ ['\n'])

theorem long_output_loaded : loadAttestationOutput plainHost longOutput = .ok longEntry := by
  have fit : Fit 256 (.array [.object longEntry]) := ⟨by decide +kernel, by decide +kernel⟩
  rw [loadAttestationOutput, bind_ok]
  refine ⟨.array [.object longEntry], ?_, rfl⟩
  rw [decodeOutput, longOutput, utf8_decode_encode]
  simp only [strict_loads_encoded plainHost fit]
  rfl

theorem long_run_uri : runInvocation longRunUri = some ("o/r".toList, "7".toList, longAttempt) := by
  have digits : isPositiveDecimal longAttempt = true := by
    rw [isPositiveDecimal, longAttempt, List.all_replicate]
    rfl
  have free : ∀ part ∈ runParts, '/' ∉ part := by
    have last : '/' ∉ longAttempt := fun inside => by
      cases List.eq_of_mem_replicate inside
    simp only [runParts, List.forall_mem_cons]
    refine ⟨by decide, by decide, by decide, by decide, by decide, by decide, by decide,
      by decide, by decide, last, fun _ inside => absurd inside List.not_mem_nil⟩
  have parts : Text.split '/' longRunUri = runParts := Text.split_join '/' runParts (by decide) free
  rw [runInvocation, parts]
  simp only [runParts, digits]
  rfl

theorem long_entry_certified :
    certifyEntry longEntry buildPolicy = .ok ⟨longResult, [], buildSigner, longRunUri⟩ := rfl

theorem build_policy_valid :
    validatePolicy plainHost "expected GitHub attestation policy" buildPolicy.asDict =
      .ok buildPolicy := rfl

theorem long_output_reached :
    ReachesOverlongAttempt plainHost longOutput builtArtifact buildPolicy none none := by
  refine ⟨⟨builtArtifact.sha256, none, buildPolicy, none, longEntry⟩,
    ⟨longResult, [], buildSigner, longRunUri⟩, ?_, long_entry_certified, "7", longAttempt,
    long_run_uri, ?_⟩
  · simp only [loadOutput, bind_ok, long_output_loaded]
    exact ⟨builtArtifact, rfl, (builtArtifact.sha256, none), rfl, buildPolicy, build_policy_valid,
      none, rfl, _, rfl, rfl⟩
  · rw [longAttempt, List.length_replicate]
    decide

/-- The `ValueError` of `int` leaves the interpretation of an output that is otherwise well formed
up to its run. -/
theorem long_attempt_escapes :
    ¬∀ (host : EvidenceHost) (data : Bytes) (artifact : GitHubAttestationArtifact)
      (policy : GitHubAttestationPolicy) (runId : Option Text) (runAttempt : Option Int),
      interpretOutput host data artifact policy runId runAttempt ≠ .error .value ∧
        ∀ verified, interpretOutput host data artifact policy runId runAttempt = .ok verified →
          ExactOutput host data artifact policy runId runAttempt verified := by
  intro every
  have raised := (interpret_value_iff plainHost longOutput builtArtifact buildPolicy none none).mpr
    long_output_reached
  exact (every plainHost longOutput builtArtifact buildPolicy none none).1 raised

end EvoomGuard.GithubAttestation
