import EvoomGuard.EvidenceBundle.Primitives
import EvoomGuard.Lib.JsonEquality

/-!
What is checked about one successful `gh attestation verify`: the policy it ran under and the raw
JSON result, bound to one subject and to one workflow run. An error is the text that is raised.
-/

namespace EvoomGuard.GithubAttestation

open EvidenceBundle Lib Lib.Checks Lib.Framing

/-! The names of repositories, workflows, references and runs -/

def isNameCharacter (character : Char) : Bool :=
  character.isAlphanum || ['_', '.', '-'].contains character

/-- `[A-Za-z0-9_.-]+`. -/
def isNamePart (text : Text) : Bool := !text.isEmpty && text.all isNameCharacter

/-- `_REPOSITORY`. -/
def isRepository (text : Text) : Bool :=
  match Text.split '/' text with
  | [owner, name] => isNamePart owner && isNamePart name
  | _ => false

/-- `[A-Za-z0-9][A-Za-z0-9_.-]*\.ya?ml`. -/
def isWorkflowFile (text : Text) : Bool :=
  text.all isNameCharacter && text.head?.any Char.isAlphanum &&
    (Text.endsWith text ".yml" || Text.endsWith text ".yaml")

/-- `_WORKFLOW_PATH` of the modules that name a workflow without its repository. -/
def isWorkflowPath (text : Text) : Bool :=
  match Text.split '/' text with
  | [github, workflows, file] =>
    github == ".github" && workflows == "workflows" && isWorkflowFile file
  | _ => false

/-- The repository and the path of `owner/name/.github/workflows/file`. -/
def workflowParts : List Text → Option (Text × Text)
  | [owner, name, github, workflows, file] =>
    if isNamePart owner && isNamePart name && github == ".github" &&
        workflows == "workflows" && isWorkflowFile file then
      some (owner ++ '/' :: name, ".github/workflows/" ++ file)
    else none
  | _ => none

/-- The path itself, with the host before it, or as a URL. -/
def matchWorkflow (value : Text) : Option (Text × Text) :=
  let parts := Text.split '/' value
  if parts.take 3 = ["https:".toList, [], "github.com".toList] then workflowParts (parts.drop 3)
  else if parts.length = 6 ∧ parts.head? = some "github.com".toList then
    workflowParts (parts.drop 1)
  else workflowParts parts

/-- `[1-9][0-9]*`. -/
def isPositiveDecimal (text : Text) : Bool :=
  text.all Char.isDigit && text.head?.any (· != '0')

/-- The groups of `_RUN_INVOCATION_URI`. -/
def runInvocation (uri : Text) : Option (Text × Text × Text) :=
  match Text.split '/' uri with
  | [scheme, empty, domain, owner, name, actions, runs, run, attempts, attempt] =>
    if scheme == "https:" && empty.isEmpty && domain == "github.com" &&
        isNamePart owner && isNamePart name && actions == "actions" &&
        runs == "runs" && isPositiveDecimal run && attempts == "attempts" &&
        isPositiveDecimal attempt then
      some (owner ++ '/' :: name, run, attempt)
    else none
  | _ => none

/-- `_SOURCE_REF`. -/
def isSourceRef (text : Text) : Bool :=
  let suffix := text.drop 5
  Text.startsWith text "refs/".toList &&
    (["heads/".toList, "tags/".toList].any fun kind =>
      Text.startsWith suffix kind && (suffix.drop kind.length).head?.any Char.isAlphanum &&
        (suffix.drop kind.length).all fun character =>
          isNameCharacter character || character == '/')

def removePrefix (text head : Text) : Text :=
  if Text.startsWith text head then text.drop head.length else text

/-! The policy -/

def predicateType : Text := "https://slsa.dev/provenance/v1"

def certOidcIssuer : Text := "https://token.actions.githubusercontent.com"

structure GitHubAttestationPolicy where
  repository : Text
  signerWorkflow : Text
  signerDigest : Text
  sourceRef : Text
  sourceDigest : Text
  certOidcIssuer : Text
  deriving DecidableEq

inductive PolicyKey where
  | repository
  | signerWorkflow
  | signerDigest
  | sourceRef
  | sourceDigest
  | certOidcIssuer
  | predicateType
  | denySelfHostedRunners
  | attestationLimit
  deriving DecidableEq

def PolicyKey.text : PolicyKey → Text
  | .repository => "repository"
  | .signerWorkflow => "signer_workflow"
  | .signerDigest => "signer_digest"
  | .sourceRef => "source_ref"
  | .sourceDigest => "source_digest"
  | .certOidcIssuer => "cert_oidc_issuer"
  | .predicateType => "predicate_type"
  | .denySelfHostedRunners => "deny_self_hosted_runners"
  | .attestationLimit => "attestation_limit"

def policySchema : Schema PolicyKey where
  keys := [.repository, .signerWorkflow, .signerDigest, .sourceRef, .sourceDigest,
    .certOidcIssuer, .predicateType, .denySelfHostedRunners, .attestationLimit]
  name := PolicyKey.text

def GitHubAttestationPolicy.value (policy : GitHubAttestationPolicy) : PolicyKey → Json
  | .repository => .string policy.repository
  | .signerWorkflow => .string policy.signerWorkflow
  | .signerDigest => .string policy.signerDigest
  | .sourceRef => .string policy.sourceRef
  | .sourceDigest => .string policy.sourceDigest
  | .certOidcIssuer => .string policy.certOidcIssuer
  | .predicateType => .string GithubAttestation.predicateType
  | .denySelfHostedRunners => .bool true
  | .attestationLimit => .int 1

def GitHubAttestationPolicy.asDict (policy : GitHubAttestationPolicy) : List (Text × Json) :=
  policySchema.object policy.value

def validateRepository : Json → Except Text Text :=
  textThat (fun value => decide (value.length ≤ 256) && isRepository value)
    ("GitHub attestation repository must be canonical owner/repository ASCII " ++ "text").toList

def signerWorkflowText : Json → Except Text Text :=
  textThat (fun value => !value.isEmpty && decide (value.length ≤ 512))
    ("GitHub attestation signer workflow must be a non-empty string of at most 512 " ++
      "characters").toList

/-- The accepted spellings of a workflow all become `repository/path`. -/
def validateSignerWorkflow (repository : Text) (value : Json) : Except Text Text := do
  let text ← signerWorkflowText value
  refuse (text.any fun character => decide (127 < character.toNat))
    "GitHub attestation signer workflow must be ASCII"
  refuse (text.any fun character => decide (character.toNat ≤ 0x20 ∨ character.toNat = 0x7F))
    "GitHub attestation signer workflow must not contain whitespace or controls"
  match matchWorkflow text with
  | none =>
    .error ("GitHub attestation signer workflow must be a canonical GitHub path or URL " ++
      "to .github/workflows/<file>.yml or .yaml").toList
  | some (named, path) =>
    if named ≠ repository then
      .error ("GitHub attestation signer workflow must be bound to the exact verification " ++
        "repository").toList
    else .ok (named ++ '/' :: path)

def validateGitDigest (label : String) : Json → Except Text Text :=
  textThat isGitDigest ("GitHub attestation " ++ label.toList ++
    " must be an exact lowercase 40- or 64-hex Git digest")

def validateSourceRef (value : Json) : Except Text Text := do
  let text ← textThat isSourceRef
    ("GitHub attestation source ref must be a canonical refs/heads/... or refs/tags/... " ++
      "value").toList value
  let suffix := removePrefix (removePrefix text "refs/heads/") "refs/tags/"
  refuse ((suffix.tails.any fun rest => Text.startsWith rest "//") || Text.endsWith suffix "/" ||
      (Text.split '/' suffix).any fun part => part == ['.'] || part == ['.', '.'])
    ("GitHub attestation source ref must not contain empty, dot, or dot-dot path " ++
      "segments").toList
  pure text

def validateCertOidcIssuer (value : Json) : Except Text Text := do
  exactText certOidcIssuer ("GitHub attestation certificate OIDC issuer must be '" ++
    certOidcIssuer ++ "'") value
  pure certOidcIssuer

def githubAttestationPolicy (repository signerWorkflow sourceDigest signerDigest sourceRef
    issuer : Json) : Except Text GitHubAttestationPolicy := do
  let repository ← validateRepository repository
  let signerWorkflow ← validateSignerWorkflow repository signerWorkflow
  let signerDigest ← validateGitDigest "signer digest" signerDigest
  let sourceRef ← validateSourceRef sourceRef
  let sourceDigest ← validateGitDigest "source digest" sourceDigest
  let issuer ← validateCertOidcIssuer issuer
  pure ⟨repository, signerWorkflow, signerDigest, sourceRef, sourceDigest, issuer⟩

def checkPolicy (label : Text) (get : PolicyKey → Json) : Except Text GitHubAttestationPolicy := do
  exactText predicateType (label ++ ".predicate_type is unsupported") (get .predicateType)
  refuse (get .denySelfHostedRunners ≠ .bool true)
    (label ++ ".deny_self_hosted_runners must be true")
  refuse ((get .attestationLimit).alike (.int 1) = false)
    (label ++ ".attestation_limit must be 1")
  githubAttestationPolicy (get .repository) (get .signerWorkflow) (get .sourceDigest)
    (get .signerDigest) (get .sourceRef) (get .certOidcIssuer)

/-! The subject -/

def maxArtifactFileBytes : Int := 4 * 1024 * 1024 * 1024

abbrev GitHubAttestationArtifact := Digest

def checkArtifact (label : Text) (get : DigestKey → Json) :
    Except Text GitHubAttestationArtifact := do
  let sha256 ← textThat Sha256.isHex64
    (label ++ ".sha256 must be a lowercase SHA-256 digest") (get .sha256)
  let size ← intWithin 0 maxArtifactFileBytes
    (label ++ ".size must be an integer from 0 through 4294967296") (get .size)
  pure ⟨sha256, size⟩

variable (host : EvidenceHost)

def validateArtifact (label : Text) (fields : List (Text × Json)) :
    Except Text GitHubAttestationArtifact :=
  digestSchema.validate host.shownList label (checkArtifact label) fields

def validatePolicy (label : Text) (fields : List (Text × Json)) :
    Except Text GitHubAttestationPolicy :=
  policySchema.validate host.shownList label (checkPolicy label) fields

/-! The raw result -/

def requiredMapping (label key : String) (fields : List (Text × Json)) :
    Except Text (List (Text × Json)) :=
  match fields.lookup key.toList with
  | some (.object child) => .ok child
  | _ => .error (label.toList ++ '.' :: key.toList ++ " must be an object")

def requiredString (label key : String) (fields : List (Text × Json)) : Except Text Text :=
  match fields.lookup key.toList with
  | some (.string child) =>
    if child.isEmpty then
      .error (label.toList ++ '.' :: key.toList ++ " must be a non-empty string")
    else .ok child
  | _ => .error (label.toList ++ '.' :: key.toList ++ " must be a non-empty string")

/-- `_require_semantic_match` of a field that may be of any type. -/
def requireMatch (label : String) (fields : List (Text × Json)) (key : String) (expected : Text) :
    Except Text Unit :=
  refuse (fields.lookup key.toList ≠ some (.string expected))
    ("GitHub attestation verifier output " ++ label.toList ++
      " does not match the expected policy")

/-- The same of a field that must be a non-empty string first. -/
def requireStringMatch (label shown : String) (fields : List (Text × Json)) (key : String)
    (expected : Text) : Except Text Unit := do
  let actual ← requiredString label key fields
  refuse (actual ≠ expected)
    ("GitHub attestation verifier output " ++ shown.toList ++
      " does not match the expected policy")

def decodeOutput (data : Bytes) : Except Text Json :=
  match utf8Decode data with
  | none => .error ("GitHub attestation verifier output is not strict UTF-8 JSON: " ++
      host.unicodeText data)
  | some text =>
    (strictJsonLoads host text).mapError fun problem =>
      "GitHub attestation verifier output is not strict UTF-8 JSON: " ++ problem

/-- The one entry of a result, which must hold a statement. -/
def soleEntry : Json → Except Text (List (Text × Json))
  | .array [.object entry] =>
    match entry.lookup "verificationResult".toList with
    | some (.object result) =>
      match result.lookup "statement".toList with
      | some (.object _) => .ok entry
      | _ => .error ("GitHub attestation verificationResult must contain a statement " ++
          "object").toList
    | _ => .error ("GitHub attestation verifier output entry must contain " ++
        "verificationResult").toList
  | .array [_] => .error "GitHub attestation verifier output entry must be an object"
  | _ => .error ("GitHub attestation verifier output must contain exactly one verified " ++
      "attestation").toList

def loadAttestationOutput (data : Bytes) : Except Text (List (Text × Json)) := do
  let decoded ← decodeOutput host data
  soleEntry decoded

def maxRunAttempt : Int := 2147483647

def validateExpectedWorkflowRun : Option Text → Option Int → Except Text (Option (Text × Int))
  | none, none => .ok none
  | some run, some attempt => do
      refuse (run = [] ∨ run.all host.isDecimal = false ∨ run.head? = some '0' ∨ 256 < run.length)
        "expected workflow run ID must be a non-zero decimal string"
      refuse (¬(1 ≤ attempt ∧ attempt ≤ maxRunAttempt))
        ("expected workflow run attempt must be an integer from 1 through 2147483647").toList
      pure (some (run, attempt))
  | _, _ => .error "expected workflow run ID and attempt must be supplied together"

/-- `_validated_subject_expectation`. -/
def validatedSubject (subjectSha256 : Text) (subjectName : Option Text) :
    Except Text (Text × Option Text) := do
  refuse (Sha256.isHex64 subjectSha256 = false)
    ("expected GitHub attestation subject SHA-256 must be 64 lowercase hex " ++
      "characters").toList
  refuse (subjectName.any fun name => name.isEmpty || decide (4096 < name.length) ||
      name.any fun character => decide (character.toNat < 0x21 ∨ 0x7E < character.toNat))
    "expected GitHub attestation subject name must be bounded visible ASCII"
  pure (subjectSha256, subjectName)

def requireSubjectName (subject : List (Text × Json)) : Option Text → Except Text Unit
  | none => pure ()
  | some name => requireStringMatch "statement subject" "statement subject name" subject "name" name

def requireAttestationSubject (statement : List (Text × Json)) (subjectSha256 : Text)
    (subjectName : Option Text) : Except Text Unit :=
  match statement.lookup "subject".toList with
  | some (.array [.object subject]) => do
      requireSubjectName subject subjectName
      let digest ← requiredMapping "statement subject" "digest" subject
      requireStringMatch "statement subject digest" "statement subject SHA-256" digest "sha256"
        subjectSha256
  | some (.array [_]) =>
    .error "GitHub attestation verifier output statement subject must be an object"
  | _ => .error ("GitHub attestation verifier output statement must contain exactly one " ++
      "subject").toList

def githubHostedRunner : Text := "github-hosted"

def repositoryUrl (policy : GitHubAttestationPolicy) : Text :=
  "https://github.com/" ++ policy.repository

def signerBase (policy : GitHubAttestationPolicy) : Text :=
  "https://github.com/" ++ policy.signerWorkflow ++ ['@']

/-- The certificate fields with the text each must hold. -/
def certificatePins (policy : GitHubAttestationPolicy) (signerUri : Text) : List (String × Text) :=
  [("subjectAlternativeName", signerUri),
    ("issuer", policy.certOidcIssuer),
    ("githubWorkflowRepository", policy.repository),
    ("githubWorkflowSHA", policy.sourceDigest),
    ("githubWorkflowRef", policy.sourceRef),
    ("buildSignerDigest", policy.signerDigest),
    ("runnerEnvironment", githubHostedRunner),
    ("sourceRepositoryURI", repositoryUrl policy),
    ("sourceRepositoryDigest", policy.sourceDigest),
    ("sourceRepositoryRef", policy.sourceRef)]

def requireCertificatePins (certificate : List (Text × Json)) :
    List (String × Text) → Except Text Unit
  | [] => pure ()
  | (key, expected) :: rest => do
      requireStringMatch "verification certificate" ("certificate." ++ key) certificate key expected
      requireCertificatePins certificate rest

structure VerifiedGitHubAttestationOutput where
  workflowRunId : Text
  workflowRunAttempt : Int
  deriving DecidableEq

def certificateRun (policy : GitHubAttestationPolicy) (expectedRun : Option (Text × Int))
    (runUri : Text) : Except Text VerifiedGitHubAttestationOutput := do
  match runInvocation runUri with
  | none => .error notCanonicalRun
  | some (repository, run, attempt) => do
      refuse (repository ≠ policy.repository) notCanonicalRun
      let number : Int := JsonCodec.natValue attempt
      refuse (maxRunAttempt < number)
        ("GitHub attestation verifier output workflow run attempt is outside its " ++
          "range").toList
      refuse (expectedRun.any fun expected => decide ((run, number) ≠ expected))
        ("GitHub attestation verifier output workflow run ID/attempt does not match " ++
          "the external expectation").toList
      pure ⟨run, number⟩
where
  notCanonicalRun : Text :=
    ("GitHub attestation verifier output runInvocationURI is not a canonical " ++
      "workflow run in the expected repository").toList

def isSourceDependency (policy : GitHubAttestationPolicy) : Json → Bool
  | .object dependency =>
    dependency.lookup "uri".toList == some (.string ("git+".toList ++ repositoryUrl policy ++
        '@' :: policy.sourceRef)) &&
      match dependency.lookup "digest".toList with
      | some (.object digest) =>
        digest.lookup "gitCommit".toList == some (.string policy.sourceDigest)
      | _ => false
  | _ => false

def requireSourceDependency (policy : GitHubAttestationPolicy) (definition : List (Text × Json)) :
    Except Text Unit :=
  refuse ((match definition.lookup "resolvedDependencies".toList with
      | some (.array dependencies) => dependencies.any (isSourceDependency policy)
      | _ => false) = false)
    ("GitHub attestation verifier output has no resolved dependency for the " ++
      "expected source repository/ref/digest").toList

/-- The signed predicate: the workflow it names, where it ran, what it was built from, by whom. -/
def requirePredicate (policy : GitHubAttestationPolicy) (signerUri runUri : Text)
    (statement : List (Text × Json)) : Except Text Unit := do
  let predicate ← requiredMapping "statement" "predicate" statement
  let definition ← requiredMapping "predicate" "buildDefinition" predicate
  let external ← requiredMapping "predicate buildDefinition" "externalParameters" definition
  let workflow ← requiredMapping "predicate externalParameters" "workflow" external
  requireMatch "predicate workflow repository" workflow "repository" (repositoryUrl policy)
  requireMatch "predicate workflow ref" workflow "ref" policy.sourceRef
  let inner ← requiredMapping "predicate buildDefinition" "internalParameters" definition
  let github ← requiredMapping "predicate internalParameters" "github" inner
  requireMatch "predicate runner environment" github "runner_environment" githubHostedRunner
  requireSourceDependency policy definition
  let details ← requiredMapping "predicate" "runDetails" predicate
  let builder ← requiredMapping "predicate runDetails" "builder" details
  let metadata ← requiredMapping "predicate runDetails" "metadata" details
  requireMatch "predicate builder identity" builder "id" signerUri
  requireMatch "predicate invocation URI" metadata "invocationId" runUri

def inTotoStatementType : Text := "https://in-toto.io/Statement/v1"

def checkOutputEntry (entry : List (Text × Json)) (subjectSha256 : Text)
    (subjectName : Option Text) (policy : GitHubAttestationPolicy)
    (expectedRun : Option (Text × Int)) : Except Text VerifiedGitHubAttestationOutput := do
  let result ← requiredMapping "verification result" "verificationResult" entry
  let signature ← requiredMapping "verification result" "signature" result
  let certificate ← requiredMapping "verification signature" "certificate" signature
  let statement ← requiredMapping "verification result" "statement" result
  let signerUri ← requiredString "verification certificate" "buildSignerURI" certificate
  refuse (signerUri ≠ signerBase policy ++ policy.signerDigest ∧
      signerUri ≠ signerBase policy ++ policy.sourceRef)
    ("GitHub attestation verifier output signer workflow URI does not match " ++
      "the expected workflow and signer digest/ref").toList
  requireCertificatePins certificate (certificatePins policy signerUri)
  let runUri ← requiredString "verification certificate" "runInvocationURI" certificate
  let verified ← certificateRun policy expectedRun runUri
  requireMatch "statement._type" statement "_type" inTotoStatementType
  requireAttestationSubject statement subjectSha256 subjectName
  requireMatch "statement predicateType" statement "predicateType" predicateType
  requirePredicate policy signerUri runUri statement
  let identity ← requiredMapping "verification result" "verifiedIdentity" result
  requireMatch "verified identity runner environment" identity "runnerEnvironment"
    githubHostedRunner
  pure verified

/-- `_validate_github_attestation_verifier_output_subject`. -/
def validateOutputSubject (data : Bytes) (subjectSha256 : Text) (subjectName : Option Text)
    (policy : GitHubAttestationPolicy) (runId : Option Text) (runAttempt : Option Int) :
    Except Text VerifiedGitHubAttestationOutput := do
  let checked ← validatePolicy host "expected GitHub attestation policy" policy.asDict
  let expectedRun ← validateExpectedWorkflowRun host runId runAttempt
  let entry ← loadAttestationOutput host data
  checkOutputEntry entry subjectSha256 subjectName checked expectedRun

/-- `validate_github_attestation_verifier_output`. -/
def validateVerifierOutput (data : Bytes) (artifact : GitHubAttestationArtifact)
    (policy : GitHubAttestationPolicy) (runId : Option Text) (runAttempt : Option Int) :
    Except Text VerifiedGitHubAttestationOutput := do
  let checked ← validateArtifact host "expected GitHub attestation artifact" artifact.asDict
  let (subjectSha256, subjectName) ← validatedSubject checked.sha256 none
  validateOutputSubject host data subjectSha256 subjectName policy runId runAttempt

/-! What an accepted result says -/

@[simp]
theorem required_mapping_ok (label key : String) (fields child : List (Text × Json)) :
    requiredMapping label key fields = .ok child ↔
      fields.lookup key.toList = some (.object child) := by
  unfold requiredMapping
  split
  · next found same => simp [same]
  · next other =>
      constructor
      · intro impossible
        cases impossible
      · intro same
        exact absurd same (other child)

@[simp]
theorem required_string_ok (label key : String) (fields : List (Text × Json)) (child : Text) :
    requiredString label key fields = .ok child ↔
      fields.lookup key.toList = some (.string child) ∧ child.isEmpty = false := by
  unfold requiredString
  split
  · next found same =>
      rw [same]
      by_cases empty : found.isEmpty = true
      · rw [if_pos empty]
        simp only [reduceCtorEq, Option.some.injEq, Json.string.injEq, false_iff]
        intro both
        rw [both.1, both.2] at empty
        cases empty
      · rw [if_neg empty, Except.ok.injEq]
        rw [Bool.not_eq_true] at empty
        constructor
        · intro equal
          exact ⟨by rw [equal], equal ▸ empty⟩
        · intro both
          exact Json.string.inj (Option.some.inj both.1)
  · next other =>
      constructor
      · intro impossible
        cases impossible
      · intro both
        exact absurd both.1 (other child)

/-- The fields of the one attestation in a raw result. -/
structure SoleAttestation (host : EvidenceHost) (data : Bytes)
    (statement certificate : List (Text × Json)) : Prop where
  decoded : ∃ text entry result signature, utf8Decode data = some text ∧
    strictJsonLoads host text = .ok (.array [.object entry]) ∧
    entry.lookup "verificationResult".toList = some (.object result) ∧
    result.lookup "statement".toList = some (.object statement) ∧
    result.lookup "signature".toList = some (.object signature) ∧
    signature.lookup "certificate".toList = some (.object certificate)

/-- A statement about exactly one subject, with this digest. -/
def OnlySubject (statement : List (Text × Json)) (sha256 : Text) : Prop :=
  ∃ subject digest, statement.lookup "subject".toList = some (.array [.object subject]) ∧
    subject.lookup "digest".toList = some (.object digest) ∧
    digest.lookup "sha256".toList = some (.string sha256)

/-- A certificate of exactly this run of a workflow of the repository. -/
def ExactRun (certificate : List (Text × Json)) (repository runId : Text) (runAttempt : Int) :
    Prop :=
  ∃ uri attempt, certificate.lookup "runInvocationURI".toList = some (.string uri) ∧
    runInvocation uri = some (repository, runId, attempt) ∧
    (JsonCodec.natValue attempt : Int) = runAttempt

/-- The raw result of one run of a workflow over one subject. -/
def Attests (host : EvidenceHost) (data : Bytes) (sha256 repository runId : Text)
    (runAttempt : Int) : Prop :=
  ∃ statement certificate, SoleAttestation host data statement certificate ∧
    OnlySubject statement sha256 ∧ ExactRun certificate repository runId runAttempt

section Accepted

variable {host : EvidenceHost}

theorem sole_entry_ok {value : Json} {entry : List (Text × Json)}
    (ok : soleEntry value = .ok entry) : value = .array [.object entry] := by
  unfold soleEntry at ok
  split at ok
  · split at ok
    · split at ok
      · cases ok
        rfl
      · cases ok
    · cases ok
  · cases ok
  · cases ok

theorem load_attestation_ok {data : Bytes} {entry : List (Text × Json)}
    (ok : loadAttestationOutput host data = .ok entry) :
    ∃ text, utf8Decode data = some text ∧
      strictJsonLoads host text = .ok (.array [.object entry]) := by
  simp only [loadAttestationOutput, bind_ok] at ok
  obtain ⟨decoded, read, found⟩ := ok
  have whole := sole_entry_ok found
  subst whole
  unfold decodeOutput at read
  split at read
  · cases read
  · next text opened =>
      refine ⟨text, opened, ?_⟩
      cases loaded : strictJsonLoads host text with
      | error problem =>
        rw [loaded] at read
        cases read
      | ok value =>
        rw [loaded] at read
        cases read
        rfl

theorem attestation_subject_ok {statement : List (Text × Json)} {sha256 : Text} {answer : Unit}
    (ok : requireAttestationSubject statement sha256 none = .ok answer) :
    OnlySubject statement sha256 := by
  unfold requireAttestationSubject at ok
  split at ok
  · next subject listed =>
      simp only [requireSubjectName, bind_ok, required_mapping_ok, requireStringMatch,
        required_string_ok, refuse_ok, not_not] at ok
      obtain ⟨_, _, digest, inside, found, both, same⟩ := ok
      exact ⟨subject, digest, listed, inside, same ▸ both.1⟩
  · cases ok
  · cases ok

theorem certificate_run_ok {policy : GitHubAttestationPolicy} {runId : Text} {runAttempt : Int}
    {uri : Text} {verified : VerifiedGitHubAttestationOutput}
    (ok : certificateRun policy (some (runId, runAttempt)) uri = .ok verified) :
    verified = ⟨runId, runAttempt⟩ ∧ ∃ attempt,
      runInvocation uri = some (policy.repository, runId, attempt) ∧
        (JsonCodec.natValue attempt : Int) = runAttempt := by
  unfold certificateRun at ok
  split at ok
  · cases ok
  · next repository run attempt named =>
      simp only [bind_ok, refuse_ok, not_not, pure_ok] at ok
      obtain ⟨_, owned, _, _, _, expected, same⟩ := ok
      simp only [Option.any_some, decide_eq_true_eq, not_not, Prod.mk.injEq] at expected
      rw [expected.1, expected.2] at same
      refine ⟨same.symm, attempt, ?_, expected.2⟩
      rw [named, owned, expected.1]

theorem expected_run_ok {runId : Text} {runAttempt : Int} {expected : Option (Text × Int)}
    (ok : validateExpectedWorkflowRun host (some runId) (some runAttempt) = .ok expected) :
    expected = some (runId, runAttempt) := by
  simp only [validateExpectedWorkflowRun, bind_ok, pure_ok] at ok
  obtain ⟨_, _, _, _, same⟩ := ok
  exact same.symm

theorem check_policy_repository {label : Text} {get : PolicyKey → Json}
    {policy : GitHubAttestationPolicy} (ok : checkPolicy label get = .ok policy) :
    get .repository = .string policy.repository := by
  simp only [checkPolicy, githubAttestationPolicy, validateRepository, bind_ok, text_that_ok,
    pure_ok] at ok
  obtain ⟨_, _, _, _, _, _, repository, read, _, _, _, _, _, _, _, _, _, _, same⟩ := ok
  rw [read.1, ← same]

/-- An accepted result is about the expected subject and the expected run, in the repository of
the policy. -/
theorem verifier_output_attests {data : Bytes} {artifact : GitHubAttestationArtifact}
    {policy : GitHubAttestationPolicy} {runId : Text} {runAttempt : Int}
    {verified : VerifiedGitHubAttestationOutput}
    (ok : validateVerifierOutput host data artifact policy (some runId) (some runAttempt) =
      .ok verified) :
    Attests host data artifact.sha256 policy.repository runId runAttempt ∧
      verified = ⟨runId, runAttempt⟩ := by
  simp only [validateVerifierOutput, validatedSubject, validateOutputSubject, validateArtifact,
    validatePolicy, GitHubAttestationPolicy.asDict, Schema.validate_object, bind_ok, pure_ok] at ok
  obtain ⟨checked, accepted, ⟨sha256, name⟩, ⟨_, _, _, _, subject⟩, pinned, policed, expected, run,
    entry, loaded, output⟩ := ok
  cases subject
  have ofSubject : checked.sha256 = artifact.sha256 := by
    simp only [Digest.asDict, Schema.validate_object, checkArtifact, bind_ok, text_that_ok,
      pure_ok, Digest.value, Json.string.injEq] at accepted
    obtain ⟨_, read, _, _, same⟩ := accepted
    rw [← same, ← read.1]
  have ofRepository : pinned.repository = policy.repository := by
    have read := check_policy_repository policed
    exact (Json.string.inj read).symm
  have ofRun := expected_run_ok run
  subst ofRun
  simp only [checkOutputEntry, bind_ok, required_mapping_ok, required_string_ok, pure_ok]
    at output
  obtain ⟨result, inEntry, signature, signed, certificate, certified, statement, stated, _, _, _, _,
    _, _, uri, named, ran, certificateRan, _, _, _, about, _, _, _, _, _, _, _, _, same⟩ := output
  obtain ⟨ranSame, attempt, invoked, number⟩ := certificate_run_ok certificateRan
  obtain ⟨text, opened, whole⟩ := load_attestation_ok loaded
  constructor
  · refine ⟨statement, certificate,
      ⟨text, entry, result, signature, opened, whole, inEntry, stated, signed, certified⟩, ?_,
      ⟨uri, attempt, named.1, ofRepository ▸ invoked, number⟩⟩
    exact ofSubject ▸ attestation_subject_ok about
  · rw [← same, ranSame]

end Accepted

end EvoomGuard.GithubAttestation
