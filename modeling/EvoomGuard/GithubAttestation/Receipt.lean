import EvoomGuard.GithubAttestation.Output

/-!
The receipt kept of one provider run: the subject, the policy and the digest of the raw result. The
writer runs the provider and keeps both files; a consumer reads both back and compares them.
-/

namespace EvoomGuard.GithubAttestation

open EvidenceBundle Lib Lib.Checks Lib.Framing

def maxReceiptBytes : Nat := 64 * 1024

def maxOutputBytes : Nat := 4 * 1024 * 1024

inductive OutputKey where
  | sha256
  | size
  | count
  deriving DecidableEq

def OutputKey.text : OutputKey → Text
  | .sha256 => "sha256"
  | .size => "size"
  | .count => "verified_attestation_count"

def outputSchema : Schema OutputKey where
  keys := [.sha256, .size, .count]
  name := OutputKey.text

/-- Exactly one attestation is counted, so a descriptor is the digest of the result. -/
def outputValue (digest : Digest) : OutputKey → Json
  | .sha256 => .string digest.sha256
  | .size => .int digest.size
  | .count => .int 1

def checkOutput (label : Text) (get : OutputKey → Json) : Except Text Digest := do
  let sha256 ← textThat Sha256.isHex64
    (label ++ ".sha256 must be a lowercase SHA-256 digest") (get .sha256)
  let size ← intWithin 2 maxOutputBytes
    (label ++ ".size must be an integer from 2 through 4194304") (get .size)
  let _ ← intWithin 1 1
    (label ++ ".verified_attestation_count must be exactly one") (get .count)
  pure ⟨sha256, size⟩

def receiptFormat : Text := "EVOGUARD_GITHUB_ATTESTATION_RECEIPT_V1"

structure GitHubAttestationReceipt where
  artifact : GitHubAttestationArtifact
  verificationPolicy : GitHubAttestationPolicy
  verificationOutput : Digest
  deriving DecidableEq

inductive ReceiptKey where
  | format
  | artifact
  | verificationPolicy
  | verificationOutput
  deriving DecidableEq

def ReceiptKey.text : ReceiptKey → Text
  | .format => "format"
  | .artifact => "artifact"
  | .verificationPolicy => "verification_policy"
  | .verificationOutput => "verification_output"

def receiptSchema : Schema ReceiptKey where
  keys := [.format, .artifact, .verificationPolicy, .verificationOutput]
  name := ReceiptKey.text

def GitHubAttestationReceipt.value (receipt : GitHubAttestationReceipt) : ReceiptKey → Json
  | .format => .string receiptFormat
  | .artifact => .object receipt.artifact.asDict
  | .verificationPolicy => .object receipt.verificationPolicy.asDict
  | .verificationOutput => .object (outputSchema.object (outputValue receipt.verificationOutput))

def GitHubAttestationReceipt.asDict (receipt : GitHubAttestationReceipt) : List (Text × Json) :=
  receiptSchema.object receipt.value

variable (host : EvidenceHost)

def validateOutput (label : Text) (fields : List (Text × Json)) : Except Text Digest :=
  outputSchema.validate host.shownList label (checkOutput label) fields

def receiptParts : Text :=
  ("GitHub attestation receipt artifact, verification_policy, and verification_output must " ++
    "be objects").toList

def checkReceipt (get : ReceiptKey → Json) : Except Text GitHubAttestationReceipt := do
  exactText receiptFormat ("unsupported GitHub attestation receipt format: " ++
    host.shown (get .format)) (get .format)
  let artifact ← objectOf receiptParts (get .artifact)
  let policy ← objectOf receiptParts (get .verificationPolicy)
  let output ← objectOf receiptParts (get .verificationOutput)
  let artifact ← validateArtifact host "GitHub attestation receipt artifact" artifact
  let policy ← validatePolicy host "GitHub attestation receipt verification_policy" policy
  let output ← validateOutput host "GitHub attestation receipt verification_output" output
  pure ⟨artifact, policy, output⟩

def validateReceipt (fields : List (Text × Json)) : Except Text GitHubAttestationReceipt :=
  receiptSchema.validate host.shownList "GitHub attestation receipt" (checkReceipt host)
    fields

/-- `os.path.abspath`, and the real path in its canonical case. -/
structure PathHost where
  abspath : Text → Text
  identity : Text → Text

/-- One run of the provider: the snapshot of the artifact, what `gh` answers, and whether each of
the two files can be created. -/
structure ProviderRun where
  artifact : FileAnswer
  output : Except Text Bytes
  rawWrite : Except Text Unit
  receiptWrite : Except Text Unit

structure CreatedGitHubAttestationReceipt where
  receiptPath : Text
  rawOutputPath : Text
  artifact : GitHubAttestationArtifact
  policy : GitHubAttestationPolicy
  deriving DecidableEq

/-- The two files of a run, as they are written. -/
structure ProviderEvidence where
  receipt : Bytes
  rawOutput : Bytes
  deriving DecidableEq

def snapshotRegularArtifact (path : Text) (found : FileAnswer) :
    Except Text GitHubAttestationArtifact := do
  let data ← found
  refuse (maxArtifactFileBytes < data.length)
    ("artifact exceeds the 4294967296-byte size limit: " ++ host.quoted path)
  pure (digestOf data)

def outputDescriptor (data : Bytes) : Except Text Digest := do
  let _ ← loadAttestationOutput host data
  pure (digestOf data)

def createGithubAttestationReceipt (paths : PathHost) (run : ProviderRun)
    (artifactPath receiptPath rawOutputPath : Text) (policy : GitHubAttestationPolicy)
    (runId : Option Text) (runAttempt : Option Int) :
    Except Text (CreatedGitHubAttestationReceipt × ProviderEvidence) := do
  let policy ← githubAttestationPolicy (.string policy.repository) (.string policy.signerWorkflow)
    (.string policy.sourceDigest) (.string policy.signerDigest) (.string policy.sourceRef)
    (.string policy.certOidcIssuer)
  refuse (paths.abspath receiptPath = paths.abspath rawOutputPath)
    "receipt and raw-output paths must differ"
  refuse (artifactPath = ['-'] ∨ receiptPath = ['-'] ∨ rawOutputPath = ['-'])
    ("artifact, receipt, and raw-output paths must be regular paths, not standard " ++
      "input/output").toList
  let artifact ← snapshotRegularArtifact host artifactPath run.artifact
  let output ← run.output
  let _ ← validateVerifierOutput host output artifact policy runId runAttempt
  let descriptor ← outputDescriptor host output
  let receipt ← validateReceipt host
    (GitHubAttestationReceipt.asDict ⟨artifact, policy, descriptor⟩)
  let canonical ← canonicalJsonBytes host receipt.asDict
  refuse (maxReceiptBytes < canonical.length)
    "canonical GitHub attestation receipt exceeds its size limit"
  run.rawWrite
  run.receiptWrite
  pure (⟨paths.abspath receiptPath, paths.abspath rawOutputPath, artifact, policy⟩,
    ⟨canonical, output⟩)

/-- The checks the two admissions share of the two files of a provider run: the raw result binds
the subject and the run, and the receipt is the canonical one of that very result. -/
def checkProviderEvidence (subjectProblem : Text) (artifact : GitHubAttestationArtifact)
    (policy : GitHubAttestationPolicy) (runId : Text) (runAttempt : Int)
    (evidence : ProviderEvidence) : Except Text VerifiedGitHubAttestationOutput := do
  let verified ← validateVerifierOutput host evidence.rawOutput artifact policy (some runId)
    (some runAttempt)
  let loaded ← loadJsonObjectBytes host evidence.receipt "GitHub attestation receipt"
  let receipt ← validateReceipt host loaded
  let canonical ← canonicalJsonBytes host receipt.asDict
  refuse (canonical ≠ evidence.receipt) "GitHub attestation receipt is not canonical JSON"
  refuse (receipt.artifact ≠ artifact) subjectProblem
  refuse (receipt.verificationPolicy ≠ policy)
    "GitHub attestation receipt does not contain the exact provider policy"
  refuse (receipt.verificationOutput ≠ digestOf evidence.rawOutput)
    "GitHub attestation receipt does not bind the exact raw verifier output"
  pure verified

theorem canonical_json_nonempty {fields : List (Text × Json)} {data : Bytes}
    (ok : canonicalJsonBytes host fields = .ok data) : 1 ≤ data.length := by
  unfold canonicalJsonBytes at ok
  dsimp only at ok
  split at ok
  · cases ok
  · cases ok
    rw [utf8_append, List.length_append]
    have newline : (utf8 ['\n']).length = 1 := rfl
    omega

theorem evidence_sizes {subjectProblem : Text} {artifact : GitHubAttestationArtifact}
    {policy : GitHubAttestationPolicy} {runId : Text} {runAttempt : Int}
    {evidence : ProviderEvidence} {verified : VerifiedGitHubAttestationOutput}
    (ok : checkProviderEvidence host subjectProblem artifact policy runId runAttempt evidence =
      .ok verified) :
    1 ≤ evidence.receipt.length ∧ 2 ≤ evidence.rawOutput.length := by
  simp only [checkProviderEvidence, bind_ok, pure_ok, refuse_ok, not_not] at ok
  obtain ⟨_, _, loaded, _, receipt, validated, canonical, written, _, same, _, _, _, _, _, output,
    _⟩ := ok
  constructor
  · rw [← same]
    exact canonical_json_nonempty host written
  · rw [validateReceipt, receiptSchema.validate_ok] at validated
    simp only [checkReceipt, validateOutput, outputSchema.validate_ok, checkOutput, bind_ok,
      int_within_ok, pure_ok] at validated
    obtain ⟨_, _, _, _, _, _, _, _, _, _, _, _, _, digest, ⟨_, _, _, size, range, _, _, described⟩,
      made⟩ := validated
    have sized : digest.size = evidence.rawOutput.length := by
      rw [← made] at output
      exact congrArg Digest.size output
    rw [← described] at sized
    simp only at sized
    omega

end EvoomGuard.GithubAttestation
