import EvoomGuard.ReleaseChain.ProducerReceipt

/-!
`reverify_attested_release_source_producer_receipt`: the local and raw-Git checks of a producer
receipt, then a fresh provider run over its exact bytes. Every read of a file and every answer of
Git or of the provider is an input of its own, so that any of them may change between two reads.
-/

namespace EvoomGuard.ReleaseChain

open EvidenceBundle Finalizer GithubAttestation Lib Lib.Checks Lib.Framing Lib.Posix

deriving instance DecidableEq for ProviderIsolation

structure GitExecutablePin where
  executablePath : Text
  executableSha256 : Text
  deriving DecidableEq

/-- Everything outside the process that the release chain relies on. -/
structure ReleaseHost extends EvidenceHost where
  derivation : DerivationHost
  paths : PathHost
  provider : ProviderHost
  verifyRecord : List (Text × Json) → RecordReport

variable (host : ReleaseHost)

/-- What the reads of one verification find. -/
structure ReceiptReads where
  git : ReleaseGit
  workflows : CommitReader
  handoff : FileAnswer
  verdict : FileAnswer
  receipt : FileAnswer

structure ReceiptExpectations where
  source : List (Text × Json)
  context : List (Text × Json)
  producer : List (Text × Json)
  bootstrapGuardSha256 : Text

structure ReceiptPaths where
  receipt : Text
  handoff : Text
  verdict : Text

structure VerifiedProducerReceipt where
  receipt : InspectedProducerReceipt
  handoff : VerifiedReleaseSourceHandoff
  bindings : DerivedReleaseSourceBindings

/-- `verify_release_source_producer_receipt`. -/
def verifyProducerReceipt (paths : ReceiptPaths) (expected : ReceiptExpectations)
    (reads : ReceiptReads) : Except Text VerifiedProducerReceipt := do
  let source ← validateReleaseSource host.toEvidenceHost expected.source
  let context ← validateReleaseSourceContext host.toEvidenceHost expected.context
  let producer ← validateReleaseProducer host.toEvidenceHost expected.producer
  validateContextProducer source context producer
  let bindings ← deriveReleaseSourceBindings host.toEvidenceHost host.derivation reads.git source
  let inspected ← inspectReleaseSourceHandoff host.toEvidenceHost paths.handoff reads.handoff
  let handoff ← verifyReleaseSourceHandoff host.toEvidenceHost host.verifyRecord inspected
    paths.verdict reads.verdict source context
  let derived ← contextFromBindings host.toEvidenceHost bindings handoff.verdict
  refuse (derived ≠ context)
    ("trusted raw-Git derivation does not exactly match expected release-source " ++
      "context").toList
  verifyProducerBlobs host.derivation reads.workflows source producer
  let receipt ← inspectProducerReceipt host.toEvidenceHost paths.receipt reads.receipt
  refuse (receipt.payload.source ≠ source ∨ receipt.payload.context ≠ context ∨
      receipt.payload.producer ≠ producer)
    ("producer receipt does not exactly match expected source, context, or producer " ++
      "identity").toList
  refuse (receipt.payload.record ≠ digestOf handoff.verdictBytes)
    "producer receipt record does not match exact verdict bytes"
  refuse (receipt.payload.handoff ≠ digestOf inspected.handoffBytes)
    "producer receipt handoff does not match exact handoff bytes"
  let bootstrap ← validateSha256 "expected bootstrap guard artifact SHA-256"
    (.string expected.bootstrapGuardSha256)
  refuse (receipt.payload.bootstrap ≠ bootstrap)
    "producer receipt bootstrap runtime does not match the protected expected runtime"
  let profile ← validateAllowRecord host.toEvidenceHost handoff.verdict context
  refuse (receipt.payload.execution ≠ profile)
    "producer receipt execution claim does not match the exact semantic record"
  pure ⟨receipt, handoff, bindings⟩

inductive ExpectedPolicyKey where
  | repository
  | signerWorkflow
  | signerDigest
  | sourceRef
  | sourceDigest
  | certOidcIssuer
  deriving DecidableEq

def ExpectedPolicyKey.policy : ExpectedPolicyKey → PolicyKey
  | .repository => .repository
  | .signerWorkflow => .signerWorkflow
  | .signerDigest => .signerDigest
  | .sourceRef => .sourceRef
  | .sourceDigest => .sourceDigest
  | .certOidcIssuer => .certOidcIssuer

def expectedPolicySchema : Schema ExpectedPolicyKey where
  keys := [.repository, .signerWorkflow, .signerDigest, .sourceRef, .sourceDigest, .certOidcIssuer]
  name := fun key => key.policy.text

/-- `_github_policy_from_mapping`. -/
def policyFromMapping (fields : List (Text × Json)) : Except Text GitHubAttestationPolicy :=
  expectedPolicySchema.validate host.shownList "expected GitHub producer-attestation policy"
    (fun get => githubAttestationPolicy (get .repository) (get .signerWorkflow) (get .sourceDigest)
      (get .signerDigest) (get .sourceRef) (get .certOidcIssuer)) fields

/-- The policy pins one source: the producer of the receipt, on the protected branch. -/
def requirePolicyPins (policy : GitHubAttestationPolicy) (receipt : ReleaseProducerReceipt) :
    Except Text Unit := do
  refuse (policy.repository ≠ receipt.source.repository)
    "GitHub producer-attestation repository does not match receipt source"
  refuse (policy.sourceRef ≠ mainRef ∨ policy.sourceDigest ≠ receipt.source.targetCommitSha)
    "GitHub producer-attestation source pin does not match protected-main source"
  refuse (policy.signerWorkflow ≠
      receipt.producer.workflowRepository ++ '/' :: receipt.producer.workflowPath)
    "GitHub producer-attestation signer workflow does not match receipt producer"
  refuse (policy.signerDigest ≠ receipt.producer.workflowCommitSha)
    "GitHub producer-attestation signer digest does not match receipt producer"
  refuse (policy.certOidcIssuer ≠ certOidcIssuer)
    "GitHub producer-attestation OIDC issuer is unsupported"

/-- The private capability: the provider isolation, the signing key path and the pinned Git the
verification ran with. -/
structure AttestedCapability where
  isolation : Option ProviderIsolation
  signingKeyPath : Option Text
  gitExecutable : Option GitExecutablePin
  deriving DecidableEq

structure AttestedProducerReceipt where
  verified : VerifiedProducerReceipt
  githubReceipt : CreatedGitHubAttestationReceipt
  capability : Option AttestedCapability

structure ReverifyRequest where
  paths : ReceiptPaths
  expected : ReceiptExpectations
  githubPolicy : List (Text × Json)
  githubReceiptPath : Text
  githubRawOutputPath : Text
  isolation : Option ProviderIsolation
  signingKeyPath : Option Text
  gitExecutable : Option GitExecutablePin

structure ReverifyRun where
  reads : ReceiptReads
  keyFiles : FileSystem
  provider : ProviderRun

/-- The signing key is never opened; only its path is judged, before the provider starts. -/
def protectedSigningKey (request : ReverifyRequest) (keyFiles : FileSystem) :
    Except Text (Option Text) :=
  match request.signingKeyPath with
  | none => .ok none
  | some path =>
    match request.isolation with
    | none => .error "an admission signing key requires isolated provider execution"
    | some isolation =>
      match request.gitExecutable with
      | none => .error "an admission signing key requires a pinned Git executable"
      | some _ =>
        (validateProviderIsolatedSigningKeyPath host.provider keyFiles path isolation).map
          some

/-- `reverify_attested_release_source_producer_receipt`: the result, and the two files the provider
run leaves at the retained paths. -/
def reverifyAttestedProducerReceipt (request : ReverifyRequest) (run : ReverifyRun) :
    Except Text (AttestedProducerReceipt × ProviderEvidence) := do
  let verified ← verifyProducerReceipt host request.paths request.expected run.reads
  let signingKeyPath ← protectedSigningKey host request run.keyFiles
  let policy ← policyFromMapping host request.githubPolicy
  let receipt := verified.receipt.payload
  requirePolicyPins policy receipt
  let (created, evidence) ← createGithubAttestationReceipt host.toEvidenceHost host.paths
    run.provider request.paths.receipt request.githubReceiptPath request.githubRawOutputPath policy
    (some receipt.producer.workflowRunId) (some receipt.producer.workflowRunAttempt)
  pure (⟨verified, created, some ⟨request.isolation, signingKeyPath, request.gitExecutable⟩⟩,
    evidence)

theorem verify_producer_receipt_derived {paths : ReceiptPaths} {expected : ReceiptExpectations}
    {reads : ReceiptReads} {verified : VerifiedProducerReceipt}
    (ok : verifyProducerReceipt host paths expected reads = .ok verified) :
    deriveReleaseSourceBindings host.toEvidenceHost host.derivation reads.git
        verified.bindings.source = .ok verified.bindings ∧
      verified.handoff.Of host.toEvidenceHost host.verifyRecord := by
  simp only [verifyProducerReceipt, bind_ok, pure_ok] at ok
  obtain ⟨_, _, _, _, _, _, _, _, bindings, derived, _, _, handoff, verifiedHandoff, _, _, _, _, _, _,
    _, _, _, _, _, _, _, _, _, _, _, _, _, _, _, _, made⟩ := ok
  subst made
  refine ⟨?_, (verify_handoff_ok verifiedHandoff).1⟩
  rw [derive_bindings_source derived]
  exact derived

theorem reverify_ok_verified {request : ReverifyRequest} {run : ReverifyRun}
    {attested : AttestedProducerReceipt} {evidence : ProviderEvidence}
    (ok : reverifyAttestedProducerReceipt host request run = .ok (attested, evidence)) :
    verifyProducerReceipt host request.paths request.expected run.reads =
      .ok attested.verified := by
  simp only [reverifyAttestedProducerReceipt, bind_ok, pure_ok] at ok
  obtain ⟨verified, checked, _, _, _, _, _, _, created, _, made⟩ := ok
  rw [Prod.mk.injEq] at made
  rw [← made.1]
  exact checked

end EvoomGuard.ReleaseChain
