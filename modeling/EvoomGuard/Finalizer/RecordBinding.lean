import EvoomGuard.Finalizer.CandidateAgreement
import EvoomGuard.Finalizer.PackAcceptance
import EvoomGuard.Finalizer.VerifiedContext
import EvoomGuard.GuardRun

/-!
A record that `guard` returns for the checkouts of two commits, and the bindings the finalizer
derives from the commits themselves: when the finalizer accepts the record.
-/

namespace EvoomGuard.Finalizer

open Application Application.RequestPreparation Guard Lib Lib.Checks Lib.Framing PackManifest
open Policy Verifiers Workspace Workspace.CandidateTree

/-- What the finalizer reads with beside what it shares with the guard. -/
structure FinalizerReading where
  shown : Json → Text
  decodePolicy : Bytes → Except Text Json
  decodeManifest : ByteArray → Except Text Json
  policyPath : Text

def FinalizerReading.host (reading : FinalizerReading) (guardHost : GuardHost) : DerivationHost where
  mapping := guardHost.services.mapping
  shown := reading.shown
  quoted := guardHost.services.quoted
  decodePolicy := reading.decodePolicy
  decodeManifest := reading.decodeManifest
  dumps := guardHost.dumps
  policyPath := reading.policyPath

structure CleanCheckouts (mapping : CaseMapping) (quoted : Text → Text)
    (objectId : ByteArray → Text) (modes : CheckoutModes) (linkText : ByteArray → Text)
    (base head : GitReader) (baseTree headTree : Dict Text GitEntry)
    (baseWork headWork : WorkTree) : Prop where
  baseRead : base.tree mapping quoted = .ok baseTree
  headRead : head.tree mapping quoted = .ok headTree
  baseCheckout : Checkout modes linkText base baseTree baseWork
  headCheckout : Checkout modes linkText head headTree headWork
  baseAddressed : Addressed objectId base baseTree
  headAddressed : Addressed objectId head headTree
  collisionFree : CollisionFree objectId base head baseTree headTree

/-! The parts of a derivation -/

section

variable (host : DerivationHost) (base head : CommitReader) (baseTree headTree : Dict Text GitEntry)

def readPolicy : Except Text (PolicyPayload × Option Text × Option Text) := do
  let policyBytes ← policyBlob base baseTree
  effectivePolicyFromRawConfig host.mapping host.shown host.quoted host.decodePolicy
    host.policyPath policyBytes
    ((headTree.entries.lookup "package.json".toList).any GitEntry.regular)

def policyPack : Option Text :=
  (readPolicy host base baseTree headTree).toOption.bind fun policy => policy.2.1

/-- What the derived bindings are made of. -/
structure BoundFrom (bindings : FinalizerBindings)
    (policy : PolicyPayload × Option Text × Option Text)
    (pack : Option Text × Option (List (Text × Json))) (blocks : Dict Text Text) : Prop where
  policyRead : readPolicy host base baseTree headTree = .ok policy
  pinned : pinnedPack host base policy.2.1 policy.2.2 = .ok pack
  blocksRead : blocksOf host base head none none none = .ok blocks
  candidate : bindings.candidateSha256 = Sha256.hexdigest (serializeCandidateBlocks blocks)
  deletions : bindings.deletedPaths = rawDeletedPaths baseTree headTree
  effectivePolicy : bindings.effectivePolicy = policy.1
  policySha256 : bindings.policySha256 = effectivePolicySha256 host.dumps policy.1
  packSha256 : bindings.verifierPackSha256 = pack.1
  packManifest : bindings.verifierPackManifest = pack.2

theorem derived_parts (revisions : Revisions) (source : FinalizerSource)
    (repository repositoryId guardArtifactSha256 : Text) (bindings : FinalizerBindings)
    (derived : deriveFinalizerBindings host base head revisions source repository repositoryId
      guardArtifactSha256 = .ok bindings)
    (baseRead : base.tree host.mapping host.quoted = .ok baseTree)
    (headRead : head.tree host.mapping host.quoted = .ok headTree) :
    Wellformed bindings ∧
      ∃ policy pack blocks, BoundFrom host base head baseTree headTree bindings policy pack
        blocks := by
  rcases derived_bindings_ok host base head revisions source repository repositoryId
    guardArtifactSha256 bindings derived with
    ⟨wellformed, _, raw, evaluated, candidate, deletions, policySha256, pack, manifest, effective⟩
  simp only [deriveRawEvaluation, CommitReader.treeAt, baseRead, headRead, bind_ok, pure_ok,
    Except.ok.injEq] at evaluated
  rcases evaluated with ⟨_, _, _, _, _, _, _, _, _, ⟨_, _, same⟩, _, ⟨_, _, alike⟩, policyBytes, blob,
    policy, read, _, _, pinned, taken, blocks, listed, built⟩
  subst same alike built
  refine ⟨wellformed, policy, pinned, blocks, ?_⟩
  constructor
  · simp only [readPolicy, bind_ok]
    exact ⟨policyBytes, blob, read⟩
  · exact taken
  · exact listed
  · exact candidate
  · exact deletions
  · exact effective
  · exact policySha256
  · exact pack
  · exact manifest

end

theorem required_pack_reading (policy : EffectivePolicy) :
    (effectivePolicyPayload policy).lookup .verifierPackRequired =
      some (.bool policy.verifierPackRequired) := rfl

theorem derived_pack_required (mapping : CaseMapping) (shown : Json → Text) (quoted : Text → Text)
    (decode : Bytes → Except Text Json) (path : Text) (policyBytes : Bytes) (hasPackageJson : Bool)
    (policy : PolicyPayload × Option Text × Option Text)
    (derived : effectivePolicyFromRawConfig mapping shown quoted decode path policyBytes
      hasPackageJson = .ok policy) :
    policy.1.lookup .verifierPackRequired = some (.bool (givenText policy.2.1)) := by
  unfold effectivePolicyFromRawConfig at derived
  split at derived
  · cases derived
  · split at derived
    · cases derived
    · split at derived
      · cases derived
      · simp only at derived
        split at derived
        · cases derived
        · split at derived
          · cases derived
          · split at derived
            · cases derived
            · rename_i built
              cases derived
              unfold buildEffectivePolicy at built
              split at built
              · cases built
              · cases built
                exact required_pack_reading _

theorem prepared_pack_required (mapping : CaseMapping) (raw : GuardRequestPreparationInput)
    (prepared : PreparedGuardRequest) (accepted : prepareGuardRequest mapping raw = .ok prepared) :
    prepared.effectivePolicy.lookup .verifierPackRequired =
      some (.bool (givenText raw.verifierPackPath)) := by
  rcases prepared_ok mapping raw prepared accepted with ⟨_, _, _, policy, _, built, _, payload⟩
  unfold buildEffectivePolicy at built
  split at built
  · cases built
  · cases built
    rw [payload]
    exact required_pack_reading _

/-! When a record binds -/

section

variable (host : GuardHost) (reading : FinalizerReading) (call : GuardCall)
  (answers : GuardAnswers) (prepared : PreparedGuardRequest) (baseWork headWork : WorkTree)

/-- The deletions of the two sides: what Git sees deleted is gone from the checkout and passes the
preflight, and what only the checkout loses does not. -/
structure DeletionsBind : Prop where
  seen : ∀ path, path ≠ [] → Kept path → GitSeen baseWork path → ¬ GitSeen headWork path →
    call.unsupported = [] ∧ headWork.listing.entry path = none ∧
      withheld host call prepared (relativePath path) = false
  unseen : ∀ path, path ≠ [] → Kept path → (baseWork.listing.entry path).isSome = true →
    headWork.listing.entry path = none → ¬ GitSeen baseWork path → call.unsupported = [] →
    withheld host call prepared (relativePath path) = true

/-- A pack that the run took a snapshot of is walked in the order of its paths. -/
def PackBinds (base : GitReader) (packPath : Option Text) : Prop :=
  recordedPack host call answers prepared ≠ none → answers.pack.WalkAscends ∨
    ∃ path, packPath = some path ∧
      StreamsCollide host.services.mapping host.services.quoted host.decodeManifest
        reading.decodeManifest base path answers.pack

variable {host call answers prepared baseWork headWork}

section

variable {maxBytes : Nat} {blocks : Dict Text Text}
  (derived : Derived maxBytes baseWork headWork blocks call.deleted)
include derived

theorem mem_attested_deletions (rel : Text) :
    rel ∈ attestedDeletions host call prepared ↔ call.unsupported = [] ∧
      ∃ path, path ≠ [] ∧ Kept path ∧ (baseWork.listing.entry path).isSome = true ∧
        headWork.listing.entry path = none ∧ rel = relativePath path ∧
        withheld host call prepared rel = false := by
  unfold attestedDeletions
  split_ifs with supported
  · rw [Text.mem_sorted, List.mem_filter, derived.deletions, mem_deleted_paths, Bool.not_eq_true']
    constructor
    · intro found
      rcases found with ⟨⟨path, proper, kept, present, gone, named⟩, passes⟩
      exact ⟨supported, path, proper, kept, present, gone, named, passes⟩
    · intro found
      rcases found with ⟨_, path, proper, kept, present, gone, named, passes⟩
      exact ⟨⟨path, proper, kept, present, gone, named⟩, passes⟩
  · constructor
    · intro impossible
      cases impossible
    · intro found
      exact absurd found.1 supported

theorem attested_deletions_sorted :
    attestedDeletions host call prepared =
      Text.sortedSet (attestedDeletions host call prepared) := by
  unfold attestedDeletions
  split_ifs with supported
  · have distinct : (call.deleted.filter fun path => !withheld host call prepared path).Nodup := by
      apply List.Nodup.filter
      rw [derived.deletions, deletedPaths]
      exact ((Text.sorted_perm _).nodup_iff).mpr (List.nodup_dedup _)
    rw [Text.sortedSet, List.Nodup.dedup (((Text.sorted_perm _).nodup_iff).mpr distinct)]
    apply sort_on_eq_of_perm Text.order id _ _ (Text.sorted_perm _).symm
    rw [List.map_id]
    exact distinct
  · rfl

end

variable {modes : CheckoutModes} {linkText : ByteArray → Text} {base head : GitReader}
  {baseTree headTree : Dict Text GitEntry}

theorem attested_deletions_agree_iff {maxBytes : Nat} {blocks : Dict Text Text}
    (baseCheckout : Checkout modes linkText base baseTree baseWork)
    (headCheckout : Checkout modes linkText head headTree headWork)
    (derived : Derived maxBytes baseWork headWork blocks call.deleted) :
    attestedDeletions host call prepared = rawDeletedPaths baseTree headTree ↔
      DeletionsBind host call prepared baseWork headWork := by
  have same : attestedDeletions host call prepared = rawDeletedPaths baseTree headTree ↔
      ∀ rel, (call.unsupported = [] ∧
        ∃ path, path ≠ [] ∧ Kept path ∧ (baseWork.listing.entry path).isSome = true ∧
          headWork.listing.entry path = none ∧ rel = relativePath path ∧
          withheld host call prepared rel = false) ↔
        ∃ path, path ≠ [] ∧ Kept path ∧ GitSeen baseWork path ∧ ¬ GitSeen headWork path ∧
          rel = relativePath path := by
    rw [attested_deletions_sorted derived, rawDeletedPaths, Text.sorted_set_eq_iff]
    apply forall_congr'
    intro rel
    rw [mem_raw_deleted baseCheckout headCheckout, mem_attested_deletions derived]
  rw [same]
  -- A path of the base checkout is known by its relative path.
  have named (path other : List Text) (proper : path ≠ []) (otherProper : other ≠ [])
      (present : (baseWork.listing.entry path).isSome = true)
      (otherPresent : (baseWork.listing.entry other).isSome = true)
      (equal : relativePath path = relativePath other) : path = other := by
    rw [← split_relative_path baseWork path proper present, equal]
    exact split_relative_path baseWork other otherProper otherPresent
  constructor
  · intro agree
    constructor
    · intro path proper kept seen unseen
      rcases (agree (relativePath path)).mpr ⟨path, proper, kept, seen, unseen, rfl⟩ with
        ⟨supported, other, otherProper, _, present, gone, equal, passes⟩
      have one := named path other proper otherProper (git_seen_present baseWork path seen) present
        equal
      rw [← one] at gone
      exact ⟨supported, gone, passes⟩
    · intro path proper kept present gone unseen supported
      by_contra passes
      rcases (agree (relativePath path)).mp ⟨supported, path, proper, kept, present, gone, rfl, by
        simpa using passes⟩ with ⟨other, otherProper, _, seen, _, equal⟩
      have one := named path other proper otherProper present
        (git_seen_present baseWork other seen) equal
      rw [← one] at seen
      exact unseen seen
  · intro binds rel
    constructor
    · intro found
      rcases found with ⟨supported, path, proper, kept, present, gone, equal, passes⟩
      have seen : GitSeen baseWork path := by
        by_contra unseen
        have refused := binds.unseen path proper kept present gone unseen supported
        rw [← equal, passes] at refused
        cases refused
      refine ⟨path, proper, kept, seen, ?_, equal⟩
      intro still
      have there := git_seen_present headWork path still
      rw [gone] at there
      cases there
    · intro found
      rcases found with ⟨path, proper, kept, seen, unseen, equal⟩
      rcases binds.seen path proper kept seen unseen with ⟨supported, gone, passes⟩
      rw [← equal] at passes
      exact ⟨supported, path, proper, kept, git_seen_present baseWork path seen, gone, equal, passes⟩

/-- The pack of a record is the derived one, with its manifest, exactly where the walk of the pack
binds. -/
theorem recorded_pack_binds_iff {bindings : FinalizerBindings}
    {policy : PolicyPayload × Option Text × Option Text}
    {pinned : Option Text × Option (List (Text × Json))} {blocks : Dict Text Text}
    {baseCommit headCommit : CommitReader}
    (accepted : prepareGuardRequest host.services.mapping call.settings = .ok prepared)
    (derived : BoundFrom (reading.host host) baseCommit headCommit baseTree headTree bindings policy
      pinned blocks)
    (samePolicy : prepared.effectivePolicy = bindings.effectivePolicy)
    (packs : ∀ path, policyPack (reading.host host) baseCommit baseTree headTree = some path →
      PackCheckout host.services.mapping host.services.quoted host.decodeManifest
        reading.decodeManifest baseCommit.toGitReader path answers.pack baseTree) :
    ((recordedPack host call answers prepared = none ∨
          recordedPack host call answers prepared = bindings.verifierPackSha256) ∧
        (attestedPack host call answers (recordedPack host call answers prepared)).bind Prod.snd =
          (recordedPack host call answers prepared).bind fun _ => bindings.verifierPackManifest) ↔
      PackBinds host reading call answers prepared baseCommit.toGitReader
        (policyPack (reading.host host) baseCommit baseTree headTree) := by
  unfold PackBinds
  cases recorded : recordedPack host call answers prepared with
  | none => simp [attestedPack]
  | some digest =>
    rcases recorded_pack_snapshot host call answers prepared digest recorded with
      ⟨given, manifest, snapshot⟩
    have taken := snapshot_pack_ok _ _ _ _ _ _ _ snapshot
    have read := derived.policyRead
    have named : policyPack (reading.host host) baseCommit baseTree headTree = policy.2.1 := by
      rw [policyPack, read]
      rfl
    -- The two payloads say that there is a pack.
    have required := prepared_pack_required _ _ _ accepted
    have path : ∃ path, policy.2.1 = some path := by
      simp only [readPolicy, bind_ok] at read
      rcases read with ⟨policyBytes, _, configured⟩
      have configuredPack := derived_pack_required _ _ _ _ _ _ _ _ configured
      rw [samePolicy, derived.effectivePolicy, configuredPack, Option.some.injEq,
        Json.bool.injEq] at required
      cases stored : policy.2.1 with
      | none =>
        rw [stored] at required
        rw [GuardCall.packGiven, ← required] at given
        cases given
      | some path => exact ⟨path, rfl⟩
    rcases path with ⟨path, stored⟩
    have checkout := packs path (named.trans stored)
    have pin := derived.pinned
    rw [stored] at pin
    cases pinText : policy.2.2 with
    | none =>
      rw [pinText, pinnedPack] at pin
      simp only [bind_ok] at pin
      rcases pin with ⟨_, _, refused⟩
      cases refused
    | some pinned =>
      rw [pinText, pinnedPack] at pin
      simp only [bind_ok, refuse_ok, pure_ok] at pin
      rcases pin with ⟨git, raw, _, _, built⟩
      have agree := identities_agree_iff checkout (digest, manifest) git taken raw
      have attested : (attestedPack host call answers (some digest)).bind Prod.snd = manifest := by
        simp only [attestedPack, snapshot, Option.map_some, Option.bind_some, Except.toOption]
      rw [attested, derived.packSha256, derived.packManifest, ← built]
      have both : ((some digest = none ∨ some digest = some git.1) ∧
          manifest = (some digest).bind fun _ => git.2) ↔ (digest, manifest) = git := by
        cases git with
        | mk gitDigest gitManifest => simp
      rw [both, agree, named, stored]
      constructor
      · intro binds _
        rcases binds with ascends | collide
        · exact Or.inl ascends
        · exact Or.inr ⟨path, rfl, collide⟩
      · intro binds
        rcases binds (by simp) with ascends | ⟨_, same, collide⟩
        · exact Or.inl ascends
        · cases same
          exact Or.inr collide

end

/-- A record of two checkouts is accepted by the bindings of their commits exactly when the
preflight took no derived deletion out of it and the pack it took is walked in order. -/
theorem record_binds_iff (host : GuardHost) (reading : FinalizerReading)
    (objectId : ByteArray → Text) (modes : CheckoutModes) (linkText : ByteArray → Text)
    (base head : CommitReader) (baseTree headTree : Dict Text GitEntry)
    (baseWork headWork : WorkTree) (revisions : Revisions) (source : FinalizerSource)
    (repository repositoryId guardArtifactSha256 : Text) (bindings : FinalizerBindings)
    (maxBytes : Nat) (blocks : Dict Text Text) (call : GuardCall) (answers : GuardAnswers)
    (result : GuardResult)
    (derived : deriveFinalizerBindings (reading.host host) base head revisions source repository
      repositoryId guardArtifactSha256 = .ok bindings)
    (clean : CleanCheckouts host.services.mapping host.services.quoted objectId modes linkText
      base.toGitReader head.toGitReader baseTree headTree baseWork headWork)
    (walked : blocksFromDirs maxBytes (.ok baseWork) (.ok headWork) = .ok (blocks, call.deleted))
    (text : call.candidate = serializeCandidateBlocks blocks)
    (guarded : guard host call answers = .ok result)
    (samePolicy : ∀ prepared, prepareGuardRequest host.services.mapping call.settings =
      .ok prepared → prepared.effectivePolicy = bindings.effectivePolicy)
    (packs : ∀ path, policyPack (reading.host host) base baseTree headTree = some path →
      PackCheckout host.services.mapping host.services.quoted host.decodeManifest
        reading.decodeManifest base.toGitReader path answers.pack baseTree)
    (named : namesRevision call.revisions.baseSha bindings.source.baseSha = true ∧
      namesRevision call.revisions.headSha bindings.source.headSha = true ∧
      namesRevision call.revisions.baseTreeSha bindings.baseTreeSha = true ∧
      namesRevision call.revisions.headTreeSha bindings.headTreeSha = true) :
    ∃ prepared, prepareGuardRequest host.services.mapping call.settings = .ok prepared ∧
      ((∃ answer, contextFromVerifiedBindings bindings (some result.attestation) = .ok answer) ↔
        DeletionsBind host call prepared baseWork headWork ∧
          PackBinds host reading call answers prepared base.toGitReader
            (policyPack (reading.host host) base baseTree headTree)) := by
  rcases guard_attests host call answers result guarded with ⟨prepared, accepted, attests⟩
  refine ⟨prepared, accepted, ?_⟩
  rcases derived_parts (reading.host host) base head baseTree headTree revisions source repository
    repositoryId guardArtifactSha256 bindings derived clean.baseRead clean.headRead with
    ⟨wellformed, policy, pinned, rawBlocks, parts⟩
  have same := samePolicy prepared accepted
  have texts := candidate_texts_agree host.services.mapping host.services.quoted objectId modes
    linkText base.toGitReader head.toGitReader baseTree headTree baseWork headWork none none maxBytes
    blocks rawBlocks call.deleted clean.baseRead clean.headRead clean.baseCheckout
    clean.headCheckout clean.baseAddressed clean.headAddressed clean.collisionFree walked
    parts.blocksRead
  have deletions : attestedDeletions host call prepared = rawDeletedPaths baseTree headTree ↔
      DeletionsBind host call prepared baseWork headWork :=
    attested_deletions_agree_iff clean.baseCheckout clean.headCheckout
      (blocks_from_dirs_ok maxBytes baseWork headWork blocks call.deleted walked)
  have pack := recorded_pack_binds_iff reading accepted parts same packs
  have recorded : result.attestation.verifierPackSha256 =
      recordedPack host call answers prepared := by
    rw [attests]
    simp only [attestation, buildAttestation, attestedPack]
    cases recordedPack host call answers prepared <;> rfl
  have manifest : result.attestation.verifierPackManifest =
      (attestedPack host call answers (recordedPack host call answers prepared)).bind
        Prod.snd := by
    rw [attests]
    rfl
  rw [context_accepts_iff bindings result.attestation wellformed, ← deletions, ← pack]
  constructor
  · intro binds
    refine ⟨?_, ?_, ?_⟩
    · rw [← parts.deletions, ← binds.deletions, attests]
      rfl
    · rw [← recorded]
      exact binds.pack
    · rw [← manifest, ← recorded]
      exact binds.manifest
  · intro binds
    constructor
    · rw [attests, parts.candidate, ← texts.2, ← text]
      rfl
    · rw [attests, parts.deletions, ← binds.1]
      rfl
    · rw [attests, parts.policySha256, ← parts.effectivePolicy, ← same]
      rfl
    · rw [attests, ← same]
      rfl
    · rw [recorded]
      exact binds.2.1
    · rw [manifest, recorded]
      exact binds.2.2
    · rw [attests]
      exact named.1
    · rw [attests]
      exact named.2.1
    · rw [attests]
      exact named.2.2.1
    · rw [attests]
      exact named.2.2.2

/-! A deletion that the policy protects and one that it does not -/

def bracesBlob : GitEntry :=
  ⟨"100644", "blob", "9e26dfeeb6e641a33dae4961196235bdb965b21b"⟩

def braces : ByteArray := ⟨(utf8 "\x7b\x7d").toArray⟩

/-- A commit whose files all hold an empty JSON object, the policy among them. -/
def bracesCommit (paths : List Text) (treeSha : Text) : CommitReader where
  rows := paths.map fun path => (path, bracesBlob)
  content := fun _ => braces
  revParse := .ok treeSha

def bracesTree (paths : List Text) : Dict Text GitEntry :=
  Dict.ofPairs (paths.map fun path => (path, bracesBlob))

def bracesEntry : TreeEntry := .regular 0o644 braces

def testedPaths : List Text :=
  [".evoguard.json", "app.py", "tests/test_app.py"]

def testedEntries : List (List Text × TreeEntry) :=
  [([], .directory 0o755), ([".evoguard.json"], bracesEntry),
    (["app.py"], bracesEntry), (["tests"], .directory 0o755),
    (["tests", "test_app.py"], bracesEntry)]

def testedWork : WorkTree :=
  WorkTree.ofEntries testedEntries (by decide) (by decide) (by decide) (by decide)

def untestedPaths : List Text := [".evoguard.json", "app.py"]

def untestedEntries : List (List Text × TreeEntry) :=
  [([], .directory 0o755), ([".evoguard.json"], bracesEntry),
    (["app.py"], bracesEntry)]

def untestedWork : WorkTree :=
  WorkTree.ofEntries untestedEntries (by decide) (by decide) (by decide) (by decide)

def trimmedPaths : List Text := [".evoguard.json", "tests/test_app.py"]

def trimmedEntries : List (List Text × TreeEntry) :=
  [([], .directory 0o755), ([".evoguard.json"], bracesEntry),
    (["tests"], .directory 0o755), (["tests", "test_app.py"], bracesEntry)]

def trimmedWork : WorkTree :=
  WorkTree.ofEntries trimmedEntries (by decide) (by decide) (by decide) (by decide)

def plainHost : GuardHost where
  services := Application.plainServices
  shown := fun _ => []
  dumps := spacedDumps
  decodeManifest := fun data => readJson data.data.toList
  absolute := fun path => '/' :: path
  absolute_filled := fun _ => List.cons_ne_nil _ _
  python := "python3"
  structuredAdapter := fun _ => true
  pytestCommand := fun _ => true

def plainReading : FinalizerReading where
  shown := JsonCodec.dumps true fun _ => []
  decodePolicy := readJson
  decodeManifest := fun data => readJson data.data.toList
  policyPath := ".evoguard.json"

def shaOf (digit : Char) : Text := List.replicate 40 digit

def plainRevisions : Revisions := ⟨shaOf 'a', shaOf 'b', shaOf 'c', shaOf 'd'⟩

def plainSource : FinalizerSource := ⟨4, "17", 1, shaOf 'a', shaOf 'b'⟩

def plainBindings (paths : List Text) : Except Text FinalizerBindings :=
  deriveFinalizerBindings (plainReading.host plainHost) (bracesCommit testedPaths (shaOf 'c'))
    (bracesCommit paths (shaOf 'd')) plainRevisions plainSource "owner/project" "9"
    (Sha256.hexdigest [])

/-- The settings of a policy that sets nothing. -/
def plainSettings : GuardRequestPreparationInput where
  testCommand := none
  setupCommand := none
  trustSetupOnHost := false
  setupOutputGlobs := []
  protectedGlobs := []
  allow := []
  allowNewTests := false
  timeout := 120
  memLimitMb := 1024
  isolation := "subprocess"
  dockerImage := none
  dockerNetwork := "none"
  verifierPackPath := none
  expectVerifierPackSha256 := none
  collectDiffCoverage := false
  minDiffCoverage := none
  blackbox := false
  blackboxOnly := false
  requireReportIntegrity := none
  requireCandidateIsolation := none
  policyId := none
  policyVersion := none
  baselineEvidence := false
  requireDemonstratedFix := false
  strictHarness := false
  operatingProfile := none
  harnessInputs := []

def testedFiles : Tree :=
  (((Tree.bare.add [] ".evoguard.json" (.file 0o644 braces)).add [] "app.py"
    (.file 0o644 braces)).add [] "tests" .directory).add ["tests"]
    "test_app.py" (.file 0o644 braces)

def deletingCall (deleted : List Text) : GuardCall where
  settings := plainSettings
  base := BaseTree.ofTree testedFiles [] []
  candidate := serializeCandidateBlocks Dict.empty
  fileBlocks := some Dict.empty
  deleted := deleted
  revisions := ⟨some (shaOf 'a'), some (shaOf 'b'), some (shaOf 'c'), some (shaOf 'd')⟩

def plainAnswers : GuardAnswers where
  repo := { neuteredAnswers with copy := testedFiles }
  blackbox := greenAnswers
  pack := sortedPack
  packCopy := .ok sortedPack
  packDestination := "/tmp/pack"
  coverage := .unmeasured none
  baseline := ⟨.pass, none, none⟩
  packDirectory := false

theorem braces_clean (paths : List Text) (entries : List (List Text × TreeEntry)) (work : WorkTree)
    (given : work.listing.entry = Listing.entryIn entries)
    (rows : (bracesTree paths).entries = paths.map fun path => (path, bracesBlob))
    (read : ((bracesCommit paths (shaOf 'd')).tree asciiCase id).toOption.map Dict.entries =
      some (bracesTree paths).entries)
    (listed : ∀ path ∈ paths, ∃ item ∈ entries, item.1 ≠ [] ∧ path = relativePath item.1 ∧
      Listing.entryIn entries item.1 = some bracesEntry)
    (leaves : ∀ item ∈ entries, item.2.isDirectory = true ∨ relativePath item.1 ∈ paths) :
    CleanCheckouts asciiCase id (fun _ => bracesBlob.objectId) plainModes (fun _ => [])
      (bracesCommit testedPaths (shaOf 'c')).toGitReader
      (bracesCommit paths (shaOf 'd')).toGitReader (bracesTree testedPaths) (bracesTree paths)
      testedWork work := by
  have baseRows : (bracesTree testedPaths).entries =
      testedPaths.map fun path => (path, bracesBlob) := by decide
  have addressed (names : List Text) (sha : Text) (same : (bracesTree names).entries =
      names.map fun path => (path, bracesBlob)) :
      Addressed (fun _ => bracesBlob.objectId) (bracesCommit names sha).toGitReader
        (bracesTree names) := by
    intro item inside
    rw [same, List.mem_map] at inside
    rcases inside with ⟨path, _, built⟩
    rw [← built]
  constructor
  · exact ok_of_read _ Dict.entries Dict.entries_injective _ (by decide)
  · exact ok_of_read _ Dict.entries Dict.entries_injective _ read
  · exact uniform_checkout _ bracesBlob testedPaths _ _ testedEntries rfl (by decide) rfl baseRows
      (by decide) (by decide)
  · exact uniform_checkout _ bracesBlob paths _ _ entries rfl (by decide) given rows listed leaves
  · exact addressed testedPaths _ baseRows
  · exact addressed paths _ rows
  · intro _ _ _ _ _
    rfl

def plainPayload : PolicyPayload :=
  ((prepareGuardRequest asciiCase plainSettings).toOption.map
    PreparedGuardRequest.effectivePolicy).getD []

def plainEvaluation (paths : List Text) : Except Text RawEvaluation :=
  deriveRawEvaluation (plainReading.host plainHost) (bracesCommit testedPaths (shaOf 'c'))
    (bracesCommit paths (shaOf 'd')) plainRevisions none none none

def plainBound (raw : RawEvaluation) : FinalizerBindings where
  source := plainSource
  repository := "owner/project"
  repositoryId := "9"
  guardArtifactSha256 := Sha256.hexdigest []
  baseTreeSha := shaOf 'c'
  headTreeSha := shaOf 'd'
  candidateSha256 := raw.candidateSha256
  deletedPaths := raw.deletedPaths
  policySha256 := raw.policySha256
  verifierPackSha256 := raw.verifierPackSha256
  verifierPackManifest := raw.verifierPackManifest
  effectivePolicy := raw.effectivePolicy

/-- The bindings of a sample; its digests are never computed. -/
theorem plain_derivation (paths deleted : List Text)
    (evaluated : (plainEvaluation paths).toOption.map (fun raw => (raw.deletedPaths,
      raw.verifierPackSha256, raw.verifierPackManifest.isSome)) = some (deleted, none, false))
    (configured : (plainEvaluation paths).toOption.map RawEvaluation.effectivePolicy =
      some plainPayload)
    (portable : deleted.any (!isSafeRelpath asciiCase ·) = false)
    (ordered : deleted = Text.sortedSet deleted) :
    ∃ bindings, plainBindings paths = .ok bindings ∧ bindings.deletedPaths = deleted ∧
      bindings.effectivePolicy = plainPayload ∧ bindings.source = plainSource ∧
      bindings.baseTreeSha = shaOf 'c' ∧ bindings.headTreeSha = shaOf 'd' := by
  cases read : plainEvaluation paths with
  | error problem =>
    rw [read] at evaluated
    cases evaluated
  | ok raw =>
    rw [read, Except.toOption, Option.map_some, Option.some.injEq] at configured
    rw [read, Except.toOption, Option.map_some, Option.some.injEq, Prod.mk.injEq,
      Prod.mk.injEq] at evaluated
    rcases evaluated with ⟨paths, pack, bare⟩
    have manifest : raw.verifierPackManifest = none := by
      rwa [Option.isSome_eq_false_iff, Option.isNone_iff_eq_none] at bare
    have policyHex := (evaluation_digests _ _ _ _ _ _ _ raw read).1
    rcases (evaluation_digests _ _ _ _ _ _ _ raw read).2 with ⟨blocks, _, text⟩
    have candidateHex : Sha256.isHex64 raw.candidateSha256 = true := by
      rw [text]
      exact Sha256.hexdigest_is_hex _
    have digest := evaluation_policy _ _ _ _ _ _ _ raw read
    have source : validateSource plainSource = .ok () := ok_of_read _ id Function.injective_id _ (by
      decide)
    have repository : boundedString "owner/project" "repository" 512 = .ok () :=
      ok_of_read _ id Function.injective_id _ (by decide)
    have repositoryId : boundedString "9" "repository_id" 256 = .ok () :=
      ok_of_read _ id Function.injective_id _ (by decide)
    have revisions : isGitSha (shaOf 'a') = true ∧ isGitSha (shaOf 'b') = true ∧
        isGitSha (shaOf 'c') = true ∧ isGitSha (shaOf 'd') = true := by
      decide
    have artifact := Sha256.hexdigest_is_hex []
    have valid : validateDerivedBindings (plainReading.host plainHost) (plainBound raw) =
        .ok (plainBound raw) := by
      simp only [validateDerivedBindings, validateSha256, validateNullableSha256,
        validateManifest, plainBound, pack, manifest, paths, bind_ok, pure_ok, refuse_ok,
        exists_const, Bool.not_eq_false, ne_eq, not_not, and_true]
      exact ⟨(), source, (), repository, (), repositoryId, artifact, revisions.2.2.1,
        revisions.2.2.2, candidateHex, by rw [Bool.not_eq_true]; exact portable, ordered, policyHex,
        rfl, digest.symm, by simp⟩
    refine ⟨plainBound raw, ?_, paths, configured, rfl, rfl, rfl⟩
    simp only [plainBindings, deriveFinalizerBindings, validGitSha, validateSha256, bind_ok,
      pure_ok, refuse_ok, exists_const, Bool.not_eq_false, ne_eq]
    exact ⟨(), source, _, ⟨revisions.1, rfl⟩, _, ⟨revisions.2.1, rfl⟩, _, ⟨revisions.2.2.1, rfl⟩,
      _, ⟨revisions.2.2.2, rfl⟩, by decide, (), repository, (), repositoryId, artifact, raw, read,
      valid⟩

theorem plain_policy (prepared : PreparedGuardRequest)
    (accepted : prepareGuardRequest asciiCase plainSettings = .ok prepared) :
    prepared.effectivePolicy = plainPayload ∧ prepared.policy.harnessInputs = [] := by
  constructor
  · rw [plainPayload, accepted]
    rfl
  · have listed : (prepareGuardRequest asciiCase plainSettings).toOption.map
        (fun request => request.policy.harnessInputs) = some [] := by decide +kernel
    rw [accepted] at listed
    exact Option.some.inj listed

/-- A change that deletes a test is rejected, and its record does not bind. -/
theorem protected_deletion_does_not_bind :
    ∃ bindings result, plainBindings untestedPaths = .ok bindings ∧
      CleanCheckouts asciiCase id (fun _ => bracesBlob.objectId) plainModes (fun _ => [])
        (bracesCommit testedPaths (shaOf 'c')).toGitReader
        (bracesCommit untestedPaths (shaOf 'd')).toGitReader (bracesTree testedPaths)
        (bracesTree untestedPaths) testedWork untestedWork ∧
      blocksFromDirs 1000000 (.ok testedWork) (.ok untestedWork) =
        .ok (Dict.empty, ["tests", "tests/test_app.py"]) ∧
      guard plainHost (deletingCall ["tests", "tests/test_app.py"]) plainAnswers =
        .ok result ∧
      result.decision.verdict = .rejected ∧
      result.attestation.effectivePolicy = bindings.effectivePolicy ∧
      ¬ ∃ answer, contextFromVerifiedBindings bindings (some result.attestation) = .ok answer := by
  rcases plain_derivation untestedPaths ["tests", "tests/test_app.py"]
    (by decide +kernel) (by decide +kernel) (by decide +kernel) (by decide +kernel) with
    ⟨bindings, derived, deletions, policy, _⟩
  have decided : (guard plainHost (deletingCall ["tests", "tests/test_app.py"])
      plainAnswers).toOption.map (fun result => result.decision.verdict) = some .rejected := by
    decide +kernel
  cases guarded : guard plainHost (deletingCall ["tests", "tests/test_app.py"])
      plainAnswers with
  | error problem =>
    rw [guarded] at decided
    cases decided
  | ok result =>
    rw [guarded] at decided
    rcases guard_attests _ _ _ result guarded with ⟨prepared, accepted, attests⟩
    have settings := plain_policy prepared accepted
    refine ⟨bindings, result, derived, braces_clean untestedPaths untestedEntries untestedWork rfl
      (by decide +kernel) (by decide +kernel) (by decide +kernel) (by decide +kernel),
      derivation_of_entries _ _ _ _ _ (by decide +kernel), rfl, Option.some.inj decided, ?_, ?_⟩
    · rw [attests, policy, ← settings.1]
      rfl
    · intro binds
      have wellformed := (derived_bindings_ok _ _ _ _ _ _ _ _ bindings derived).1
      have same := ((context_accepts_iff bindings _ wellformed).mp binds).deletions
      have filtered : attestedDeletions plainHost
          (deletingCall ["tests", "tests/test_app.py"]) prepared =
          ["tests"] := by
        simp only [attestedDeletions, withheld, classified, settings.2]
        decide +kernel
      rw [attests, deletions] at same
      have shorter : ["tests".toList, "tests/test_app.py".toList] = ["tests".toList] :=
        same.symm.trans filtered
      cases shorter

/-- The record of a change that deletes a plain file binds, here with failing tests. -/
theorem plain_deletion_binds :
    ∃ bindings result, plainBindings trimmedPaths = .ok bindings ∧
      guard plainHost (deletingCall ["app.py".toList]) plainAnswers = .ok result ∧
      result.decision.verdict = .fail ∧
      ∃ answer, contextFromVerifiedBindings bindings (some result.attestation) = .ok answer := by
  rcases plain_derivation trimmedPaths ["app.py"]
    (by decide) (by decide) (by decide) (by decide) with
    ⟨bindings, derived, deletions, policy, source, baseTreeSha, headTreeSha⟩
  have decided : (guard plainHost (deletingCall ["app.py"]) plainAnswers).toOption.map
      (fun result => result.decision.verdict) = some .fail := by
    decide +kernel
  have walked : blocksFromDirs 1000000 (.ok testedWork) (.ok trimmedWork) =
      .ok (Dict.empty, ["app.py"]) := derivation_of_entries _ _ _ _ _ (by decide +kernel)
  have clean := braces_clean trimmedPaths trimmedEntries trimmedWork rfl (by decide)
    (by decide) (by decide) (by decide)
  have unnamed : policyPack (plainReading.host plainHost) (bracesCommit testedPaths (shaOf 'c'))
      (bracesTree testedPaths) (bracesTree trimmedPaths) = none := by
    decide
  cases guarded : guard plainHost (deletingCall ["app.py"]) plainAnswers with
  | error problem =>
    rw [guarded] at decided
    cases decided
  | ok result =>
    rw [guarded] at decided
    refine ⟨bindings, result, derived, rfl, Option.some.inj decided, ?_⟩
    have binds := record_binds_iff plainHost plainReading (fun _ => bracesBlob.objectId) plainModes
      (fun _ => []) (bracesCommit testedPaths (shaOf 'c')) (bracesCommit trimmedPaths (shaOf 'd'))
      (bracesTree testedPaths) (bracesTree trimmedPaths) testedWork trimmedWork plainRevisions
      plainSource "owner/project" "9" (Sha256.hexdigest []) bindings 1000000
      Dict.empty (deletingCall ["app.py"]) plainAnswers result derived clean walked rfl guarded
      (by
        intro prepared accepted
        rw [policy]
        exact (plain_policy prepared accepted).1)
      (by
        intro path named
        rw [unnamed] at named
        cases named)
      (by
        rw [source, baseTreeSha, headTreeSha]
        decide)
    rcases binds with ⟨prepared, accepted, accepts⟩
    have settings := plain_policy prepared accepted
    apply accepts.mpr
    constructor
    · apply (attested_deletions_agree_iff clean.baseCheckout clean.headCheckout
        (blocks_from_dirs_ok _ _ _ _ _ walked)).mp
      simp only [attestedDeletions, withheld, classified, settings.2]
      decide
    · intro recorded
      exfalso
      apply recorded
      cases found : recordedPack plainHost (deletingCall ["app.py"]) plainAnswers
          prepared with
      | none => rfl
      | some digest =>
        have given := (recorded_pack_snapshot _ _ _ _ digest found).1
        cases given

end EvoomGuard.Finalizer
