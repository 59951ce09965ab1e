import Mathlib.Algebra.Order.BigOperators.Group.List
import Mathlib.Algebra.Group.Action.Defs
import EvoomGuard.Finalizer.AgentChangeBindings
import EvoomGuard.Lib.JsonRoundTrip

/-!
`verify_agent_change_contract`: an inspected proposal and a verified authorization against the
facts derived from raw Git. Whatever the proposal claims, an accepted change touches no leaf of the
two trees that the authorization does not cover.
-/

namespace EvoomGuard.Admission

open Lib Lib.Checks Lib.Framing Candidate Finalizer Verifiers Verifiers.RecordPolicy Workspace
open Workspace.CandidateTree

/-! The documents -/

structure ProposalSource where
  repository : Text
  pullRequestNumber : Int
  baseSha : Text
  headSha : Text

/-- The identity of the candidate in a proposal of either generation. -/
inductive ProposedCandidate where
  | v1 (candidateSha256 : Text) (candidateSize : Nat)
  | v2 (identity : IdentityPayload) (selectionProfile : Text)

structure AgentChangeProposal where
  source : ProposalSource
  candidate : ProposedCandidate
  changedPaths : List Text
  deletedPaths : List Text
  touchedPaths : List Text
  observedPolicy : PolicyDigests

def AgentChangeProposal.format (proposal : AgentChangeProposal) : BindingFormat :=
  match proposal.candidate with
  | .v1 .. => .v1
  | .v2 .. => .v2

structure AuthorizationSource where
  repository : Text
  repositoryId : Text
  pullRequestNumber : Int
  baseSha : Text
  headSha : Text
  baseTreeSha : Text
  headTreeSha : Text

structure AuthorizationScope where
  allowedPatterns : List Text
  maximumTouchedPaths : Nat
  maximumCandidateBytes : Nat
  allowDeletions : Bool

structure AgentChangeAuthorization where
  source : AuthorizationSource
  scope : AuthorizationScope
  required : PolicyDigests

structure VerifiedAgentChangeContract where
  proposal : AgentChangeProposal
  authorization : AgentChangeAuthorization
  bindings : DerivedAgentChangeBindings

/-! The scope -/

def everythingBelow : Text := "/**"

def matchesPattern (path pattern : Text) : Bool :=
  if Text.endsWith pattern everythingBelow then
    let root := pattern.take (pattern.length - 3)
    path == root || Text.startsWith path (root ++ ['/'])
  else path == pattern

def matchesScope (path : Text) (patterns : List Text) : Bool := patterns.any (matchesPattern path)

def isForbiddenControlPath (mapping : CaseMapping) (path : Text) : Bool :=
  isProtected mapping path [] || isProtectedConfig mapping path true ||
    isProtectedCi mapping path [] || isJudgeAutoexec mapping path

/-! The contract -/

section

variable (mapping : CaseMapping) (proposal : AgentChangeProposal)
  (authorization : AgentChangeAuthorization) (bindings : DerivedAgentChangeBindings)
  (source context : List (Text × Json))

def requiredSource : List Text :=
  ["pull_request_number", "workflow_run_id", "workflow_run_attempt",
    "base_sha", "head_sha"]

def requiredContext : List Text :=
  ["repository", "repository_id", "run_id", "run_attempt",
    "base_sha", "head_sha", "base_tree_sha", "head_tree_sha",
    "candidate_sha256", "policy_sha256", "verifier_pack_sha256",
    "guard_artifact_sha256"]

def hasExactly (fields : List (Text × Json)) (keys : List Text) : Bool :=
  fields.all (fun field => keys.contains field.1) &&
    keys.all (fun key => (fields.map Prod.fst).contains key)

/-- `fields[key] == value` of a text or a number. -/
def holds (fields : List (Text × Json)) (key : String) (value : Json) : Bool :=
  match fields.lookup key.toList with
  | none => false
  | some found => sameScalar value found

def optionalText : Option Text → Json
  | none => .null
  | some text => .string text

def authorizationBinds (source context : List (Text × Json)) (auth : AuthorizationSource) : Bool :=
  holds context "repository" (.string auth.repository) &&
    holds context "repository_id" (.string auth.repositoryId) &&
    holds source "pull_request_number" (.int auth.pullRequestNumber) &&
    holds source "base_sha" (.string auth.baseSha) &&
    holds source "head_sha" (.string auth.headSha) &&
    holds context "base_tree_sha" (.string auth.baseTreeSha) &&
    holds context "head_tree_sha" (.string auth.headTreeSha)

def proposalBinds (source context : List (Text × Json)) (proposed : ProposalSource) : Bool :=
  holds context "repository" (.string proposed.repository) &&
    holds source "pull_request_number" (.int proposed.pullRequestNumber) &&
    holds source "base_sha" (.string proposed.baseSha) &&
    holds source "head_sha" (.string proposed.headSha)

def requireRevision (fields : List (Text × Json)) (key : String) (value : Text) :
    Except Text Unit :=
  refuse (holds fields key (.string value) = false)
    ("raw-Git agent-change " ++ key.toList ++ " differs from finalizer context")

def requireDerived (agrees : Prop) [Decidable agrees] (field : String) : Except Text Unit :=
  refuse (¬agrees)
    ("proposal " ++ field.toList ++ " differs from raw-Git derivation")

def differentGenerations : Text :=
  "proposal and raw-Git bindings use different contract generations"

def requireCandidate : ProposedCandidate → CandidateBinding → Except Text Unit
  | .v1 digest size, .v1 derivedDigest derivedSize => do
      requireDerived (digest = derivedDigest) "candidate_sha256"
      requireDerived (size = derivedSize) "candidate_size"
  | .v2 identity profile, .v2 _ derivedProfile derivedIdentity _ _ => do
      requireDerived (identity = derivedIdentity) "candidate_identity"
      requireDerived (profile = derivedProfile) "candidate_selection_profile"
  | _, _ => .error differentGenerations

def requireDigest (agrees : Prop) [Decidable agrees] (field : String) : Except Text Unit :=
  refuse (¬agrees)
    ("proposal/authorization/finalizer " ++ field.toList ++ " binding mismatch")

def requireDigests (context : List (Text × Json)) (proposed required derived : PolicyDigests) :
    Except Text Unit := do
  requireDigest (proposed.policySha256 = derived.policySha256 ∧
    required.policySha256 = derived.policySha256 ∧
    holds context "policy_sha256" (.string derived.policySha256) = true) "policy_sha256"
  requireDigest (proposed.verifierPackSha256 = derived.verifierPackSha256 ∧
    required.verifierPackSha256 = derived.verifierPackSha256 ∧
    holds context "verifier_pack_sha256" (optionalText derived.verifierPackSha256) = true)
    "verifier_pack_sha256"

def admitPath (patterns : List Text) (path : Text) : Except Text Unit := do
  refuse (isForbiddenControlPath mapping path = true)
    ("agent authorization cannot permit judge-owned path: " ++ path)
  refuse (matchesScope path patterns = false)
    ("agent change path is outside its trusted authorization: " ++ path)

def admitPaths (patterns : List Text) : List Text → Except Text Unit
  | [] => pure ()
  | path :: rest => do
      admitPath mapping patterns path
      admitPaths patterns rest

def validatedBindings : Except Text DerivedAgentChangeBindings := do
  let checked ← validateAgentChangeBindings mapping bindings
  let _ ← agentChangeBindingsBytes mapping checked
  pure checked

def verifyAgentChangeContract : Except Text VerifiedAgentChangeContract := do
  let checked ← validatedBindings mapping bindings
  refuse (proposal.format ≠ checked.format) differentGenerations
  refuse (hasExactly source requiredSource = false)
    "expected finalizer source has non-canonical keys"
  refuse (hasExactly context requiredContext = false)
    "expected finalizer context has non-canonical keys"
  refuse (authorizationBinds source context authorization.source = false)
    "authorization source does not bind the finalizer source/context"
  refuse (proposalBinds source context proposal.source = false)
    "proposal source does not bind the finalizer source/context"
  requireRevision source "base_sha" checked.revisions.baseSha
  requireRevision source "head_sha" checked.revisions.headSha
  requireRevision context "base_tree_sha" checked.revisions.baseTreeSha
  requireRevision context "head_tree_sha" checked.revisions.headTreeSha
  requireCandidate proposal.candidate checked.candidate
  requireDerived (proposal.changedPaths = checked.changedPaths) "changed_paths"
  requireDerived (proposal.deletedPaths = checked.deletedPaths) "deleted_paths"
  requireDerived (proposal.touchedPaths = checked.touchedPaths) "touched_paths"
  refuse (holds context "candidate_sha256" (.string checked.legacyGuardCandidateSha256) = false)
    "finalizer legacy Guard candidate digest differs from raw-Git derivation"
  requireDigests context proposal.observedPolicy authorization.required checked.digests
  refuse (authorization.scope.maximumTouchedPaths < checked.touchedPaths.length)
    "agent change exceeds the authorized path-count limit"
  refuse (authorization.scope.maximumCandidateBytes < checked.candidateSize)
    "agent change exceeds the authorized candidate-size limit"
  refuse (checked.deletedPaths ≠ [] ∧ authorization.scope.allowDeletions = false)
    "agent change contains unauthorized deletions"
  admitPaths mapping authorization.scope.allowedPatterns checked.touchedPaths
  pure ⟨proposal, authorization, checked⟩

end

/-! What a scope covers -/

/-- A literal path covers itself; a directory covers its own path and what lies below it. -/
def Covers (pattern path : Text) : Prop :=
  (Text.endsWith pattern everythingBelow = false ∧ path = pattern) ∨
    ∃ root, pattern = root ++ everythingBelow ∧
      (path = root ∨ ∃ below, path = root ++ '/' :: below)

theorem matches_pattern_iff (path pattern : Text) :
    matchesPattern path pattern = true ↔ Covers pattern path := by
  unfold matchesPattern Covers
  cases directory : Text.endsWith pattern everythingBelow with
  | false =>
    have apart (root : Text) : pattern ≠ root ++ everythingBelow := by
      intro same
      rw [Text.endsWith, List.isSuffixOf_iff_suffix.mpr ⟨root, same.symm⟩] at directory
      cases directory
    simp [apart]
  | true =>
    rcases List.isSuffixOf_iff_suffix.mp directory with ⟨root, joined⟩
    have shorter : pattern.take (pattern.length - 3) = root := by
      rw [← joined, List.length_append]
      exact List.take_left
    have unique (other : Text) : pattern = other ++ everythingBelow ↔ other = root := by
      rw [← joined, List.append_left_inj]
      exact eq_comm
    have below : Text.startsWith path (root ++ ['/']) = true ↔
        ∃ below, path = root ++ '/' :: below := by
      rw [Text.startsWith, List.isPrefixOf_iff_prefix]
      simp [List.IsPrefix, eq_comm]
    simp [shorter, unique, below]

theorem matches_scope_iff (path : Text) (patterns : List Text) :
    matchesScope path patterns = true ↔ ∃ pattern ∈ patterns, Covers pattern path := by
  simp [matchesScope, List.any_eq_true, matches_pattern_iff]

theorem admit_paths_ok (mapping : CaseMapping) (patterns paths : List Text) (answer : Unit)
    (admitted : admitPaths mapping patterns paths = .ok answer) :
    ∀ path ∈ paths, isForbiddenControlPath mapping path = false ∧
      ∃ pattern ∈ patterns, Covers pattern path := by
  induction paths with
  | nil => simp
  | cons first rest ih =>
    simp only [admitPaths, admitPath, bind_ok, refuse_ok] at admitted
    rcases admitted with ⟨_, ⟨_, allowed, inside⟩, later⟩
    intro path listed
    rcases List.mem_cons.mp listed with same | among
    · rw [same, ← matches_scope_iff]
      exact ⟨by simpa using allowed, by simpa using inside⟩
    · exact ih later path among

/-! What an accepted contract agrees on -/

def Names : ProposedCandidate → CandidateBinding → Prop
  | .v1 digest size, .v1 derivedDigest derivedSize => digest = derivedDigest ∧ size = derivedSize
  | .v2 identity profile, .v2 _ derivedProfile derivedIdentity _ _ =>
    identity = derivedIdentity ∧ profile = derivedProfile
  | _, _ => False

theorem require_candidate_ok (proposed : ProposedCandidate) (derived : CandidateBinding)
    (answer : Unit) (agreed : requireCandidate proposed derived = .ok answer) :
    Names proposed derived := by
  cases proposed with
  | v1 digest size =>
    cases derived with
    | v1 derivedDigest derivedSize =>
      simpa [Names, requireCandidate, requireDerived] using agreed
    | v2 => cases agreed
  | v2 identity profile =>
    cases derived with
    | v1 => cases agreed
    | v2 objectFormat derivedProfile derivedIdentity legacy size =>
      simpa [Names, requireCandidate, requireDerived] using agreed

theorem require_digests_ok (context : List (Text × Json))
    (proposed required derived : PolicyDigests)
    (answer : Unit) (agreed : requireDigests context proposed required derived = .ok answer) :
    proposed = derived ∧ required = derived := by
  simp only [requireDigests, requireDigest, bind_ok, refuse_ok, not_not] at agreed
  rcases agreed with ⟨_, ⟨proposedPolicy, requiredPolicy, _⟩, proposedPack, requiredPack, _⟩
  cases proposed
  cases required
  cases derived
  cases proposedPolicy
  cases requiredPolicy
  cases proposedPack
  cases requiredPack
  exact ⟨rfl, rfl⟩

structure Agreed (mapping : CaseMapping) (proposal : AgentChangeProposal)
    (authorization : AgentChangeAuthorization) (bindings : DerivedAgentChangeBindings) : Prop where
  candidate : Names proposal.candidate bindings.candidate
  changed : proposal.changedPaths = bindings.changedPaths
  deleted : proposal.deletedPaths = bindings.deletedPaths
  touched : proposal.touchedPaths = bindings.touchedPaths
  digests : proposal.observedPolicy = bindings.digests ∧ authorization.required = bindings.digests
  count : bindings.touchedPaths.length ≤ authorization.scope.maximumTouchedPaths
  deletions : authorization.scope.allowDeletions = false → bindings.deletedPaths = []
  admitted : ∀ path ∈ bindings.touchedPaths, isForbiddenControlPath mapping path = false ∧
    ∃ pattern ∈ authorization.scope.allowedPatterns, Covers pattern path

theorem verify_contract_ok (mapping : CaseMapping) (proposal : AgentChangeProposal)
    (authorization : AgentChangeAuthorization) (bindings : DerivedAgentChangeBindings)
    (source context : List (Text × Json)) (contract : VerifiedAgentChangeContract)
    (accepted : verifyAgentChangeContract mapping proposal authorization bindings source context =
      .ok contract) : Agreed mapping proposal authorization bindings := by
  simp only [verifyAgentChangeContract, validatedBindings, bind_ok, pure_ok, refuse_ok,
    requireDerived, not_not] at accepted
  rcases accepted with ⟨_, ⟨checked, valid, _, _, rfl⟩, _, _, _, _, _, _, _, _, _, _, _, _, _, _, _, _,
    _, _, _, candidate, _, changed, _, deleted, _, touched, _, _, _, digests, _, count, _, _, _,
    deletions, _, admitted, _⟩
  have same := validate_bindings_ok mapping bindings checked valid
  subst same
  refine ⟨require_candidate_ok _ _ _ candidate, changed, deleted, touched,
    require_digests_ok context _ _ _ _ digests, by omega, ?_, admit_paths_ok _ _ _ _ admitted⟩
  intro refused
  by_contra present
  exact deletions ⟨present, refused⟩

/-! Admission -/

/-- Every leaf in which two trees differ is covered and not judge-owned, there are no more of them
than the scope allows, and none is gone where it allows no deletion. -/
structure Authorized (mapping : CaseMapping) (scope : AuthorizationScope) (base head : GitReader) :
    Prop where
  covered : ∀ path, Differs base head path → ∃ pattern ∈ scope.allowedPatterns, Covers pattern path
  foreign : ∀ path, Differs base head path → isProtected mapping path [] = false ∧
    isProtectedConfig mapping path true = false ∧ isProtectedCi mapping path [] = false ∧
    isJudgeAutoexec mapping path = false
  few : ∀ paths : List Text, paths.Nodup → (∀ path ∈ paths, Differs base head path) →
    paths.length ≤ scope.maximumTouchedPaths
  kept : scope.allowDeletions = false → ∀ path, base.rows.lookup path ≠ none →
    head.rows.lookup path ≠ none

def Identifies (quoted : Text → Text) (blocks : Dict Text Text) : ProposedCandidate → Prop
  | .v1 digest size =>
    digest = Sha256.hexdigest (serializeCandidateBlocks blocks) ∧
      size = (utf8 (serializeCandidateBlocks blocks)).length
  | .v2 identity profile =>
    (∃ framed, candidateTextMapIdentity quoted blocks = .ok framed ∧
      identity = identityPayload framed) ∧ profile = agentChangeCandidateSelectionProfile

/-- What a proposal says is what the two commits are. -/
structure Truthful (host : DerivationHost) (format : BindingFormat) (base head : CommitReader)
    (revisions : Revisions) (proposal : AgentChangeProposal) : Prop where
  generation : proposal.format = format
  changed : ∀ path, path ∈ proposal.changedPaths ↔
    head.rows.lookup path ≠ none ∧ Differs base.toGitReader head.toGitReader path
  deleted : ∀ path, path ∈ proposal.deletedPaths ↔
    base.rows.lookup path ≠ none ∧ head.rows.lookup path = none
  touched : ∀ path, path ∈ proposal.touchedPaths ↔
    Differs base.toGitReader head.toGitReader path
  candidate : ∃ blocks, agentChangeBlocks host format base head = .ok blocks ∧
    Identifies host.quoted blocks proposal.candidate
  policy : ∃ raw, agentChangeEvaluation host format base head revisions = .ok raw ∧
    proposal.observedPolicy = ⟨raw.policySha256, raw.verifierPackSha256⟩

theorem forbidden_false_iff (mapping : CaseMapping) (path : Text) :
    isForbiddenControlPath mapping path = false ↔
      isProtected mapping path [] = false ∧ isProtectedConfig mapping path true = false ∧
        isProtectedCi mapping path [] = false ∧ isJudgeAutoexec mapping path = false := by
  simp only [isForbiddenControlPath, Bool.or_eq_false_iff, and_assoc]

section

variable (host : DerivationHost) (format : BindingFormat) (revisions : Revisions)
  (blocks : Dict Text Text)

theorem names_identifies (binding : CandidateBinding) (proposed : ProposedCandidate)
    (bound : bindCandidate host format revisions blocks = .ok binding)
    (named : Names proposed binding) : Identifies host.quoted blocks proposed := by
  cases format with
  | v1 =>
    cases bound
    cases proposed with
    | v1 digest size => exact named
    | v2 identity profile => exact absurd named id
  | v2 =>
    simp only [bindCandidate, bind_ok, pure_ok] at bound
    rcases bound with ⟨framed, identified, _, _, built⟩
    subst built
    cases proposed with
    | v1 digest size => exact absurd named id
    | v2 identity profile =>
      cases found : candidateTextMapIdentity host.quoted blocks with
      | error problem =>
        rw [found] at identified
        cases identified
      | ok answer =>
        rw [found] at identified
        cases identified
        exact ⟨⟨framed, found, named.1⟩, named.2⟩

theorem bound_format (bindings : DerivedAgentChangeBindings)
    (bound : bindCandidate host format revisions blocks = .ok bindings.candidate) :
    bindings.format = format := by
  unfold DerivedAgentChangeBindings.format
  cases format with
  | v1 =>
    rw [bindCandidate, pure_ok] at bound
    rw [← bound]
  | v2 =>
    simp only [bindCandidate, bind_ok, pure_ok] at bound
    rcases bound with ⟨_, _, _, _, built⟩
    rw [← built]

end

theorem names_format (proposal : AgentChangeProposal) (bindings : DerivedAgentChangeBindings)
    (named : Names proposal.candidate bindings.candidate) : proposal.format = bindings.format := by
  unfold AgentChangeProposal.format DerivedAgentChangeBindings.format
  cases proposed : proposal.candidate with
  | v1 digest size =>
    cases derived : bindings.candidate with
    | v1 => rfl
    | v2 =>
      rw [proposed, derived] at named
      exact absurd named id
  | v2 identity profile =>
    cases derived : bindings.candidate with
    | v1 =>
      rw [proposed, derived] at named
      exact absurd named id
    | v2 => rfl

section Admission

variable (host : DerivationHost) (format : BindingFormat) (base head : CommitReader)
  (revisions : Revisions) (bindings : DerivedAgentChangeBindings) (proposal : AgentChangeProposal)
  (authorization : AgentChangeAuthorization)

theorem touched_few (raw : RawEvaluation) (blocks : Dict Text Text)
    (baseTree headTree : Dict Text GitEntry)
    (origin : DerivedFrom host format base head revisions bindings raw blocks baseTree headTree)
    (paths : List Text) (distinct : paths.Nodup)
    (differ : ∀ path ∈ paths, Differs base.toGitReader head.toGitReader path) :
    paths.length ≤ bindings.touchedPaths.length := by
  have inside : paths.Subperm bindings.touchedPaths := by
    apply List.subperm_of_subset distinct
    intro path listed
    exact (derived_touched_iff origin path).mpr (differ path listed)
  exact inside.length_le

/-- Whatever a proposal claims and an authorization grants, an accepted change is authorized on
every leaf of the two trees, and the proposal says about it what raw Git says. -/
theorem accepted_change_is_authorized (source context : List (Text × Json))
    (contract : VerifiedAgentChangeContract)
    (derived : deriveAgentChangeBindings host format base head revisions = .ok bindings)
    (accepted : verifyAgentChangeContract host.mapping proposal authorization bindings source
      context = .ok contract) :
    Authorized host.mapping authorization.scope base.toGitReader head.toGitReader ∧
      Truthful host format base head revisions proposal ∧
      proposal.changedPaths = bindings.changedPaths ∧
      proposal.deletedPaths = bindings.deletedPaths ∧
      proposal.touchedPaths = bindings.touchedPaths ∧
      Names proposal.candidate bindings.candidate ∧ proposal.observedPolicy = bindings.digests := by
  have agreed := verify_contract_ok _ _ _ _ _ _ _ accepted
  rcases derive_bindings_ok host format base head revisions bindings derived with
    ⟨raw, blocks, baseTree, headTree, origin⟩
  have admitted (path : Text) (differs : Differs base.toGitReader head.toGitReader path) :=
    agreed.admitted path ((derived_touched_iff origin path).mpr differs)
  refine ⟨⟨?_, ?_, ?_, ?_⟩, ⟨?_, ?_, ?_, ?_, ?_, ?_⟩, agreed.changed, agreed.deleted, agreed.touched,
    agreed.candidate, agreed.digests.1⟩
  · intro path differs
    exact (admitted path differs).2
  · intro path differs
    exact (forbidden_false_iff host.mapping path).mp (admitted path differs).1
  · intro paths distinct differ
    exact (touched_few host format base head revisions bindings raw blocks baseTree headTree origin
      paths distinct differ).trans agreed.count
  · intro refused path present gone
    have deleted := (derived_deleted_iff origin path).mpr ⟨present, gone⟩
    rw [agreed.deletions refused] at deleted
    cases deleted
  · rw [names_format proposal bindings agreed.candidate]
    exact bound_format host format revisions blocks bindings origin.candidate
  · rw [agreed.changed]
    exact derived_changed_iff origin
  · rw [agreed.deleted]
    exact derived_deleted_iff origin
  · rw [agreed.touched]
    exact derived_touched_iff origin
  · exact ⟨blocks, origin.read, names_identifies host format revisions blocks _ _ origin.candidate
      agreed.candidate⟩
  · exact ⟨raw, origin.evaluated, by rw [agreed.digests.1, origin.digests]⟩

end Admission

/-! A change of one file and a deletion under an ignored name -/

def sampleHost : DerivationHost where
  mapping := asciiCase
  shown := JsonCodec.dumps true fun _ => []
  quoted := fun text => "'" ++ text ++ "'"
  decodePolicy := readJson
  decodeManifest := fun data => readJson data.data.toList
  dumps := spacedDumps
  policyPath := ".evoguard.json"

def sampleSha (digit : Char) : Text := List.replicate 40 digit

def sampleFile (digit : Char) : GitEntry := ⟨"100644", "blob", sampleSha digit⟩

def sampleContent (objectId : Text) : ByteArray :=
  if objectId = sampleSha '0' then ⟨(utf8 "\x7b\x7d").toArray⟩
  else ⟨(utf8 ("revision " ++ objectId.take 1)).toArray⟩

def sampleBase : CommitReader where
  rows := [(".evoguard.json", sampleFile '0'), ("dist/old.js", sampleFile '1'),
    ("src/app.py", sampleFile '2')]
  content := sampleContent
  revParse := .ok (sampleSha 'c')

def sampleHead : CommitReader where
  rows := [(".evoguard.json", sampleFile '0'), ("src/app.py", sampleFile '3')]
  content := sampleContent
  revParse := .ok (sampleSha 'd')

def sampleRevisions : Revisions := ⟨sampleSha 'a', sampleSha 'b', sampleSha 'c', sampleSha 'd'⟩

def sampleScope : AuthorizationScope where
  allowedPatterns := ["dist/**", "src/app.py"]
  maximumTouchedPaths := 2
  maximumCandidateBytes := 4096
  allowDeletions := true

def sampleAuthorization (bindings : DerivedAgentChangeBindings) : AgentChangeAuthorization where
  source := ⟨"owner/project", "17", 4, sampleSha 'a', sampleSha 'b', sampleSha 'c',
    sampleSha 'd'⟩
  scope := sampleScope
  required := bindings.digests

def sampleProposal (bindings : DerivedAgentChangeBindings) : AgentChangeProposal where
  source := ⟨"owner/project", 4, sampleSha 'a', sampleSha 'b'⟩
  candidate :=
    match bindings.candidate with
    | .v1 digest size => .v1 digest size
    | .v2 _ profile identity _ _ => .v2 identity profile
  changedPaths := ["src/app.py"]
  deletedPaths := ["dist/old.js"]
  touchedPaths := ["dist/old.js", "src/app.py"]
  observedPolicy := bindings.digests

def sampleSource : List (Text × Json) :=
  [("pull_request_number", .int 4), ("workflow_run_id", .string "9"),
    ("workflow_run_attempt", .int 1), ("base_sha", .string (sampleSha 'a')),
    ("head_sha", .string (sampleSha 'b'))]

def sampleContext (bindings : DerivedAgentChangeBindings) : List (Text × Json) :=
  [("repository", .string "owner/project"),
    ("repository_id", .string "17"), ("run_id", .string "9"),
    ("run_attempt", .int 1), ("base_sha", .string (sampleSha 'a')),
    ("head_sha", .string (sampleSha 'b')), ("base_tree_sha", .string (sampleSha 'c')),
    ("head_tree_sha", .string (sampleSha 'd')),
    ("candidate_sha256", .string bindings.legacyGuardCandidateSha256),
    ("policy_sha256", .string bindings.digests.policySha256),
    ("verifier_pack_sha256", optionalText bindings.digests.verifierPackSha256),
    ("guard_artifact_sha256", .string (sampleSha 'e'))]

/-- The facts of the sample, whatever its two digests are. -/
def sampleBindings (policy candidate : Text) : DerivedAgentChangeBindings where
  revisions := sampleRevisions
  candidate := .v1 candidate 48
  changedPaths := ["src/app.py"]
  deletedPaths := ["dist/old.js"]
  touchedPaths := ["dist/old.js", "src/app.py"]
  digests := ⟨policy, none⟩

def sampleBlocks : Dict Text Text := Dict.ofPairs [("src/app.py", "revision 3")]

section Sample

variable (policy candidate : Text) (policyHex : Sha256.isHex64 policy = true)
  (candidateHex : Sha256.isHex64 candidate = true)

include policyHex candidateHex

theorem sample_bindings_valid : validateAgentChangeBindings asciiCase
    (sampleBindings policy candidate) = .ok (sampleBindings policy candidate) := by
  have revisions : validateRevision (sampleSha 'a') "base_sha" = .ok () ∧
      validateRevision (sampleSha 'b') "head_sha" = .ok () ∧
      validateRevision (sampleSha 'c') "base_tree_sha" = .ok () ∧
      validateRevision (sampleSha 'd') "head_tree_sha" = .ok () := by
    decide
  have paths : validatePathRelations asciiCase (sampleBindings [] []) = .ok () := by
    decide
  have bound : validateV1Candidate candidate 48 = .ok () := by
    simp [validateV1Candidate, requireSha256, candidateHex, maxAgentChangeCandidateBytes]
  have digest : requireSha256 policy "agent-change policy_sha256" = .ok () := by
    simp [requireSha256, policyHex]
  simp only [validateAgentChangeBindings, bind_ok, pure_ok]
  exact ⟨(), revisions.1, (), revisions.2.1, (), revisions.2.2.1, (), revisions.2.2.2, (), bound,
    (), paths, (), digest, (), rfl, trivial⟩

theorem sample_field_short : ∀ field ∈ (sampleBindings policy candidate).payload,
    (JsonCodec.quoted true field.1).length +
      (JsonCodec.encode true (fun _ => []) field.2).length + 2 ≤ 1000 := by
  have digest (key text : Text) (short : key.length ≤ 16) (hex : Sha256.isHex64 text = true) :
      (JsonCodec.quoted true key).length +
        (JsonCodec.encode true (fun _ => []) (.string text)).length + 2 ≤ 1000 := by
    have keyBound := JsonCodec.quoted_length true key
    have textBound := JsonCodec.quoted_length true text
    have length : text.length = 64 := by
      simp only [Sha256.isHex64, Bool.and_eq_true, beq_iff_eq] at hex
      exact hex.1
    rw [JsonCodec.encode]
    omega
  have closed : ∀ field ∈ (sampleBindings [] []).payload,
      (JsonCodec.quoted true field.1).length +
        (JsonCodec.encode true (fun _ => []) field.2).length + 2 ≤ 1000 :=
    each_of_all _ _ (by decide)
  have split : (sampleBindings policy candidate).payload =
      (sampleBindings [] []).payload.take 8 ++ ("policy_sha256".toList, .string policy) ::
        ("verifier_pack_sha256".toList, .null) :: ("candidate_sha256".toList, .string candidate) ::
          (sampleBindings [] []).payload.drop 11 := rfl
  have null : ("verifier_pack_sha256".toList, Json.null) ∈ (sampleBindings [] []).payload :=
    List.mem_of_getElem? (i := 9) rfl
  intro field inside
  rw [split, List.mem_append, List.mem_cons, List.mem_cons, List.mem_cons] at inside
  rcases inside with before | same | same | same | after
  · exact closed field (List.mem_of_mem_take before)
  · rw [same]
    exact digest "policy_sha256" policy (by decide) policyHex
  · rw [same]
    exact closed _ null
  · rw [same]
    exact digest "candidate_sha256" candidate (by decide) candidateHex
  · exact closed field (List.mem_of_mem_drop after)

theorem sample_bytes_written : ∃ data, agentChangeBindingsBytes asciiCase
    (sampleBindings policy candidate) = .ok data := by
  have valid := sample_bindings_valid policy candidate policyHex candidateHex
  have short := sample_field_short policy candidate policyHex candidateHex
  have sorted : JsonCodec.sortKeys (.object (sampleBindings policy candidate).payload) =
      .object (JsonCodec.sortFields (sampleBindings policy candidate).payload) := rfl
  have whole := JsonCodec.encode_object_length true (fun _ => [])
    (JsonCodec.sortFields (sampleBindings policy candidate).payload)
  rw [((JsonCodec.sort_fields_perm _).map _).sum_eq] at whole
  have total := List.sum_le_card_nsmul ((sampleBindings policy candidate).payload.map fun field =>
      (JsonCodec.quoted true field.1).length +
        (JsonCodec.encode true (fun _ => []) field.2).length + 2) 1000 (by
    intro length inside
    rcases List.mem_map.mp inside with ⟨field, listed, same⟩
    rw [← same]
    exact short field listed)
  have count : (sampleBindings policy candidate).payload.length = 12 := rfl
  rw [List.length_map, count, smul_eq_mul] at total
  have bytes := utf8_length (JsonCodec.dumps true (fun _ => [])
    (.object (sampleBindings policy candidate).payload) ++ ['\n'])
  rw [JsonCodec.dumps, sorted, List.length_append, List.length_singleton] at bytes
  refine ⟨utf8 (JsonCodec.dumps true (fun _ => [])
    (.object (sampleBindings policy candidate).payload) ++ ['\n']), ?_⟩
  simp only [agentChangeBindingsBytes, bind_ok, refuse_ok, pure_ok]
  refine ⟨_, valid, (), ?_, rfl⟩
  rw [JsonCodec.dumps, sorted, maxBindingsBytes]
  omega

omit policyHex candidateHex in
theorem sample_sources_bind :
    hasExactly (sampleContext (sampleBindings policy candidate)) requiredContext = true ∧
      authorizationBinds sampleSource (sampleContext (sampleBindings policy candidate))
        (sampleAuthorization (sampleBindings policy candidate)).source = true ∧
      proposalBinds sampleSource (sampleContext (sampleBindings policy candidate))
        (sampleProposal (sampleBindings policy candidate)).source = true :=
  ⟨rfl, rfl, rfl⟩

omit policyHex candidateHex in
theorem sample_context_holds :
    holds (sampleContext (sampleBindings policy candidate)) "base_tree_sha"
        (.string (sampleSha 'c')) = true ∧
      holds (sampleContext (sampleBindings policy candidate)) "head_tree_sha"
        (.string (sampleSha 'd')) = true ∧
      holds (sampleContext (sampleBindings policy candidate)) "candidate_sha256"
        (.string candidate) = true ∧
      holds (sampleContext (sampleBindings policy candidate)) "policy_sha256"
        (.string policy) = true ∧
      holds (sampleContext (sampleBindings policy candidate)) "verifier_pack_sha256" .null = true := by
  have found (key : String) (text : Text)
      (listed : (sampleContext (sampleBindings policy candidate)).lookup key.toList =
        some (.string text)) :
      holds (sampleContext (sampleBindings policy candidate)) key (.string text) = true := by
    simp [holds, listed, sameScalar]
  exact ⟨found _ _ rfl, found _ _ rfl, found _ _ rfl, found _ _ rfl, rfl⟩

theorem sample_contract_accepted : ∃ contract, verifyAgentChangeContract asciiCase
    (sampleProposal (sampleBindings policy candidate))
    (sampleAuthorization (sampleBindings policy candidate)) (sampleBindings policy candidate)
    sampleSource (sampleContext (sampleBindings policy candidate)) = .ok contract := by
  have valid := sample_bindings_valid policy candidate policyHex candidateHex
  rcases sample_bytes_written policy candidate policyHex candidateHex with ⟨data, written⟩
  have source : hasExactly sampleSource requiredSource = true ∧
      holds sampleSource "base_sha" (.string (sampleSha 'a')) = true ∧
      holds sampleSource "head_sha" (.string (sampleSha 'b')) = true := by
    decide
  have binds := sample_sources_bind policy candidate
  have context := sample_context_holds policy candidate
  have agreed : requireCandidate (.v1 candidate 48) (.v1 candidate 48) = .ok () := by
    simp [requireCandidate, requireDerived]
  have admitted : admitPaths asciiCase sampleScope.allowedPatterns
      ["dist/old.js", "src/app.py"] = .ok () := by
    decide
  have room : ¬sampleScope.maximumTouchedPaths < 2 ∧ ¬sampleScope.maximumCandidateBytes < 48 ∧
      ¬(["dist/old.js".toList] ≠ [] ∧ sampleScope.allowDeletions = false) := by
    decide
  refine ⟨⟨sampleProposal (sampleBindings policy candidate),
    sampleAuthorization (sampleBindings policy candidate), sampleBindings policy candidate⟩, ?_⟩
  simp only [verifyAgentChangeContract, validatedBindings, requireRevision, requireDerived,
    requireDigests, requireDigest, bind_ok, pure_ok, refuse_ok, exists_const, Bool.not_eq_false,
    not_not]
  exact ⟨_, ⟨_, valid, data, written, rfl⟩, rfl, source.1, binds.1, binds.2.1, binds.2.2, source.2.1,
    source.2.2, context.1, context.2.1, (), agreed, rfl, rfl, rfl, context.2.2.1,
    ⟨⟨rfl, rfl, context.2.2.2.1⟩, rfl, rfl, context.2.2.2.2⟩, room.1, room.2.1, room.2.2, (), admitted,
    rfl⟩

end Sample

theorem sample_blocks_read :
    agentChangeBlocks sampleHost .v1 sampleBase sampleHead = .ok sampleBlocks :=
  ok_of_read _ Dict.entries Dict.entries_injective _ (by decide)

theorem sample_evaluation : ∃ raw,
    agentChangeEvaluation sampleHost .v1 sampleBase sampleHead sampleRevisions = .ok raw ∧
      raw.verifierPackSha256 = none := by
  have answered : (agentChangeEvaluation sampleHost .v1 sampleBase sampleHead
      sampleRevisions).toOption.map (·.verifierPackSha256) = some none := by
    decide
  cases evaluated : agentChangeEvaluation sampleHost .v1 sampleBase sampleHead sampleRevisions with
  | error problem =>
    rw [evaluated] at answered
    cases answered
  | ok raw =>
    rw [evaluated] at answered
    exact ⟨raw, rfl, by simpa [Except.toOption] using answered⟩

def sampleTree (reader : CommitReader) : Dict Text GitEntry := Dict.ofPairs reader.rows

theorem sample_trees_read :
    sampleBase.treeAt sampleHost sampleRevisions.baseSha = .ok (sampleTree sampleBase) ∧
      sampleHead.treeAt sampleHost sampleRevisions.headSha = .ok (sampleTree sampleHead) :=
  ⟨ok_of_read _ Dict.entries Dict.entries_injective _ (by decide),
    ok_of_read _ Dict.entries Dict.entries_injective _ (by decide)⟩

theorem sample_paths :
    sortPaths .v1 (changedTreePaths (sampleTree sampleBase) (sampleTree sampleHead)) =
        ["src/app.py".toList] ∧
      sortPaths .v1 (deletedTreePaths (sampleTree sampleBase) (sampleTree sampleHead)) =
        ["dist/old.js".toList] ∧
      sortPaths .v1 (["src/app.py".toList] ++ ["dist/old.js".toList]).dedup =
        ["dist/old.js".toList, "src/app.py".toList] := by
  decide

theorem sample_derived : ∃ policy candidate, Sha256.isHex64 policy = true ∧
    Sha256.isHex64 candidate = true ∧
    deriveAgentChangeBindings sampleHost .v1 sampleBase sampleHead sampleRevisions =
      .ok (sampleBindings policy candidate) := by
  rcases sample_evaluation with ⟨raw, evaluated, pack⟩
  rcases evaluation_digests sampleHost sampleBase sampleHead sampleRevisions _ _ _ raw evaluated with
    ⟨policyHex, blocks, read, same⟩
  have found : blocks = sampleBlocks := by
    have both := read.symm.trans sample_blocks_read
    cases both
    rfl
  subst found
  have candidateHex := Sha256.hexdigest_is_hex (serializeCandidateBlocks sampleBlocks)
  have valid := sample_bindings_valid raw.policySha256 _ policyHex candidateHex
  rcases sample_bytes_written raw.policySha256 _ policyHex candidateHex with ⟨data, written⟩
  have revisions : isGitSha sampleRevisions.baseSha = true ∧ isGitSha sampleRevisions.headSha = true ∧
      isGitSha sampleRevisions.baseTreeSha = true ∧ isGitSha sampleRevisions.headTreeSha = true := by
    decide
  have size : (utf8 (serializeCandidateBlocks sampleBlocks)).length = 48 := by
    decide
  have trees := sample_trees_read
  have paths := sample_paths
  refine ⟨raw.policySha256, Sha256.hexdigest (serializeCandidateBlocks sampleBlocks), policyHex,
    candidateHex, ?_⟩
  simp only [deriveAgentChangeBindings, validGitSha, bind_ok, pure_ok, refuse_ok, exists_const,
    Bool.not_eq_false, ne_eq, not_not]
  refine ⟨_, ⟨revisions.1, rfl⟩, _, ⟨revisions.2.1, rfl⟩, _, ⟨revisions.2.2.1, rfl⟩, _,
    ⟨revisions.2.2.2, rfl⟩, raw, evaluated, sampleBlocks, sample_blocks_read, same.symm,
    _, trees.1, _, trees.2, ?_⟩
  rw [paths.1, paths.2.1, paths.2.2, pack]
  exact ⟨by decide, _, by rw [bindCandidate, size]; rfl, _, valid, data, written, rfl⟩

theorem sample_change_is_authorized : ∃ bindings contract,
    deriveAgentChangeBindings sampleHost .v1 sampleBase sampleHead sampleRevisions = .ok bindings ∧
      verifyAgentChangeContract asciiCase (sampleProposal bindings) (sampleAuthorization bindings)
        bindings sampleSource (sampleContext bindings) = .ok contract ∧
      Authorized asciiCase sampleScope sampleBase.toGitReader sampleHead.toGitReader := by
  rcases sample_derived with ⟨policy, candidate, policyHex, candidateHex, derived⟩
  rcases sample_contract_accepted policy candidate policyHex candidateHex with ⟨contract, accepted⟩
  exact ⟨_, contract, derived, accepted, (accepted_change_is_authorized sampleHost .v1 sampleBase
    sampleHead sampleRevisions _ _ _ sampleSource _ contract derived accepted).1⟩

end EvoomGuard.Admission
