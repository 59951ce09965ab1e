import EvoomGuard.EvidenceBundle.Archive

/-!
The protected release source and its context: the two descriptors every later document of the
release chain repeats. An error is the text that is raised.
-/

namespace EvoomGuard.ReleaseChain

open EvidenceBundle Lib Lib.Checks Lib.Framing

def maxAttempt : Int := 2147483647

def isBoundedText (maximum : Nat) (text : Text) : Bool :=
  !text.isEmpty && decide (text.length ≤ maximum)

def hasControl (text : Text) : Bool := text.any fun character => decide (character.toNat < 0x20)

/-- `_bounded_string`. Every text here is scalar Unicode, so it has a UTF-8 encoding. -/
def boundedString (label : Text) (maximum : Nat) (value : Json) : Except Text Text := do
  let text ← textThat (isBoundedText maximum)
    (label ++ " must be a non-empty Unicode string of at most " ++
      JsonCodec.natText maximum ++ " characters") value
  refuse (hasControl text = true) (label ++ " must not contain control characters")
  pure text

/-- `[A-Za-z0-9](?:[A-Za-z0-9-]{0,38})/[A-Za-z0-9_.-]{1,100}`. -/
def isSourceRepository (text : Text) : Bool :=
  match Text.split '/' text with
  | [owner, name] =>
    owner.head?.any Char.isAlphanum && decide (owner.length ≤ 39) &&
      (owner.drop 1).all (fun character => character.isAlphanum || character == '-') &&
      !name.isEmpty && decide (name.length ≤ 100) &&
      name.all fun character => character.isAlphanum || ['_', '.', '-'].contains character
  | _ => false

/-- `[1-9][0-9]{0,255}`. -/
def isNumericId (text : Text) : Bool :=
  text.all Char.isDigit && text.head?.any (· != '0') && decide (text.length ≤ 256)

def sourceRepository (label : Text) (value : Json) : Except Text Text := do
  let text ← boundedString label 512 value
  refuse (isSourceRepository text = false)
    (label ++ " must be a canonical owner/repository")
  pure text

def validateNumericId (label : Text) (value : Json) : Except Text Text := do
  let text ← boundedString label 256 value
  refuse (isNumericId text = false) (label ++ " must be a non-zero decimal identifier")
  pure text

def validateGitSha (label : Text) : Json → Except Text Text :=
  textThat isGitDigest
    (label ++ " must be a lowercase 40/64-character immutable Git digest")

def validateSha256 (label : Text) : Json → Except Text Text :=
  textThat Sha256.isHex64 (label ++ " must be a lowercase SHA-256 digest")

def validateNullableSha256 (label : Text) : Json → Except Text (Option Text)
  | .null => .ok none
  | value =>
    (textThat Sha256.isHex64 (label ++ " must be a lowercase SHA-256 digest or null")
      value).map some

def validateAttempt (label : Text) : Json → Except Text Int :=
  intWithin 1 maxAttempt (label ++ " must be an integer from 1 through 2147483647")

def nullable : Option Text → Json
  | none => .null
  | some text => .string text

def mainRef : Text := "refs/heads/main"

structure ReleaseSource where
  repository : Text
  repositoryId : Text
  workflowRunId : Text
  workflowRunAttempt : Int
  targetCommitSha : Text
  targetTreeSha : Text
  deriving DecidableEq

inductive SourceKey where
  | repository
  | repositoryId
  | defaultBranch
  | workflowRunId
  | workflowRunAttempt
  | protectedRef
  | targetCommitSha
  | targetTreeSha
  deriving DecidableEq

def SourceKey.text : SourceKey → Text
  | .repository => "repository"
  | .repositoryId => "repository_id"
  | .defaultBranch => "default_branch"
  | .workflowRunId => "workflow_run_id"
  | .workflowRunAttempt => "workflow_run_attempt"
  | .protectedRef => "protected_ref"
  | .targetCommitSha => "target_commit_sha"
  | .targetTreeSha => "target_tree_sha"

def sourceSchema : Schema SourceKey where
  keys := [.repository, .repositoryId, .defaultBranch, .workflowRunId, .workflowRunAttempt,
    .protectedRef, .targetCommitSha, .targetTreeSha]
  name := SourceKey.text

def ReleaseSource.value (source : ReleaseSource) : SourceKey → Json
  | .repository => .string source.repository
  | .repositoryId => .string source.repositoryId
  | .defaultBranch => .string "main"
  | .workflowRunId => .string source.workflowRunId
  | .workflowRunAttempt => .int source.workflowRunAttempt
  | .protectedRef => .string mainRef
  | .targetCommitSha => .string source.targetCommitSha
  | .targetTreeSha => .string source.targetTreeSha

def ReleaseSource.asDict (source : ReleaseSource) : List (Text × Json) :=
  sourceSchema.object source.value

def checkSource (get : SourceKey → Json) : Except Text ReleaseSource := do
  let repository ← sourceRepository "source.repository" (get .repository)
  let repositoryId ← validateNumericId "source.repository_id" (get .repositoryId)
  exactText "main" "V1 release source default_branch must be exactly 'main'"
    (get .defaultBranch)
  exactText mainRef "V1 release source protected_ref must be exactly 'refs/heads/main'"
    (get .protectedRef)
  let workflowRunId ← validateNumericId "source.workflow_run_id" (get .workflowRunId)
  let workflowRunAttempt ← validateAttempt "source.workflow_run_attempt"
    (get .workflowRunAttempt)
  let targetCommitSha ← validateGitSha "source.target_commit_sha" (get .targetCommitSha)
  let targetTreeSha ← validateGitSha "source.target_tree_sha" (get .targetTreeSha)
  pure ⟨repository, repositoryId, workflowRunId, workflowRunAttempt, targetCommitSha, targetTreeSha⟩

def contextFormat : Text := "EVOGUARD_RELEASE_SOURCE_CONTEXT_V1"

structure ReleaseContext where
  repository : Text
  repositoryId : Text
  runId : Text
  runAttempt : Int
  targetCommitSha : Text
  targetTreeSha : Text
  parentCommitSha : Text
  parentTreeSha : Text
  candidateSha256 : Text
  policySha256 : Text
  verifierPackSha256 : Option Text
  deriving DecidableEq

inductive ContextKey where
  | format
  | repository
  | repositoryId
  | runId
  | runAttempt
  | protectedRef
  | targetCommitSha
  | targetTreeSha
  | parentCommitSha
  | parentTreeSha
  | candidateSha256
  | policySha256
  | verifierPackSha256
  deriving DecidableEq

def ContextKey.text : ContextKey → Text
  | .format => "format"
  | .repository => "repository"
  | .repositoryId => "repository_id"
  | .runId => "run_id"
  | .runAttempt => "run_attempt"
  | .protectedRef => "protected_ref"
  | .targetCommitSha => "target_commit_sha"
  | .targetTreeSha => "target_tree_sha"
  | .parentCommitSha => "parent_commit_sha"
  | .parentTreeSha => "parent_tree_sha"
  | .candidateSha256 => "candidate_sha256"
  | .policySha256 => "policy_sha256"
  | .verifierPackSha256 => "verifier_pack_sha256"

def contextSchema : Schema ContextKey where
  keys := [.format, .repository, .repositoryId, .runId, .runAttempt, .protectedRef,
    .targetCommitSha, .targetTreeSha, .parentCommitSha, .parentTreeSha, .candidateSha256,
    .policySha256, .verifierPackSha256]
  name := ContextKey.text

def ReleaseContext.value (context : ReleaseContext) : ContextKey → Json
  | .format => .string contextFormat
  | .repository => .string context.repository
  | .repositoryId => .string context.repositoryId
  | .runId => .string context.runId
  | .runAttempt => .int context.runAttempt
  | .protectedRef => .string mainRef
  | .targetCommitSha => .string context.targetCommitSha
  | .targetTreeSha => .string context.targetTreeSha
  | .parentCommitSha => .string context.parentCommitSha
  | .parentTreeSha => .string context.parentTreeSha
  | .candidateSha256 => .string context.candidateSha256
  | .policySha256 => .string context.policySha256
  | .verifierPackSha256 => nullable context.verifierPackSha256

def ReleaseContext.asDict (context : ReleaseContext) : List (Text × Json) :=
  contextSchema.object context.value

def checkContext (get : ContextKey → Json) : Except Text ReleaseContext := do
  exactText contextFormat ("release-source context format must be '" ++ contextFormat ++
    "'") (get .format)
  let repository ← sourceRepository "context.repository" (get .repository)
  let repositoryId ← validateNumericId "context.repository_id" (get .repositoryId)
  let runId ← validateNumericId "context.run_id" (get .runId)
  let runAttempt ← validateAttempt "context.run_attempt" (get .runAttempt)
  exactText mainRef ("V1 release-source context protected_ref must be exactly " ++
    "'refs/heads/main'").toList (get .protectedRef)
  let targetCommitSha ← validateGitSha "context.target_commit_sha" (get .targetCommitSha)
  let targetTreeSha ← validateGitSha "context.target_tree_sha" (get .targetTreeSha)
  let parentCommitSha ← validateGitSha "context.parent_commit_sha" (get .parentCommitSha)
  let parentTreeSha ← validateGitSha "context.parent_tree_sha" (get .parentTreeSha)
  let candidateSha256 ← validateSha256 "context.candidate_sha256" (get .candidateSha256)
  let policySha256 ← validateSha256 "context.policy_sha256" (get .policySha256)
  let verifierPackSha256 ← validateNullableSha256 "context.verifier_pack_sha256"
    (get .verifierPackSha256)
  pure ⟨repository, repositoryId, runId, runAttempt, targetCommitSha, targetTreeSha,
    parentCommitSha, parentTreeSha, candidateSha256, policySha256, verifierPackSha256⟩

section Validators

variable (host : EvidenceHost)

def validateReleaseSource (fields : List (Text × Json)) : Except Text ReleaseSource :=
  sourceSchema.validate host.shownList "release source" checkSource fields

def validateReleaseSourceContext (fields : List (Text × Json)) : Except Text ReleaseContext :=
  contextSchema.validate host.shownList "release-source context" checkContext fields

end Validators

def requireSame {Value : Type} [DecidableEq Value] (source context : String)
    (left right : Value) : Except Text Unit :=
  refuse (left ≠ right)
    ("release source." ++ source.toList ++ " does not match context." ++
      context.toList)

def validateSourceContext (source : ReleaseSource) (context : ReleaseContext) :
    Except Text Unit := do
  requireSame "repository" "repository" source.repository context.repository
  requireSame "repository_id" "repository_id" source.repositoryId context.repositoryId
  requireSame "workflow_run_id" "run_id" source.workflowRunId context.runId
  requireSame "workflow_run_attempt" "run_attempt" source.workflowRunAttempt context.runAttempt
  requireSame "protected_ref" "protected_ref" mainRef mainRef
  requireSame "target_commit_sha" "target_commit_sha" source.targetCommitSha
    context.targetCommitSha
  requireSame "target_tree_sha" "target_tree_sha" source.targetTreeSha context.targetTreeSha
  refuse (context.parentCommitSha = context.targetCommitSha)
    "context parent_commit_sha must differ from target_commit_sha"

@[simp]
theorem bounded_string_ok (label : Text) (maximum : Nat) (value : Json) (text : Text) :
    boundedString label maximum value = .ok text ↔
      value = .string text ∧ isBoundedText maximum text = true ∧ hasControl text = false := by
  simp only [boundedString, bind_ok, text_that_ok, refuse_ok, pure_ok, Bool.not_eq_true]
  constructor
  · intro found
    obtain ⟨read, both, _, plain, same⟩ := found
    subst same
    exact ⟨both.1, both.2, plain⟩
  · intro found
    exact ⟨text, ⟨found.1, found.2.1⟩, (), found.2.2, rfl⟩

variable (label : Text) (value : Json)

@[simp]
theorem source_repository_ok (text : Text) :
    sourceRepository label value = .ok text ↔
      value = .string text ∧ isBoundedText 512 text = true ∧ hasControl text = false ∧
        isSourceRepository text = true := by
  simp only [sourceRepository, bind_ok, bounded_string_ok, refuse_ok, pure_ok, Bool.not_eq_false]
  constructor
  · intro found
    obtain ⟨read, facts, _, canonical, same⟩ := found
    subst same
    exact ⟨facts.1, facts.2.1, facts.2.2, canonical⟩
  · intro found
    exact ⟨text, ⟨found.1, found.2.1, found.2.2.1⟩, (), found.2.2.2, rfl⟩

@[simp]
theorem numeric_id_ok (text : Text) :
    validateNumericId label value = .ok text ↔
      value = .string text ∧ isBoundedText 256 text = true ∧ hasControl text = false ∧
        isNumericId text = true := by
  simp only [validateNumericId, bind_ok, bounded_string_ok, refuse_ok, pure_ok, Bool.not_eq_false]
  constructor
  · intro found
    obtain ⟨read, facts, _, numeric, same⟩ := found
    subst same
    exact ⟨facts.1, facts.2.1, facts.2.2, numeric⟩
  · intro found
    exact ⟨text, ⟨found.1, found.2.1, found.2.2.1⟩, (), found.2.2.2, rfl⟩

@[simp]
theorem nullable_sha256_ok (digest : Option Text) :
    validateNullableSha256 label value = .ok digest ↔
      value = nullable digest ∧ digest.all Sha256.isHex64 = true := by
  cases value with
  | null => cases digest <;> simp [validateNullableSha256, nullable]
  | string text =>
    cases digest with
    | none =>
      simp only [validateNullableSha256, textThat, nullable]
      by_cases hex : Sha256.isHex64 text = true <;> simp [hex, Except.map]
    | some found =>
      simp only [validateNullableSha256, textThat, nullable, Json.string.injEq, Option.all_some]
      by_cases hex : Sha256.isHex64 text = true
      · simp only [hex, if_true, Except.map, Except.ok.injEq, Option.some.injEq]
        constructor
        · intro same
          exact ⟨same, same ▸ hex⟩
        · exact And.left
      · simp only [hex, Bool.false_eq_true, if_false, Except.map, reduceCtorEq, false_iff]
        intro both
        exact hex (both.1 ▸ both.2)
  | _ => cases digest <;> simp [validateNullableSha256, textThat, nullable, Except.map]

def isIdentifier (text : Text) : Prop :=
  isBoundedText 256 text = true ∧ hasControl text = false ∧ isNumericId text = true

def isOwnedRepository (text : Text) : Prop :=
  isBoundedText 512 text = true ∧ hasControl text = false ∧ isSourceRepository text = true

def isAttempt (attempt : Int) : Prop := 1 ≤ attempt ∧ attempt ≤ maxAttempt

structure ReleaseSource.Valid (source : ReleaseSource) : Prop where
  repository : isOwnedRepository source.repository
  repositoryId : isIdentifier source.repositoryId
  workflowRunId : isIdentifier source.workflowRunId
  workflowRunAttempt : isAttempt source.workflowRunAttempt
  targetCommitSha : isGitDigest source.targetCommitSha = true
  targetTreeSha : isGitDigest source.targetTreeSha = true

theorem ReleaseSource.value_injective : Function.Injective ReleaseSource.value := by
  intro left right same
  cases left
  cases right
  rw [ReleaseSource.mk.injEq]
  exact ⟨Json.string.inj (congrFun same .repository), Json.string.inj (congrFun same .repositoryId),
    Json.string.inj (congrFun same .workflowRunId), Json.int.inj (congrFun same .workflowRunAttempt),
    Json.string.inj (congrFun same .targetCommitSha),
    Json.string.inj (congrFun same .targetTreeSha)⟩

theorem check_source_ok (get : SourceKey → Json) (source : ReleaseSource) :
    checkSource get = .ok source ↔ get = source.value ∧ source.Valid := by
  simp only [checkSource, bind_ok, source_repository_ok, numeric_id_ok, exact_text_ok,
    validateAttempt, int_within_ok, validateGitSha, text_that_ok, pure_ok]
  constructor
  · intro found
    obtain ⟨repository, r, repositoryId, i, _, branch, _, ref, runId, n, attempt, a, commit, c,
      tree, t, same⟩ := found
    subst same
    refine ⟨?_, ⟨r.2, i.2, n.2, a.2, c.2, t.2⟩⟩
    funext key
    cases key
    · exact r.1
    · exact i.1
    · exact branch
    · exact n.1
    · exact a.1
    · exact ref
    · exact c.1
    · exact t.1
  · intro found
    obtain ⟨same, valid⟩ := found
    subst same
    exact ⟨_, ⟨rfl, valid.repository⟩, _, ⟨rfl, valid.repositoryId⟩, (), rfl, (), rfl, _,
      ⟨rfl, valid.workflowRunId⟩, _, ⟨rfl, valid.workflowRunAttempt⟩, _,
      ⟨rfl, valid.targetCommitSha⟩, _, ⟨rfl, valid.targetTreeSha⟩, rfl⟩

structure ReleaseContext.Valid (context : ReleaseContext) : Prop where
  repository : isOwnedRepository context.repository
  repositoryId : isIdentifier context.repositoryId
  runId : isIdentifier context.runId
  runAttempt : isAttempt context.runAttempt
  targetCommitSha : isGitDigest context.targetCommitSha = true
  targetTreeSha : isGitDigest context.targetTreeSha = true
  parentCommitSha : isGitDigest context.parentCommitSha = true
  parentTreeSha : isGitDigest context.parentTreeSha = true
  candidateSha256 : Sha256.isHex64 context.candidateSha256 = true
  policySha256 : Sha256.isHex64 context.policySha256 = true
  verifierPackSha256 : context.verifierPackSha256.all Sha256.isHex64 = true

theorem nullable_injective : Function.Injective nullable := by
  intro left right same
  cases left <;> cases right <;> simp_all [nullable]

theorem ReleaseContext.value_injective : Function.Injective ReleaseContext.value := by
  intro left right same
  cases left
  cases right
  rw [ReleaseContext.mk.injEq]
  exact ⟨Json.string.inj (congrFun same .repository), Json.string.inj (congrFun same .repositoryId),
    Json.string.inj (congrFun same .runId), Json.int.inj (congrFun same .runAttempt),
    Json.string.inj (congrFun same .targetCommitSha),
    Json.string.inj (congrFun same .targetTreeSha),
    Json.string.inj (congrFun same .parentCommitSha),
    Json.string.inj (congrFun same .parentTreeSha),
    Json.string.inj (congrFun same .candidateSha256),
    Json.string.inj (congrFun same .policySha256),
    nullable_injective (congrFun same .verifierPackSha256)⟩

theorem check_context_ok (get : ContextKey → Json) (context : ReleaseContext) :
    checkContext get = .ok context ↔ get = context.value ∧ context.Valid := by
  simp only [checkContext, bind_ok, source_repository_ok, numeric_id_ok, exact_text_ok,
    validateAttempt, int_within_ok, validateGitSha, validateSha256, text_that_ok,
    nullable_sha256_ok, pure_ok]
  constructor
  · intro found
    obtain ⟨_, format, repository, r, repositoryId, i, runId, n, attempt, a, _, ref, commit, c,
      tree, t, parent, p, parentTree, q, candidate, d, policy, o, pack, v, same⟩ := found
    subst same
    refine ⟨?_, ⟨r.2, i.2, n.2, a.2, c.2, t.2, p.2, q.2, d.2, o.2, v.2⟩⟩
    funext key
    cases key
    · exact format
    · exact r.1
    · exact i.1
    · exact n.1
    · exact a.1
    · exact ref
    · exact c.1
    · exact t.1
    · exact p.1
    · exact q.1
    · exact d.1
    · exact o.1
    · exact v.1
  · intro found
    obtain ⟨same, valid⟩ := found
    subst same
    exact ⟨(), rfl, _, ⟨rfl, valid.repository⟩, _, ⟨rfl, valid.repositoryId⟩, _,
      ⟨rfl, valid.runId⟩, _, ⟨rfl, valid.runAttempt⟩, (), rfl, _, ⟨rfl, valid.targetCommitSha⟩, _,
      ⟨rfl, valid.targetTreeSha⟩, _, ⟨rfl, valid.parentCommitSha⟩, _, ⟨rfl, valid.parentTreeSha⟩,
      _, ⟨rfl, valid.candidateSha256⟩, _, ⟨rfl, valid.policySha256⟩, _,
      ⟨rfl, valid.verifierPackSha256⟩, rfl⟩

/-- Where a context describes a source, the two repeat the same facts. -/
structure Describes (source : ReleaseSource) (context : ReleaseContext) : Prop where
  repository : source.repository = context.repository
  repositoryId : source.repositoryId = context.repositoryId
  runId : source.workflowRunId = context.runId
  runAttempt : source.workflowRunAttempt = context.runAttempt
  targetCommitSha : source.targetCommitSha = context.targetCommitSha
  targetTreeSha : source.targetTreeSha = context.targetTreeSha
  parent : context.parentCommitSha ≠ context.targetCommitSha

theorem validate_source_context_ok (source : ReleaseSource) (context : ReleaseContext)
    (answer : Unit) :
    validateSourceContext source context = .ok answer ↔ Describes source context := by
  simp only [validateSourceContext, requireSame, bind_ok, refuse_ok, not_not]
  constructor
  · intro found
    obtain ⟨_, repository, _, repositoryId, _, run, _, attempt, _, _, _, commit, _, tree, parent⟩ :=
      found
    exact ⟨repository, repositoryId, run, attempt, commit, tree, parent⟩
  · intro same
    exact ⟨(), same.repository, (), same.repositoryId, (), same.runId, (), same.runAttempt, (),
      trivial, (), same.targetCommitSha, (), same.targetTreeSha, same.parent⟩

end EvoomGuard.ReleaseChain
