import EvoomGuard.GithubAttestation.Output
import EvoomGuard.ReleaseChain.Source

/-!
The protected workflows of the release chain: the producer, triggered by the unprivileged
evaluation run, and the admitter, triggered by the producer. Both have one closed shape; they
differ in what they are bound to.
-/

namespace EvoomGuard.ReleaseChain

open EvidenceBundle GithubAttestation Lib Lib.Checks

def boundedText (label : Text) (maximum : Nat) (value : Json) : Except Text Text := do
  let text ← textThat (isBoundedText maximum)
    (label ++ " must be a non-empty string of at most " ++ JsonCodec.natText maximum ++
      " characters") value
  refuse (hasControl text = true) (label ++ " must not contain control characters")
  pure text

def workflowsFolder : Text := ".github/workflows/"

def workflowPath (label : Text) (value : Json) : Except Text Text := do
  let path ← boundedText label 256 value
  refuse (Text.startsWith path workflowsFolder = false ∨
      (Text.endsWith path ".yml" || Text.endsWith path ".yaml") = false)
    (label ++ " must be a canonical .github/workflows/*.yml path")
  refuse ((Text.split '/' path).any fun part => part == [] || part == ['.'] || part == ['.', '.'])
    (label ++ " has an unsafe path segment")
  refuse ((path.drop workflowsFolder.length).contains '/')
    (label ++ " must name a workflow file directly under .github/workflows")
  refuse (isWorkflowPath path = false)
    (label ++ (" must use an ASCII workflow filename matching " ++
      "[A-Za-z0-9][A-Za-z0-9_.-]*.yml or .yaml").toList)
  pure path

def numericId (label : Text) : Json → Except Text Text :=
  textThat isNumericId (label ++ " must be a non-zero decimal identifier")

def githubHosted : Text := "github-hosted"

def workflowRunEvent : Text := "workflow_run"

structure ReleaseProducer where
  workflowRepository : Text
  workflowRepositoryId : Text
  workflowId : Text
  workflowPath : Text
  workflowBlobSha : Text
  workflowRunId : Text
  workflowRunAttempt : Int
  workflowCommitSha : Text
  triggerWorkflowId : Text
  triggerWorkflowPath : Text
  triggerWorkflowBlobSha : Text
  triggerWorkflowRunId : Text
  triggerWorkflowRunAttempt : Int
  deriving DecidableEq

inductive ProducerKey where
  | workflowRepository
  | workflowRepositoryId
  | workflowId
  | workflowPath
  | workflowBlobSha
  | workflowRunId
  | workflowRunAttempt
  | workflowEvent
  | workflowRef
  | workflowCommitSha
  | triggerWorkflowId
  | triggerWorkflowPath
  | triggerWorkflowBlobSha
  | triggerWorkflowRunId
  | triggerWorkflowRunAttempt
  | runnerClass
  deriving DecidableEq

def ProducerKey.text : ProducerKey → Text
  | .workflowRepository => "workflow_repository"
  | .workflowRepositoryId => "workflow_repository_id"
  | .workflowId => "workflow_id"
  | .workflowPath => "workflow_path"
  | .workflowBlobSha => "workflow_blob_sha"
  | .workflowRunId => "workflow_run_id"
  | .workflowRunAttempt => "workflow_run_attempt"
  | .workflowEvent => "workflow_event"
  | .workflowRef => "workflow_ref"
  | .workflowCommitSha => "workflow_commit_sha"
  | .triggerWorkflowId => "trigger_workflow_id"
  | .triggerWorkflowPath => "trigger_workflow_path"
  | .triggerWorkflowBlobSha => "trigger_workflow_blob_sha"
  | .triggerWorkflowRunId => "trigger_workflow_run_id"
  | .triggerWorkflowRunAttempt => "trigger_workflow_run_attempt"
  | .runnerClass => "runner_class"

def producerSchema : Schema ProducerKey where
  keys := [.workflowRepository, .workflowRepositoryId, .workflowId, .workflowPath,
    .workflowBlobSha, .workflowRunId, .workflowRunAttempt, .workflowEvent, .workflowRef,
    .workflowCommitSha, .triggerWorkflowId, .triggerWorkflowPath, .triggerWorkflowBlobSha,
    .triggerWorkflowRunId, .triggerWorkflowRunAttempt, .runnerClass]
  name := ProducerKey.text

def ReleaseProducer.value (producer : ReleaseProducer) : ProducerKey → Json
  | .workflowRepository => .string producer.workflowRepository
  | .workflowRepositoryId => .string producer.workflowRepositoryId
  | .workflowId => .string producer.workflowId
  | .workflowPath => .string producer.workflowPath
  | .workflowBlobSha => .string producer.workflowBlobSha
  | .workflowRunId => .string producer.workflowRunId
  | .workflowRunAttempt => .int producer.workflowRunAttempt
  | .workflowEvent => .string workflowRunEvent
  | .workflowRef => .string mainRef
  | .workflowCommitSha => .string producer.workflowCommitSha
  | .triggerWorkflowId => .string producer.triggerWorkflowId
  | .triggerWorkflowPath => .string producer.triggerWorkflowPath
  | .triggerWorkflowBlobSha => .string producer.triggerWorkflowBlobSha
  | .triggerWorkflowRunId => .string producer.triggerWorkflowRunId
  | .triggerWorkflowRunAttempt => .int producer.triggerWorkflowRunAttempt
  | .runnerClass => .string githubHosted

def ReleaseProducer.asDict (producer : ReleaseProducer) : List (Text × Json) :=
  producerSchema.object producer.value

/-- `validate_release_source_producer`, of a reading. -/
def checkProducer (get : ProducerKey → Json) : Except Text ReleaseProducer := do
  let path ← workflowPath "producer.workflow_path" (get .workflowPath)
  let triggerPath ← workflowPath "producer.trigger_workflow_path"
    (get .triggerWorkflowPath)
  exactText workflowRunEvent "producer.workflow_event must be exactly 'workflow_run'"
    (get .workflowEvent)
  exactText mainRef "producer.workflow_ref must be exactly 'refs/heads/main'"
    (get .workflowRef)
  exactText githubHosted "producer.runner_class must be exactly 'github-hosted'"
    (get .runnerClass)
  let attempt ← validateAttempt "producer.workflow_run_attempt" (get .workflowRunAttempt)
  let repository ← boundedText "producer.workflow_repository" 512
    (get .workflowRepository)
  let repositoryId ← numericId "producer.workflow_repository_id"
    (get .workflowRepositoryId)
  let workflowId ← numericId "producer.workflow_id" (get .workflowId)
  let blobSha ← validateGitSha "producer.workflow_blob_sha" (get .workflowBlobSha)
  let runId ← numericId "producer.workflow_run_id" (get .workflowRunId)
  let commitSha ← validateGitSha "producer.workflow_commit_sha" (get .workflowCommitSha)
  let triggerId ← numericId "producer.trigger_workflow_id" (get .triggerWorkflowId)
  let triggerBlob ← validateGitSha "producer.trigger_workflow_blob_sha"
    (get .triggerWorkflowBlobSha)
  let triggerRun ← numericId "producer.trigger_workflow_run_id"
    (get .triggerWorkflowRunId)
  let triggerAttempt ← validateAttempt "producer.trigger_workflow_run_attempt"
    (get .triggerWorkflowRunAttempt)
  pure
    { workflowRepository := repository
      workflowRepositoryId := repositoryId
      workflowId := workflowId
      workflowPath := path
      workflowBlobSha := blobSha
      workflowRunId := runId
      workflowRunAttempt := attempt
      workflowCommitSha := commitSha
      triggerWorkflowId := triggerId
      triggerWorkflowPath := triggerPath
      triggerWorkflowBlobSha := triggerBlob
      triggerWorkflowRunId := triggerRun
      triggerWorkflowRunAttempt := triggerAttempt }

section Validators

variable (host : EvidenceHost)

def validateReleaseProducer (fields : List (Text × Json)) : Except Text ReleaseProducer :=
  producerSchema.validate host.shownList "release-source producer" checkProducer fields

/-- `validate_release_source_admitter`: the same closed shape. -/
def validateReleaseAdmitter (fields : List (Text × Json)) : Except Text ReleaseProducer :=
  validateReleaseProducer host fields

end Validators

def requireProducer {Value : Type} [DecidableEq Value] (sourceKey producerKey : String)
    (left right : Value) : Except Text Unit :=
  refuse (left ≠ right)
    ("release source." ++ sourceKey.toList ++ " does not match producer." ++
      producerKey.toList)

/-- `_validate_source_context_producer`. -/
def validateContextProducer (source : ReleaseSource) (context : ReleaseContext)
    (producer : ReleaseProducer) : Except Text Unit := do
  validateSourceContext source context
  requireProducer "repository" "workflow_repository" source.repository
    producer.workflowRepository
  requireProducer "repository_id" "workflow_repository_id" source.repositoryId
    producer.workflowRepositoryId
  requireProducer "workflow_run_id" "trigger_workflow_run_id" source.workflowRunId
    producer.triggerWorkflowRunId
  requireProducer "workflow_run_attempt" "trigger_workflow_run_attempt"
    source.workflowRunAttempt producer.triggerWorkflowRunAttempt
  requireProducer "target_commit_sha" "workflow_commit_sha" source.targetCommitSha
    producer.workflowCommitSha
  refuse (producer.workflowId = producer.triggerWorkflowId)
    "producer workflow must be distinct from the unprivileged reverify workflow"
  refuse (producer.workflowPath = producer.triggerWorkflowPath)
    "producer workflow path must be distinct from the unprivileged reverify workflow"
  refuse (producer.workflowRunId = producer.triggerWorkflowRunId)
    "producer workflow run must be distinct from the unprivileged reverify run"

def requireTrigger {Value : Type} [DecidableEq Value] (producerKey admitterKey : String)
    (left right : Value) : Except Text Unit :=
  refuse (left ≠ right)
    ("producer." ++ producerKey.toList ++ " does not match admitter." ++
      admitterKey.toList)

def requireDistinct (field : String) (left right : Text) : Except Text Unit :=
  refuse (left = right)
    ("admitter " ++ field.toList ++ " must be distinct from the producer")

/-- `validate_release_source_admitter_binding`. The three descriptors are read again first. -/
def validateAdmitterBinding (host : EvidenceHost) (source : ReleaseSource)
    (producer admitter : ReleaseProducer) : Except Text Unit := do
  let source ← validateReleaseSource host source.asDict
  let producer ← validateReleaseProducer host producer.asDict
  let admitter ← validateReleaseAdmitter host admitter.asDict
  requireTrigger "workflow_repository" "workflow_repository" producer.workflowRepository
    admitter.workflowRepository
  requireTrigger "workflow_repository_id" "workflow_repository_id" producer.workflowRepositoryId
    admitter.workflowRepositoryId
  requireTrigger "workflow_id" "trigger_workflow_id" producer.workflowId
    admitter.triggerWorkflowId
  requireTrigger "workflow_path" "trigger_workflow_path" producer.workflowPath
    admitter.triggerWorkflowPath
  requireTrigger "workflow_blob_sha" "trigger_workflow_blob_sha" producer.workflowBlobSha
    admitter.triggerWorkflowBlobSha
  requireTrigger "workflow_run_id" "trigger_workflow_run_id" producer.workflowRunId
    admitter.triggerWorkflowRunId
  requireTrigger "workflow_run_attempt" "trigger_workflow_run_attempt"
    producer.workflowRunAttempt admitter.triggerWorkflowRunAttempt
  refuse (admitter.workflowRepository ≠ source.repository)
    "admitter workflow repository does not match release source"
  refuse (admitter.workflowRepositoryId ≠ source.repositoryId)
    "admitter workflow repository ID does not match release source"
  refuse (admitter.workflowCommitSha ≠ source.targetCommitSha)
    "admitter workflow commit does not match protected-main source"
  requireDistinct "workflow_id" admitter.workflowId producer.workflowId
  requireDistinct "workflow_path" admitter.workflowPath producer.workflowPath
  requireDistinct "workflow_run_id" admitter.workflowRunId producer.workflowRunId
  refuse (admitter.workflowId = producer.triggerWorkflowId)
    "admitter workflow must be distinct from the evaluation workflow"
  refuse (admitter.workflowPath = producer.triggerWorkflowPath)
    "admitter workflow path must be distinct from the evaluation workflow"
  refuse (admitter.workflowRunId = producer.triggerWorkflowRunId)
    "admitter workflow run must be distinct from the evaluation run"

@[simp]
theorem bounded_text_ok (label : Text) (maximum : Nat) (value : Json) (text : Text) :
    boundedText label maximum value = .ok text ↔
      value = .string text ∧ isBoundedText maximum text = true ∧ hasControl text = false := by
  simp only [boundedText, bind_ok, text_that_ok, refuse_ok, pure_ok, Bool.not_eq_true]
  constructor
  · intro found
    obtain ⟨read, both, _, plain, same⟩ := found
    subst same
    exact ⟨both.1, both.2, plain⟩
  · intro found
    exact ⟨text, ⟨found.1, found.2.1⟩, (), found.2.2, rfl⟩

/-- What an accepted workflow path satisfies beside its pattern. -/
structure WorkflowPathFacts (path : Text) : Prop where
  bounded : isBoundedText 256 path = true
  plain : hasControl path = false
  folder : ¬(Text.startsWith path workflowsFolder = false ∨
    (Text.endsWith path ".yml" || Text.endsWith path ".yaml") = false)
  safe : ((Text.split '/' path).any fun part =>
    part == [] || part == ['.'] || part == ['.', '.']) = false
  direct : (path.drop workflowsFolder.length).contains '/' = false
  canonical : isWorkflowPath path = true

@[simp]
theorem workflow_path_ok (label : Text) (value : Json) (path : Text) :
    workflowPath label value = .ok path ↔ value = .string path ∧ WorkflowPathFacts path := by
  simp only [workflowPath, bind_ok, bounded_text_ok, refuse_ok, pure_ok, Bool.not_eq_true,
    Bool.not_eq_false]
  constructor
  · intro found
    obtain ⟨read, facts, _, folder, _, safe, _, direct, _, canonical, same⟩ := found
    subst same
    exact ⟨facts.1, facts.2.1, facts.2.2, folder, safe, direct, canonical⟩
  · intro found
    obtain ⟨same, facts⟩ := found
    exact ⟨path, ⟨same, facts.bounded, facts.plain⟩, (), facts.folder, (), facts.safe, (),
      facts.direct, (), facts.canonical, rfl⟩

structure ReleaseProducer.Valid (producer : ReleaseProducer) : Prop where
  workflowRepository :
    isBoundedText 512 producer.workflowRepository = true ∧
      hasControl producer.workflowRepository = false
  workflowRepositoryId : isNumericId producer.workflowRepositoryId = true
  workflowId : isNumericId producer.workflowId = true
  workflowPath : WorkflowPathFacts producer.workflowPath
  workflowBlobSha : isGitDigest producer.workflowBlobSha = true
  workflowRunId : isNumericId producer.workflowRunId = true
  workflowRunAttempt : isAttempt producer.workflowRunAttempt
  workflowCommitSha : isGitDigest producer.workflowCommitSha = true
  triggerWorkflowId : isNumericId producer.triggerWorkflowId = true
  triggerWorkflowPath : WorkflowPathFacts producer.triggerWorkflowPath
  triggerWorkflowBlobSha : isGitDigest producer.triggerWorkflowBlobSha = true
  triggerWorkflowRunId : isNumericId producer.triggerWorkflowRunId = true
  triggerWorkflowRunAttempt : isAttempt producer.triggerWorkflowRunAttempt

theorem ReleaseProducer.value_injective : Function.Injective ReleaseProducer.value := by
  intro left right same
  cases left
  cases right
  rw [ReleaseProducer.mk.injEq]
  exact ⟨Json.string.inj (congrFun same .workflowRepository),
    Json.string.inj (congrFun same .workflowRepositoryId),
    Json.string.inj (congrFun same .workflowId), Json.string.inj (congrFun same .workflowPath),
    Json.string.inj (congrFun same .workflowBlobSha),
    Json.string.inj (congrFun same .workflowRunId),
    Json.int.inj (congrFun same .workflowRunAttempt),
    Json.string.inj (congrFun same .workflowCommitSha),
    Json.string.inj (congrFun same .triggerWorkflowId),
    Json.string.inj (congrFun same .triggerWorkflowPath),
    Json.string.inj (congrFun same .triggerWorkflowBlobSha),
    Json.string.inj (congrFun same .triggerWorkflowRunId),
    Json.int.inj (congrFun same .triggerWorkflowRunAttempt)⟩

theorem check_producer_ok (get : ProducerKey → Json) (producer : ReleaseProducer) :
    checkProducer get = .ok producer ↔ get = producer.value ∧ producer.Valid := by
  simp only [checkProducer, bind_ok, workflow_path_ok, exact_text_ok, validateAttempt,
    int_within_ok, bounded_text_ok, numericId, text_that_ok, validateGitSha, pure_ok]
  constructor
  · intro found
    obtain ⟨path, p, trigger, t, _, event, _, ref, _, runner, attempt, a, repository, r,
      repositoryId, i, workflowId, w, blob, b, run, n, commit, c, triggerId, ti, triggerBlob, tb,
      triggerRun, tr, triggerAttempt, ta, same⟩ := found
    subst same
    refine ⟨?_, ⟨r.2, i.2, w.2, p.2, b.2, n.2, a.2, c.2, ti.2, t.2, tb.2, tr.2, ta.2⟩⟩
    funext key
    cases key
    · exact r.1
    · exact i.1
    · exact w.1
    · exact p.1
    · exact b.1
    · exact n.1
    · exact a.1
    · exact event
    · exact ref
    · exact c.1
    · exact ti.1
    · exact t.1
    · exact tb.1
    · exact tr.1
    · exact ta.1
    · exact runner
  · intro found
    obtain ⟨same, valid⟩ := found
    subst same
    exact ⟨_, ⟨rfl, valid.workflowPath⟩, _, ⟨rfl, valid.triggerWorkflowPath⟩, (), rfl, (), rfl, (),
      rfl, _, ⟨rfl, valid.workflowRunAttempt⟩, _, ⟨rfl, valid.workflowRepository⟩, _,
      ⟨rfl, valid.workflowRepositoryId⟩, _, ⟨rfl, valid.workflowId⟩, _,
      ⟨rfl, valid.workflowBlobSha⟩, _, ⟨rfl, valid.workflowRunId⟩, _,
      ⟨rfl, valid.workflowCommitSha⟩, _, ⟨rfl, valid.triggerWorkflowId⟩, _,
      ⟨rfl, valid.triggerWorkflowBlobSha⟩, _, ⟨rfl, valid.triggerWorkflowRunId⟩, _,
      ⟨rfl, valid.triggerWorkflowRunAttempt⟩, rfl⟩

/-- The selectors two roles may not share. -/
structure WorkflowIdentity where
  id : Text
  path : Text
  run : Text
  deriving DecidableEq

/-- Distinct in every selector. -/
structure WorkflowIdentity.Apart (left right : WorkflowIdentity) : Prop where
  id : left.id ≠ right.id
  path : left.path ≠ right.path
  run : left.run ≠ right.run

theorem WorkflowIdentity.Apart.symm {left right : WorkflowIdentity} (apart : left.Apart right) :
    right.Apart left :=
  ⟨apart.id.symm, apart.path.symm, apart.run.symm⟩

def ReleaseProducer.identity (producer : ReleaseProducer) : WorkflowIdentity :=
  ⟨producer.workflowId, producer.workflowPath, producer.workflowRunId⟩

def ReleaseProducer.trigger (producer : ReleaseProducer) : WorkflowIdentity :=
  ⟨producer.triggerWorkflowId, producer.triggerWorkflowPath, producer.triggerWorkflowRunId⟩

structure ProducerBound (source : ReleaseSource) (context : ReleaseContext)
    (producer : ReleaseProducer) : Prop where
  describes : Describes source context
  repository : source.repository = producer.workflowRepository
  repositoryId : source.repositoryId = producer.workflowRepositoryId
  triggerRun : source.workflowRunId = producer.triggerWorkflowRunId
  triggerAttempt : source.workflowRunAttempt = producer.triggerWorkflowRunAttempt
  commit : source.targetCommitSha = producer.workflowCommitSha
  apart : producer.identity.Apart producer.trigger

theorem validate_context_producer_ok (source : ReleaseSource) (context : ReleaseContext)
    (producer : ReleaseProducer) (answer : Unit) :
    validateContextProducer source context producer = .ok answer ↔
      ProducerBound source context producer := by
  simp only [validateContextProducer, requireProducer, bind_ok, validate_source_context_ok,
    refuse_ok, not_not]
  constructor
  · intro found
    obtain ⟨_, describes, _, repository, _, repositoryId, _, run, _, attempt, _, commit, _, id, _,
      path, apart⟩ := found
    exact ⟨describes, repository, repositoryId, run, attempt, commit, id, path, apart⟩
  · intro bound
    exact ⟨(), bound.describes, (), bound.repository, (), bound.repositoryId, (), bound.triggerRun,
      (), bound.triggerAttempt, (), bound.commit, (), bound.apart.id, (), bound.apart.path,
      bound.apart.run⟩

structure AdmitterBound (source : ReleaseSource) (producer admitter : ReleaseProducer) :
    Prop where
  producerRepository : producer.workflowRepository = admitter.workflowRepository
  producerRepositoryId : producer.workflowRepositoryId = admitter.workflowRepositoryId
  trigger : producer.identity = admitter.trigger
  triggerBlob : producer.workflowBlobSha = admitter.triggerWorkflowBlobSha
  triggerAttempt : producer.workflowRunAttempt = admitter.triggerWorkflowRunAttempt
  repository : admitter.workflowRepository = source.repository
  repositoryId : admitter.workflowRepositoryId = source.repositoryId
  commit : admitter.workflowCommitSha = source.targetCommitSha
  producerApart : admitter.identity.Apart producer.identity
  evaluationApart : admitter.identity.Apart producer.trigger

theorem validate_admitter_binding_ok (host : EvidenceHost) (source : ReleaseSource)
    (producer admitter : ReleaseProducer) (answer : Unit) :
    validateAdmitterBinding host source producer admitter = .ok answer ↔
      source.Valid ∧ producer.Valid ∧ admitter.Valid ∧ AdmitterBound source producer admitter := by
  simp only [validateAdmitterBinding, validateReleaseSource, ReleaseSource.asDict,
    validateReleaseAdmitter, validateReleaseProducer, ReleaseProducer.asDict, requireTrigger,
    requireDistinct, bind_ok, refuse_ok, not_not,
    sourceSchema.validate_written check_source_ok ReleaseSource.value_injective,
    producerSchema.validate_written check_producer_ok ReleaseProducer.value_injective]
  constructor
  · intro found
    obtain ⟨source, ⟨rfl, s⟩, producer, ⟨rfl, p⟩, admitter, ⟨rfl, a⟩, _, repo, _, repoId, _, id, _,
      path, _, blob, _, run, _, attempt, _, named, _, namedId, _, commit, _, otherId, _, otherPath,
      _, otherRun, _, evaluationId, _, evaluationPath, evaluationRun⟩ := found
    refine ⟨s, p, a, repo, repoId, ?_, blob, attempt, named, namedId, commit,
      ⟨otherId, otherPath, otherRun⟩, ⟨evaluationId, evaluationPath, evaluationRun⟩⟩
    rw [ReleaseProducer.identity, ReleaseProducer.trigger, id, path, run]
  · intro found
    obtain ⟨s, p, a, bound⟩ := found
    have trigger := bound.trigger
    rw [ReleaseProducer.identity, ReleaseProducer.trigger, WorkflowIdentity.mk.injEq] at trigger
    exact ⟨_, ⟨rfl, s⟩, _, ⟨rfl, p⟩, _, ⟨rfl, a⟩, (), bound.producerRepository, (),
      bound.producerRepositoryId, (), trigger.1, (), trigger.2.1, (), bound.triggerBlob, (),
      trigger.2.2, (), bound.triggerAttempt, (), bound.repository, (), bound.repositoryId, (),
      bound.commit, (), bound.producerApart.id, (), bound.producerApart.path, (),
      bound.producerApart.run, (), bound.evaluationApart.id, (), bound.evaluationApart.path,
      bound.evaluationApart.run⟩

end EvoomGuard.ReleaseChain
