import EvoomGuard.Verifiers.RepoVerifier

/-!
`run_named_docker_client` of `isolation/docker.py`: how a judged command in a container ends, from
what the bounded process of the client did and what was observed of the named container.
-/

namespace EvoomGuard.Verifiers

open Lib Domain

/-- What the bounded process of one `docker run` client did. -/
inductive ClientProcess where
  | timedOut
  | overflowed (message : Text)
  | uncontained (message : Text)
  | fileNotFound
  | execFailed (message : Text)
  | returned (targetStarted : Bool) (returncode : Int) (stdout stderr : Text)

/-- Whether the container was seen to start, and whether its removal was proven afterwards. -/
structure ContainerFacts where
  started : Bool
  cleaned : Bool

def cleanupSuffix (cleaned : Bool) : Text :=
  if cleaned then "was attempted after client failure" else "was not proven"

def runNamedDockerClient (container : ContainerFacts) : ClientProcess → ProcessOutcome
  | .timedOut =>
    if container.cleaned then .dockerTimeout container.started
    else .containment true container.started
      "docker client timed out and named container cleanup was not proven"
  | .overflowed message =>
    if container.cleaned then .outputLimit true container.started message
    else .containment true container.started
      ("docker client exceeded the output limit and named container " ++
        "cleanup was not proven").toList
  | .uncontained message => .containment true container.started
      (message ++ "; docker named-container cleanup " ++ cleanupSuffix container.cleaned)
  | .fileNotFound => .fileNotFound
  | .execFailed message => .execFailed message
  | .returned targetStarted returncode stdout stderr =>
    if returncode ≠ 0 ∧ container.cleaned = false then
      .containment true container.started
        ("docker client returned a non-zero exit and named container " ++
          "cleanup was not proven").toList
    else .finished targetStarted returncode stdout stderr

def InContainer (process : ProcessOutcome) : Prop :=
  ∃ container client, process = runNamedDockerClient container client

/-- A run in whose container modes the client runs the suite, the pack, and a setup command that
is not trusted on the host. -/
structure RepoLaunches (settings : RepoSettings) (answers : RepoAnswers) : Prop where
  setup : settings.judge.containerMode = true → settings.trustSetupOnHost = false →
    InContainer answers.setup.process
  suite : settings.judge.containerMode = true → InContainer answers.suite.process
  pack : settings.judge.containerMode = true → InContainer answers.pack.process

structure LaunchedAnswers (settings : RepoSettings) extends RepoAnswers where
  launches : RepoLaunches settings toRepoAnswers

/-- A boundary that was delivered: some command ran behind it. -/
def delivered : Boundary → Bool
  | .notRun | .unavailable => false
  | .subprocess | .docker | .gvisor | .hostOptIn => true

/-- Started outside a container: an end that no docker client reports. -/
def startedOnHost : ProcessOutcome → Bool
  | .outputLimit docker started _ | .containment docker started _ => !docker && started
  | .timeout targetStarted => targetStarted
  | _ => false

theorem in_container_not_on_host (process : ProcessOutcome) (inside : InContainer process) :
    startedOnHost process = false := by
  rcases inside with ⟨container, client, same⟩
  subst same
  cases client with
  | timedOut | overflowed message | returned targetStarted returncode stdout stderr =>
    simp only [runNamedDockerClient]
    split <;> rfl
  | uncontained message | fileNotFound | execFailed message => rfl

/-- A failed launch that did not start delivered nothing; one that started delivered the requested
boundary, or the host's. -/
theorem launch_delivered (distill : Text → Text) (judge : JudgeSettings) (words : PhaseWords)
    (inContainer : Bool) (host : Boundary) (process : ProcessOutcome) (failure : LaunchFailure)
    (failed : launchFailure distill judge words inContainer host process = some failure) :
    failure.started = false ∧ delivered failure.delivered = false ∨
      failure.started = true ∧ (failure.delivered = judge.isolation.boundary ∨
        startedOnHost process = true ∧ failure.delivered = host) := by
  cases process with
  | dockerTimeout containerStarted =>
    cases containerStarted <;> cases failed
    · exact Or.inl ⟨rfl, rfl⟩
    · exact Or.inr ⟨rfl, Or.inl rfl⟩
  | outputLimit docker started message | containment docker started message =>
    cases docker <;> cases started <;> cases failed
    · exact Or.inl ⟨rfl, rfl⟩
    · exact Or.inr ⟨rfl, Or.inr ⟨rfl, rfl⟩⟩
    · exact Or.inl ⟨rfl, rfl⟩
    · exact Or.inr ⟨rfl, Or.inl rfl⟩
  | timeout targetStarted =>
    cases targetStarted <;> cases failed
    · exact Or.inl ⟨rfl, rfl⟩
    · exact Or.inr ⟨rfl, Or.inr ⟨rfl, rfl⟩⟩
  | fileNotFound | execFailed message =>
    cases inContainer <;> cases failed <;> exact Or.inl ⟨rfl, rfl⟩
  | finished targetStarted returncode stdout stderr =>
    cases targetStarted
    · cases failed
      exact Or.inl ⟨rfl, rfl⟩
    · simp only [launchFailure] at failed
      split_ifs at failed
      cases failed
      exact Or.inl ⟨rfl, rfl⟩

end EvoomGuard.Verifiers
