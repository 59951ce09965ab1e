import EvoomGuard.Domain.Assurance
import EvoomGuard.Verifiers.RepoResult

/-!
The three judged commands of a repository run: setup (`repo_setup.py`), the suite
(`repo_suite.py`) and the verifier pack (`repo_pack.py`). What the operating system or the
container client answers to one launch is a `ProcessOutcome`; every executor maps it to a
terminal result or to a completed command and records what it observed in the trace.
-/

namespace EvoomGuard.Verifiers

open Lib Domain

/-- How one launch of a bounded command ends. `docker` marks the container client's own
subclass of an exception; an operating-system error that is not a failed exec is re-raised by
the source and is not an outcome. -/
inductive ProcessOutcome where
  | dockerTimeout (containerStarted : Bool)
  | outputLimit (docker started : Bool) (message : Text)
  | containment (docker started : Bool) (message : Text)
  | timeout (targetStarted : Bool)
  | fileNotFound
  | execFailed (message : Text)
  | finished (targetStarted : Bool) (returncode : Int) (stdout stderr : Text)

structure JudgeSettings where
  isolation : Isolation
  dockerNetwork : Text
  dockerRuntime : Option Text
  timeout : Nat
  resolvedImage : Option Text

def JudgeSettings.containerMode (judge : JudgeSettings) : Bool := judge.isolation.container

def JudgeSettings.isolationName (judge : JudgeSettings) : Text :=
  judge.isolation.boundary.name.toList

def phaseIsolationEvidence (judge : JudgeSettings) (delivered : Boundary) (note : Option Text) :
    IsolationObservation where
  requested := judge.isolation
  delivered := delivered
  imageDigest := judge.resolvedImage
  network := if judge.containerMode then some judge.dockerNetwork else none
  runtime := if judge.containerMode then judge.dockerRuntime else none
  note := note

/-- The words in which one executor differs from the others. -/
structure PhaseWords where
  subject : Text
  boundary : Text
  container : Text
  missingClient : Text
  missingCommand : Text
  execSubject : Text
  execFailure : Text
  onTimeout : Outcome
  onOutputLimit : Outcome
  onMissing : Outcome

/-- A launch that ended without a completed command. -/
structure LaunchFailure where
  outcome : Outcome
  started : Bool
  delivered : Boundary
  note : Option Text
  diagnostics : Text

section Launch

variable (distill : Text → Text) (judge : JudgeSettings) (words : PhaseWords) (inContainer : Bool)
  (host : Boundary)

def afterTimeout : Text := " after " ++ Nat.toDigits 10 judge.timeout ++ ['s']

def deliveredBy (docker started : Bool) : Boundary :=
  if docker && started then judge.isolation.boundary else if started then host else .notRun

def notStartedNote (docker : Bool) : Text :=
  if docker then
    "docker client output limit was reached before container start was proven"
  else "output limit was reached before target start was proven"

def containmentNote (docker started : Bool) : Text :=
  if docker then "docker container cleanup was not proven"
  else if started then "subprocess cleanup was not proven"
  else "target process did not start"

/-- `none` when the command ran to its end. -/
def launchFailure : ProcessOutcome → Option LaunchFailure
  | .dockerTimeout containerStarted => some
      { outcome := if containerStarted then words.onTimeout else .isolationUnavailable
        started := containerStarted
        delivered := if containerStarted then judge.isolation.boundary else .notRun
        note := if containerStarted then none
          else some "docker client timed out before container start was proven".toList
        diagnostics :=
          if containerStarted then words.subject ++ " timed out".toList ++ afterTimeout judge
          else judge.isolationName ++ [' '] ++ words.boundary ++
            " did not start: docker client timed out".toList ++ afterTimeout judge }
  | .outputLimit docker started message => some
      { outcome := if started then words.onOutputLimit else .isolationUnavailable
        started := started
        delivered := deliveredBy judge host docker started
        note := if started then none else some (notStartedNote docker)
        diagnostics := words.subject ++ " output was rejected: ".toList ++ message }
  | .containment docker started message => some
      { outcome := if started then .runtimeContainmentError else .isolationUnavailable
        started := started
        delivered := deliveredBy judge host docker started
        note := some (containmentNote docker started)
        diagnostics := words.subject ++ " containment failed: ".toList ++ message }
  | .timeout targetStarted => some
      { outcome := if targetStarted then words.onTimeout else .isolationUnavailable
        started := targetStarted
        delivered := if targetStarted then host else .notRun
        note := if targetStarted then none
          else some "target exec was not reached before launcher timeout".toList
        diagnostics := words.subject ++
          (if targetStarted then " timed out".toList
            else " target did not start before timeout".toList) ++ afterTimeout judge }
  | .fileNotFound => some
      { outcome := if inContainer then .isolationUnavailable else words.onMissing
        started := false
        delivered := if inContainer then .unavailable else .notRun
        note := none
        diagnostics := if inContainer then judge.isolationName ++ words.missingClient
          else words.missingCommand }
  | .execFailed message => some
      { outcome := if inContainer then .isolationUnavailable else words.onMissing
        started := false
        delivered := if inContainer then .unavailable else .notRun
        note := some (if inContainer then
            "docker client exec failed before ".toList ++ words.boundary ++ " start".toList
          else words.execSubject ++ " exec failed before target start".toList)
        diagnostics := (if inContainer then
            judge.isolationName ++ [' '] ++ words.boundary ++ " could not start".toList
          else words.execFailure) ++ ": ".toList ++ message }
  | .finished false _ stdout stderr => some
      { outcome := .isolationUnavailable
        started := false
        delivered := .notRun
        note := some "trusted resource-limit launcher failed before target exec".toList
        diagnostics := words.subject ++ " target did not start: ".toList ++
          distill (stdout ++ ['\n'] ++ stderr) }
  | .finished true returncode stdout stderr =>
    if inContainer && returncode == 125 then some
      { outcome := .isolationUnavailable
        started := false
        delivered := .unavailable
        note := none
        diagnostics := "the ".toList ++ judge.isolationName ++ [' '] ++ words.container ++
          " container could not be started (docker exit 125): ".toList ++
          distill (stdout ++ ['\n'] ++ stderr) }
    else none

end Launch

/-- What the executors' outcome words have in common: each names its own timeout and limit,
and a missing command is the phase's own. -/
theorem launch_failure_outcome (distill : Text → Text) (judge : JudgeSettings) (words : PhaseWords)
    (inContainer : Bool) (host : Boundary) (process : ProcessOutcome) (failure : LaunchFailure)
    (failed : launchFailure distill judge words inContainer host process = some failure) :
    (failure.started = true ∧ (failure.outcome = words.onTimeout ∨
        failure.outcome = words.onOutputLimit ∨ failure.outcome = .runtimeContainmentError)) ∨
      (failure.started = false ∧ (failure.outcome = .isolationUnavailable ∨
        failure.outcome = words.onMissing)) := by
  cases process with
  | dockerTimeout containerStarted =>
    cases containerStarted <;> cases failed
    · exact Or.inr ⟨rfl, Or.inl rfl⟩
    · exact Or.inl ⟨rfl, Or.inl rfl⟩
  | outputLimit docker started message =>
    cases started <;> cases failed
    · exact Or.inr ⟨rfl, Or.inl rfl⟩
    · exact Or.inl ⟨rfl, Or.inr (Or.inl rfl)⟩
  | containment docker started message =>
    cases started <;> cases failed
    · exact Or.inr ⟨rfl, Or.inl rfl⟩
    · exact Or.inl ⟨rfl, Or.inr (Or.inr rfl)⟩
  | timeout targetStarted =>
    cases targetStarted <;> cases failed
    · exact Or.inr ⟨rfl, Or.inl rfl⟩
    · exact Or.inl ⟨rfl, Or.inl rfl⟩
  | fileNotFound | execFailed message =>
    cases inContainer <;> cases failed
    · exact Or.inr ⟨rfl, Or.inr rfl⟩
    · exact Or.inr ⟨rfl, Or.inl rfl⟩
  | finished targetStarted returncode stdout stderr =>
    cases targetStarted
    · cases failed
      exact Or.inr ⟨rfl, Or.inl rfl⟩
    · simp only [launchFailure] at failed
      split_ifs at failed
      cases failed
      exact Or.inr ⟨rfl, Or.inl rfl⟩

/-- A judged command that ran to its end. -/
structure CompletedCommand where
  returncode : Int
  stdout : Text
  stderr : Text

def terminalVerdict (diagnostics : Text) (artifact : RepoArtifact) : RepoVerdict :=
  ⟨false, 0, diagnostics, artifact⟩

def completedCommand : ProcessOutcome → CompletedCommand
  | .finished _ returncode stdout stderr => ⟨returncode, stdout, stderr⟩
  | _ => ⟨0, [], []⟩

section Executors

variable (distill quoted : Text → Text) (judge : JudgeSettings) (filesChanged : List Text)

def suiteWords (command : Text) : PhaseWords where
  subject := "test suite"
  boundary := "isolation"
  container := "suite"
  missingClient := " isolation requested but the docker CLI was not found"
  missingCommand := "test command not found: " ++ quoted command
  execSubject := "test command"
  execFailure := "test command could not start: " ++ quoted command
  onTimeout := .testTimeout
  onOutputLimit := .testOutputLimit
  onMissing := .testCommandUnavailable

-- A timeout reports neither the setup boundary nor, on the host, the suite's own.
def suiteFailureArtifact (setupIsolation : Option Boundary) (runtime : RuntimeIdentityEvidence)
    (process : ProcessOutcome) (failure : LaunchFailure) : RepoArtifact :=
  let observed := phaseIsolationEvidence judge failure.delivered failure.note
  { filesChanged := filesChanged
    outcome := some failure.outcome
    setupIsolation := match process with
      | .dockerTimeout _ | .timeout _ => none
      | _ => setupIsolation
    isolationEvidence := match process with
      | .dockerTimeout _ => some observed
      | _ => if failure.delivered = .unavailable then some observed else none
    runtime := runtime }

/-- With a pack still to run, a completed suite leaves the run incomplete. -/
def suiteCompletedTrace (packConfigured : Bool) (trace : ExecutionPhaseResult) :
    ExecutionPhaseResult :=
  let observation := phaseIsolationEvidence judge judge.isolation.boundary none
  { trace with
    repoSuiteIsolationEvidence := some observation
    primaryIsolationEvidence := if judge.containerMode then some observation
      else trace.primaryIsolationEvidence
    executionState := if packConfigured then .startedIncomplete else .completed
    testCommandStarted := true
    testCommandCompleted := true
    deliveredIsolation := judge.isolation.boundary }

def executeRepoSuite (command : Text) (packConfigured : Bool) (setupIsolation : Option Boundary)
    (runtime : RuntimeIdentityEvidence) (process : ProcessOutcome)
    (trace : ExecutionPhaseResult) :
    ExecutionPhaseResult × Except RepoVerdict CompletedCommand :=
  let running := { trace with executionPhase := .repoSuite }
  match launchFailure distill judge (suiteWords quoted command) judge.containerMode .subprocess
      process with
  | some failure =>
    let observed := { running with
      repoSuiteIsolationEvidence :=
        some (phaseIsolationEvidence judge failure.delivered failure.note) }
    (if failure.started then
        { observed with
          executionState := .startedIncomplete
          testCommandStarted := true
          deliveredIsolation := failure.delivered }
      else observed,
      .error (terminalVerdict failure.diagnostics
        (suiteFailureArtifact judge filesChanged setupIsolation runtime process failure)))
  | none => (suiteCompletedTrace judge packConfigured running, .ok (completedCommand process))

def packWords : PhaseWords where
  subject := "verifier pack"
  boundary := "verifier-pack isolation"
  container := "verifier-pack"
  missingClient := " isolation requested but the docker CLI was not found"
  missingCommand := "verifier pack needs pytest/python in the judge environment"
  execSubject := "verifier-pack command"
  execFailure := "verifier-pack command could not start"
  onTimeout := .testTimeout
  onOutputLimit := .testOutputLimit
  onMissing := .testCommandUnavailable

-- The pack reports the suite's boundary; a launcher that never started reports none.
def packFailureArtifact (setupIsolation : Option Boundary) (runtime : RuntimeIdentityEvidence)
    (suiteEvidence : IsolationObservation) (process : ProcessOutcome) (failure : LaunchFailure) :
    RepoArtifact where
  filesChanged := filesChanged
  outcome := some failure.outcome
  setupIsolation := setupIsolation
  isolationEvidence := match process with
    | .finished false _ _ _ => none
    | .dockerTimeout _ => some suiteEvidence
    | _ => if judge.containerMode then some suiteEvidence else none
  runtime := runtime

def packCompletedTrace (trace : ExecutionPhaseResult) : ExecutionPhaseResult :=
  { trace with
    verifierPackIsolationEvidence :=
      some (phaseIsolationEvidence judge judge.isolation.boundary none)
    executionState := .completed
    verifierPackStarted := true
    verifierPackCompleted := true }

def executeRepoPack (setupIsolation : Option Boundary) (runtime : RuntimeIdentityEvidence)
    (suiteEvidence : IsolationObservation) (process : ProcessOutcome)
    (trace : ExecutionPhaseResult) :
    ExecutionPhaseResult × Except RepoVerdict CompletedCommand :=
  let running := { trace with executionPhase := .verifierPack }
  match launchFailure distill judge packWords judge.containerMode .subprocess process with
  | some failure =>
    let observed := { running with
      verifierPackIsolationEvidence :=
        some (phaseIsolationEvidence judge failure.delivered failure.note) }
    (if failure.started then
        { observed with executionState := .startedIncomplete, verifierPackStarted := true }
      else observed,
      .error (terminalVerdict failure.diagnostics
        (packFailureArtifact judge filesChanged setupIsolation runtime suiteEvidence process
          failure)))
  | none => (packCompletedTrace judge running, .ok (completedCommand process))

def setupWords (command : Text) : PhaseWords where
  subject := "setup command"
  boundary := "setup isolation"
  container := "setup"
  missingClient :=
    (" isolation requested but the docker CLI was not found while starting setup_command").toList
  missingCommand := "setup command not found: " ++ quoted command
  execSubject := "setup command"
  execFailure := "setup command could not start: " ++ quoted command
  onTimeout := .setupTimeout
  onOutputLimit := .setupOutputLimit
  onMissing := .setupFailed

/-- What the setup phase observes: whether the host resolver finds the command, the fidelity
snapshot before, the launch, and the changes against the snapshot after. -/
structure SetupAnswers where
  resolved : Bool
  before : Except Text Unit
  process : ProcessOutcome
  after : Except Text (List Text)

def setupFailureArtifact (setupIsolation : Option Boundary) : RepoArtifact where
  filesChanged := filesChanged
  outcome := some .setupFailed
  setupIsolation := setupIsolation

def setupLaunchArtifact (failure : LaunchFailure) : RepoArtifact where
  filesChanged := filesChanged
  outcome := some failure.outcome
  setupIsolation := if failure.delivered = .notRun then none else some failure.delivered
  isolationEvidence := if failure.delivered = .unavailable then
      some (phaseIsolationEvidence judge .unavailable none)
    else none

def setupChangedDiagnostics (changes : List Text) : Text :=
  ("setup_command modified the judged source/harness outside " ++
    "declared setup outputs — refusing to run a suite against " ++
    "a tree different from the candidate: ").toList ++
    Text.join ", " (changes.take 20)

def setupExitDiagnostics (inContainer : Bool) (command : CompletedCommand) : Text :=
  "setup command failed (exit " ++ (toString command.returncode).toList ++ [')'] ++
    (if inContainer then
      (" (setup ran inside the container: the image must contain " ++
        "the setup tool, and --docker-network none blocks registries)").toList
    else []) ++ ": " ++ distill (command.stdout ++ ['\n'] ++ command.stderr)

-- What a setup command that ran to its end leaves: its exit code, then its fidelity.
def setupRefusal (inContainer : Bool) (boundary : Boundary) (command : CompletedCommand)
    (after : Except Text (List Text)) : Option RepoVerdict :=
  if command.returncode ≠ 0 then
    some (terminalVerdict (setupExitDiagnostics distill inContainer command)
      (setupFailureArtifact filesChanged (some boundary)))
  else
    match after with
    | .error problem =>
      some (terminalVerdict ("setup fidelity verification failed: " ++ problem)
        (setupFailureArtifact filesChanged (some boundary)))
    | .ok [] => none
    | .ok changes =>
      some (terminalVerdict (setupChangedDiagnostics changes)
        { setupFailureArtifact filesChanged (some boundary) with
          setupFidelityChanges := some changes })

def setupLaunchFailed (failure : LaunchFailure) (trace : ExecutionPhaseResult) :
    ExecutionPhaseResult × Except RepoVerdict Boundary :=
  let observed := { trace with
    setupIsolationEvidence := some (phaseIsolationEvidence judge failure.delivered failure.note) }
  (if failure.started then { observed with executionState := .startedIncomplete } else observed,
    .error (terminalVerdict failure.diagnostics (setupLaunchArtifact judge filesChanged failure)))

/-- The setup phase of a configured command; its result is the delivered setup boundary. -/
def executeRepoSetup (command : Text) (trustSetupOnHost : Bool) (answers : SetupAnswers)
    (trace : ExecutionPhaseResult) :
    ExecutionPhaseResult × Except RepoVerdict Boundary :=
  let running := { trace with executionPhase := .setup }
  let inContainer := judge.containerMode && !trustSetupOnHost
  let boundary : Boundary := if inContainer then judge.isolation.boundary
    else if judge.containerMode then .hostOptIn else .subprocess
  let launched := launchFailure distill judge (setupWords quoted command) inContainer boundary
  match (if inContainer || answers.resolved then none else launched .fileNotFound) with
  | some failure => setupLaunchFailed judge filesChanged failure running
  | none =>
    match answers.before with
    | .error problem =>
      (running, .error (terminalVerdict ("setup fidelity snapshot failed: " ++ problem)
        (setupFailureArtifact filesChanged none)))
    | .ok _ =>
      match launched answers.process with
      | some failure => setupLaunchFailed judge filesChanged failure running
      | none =>
        let started := { running with
          executionState := .startedIncomplete
          setupIsolationEvidence := some (phaseIsolationEvidence judge boundary none) }
        match setupRefusal distill filesChanged inContainer boundary
            (completedCommand answers.process) answers.after with
        | some refusal => (started, .error refusal)
        | none => (started, .ok boundary)

end Executors

end EvoomGuard.Verifiers
