import EvoomGuard.Application.BlackboxFinalization

/-!
The nested cleanup of `_run_blackbox_impl` around any body: containers, recorder and the two
owned workspaces, each of which may raise, and what leaves `run_blackbox` in the end. An
exception is a value with an identity; the notes that later failures add to the primary one are
kept beside it.
-/

namespace EvoomGuard.Verifiers

open Lib Lib.Phase Domain Domain.Harness

/-- A raised exception, in what the cleanup looks at: `containerCleanup` says that it is a
`CandidateContainerCleanupError`, `missingFile` a `FileNotFoundError`, and `ordinary` that it is
an `Exception`. -/
structure Raised where
  identity : Nat
  typeName : Text
  message : Text
  containerCleanup : Bool := false
  missingFile : Bool := false
  ordinary : Bool := true
  deriving DecidableEq

def Raised.summary (raised : Raised) : Text :=
  truncateText maxDiagnostics (raised.typeName ++ ": " ++
    truncateText maxDiagnostics raised.message)

/-! One owned workspace -/

/-- What the removal of a claimed workspace meets: the absence probe before it, the claim, the
removal itself, the probe after it, and the probe after a `FileNotFoundError`. -/
structure WorkspaceAnswers where
  absentBefore : Except Raised Bool
  invalid : Option Raised
  removal : Option Raised
  absentAfter : Except Raised Bool
  absentWhenMissing : Except Raised Bool
  unproven : Raised

def removeOwnedWorkspaceTree (answers : WorkspaceAnswers) : Except Raised Unit :=
  match answers.absentBefore with
  | .error raised => .error raised
  | .ok true => .ok ()
  | .ok false =>
    match answers.invalid, answers.removal with
    | some raised, _ => .error raised
    | none, some raised => .error raised
    | none, none =>
      match answers.absentAfter with
      | .error raised => .error raised
      | .ok true => .ok ()
      | .ok false => .error answers.unproven

-- A missing child is no proof that the root is gone: the root is probed again.
def cleanupWorkspace (answers : WorkspaceAnswers) : Except Raised Unit :=
  match removeOwnedWorkspaceTree answers with
  | .ok () => .ok ()
  | .error raised =>
    if raised.missingFile then
      match answers.absentWhenMissing with
      | .error proof => .error proof
      | .ok true => .ok ()
      | .ok false => .error raised
    else .error raised

/-- One probe observed that the root is absent. -/
def ProvenAbsent (answers : WorkspaceAnswers) : Prop :=
  answers.absentBefore = .ok true ∨ answers.absentAfter = .ok true ∨
    answers.absentWhenMissing = .ok true

theorem cleanup_workspace_proven (answers : WorkspaceAnswers)
    (removed : cleanupWorkspace answers = .ok ()) : ProvenAbsent answers := by
  unfold cleanupWorkspace at removed
  cases ended : removeOwnedWorkspaceTree answers with
  | ok _ =>
    unfold removeOwnedWorkspaceTree at ended
    split at ended
    · cases ended
    · next before => exact Or.inl before
    · split at ended
      · cases ended
      · cases ended
      · split at ended
        · cases ended
        · next after => exact Or.inr (Or.inl after)
        · cases ended
  | error raised =>
    simp only [ended] at removed
    split_ifs at removed
    split at removed
    · cases removed
    · next missing => exact Or.inr (Or.inr missing)
    · cases removed

/-! The stages -/

inductive CleanupStage where
  | containers (strict : Bool)
  | recorder
  | candidateWorkspace
  | packWorkspace
  deriving DecidableEq, Repr

/-- What is on its way out: an exception, or the control exception of a cleanup failure with the
result it carries. -/
inductive Flight where
  | raised (raised : Raised)
  | control (result : BlackboxResult)

/-- Which resources the body left behind, and the state it left in. -/
structure BodyState where
  cidfileDir : Bool
  recorder : Bool
  packWorkdir : Bool
  run : BlackboxRunState

inductive BodyEnd where
  | returned (result : BlackboxResult)
  | raised (raised : Raised)

/-- The answers along the cleanup. The first three fields are what reading the current exception
raises, should it raise, before each of the stages. -/
structure CleanupAnswers where
  containerExcInfo : Option Raised
  recorderExcInfo : Option Raised
  workspaceExcInfo : Option Raised
  containers : Option Raised
  recorderClose : Option Raised
  candidateWorkspace : WorkspaceAnswers
  packWorkspace : WorkspaceAnswers

structure CleanupState where
  primary : Option Flight
  deferred : Option Raised := none
  flight : Option Flight
  notes : List Text := []
  attempted : List CleanupStage := []

namespace CleanupState

/-- The tracked primary; an exception while it is read becomes the primary and is raised last. -/
def observePrimary (excInfo : Option Raised) (state : CleanupState) : CleanupState :=
  match state.primary, excInfo with
  | none, some raised => { state with primary := some (.raised raised), deferred := some raised }
  | _, _ => state

def reportSecondary (label : Text) (failure : Raised) (state : CleanupState) : CleanupState :=
  { state with notes := state.notes ++ [secondaryCleanup label failure.summary] }

def attempt (stage : CleanupStage) (state : CleanupState) : CleanupState :=
  { state with attempted := state.attempted ++ [stage] }

/-- Raises from a stage: the new exception is the primary and leaves. -/
def fly (flight : Flight) (state : CleanupState) : CleanupState :=
  { state with primary := some flight, flight := some flight, notes := [] }

end CleanupState

section Stages

variable (body : BodyState) (answers : CleanupAnswers)

def cleanContainers (state : CleanupState) : CleanupState :=
  if body.cidfileDir then
    let attempted := state.attempt (.containers (!body.run.lifecycle.active))
    match answers.containers, state.primary with
    | none, _ => attempted
    | some failure, some _ => attempted.reportSecondary "candidate container" failure
    | some failure, none =>
      if failure.containerCleanup then
        attempted.fly (.control (containerFailureResult body.run failure.message))
      else attempted.fly (.raised failure)
  else state

def closeRecorder (state : CleanupState) : CleanupState :=
  if body.recorder then
    let attempted := state.attempt .recorder
    match answers.recorderClose, state.primary with
    | none, _ => attempted
    | some failure, some _ => attempted.reportSecondary "invocation recorder" failure
    | some failure, none => attempted.fly (.raised failure)
  else state

def ownedWorkspaces : List (CleanupStage × Text × WorkspaceAnswers) :=
  (.candidateWorkspace, "candidate workspace", answers.candidateWorkspace) ::
    if body.packWorkdir then
      [(.packWorkspace, "verifier-pack snapshot workspace", answers.packWorkspace)]
    else []

def failedWorkspaces : List (Text × Raised) :=
  (ownedWorkspaces body answers).filterMap fun workspace =>
    match cleanupWorkspace workspace.2.2 with
    | .ok () => none
    | .error raised => some (workspace.2.1, raised)

def workspaceFailureResult (label : Text) (first : Raised) (rest : List (Text × Raised)) :
    BlackboxResult :=
  cleanupFailureResult body.run
    (boundedCleanupDetails "black-box workspace absence could not be proven"
      (first.summary :: ("Blackbox " ++ label ++ " cleanup failed") ::
        rest.map fun other => secondaryCleanup other.1 other.2.summary))
    .workspaceCleanupFailed

/-- The failures of the workspaces are notes of the primary, or the first one raises. -/
def settleWorkspaces (failures : List (Text × Raised)) (state : CleanupState) : CleanupState :=
  match state.primary with
  | some _ =>
    failures.foldl (fun state (failure : Text × Raised) =>
      state.reportSecondary failure.1 failure.2) state
  | none =>
    match failures with
    | [] => state
    | (label, first) :: rest =>
      if first.ordinary then
        state.fly (.control (workspaceFailureResult body label first rest))
      else state.fly (.raised first)

def raiseDeferred (state : CleanupState) : CleanupState :=
  match state.deferred with
  | some raised => { state with flight := some (.raised raised) }
  | none => state

def removeWorkspaces (state : CleanupState) : CleanupState :=
  raiseDeferred (settleWorkspaces body (failedWorkspaces body answers)
    ((ownedWorkspaces body answers).foldl (fun state workspace => state.attempt workspace.1) state))

def bodyFlight : BodyEnd → CleanupState
  | .returned _ => { primary := none, flight := none }
  | .raised raised => { primary := some (.raised raised), flight := some (.raised raised) }

/-- Each stage runs whatever the one before it raised, and reads the primary anew. -/
def cleanup (ended : BodyEnd) : CleanupState :=
  let first := cleanContainers body answers
    ((bodyFlight ended).observePrimary answers.containerExcInfo)
  let second := closeRecorder body answers (first.observePrimary answers.recorderExcInfo)
  removeWorkspaces body answers (second.observePrimary answers.workspaceExcInfo)

end Stages

/-- A control failure is answered with its result, which shows the notes of what failed after. -/
def resultWithNotes (result : BlackboxResult) (notes : List Text) : BlackboxResult :=
  if notes.isEmpty then result
  else
    { result with
      diagnostics := withPriorDiagnostics
        (boundedCleanupDetails "secondary cleanup" notes) result.diagnostics }

def concludeBlackbox (state : CleanupState) (ended : BodyEnd) : Except Raised BlackboxResult :=
  match state.flight, ended with
  | some (.raised raised), _ => .error raised
  | some (.control result), _ => .ok (resultWithNotes result state.notes)
  | none, .returned result => .ok result
  | none, .raised raised => .error raised

section Run

variable (services : RepoServices) (settings : RepoSettings)
  (request : RepoCandidateAdmissionRequest) (answers : BlackboxAnswers)
  (interrupted : Option (Raised × BodyState)) (recorder : Bool) (cleaning : CleanupAnswers)

/-- The body returns what the run answers, or an exception leaves it in some state. -/
def blackboxBody : BodyState × BodyEnd :=
  match interrupted with
  | some (raised, body) => (body, .raised raised)
  | none =>
    let ended := Phase.finish (blackboxRun services settings request answers) {}
    (⟨true, recorder, true, ended.1⟩, .returned ended.2)

/-- What leaves `run_blackbox`, and the cleanup stages it attempted. -/
def runBlackboxOwned : Except Raised BlackboxResult × List CleanupStage :=
  if settings.packDir.isEmpty || !answers.packExists then (.ok (packMissingResult settings), [])
  else
    let body := blackboxBody services settings request answers interrupted recorder
    let state := cleanup body.1 cleaning body.2
    (concludeBlackbox state body.2, state.attempted)

end Run

/-! Every stage is attempted -/

section

variable (body : BodyState) (answers : CleanupAnswers)

def ownedStages : List CleanupStage :=
  (if body.cidfileDir then [.containers (!body.run.lifecycle.active)] else []) ++
    (if body.recorder then [.recorder] else []) ++ .candidateWorkspace ::
      (if body.packWorkdir then [.packWorkspace] else [])

theorem observe_attempted (excInfo : Option Raised) (state : CleanupState) :
    (state.observePrimary excInfo).attempted = state.attempted := by
  unfold CleanupState.observePrimary
  split <;> rfl

variable (state : CleanupState)

theorem clean_containers_attempted :
    (cleanContainers body answers state).attempted = state.attempted ++
      (if body.cidfileDir then [.containers (!body.run.lifecycle.active)] else []) := by
  unfold cleanContainers
  by_cases owned : body.cidfileDir = true
  · rw [if_pos owned, if_pos owned]
    cases answers.containers with
    | none => rfl
    | some failure =>
      cases state.primary with
      | some primary => rfl
      | none =>
        dsimp only
        split_ifs <;> rfl
  · rw [if_neg owned, if_neg owned, List.append_nil]

theorem close_recorder_attempted :
    (closeRecorder body answers state).attempted = state.attempted ++
      (if body.recorder then [.recorder] else []) := by
  unfold closeRecorder
  by_cases owned : body.recorder = true
  · rw [if_pos owned, if_pos owned]
    cases answers.recorderClose with
    | none => rfl
    | some failure => cases state.primary <;> rfl
  · rw [if_neg owned, if_neg owned, List.append_nil]

theorem fold_attempts (workspaces : List (CleanupStage × Text × WorkspaceAnswers)) :
    ∀ state : CleanupState, workspaces.foldl (fun state workspace => state.attempt workspace.1)
      state = { state with attempted := state.attempted ++ workspaces.map Prod.fst } := by
  induction workspaces with
  | nil =>
    intro state
    simp
  | cons workspace rest later =>
    intro state
    rw [List.foldl_cons, later]
    simp [CleanupState.attempt]

theorem fold_reports_notes (failures : List (Text × Raised)) : ∀ state : CleanupState,
    failures.foldl (fun state (failure : Text × Raised) =>
      state.reportSecondary failure.1 failure.2) state = { state with
        notes := state.notes ++ failures.map fun failure =>
          secondaryCleanup failure.1 failure.2.summary } := by
  induction failures with
  | nil =>
    intro state
    simp
  | cons failure rest later =>
    intro state
    rw [List.foldl_cons, later]
    simp [CleanupState.reportSecondary]

theorem settle_tracked (failures : List (Text × Raised)) (state : CleanupState)
    (tracked : state.primary.isSome = true) :
    settleWorkspaces body failures state = { state with
      notes := state.notes ++ failures.map fun failure =>
        secondaryCleanup failure.1 failure.2.summary } := by
  unfold settleWorkspaces
  split
  · exact fold_reports_notes failures state
  · next absent =>
      rw [absent] at tracked
      cases tracked

theorem settled_attempted (failures : List (Text × Raised)) (state : CleanupState) :
    (settleWorkspaces body failures state).attempted = state.attempted := by
  unfold settleWorkspaces
  cases state.primary with
  | some primary =>
    dsimp only
    rw [fold_reports_notes]
  | none =>
    cases failures with
    | nil => rfl
    | cons first rest =>
      dsimp only
      split_ifs <;> rfl

theorem deferred_attempted :
    (raiseDeferred state).attempted = state.attempted := by
  unfold raiseDeferred
  split <;> rfl

theorem remove_workspaces_attempted :
    (removeWorkspaces body answers state).attempted = state.attempted ++ .candidateWorkspace ::
      (if body.packWorkdir then [.packWorkspace] else []) := by
  rw [removeWorkspaces, deferred_attempted, settled_attempted, fold_attempts]
  dsimp only
  rw [ownedWorkspaces]
  split_ifs <;> rfl

theorem cleanup_attempted (ended : BodyEnd) :
    (cleanup body answers ended).attempted = ownedStages body := by
  have started : (bodyFlight ended).attempted = [] := by
    cases ended <;> rfl
  simp only [cleanup, remove_workspaces_attempted, close_recorder_attempted,
    clean_containers_attempted, observe_attempted, started, List.nil_append]
  rfl

/-! What is on its way out -/

/-- With a primary a stage changes nothing but the notes and the attempts. -/
def SamePrimary (before after : CleanupState) : Prop :=
  after.primary = before.primary ∧ after.deferred = before.deferred ∧ after.flight = before.flight

theorem observed_primary (excInfo : Option Raised) (state : CleanupState) (primary : Flight)
    (tracked : state.primary = some primary) : state.observePrimary excInfo = state := by
  unfold CleanupState.observePrimary
  rw [tracked]

theorem clean_containers_primary (primary : Flight)
    (tracked : state.primary = some primary) :
    SamePrimary state (cleanContainers body answers state) := by
  unfold cleanContainers
  rw [tracked]
  split_ifs
  · cases answers.containers with
    | none | some failure => exact ⟨rfl, rfl, rfl⟩
  · exact ⟨rfl, rfl, rfl⟩

theorem close_recorder_primary (primary : Flight)
    (tracked : state.primary = some primary) :
    SamePrimary state (closeRecorder body answers state) := by
  unfold closeRecorder
  rw [tracked]
  split_ifs
  · cases answers.recorderClose with
    | none | some failure => exact ⟨rfl, rfl, rfl⟩
  · exact ⟨rfl, rfl, rfl⟩

theorem settled_primary (failures : List (Text × Raised)) (state : CleanupState)
    (primary : Flight) (tracked : state.primary = some primary) :
    SamePrimary state (settleWorkspaces body failures state) := by
  rw [settle_tracked body failures state (by rw [tracked]; rfl)]
  exact ⟨rfl, rfl, rfl⟩

theorem deferred_flight :
    (raiseDeferred state).flight =
      match state.deferred with
      | some raised => some (.raised raised)
      | none => state.flight := by
  unfold raiseDeferred
  cases state.deferred <;> rfl

theorem remove_workspaces_primary (primary : Flight)
    (tracked : state.primary = some primary) :
    (removeWorkspaces body answers state).flight =
      match state.deferred with
      | some raised => some (.raised raised)
      | none => state.flight := by
  rw [removeWorkspaces, fold_attempts]
  have same := settled_primary body (failedWorkspaces body answers)
    { state with attempted := state.attempted ++ (ownedWorkspaces body answers).map Prod.fst }
    primary tracked
  rw [deferred_flight, same.2.1, same.2.2]

theorem raised_body_leaves (raised : Raised) :
    (cleanup body answers (.raised raised)).flight = some (.raised raised) := by
  have start : (bodyFlight (.raised raised)).primary = some (.raised raised) := rfl
  have first := clean_containers_primary body answers (bodyFlight (.raised raised)) _ start
  have second := close_recorder_primary body answers _ _ (first.1.trans start)
  simp only [cleanup]
  rw [observed_primary answers.containerExcInfo _ _ start,
    observed_primary answers.recorderExcInfo _ _ (first.1.trans start),
    observed_primary answers.workspaceExcInfo _ _ (second.1.trans (first.1.trans start)),
    remove_workspaces_primary body answers _ _ (second.1.trans (first.1.trans start)),
    second.2.1, first.2.1, second.2.2, first.2.2]
  rfl

/-- Nothing has failed so far. -/
def Quiet (state : CleanupState) : Prop :=
  state.primary = none ∧ state.deferred = none ∧ state.flight = none

def IsCleanupResult (run : BlackboxRunState) (result : BlackboxResult) : Prop :=
  (∃ failure, result = containerFailureResult run failure) ∨
    ∃ diagnostics, result = cleanupFailureResult run diagnostics .workspaceCleanupFailed

def Leaves (flight : Option Flight) : Prop :=
  ∃ leaving, flight = some leaving ∧
    ∀ result, leaving = .control result → IsCleanupResult body.run result

def Failing (state : CleanupState) : Prop :=
  (∃ primary, state.primary = some primary) ∧
    ((∃ raised, state.deferred = some raised) ∨
      state.deferred = none ∧ Leaves body state.flight)

theorem leaves_raised (raised : Raised) : Leaves body (some (.raised raised)) := by
  refine ⟨.raised raised, rfl, ?_⟩
  intro result same
  cases same

theorem observed_quiet_or_failing (excInfo : Option Raised) (state : CleanupState)
    (quiet : Quiet state) :
    state.observePrimary excInfo = state ∨ Failing body (state.observePrimary excInfo) := by
  unfold CleanupState.observePrimary
  rw [quiet.1]
  cases excInfo with
  | none => exact Or.inl rfl
  | some raised => exact Or.inr ⟨⟨.raised raised, rfl⟩, Or.inl ⟨raised, rfl⟩⟩

theorem failing_same (before after : CleanupState) (same : SamePrimary before after)
    (failing : Failing body before) : Failing body after := by
  unfold Failing at failing ⊢
  rw [same.1, same.2.1, same.2.2]
  exact failing

theorem fly_failing (flight : Flight) (state : CleanupState) (undeferred : state.deferred = none)
    (lawful : ∀ result, flight = .control result → IsCleanupResult body.run result) :
    Failing body (state.fly flight) :=
  ⟨⟨flight, rfl⟩, Or.inr ⟨undeferred, flight, rfl, lawful⟩⟩

theorem observed_failing (excInfo : Option Raised) (state : CleanupState)
    (failing : Failing body state) : state.observePrimary excInfo = state := by
  obtain ⟨primary, tracked⟩ := failing.1
  exact observed_primary excInfo state primary tracked

variable (state : CleanupState)

theorem clean_containers_failing (failing : Failing body state) :
    Failing body (cleanContainers body answers state) := by
  obtain ⟨primary, tracked⟩ := failing.1
  exact failing_same body _ _ (clean_containers_primary body answers state primary tracked) failing

theorem close_recorder_failing (failing : Failing body state) :
    Failing body (closeRecorder body answers state) := by
  obtain ⟨primary, tracked⟩ := failing.1
  exact failing_same body _ _ (close_recorder_primary body answers state primary tracked) failing

theorem remove_workspaces_failing (failing : Failing body state) :
    Leaves body (removeWorkspaces body answers state).flight := by
  obtain ⟨⟨primary, tracked⟩, ways⟩ := failing
  rw [remove_workspaces_primary body answers state primary tracked]
  cases ways with
  | inl late =>
    obtain ⟨raised, deferred⟩ := late
    rw [deferred]
    exact leaves_raised body raised
  | inr leaving =>
    rw [leaving.1]
    exact leaving.2

theorem clean_containers_quiet (quiet : Quiet state) :
    (Quiet (cleanContainers body answers state) ∧
        (body.cidfileDir = true → answers.containers = none)) ∨
      Failing body (cleanContainers body answers state) := by
  unfold cleanContainers
  by_cases owned : body.cidfileDir = true
  · rw [if_pos owned, quiet.1]
    cases failed : answers.containers with
    | none => exact Or.inl ⟨quiet, fun _ => rfl⟩
    | some failure =>
      refine Or.inr ?_
      dsimp only
      split_ifs
      · apply fly_failing body _ _ quiet.2.1
        intro result same
        cases same
        exact Or.inl ⟨failure.message, rfl⟩
      · apply fly_failing body _ _ quiet.2.1
        intro result same
        cases same
  · rw [if_neg owned]
    exact Or.inl ⟨quiet, fun present => absurd present owned⟩

theorem close_recorder_quiet (quiet : Quiet state) :
    (Quiet (closeRecorder body answers state) ∧
        (body.recorder = true → answers.recorderClose = none)) ∨
      Failing body (closeRecorder body answers state) := by
  unfold closeRecorder
  by_cases owned : body.recorder = true
  · rw [if_pos owned, quiet.1]
    cases failed : answers.recorderClose with
    | none => exact Or.inl ⟨quiet, fun _ => rfl⟩
    | some failure =>
      refine Or.inr ?_
      apply fly_failing body _ _ quiet.2.1
      intro result same
      cases same
  · rw [if_neg owned]
    exact Or.inl ⟨quiet, fun present => absurd present owned⟩

theorem remove_workspaces_quiet (quiet : Quiet state) :
    ((removeWorkspaces body answers state).flight = none ∧
        failedWorkspaces body answers = []) ∨
      Leaves body (removeWorkspaces body answers state).flight := by
  rw [removeWorkspaces, fold_attempts, deferred_flight]
  unfold settleWorkspaces
  dsimp only
  rw [quiet.1]
  cases failedWorkspaces body answers with
  | nil =>
    rw [quiet.2.1]
    exact Or.inl ⟨quiet.2.2, rfl⟩
  | cons first rest =>
    refine Or.inr ?_
    dsimp only
    split_ifs
    · rw [CleanupState.fly, quiet.2.1]
      refine ⟨_, rfl, ?_⟩
      intro result same
      cases same
      exact Or.inr ⟨_, rfl⟩
    · rw [CleanupState.fly, quiet.2.1]
      exact leaves_raised body first.2

/-- After a body that returned, either every stage ended without a failure, or something leaves
that is no result of the body. -/
theorem returned_body_leaves (result : BlackboxResult) :
    ((cleanup body answers (.returned result)).flight = none ∧
        (body.cidfileDir = true → answers.containers = none) ∧
        (body.recorder = true → answers.recorderClose = none) ∧
        failedWorkspaces body answers = []) ∨
      Leaves body (cleanup body answers (.returned result)).flight := by
  simp only [cleanup]
  generalize start : bodyFlight (.returned result) = before
  have quiet : Quiet before := by
    rw [← start]
    exact ⟨rfl, rfl, rfl⟩
  have first : (Quiet (cleanContainers body answers
        (before.observePrimary answers.containerExcInfo)) ∧
        (body.cidfileDir = true → answers.containers = none)) ∨
      Failing body (cleanContainers body answers
        (before.observePrimary answers.containerExcInfo)) := by
    cases observed_quiet_or_failing body answers.containerExcInfo before quiet with
    | inl same =>
      rw [same]
      exact clean_containers_quiet body answers before quiet
    | inr failing => exact Or.inr (clean_containers_failing body answers _ failing)
  generalize cleanContainers body answers (before.observePrimary answers.containerExcInfo) =
    contained at first ⊢
  have second : (Quiet (closeRecorder body answers
        (contained.observePrimary answers.recorderExcInfo)) ∧
        (body.cidfileDir = true → answers.containers = none) ∧
        (body.recorder = true → answers.recorderClose = none)) ∨
      Failing body (closeRecorder body answers
        (contained.observePrimary answers.recorderExcInfo)) := by
    cases first with
    | inl fine =>
      cases observed_quiet_or_failing body answers.recorderExcInfo contained fine.1 with
      | inl same =>
        rw [same]
        cases close_recorder_quiet body answers contained fine.1 with
        | inl closed => exact Or.inl ⟨closed.1, fine.2, closed.2⟩
        | inr failing => exact Or.inr failing
      | inr failing => exact Or.inr (close_recorder_failing body answers _ failing)
    | inr failing =>
      rw [observed_failing body answers.recorderExcInfo contained failing]
      exact Or.inr (close_recorder_failing body answers contained failing)
  generalize closeRecorder body answers (contained.observePrimary answers.recorderExcInfo) =
    closed at second ⊢
  cases second with
  | inl fine =>
    cases observed_quiet_or_failing body answers.workspaceExcInfo closed fine.1 with
    | inl same =>
      rw [same]
      cases remove_workspaces_quiet body answers closed fine.1 with
      | inl removed => exact Or.inl ⟨removed.1, fine.2.1, fine.2.2, removed.2⟩
      | inr leaving => exact Or.inr leaving
    | inr failing => exact Or.inr (remove_workspaces_failing body answers _ failing)
  | inr failing =>
    rw [observed_failing body answers.workspaceExcInfo closed failing]
    exact Or.inr (remove_workspaces_failing body answers closed failing)

theorem workspaces_proven (owned : body.packWorkdir = true)
    (removed : failedWorkspaces body answers = []) :
    ProvenAbsent answers.candidateWorkspace ∧ ProvenAbsent answers.packWorkspace := by
  rw [failedWorkspaces, List.filterMap_eq_nil_iff] at removed
  have clean : ∀ workspace ∈ ownedWorkspaces body answers,
      cleanupWorkspace workspace.2.2 = .ok () := by
    intro workspace member
    have none := removed workspace member
    cases ended : cleanupWorkspace workspace.2.2 with
    | ok _ => rfl
    | error raised => simp [ended] at none
  constructor
  · exact cleanup_workspace_proven _ (clean (.candidateWorkspace, _, answers.candidateWorkspace)
      List.mem_cons_self)
  · exact cleanup_workspace_proven _ (clean (.packWorkspace,
      "verifier-pack snapshot workspace", answers.packWorkspace)
      (by simp [ownedWorkspaces, owned]))

end

/-! The plain run is the owned one -/

def failureOf (answers : WorkspaceAnswers) : Option Raised :=
  match cleanupWorkspace answers with
  | .ok () => none
  | .error raised => some raised

/-- The cleanup answers show what the plain run was told: reading the current exception and closing
the recorder never fail, and every other failure is an ordinary one with the given text. -/
structure Renders (answers : BlackboxAnswers) (cleaning : CleanupAnswers) : Prop where
  containerRead : cleaning.containerExcInfo = none
  recorderRead : cleaning.recorderExcInfo = none
  workspaceRead : cleaning.workspaceExcInfo = none
  recorderClosed : cleaning.recorderClose = none
  containers : cleaning.containers.map Raised.message = answers.containerCleanup
  containersTyped : ∀ raised, cleaning.containers = some raised → raised.containerCleanup = true
  candidate : (failureOf cleaning.candidateWorkspace).map Raised.summary =
    answers.candidateWorkspaceCleanup
  pack : (failureOf cleaning.packWorkspace).map Raised.summary = answers.packWorkspaceCleanup
  ordinary : ∀ raised, failureOf cleaning.candidateWorkspace = some raised ∨
    failureOf cleaning.packWorkspace = some raised → raised.ordinary = true

section Agreement

variable (answers : BlackboxAnswers) (cleaning : CleanupAnswers)

theorem failed_workspaces_rendered (body : BodyState) (owned : body.packWorkdir = true)
    (rendered : Renders answers cleaning) :
    (failedWorkspaces body cleaning).map (fun failure => (failure.1, failure.2.summary)) =
        workspaceFailures answers ∧
      ∀ failure ∈ failedWorkspaces body cleaning, failure.2.ordinary = true := by
  have failed : failedWorkspaces body cleaning =
      ((failureOf cleaning.candidateWorkspace).map fun raised =>
          ("candidate workspace".toList, raised)).toList ++
        ((failureOf cleaning.packWorkspace).map fun raised =>
          ("verifier-pack snapshot workspace".toList, raised)).toList := by
    unfold failedWorkspaces ownedWorkspaces failureOf
    rw [if_pos owned]
    cases candidate : cleanupWorkspace cleaning.candidateWorkspace <;>
      cases pack : cleanupWorkspace cleaning.packWorkspace <;>
      simp [List.filterMap, candidate, pack]
  rw [failed, workspaceFailures, ← rendered.candidate, ← rendered.pack]
  constructor
  · cases failureOf cleaning.candidateWorkspace <;> cases failureOf cleaning.packWorkspace <;> rfl
  · intro failure member
    apply rendered.ordinary failure.2
    rw [List.mem_append, Option.mem_toList, Option.mem_toList] at member
    cases member with
    | inl candidate =>
      obtain ⟨raised, found, same⟩ := Option.map_eq_some_iff.mp candidate
      rw [← same]
      exact Or.inl found
    | inr pack =>
      obtain ⟨raised, found, same⟩ := Option.map_eq_some_iff.mp pack
      rw [← same]
      exact Or.inr found

theorem conclusion_agrees (body : BodyState) (result : BlackboxResult)
    (cidfile : body.cidfileDir = true) (owned : body.packWorkdir = true)
    (rendered : Renders answers cleaning) :
    concludeBlackbox (cleanup body cleaning (.returned result)) (.returned result) =
      .ok (concludeCleanup answers (body.run, result)) := by
  obtain ⟨same, ordinary⟩ := failed_workspaces_rendered answers cleaning body owned rendered
  have told := rendered.containers
  have typed := rendered.containersTyped
  unfold cleanup
  rw [rendered.containerRead, rendered.recorderRead, rendered.workspaceRead]
  unfold removeWorkspaces closeRecorder cleanContainers concludeCleanup
  rw [rendered.recorderClosed, if_pos cidfile, ← same, ← told]
  dsimp only
  rw [fold_attempts]
  generalize failedWorkspaces body cleaning = failures at ordinary ⊢
  cases contained : cleaning.containers with
  | none =>
    cases failures with
    | nil =>
      dsimp only [bodyFlight, CleanupState.observePrimary, CleanupState.attempt, Option.map]
      split_ifs <;> rfl
    | cons first rest =>
      have plain : first.2.ordinary = true := ordinary first List.mem_cons_self
      cases body.recorder <;>
        simp [bodyFlight, CleanupState.observePrimary, CleanupState.attempt, settleWorkspaces,
          plain, CleanupState.fly, raiseDeferred, concludeBlackbox, resultWithNotes,
          workspaceFailureResult, Function.comp_def]
  | some failure =>
    have type : failure.containerCleanup = true := typed failure contained
    cases failures with
    | nil =>
      cases body.recorder <;>
        simp [bodyFlight, CleanupState.observePrimary, CleanupState.attempt, settleWorkspaces,
          type, CleanupState.fly, raiseDeferred, concludeBlackbox, resultWithNotes]
    | cons first rest =>
      cases body.recorder <;>
        simp [bodyFlight, CleanupState.observePrimary, CleanupState.attempt, type, settle_tracked,
          CleanupState.fly, raiseDeferred, concludeBlackbox, resultWithNotes, Function.comp_def]

end Agreement

theorem owned_run_agrees (services : RepoServices) (settings : RepoSettings)
    (request : RepoCandidateAdmissionRequest) (answers : BlackboxAnswers) (recorder : Bool)
    (cleaning : CleanupAnswers) (rendered : Renders answers cleaning) :
    (runBlackboxOwned services settings request answers none recorder cleaning).1 =
      .ok (runBlackbox services settings request answers) := by
  unfold runBlackboxOwned runBlackbox
  by_cases missing : (settings.packDir.isEmpty || !answers.packExists) = true
  · rw [if_pos missing, if_pos missing]
  · rw [if_neg missing, if_neg missing]
    exact conclusion_agrees answers cleaning _ _ rfl rfl rendered

def remainingContainer : Raised :=
  { identity := 1, typeName := "CandidateContainerCleanupError", message := "container remains",
    containerCleanup := true }

def refusedRemoval : Raised :=
  { identity := 2, typeName := "PermissionError", message := "workspace remains" }

/-- The containers and the candidate workspace of a run that would have passed remain. -/
def failedCleaning : CleanupAnswers where
  containerExcInfo := none
  recorderExcInfo := none
  workspaceExcInfo := none
  containers := some remainingContainer
  recorderClose := none
  candidateWorkspace := ⟨.ok false, none, some refusedRemoval, .ok false, .ok false, refusedRemoval⟩
  packWorkspace := ⟨.ok true, none, none, .ok true, .ok true, refusedRemoval⟩

theorem failed_cleanup_agrees :
    let run := Application.greenVerification
    let answers := { run.answers with
      containerCleanup := some "container remains"
      candidateWorkspaceCleanup := some "PermissionError: workspace remains" }
    (runBlackboxOwned run.services run.settings run.request answers none true failedCleaning).1 =
        .ok (runBlackbox run.services run.settings run.request answers) ∧
      (runBlackbox run.services run.settings run.request run.answers).passed = true ∧
      (runBlackbox run.services run.settings run.request answers).error =
        some .containerCleanupFailed := by
  have rendered : Renders { Application.greenAnswers with
      containerCleanup := some "container remains"
      candidateWorkspaceCleanup := some "PermissionError: workspace remains" } failedCleaning :=
    { containerRead := rfl
      recorderRead := rfl
      workspaceRead := rfl
      recorderClosed := rfl
      containers := rfl
      containersTyped := fun raised same => Option.some.inj same ▸ rfl
      candidate := by decide
      pack := rfl
      ordinary := by
        rintro raised (same | same)
        · exact Option.some.inj same ▸ rfl
        · cases same }
  exact ⟨owned_run_agrees _ _ _ _ true _ rendered, by decide, by decide⟩

/-! What the body leaves to the cleanup -/

/-- The state a returning body leaves: a verdict that ran belongs to a completed judge, an active
lifecycle to a result that did not run, and the pending result is the one returned. -/
structure Settled (state : BlackboxRunState) (result : BlackboxResult) : Prop where
  ran : result.passed = true ∨ result.ran = true →
    state.lifecycle = ⟨false, true⟩ ∧ result.completed = true ∧ result.executionState = .completed
  active : state.lifecycle.active = true → result.passed = false ∧ result.ran = false
  pending : ∀ pending, state.pending = some pending → pending = result

section Settling

variable (services : RepoServices) (settings : RepoSettings)
  (request : RepoCandidateAdmissionRequest) (answers : BlackboxAnswers)

theorem early_settled (state : BlackboxRunState) (fresh : state.pending = none)
    (result : BlackboxResult) (unpassed : result.passed = false) (unran : result.ran = false) :
    Settled state result := by
  constructor
  · intro claimed
    rw [unpassed, unran] at claimed
    simp at claimed
  · intro _
    exact ⟨unpassed, unran⟩
  · intro pending found
    rw [fresh] at found
    cases found

theorem early_refusals_settled {Problem : Type} (state : BlackboxRunState)
    (fresh : state.pending = none) (found : Option Problem) (build : Problem → BlackboxResult)
    (unclaimed : ∀ problem, (build problem).passed = false ∧ (build problem).ran = false) :
    ∀ result, found.map build = some result → Settled state result := by
  intro result refused
  rcases Option.map_eq_some_iff.mp refused with ⟨problem, _, built⟩
  subst built
  exact early_settled state fresh _ (unclaimed problem).1 (unclaimed problem).2

theorem interpreted_completed (completed : CompletedCommand) (report : Option Text) :
    (interpretBlackboxPack services.parseXml services.distill completed report).completed = true ∧
      (interpretBlackboxPack services.parseXml services.distill completed report).executionState =
        .completed := by
  unfold interpretBlackboxPack
  dsimp only
  split
  · exact ⟨rfl, rfl⟩
  · split_ifs <;> exact ⟨rfl, rfl⟩

theorem pack_facts_settled (timeout : Nat) :
    let execution := executeBlackboxPack timeout answers.packBefore answers.judge answers.packAfter
    let facts := packFacts services answers execution.2
    ((facts.passed = true ∨ facts.ran = true) → execution.1 = ⟨false, true⟩ ∧
      facts.completed = true ∧ facts.executionState = .completed) ∧
    (execution.1.active = true → facts.passed = false ∧ facts.ran = false) := by
  unfold executeBlackboxPack
  cases answers.packBefore with
  | some problem => simp [packFacts]
  | none =>
    cases answers.judge with
    | timeout | outputLimit message | cleanupFailed message => simp [packFacts, incompletePack]
    | finished returncode stdout stderr =>
      cases answers.packAfter with
      | some problem => simp [packFacts, returnedPack]
      | none =>
        have done := interpreted_completed services ⟨returncode, stdout, stderr⟩
          answers.report
        constructor
        · intro _
          exact ⟨rfl, done⟩
        · intro active
          cases active

theorem projected_settled (baseline : List (Text × EntryState)) (packSha256 : Text)
    (isolation : BlackboxIsolation) (facts : BlackboxPackVerdictFacts) :
    let result := projectPackVerdict services request answers baseline packSha256 isolation facts
    (result.passed = true → facts.passed = true) ∧ (result.ran = true → facts.ran = true) ∧
      result.completed = facts.completed ∧ result.executionState = facts.executionState := by
  have attached : ∀ result : BlackboxResult, result = (if facts.attachCandidateEvidence then
      withCandidateEvidence answers facts.waitForLateContainerEvidence isolation
        (packResult packSha256 isolation facts)
      else packResult packSha256 isolation facts) →
      result.passed = facts.passed ∧ result.ran = facts.ran ∧
        result.completed = facts.completed ∧ result.executionState = facts.executionState := by
    intro result same
    rw [same]
    split_ifs <;> exact ⟨rfl, rfl, rfl, rfl⟩
  have held := attached _ rfl
  unfold projectPackVerdict enforceHarnessPostcondition
  dsimp only
  split
  · rw [held.1, held.2.1, held.2.2.1, held.2.2.2]
    exact ⟨id, id, rfl, rfl⟩
  · dsimp only
    rw [held.2.2.1, held.2.2.2]
    simp

theorem blackbox_run_settled :
    Ends (blackboxRun services settings request answers) {} Settled Settled := by
  unfold blackboxRun
  apply ends_bind _ _ _ _ (fun state _ => state.pending = none)
  · apply ends_of_pair
    · intro result refused
      unfold acceptPack at refused
      split at refused
      · cases refused
        exact early_settled _ rfl _ rfl rfl
      · dsimp only at refused
        split_ifs at refused
        cases refused
        exact early_settled _ rfl _ rfl rfl
    · intro sha256 _
      rfl
  intro packSha256 accepted fresh
  apply ends_bind _ _ _ _ (fun state _ => state.pending = none)
  · apply ends_of_pair
    · intro result refused
      unfold trustedBaseline at refused
      split at refused
      · cases refused
      · cases refused
        exact early_settled _ fresh _ rfl rfl
    · intro baseline _
      exact fresh
  intro baseline trusted kept
  apply ends_refuse_bind
  · exact early_refusals_settled _ kept _ _ fun _ => ⟨rfl, rfl⟩
  intro _
  apply ends_refuse_bind
  · exact early_refusals_settled _ kept _ _ fun _ => ⟨rfl, rfl⟩
  intro _
  apply ends_refuse_bind
  · exact early_refusals_settled _ kept _ _ fun _ => ⟨rfl, rfl⟩
  intro _
  apply ends_bind _ _ _ _ (fun state _ => state.pending = none)
  · apply ends_of_pair
    · intro result refused
      unfold prepareBoundary at refused
      split at refused
      · cases refused
      · cases refused
        apply early_settled
        · exact kept
        · rfl
        · rfl
    · intro isolation _
      exact kept
  intro isolation prepared unset
  apply ends_modify_bind
  apply ends_pure
  have facts := pack_facts_settled services answers settings.judge.timeout
  have projected := projected_settled services request answers baseline packSha256 isolation
    (packFacts services answers (executeBlackboxPack settings.judge.timeout answers.packBefore
      answers.judge answers.packAfter).2)
  dsimp only at facts projected
  constructor
  · intro claimed
    have factual := facts.1 (claimed.imp projected.1 projected.2.1)
    refine ⟨factual.1, ?_, ?_⟩
    · rw [projected.2.2.1]
      exact factual.2.1
    · rw [projected.2.2.2]
      exact factual.2.2
  · intro active
    have idle := facts.2 active
    constructor
    · rw [Bool.eq_false_iff]
      intro passed
      have wrong := projected.1 passed
      rw [idle.1] at wrong
      cases wrong
    · rw [Bool.eq_false_iff]
      intro ran
      have wrong := projected.2.1 ran
      rw [idle.2] at wrong
      cases wrong
  · intro pending found
    cases found
    rfl

theorem cleanup_result_unclaimed (run : BlackboxRunState) (result cleaned : BlackboxResult)
    (settled : Settled run result) (failed : IsCleanupResult run cleaned) :
    cleaned.passed = false ∧ cleaned.ran = false ∧ ∀ pending, run.pending = some pending →
      cleaned.isolation = pending.isolation ∧
        cleaned.candidateInvocations = pending.candidateInvocations ∧
        cleaned.candidateLauncherInvocationObserved =
          pending.candidateLauncherInvocationObserved := by
  have replaced : ∀ diagnostics error, (cleanupFailureResult run diagnostics error).passed = false ∧
      (cleanupFailureResult run diagnostics error).ran = false ∧
      ∀ pending, run.pending = some pending →
        (cleanupFailureResult run diagnostics error).isolation = pending.isolation ∧
        (cleanupFailureResult run diagnostics error).candidateInvocations =
          pending.candidateInvocations ∧
        (cleanupFailureResult run diagnostics error).candidateLauncherInvocationObserved =
          pending.candidateLauncherInvocationObserved := by
    intro diagnostics error
    unfold cleanupFailureResult
    cases pended : run.pending with
    | none | some pending => simp [retainPendingCandidateEvidence]
  cases failed with
  | inr workspace =>
    obtain ⟨diagnostics, same⟩ := workspace
    rw [same]
    exact replaced diagnostics _
  | inl container =>
    obtain ⟨failure, same⟩ := container
    rw [same]
    cases active : run.lifecycle.active with
    | false =>
      have plain : containerFailureResult run failure = cleanupFailureResult run
          (truncateText maxDiagnostics failure) .containerCleanupFailed := by
        simp [containerFailureResult, active]
      rw [plain]
      exact replaced _ _
    | true =>
      cases pended : run.pending with
      | none =>
        have plain : containerFailureResult run failure = cleanupFailureResult run
            (truncateText maxDiagnostics failure) .containerCleanupFailed := by
          simp [containerFailureResult, active, pended]
        rw [plain, ← pended]
        exact replaced _ _
      | some pending =>
        have idle := settled.active active
        rw [← settled.pending pending pended] at idle
        simp only [containerFailureResult, active, pended, Option.some.injEq]
        refine ⟨idle.1, idle.2, ?_⟩
        intro other same
        rw [same]
        exact ⟨rfl, rfl, rfl⟩

variable (interrupted : Option (Raised × BodyState)) (recorder : Bool) (cleaning : CleanupAnswers)

theorem started_verdict_after_cleanup
    (present : ¬ (settings.packDir.isEmpty || !answers.packExists) = true) :
    let body := blackboxBody services settings request answers interrupted recorder
    let left := runBlackboxOwned services settings request answers interrupted recorder cleaning
    left.2 = ownedStages body.1 ∧
    (∀ raised state, interrupted = some (raised, state) → left.1 = .error raised) ∧
    (∀ result, left.1 = .ok result → (result.passed = true ∨ result.ran = true) →
      interrupted = none ∧ body.2 = .returned result ∧
      result.completed = true ∧ result.executionState = .completed ∧
      .containers true ∈ left.2 ∧ cleaning.containers = none ∧
      (recorder = true → cleaning.recorderClose = none) ∧
      ProvenAbsent cleaning.candidateWorkspace ∧ ProvenAbsent cleaning.packWorkspace) ∧
    (∀ result, left.1 = .ok result → ∀ pending, body.1.run.pending = some pending →
      result.isolation = pending.isolation ∧
        result.candidateInvocations = pending.candidateInvocations ∧
        result.candidateLauncherInvocationObserved =
          pending.candidateLauncherInvocationObserved) := by
  simp only [runBlackboxOwned, if_neg present]
  cases interrupted with
  | some stopped =>
    obtain ⟨raised, state⟩ := stopped
    have leaves : concludeBlackbox (cleanup state cleaning (.raised raised)) (.raised raised) =
        .error raised := by
      unfold concludeBlackbox
      rw [raised_body_leaves]
    unfold blackboxBody
    dsimp only
    refine ⟨cleanup_attempted _ _ _, ?_, ?_, ?_⟩
    · intro other body same
      cases same
      exact leaves
    · intro result answered
      rw [leaves] at answered
      cases answered
    · intro result answered
      rw [leaves] at answered
      cases answered
  | none =>
    have settled := finish_of_ends _ _ _ (blackbox_run_settled services settings request answers)
    unfold blackboxBody
    dsimp only
    generalize finish (blackboxRun services settings request answers) {} = ended at settled ⊢
    obtain ⟨run, verdict⟩ := ended
    dsimp only at settled ⊢
    have stages := cleanup_attempted ⟨true, recorder, true, run⟩ cleaning (.returned verdict)
    have leaving := returned_body_leaves ⟨true, recorder, true, run⟩ cleaning verdict
    cases leaving with
    | inl fine =>
      obtain ⟨landed, containers, closed, removed⟩ := fine
      have returned : concludeBlackbox
          (cleanup ⟨true, recorder, true, run⟩ cleaning (.returned verdict))
          (.returned verdict) = .ok verdict := by
        unfold concludeBlackbox
        rw [landed]
      rw [returned]
      refine ⟨stages, by simp, ?_, ?_⟩
      · intro result answered claimed
        cases answered
        obtain ⟨finished, completed, executed⟩ := settled.ran claimed
        have proven := workspaces_proven ⟨true, recorder, true, run⟩ cleaning rfl removed
        refine ⟨rfl, rfl, completed, executed, ?_, containers rfl, closed, proven.1, proven.2⟩
        rw [stages, ownedStages, finished]
        simp
      · intro result answered pending found
        cases answered
        rw [settled.pending pending found]
        exact ⟨rfl, rfl, rfl⟩
    | inr away =>
      obtain ⟨flight, out, lawful⟩ := away
      unfold concludeBlackbox
      rw [out]
      cases flight with
      | raised raised =>
        dsimp only
        refine ⟨stages, by simp, ?_, ?_⟩
        · intro result answered
          cases answered
        · intro result answered
          cases answered
      | control failed =>
        dsimp only
        have unclaimed := cleanup_result_unclaimed run verdict failed settled
          (lawful failed rfl)
        have noted : ∀ notes, (resultWithNotes failed notes).passed = failed.passed ∧
            (resultWithNotes failed notes).ran = failed.ran ∧
            (resultWithNotes failed notes).isolation = failed.isolation ∧
            (resultWithNotes failed notes).candidateInvocations =
              failed.candidateInvocations ∧
            (resultWithNotes failed notes).candidateLauncherInvocationObserved =
              failed.candidateLauncherInvocationObserved := by
          intro notes
          unfold resultWithNotes
          split_ifs <;> exact ⟨rfl, rfl, rfl, rfl, rfl⟩
        refine ⟨stages, by simp, ?_, ?_⟩
        · intro result answered claimed
          cases answered
          rw [(noted _).1, (noted _).2.1, unclaimed.1, unclaimed.2.1] at claimed
          simp at claimed
        · intro result answered pending found
          cases answered
          obtain ⟨passed, ran, kept⟩ := noted
            (cleanup ⟨true, recorder, true, run⟩ cleaning (.returned verdict)).notes
          rw [kept.1, kept.2.1, kept.2.2]
          exact unclaimed.2.2 pending found

/-- A black-box verdict never outruns its cleanup, whatever the body does and whatever each stage
of the cleanup raises. Without a pack nothing is owned and nothing runs. -/
theorem blackbox_verdict_after_cleanup :
    (let missing := settings.packDir.isEmpty || !answers.packExists
     let body := blackboxBody services settings request answers interrupted recorder
     let left := runBlackboxOwned services settings request answers interrupted recorder cleaning
     left.2 = (if missing then [] else ownedStages body.1) ∧
     (missing = false → ∀ raised state, interrupted = some (raised, state) →
       left.1 = .error raised) ∧
     (∀ result, left.1 = .ok result → (result.passed = true ∨ result.ran = true) →
       interrupted = none ∧ body.2 = .returned result ∧
       result.completed = true ∧ result.executionState = .completed ∧
       .containers true ∈ left.2 ∧ cleaning.containers = none ∧
       (recorder = true → cleaning.recorderClose = none) ∧
       ProvenAbsent cleaning.candidateWorkspace ∧ ProvenAbsent cleaning.packWorkspace) ∧
     (missing = false → ∀ result, left.1 = .ok result →
       ∀ pending, body.1.run.pending = some pending →
       result.isolation = pending.isolation ∧
         result.candidateInvocations = pending.candidateInvocations ∧
         result.candidateLauncherInvocationObserved =
           pending.candidateLauncherInvocationObserved)) := by
  intro missing body left
  by_cases absent : missing = true
  · have ended : left = (.ok (packMissingResult settings), []) := if_pos absent
    rw [if_pos absent, ended]
    refine ⟨rfl, ?_, ?_, ?_⟩
    · intro started
      rw [absent] at started
      cases started
    · intro result answered claimed
      cases answered
      simp [packMissingResult] at claimed
    · intro started
      rw [absent] at started
      cases started
  · have started := started_verdict_after_cleanup services settings request answers interrupted
      recorder cleaning absent
    rw [if_neg absent]
    exact ⟨started.1, fun _ => started.2.1, started.2.2.1, fun _ => started.2.2.2⟩

end Settling

end EvoomGuard.Verifiers
