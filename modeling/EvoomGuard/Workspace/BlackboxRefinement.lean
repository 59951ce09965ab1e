import EvoomGuard.Verifiers.BlackboxCleanup
import EvoomGuard.Workspace.OwnedCleanup

/-!
The removal of the workspaces of the black-box run, call by call, is the one that its cleanup takes
as an answer.
-/

namespace EvoomGuard.Workspace.Cleanup

open Lib Lib.Phase

/-- The loop of the black-box cleanup over its workspaces. -/
def blackboxFailures (host : Host) : List (Text × Option WorkspacePath) → World →
    List (Text × Raised)
  | [], _ => []
  | (_, none) :: rest, world => blackboxFailures host rest world
  | (label, some path) :: rest, world =>
    match cleanupRepoWorkspaces host [(label, some path)] none "Blackbox" world with
    | (.ok (), after) => blackboxFailures host rest after
    | (.error raised, after) => (label, raised) :: blackboxFailures host rest after

variable {Value : Type} (host : Host) (other : Raised → Verifiers.Raised)

/-- The exception in the abstract cleanup, which reads of it whether it is a missing file. -/
def seen (raised : Raised) : Verifiers.Raised :=
  { other raised with missingFile := raised.fileNotFound }

def answer (program : Step Value) (before : World) : Except Verifiers.Raised Value :=
  match program before with
  | .ok value _ => .ok value
  | .error raised _ => .error (seen other raised)

def failure (program : Step Value) (before : World) : Option Verifiers.Raised :=
  match answer other program before with
  | .ok _ => none
  | .error raised => some raised

def left (program : Step Value) (before : World) : World :=
  match program before with
  | .ok _ after | .error _ after => after

/-- What the removal of an owned workspace meets from a world on. -/
def answersOf (path : Text) (lease : OwnedWorkspaceLease) (before : World) :
    Verifiers.WorkspaceAnswers :=
  let probed := left (pathAbsent host path) before
  let valid := left (validateOwnedWorkspace host lease) probed
  let loop := removeLoop host path lease maxWindowsReadonlyRepairs []
  { absentBefore := answer other (pathAbsent host path) before
    invalid := failure other (validateOwnedWorkspace host lease) probed
    removal := failure other loop valid
    absentAfter := answer other (pathAbsent host path) (left loop valid)
    absentWhenMissing := answer other (pathAbsent host path)
      (left (removeOwnedWorkspaceTree host path lease) before)
    unproven := seen other (removalUnproven host lease) }

theorem answer_bind {Next : Type} (program : Step Value) (continuation : Value → Step Next)
    (before : World) :
    answer other (program >>= continuation) before =
      match answer other program before with
      | .ok value => answer other (continuation value) (left program before)
      | .error raised => .error raised := by
  simp only [answer, left, bind, EStateM.bind]
  cases program before <;> rfl

theorem remove_owned_answer (path : Text) (lease : OwnedWorkspaceLease) (before : World) :
    answer other (removeOwnedWorkspaceTree host path lease) before =
      Verifiers.removeOwnedWorkspaceTree (answersOf host other path lease before) := by
  unfold removeOwnedWorkspaceTree Verifiers.removeOwnedWorkspaceTree
  simp only [answersOf, failure]
  rw [answer_bind]
  cases answer other (pathAbsent host path) before with
  | error raised => rfl
  | ok absent =>
    cases absent with
    | true => rfl
    | false =>
      simp only [Bool.false_eq_true, if_false, answer_bind]
      cases answer other (validateOwnedWorkspace host lease) _ with
      | error raised => rfl
      | ok _ =>
        dsimp only
        cases answer other (removeLoop host path lease maxWindowsReadonlyRepairs []) _ with
        | error raised => rfl
        | ok _ =>
          dsimp only
          cases answer other (pathAbsent host path) _ with
          | error raised => rfl
          | ok gone => cases gone <;> rfl

theorem cleanup_owned_answer (path : Text) (lease : OwnedWorkspaceLease) (before : World) :
    answer other (cleanupWorkspace host (.owned path lease)) before =
      match removeOwnedWorkspaceTree host path lease before with
      | .ok _ _ => .ok ()
      | .error raised removed => answer other (if raised.fileNotFound then do
          let absent ← pathAbsent host path
          refuse (if absent then none else some raised)
        else throw raised : Step Unit) removed := by
  simp only [answer, cleanupWorkspace, removeWorkspace, tryCatch, tryCatchThe,
    MonadExceptOf.tryCatch]
  unfold EStateM.tryCatch
  cases removeOwnedWorkspaceTree host path lease before <;> rfl

/-- What a claimed workspace meets, call by call, is what the abstract cleanup takes as answers. -/
theorem cleanup_workspace_answer (path : Text) (lease : OwnedWorkspaceLease) (before : World) :
    answer other (cleanupWorkspace host (.owned path lease)) before =
      Verifiers.cleanupWorkspace (answersOf host other path lease before) := by
  unfold Verifiers.cleanupWorkspace
  rw [cleanup_owned_answer, ← remove_owned_answer, answer]
  simp only [answersOf, left]
  cases removeOwnedWorkspaceTree host path lease before with
  | ok _ after => rfl
  | error raised removed =>
    have same : (seen other raised).missingFile = raised.fileNotFound := rfl
    simp only [same]
    split_ifs
    · rw [answer_bind]
      cases answer other (pathAbsent host path) removed with
      | error proof => rfl
      | ok gone => cases gone <;> rfl
    · rfl

theorem blackbox_failures_cons (label path : Text) (lease : OwnedWorkspaceLease)
    (rest : List (Text × Option WorkspacePath)) (before : World) :
    let removed := (cleanupRepoWorkspaces host [(label, some (.owned path lease))] none "Blackbox"
      before).2
    (blackboxFailures host ((label, some (.owned path lease)) :: rest) before).map
        (fun failed => (failed.1, seen other failed.2)) =
      ((Verifiers.failureOf (answersOf host other path lease before)).map (label, ·)).toList ++
        (blackboxFailures host rest removed).map fun failed => (failed.1, seen other failed.2) := by
  unfold Verifiers.failureOf
  rw [← cleanup_workspace_answer, blackboxFailures]
  unfold cleanupRepoWorkspaces collectFailures answer
  cases cleanupWorkspace host (.owned path lease) before <;> rfl

/-- The loop over the workspaces of the black-box run fails as its cleanup does. -/
theorem blackbox_cleanup_refined (body : Verifiers.BodyState) (answers : Verifiers.CleanupAnswers)
    (candidate pack : Text × OwnedWorkspaceLease) (before : World) :
    let first : Text × Option WorkspacePath :=
      ("candidate workspace", some (.owned candidate.1 candidate.2))
    let second : Text × Option WorkspacePath := ("verifier-pack snapshot workspace",
      if body.packWorkdir then some (.owned pack.1 pack.2) else none)
    let removed := (cleanupRepoWorkspaces host [first] none "Blackbox" before).2
    (blackboxFailures host [first, second] before).map
        (fun failed => (failed.1, seen other failed.2)) =
      Verifiers.failedWorkspaces body { answers with
        candidateWorkspace := answersOf host other candidate.1 candidate.2 before
        packWorkspace := answersOf host other pack.1 pack.2 removed } := by
  dsimp only
  rw [blackbox_failures_cons]
  unfold Verifiers.failedWorkspaces Verifiers.ownedWorkspaces
  split_ifs
  · rw [blackbox_failures_cons]
    generalize answersOf host other candidate.1 candidate.2 before = first
    generalize answersOf host other pack.1 pack.2 _ = second
    unfold Verifiers.failureOf
    cases one : Verifiers.cleanupWorkspace first <;>
      cases two : Verifiers.cleanupWorkspace second <;> simp [one, two, blackboxFailures]
  · generalize answersOf host other candidate.1 candidate.2 before = first
    unfold Verifiers.failureOf
    cases one : Verifiers.cleanupWorkspace first <;> simp [one, blackboxFailures]

end EvoomGuard.Workspace.Cleanup
