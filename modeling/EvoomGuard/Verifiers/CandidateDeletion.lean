import EvoomGuard.Verifiers.RepoCandidate
import EvoomGuard.Workspace

/-!
The deletion loop of `apply_repo_candidate_deletions`, and what a run of it leaves of
the base tree. Classification reads the text of a deleted path; a deletion acts on
everything below it.
-/

namespace EvoomGuard.Verifiers

open Lib Domain Domain.Harness Workspace

/-- Applies the admitted deletions in order and stops at the first error. -/
def applyRepoCandidateDeletions (mapping : CaseMapping) (root : Path) :
    Tree → List Text → Tree × Option WorkspaceError
  | tree, [] => (tree, none)
  | tree, path :: rest =>
    if !isSafeRelpath mapping path then applyRepoCandidateDeletions mapping root tree rest
    else
      match deletePathWithinRoot tree root path with
      | (deleted, .ok _) => applyRepoCandidateDeletions mapping root deleted rest
      | (deleted, .error problem) => (deleted, some problem)

theorem safe_relative_of_portable (mapping : CaseMapping) (path : Text)
    (safe : isSafeRelpath mapping path = true) : isSafeRelativePath path = true := by
  unfold isSafeRelpath isPortableRepoPath at safe
  split_ifs at safe with irregular
  simp only [isAbsolute, Bool.or_eq_true, not_or, Bool.not_eq_true] at irregular
  simp only [List.all_eq_true, Bool.and_eq_true] at safe
  simp only [isSafeRelativePath, irregular.1.1, irregular.1.2, irregular.2.1, Bool.or_self,
    Bool.not_false, Bool.true_and, List.all_eq_true]
  exact fun part inside => (safe part inside).1

theorem deletions_frame (mapping : CaseMapping) (root : Path) (deleted : List Text)
    (path : Path) :
    ∀ tree, (applyRepoCandidateDeletions mapping root tree deleted).1.node path =
        tree.node path ∨
      ((∃ target ∈ deleted, locate root target <+: path) ∧
        (applyRepoCandidateDeletions mapping root tree deleted).1.node path = none) := by
  induction deleted with
  | nil => exact fun tree => Or.inl rfl
  | cons target rest ih =>
    intro tree
    have later : ∀ start : Tree, start.node path = tree.node path ∨
        (locate root target <+: path ∧ start.node path = none) →
        (applyRepoCandidateDeletions mapping root start rest).1.node path = tree.node path ∨
          ((∃ other ∈ target :: rest, locate root other <+: path) ∧
            (applyRepoCandidateDeletions mapping root start rest).1.node path = none) := by
      intro start before
      rcases ih start with kept | ⟨⟨other, inside, above⟩, gone⟩
      · rcases before with same | ⟨above, gone⟩
        · exact Or.inl (kept.trans same)
        · exact Or.inr ⟨⟨target, List.mem_cons_self, above⟩, kept.trans gone⟩
      · exact Or.inr ⟨⟨other, List.mem_cons_of_mem target inside, above⟩, gone⟩
    simp only [applyRepoCandidateDeletions]
    split_ifs
    · exact later tree (Or.inl rfl)
    · have step := delete_path_frame tree root target path
      rcases result : deletePathWithinRoot tree root target with ⟨after, answer⟩
      rw [result] at step
      cases answer with
      | ok existed => exact later after step
      | error problem =>
        rcases step with kept | ⟨above, gone⟩
        · exact Or.inl kept
        · exact Or.inr ⟨⟨target, List.mem_cons_self, above⟩, gone⟩

theorem deletions_gone (mapping : CaseMapping) (root : Path) (deleted : List Text)
    (target : Text) (path : Path) (safe : isSafeRelpath mapping target = true)
    (below : locate root target <+: path) :
    ∀ tree, target ∈ deleted → (applyRepoCandidateDeletions mapping root tree deleted).2 = none →
      (applyRepoCandidateDeletions mapping root tree deleted).1.node path = none := by
  induction deleted with
  | nil => exact fun tree inside => absurd inside List.not_mem_nil
  | cons first rest ih =>
    intro tree inside completed
    simp only [applyRepoCandidateDeletions] at completed ⊢
    by_cases same : target = first
    · subst same
      have gone := delete_path_gone tree root target path
        (safe_relative_of_portable mapping target safe) below
      simp only [safe, Bool.not_true, Bool.false_eq_true, if_false] at completed ⊢
      rcases result : deletePathWithinRoot tree root target with ⟨after, answer⟩
      rw [result] at gone completed
      cases answer with
      | error problem => cases completed
      | ok existed =>
        -- What is gone stays gone: no deletion adds an entry.
        rcases deletions_frame mapping root rest path after with kept | ⟨-, none⟩
        · exact kept.trans gone
        · exact none
    · have inRest := (List.mem_cons.mp inside).resolve_left same
      split_ifs at completed ⊢
      · exact ih tree inRest completed
      · rcases result : deletePathWithinRoot tree root first with ⟨after, answer⟩
        rw [result] at completed
        cases answer with
        | error problem => cases completed
        | ok existed => exact ih after inRest completed

/-- The base tree at `root` has a file, a link or a special entry at a path. -/
def BaseFile (tree : Tree) (root : Path) (path : Text) : Prop :=
  tree.fileAt (locate root path) ≠ none

instance (tree : Tree) (root : Path) (path : Text) : Decidable (BaseFile tree root path) :=
  inferInstanceAs (Decidable (_ ≠ _))

/-- Every base file whose own path is a violation of the request is where it was. -/
def ProtectedInPlace (mapping : CaseMapping) (request : CandidatePreflightRequest)
    (tree : Tree) (root : Path) (after : Tree) : Prop :=
  ∀ path, BaseFile tree root path → violates mapping request path = true →
    after.node (locate root path) = tree.node (locate root path)

/-- One path lies strictly below the other. -/
def ProperAncestor (above path : Text) : Prop :=
  above ≠ path ∧ Text.split '/' above <+: Text.split '/' path

/-- No deletion names a directory above a protected base file. -/
def NoProtectedBelow (mapping : CaseMapping) (request : CandidatePreflightRequest)
    (tree : Tree) (root : Path) : Prop :=
  ∀ target ∈ request.deletedPaths, ∀ path, BaseFile tree root path →
    violates mapping request path = true → ¬ ProperAncestor target path

/-- Deletions of a clean preflight keep the protected base files when none of them lies below
a deleted path; and a run that is not cut short keeps them only then. -/
theorem deletions_keep_protected_iff (mapping : CaseMapping)
    (request : CandidatePreflightRequest) (preflight : CandidatePreflight) (tree : Tree)
    (root : Path)
    (evaluated : evaluateCandidatePreflight mapping request = .ok preflight)
    (clean : preflight.clean = true) :
    let run := applyRepoCandidateDeletions mapping root tree request.deletedPaths
    (NoProtectedBelow mapping request tree root →
        ProtectedInPlace mapping request tree root run.1) ∧
      (run.2 = none → (ProtectedInPlace mapping request tree root run.1 ↔
        NoProtectedBelow mapping request tree root)) := by
  intro run
  have each := (clean_iff mapping request preflight evaluated).mp clean
  have enough : NoProtectedBelow mapping request tree root →
      ProtectedInPlace mapping request tree root run.1 := by
    intro noneBelow path file protectedPath
    rcases deletions_frame mapping root request.deletedPaths (locate root path) tree with
      kept | ⟨⟨target, inside, above⟩, -⟩
    · exact kept
    · exfalso
      refine noneBelow target inside path file protectedPath ⟨?_, ?_⟩
      · rintro rfl
        rw [(each target (Or.inr inside)).2] at protectedPath
        cases protectedPath
      · exact (List.prefix_append_right_inj root).mp above
  refine ⟨enough, fun completed => ⟨fun inPlace => ?_, enough⟩⟩
  rintro target inside path file protectedPath ⟨-, above⟩
  have gone := deletions_gone mapping root request.deletedPaths target (locate root path)
    (each target (Or.inr inside)).1 ((List.prefix_append_right_inj root).mpr above) tree inside
    completed
  rw [inPlace path file protectedPath] at gone
  exact file (by rw [Tree.fileAt, gone])

/-- A repository with one test and one source file. -/
def testedTree : Tree :=
  ((((Tree.bare.add [] "tests" .directory).add ["tests"] "test_a.py"
    (.file 0o644 ByteArray.empty)).add [] "src" .directory).add ["src"]
    "old.py" (.file 0o644 ByteArray.empty))

def deleteTests : CandidatePreflightRequest where
  base := BaseTree.ofTree testedTree [] []
  changedPaths := []
  deletedPaths := ["tests"]

/-- The path `tests` is no violation, and deleting it removes `tests/test_a.py`. -/
theorem deleting_test_directory_removes_test :
    ∃ preflight, evaluateCandidatePreflight asciiCase deleteTests = .ok preflight ∧
      preflight.clean = true ∧
      ¬ ProtectedInPlace asciiCase deleteTests testedTree []
        (applyRepoCandidateDeletions asciiCase [] testedTree deleteTests.deletedPaths).1 := by
  refine ⟨_, evaluate_candidate_preflight_ok asciiCase deleteTests [] rfl, by decide +kernel, ?_⟩
  intro inPlace
  have gone := inPlace "tests/test_a.py" (by decide +kernel) (by decide +kernel)
  revert gone
  decide +kernel

def deleteSource : CandidatePreflightRequest where
  base := BaseTree.ofTree testedTree [] []
  changedPaths := []
  deletedPaths := ["src/old.py"]

theorem deleting_source_keeps_tests :
    ProtectedInPlace asciiCase deleteSource testedTree []
        (applyRepoCandidateDeletions asciiCase [] testedTree deleteSource.deletedPaths).1 ∧
      (applyRepoCandidateDeletions asciiCase [] testedTree deleteSource.deletedPaths).1.node
        ["src", "old.py"] = none := by
  refine ⟨(deletions_keep_protected_iff asciiCase deleteSource _ testedTree []
    (evaluate_candidate_preflight_ok asciiCase deleteSource [] rfl)
    (by decide +kernel)).1 ?_, by decide +kernel⟩
  rintro target inside path file - ⟨different, rest, below⟩
  cases List.mem_singleton.mp inside
  -- Something below `src/old.py` would make that file a directory.
  have directory := testedTree.ancestor_directory ["src", "old.py"] rest
    (by
      rintro rfl
      rw [List.append_nil] at below
      exact different (Text.split_injective '/' below))
    (by
      intro absent
      apply file
      have here : testedTree.node (Text.split '/' path) = none := by rw [← below]; exact absent
      rw [Tree.fileAt, locate, List.nil_append, here])
  revert directory
  decide +kernel

end EvoomGuard.Verifiers
