import EvoomGuard.Verifiers.RepoMaterialization

/-!
What an admitted candidate can do to the files that judge it. The classifier decides by
the text of a path and by what the base tree answers about it; the transaction decides by
the entry it finds. The two meet at symbolic links: a link that leads nowhere is an entry
for the transaction and no path for the classifier.
-/

namespace EvoomGuard.Verifiers

open Lib Candidate Domain Domain.Harness Workspace

/-- Judge-owned whatever the adopter's globs and exemptions say: a test path, configuration,
CI, an auto-executed file, or a declared harness input. -/
def builtInJudgeOwned (mapping : CaseMapping) (request : CandidatePreflightRequest)
    (path : Text) : Bool :=
  isProtected mapping path [] || isProtectedConfig mapping path request.strictHarness ||
    isProtectedCi mapping path request.base.discoverLocalActionDirs ||
    isJudgeAutoexec mapping path || request.harnessInputs.contains path

/-- The base tree has a symbolic link at a path and the link resolves to nothing. -/
def danglingLink (tree : Tree) (root : Path) (path : Text) : Bool :=
  (match tree.node (locate root path) with
    | some (.symlink _) => true
    | _ => false) && !tree.exists? (locate root path)

/-- A built-in judge-owned path that a clean preflight lets through is a test path that rides
on the exemption for new tests, so the base tree does not resolve it. -/
theorem unresolved_of_admitted (mapping : CaseMapping) (request : CandidatePreflightRequest)
    (path : Text) (owned : builtInJudgeOwned mapping request path = true)
    (clear : violates mapping request path = false) :
    isProtected mapping path [] = true ∧ path ∈ request.changedPaths ∧
      request.base.exists? path = false := by
  simp only [violates, judgeOwned, Bool.or_eq_false_iff] at clear
  obtain ⟨-, ⟨⟨⟨noTarget, autoexec⟩, config⟩, ci⟩, waived⟩ := clear
  have notInput : request.harnessInputs.contains path = false := by
    by_contra declared
    rw [Bool.not_eq_false, List.contains_iff_mem] at declared
    have conflict : request.harnessInputs.any (conflictsWith mapping path) = true :=
      List.any_eq_true.mpr ⟨path, declared, by simp [conflictsWith]⟩
    simp [targetsHarnessInput, conflict] at noTarget
  have builtIn : isProtected mapping path [] = true := by
    simpa only [builtInJudgeOwned, config, ci, autoexec, notInput, Bool.or_false] using owned
  have fixed : isAllowlistExemptible mapping path request.base.discoverLocalActionDirs
      request.strictHarness = false := by
    simp [isAllowlistExemptible, builtIn]
  simp only [protected_mono mapping path _ builtIn, fixed, Bool.false_and, Bool.not_false,
    Bool.and_true, Bool.true_and, Bool.not_eq_false', Bool.and_eq_true, isAddableNewTest] at waived
  have isNew := waived.2.1.1.1.1.1
  simp only [newPathsOf, List.contains_iff_mem, List.mem_filter, Bool.and_eq_true,
    Bool.not_eq_true'] at isNew
  exact ⟨builtIn, isNew.1, isNew.2.2⟩

theorem dangling_of_unresolved (tree : Tree) (root : Path) (path : Text)
    (present : BaseFile tree root path) (unresolved : tree.exists? (locate root path) = false) :
    danglingLink tree root path = true := by
  unfold danglingLink
  rw [unresolved]
  cases found : tree.node (locate root path) with
  | none => exact absurd (by rw [Tree.fileAt, found]) present
  | some entry =>
    cases entry with
    | symlink target => rfl
    | file mode data | directory | special =>
      rw [tree.exists_of_entry _ _ (fun _ => Node.noConfusion) found] at unresolved
      cases unresolved

/-- The judge's files are as in the base tree, and every file that is not as in the base tree
is at a changed path. -/
def EditsProtected (mapping : CaseMapping) (request : CandidatePreflightRequest) (tree : Tree)
    (root : Path) (changed : List Text) (after : Tree) : Prop :=
  (∀ path, BaseFile tree root path → builtInJudgeOwned mapping request path = true →
    after.fileAt (locate root path) = tree.fileAt (locate root path)) ∧
  ∀ place, after.fileAt place ≠ tree.fileAt place → ∃ path ∈ changed, place = locate root path

/-- An admitted and completed edit keeps the judge's files exactly when no changed path is a
test path at which the base tree has a link that resolves to nothing. -/
theorem edits_protected_iff (mapping : CaseMapping) (tree : Tree) (root : Path)
    (localActionDirs : List Text) (request : CandidatePreflightRequest)
    (preflight : CandidatePreflight) (fileBlocks : Dict Text Text)
    (patchBlocks : List PatchBlock) (newFileMode : Nat)
    (patcher : Text → Text → Text → Except Text Text)
    (restorePackageJson : Option Text → Text → Text) (written : Tree)
    (based : request.base = BaseTree.ofTree tree root localActionDirs)
    (classified : request.changedPaths = editedPaths fileBlocks patchBlocks)
    (evaluated : evaluateCandidatePreflight mapping request = .ok preflight)
    (admitted : preflight.mayExecute = true)
    (materialized : materializeCandidateEdits newFileMode root patcher restorePackageJson tree
      fileBlocks patchBlocks = (written, none)) :
    EditsProtected mapping request tree root preflight.changedPaths written ↔
      ∀ path ∈ request.changedPaths, isProtected mapping path [] = true →
        danglingLink tree root path = false := by
  have transacted := materialize_transacted newFileMode root patcher restorePackageJson tree
    written fileBlocks patchBlocks materialized
  have each := (clean_iff mapping request preflight evaluated).mp
    (may_execute_clean preflight admitted)
  have reported : preflight.changedPaths = request.changedPaths := by
    obtain ⟨normalized, accepted⟩ := normalized_of_evaluated mapping request preflight evaluated
    rw [evaluate_candidate_preflight_ok mapping request normalized accepted] at evaluated
    cases evaluated
    rfl
  have onlyChanged : ∀ place, written.fileAt place ≠ tree.fileAt place →
      ∃ path ∈ request.changedPaths, place = locate root path := by
    intro place differs
    by_contra outside
    push Not at outside
    exact differs (transacted.only place (classified ▸ outside))
  constructor
  · intro safe path inside judging
    by_contra dangling
    rw [Bool.not_eq_false] at dangling
    obtain ⟨mode, data, rewritten⟩ := transacted.files path (classified ▸ inside)
    simp only [danglingLink, Bool.and_eq_true] at dangling
    cases found : tree.node (locate root path) with
    | none => simp [found] at dangling
    | some entry =>
      cases entry with
      | symlink target =>
        have before : tree.fileAt (locate root path) = some (.symlink target) := by
          rw [Tree.fileAt, found]
        have same := safe.1 path (by rw [BaseFile, before]; exact Option.some_ne_none _)
          (by simp [builtInJudgeOwned, judging])
        rw [rewritten, before] at same
        cases same
      | file mode data | directory | special => simp [found] at dangling
  · intro noDangling
    refine ⟨?_, by rw [reported]; exact onlyChanged⟩
    intro path present owned
    by_contra differs
    obtain ⟨other, inside, located⟩ := onlyChanged _ differs
    cases locate_injective root located
    obtain ⟨judging, -, unresolved⟩ :=
      unresolved_of_admitted mapping request path owned (each path (Or.inl inside)).2
    rw [based] at unresolved
    have dangling := dangling_of_unresolved tree root path present unresolved
    rw [noDangling path inside judging] at dangling
    cases dangling

/-- A repository whose only test is a link that leads nowhere. -/
def linkedTree : Tree :=
  (Tree.bare.add [] "tests" .directory).add ["tests"] "test_x.py"
    (.symlink "missing.py")

def testBlocks : Dict Text Text := Dict.ofPairs [("tests/test_x.py", "pass")]

def replaceLinkedTest : CandidatePreflightRequest where
  base := BaseTree.ofTree linkedTree [] []
  changedPaths := editedPaths testBlocks []
  allowNewTests := true

/-- A patcher that refuses everything; no block of the examples is a patch. -/
def noPatch (_ _ _ : Text) : Except Text Text := .error []

def keepManifest (_ : Option Text) (candidate : Text) : Text := candidate

/-- In feature mode the linked test counts as new and its link is replaced. -/
theorem linked_test_is_replaced :
    ∃ preflight, evaluateCandidatePreflight asciiCase replaceLinkedTest = .ok preflight ∧
      preflight.mayExecute = true ∧
      (materializeCandidateEdits 0o644 [] noPatch keepManifest linkedTree testBlocks []).2.isNone ∧
      ¬ EditsProtected asciiCase replaceLinkedTest linkedTree [] preflight.changedPaths
        (materializeCandidateEdits 0o644 [] noPatch keepManifest linkedTree testBlocks []).1 := by
  refine ⟨_, evaluate_candidate_preflight_ok asciiCase replaceLinkedTest [] rfl,
    by decide +kernel, by decide +kernel, ?_⟩
  intro safe
  have same := safe.1 "tests/test_x.py" (by decide +kernel) (by decide +kernel)
  have before : linkedTree.fileAt (locate [] "tests/test_x.py") =
      some (.symlink "missing.py") := by decide +kernel
  rw [before] at same
  revert same
  decide +kernel

def sourceBlocks : Dict Text Text := Dict.ofPairs [("src/app.py", "x = 1")]

def editSource : CandidatePreflightRequest where
  base := BaseTree.ofTree linkedTree [] []
  changedPaths := editedPaths sourceBlocks []
  allowNewTests := true

theorem source_edit_keeps_linked_test :
    ∃ preflight written, evaluateCandidatePreflight asciiCase editSource = .ok preflight ∧
      materializeCandidateEdits 0o644 [] noPatch keepManifest linkedTree sourceBlocks [] =
        (written, none) ∧
      EditsProtected asciiCase editSource linkedTree [] preflight.changedPaths written := by
  have completed : (materializeCandidateEdits 0o644 [] noPatch keepManifest linkedTree
      sourceBlocks []).2 = none := by
    rw [← Option.isNone_iff_eq_none]
    decide +kernel
  refine ⟨_, _, evaluate_candidate_preflight_ok asciiCase editSource [] rfl,
    Prod.ext rfl completed, ?_⟩
  refine (edits_protected_iff asciiCase linkedTree [] [] editSource _ sourceBlocks [] 0o644
    noPatch keepManifest _ rfl rfl (evaluate_candidate_preflight_ok asciiCase editSource [] rfl)
    (by decide +kernel) (Prod.ext rfl completed)).mpr ?_
  have only : editSource.changedPaths = ["src/app.py"] := by decide +kernel
  rw [only]
  intro path inside _
  cases List.mem_singleton.mp inside
  decide +kernel

end EvoomGuard.Verifiers
