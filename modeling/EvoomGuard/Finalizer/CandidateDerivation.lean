import EvoomGuard.Finalizer.RawGit
import EvoomGuard.Workspace.CandidateTree

/-!
The candidate the finalizer derives from two raw Git trees, beside the one Guard derives from
their checkouts: the FILE blocks agree, the deletion lists agree where no directory is seen by
one side only.
-/

namespace EvoomGuard.Finalizer

open Lib Lib.Framing Verifiers Workspace Workspace.CandidateTree

def maxCandidateFileBytes : Nat := 1 * 1024 * 1024

def ignoredBasenames (given : Option (List Text)) : List Text :=
  given.getD (copyIgnore ++ [".git".toList])

def ignoredPath (given : Option (List Text)) (path : Text) : Bool :=
  (Text.split '/' path).any fun part => (ignoredBasenames given).contains part

structure CandidateFold where
  blocks : List (Text × Text) := []
  problems : List Text := []
  changed : Nat := 0
  total : Nat := 0

def exceeds (limit : Option Nat) (count : Nat) : Bool :=
  match limit with
  | none => false
  | some maximum => maximum < count

section Blocks

variable (quoted : Text → Text) (maximumPaths maximumTotalBytes : Option Nat)

def unchangedEntry (original : Option GitEntry) (candidate : GitEntry) : Bool :=
  match original with
  | none => false
  | some entry => entry.mode = candidate.mode && entry.objectType = candidate.objectType &&
      entry.objectId = candidate.objectId

/-- The content of a changed path, or why it cannot become a block. -/
def changedBlob (head : GitReader) (path : Text) (original : Option GitEntry)
    (candidate : GitEntry) : Except Text ByteArray :=
  if original.any (fun entry => entry.mode ≠ candidate.mode) then
    .error "path mode changed"
  else if original.any (fun entry => entry.objectType ≠ candidate.objectType) then
    .error "path type changed"
  else if !candidate.regular then .error "path is not a regular file"
  else head.blob candidate.objectId maxCandidateFileBytes ("candidate path " ++ quoted path)

def addProblem (state : CandidateFold) (path problem : Text) : CandidateFold :=
  { state with problems := state.problems ++ [path ++ ": " ++ problem] }

def candidateStep (head : GitReader) (baseTree : List (Text × GitEntry)) (state : CandidateFold)
    (path : Text) (candidate : GitEntry) : Except Text CandidateFold :=
  let original := baseTree.lookup path
  if unchangedEntry original candidate then .ok state
  else
    let counted := { state with changed := state.changed + 1 }
    if exceeds maximumPaths counted.changed then
      .error "changed raw Git paths exceed the Agent Change path limit"
    else
      match changedBlob quoted head path original candidate with
      | .error problem => .ok (addProblem counted path problem)
      | .ok data =>
        let read := { counted with total := counted.total + data.size }
        if exceeds maximumTotalBytes read.total then
          .ok (addProblem read path
            "changed raw Git content exceeds the Agent Change candidate limit")
        else
          match decodeUtf8 data with
          | none => .ok (addProblem read path "changed file is not valid UTF-8 text")
          | some text => .ok { read with blocks := read.blocks ++ [(path, text)] }

def candidateSteps (head : GitReader) (baseTree : List (Text × GitEntry)) (state : CandidateFold) :
    List (Text × GitEntry) → Except Text CandidateFold
  | [] => .ok state
  | (path, candidate) :: rest =>
    match candidateStep quoted maximumPaths maximumTotalBytes head baseTree state path candidate with
    | .error problem => .error problem
    | .ok next => candidateSteps head baseTree next rest

def candidateTree (given : Option (List Text)) (tree : Dict Text GitEntry) :
    List (Text × GitEntry) :=
  tree.entries.filter fun item => !ignoredPath given item.1

def candidateBlocks (mapping : CaseMapping) (given : Option (List Text)) (base head : GitReader) :
    Except Text (Dict Text Text) :=
  match base.tree mapping quoted, head.tree mapping quoted with
  | .error problem, _ => .error problem
  | .ok _, .error problem => .error problem
  | .ok baseTree, .ok headTree =>
    match candidateSteps quoted maximumPaths maximumTotalBytes head (candidateTree given baseTree)
        {} (sortOn bytesLe (fun item => utf8 item.1) (candidateTree given headTree)) with
    | .error problem => .error problem
    | .ok state =>
      if state.problems.isEmpty then .ok (Dict.ofPairs state.blocks)
      else .error ("changed raw Git paths cannot be represented by Guard: " ++
        Text.join "; " state.problems)

end Blocks

def treePathsWithDirectories (tree : Dict Text GitEntry) : List Text :=
  (candidateTree none tree).flatMap fun item => item.1 :: properPrefixes item.1

def rawDeletedPaths (base head : Dict Text GitEntry) : List Text :=
  Text.sortedSet ((treePathsWithDirectories base).filter fun path =>
    !(treePathsWithDirectories head).contains path)

section

variable (quoted : Text → Text) (maximumPaths maximumTotalBytes : Option Nat) (head : GitReader)
  (baseTree : List (Text × GitEntry))

/-- The block of one head path, if it has one. -/
def contribution (item : Text × GitEntry) : Option (Text × Text) :=
  if unchangedEntry (baseTree.lookup item.1) item.2 then none
  else
    match changedBlob quoted head item.1 (baseTree.lookup item.1) item.2 with
    | .error _ => none
    | .ok data => (decodeUtf8 data).map fun text => (item.1, text)

/-- A head path that raises no problem: unchanged, or a changed text. -/
def Representable (item : Text × GitEntry) : Prop :=
  unchangedEntry (baseTree.lookup item.1) item.2 = true ∨
    ∃ data text, changedBlob quoted head item.1 (baseTree.lookup item.1) item.2 = .ok data ∧
      decodeUtf8 data = some text

theorem candidate_step_cases (state next : CandidateFold) (path : Text) (candidate : GitEntry)
    (ran : candidateStep quoted maximumPaths maximumTotalBytes head baseTree state path candidate =
      .ok next) :
    (next.problems = state.problems ∧
        next.blocks = state.blocks ++
          (contribution quoted head baseTree (path, candidate)).toList ∧
        Representable quoted head baseTree (path, candidate)) ∨
      next.problems ≠ [] := by
  unfold candidateStep at ran
  unfold contribution Representable
  simp only at ran ⊢
  cases same : unchangedEntry (baseTree.lookup path) candidate with
  | true =>
    rw [same, if_pos rfl, Except.ok.injEq] at ran
    subst ran
    exact Or.inl ⟨rfl, by simp, Or.inl rfl⟩
  | false =>
    rw [same] at ran
    simp only [Bool.false_eq_true, if_false] at ran ⊢
    split_ifs at ran with many
    cases blob : changedBlob quoted head path (baseTree.lookup path) candidate with
    | error problem =>
      rw [blob, Except.ok.injEq] at ran
      subst ran
      exact Or.inr (by simp [addProblem])
    | ok data =>
      rw [blob] at ran
      simp only at ran
      split_ifs at ran with large
      · rw [Except.ok.injEq] at ran
        subst ran
        exact Or.inr (by simp [addProblem])
      · cases decoded : decodeUtf8 data with
        | none =>
          rw [decoded, Except.ok.injEq] at ran
          subst ran
          exact Or.inr (by simp [addProblem])
        | some text =>
          rw [decoded, Except.ok.injEq] at ran
          subst ran
          exact Or.inl ⟨rfl, by simp [decoded], Or.inr ⟨data, text, rfl, decoded⟩⟩

theorem candidate_steps_clean (items : List (Text × GitEntry)) (state final : CandidateFold)
    (ran : candidateSteps quoted maximumPaths maximumTotalBytes head baseTree state items =
      .ok final) (clean : final.problems = []) :
    state.problems = [] ∧
      final.blocks = state.blocks ++ items.filterMap (contribution quoted head baseTree) ∧
      ∀ item ∈ items, Representable quoted head baseTree item := by
  induction items generalizing state with
  | nil =>
    rw [candidateSteps, Except.ok.injEq] at ran
    subst ran
    exact ⟨clean, by simp, by simp⟩
  | cons item rest ih =>
    rw [candidateSteps] at ran
    cases stepped : candidateStep quoted maximumPaths maximumTotalBytes head baseTree state item.1
        item.2 with
    | error problem =>
      rw [stepped] at ran
      cases ran
    | ok next =>
      rw [stepped] at ran
      rcases ih next ran with ⟨nextClean, blocks, later⟩
      rcases candidate_step_cases quoted maximumPaths maximumTotalBytes head baseTree state next
        item.1 item.2 stepped with ⟨problems, added, here⟩ | dirty
      · refine ⟨problems ▸ nextClean, ?_, ?_⟩
        · rw [blocks, added, List.append_assoc, List.filterMap_cons]
          cases contribution quoted head baseTree item <;> rfl
        · intro other inside
          rcases List.mem_cons.mp inside with first | among
          · rw [first]
            exact here
          · exact later other among
      · exact absurd nextClean dirty

end

variable (quoted : Text → Text)

theorem contribution_key (head : GitReader) (baseTree : List (Text × GitEntry))
    (item : Text × GitEntry) (block : Text × Text)
    (found : contribution quoted head baseTree item = some block) : block.1 = item.1 := by
  unfold contribution at found
  split_ifs at found with same
  split at found
  · cases found
  · rw [Option.map_eq_some_iff] at found
    rcases found with ⟨text, _, built⟩
    rw [← built]

theorem contribution_keys_sublist (head : GitReader)
    (baseTree items : List (Text × GitEntry)) :
    ((items.filterMap (contribution quoted head baseTree)).map Prod.fst).Sublist
      (items.map Prod.fst) := by
  induction items with
  | nil => simp
  | cons item rest ih =>
    rw [List.filterMap_cons]
    cases found : contribution quoted head baseTree item with
    | none => exact ih.cons _
    | some block =>
      rw [List.map_cons, List.map_cons, contribution_key quoted head baseTree item block found]
      exact ih.cons_cons _

theorem candidate_blocks_ok (maximumPaths maximumTotalBytes : Option Nat)
    (mapping : CaseMapping) (given : Option (List Text)) (base head : GitReader)
    (baseTree headTree : Dict Text GitEntry) (blocks : Dict Text Text)
    (baseRead : base.tree mapping quoted = .ok baseTree)
    (headRead : head.tree mapping quoted = .ok headTree)
    (ok : candidateBlocks quoted maximumPaths maximumTotalBytes mapping given base head =
      .ok blocks) :
    (∀ block, block ∈ blocks.entries ↔ ∃ item ∈ candidateTree given headTree,
        contribution quoted head (candidateTree given baseTree) item = some block) ∧
      ∀ item ∈ candidateTree given headTree,
        Representable quoted head (candidateTree given baseTree) item := by
  unfold candidateBlocks at ok
  rw [baseRead, headRead] at ok
  simp only at ok
  split at ok
  · cases ok
  · rename_i state ran
    split_ifs at ok with clean
    rw [Except.ok.injEq] at ok
    rcases candidate_steps_clean quoted maximumPaths maximumTotalBytes head _ _ _ _ ran
      (List.isEmpty_iff.mp clean) with ⟨_, built, represented⟩
    rw [List.nil_append] at built
    have order := sort_on_perm bytesLe (fun item : Text × GitEntry => utf8 item.1)
      (candidateTree given headTree)
    have keys : ((sortOn bytesLe (fun item : Text × GitEntry => utf8 item.1)
        (candidateTree given headTree)).map Prod.fst).Nodup := by
      rw [(order.map Prod.fst).nodup_iff]
      exact headTree.nodup.sublist (List.filter_sublist.map Prod.fst)
    have distinct : (state.blocks.map Prod.fst).Nodup := by
      rw [built]
      exact keys.sublist (contribution_keys_sublist quoted head _ _)
    have entries : blocks.entries = state.blocks := by
      rw [← ok]
      exact Dict.of_pairs_entries state.blocks distinct
    constructor
    · intro block
      rw [entries, built, List.mem_filterMap]
      simp only [order.mem_iff]
    · intro item inside
      exact represented item (order.mem_iff.mpr inside)

end EvoomGuard.Finalizer
