import EvoomGuard.Evidence.NewContent
import EvoomGuard.GuardAdmission
import EvoomGuard.GuardDiffCounts
import EvoomGuard.Lib.Binary64
import EvoomGuard.RecordVerifier.HarnessInputs

/-!
The risk measurement of a candidate: `_risk_map` and `_risk_score_with_deletions` of `guard.py`,
the same computation in `application/repo_judgment.py`, and the score of `patchmin.py`. What
`open` answers for a repository path is an argument.
-/

namespace EvoomGuard.Guard

open Candidate Domain Domain.Harness Evidence Lib Verifiers Workspace

inductive RiskLevel where
  | low
  | medium
  | high
  deriving DecidableEq

structure RiskThresholds where
  mediumFiles : Int := 3
  highFiles : Int := 8
  mediumLines : Int := 40
  highLines : Int := 200

structure RiskScore where
  filesTouched : Nat
  linesAdded : Nat
  linesRemoved : Nat
  protectedHits : List Text
  score : Rat
  level : RiskLevel

/-- A term of the score. A threshold that is not positive saturates it. -/
def riskTerm (count : Nat) (threshold : Int) : Rat :=
  if threshold ≤ 0 then 1 else min 1 (Binary64.nearest (count / threshold))

/-- The counts are non-negative integers by their type, which is what the source validates. -/
def riskScore (mapping : CaseMapping) (fileCounts : Dict Text (Nat × Nat))
    (protectedGlobs : List Text) (thresholds : RiskThresholds := {}) : RiskScore :=
  let filesTouched := fileCounts.keys.length
  let linesAdded := (fileCounts.entries.map fun entry => entry.2.1).sum
  let linesRemoved := (fileCounts.entries.map fun entry => entry.2.2).sum
  let totalLines := linesAdded + linesRemoved
  let protectedHits :=
    Text.sortedSet (fileCounts.keys.filter fun path => matchesGlobs mapping path protectedGlobs)
  let filesTerm := riskTerm filesTouched thresholds.highFiles
  let linesTerm := riskTerm totalLines thresholds.highLines
  let protectedTerm := if protectedHits.isEmpty then 0 else 1 / 4
  { filesTouched := filesTouched
    linesAdded := linesAdded
    linesRemoved := linesRemoved
    protectedHits := protectedHits
    score := min 1 (Binary64.nearest
      (Binary64.nearest (1 / 2 * filesTerm + 1 / 2 * linesTerm) + protectedTerm))
    level :=
      if !protectedHits.isEmpty ∨ thresholds.highFiles ≤ filesTouched ∨
          thresholds.highLines ≤ totalLines then .high
      else if thresholds.mediumFiles ≤ filesTouched ∨ thresholds.mediumLines ≤ totalLines then
        .medium
      else .low }

/-- What reading a base file can raise besides an `OSError`, which the reader handles. -/
inductive ReadRaise where
  /-- `ValueError`: embedded null byte -/
  | embeddedNull
  | unicodeDecodeError
  deriving DecidableEq

def protectedRiskGlobs : List Text :=
  ["*tests/*", "*test/*", "test_*.py", "*_test.py", "conftest.py",
    "pyproject.toml", "*pytest.ini", "tox.ini", "setup.cfg",
    "*.pth", "sitecustomize.py", "usercustomize.py", "Makefile", "GNUmakefile", "noxfile.py",
    ".evoguard.json", "*.github/workflows/*", "*.github/actions/*"].map String.toList

section Measurement

variable (mapping : CaseMapping) (opened : Text → Except OpenError Text)

def readRepoFile (rel : Text) : Except ReadRaise Text :=
  if Char.ofNat 0 ∈ rel then .error .embeddedNull
  else
    match opened rel with
    | .ok text => .ok text
    | .error .osError => .ok []
    | .error .undecodable => .error .unicodeDecodeError

def riskBlocks (candidate : Text) (fileBlocks : Option (Dict Text Text)) : Dict Text Text :=
  (handedOverBlocks fileBlocks).getD (parseFileBlocks candidate)

def riskPatches (candidate : Text) (fileBlocks : Option (Dict Text Text)) : List PatchBlock :=
  if (handedOverBlocks fileBlocks).isSome then [] else parsePatchBlocks candidate

abbrev RiskMap := Dict Text (Nat × Nat)

def countBlock (out : RiskMap) (block : Text × Text) : Except ReadRaise RiskMap := do
  let old ← readRepoFile opened block.1
  pure (out.insert block.1 (GuardDiff.diffCounts old block.2))

def countPatch (out : RiskMap) (block : PatchBlock) : RiskMap :=
  let previous := (out.entries.lookup block.path).getD (0, 0)
  out.insert block.path
    (previous.1 + (Text.splitlines block.replace).length,
      previous.2 + (Text.splitlines block.search).length)

def riskMap (candidate : Text) (fileBlocks : Option (Dict Text Text)) :
    Except ReadRaise RiskMap := do
  let counted ← (riskBlocks candidate fileBlocks).entries.foldlM (countBlock opened) Dict.empty
  pure ((riskPatches candidate fileBlocks).foldl countPatch counted)

def countDeletion (deleted : List Text) (out : RiskMap) (path : Text) :
    Except ReadRaise RiskMap :=
  if path ∈ deleted ∧ path ∉ out.keys then do
    let base ← readRepoFile opened path
    pure (out.insert path (0, (Text.splitlines base).length))
  else pure out

def riskScoreWithDeletions (candidate : Text) (fileBlocks : Option (Dict Text Text))
    (allTouchedPaths deletedPaths protectedGlobs : List Text) : Except ReadRaise RiskScore := do
  let counted ← riskMap opened candidate fileBlocks
  let completed ← allTouchedPaths.foldlM (countDeletion opened deletedPaths) counted
  pure (riskScore mapping completed protectedGlobs)

/-- The same in `build_repo_judgment`, which adds the built-in globs itself. -/
def judgmentRisk (candidate : Text) (fileBlocks : Option (Dict Text Text))
    (allTouchedPaths deletedPaths protectedPatterns : List Text) : Except ReadRaise RiskScore := do
  let counted ← riskMap opened candidate fileBlocks
  let completed ← allTouchedPaths.foldlM (countDeletion opened deletedPaths) counted
  pure (riskScore mapping completed (protectedRiskGlobs ++ protectedPatterns))

end Measurement

section

variable {opened : Text → Except OpenError Text}

/-- Whether the base file of a path reads. -/
def Reads (opened : Text → Except OpenError Text) (path : Text) : Prop :=
  ∃ text, readRepoFile opened path = .ok text

theorem dict_insert_keys {Value : Type} (dict : Dict Text Value) (key : Text) (value : Value)
    (other : Text) : other ∈ (dict.insert key value).keys ↔ other = key ∨ other ∈ dict.keys :=
  Dict.mem_assign_keys key value dict.entries other

theorem count_blocks_answer (blocks : List (Text × Text)) : ∀ out : RiskMap,
    (∀ block ∈ blocks, Reads opened block.1) →
      ∃ counted, blocks.foldlM (countBlock opened) out = .ok counted ∧
        ∀ path, path ∈ counted.keys ↔ path ∈ blocks.map Prod.fst ∨ path ∈ out.keys := by
  induction blocks with
  | nil => exact fun out _ => ⟨out, rfl, by simp⟩
  | cons block rest ih =>
    intro out reads
    obtain ⟨old, read⟩ := reads block List.mem_cons_self
    obtain ⟨counted, ran, keys⟩ := ih (out.insert block.1 (GuardDiff.diffCounts old block.2))
      fun other inside => reads other (List.mem_cons_of_mem _ inside)
    refine ⟨counted, ?_, fun path => ?_⟩
    · rw [List.foldlM_cons, countBlock, read]
      exact ran
    · rw [keys, dict_insert_keys, List.map_cons, List.mem_cons]
      tauto

theorem count_blocks_reads (blocks : List (Text × Text)) : ∀ out counted : RiskMap,
    blocks.foldlM (countBlock opened) out = .ok counted →
      ∀ block ∈ blocks, Reads opened block.1 := by
  induction blocks with
  | nil => exact fun _ _ _ block inside => absurd inside List.not_mem_nil
  | cons block rest ih =>
    intro out counted ran other inside
    rw [List.foldlM_cons, countBlock] at ran
    cases read : readRepoFile opened block.1 with
    | error raised =>
      rw [read] at ran
      cases ran
    | ok old =>
      rw [read] at ran
      rcases List.mem_cons.1 inside with here | later
      · exact here ▸ ⟨old, read⟩
      · exact ih _ counted ran other later

theorem count_patches_keys (blocks : List PatchBlock) (path : Text) : ∀ out : RiskMap,
    path ∈ (blocks.foldl countPatch out).keys ↔
      (∃ block ∈ blocks, block.path = path) ∨ path ∈ out.keys := by
  induction blocks with
  | nil => simp
  | cons block rest ih =>
    intro out
    rw [List.foldl_cons, ih, countPatch, dict_insert_keys]
    simp only [List.mem_cons, exists_eq_or_imp, eq_comm (a := block.path)]
    exact or_left_comm.trans or_assoc.symm

theorem mem_changed_paths (candidate : Text) (fileBlocks : Option (Dict Text Text)) (path : Text) :
    path ∈ changedPaths candidate fileBlocks ↔
      path ∈ (riskBlocks candidate fileBlocks).keys ∨
        ∃ block ∈ riskPatches candidate fileBlocks, block.path = path := by
  unfold changedPaths riskBlocks riskPatches
  cases fileBlocks with
  | none => simp [handedOverBlocks, mem_edited_paths]
  | some blocks =>
    by_cases empty : blocks.entries.isEmpty = true
    · simp [handedOverBlocks, empty, mem_edited_paths]
    · simp [handedOverBlocks, empty, Text.mem_sorted]

theorem risk_map_answer {candidate : Text} {fileBlocks : Option (Dict Text Text)}
    (reads : ∀ path ∈ (riskBlocks candidate fileBlocks).keys, Reads opened path) :
    ∃ counted, riskMap opened candidate fileBlocks = .ok counted ∧
      ∀ path, path ∈ counted.keys ↔ path ∈ changedPaths candidate fileBlocks := by
  obtain ⟨counted, ran, keys⟩ := count_blocks_answer
    (riskBlocks candidate fileBlocks).entries Dict.empty
    fun block inside => reads block.1 (List.mem_map_of_mem inside)
  refine ⟨_, by rw [riskMap, ran]; rfl, fun path => ?_⟩
  rw [count_patches_keys, keys, mem_changed_paths]
  simp only [Dict.keys, Dict.empty, List.map_nil, List.not_mem_nil, or_false]
  exact or_comm

theorem risk_map_reads {candidate : Text} {fileBlocks : Option (Dict Text Text)}
    {counted : RiskMap} (ran : riskMap opened candidate fileBlocks = .ok counted) :
    ∀ path ∈ (riskBlocks candidate fileBlocks).keys, Reads opened path := by
  intro path inside
  rw [riskMap] at ran
  cases blocks : (riskBlocks candidate fileBlocks).entries.foldlM (countBlock opened)
      Dict.empty with
  | error raised =>
    rw [blocks] at ran
    cases ran
  | ok out =>
    obtain ⟨block, among, same⟩ := List.mem_map.1 inside
    exact same ▸ count_blocks_reads _ _ _ blocks block among

theorem count_deletions_answer (deleted touched : List Text) : ∀ out : RiskMap,
    (∃ completed, touched.foldlM (countDeletion opened deleted) out = .ok completed) ↔
      ∀ path ∈ touched, path ∈ deleted → path ∉ out.keys → Reads opened path := by
  induction touched with
  | nil =>
    exact fun out =>
      ⟨fun _ path inside => absurd inside List.not_mem_nil, fun _ => ⟨out, rfl⟩⟩
  | cons path rest ih =>
    intro out
    rw [List.foldlM_cons, countDeletion]
    by_cases missing : path ∈ deleted ∧ path ∉ out.keys
    · rw [if_pos missing]
      cases read : readRepoFile opened path with
      | error raised =>
        constructor
        · rintro ⟨completed, ran⟩
          cases ran
        · intro reads
          obtain ⟨text, found⟩ := reads path List.mem_cons_self missing.1 missing.2
          rw [read] at found
          cases found
      | ok base =>
        refine (ih (out.insert path (0, (Text.splitlines base).length))).trans ?_
        simp only [dict_insert_keys, List.forall_mem_cons]
        constructor
        · intro reads
          refine ⟨fun _ _ => ⟨base, read⟩, fun other inside gone uncounted => ?_⟩
          by_cases same : other = path
          · exact same ▸ ⟨base, read⟩
          · exact reads other inside gone (not_or.2 ⟨same, uncounted⟩)
        · intro reads other inside gone uncounted
          exact reads.2 other inside gone (not_or.1 uncounted).2
    · rw [if_neg missing]
      refine (ih out).trans ?_
      simp only [List.forall_mem_cons]
      exact ⟨fun reads => ⟨fun gone uncounted => absurd ⟨gone, uncounted⟩ missing, reads⟩,
        fun reads => reads.2⟩

/-- The paths whose base file a measurement reads: those with a whole-file block, and the
deletions that are not changed as well. -/
def measuredPaths (call : GuardCandidate) : List Text :=
  (riskBlocks call.candidate call.fileBlocks).keys ++
    call.deleted.filter fun path => path ∉ changedPaths call.candidate call.fileBlocks

theorem counted_and_completed_iff (call : GuardCandidate) {Score : Type}
    (scored : RiskMap → Score) :
    (∃ score, (do
      let counted ← riskMap opened call.candidate call.fileBlocks
      let completed ← (touchedPaths call.preflightRequest).foldlM
        (countDeletion opened call.deleted) counted
      pure (scored completed) : Except ReadRaise Score) = .ok score) ↔
      ∀ path ∈ measuredPaths call, Reads opened path := by
  have deletions : ∀ counted : RiskMap, (∀ path, path ∈ counted.keys ↔
      path ∈ changedPaths call.candidate call.fileBlocks) →
      ((∃ completed, (touchedPaths call.preflightRequest).foldlM
        (countDeletion opened call.deleted) counted = .ok completed) ↔
        ∀ path ∈ call.deleted, path ∉ changedPaths call.candidate call.fileBlocks →
          Reads opened path) := by
    intro counted keys
    rw [count_deletions_answer]
    simp only [keys]
    constructor
    · intro reads path gone
      exact reads path (mem_touched_paths.2 (.inr gone)) gone
    · intro reads path _
      exact reads path
  have split : (∀ path ∈ measuredPaths call, Reads opened path) ↔
      (∀ path ∈ (riskBlocks call.candidate call.fileBlocks).keys, Reads opened path) ∧
        ∀ path ∈ call.deleted, path ∉ changedPaths call.candidate call.fileBlocks →
          Reads opened path := by
    simp only [measuredPaths, List.mem_append, List.mem_filter, decide_eq_true_eq, or_imp,
      forall_and, and_imp]
  rw [split]
  constructor
  · rintro ⟨score, ran⟩
    cases counted : riskMap opened call.candidate call.fileBlocks with
    | error raised =>
      rw [counted] at ran
      cases ran
    | ok out =>
      have blocks := risk_map_reads counted
      obtain ⟨again, same, keys⟩ := risk_map_answer blocks
      rw [counted] at same ran
      cases same
      refine ⟨blocks, (deletions out keys).1 ?_⟩
      cases completed : (touchedPaths call.preflightRequest).foldlM
          (countDeletion opened call.deleted) out with
      | error raised =>
        simp only [bind, Except.bind, completed] at ran
        cases ran
      | ok total => exact ⟨total, rfl⟩
  · rintro ⟨blocks, deleted⟩
    obtain ⟨counted, ran, keys⟩ := risk_map_answer blocks
    obtain ⟨completed, total⟩ := (deletions counted keys).2 deleted
    refine ⟨scored completed, ?_⟩
    simp only [bind, Except.bind, ran, total]
    rfl

end

section

variable (elsewhere : Text → Option ByteArray) (tree : Tree) (root : Path)

/-- The file of a path, if it opens, is UTF-8 text. -/
def Decodes (path : Text) : Prop :=
  ∀ data, openBytes elsewhere tree root path = some data → (decodeUtf8 data).isSome = true

theorem no_null_of_safe {mapping : CaseMapping} {path : Text}
    (safe : isSafeRelpath mapping path = true) : Char.ofNat 0 ∉ path := by
  unfold isSafeRelpath isPortableRepoPath at safe
  split_ifs at safe
  have clear : ∀ part ∈ Text.split '/' path,
      isWindowsAmbiguousPathSegment mapping part = false := by
    intro part listed
    have sound := List.all_eq_true.1 safe part listed
    rw [Bool.and_eq_true, Bool.not_eq_true', Bool.not_eq_true'] at sound
    exact sound.2
  intro inside
  exact List.any_eq_false.1 (RecordVerifier.reserved_free mapping path clear).1 _ inside
    (by decide)

theorem reads_iff {path : Text} (clean : Char.ofNat 0 ∉ path) :
    Reads (openText elsewhere tree root) path ↔ Decodes elsewhere tree root path := by
  unfold Reads Decodes readRepoFile openText
  rw [if_neg clean]
  cases found : openBytes elsewhere tree root path with
  | none => exact ⟨fun _ data opens => (nomatch opens), fun _ => ⟨[], rfl⟩⟩
  | some data =>
    cases decoded : decodeUtf8 data with
    | none | some text => simp [decoded]

/-- Both measurements of an admitted change give a score exactly when each base file that they
read and that opens is UTF-8 text. -/
theorem risk_measured_iff (mapping : CaseMapping) (call : GuardCandidate)
    (preflight : CandidatePreflight)
    (evaluated : evaluateCandidatePreflight mapping call.preflightRequest = .ok preflight)
    (admitted : preflight.mayExecute = true) (protectedGlobs : List Text) :
    ((∃ score, judgmentRisk mapping (openText elsewhere tree root) call.candidate call.fileBlocks
        preflight.allTouchedPaths call.deleted protectedGlobs = .ok score) ∧
      ∃ score, riskScoreWithDeletions mapping (openText elsewhere tree root) call.candidate
        call.fileBlocks preflight.allTouchedPaths call.deleted protectedGlobs = .ok score) ↔
      ∀ path ∈ measuredPaths call, Decodes elsewhere tree root path := by
  have safe := (clean_iff mapping _ preflight evaluated).1 (may_execute_clean preflight admitted)
  obtain ⟨normalized, accepted⟩ := normalized_of_evaluated mapping _ preflight evaluated
  rw [evaluate_candidate_preflight_ok mapping _ normalized accepted] at evaluated
  cases evaluated
  have reads : (∀ path ∈ measuredPaths call, Reads (openText elsewhere tree root) path) ↔
      ∀ path ∈ measuredPaths call, Decodes elsewhere tree root path := by
    apply forall₂_congr
    intro path inside
    apply reads_iff
    apply no_null_of_safe (safe path ?_).1
    rcases List.mem_append.1 inside with block | deletion
    · exact .inl ((mem_changed_paths _ _ path).2 (.inl block))
    · exact .inr (List.mem_filter.1 deletion).1
  rw [← reads]
  exact ⟨fun both => (counted_and_completed_iff call _).1 both.1,
    fun each => ⟨(counted_and_completed_iff call _).2 each,
      (counted_and_completed_iff call _).2 each⟩⟩

end

/-- A tree with one file, which is no UTF-8 text. -/
def binaryTree : Tree := Tree.bare.add [] "data.bin" (.file 420 ⟨#[255]⟩)

def binaryCall : GuardCandidate where
  base := BaseTree.ofTree binaryTree [] []
  candidate := []
  deleted := ["data.bin"]

/-- Its deletion is admitted, and the measurement raises. -/
theorem binary_deletion_unmeasured : ¬∀ (elsewhere : Text → Option ByteArray) (tree : Tree)
    (root : Path) (mapping : CaseMapping) (call : GuardCandidate) (preflight : CandidatePreflight),
    evaluateCandidatePreflight mapping call.preflightRequest = .ok preflight →
    preflight.mayExecute = true → ∀ protectedGlobs,
      (∃ score, judgmentRisk mapping (openText elsewhere tree root) call.candidate call.fileBlocks
        preflight.allTouchedPaths call.deleted protectedGlobs = .ok score) ∧
      ∃ score, riskScoreWithDeletions mapping (openText elsewhere tree root) call.candidate
        call.fileBlocks preflight.allTouchedPaths call.deleted protectedGlobs = .ok score := by
  intro measured
  have scored := (measured (fun _ => none) binaryTree [] asciiCase binaryCall _
    (evaluate_candidate_preflight_ok asciiCase binaryCall.preflightRequest [] rfl)
    (by decide +kernel) []).1
  have reads := (counted_and_completed_iff binaryCall _).1 scored "data.bin" (by decide +kernel)
  have bytes : openBytes (fun _ => none) binaryTree [] "data.bin" = some ⟨#[255]⟩ := by
    decide +kernel
  have decoded := (reads_iff (fun _ => none) binaryTree [] (by decide +kernel)).1 reads _ bytes
  revert decoded
  decide +kernel

def textTree : Tree := Tree.bare.add [] "a.txt" (.file 420 ⟨#[65]⟩)

def textCall : GuardCandidate where
  base := BaseTree.ofTree textTree [] []
  candidate := "<<<FILE: a.txt>>>\nB\n<<<END FILE>>>"

theorem text_call_admitted : ∃ preflight,
    evaluateCandidatePreflight asciiCase textCall.preflightRequest = .ok preflight ∧
      preflight.mayExecute = true := by
  have evaluated := evaluate_candidate_preflight_ok asciiCase textCall.preflightRequest [] rfl
  exact ⟨_, evaluated, by decide +kernel⟩

theorem risk_measured_text_call : ∃ preflight,
    evaluateCandidatePreflight asciiCase textCall.preflightRequest = .ok preflight ∧
      (∃ score, judgmentRisk asciiCase (openText (fun _ => none) textTree []) textCall.candidate
        textCall.fileBlocks preflight.allTouchedPaths textCall.deleted [] = .ok score) ∧
      ∃ score, riskScoreWithDeletions asciiCase (openText (fun _ => none) textTree [])
        textCall.candidate textCall.fileBlocks preflight.allTouchedPaths textCall.deleted [] =
          .ok score := by
  obtain ⟨preflight, evaluated, admitted⟩ := text_call_admitted
  have measured := risk_measured_iff (fun _ => none) textTree [] asciiCase textCall preflight
    evaluated admitted []
  have paths : measuredPaths textCall = ["a.txt"] := by decide +kernel
  refine ⟨preflight, evaluated, measured.2 ?_⟩
  rw [paths]
  intro path inside data opens
  rw [List.mem_singleton.1 inside] at opens
  have bytes : openBytes (fun _ => none) textTree [] "a.txt" = some ⟨#[65]⟩ := by decide +kernel
  rw [bytes] at opens
  cases opens
  decide +kernel

end EvoomGuard.Guard
