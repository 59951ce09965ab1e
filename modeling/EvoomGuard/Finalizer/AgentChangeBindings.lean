import EvoomGuard.Finalizer.RawEvaluation
import EvoomGuard.Candidate.Identity

/-!
The raw-Git facts one agent change is admitted against, in both generations: their derivation from
two commits and the closed-world check they pass on every use. The keys of each generation are the
fields of its constructor.
-/

namespace EvoomGuard.Finalizer

open Lib Lib.Checks Lib.Framing Candidate Verifiers Workspace.CandidateTree

inductive BindingFormat where
  | v1
  | v2
  deriving DecidableEq

def BindingFormat.text : BindingFormat → Text
  | .v1 => "EVOGUARD_AGENT_CHANGE_GIT_BINDINGS_V1"
  | .v2 => "EVOGUARD_AGENT_CHANGE_GIT_BINDINGS_V2"

def agentChangeCandidateSelectionProfile : Text :=
  "EVOGUARD_AGENT_CHANGE_CANDIDATE_SELECTION_V1"

def agentChangeCandidateIgnoredBasenames : List Text :=
  [".git", "__pycache__", ".venv", "venv", "node_modules",
    ".evo_runs", ".pytest_cache", ".mypy_cache", "dist",
    "build"]

def maxBindingsBytes : Nat := 512 * 1024

def maxAgentChangeCandidateBytes : Nat := 64 * 1024 * 1024

def maxAgentChangePaths : Nat := 10000

structure IdentityPayload where
  format : Text
  sha256 : Text
  size : Nat
  fileCount : Nat
  deriving DecidableEq

def identityPayload (identity : CandidateTextMapIdentity) : IdentityPayload where
  format := candidateTextMapIdentityFormat
  sha256 := identity.sha256
  size := identity.size
  fileCount := identity.fileCount

inductive CandidateBinding where
  | v1 (candidateSha256 : Text) (candidateSize : Nat)
  | v2 (gitObjectFormat selectionProfile : Text) (identity : IdentityPayload)
      (legacySha256 : Text) (legacySize : Nat)
  deriving DecidableEq

structure PolicyDigests where
  policySha256 : Text
  verifierPackSha256 : Option Text
  deriving DecidableEq

structure DerivedAgentChangeBindings where
  revisions : Revisions
  candidate : CandidateBinding
  changedPaths : List Text
  deletedPaths : List Text
  touchedPaths : List Text
  digests : PolicyDigests
  deriving DecidableEq

namespace DerivedAgentChangeBindings

def format (bindings : DerivedAgentChangeBindings) : BindingFormat :=
  match bindings.candidate with
  | .v1 .. => .v1
  | .v2 .. => .v2

def candidateSize (bindings : DerivedAgentChangeBindings) : Nat :=
  match bindings.candidate with
  | .v1 _ size => size
  | .v2 _ _ _ _ size => size

def legacyGuardCandidateSha256 (bindings : DerivedAgentChangeBindings) : Text :=
  match bindings.candidate with
  | .v1 digest _ => digest
  | .v2 _ _ _ digest _ => digest

def texts (values : List Text) : Json := .array (values.map .string)

def candidateFields : CandidateBinding → List (Text × Json)
  | .v1 digest size =>
    [("candidate_sha256", .string digest), ("candidate_size", .int size)]
  | .v2 objectFormat profile identity legacy size =>
    [("git_object_format", .string objectFormat),
      ("candidate_selection_profile", .string profile),
      ("candidate_identity", .object
        [("format", .string identity.format), ("sha256", .string identity.sha256),
          ("size", .int identity.size),
          ("file_count", .int identity.fileCount)]),
      ("legacy_guard_candidate_sha256", .string legacy),
      ("legacy_guard_candidate_size", .int size)]

def payload (bindings : DerivedAgentChangeBindings) : List (Text × Json) :=
  [("format".toList, .string bindings.format.text),
    ("base_sha", .string bindings.revisions.baseSha),
    ("head_sha", .string bindings.revisions.headSha),
    ("base_tree_sha", .string bindings.revisions.baseTreeSha),
    ("head_tree_sha", .string bindings.revisions.headTreeSha),
    ("changed_paths", texts bindings.changedPaths),
    ("deleted_paths", texts bindings.deletedPaths),
    ("touched_paths", texts bindings.touchedPaths),
    ("policy_sha256", .string bindings.digests.policySha256),
    ("verifier_pack_sha256", match bindings.digests.verifierPackSha256 with
      | none => .null
      | some digest => .string digest)] ++ candidateFields bindings.candidate

end DerivedAgentChangeBindings

/-- `sorted` by code points in the first generation, by UTF-8 bytes in the second. -/
def sortPaths : BindingFormat → List Text → List Text
  | .v1, paths => Text.sorted paths
  | .v2, paths => sortOn bytesLe utf8 paths

theorem sort_paths_perm (format : BindingFormat) (paths : List Text) :
    (sortPaths format paths).Perm paths := by
  cases format with
  | v1 => exact Text.sorted_perm paths
  | v2 => exact sort_on_perm bytesLe utf8 paths

theorem mem_sort_paths (format : BindingFormat) (paths : List Text) (path : Text) :
    path ∈ sortPaths format paths ↔ path ∈ paths :=
  (sort_paths_perm format paths).mem_iff

def requireSha256 (value label : Text) : Except Text Unit :=
  refuse (Sha256.isHex64 value = false) (label ++ " must be a lowercase SHA-256 digest")

def requireOptionalSha256 (value : Option Text) (label : Text) : Except Text Unit :=
  match value with
  | none => pure ()
  | some digest => requireSha256 digest label

section Validation

variable (mapping : CaseMapping)

def validateAgentChangePaths (paths : List Text) (label : Text) (format : BindingFormat) :
    Except Text Unit := do
  refuse (paths.any (fun path => !isSafeRelpath mapping path) = true)
    ("agent-change bindings " ++ label ++ " must contain safe relative paths")
  refuse (paths ≠ sortPaths format paths.dedup)
    ("agent-change bindings " ++ label ++ " must be sorted and unique")
  refuse (maxAgentChangePaths < paths.length)
    ("agent-change bindings " ++ label ++ " exceeds the entry limit")

def validateV1Candidate (digest : Text) (size : Nat) : Except Text Unit := do
  requireSha256 digest "agent-change candidate_sha256"
  refuse (¬(1 ≤ size ∧ size ≤ maxAgentChangeCandidateBytes))
    "agent-change bindings candidate_size is outside the permitted range"

def gitDigestLength (objectFormat : Text) : Nat := if objectFormat = "sha1" then 40 else 64

def validateV2Candidate (revisions : Revisions) (objectFormat profile : Text)
    (identity : IdentityPayload) (legacy : Text) (legacySize : Nat) : Except Text Unit := do
  refuse (profile ≠ agentChangeCandidateSelectionProfile)
    "agent-change bindings candidate_selection_profile is unsupported"
  refuse (objectFormat ≠ "sha1" ∧ objectFormat ≠ "sha256")
    "agent-change bindings git_object_format must be sha1 or sha256"
  refuse ([revisions.baseSha, revisions.headSha, revisions.baseTreeSha, revisions.headTreeSha].any
      (fun sha => sha.length != gitDigestLength objectFormat) = true)
    "agent-change Git digests do not match git_object_format"
  refuse (identity.format ≠ candidateTextMapIdentityFormat)
    "agent-change candidate_identity has an unsupported format"
  requireSha256 identity.sha256 "agent-change candidate_identity.sha256"
  refuse (¬(1 ≤ identity.size ∧ identity.size ≤ maxAgentChangeCandidateBytes))
    "agent-change candidate_identity.size is outside the permitted range"
  refuse (maxAgentChangePaths < identity.fileCount)
    "agent-change candidate_identity.file_count is outside the permitted range"
  requireSha256 legacy "agent-change legacy_guard_candidate_sha256"
  refuse (maxAgentChangeCandidateBytes < legacySize)
    "agent-change legacy_guard_candidate_size is outside the permitted range"

def validateCandidate (revisions : Revisions) : CandidateBinding → Except Text Unit
  | .v1 digest size => validateV1Candidate digest size
  | .v2 objectFormat profile identity legacy size =>
    validateV2Candidate revisions objectFormat profile identity legacy size

/-- The changed paths the candidate text can hold. -/
def evaluable (paths : List Text) : List Text :=
  paths.filter fun path => !ignoredPath (some agentChangeCandidateIgnoredBasenames) path

def validateFileCount (candidate : CandidateBinding) (changed : List Text) : Except Text Unit :=
  match candidate with
  | .v1 .. => pure ()
  | .v2 _ _ identity _ _ =>
    refuse (identity.fileCount ≠ (evaluable changed).length)
      "agent-change candidate_identity.file_count does not match evaluable changed_paths"

def validatePathRelations (bindings : DerivedAgentChangeBindings) : Except Text Unit := do
  validateAgentChangePaths mapping bindings.changedPaths "changed_paths" bindings.format
  validateAgentChangePaths mapping bindings.deletedPaths "deleted_paths" bindings.format
  validateAgentChangePaths mapping bindings.touchedPaths "touched_paths" bindings.format
  validateFileCount bindings.candidate bindings.changedPaths
  refuse (bindings.changedPaths.any bindings.deletedPaths.contains = true)
    "agent-change changed and deleted paths must be disjoint"
  refuse (bindings.touchedPaths ≠
      sortPaths bindings.format (bindings.changedPaths ++ bindings.deletedPaths).dedup)
    "agent-change touched_paths must equal changed_paths union deleted_paths"
  refuse (bindings.touchedPaths = [])
    "agent-change bindings require at least one touched path"

def validateRevision (value label : Text) : Except Text Unit :=
  refuse (isGitSha value = false)
    ("agent-change bindings " ++ label ++ " is invalid")

def validateAgentChangeBindings (bindings : DerivedAgentChangeBindings) :
    Except Text DerivedAgentChangeBindings := do
  validateRevision bindings.revisions.baseSha "base_sha"
  validateRevision bindings.revisions.headSha "head_sha"
  validateRevision bindings.revisions.baseTreeSha "base_tree_sha"
  validateRevision bindings.revisions.headTreeSha "head_tree_sha"
  validateCandidate bindings.revisions bindings.candidate
  validatePathRelations mapping bindings
  requireSha256 bindings.digests.policySha256 "agent-change policy_sha256"
  requireOptionalSha256 bindings.digests.verifierPackSha256
    "agent-change verifier_pack_sha256"
  pure bindings

/-- No field of the payload is a float. The writer reads back what it wrote, which these texts
and small numbers always survive. -/
def agentChangeBindingsBytes (bindings : DerivedAgentChangeBindings) : Except Text Bytes := do
  let checked ← validateAgentChangeBindings mapping bindings
  let data := utf8 (JsonCodec.dumps true (fun _ => []) (.object checked.payload) ++ ['\n'])
  refuse (maxBindingsBytes < data.length)
    "canonical agent-change bindings exceed the size limit"
  pure data

end Validation

/-- The head paths whose entry is new or differs. -/
def changedTreePaths (base head : Dict Text GitEntry) : List Text :=
  (head.entries.filter fun item =>
    !unchangedEntry (base.entries.lookup item.1) item.2).map Prod.fst

def deletedTreePaths (base head : Dict Text GitEntry) : List Text :=
  base.keys.filter fun path => !head.keys.contains path

section Derivation

variable (host : DerivationHost) (format : BindingFormat) (base head : CommitReader)
  (revisions : Revisions)

def selectedBasenames : BindingFormat → Option (List Text)
  | .v1 => none
  | .v2 => some agentChangeCandidateIgnoredBasenames

def agentChangeEvaluation : Except Text RawEvaluation :=
  deriveRawEvaluation host base head revisions (some maxAgentChangePaths)
    (some maxAgentChangeCandidateBytes) (selectedBasenames format)

def agentChangeBlocks : Except Text (Dict Text Text) :=
  blocksOf host base head (some maxAgentChangePaths) (some maxAgentChangeCandidateBytes)
    (selectedBasenames format)

/-- What a generation says about the candidate text. -/
def bindCandidate (blocks : Dict Text Text) : Except Text CandidateBinding :=
  let legacy := serializeCandidateBlocks blocks
  match format with
  | .v1 => pure (.v1 (Sha256.hexdigest legacy) (utf8 legacy).length)
  | .v2 => do
      let identity ← (candidateTextMapIdentity host.quoted blocks).mapError
        CandidateIdentityError.text
      refuse (maxAgentChangeCandidateBytes < identity.size)
        "framed agent-change candidate identity exceeds the byte limit"
      pure (.v2 (if revisions.baseSha.length = 40 then "sha1" else "sha256")
        agentChangeCandidateSelectionProfile (identityPayload identity) (Sha256.hexdigest legacy)
        (utf8 legacy).length)

def deriveAgentChangeBindings : Except Text DerivedAgentChangeBindings := do
  let _ ← validGitSha revisions.baseSha "base_sha"
  let _ ← validGitSha revisions.headSha "head_sha"
  let _ ← validGitSha revisions.baseTreeSha "base_tree_sha"
  let _ ← validGitSha revisions.headTreeSha "head_tree_sha"
  let raw ← agentChangeEvaluation host format base head revisions
  let blocks ← agentChangeBlocks host format base head
  refuse (Sha256.hexdigest (serializeCandidateBlocks blocks) ≠ raw.candidateSha256)
    "agent-change candidate identity diverged during raw-Git derivation"
  let baseEntries ← base.treeAt host revisions.baseSha
  let headEntries ← head.treeAt host revisions.headSha
  let changed := sortPaths format (changedTreePaths baseEntries headEntries)
  let deleted := sortPaths format (deletedTreePaths baseEntries headEntries)
  refuse (maxAgentChangePaths < changed.length + deleted.length)
    "tracked Git change exceeds the Agent Change path limit"
  let candidate ← bindCandidate host format revisions blocks
  let bindings ← validateAgentChangeBindings host.mapping
    { revisions := revisions
      candidate := candidate
      changedPaths := changed
      deletedPaths := deleted
      touchedPaths := sortPaths format (changed ++ deleted).dedup
      digests := ⟨raw.policySha256, raw.verifierPackSha256⟩ }
  let _ ← agentChangeBindingsBytes host.mapping bindings
  pure bindings

theorem validate_bindings_ok (mapping : CaseMapping) (bindings checked : DerivedAgentChangeBindings)
    (valid : validateAgentChangeBindings mapping bindings = .ok checked) : checked = bindings := by
  unfold validateAgentChangeBindings at valid
  simp only [bind_ok, pure_ok] at valid
  rcases valid with ⟨_, _, _, _, _, _, _, _, _, _, _, _, _, _, _, _, same⟩
  exact same.symm

/-- Where each field of derived bindings comes from. -/
structure DerivedFrom (bindings : DerivedAgentChangeBindings) (raw : RawEvaluation)
    (blocks : Dict Text Text) (baseTree headTree : Dict Text GitEntry) : Prop where
  evaluated : agentChangeEvaluation host format base head revisions = .ok raw
  read : agentChangeBlocks host format base head = .ok blocks
  baseRead : base.tree host.mapping host.quoted = .ok baseTree
  headRead : head.tree host.mapping host.quoted = .ok headTree
  revision : bindings.revisions = revisions
  candidate : bindCandidate host format revisions blocks = .ok bindings.candidate
  changed : bindings.changedPaths = sortPaths format (changedTreePaths baseTree headTree)
  deleted : bindings.deletedPaths = sortPaths format (deletedTreePaths baseTree headTree)
  touched : bindings.touchedPaths =
    sortPaths format (bindings.changedPaths ++ bindings.deletedPaths).dedup
  digests : bindings.digests = ⟨raw.policySha256, raw.verifierPackSha256⟩

theorem tree_at_ok (reader : CommitReader) (sha : Text) (tree : Dict Text GitEntry)
    (read : reader.treeAt host sha = .ok tree) : reader.tree host.mapping host.quoted = .ok tree := by
  unfold CommitReader.treeAt at read
  simp only [bind_ok] at read
  rcases read with ⟨_, _, listed⟩
  exact listed

theorem derive_bindings_ok (bindings : DerivedAgentChangeBindings)
    (derived : deriveAgentChangeBindings host format base head revisions = .ok bindings) :
    ∃ raw blocks baseTree headTree,
      DerivedFrom host format base head revisions bindings raw blocks baseTree headTree := by
  unfold deriveAgentChangeBindings at derived
  simp only [bind_ok, pure_ok] at derived
  rcases derived with ⟨_, _, _, _, _, _, _, _, raw, evaluated, blocks, read, _, _, baseTree, baseRead,
    headTree, headRead, _, _, candidate, bound, checked, valid, _, _, same⟩
  have built := validate_bindings_ok host.mapping _ _ valid
  subst built
  subst same
  exact ⟨raw, blocks, baseTree, headTree, evaluated, read, tree_at_ok host base _ _ baseRead,
    tree_at_ok host head _ _ headRead, rfl, bound, rfl, rfl, rfl, rfl⟩

end Derivation

/-- A leaf whose entry differs, or that one of the two trees lacks. -/
def Differs (base head : GitReader) (path : Text) : Prop :=
  base.rows.lookup path ≠ head.rows.lookup path

theorem same_entry_iff (original : Option GitEntry) (candidate : GitEntry) :
    unchangedEntry original candidate = true ↔ original = some candidate := by
  cases original with
  | none => simp [unchangedEntry]
  | some entry =>
    cases entry
    cases candidate
    simp [unchangedEntry, and_assoc]

section Paths

variable (base head : Dict Text GitEntry) (path : Text)

theorem mem_changed_iff :
    path ∈ changedTreePaths base head ↔
      head.entries.lookup path ≠ none ∧ base.entries.lookup path ≠ head.entries.lookup path := by
  simp only [changedTreePaths, List.mem_map, List.mem_filter, Bool.not_eq_true',
    ← Bool.not_eq_true, same_entry_iff]
  constructor
  · intro found
    rcases found with ⟨item, ⟨inside, differs⟩, named⟩
    subst named
    rw [lookup_of_mem head.entries head.nodup item.1 item.2 inside]
    exact ⟨Option.some_ne_none _, differs⟩
  · intro found
    cases present : head.entries.lookup path with
    | none => exact absurd present found.1
    | some entry =>
      rw [present] at found
      exact ⟨(path, entry), ⟨mem_of_lookup_eq _ path entry present, found.2⟩, rfl⟩

theorem lookup_none_iff (tree : Dict Text GitEntry) :
    tree.entries.lookup path = none ↔ path ∉ tree.keys := by
  rw [List.lookup_eq_none_iff, Dict.keys, List.mem_map]
  constructor
  · intro absent found
    rcases found with ⟨item, inside, named⟩
    have other := absent item inside
    simp [named] at other
  · intro absent item inside
    rw [bne_iff_ne]
    intro named
    exact absent ⟨item, inside, named.symm⟩

theorem mem_deleted_iff :
    path ∈ deletedTreePaths base head ↔
      base.entries.lookup path ≠ none ∧ head.entries.lookup path = none := by
  rw [deletedTreePaths, List.mem_filter, Bool.not_eq_true', ← Bool.not_eq_true,
    List.contains_iff_mem, lookup_none_iff, ne_eq, lookup_none_iff, not_not]

theorem changed_or_deleted_iff :
    path ∈ changedTreePaths base head ∨ path ∈ deletedTreePaths base head ↔
      base.entries.lookup path ≠ head.entries.lookup path := by
  rw [mem_changed_iff, mem_deleted_iff]
  constructor
  · intro found
    rcases found with changed | deleted
    · exact changed.2
    · rw [deleted.2]
      exact deleted.1
  · intro differs
    cases present : head.entries.lookup path with
    | none =>
      rw [present] at differs
      exact Or.inr ⟨differs, rfl⟩
    | some entry =>
      rw [present] at differs
      exact Or.inl ⟨Option.some_ne_none _, differs⟩

end Paths

section Touched

variable {host : DerivationHost} {format : BindingFormat} {base head : CommitReader}
  {revisions : Revisions} {bindings : DerivedAgentChangeBindings} {raw : RawEvaluation}
  {blocks : Dict Text Text} {baseTree headTree : Dict Text GitEntry}
  (origin : DerivedFrom host format base head revisions bindings raw blocks baseTree headTree)

include origin

theorem base_rows : baseTree.entries = base.rows :=
  tree_ok host.mapping host.quoted base.toGitReader baseTree origin.baseRead

theorem head_rows : headTree.entries = head.rows :=
  tree_ok host.mapping host.quoted head.toGitReader headTree origin.headRead

theorem derived_changed_iff (path : Text) :
    path ∈ bindings.changedPaths ↔
      head.rows.lookup path ≠ none ∧ Differs base.toGitReader head.toGitReader path := by
  rw [origin.changed, mem_sort_paths, mem_changed_iff, base_rows origin, head_rows origin]
  rfl

theorem derived_deleted_iff (path : Text) :
    path ∈ bindings.deletedPaths ↔ base.rows.lookup path ≠ none ∧ head.rows.lookup path = none := by
  rw [origin.deleted, mem_sort_paths, mem_deleted_iff, base_rows origin, head_rows origin]

theorem derived_touched_iff (path : Text) :
    path ∈ bindings.touchedPaths ↔ Differs base.toGitReader head.toGitReader path := by
  rw [origin.touched, mem_sort_paths, List.mem_dedup, List.mem_append, origin.changed,
    origin.deleted, mem_sort_paths, mem_sort_paths, changed_or_deleted_iff, base_rows origin,
    head_rows origin]
  rfl

end Touched

end EvoomGuard.Finalizer
