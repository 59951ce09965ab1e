import EvoomGuard.Finalizer.CandidateDerivation
import EvoomGuard.Finalizer.PolicyDerivation
import EvoomGuard.Lib.Checks
import EvoomGuard.Lib.JsonCodec

/-!
`_derive_raw_evaluation_from_readers`: the facts the finalizer derives from two commits and nothing
else. Errors are the texts that are raised.
-/

namespace EvoomGuard.Finalizer

open Lib Lib.Checks Lib.Framing Policy Workspace Workspace.CandidateTree

/-- Python's `str` and `repr`, its JSON reader and writer, and the name of the file a policy is
read through. -/
structure DerivationHost where
  mapping : CaseMapping
  shown : Json → Text
  quoted : Text → Text
  decodePolicy : Bytes → Except Text Json
  decodeManifest : ByteArray → Except Text Json
  dumps : Json → Text
  policyPath : Text

/-- A repository at one commit: the tree `rev-parse` names for it, its listing and its objects. -/
structure CommitReader extends GitReader where
  revParse : Except Text Text

structure Revisions where
  baseSha : Text
  headSha : Text
  baseTreeSha : Text
  headTreeSha : Text
  deriving DecidableEq

def isGitSha (text : Text) : Bool :=
  (text.length == 40 || text.length == 64) && text.all Sha256.hexDigits.contains

def validGitSha (value label : Text) : Except Text Text := do
  refuse (isGitSha value = false) (label ++ " must be a lowercase immutable Git digest")
  pure value

def CommitReader.commitTree (reader : CommitReader) (sha : Text) : Except Text Text := do
  let _ ← validGitSha sha "commit"
  let output ← reader.revParse
  validGitSha output "derived tree"

def CommitReader.treeAt (host : DerivationHost) (reader : CommitReader) (sha : Text) :
    Except Text (Dict Text GitEntry) := do
  let _ ← validGitSha sha "treeish"
  reader.tree host.mapping host.quoted

section

variable (host : DerivationHost) (base head : Dict Text GitEntry)

def entryAt (tree : Dict Text GitEntry) : Json → Option GitEntry
  | .string path => tree.entries.lookup path
  | _ => none

def represented : Json → Text
  | .string path => host.quoted path
  | other => host.shown other

def checkHarnessInput (path : Json) : Except Text Unit := do
  refuse ((entryAt base path).any GitEntry.regular = false)
    ("harness_inputs must name exact regular files in the immutable base tree: " ++
      represented host path)
  refuse (entryAt head path ≠ entryAt base path)
    ("candidate tree changed a policy-bound harness input: " ++ represented host path)

def checkHarnessInputs : List Json → Except Text Unit
  | [] => pure ()
  | path :: rest => do
      checkHarnessInput host base head path
      checkHarnessInputs rest

end

def pinnedPack (host : DerivationHost) (base : CommitReader) (packPath packPin : Option Text) :
    Except Text (Option Text × Option (List (Text × Json))) :=
  match packPath, packPin with
  | none, none => pure (none, none)
  | none, some _ => .error "base policy pins a verifier pack without verifier_pack"
  | some path, none => do
      let _ ← rawPackIdentity host.mapping host.quoted host.decodeManifest base.toGitReader path
      .error "trusted finalizer requires expect_verifier_pack_sha256 with verifier_pack"
  | some path, some pin => do
      let identity ←
        rawPackIdentity host.mapping host.quoted host.decodeManifest base.toGitReader path
      refuse (identity.1 ≠ pin)
        "base verifier-pack digest does not match its immutable policy pin"
      pure (some identity.1, identity.2)

structure RawEvaluation where
  candidateSha256 : Text
  deletedPaths : List Text
  policySha256 : Text
  verifierPackSha256 : Option Text
  verifierPackManifest : Option (List (Text × Json))
  effectivePolicy : PolicyPayload

def policyFile : Text := ".evoguard.json"

def policyBlob (base : CommitReader) (entries : Dict Text GitEntry) : Except Text Bytes :=
  match entries.entries.lookup policyFile with
  | none => .error "trusted finalizer requires a regular base .evoguard.json"
  | some entry => do
      refuse (entry.regular = false)
        "trusted finalizer requires a regular base .evoguard.json"
      let data ← base.blob entry.objectId maxPolicyBytes "base .evoguard.json"
      pure data.data.toList

def listedInputs (policy : PolicyPayload) : List Json :=
  match policy.lookup .harnessInputs with
  | some (.array paths) => paths
  | _ => []

section Evaluation

variable (host : DerivationHost) (base head : CommitReader) (revisions : Revisions)
  (maximumPaths maximumBytes : Option Nat) (ignored : Option (List Text))

def blocksOf : Except Text (Dict Text Text) :=
  candidateBlocks host.quoted maximumPaths maximumBytes host.mapping ignored base.toGitReader
    head.toGitReader

def deriveRawEvaluation : Except Text RawEvaluation := do
  let baseTree ← base.commitTree revisions.baseSha
  refuse (baseTree ≠ revisions.baseTreeSha)
    "provided commit/tree binding is not immutable Git reality"
  let headTree ← head.commitTree revisions.headSha
  refuse (headTree ≠ revisions.headTreeSha)
    "provided commit/tree binding is not immutable Git reality"
  let baseEntries ← base.treeAt host revisions.baseSha
  let headEntries ← head.treeAt host revisions.headSha
  let policyBytes ← policyBlob base baseEntries
  let derived ← effectivePolicyFromRawConfig host.mapping host.shown host.quoted host.decodePolicy
    host.policyPath policyBytes
    ((headEntries.entries.lookup "package.json".toList).any GitEntry.regular)
  checkHarnessInputs host baseEntries headEntries (listedInputs derived.1)
  let pack ← pinnedPack host base derived.2.1 derived.2.2
  let blocks ← blocksOf host base head maximumPaths maximumBytes ignored
  pure
    { candidateSha256 := Sha256.hexdigest (serializeCandidateBlocks blocks)
      deletedPaths := rawDeletedPaths baseEntries headEntries
      policySha256 := effectivePolicySha256 host.dumps derived.1
      verifierPackSha256 := pack.1
      verifierPackManifest := pack.2
      effectivePolicy := derived.1 }

end Evaluation

section

variable (host : DerivationHost) (base head : CommitReader) (revisions : Revisions)
  (maximumPaths maximumBytes : Option Nat) (ignored : Option (List Text)) (raw : RawEvaluation)
  (evaluated : deriveRawEvaluation host base head revisions maximumPaths maximumBytes ignored = .ok raw)
include evaluated

theorem evaluation_digests :
    Sha256.isHex64 raw.policySha256 = true ∧
      ∃ blocks, blocksOf host base head maximumPaths maximumBytes ignored = .ok blocks ∧
        raw.candidateSha256 = Sha256.hexdigest (serializeCandidateBlocks blocks) := by
  simp only [deriveRawEvaluation, bind_ok, pure_ok] at evaluated
  rcases evaluated with ⟨_, _, _, _, _, _, _, _, _, _, _, _, _, _, derived, _, _, _, _, _, blocks, read,
    built⟩
  subst built
  exact ⟨Sha256.hexdigest_is_hex _, blocks, read, rfl⟩

theorem evaluation_policy :
    raw.policySha256 = effectivePolicySha256 host.dumps raw.effectivePolicy := by
  simp only [deriveRawEvaluation, bind_ok, pure_ok] at evaluated
  rcases evaluated with ⟨_, _, _, _, _, _, _, _, _, _, _, _, _, _, derived, _, _, _, _, _, blocks, _,
    built⟩
  subst built
  rfl

end

theorem read_rows_ok (mapping : CaseMapping) (quoted : Text → Text) (rows : List (Text × GitEntry))
    (entries final : Dict Text GitEntry) (read : readRows mapping quoted entries rows = .ok final) :
    final.entries = entries.entries ++ rows := by
  induction rows generalizing entries with
  | nil =>
    rw [readRows, Except.ok.injEq] at read
    simp [read]
  | cons row rest ih =>
    rw [readRows] at read
    split_ifs at read with unsafePath repeated many
    have absent : row.1 ∉ entries.entries.map Prod.fst := by
      intro inside
      exact repeated (List.contains_iff_mem.mpr inside)
    have appended : (entries.insert row.1 row.2).entries = entries.entries ++ [row] :=
      Dict.assign_new row.1 row.2 entries.entries absent
    rw [ih _ read, appended, List.append_assoc]
    rfl

theorem tree_ok (mapping : CaseMapping) (quoted : Text → Text) (reader : GitReader)
    (tree : Dict Text GitEntry) (read : reader.tree mapping quoted = .ok tree) :
    tree.entries = reader.rows := by
  have listed := read_rows_ok mapping quoted reader.rows Dict.empty tree read
  simpa [Dict.empty] using listed

def wholeNumbers : JsonCodec.NumberHooks where
  parseInt := fun digits => .ok (JsonCodec.intValue digits)
  parseFloat := fun digits => .error digits

def readJson (bytes : Bytes) : Except Text Json :=
  match decodeUtf8 ⟨bytes.toArray⟩ with
  | none => .error "not UTF-8"
  | some text => (JsonCodec.loads wholeNumbers text).mapError fun _ => "not JSON"

/-- `json.dumps` of a flat object with its default separators. -/
def spacedDumps : Json → Text
  | .object fields =>
    '\x7b' :: Text.join ", " ((JsonCodec.sortFields fields).map fun field =>
      JsonCodec.quoted true field.1 ++ ": " ++
        JsonCodec.dumps true (fun _ => []) field.2) ++ ['\x7d']
  | other => JsonCodec.dumps true (fun _ => []) other

end EvoomGuard.Finalizer
