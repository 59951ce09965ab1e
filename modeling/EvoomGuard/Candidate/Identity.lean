import Mathlib.Data.List.Perm.Basic
import EvoomGuard.Lib.Framing
import EvoomGuard.Lib.Sha256

/-!
The V2 identity of a candidate text map, `candidate/identity.py`. The representation of a path
in an error text is a parameter.
-/

namespace EvoomGuard.Candidate

open Lib Lib.Framing

def candidateTextMapIdentityFormat : Text := "EVOGUARD_CANDIDATE_TEXT_MAP_V2"

def maxIdentityComponentBytes : Nat := 2 ^ 64 - 1

def identityDomain : Bytes := utf8 candidateTextMapIdentityFormat ++ [0]

def entryTag : Bytes := utf8 ['F']

/-- The two limits of the framing; a value that is no text cannot be given here. -/
inductive CandidateIdentityError where
  | componentTooLong (label : Text)
  | tooManyEntries

def CandidateIdentityError.text : CandidateIdentityError → Text
  | .componentTooLong label => label ++ " exceeds the V2 framing limit"
  | .tooManyEntries => "candidate text map exceeds the V2 entry limit"

def utf8Component (value label : Text) : Except CandidateIdentityError Bytes :=
  if maxIdentityComponentBytes < (utf8 value).length then .error (.componentTooLong label)
  else .ok (utf8 value)

def candidatePathOrderKey (path : Text) : Except CandidateIdentityError Bytes :=
  utf8Component path "candidate path"

section Identity

variable (quoted : Text → Text)

def identityEntries : List (Text × Text) → Except CandidateIdentityError (List (Bytes × Bytes))
  | [] => .ok []
  | (path, content) :: rest =>
    match candidatePathOrderKey path with
    | .error problem => .error problem
    | .ok pathBytes =>
      match utf8Component content ("candidate content for " ++ quoted path) with
      | .error problem => .error problem
      | .ok contentBytes =>
        match identityEntries rest with
        | .error problem => .error problem
        | .ok entries => .ok ((pathBytes, contentBytes) :: entries)

def frameEntry (entry : Bytes × Bytes) : Bytes := entryTag ++ (blob entry.1 ++ blob entry.2)

def frameEntries (entries : List (Bytes × Bytes)) : Bytes :=
  identityDomain ++ counted frameEntry (sortOn bytesLe Prod.fst entries)

def candidateTextMapIdentityBytes (blocks : Dict Text Text) : Except CandidateIdentityError Bytes :=
  if maxIdentityComponentBytes < blocks.entries.length then .error .tooManyEntries
  else
    match identityEntries quoted blocks.entries with
    | .error problem => .error problem
    | .ok entries => .ok (frameEntries entries)

structure CandidateTextMapIdentity where
  sha256 : Text
  size : Nat
  fileCount : Nat

def candidateTextMapIdentity (blocks : Dict Text Text) :
    Except CandidateIdentityError CandidateTextMapIdentity :=
  match candidateTextMapIdentityBytes quoted blocks with
  | .error problem => .error problem
  | .ok framed => .ok ⟨Sha256.hexdigestBytes framed, framed.length, blocks.entries.length⟩

end Identity

/-- The limits the framing checks: every length and the number of entries fit 64 bits. -/
structure FitsFraming (blocks : Dict Text Text) : Prop where
  count : blocks.entries.length < 2 ^ 64
  paths : ∀ entry ∈ blocks.entries, (utf8 entry.1).length < 2 ^ 64
  contents : ∀ entry ∈ blocks.entries, (utf8 entry.2).length < 2 ^ 64

def encodeEntry (entry : Text × Text) : Bytes × Bytes := (utf8 entry.1, utf8 entry.2)

theorem encode_entry_injective : Function.Injective encodeEntry := by
  intro left right same
  have parts := Prod.ext_iff.mp same
  exact Prod.ext (utf8_injective parts.1) (utf8_injective parts.2)

theorem utf8_component_ok (value label : Text) (fits : (utf8 value).length < 2 ^ 64) :
    utf8Component value label = .ok (utf8 value) := by
  unfold utf8Component maxIdentityComponentBytes
  rw [if_neg (by omega)]

variable (quoted : Text → Text)

theorem identity_entries_ok (entries : List (Text × Text))
    (paths : ∀ entry ∈ entries, (utf8 entry.1).length < 2 ^ 64)
    (contents : ∀ entry ∈ entries, (utf8 entry.2).length < 2 ^ 64) :
    identityEntries quoted entries = .ok (entries.map encodeEntry) := by
  induction entries with
  | nil => rfl
  | cons entry rest ih =>
    have rests := ih (fun other inside => paths other (List.mem_cons_of_mem _ inside))
      (fun other inside => contents other (List.mem_cons_of_mem _ inside))
    simp only [identityEntries, candidatePathOrderKey,
      utf8_component_ok entry.1 _ (paths entry List.mem_cons_self),
      utf8_component_ok entry.2 _ (contents entry List.mem_cons_self), rests]
    rfl

theorem identity_bytes_ok (blocks : Dict Text Text)
    (fits : FitsFraming blocks) :
    candidateTextMapIdentityBytes quoted blocks =
      .ok (frameEntries (blocks.entries.map encodeEntry)) := by
  have count := fits.count
  unfold candidateTextMapIdentityBytes maxIdentityComponentBytes
  rw [if_neg (by omega), identity_entries_ok quoted _ fits.paths fits.contents]

def EntryFits (entry : Bytes × Bytes) : Prop :=
  entry.1.length < 2 ^ 64 ∧ entry.2.length < 2 ^ 64

theorem frame_entry_delimits : SelfDelimiting EntryFits frameEntry :=
  tagged_delimits entryTag (pair_delimits blob_delimits blob_delimits)

theorem encoded_keys_distinct (blocks : Dict Text Text) :
    ((blocks.entries.map encodeEntry).map Prod.fst).Nodup := by
  have keys : (blocks.entries.map encodeEntry).map Prod.fst = (blocks.entries.map Prod.fst).map utf8 := by
    rw [List.map_map, List.map_map]
    rfl
  rw [keys]
  exact blocks.nodup.map utf8_injective

theorem frame_entries_eq_iff (left right : Dict Text Text) (leftFits : FitsFraming left)
    (rightFits : FitsFraming right) :
    frameEntries (left.entries.map encodeEntry) = frameEntries (right.entries.map encodeEntry) ↔
      left.entries.Perm right.entries := by
  have sorted (blocks : Dict Text Text) :
      (sortOn bytesLe Prod.fst (blocks.entries.map encodeEntry)).Perm
        (blocks.entries.map encodeEntry) := sort_on_perm _ _ _
  have valid (blocks : Dict Text Text) (fits : FitsFraming blocks) :
      (sortOn bytesLe Prod.fst (blocks.entries.map encodeEntry)).length < 2 ^ 64 ∧
        ∀ entry ∈ sortOn bytesLe Prod.fst (blocks.entries.map encodeEntry), EntryFits entry := by
    constructor
    · rw [(sorted blocks).length_eq, List.length_map]
      exact fits.count
    · intro entry inside
      rcases List.mem_map.mp ((sorted blocks).mem_iff.mp inside) with ⟨source, member, encoded⟩
      subst encoded
      exact ⟨fits.paths source member, fits.contents source member⟩
  constructor
  · intro same
    have framed := List.append_cancel_left same
    have lists := counted_delimits frame_entry_delimits _ _ [] [] (valid left leftFits)
      (valid right rightFits) (by simpa using framed)
    have encoded : (left.entries.map encodeEntry).Perm (right.entries.map encodeEntry) := by
      have chain := (sorted left).symm
      rw [lists.1] at chain
      exact chain.trans (sorted right)
    exact (List.map_perm_map_iff encode_entry_injective).mp encoded
  · intro same
    unfold frameEntries
    rw [sort_on_eq_of_perm bytes_order Prod.fst _ _ (same.map encodeEntry)
      (encoded_keys_distinct left)]

/-- Within the limits of the framing the identity bytes exist, and two maps have the same bytes
exactly when they have the same entries, in whatever order these were inserted. -/
theorem candidate_identity_injective (left right : Dict Text Text)
    (leftFits : FitsFraming left) (rightFits : FitsFraming right) :
    ∃ leftBytes rightBytes, candidateTextMapIdentityBytes quoted left = .ok leftBytes ∧
      candidateTextMapIdentityBytes quoted right = .ok rightBytes ∧
      (leftBytes = rightBytes ↔
        ∀ path content, (path, content) ∈ left.entries ↔ (path, content) ∈ right.entries) := by
  have distinct (blocks : Dict Text Text) : blocks.entries.Nodup := blocks.nodup.of_map
  refine ⟨_, _, identity_bytes_ok quoted left leftFits, identity_bytes_ok quoted right rightFits, ?_⟩
  rw [frame_entries_eq_iff left right leftFits rightFits,
    List.perm_ext_iff_of_nodup (distinct left) (distinct right)]
  exact Prod.forall

def firstThenSecond : Dict Text Text := Dict.ofPairs [(['a'], "<<<END FILE>>>"), (['b'], [])]

def secondThenFirst : Dict Text Text := Dict.ofPairs [(['b'], []), (['a'], "<<<END FILE>>>")]

theorem insertion_order_is_not_framed :
    ∃ bytes, candidateTextMapIdentityBytes id firstThenSecond = .ok bytes ∧
      candidateTextMapIdentityBytes id secondThenFirst = .ok bytes := by
  have fits : FitsFraming firstThenSecond ∧ FitsFraming secondThenFirst :=
    ⟨⟨by decide, by decide, by decide⟩,
      ⟨by decide, by decide, by decide⟩⟩
  rcases candidate_identity_injective id firstThenSecond secondThenFirst fits.1 fits.2 with
    ⟨leftBytes, rightBytes, left, right, same⟩
  have equal : leftBytes = rightBytes := by
    apply same.mpr
    intro path content
    have entries : secondThenFirst.entries = firstThenSecond.entries.reverse := by decide
    rw [entries, List.mem_reverse]
  subst equal
  exact ⟨leftBytes, left, right⟩

end EvoomGuard.Candidate
