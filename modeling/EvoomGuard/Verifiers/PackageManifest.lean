import EvoomGuard.Lib.JsonEquality
import EvoomGuard.Lib.JsonRoundTrip
import EvoomGuard.Lib.Lookup

/-!
`restore_judge_package_json` of `verifiers/harness_policy.py`: the test-runner members and the
judge scripts of a candidate manifest are set back to those of the base. The decoder is an
argument; what `json.dumps(candidate, indent=2, ensure_ascii=False)` writes is a definition, and
the JSON codec reads it back.
-/

namespace EvoomGuard.Verifiers

open Lib Lib.Json

abbrev Fields := List (Text × Json)

def newline (level : Nat) : Text := '\n' :: List.replicate (2 * level) ' '

/-- One value at a level of two blanks each. -/
def dumpsIndented (floatText : Rat → Text) (level : Nat) (value : Json) : Text :=
  JsonCodec.laidOut false floatText newline [' '] level value

def pkgRunnerKeys : List Text :=
  ["jest", "vitest", "mocha", "ava", "c8", "nyc"]

def isJudgeScript (name : Text) : Bool :=
  name == "test" || Text.startsWith name "test:" || name == "pretest" ||
    name == "posttest"

/-- One turn of either loop: the member of the original is set where `get` does not give its
equal, and a member the original lacks is deleted. -/
def restoreMember (original candidate : Fields) (key : Text) : Fields × Bool :=
  match original.lookup key with
  | some value =>
    if alike ((candidate.lookup key).getD .null) value then (candidate, false)
    else (Dict.assign key value candidate, true)
  | none =>
    if (candidate.lookup key).isSome then (Dict.erase key candidate, true) else (candidate, false)

def restoreMembers (original : Fields) : Fields → List Text → Fields × Bool
  | candidate, [] => (candidate, false)
  | candidate, key :: rest =>
    let step := restoreMember original candidate key
    let later := restoreMembers original step.1 rest
    (later.1, step.2 || later.2)

/-- A mapping, and the empty one for anything else. -/
def objectOf : Option Json → Fields
  | some (.object fields) => fields
  | _ => []

def scriptsOf (manifest : Fields) : Fields := objectOf (manifest.lookup "scripts".toList)

structure SetOrder where
  order : List Text → List Text
  perm : ∀ items, (order items).Perm items

def judgeNames (candidate original : Fields) : List Text :=
  ((candidate.map Prod.fst ++ original.map Prod.fst).filter isJudgeScript).dedup

section Restore

variable (names : SetOrder) (floatText : Rat → Text) (loads : Text → Option Json)

/-- The restored members, and whether anything changed. -/
def restoreFields (original candidate : Fields) : Fields × Bool :=
  let runners := restoreMembers original candidate pkgRunnerKeys
  let scripts := restoreMembers (scriptsOf original) (scriptsOf runners.1)
    (names.order (judgeNames (scriptsOf runners.1) (scriptsOf original)))
  (if scripts.2 then Dict.assign "scripts" (.object scripts.1) runners.1 else runners.1,
    runners.2 || scripts.2)

def originalFields (originalText : Option Text) : Fields :=
  match originalText with
  | some text => if text.isEmpty then [] else objectOf (loads text)
  | none => []

def restoreJudgePackageJson (originalText : Option Text) (candidateText : Text) : Text :=
  match loads candidateText with
  | some (.object candidate) =>
    let restored := restoreFields names (originalFields loads originalText) candidate
    if restored.2 then dumpsIndented floatText 0 (.object restored.1) ++ ['\n']
    else candidateText
  | _ => candidateText

end Restore

/-- What either loop leaves under one of its keys. -/
def settled (original candidate : Option Json) : Option Json :=
  match original with
  | some value => if alike (candidate.getD .null) value then candidate else some value
  | none => none

theorem settled_twice (original candidate : Option Json) :
    settled original (settled original candidate) = settled original candidate := by
  cases original with
  | none => rfl
  | some value =>
    by_cases kept : alike (candidate.getD .null) value = true
    · have same : settled (some value) candidate = candidate := if_pos kept
      rw [same, same]
    · have set : settled (some value) candidate = some value := if_neg kept
      rw [set]
      exact ite_self _

/-- Nothing is done for a key. -/
def InPlace (original candidate : Option Json) : Prop :=
  match original with
  | some value => alike (candidate.getD .null) value = true
  | none => candidate = none

theorem quiet_settled {original candidate : Option Json} (quiet : InPlace original candidate) :
    settled original candidate = candidate := by
  cases original with
  | none => exact Eq.symm quiet
  | some value => exact if_pos quiet

variable (original candidate : Fields)

theorem restore_member_lookup (key other : Text) :
    (restoreMember original candidate key).1.lookup other =
      if other = key then settled (original.lookup key) (candidate.lookup key)
      else candidate.lookup other := by
  unfold restoreMember settled
  cases held : original.lookup key with
  | some value =>
    dsimp only
    split_ifs with kept same same
    · rw [same]
    · rfl
    · rw [Dict.lookup_assign, if_pos same]
    · rw [Dict.lookup_assign, if_neg same]
  | none =>
    dsimp only
    split_ifs with present same same
    · rw [Dict.lookup_erase, if_pos same]
    · rw [Dict.lookup_erase, if_neg same]
    · rw [same]
      exact Option.not_isSome_iff_eq_none.mp present
    · rfl

theorem restore_member_quiet (key : Text) :
    (restoreMember original candidate key).2 = false ↔
      InPlace (original.lookup key) (candidate.lookup key) := by
  unfold restoreMember InPlace
  cases held : original.lookup key with
  | some value =>
    dsimp only
    split_ifs with kept
    · simp [kept]
    · simp [kept]
  | none =>
    dsimp only
    split_ifs with present
    · simp only [false_iff]
      intro absent
      rw [absent] at present
      cases present
    · rw [Option.not_isSome_iff_eq_none] at present
      exact ⟨fun _ => present, fun _ => rfl⟩

theorem restore_member_settled (key : Text)
    (done : settled (original.lookup key) (candidate.lookup key) = candidate.lookup key) :
    (restoreMember original candidate key).1 = candidate := by
  unfold settled at done
  unfold restoreMember
  cases held : original.lookup key with
  | some value =>
    rw [held] at done
    dsimp only at done ⊢
    split_ifs at done ⊢ with kept
    · rfl
    · exact Dict.assign_same key value candidate done.symm
  | none =>
    rw [held] at done
    dsimp only at done ⊢
    rw [← done]
    rfl

variable (original : Fields) (keys : List Text)

theorem restore_members_lookup :
    ∀ (candidate : Fields) (key : Text), (restoreMembers original candidate keys).1.lookup key =
      if key ∈ keys then settled (original.lookup key) (candidate.lookup key)
      else candidate.lookup key := by
  induction keys with
  | nil => exact fun _ _ => rfl
  | cons first rest ih =>
    intro candidate key
    rw [restoreMembers]
    dsimp only
    rw [ih, restore_member_lookup]
    by_cases here : key = first
    · subst here
      rw [if_pos rfl, if_pos List.mem_cons_self, settled_twice, ite_self]
    · rw [if_neg here]
      by_cases later : key ∈ rest
      · rw [if_pos later, if_pos (List.mem_cons_of_mem _ later)]
      · rw [if_neg later, if_neg (by simp [here, later])]

theorem restore_members_settled (candidate : Fields)
    (done : ∀ key ∈ keys,
      settled (original.lookup key) (candidate.lookup key) = candidate.lookup key) :
    (restoreMembers original candidate keys).1 = candidate := by
  induction keys with
  | nil => rfl
  | cons first rest ih =>
    rw [restoreMembers]
    dsimp only
    rw [restore_member_settled original candidate first (done first List.mem_cons_self)]
    exact ih fun key inside => done key (List.mem_cons_of_mem _ inside)

theorem restore_members_quiet :
    ∀ candidate, (restoreMembers original candidate keys).2 = false ↔
      ∀ key ∈ keys, InPlace (original.lookup key) (candidate.lookup key) := by
  induction keys with
  | nil => simp [restoreMembers]
  | cons first rest ih =>
    intro candidate
    rw [restoreMembers]
    dsimp only
    rw [Bool.or_eq_false_iff, restore_member_quiet, List.forall_mem_cons]
    constructor
    · intro both
      have same := restore_member_settled original candidate first (quiet_settled both.1)
      rw [same, ih] at both
      exact both
    · intro every
      have same := restore_member_settled original candidate first (quiet_settled every.1)
      rw [same, ih]
      exact every

/-- The scripts after the second loop, and whether it changed one. -/
def restoredScripts (names : SetOrder) (original candidate : Fields) : Fields × Bool :=
  restoreMembers (scriptsOf original) (scriptsOf candidate)
    (names.order (judgeNames (scriptsOf candidate) (scriptsOf original)))

section Fields

variable (names : SetOrder) (original candidate : Fields)

theorem mem_judge_names (name : Text) :
    name ∈ names.order (judgeNames candidate original) ↔ isJudgeScript name = true ∧
      (name ∈ candidate.map Prod.fst ∨ name ∈ original.map Prod.fst) := by
  rw [(names.perm _).mem_iff, judgeNames, List.mem_dedup, List.mem_filter, List.mem_append,
    and_comm]

theorem scripts_of_runners :
    scriptsOf (restoreMembers original candidate pkgRunnerKeys).1 = scriptsOf candidate := by
  rw [scriptsOf, restore_members_lookup, if_neg (by decide)]
  rfl

theorem restore_fields_eq :
    restoreFields names original candidate =
      (if (restoredScripts names original candidate).2 then
          Dict.assign "scripts".toList (.object (restoredScripts names original candidate).1)
            (restoreMembers original candidate pkgRunnerKeys).1
        else (restoreMembers original candidate pkgRunnerKeys).1,
        (restoreMembers original candidate pkgRunnerKeys).2 ||
          (restoredScripts names original candidate).2) := by
  unfold restoreFields restoredScripts
  dsimp only
  rw [scripts_of_runners]

theorem restored_scripts_lookup (name : Text) :
    (restoredScripts names original candidate).1.lookup name =
      if isJudgeScript name then
        settled ((scriptsOf original).lookup name) ((scriptsOf candidate).lookup name)
      else (scriptsOf candidate).lookup name := by
  rw [restoredScripts, restore_members_lookup]
  by_cases judge : isJudgeScript name = true
  · rw [if_pos judge]
    split_ifs with inside
    · rfl
    · rw [mem_judge_names] at inside
      push Not at inside
      have absent := inside judge
      rw [lookup_absent _ _ absent.1, lookup_absent _ _ absent.2]
      rfl
  · rw [if_neg judge, if_neg]
    intro inside
    exact judge ((mem_judge_names names _ _ name).mp inside).1

theorem restored_scripts_quiet :
    (restoredScripts names original candidate).2 = false ↔ ∀ name, isJudgeScript name = true →
      InPlace ((scriptsOf original).lookup name) ((scriptsOf candidate).lookup name) := by
  rw [restoredScripts, restore_members_quiet]
  constructor
  · intro every name judge
    by_cases inside : name ∈ names.order (judgeNames (scriptsOf candidate) (scriptsOf original))
    · exact every name inside
    · rw [mem_judge_names] at inside
      push Not at inside
      have absent := inside judge
      rw [lookup_absent _ _ absent.1, lookup_absent _ _ absent.2]
      exact rfl
  · intro every name inside
    exact every name ((mem_judge_names names _ _ name).mp inside).1

theorem restored_scripts_unchanged (quiet : (restoredScripts names original candidate).2 = false) :
    (restoredScripts names original candidate).1 = scriptsOf candidate := by
  rw [restoredScripts, restore_members_quiet] at quiet
  exact restore_members_settled _ _ _ fun name inside => quiet_settled (quiet name inside)

theorem restore_fields_scripts :
    scriptsOf (restoreFields names original candidate).1 =
      (restoredScripts names original candidate).1 := by
  rw [restore_fields_eq]
  dsimp only
  cases changed : (restoredScripts names original candidate).2 with
  | true =>
    rw [if_pos rfl, scriptsOf, Dict.lookup_assign, if_pos rfl]
    rfl
  | false =>
    rw [if_neg Bool.false_ne_true, scripts_of_runners,
      restored_scripts_unchanged names original candidate changed]

theorem restore_fields_lookup (key : Text) (other : key ≠ "scripts") :
    (restoreFields names original candidate).1.lookup key =
      if key ∈ pkgRunnerKeys then settled (original.lookup key) (candidate.lookup key)
      else candidate.lookup key := by
  rw [restore_fields_eq, ← restore_members_lookup]
  dsimp only
  split_ifs
  · rw [Dict.lookup_assign, if_neg other]
  · rfl

theorem restore_fields_scripts_member :
    (restoreFields names original candidate).1.lookup "scripts".toList =
        candidate.lookup "scripts".toList ∨
      ∃ fields, (restoreFields names original candidate).1.lookup "scripts".toList =
        some (.object fields) := by
  rw [restore_fields_eq]
  dsimp only
  split_ifs
  · rw [Dict.lookup_assign, if_pos rfl]
    exact Or.inr ⟨_, rfl⟩
  · rw [restore_members_lookup, if_neg (by decide)]
    exact Or.inl rfl

theorem restore_fields_quiet :
    (restoreFields names original candidate).2 = false ↔
      (∀ key ∈ pkgRunnerKeys, InPlace (original.lookup key) (candidate.lookup key)) ∧
        ∀ name, isJudgeScript name = true →
          InPlace ((scriptsOf original).lookup name) ((scriptsOf candidate).lookup name) := by
  rw [restore_fields_eq]
  dsimp only
  rw [Bool.or_eq_false_iff, restore_members_quiet, restored_scripts_quiet]

theorem restore_fields_unchanged (quiet : (restoreFields names original candidate).2 = false) :
    (restoreFields names original candidate).1 = candidate := by
  have parts := (restore_fields_quiet names original candidate).mp quiet
  have scripts := (restored_scripts_quiet names original candidate).mpr parts.2
  rw [restore_fields_eq]
  dsimp only
  rw [scripts, if_neg Bool.false_ne_true]
  exact restore_members_settled _ _ _ fun key inside => quiet_settled (parts.1 key inside)

theorem restore_fields_twice (others : SetOrder) :
    (restoreFields others original (restoreFields names original candidate).1).1 =
      (restoreFields names original candidate).1 := by
  have scripts := restore_fields_scripts names original candidate
  have members := restore_fields_lookup names original candidate
  generalize (restoreFields names original candidate).1 = restored at scripts members
  have runners : (restoreMembers original restored pkgRunnerKeys).1 = restored := by
    apply restore_members_settled
    intro key inside
    have other : key ≠ "scripts" := by
      intro same
      rw [same] at inside
      exact absurd inside (by decide)
    rw [members key other, if_pos inside, settled_twice]
  have judge : ∀ name, isJudgeScript name = true →
      settled ((scriptsOf original).lookup name) ((scriptsOf restored).lookup name) =
        (scriptsOf restored).lookup name := by
    intro name judge
    rw [scripts, restored_scripts_lookup, if_pos judge, settled_twice]
  have kept : (restoredScripts others original restored).1 = scriptsOf restored := by
    apply restore_members_settled
    intro name inside
    exact judge name ((mem_judge_names others _ _ name).mp inside).1
  rw [restore_fields_eq]
  dsimp only
  rw [runners, kept]
  split_ifs with changed
  · apply Dict.assign_same
    -- A change needs a script, and scripts are those of a member that is an object.
    by_contra missing
    have empty : scriptsOf restored = [] := by
      unfold scriptsOf objectOf at missing ⊢
      split
      · rename_i fields held
        rw [held] at missing
        exact absurd rfl missing
      · rfl
    have quiet : (restoredScripts others original restored).2 = false := by
      rw [restored_scripts_quiet]
      intro name named
      have done := judge name named
      rw [empty, List.lookup_nil] at done ⊢
      unfold settled at done
      unfold InPlace
      cases held : (scriptsOf original).lookup name with
      | none => rfl
      | some value =>
        rw [held] at done
        dsimp only at done ⊢
        by_contra apart
        rw [if_neg apart] at done
        cases done
    rw [quiet] at changed
    cases changed
  · rfl

end Fields

/-- Both absent, or the same value up to the order of its members. -/
def SameMember (left right : Option Json) : Prop :=
  left.map JsonCodec.sortKeys = right.map JsonCodec.sortKeys

/-- The judged members of the original, and the candidate's otherwise. -/
structure JudgeRestored (original candidate restored : Fields) : Prop where
  runners : ∀ key ∈ pkgRunnerKeys, SameMember (restored.lookup key) (original.lookup key)
  scripts : ∀ name, isJudgeScript name = true →
    SameMember ((scriptsOf restored).lookup name) ((scriptsOf original).lookup name)
  otherMembers : ∀ key, key ∉ pkgRunnerKeys → key ≠ "scripts" →
    restored.lookup key = candidate.lookup key
  otherScripts : ∀ name, isJudgeScript name = false →
    (scriptsOf restored).lookup name = (scriptsOf candidate).lookup name
  scriptsMember : restored.lookup "scripts".toList = candidate.lookup "scripts".toList ∨
    ∃ fields, restored.lookup "scripts".toList = some (.object fields)

/-- What the candidate has in the place of a member of the original is the same value whenever it
compares equal to it. -/
def AlikeIsSame (original candidate : Option Json) : Prop :=
  ∀ value, original = some value → alike (candidate.getD .null) value = true →
    SameMember candidate original

theorem settled_same_iff (original candidate : Option Json) :
    SameMember (settled original candidate) original ↔ AlikeIsSame original candidate := by
  unfold AlikeIsSame
  cases original with
  | none =>
    constructor
    · intro _ value impossible
      cases impossible
    · intro _
      rfl
  | some value =>
    rw [settled]
    split_ifs with kept
    · constructor
      · intro same other _ _
        exact same
      · intro every
        exact every value rfl kept
    · constructor
      · intro _ other held equal
        cases held
        exact absurd equal kept
      · intro _
        rfl

theorem judge_restored_iff (names : SetOrder) (original candidate : Fields) :
    JudgeRestored original candidate (restoreFields names original candidate).1 ↔
      (∀ key ∈ pkgRunnerKeys, AlikeIsSame (original.lookup key) (candidate.lookup key)) ∧
        ∀ name, isJudgeScript name = true →
          AlikeIsSame ((scriptsOf original).lookup name) ((scriptsOf candidate).lookup name) := by
  have runner (key : Text) (inside : key ∈ pkgRunnerKeys) :
      (restoreFields names original candidate).1.lookup key =
        settled (original.lookup key) (candidate.lookup key) := by
    rw [restore_fields_lookup, if_pos inside]
    intro same
    rw [same] at inside
    exact absurd inside (by decide)
  have script (name : Text) (judge : isJudgeScript name = true) :
      (scriptsOf (restoreFields names original candidate).1).lookup name =
        settled ((scriptsOf original).lookup name) ((scriptsOf candidate).lookup name) := by
    rw [restore_fields_scripts, restored_scripts_lookup, if_pos judge]
  constructor
  · intro restored
    constructor
    · intro key inside
      rw [← settled_same_iff, ← runner key inside]
      exact restored.runners key inside
    · intro name judge
      rw [← settled_same_iff, ← script name judge]
      exact restored.scripts name judge
  · intro alike_same
    constructor
    · intro key inside
      rw [runner key inside, settled_same_iff]
      exact alike_same.1 key inside
    · intro name judge
      rw [script name judge, settled_same_iff]
      exact alike_same.2 name judge
    · intro key outside other
      rw [restore_fields_lookup names original candidate key other, if_neg outside]
    · intro name other
      rw [restore_fields_scripts, restored_scripts_lookup, if_neg (ne_true_of_eq_false other)]
    · exact restore_fields_scripts_member names original candidate

section ReadsBack

open Lib.JsonCodec

variable {fits : Int → Bool}

theorem restore_member_plain {original candidate : Fields}
    (plainOriginal : plain fits (.object original) = true)
    (plainCandidate : plain fits (.object candidate) = true) (key : Text) :
    plain fits (.object (restoreMember original candidate key).1) = true := by
  rw [plain_object_iff] at plainOriginal plainCandidate ⊢
  constructor
  · unfold restoreMember
    cases original.lookup key with
    | some value =>
      dsimp only
      split_ifs
      · exact plainCandidate.1
      · exact Dict.assign_nodup _ _ _ plainCandidate.1
    | none =>
      dsimp only
      split_ifs
      · exact plainCandidate.1.sublist (List.filter_sublist.map Prod.fst)
      · exact plainCandidate.1
  · intro other value found
    rw [restore_member_lookup] at found
    split_ifs at found
    · unfold settled at found
      cases held : original.lookup key with
      | some kept =>
        rw [held] at found
        dsimp only at found
        split_ifs at found
        · exact plainCandidate.2 key value found
        · exact plainOriginal.2 key value (held.trans found)
      | none =>
        rw [held] at found
        cases found
    · exact plainCandidate.2 other value found

theorem restore_members_plain {original : Fields}
    (plainOriginal : plain fits (.object original) = true) (keys : List Text) :
    ∀ candidate, plain fits (.object candidate) = true →
      plain fits (.object (restoreMembers original candidate keys).1) = true := by
  induction keys with
  | nil => exact fun _ plainCandidate => plainCandidate
  | cons first rest ih =>
    intro candidate plainCandidate
    exact ih _ (restore_member_plain plainOriginal plainCandidate first)

theorem scripts_plain {manifest : Fields} (kept : plain fits (.object manifest) = true) :
    plain fits (.object (scriptsOf manifest)) = true := by
  unfold scriptsOf objectOf
  split
  · next found => exact (plain_object_iff.mp kept).2 _ _ found
  · rfl

/-- `json.loads` gives the restored members back from the text that is written. -/
theorem restored_reads_back {hooks : NumberHooks} {original candidate : Fields}
    (numbers : ∀ value, fits value = true → hooks.parseInt (intText value) = .ok value)
    (plainOriginal : plain fits (.object original) = true)
    (plainCandidate : plain fits (.object candidate) = true) (names : SetOrder)
    (floatText : Rat → Text) :
    JsonCodec.loads hooks (dumpsIndented floatText 0
        (.object (restoreFields names original candidate).1) ++ ['\n']) =
      .ok (.object (restoreFields names original candidate).1) := by
  have blanks (level : Nat) : (newline level).all isBlank = true := by
    simp [newline, isBlank]
  apply loads_laid_out ⟨blanks, rfl⟩ numbers 0 _ _ _ rfl
  have runners := restore_members_plain plainOriginal pkgRunnerKeys candidate plainCandidate
  have scripts := restore_members_plain (scripts_plain plainOriginal)
    (names.order (judgeNames (scriptsOf candidate) (scriptsOf original))) _
    (scripts_plain plainCandidate)
  rw [restore_fields_eq]
  dsimp only
  split_ifs
  · rw [plain_object_iff] at runners ⊢
    refine ⟨Dict.assign_nodup _ _ _ runners.1, fun key value found => ?_⟩
    rw [Dict.lookup_assign] at found
    split_ifs at found
    · cases found
      exact scripts
    · exact runners.2 key value found
  · exact runners

end ReadsBack

section Text

variable (names others : SetOrder) (floatText : Rat → Text) (loads : Text → Option Json)
  {originalText candidateText : Text} {original candidate : Fields}

section

variable (empty : loads [] = none) (readOriginal : loads originalText = some (.object original))
  (readCandidate : loads candidateText = some (.object candidate))
include empty readCandidate readOriginal

theorem restore_text_eq :
    restoreJudgePackageJson names floatText loads (some originalText) candidateText =
      if (restoreFields names original candidate).2 then
        dumpsIndented floatText 0 (.object (restoreFields names original candidate).1) ++ ['\n']
      else candidateText := by
  have base : originalFields loads (some originalText) = original := by
    cases originalText with
    | nil =>
      rw [empty] at readOriginal
      cases readOriginal
    | cons first rest =>
      unfold originalFields
      dsimp only
      rw [if_neg (by simp), readOriginal]
      rfl
  unfold restoreJudgePackageJson
  rw [readCandidate]
  dsimp only
  rw [base]

/-- The restored text, and a second restoration of it. -/
theorem restore_judge_package_json_iff (readsBack : loads (dumpsIndented floatText 0
        (.object (restoreFields names original candidate).1) ++ ['\n']) =
      some (.object (restoreFields names original candidate).1)) :
    ((∃ restored, loads (restoreJudgePackageJson names floatText loads (some originalText)
          candidateText) = some (.object restored) ∧ JudgeRestored original candidate restored) ∧
        restoreJudgePackageJson others floatText loads (some originalText)
            (restoreJudgePackageJson names floatText loads (some originalText) candidateText) =
          restoreJudgePackageJson names floatText loads (some originalText) candidateText) ↔
      (∀ key ∈ pkgRunnerKeys, AlikeIsSame (original.lookup key) (candidate.lookup key)) ∧
        ∀ name, isJudgeScript name = true →
          AlikeIsSame ((scriptsOf original).lookup name) ((scriptsOf candidate).lookup name) := by
  have written := restore_text_eq names floatText loads empty readOriginal readCandidate
  have read : loads (restoreJudgePackageJson names floatText loads (some originalText)
      candidateText) = some (.object (restoreFields names original candidate).1) := by
    rw [written]
    split_ifs with changed
    · exact readsBack
    · rw [restore_fields_unchanged names original candidate (Bool.not_eq_true _ ▸ changed)]
      exact readCandidate
  have again := restore_text_eq others floatText loads empty readOriginal read
  have twice : restoreJudgePackageJson others floatText loads (some originalText)
      (restoreJudgePackageJson names floatText loads (some originalText) candidateText) =
        restoreJudgePackageJson names floatText loads (some originalText) candidateText := by
    rw [again, restore_fields_twice]
    split_ifs with changed
    · rw [written]
      split_ifs with before
      · rfl
      · -- Nothing changed at first, and nothing does in any other order.
        have quiet := Bool.not_eq_true _ ▸ before
        rw [restore_fields_unchanged names original candidate quiet] at changed
        rw [(restore_fields_quiet others original candidate).mpr
          ((restore_fields_quiet names original candidate).mp quiet)] at changed
        cases changed
    · rfl
  rw [← judge_restored_iff names original candidate]
  constructor
  · intro promised
    obtain ⟨⟨restored, found, holds⟩, _⟩ := promised
    rw [read, Option.some.injEq, Json.object.injEq] at found
    rw [found]
    exact holds
  · intro holds
    exact ⟨⟨_, read, holds⟩, twice⟩

end

end Text

def numberedBail : Fields := [("jest", .object [("bail", .int 1)])]

def flaggedBail : Fields := [("jest", .object [("bail", .bool true)])]

def numberedText : Text := "\x7b\"jest\": \x7b\"bail\": 1\x7d\x7d"

def flaggedText : Text := "\x7b\"jest\": \x7b\"bail\": true\x7d\x7d"

/-- The decoder where every integer is read. -/
def manifestHooks : JsonCodec.NumberHooks :=
  ⟨fun text => .ok (JsonCodec.intValue text), fun _ => .error []⟩

def manifestLoads (text : Text) : Option Json := (JsonCodec.loads manifestHooks text).toOption

def listed : SetOrder := ⟨id, fun _ => List.Perm.refl _⟩

theorem restore_missing_runner :
    (∃ restored, manifestLoads (restoreJudgePackageJson listed (fun _ => []) manifestLoads
          (some numberedText) "\x7b\x7d") = some (.object restored) ∧
        JudgeRestored numberedBail [] restored) ∧
      restoreJudgePackageJson listed (fun _ => []) manifestLoads (some numberedText)
          (restoreJudgePackageJson listed (fun _ => []) manifestLoads (some numberedText)
            "\x7b\x7d") =
        restoreJudgePackageJson listed (fun _ => []) manifestLoads (some numberedText)
          "\x7b\x7d" := by
  have back := @restored_reads_back (fun _ => true) manifestHooks numberedBail []
    (fun value _ => congrArg Except.ok (JsonCodec.int_value_text value)) rfl rfl listed fun _ => []
  apply (restore_judge_package_json_iff listed listed (fun _ => []) manifestLoads (by decide)
    (by decide +kernel) (by decide +kernel) (congrArg Except.toOption back)).mpr
  constructor
  · intro key _ value held equal
    have inside := List.mem_singleton.mp (mem_of_lookup_eq numberedBail key value held)
    rw [Prod.mk.injEq] at inside
    rw [inside.2] at equal
    cases equal
  · intro name _ value held _
    cases held

/-- A flag that compares equal to a number of the original is not set back. -/
theorem flag_kept_for_number : ¬∀ (names others : SetOrder) (floatText : Rat → Text)
    (loads : Text → Option Json) (originalText candidateText : Text) (original candidate : Fields),
    loads [] = none → loads originalText = some (.object original) →
      loads candidateText = some (.object candidate) →
      loads (dumpsIndented floatText 0 (.object (restoreFields names original candidate).1) ++
          ['\n']) = some (.object (restoreFields names original candidate).1) →
      (∃ restored, loads (restoreJudgePackageJson names floatText loads (some originalText)
            candidateText) = some (.object restored) ∧ JudgeRestored original candidate restored) ∧
        restoreJudgePackageJson others floatText loads (some originalText)
            (restoreJudgePackageJson names floatText loads (some originalText) candidateText) =
          restoreJudgePackageJson names floatText loads (some originalText) candidateText := by
  intro every
  obtain ⟨⟨restored, found, promised⟩, _⟩ := every listed listed (fun _ => []) manifestLoads
    numberedText flaggedText numberedBail flaggedBail (by decide) (by decide +kernel)
    (by decide +kernel) (by decide +kernel)
  have kept : manifestLoads (restoreJudgePackageJson listed (fun _ => []) manifestLoads
      (some numberedText) flaggedText) = some (.object flaggedBail) := by decide +kernel
  rw [kept, Option.some.injEq, Json.object.injEq] at found
  have runner := promised.runners "jest" (by decide)
  rw [← found] at runner
  unfold SameMember at runner
  exact absurd runner (by decide)

end EvoomGuard.Verifiers
