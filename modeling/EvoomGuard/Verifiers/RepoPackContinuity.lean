import EvoomGuard.Finalizer.PackIdentity

/-!
The checkpoints of `verifiers/repo_pack_continuity.py` around the execution of an accepted verifier
pack. What lies at the snapshot when it is looked at is an argument of the call; an exception of
the provider that is no `PackManifestError` is one, too.
-/

namespace EvoomGuard.Verifiers

open Lib Lib.Framing PackManifest Finalizer

abbrev RepoPackIdentity := Text × Option (List (Text × Json))

inductive PackCheckpoint where
  | beforeExecution
  | afterExecution
  deriving DecidableEq

inductive PackContinuityPhase where
  | accepted
  | preExecutionVerified
  | delivered
  | failed
  deriving DecidableEq

structure RepoPackContinuityFailure where
  checkpoint : PackCheckpoint
  diagnostics : Text

/-- What the snapshot provider finds. -/
inductive Found (Raised : Type) where
  | pack (pack : Pack)
  | raised (error : Raised)

inductive PackVerification (Raised : Type) where
  | returned (failure : Option RepoPackContinuityFailure)
  | raised (error : Raised)
  | wrongPhase (message : Text)

structure RepoPackContinuity (Raised : Type) where
  snapshot : Text
  identity : RepoPackIdentity
  phase : PackContinuityPhase := .accepted
  failure : Option RepoPackContinuityFailure := none
  providerFailure : Option Raised := none
  -- The looks at the snapshot, which the source does not keep.
  looks : List (PackCheckpoint × Found Raised) := []

def PackContinuityPhase.text : PackContinuityPhase → Text
  | .accepted => "accepted"
  | .preExecutionVerified => "pre_execution_verified"
  | .delivered => "delivered"
  | .failed => "failed"

namespace PackCheckpoint

def expectedPhase : PackCheckpoint → PackContinuityPhase
  | beforeExecution => .accepted
  | afterExecution => .preExecutionVerified

def deliveredPhase : PackCheckpoint → PackContinuityPhase
  | beforeExecution => .preExecutionVerified
  | afterExecution => .delivered

def operation : PackCheckpoint → Text
  | beforeExecution => "verify before execution"
  | afterExecution => "verify after execution"

def diagnosticsPrefix : PackCheckpoint → Text
  | beforeExecution => "verifier pack was changed before execution"
  | afterExecution => "verifier pack changed while executing"

end PackCheckpoint

section Verify

variable (quoted : Text → Text) (decode : ByteArray → Except Text Json)

def verifyPackSnapshot (snapshot : Text) (pack : Pack) (expected : RepoPackIdentity) :
    Except Text Unit :=
  match digestAndManifest quoted decode pack with
  | .error problem => .error (problem.text quoted snapshot)
  | .ok observed =>
    if observed ≠ expected then
      .error ("verifier pack snapshot changed after it was accepted; " ++
        "refusing unbound results").toList
    else .ok ()

theorem verify_pack_snapshot_ok_iff (snapshot : Text) (pack : Pack) (expected : RepoPackIdentity) :
    verifyPackSnapshot quoted decode snapshot pack expected = .ok () ↔
      digestAndManifest quoted decode pack = .ok expected := by
  unfold verifyPackSnapshot
  cases digestAndManifest quoted decode pack with
  | error problem => exact ⟨(fun ok => nomatch ok), fun ok => nomatch ok⟩
  | ok observed =>
    dsimp only
    split
    · next other => exact ⟨(fun ok => nomatch ok), fun ok => absurd (Except.ok.inj ok) other⟩
    · next same => exact ⟨fun _ => congrArg _ (not_not.mp same), fun _ => rfl⟩

variable {Raised : Type}

namespace RepoPackContinuity

def wrongPhase (state : RepoPackContinuity Raised) (checkpoint : PackCheckpoint) : Text :=
  "repository pack continuity cannot " ++ checkpoint.operation ++ " from phase " ++
    quoted state.phase.text ++ "; expected " ++ quoted checkpoint.expectedPhase.text

/-- `_verify`, with the texts of a checkpoint. -/
def verify (state : RepoPackContinuity Raised) (checkpoint : PackCheckpoint)
    (found : Found Raised) : RepoPackContinuity Raised × PackVerification Raised :=
  match state.failure, state.providerFailure with
  | some failure, _ => (state, .returned (some failure))
  | none, some error => (state, .raised error)
  | none, none =>
    if state.phase ≠ checkpoint.expectedPhase then
      (state, .wrongPhase (wrongPhase quoted state checkpoint))
    else
      let looked := { state with looks := state.looks ++ [(checkpoint, found)] }
      match found with
      | .raised error =>
        ({ looked with providerFailure := some error, phase := .failed }, .raised error)
      | .pack pack =>
        match verifyPackSnapshot quoted decode state.snapshot pack state.identity with
        | .error text =>
          let failure := ⟨checkpoint, checkpoint.diagnosticsPrefix ++ ": " ++ text⟩
          ({ looked with failure := some failure, phase := .failed }, .returned (some failure))
        | .ok () => ({ looked with phase := checkpoint.deliveredPhase }, .returned none)

def run (state : RepoPackContinuity Raised) (calls : List (PackCheckpoint × Found Raised)) :
    RepoPackContinuity Raised :=
  calls.foldl (fun state call => (verify quoted decode state call.1 call.2).1) state

/-- A look that found the accepted identity. -/
def Accepts (identity : RepoPackIdentity) : PackCheckpoint × Found Raised → Prop
  | (_, .pack pack) => digestAndManifest quoted decode pack = .ok identity
  | (_, .raised _) => False

/-- The looks of a state, by its phase: each checkpoint in its turn, and nothing after the first
look that did not find the accepted identity. -/
def Standing (identity : RepoPackIdentity) (state : RepoPackContinuity Raised) : Prop :=
  state.identity = identity ∧ match state.phase with
    | .accepted => state.looks = [] ∧ state.failure = none ∧ state.providerFailure = none
    | .preExecutionVerified => state.looks.map Prod.fst = [.beforeExecution] ∧
        (∀ look ∈ state.looks, Accepts quoted decode identity look) ∧
        state.failure = none ∧ state.providerFailure = none
    | .delivered => state.looks.map Prod.fst = [.beforeExecution, .afterExecution] ∧
        (∀ look ∈ state.looks, Accepts quoted decode identity look) ∧
        state.failure = none ∧ state.providerFailure = none
    | .failed => (∃ earlier look, state.looks = earlier ++ [look] ∧ earlier.length ≤ 1 ∧
          (∀ found ∈ earlier, Accepts quoted decode identity found) ∧
          ¬Accepts quoted decode identity look) ∧
        (state.failure.isSome = true ∨ state.providerFailure.isSome = true)

variable {quoted decode} {identity : RepoPackIdentity} {state : RepoPackContinuity Raised}

theorem standing_verify (standing : Standing quoted decode identity state)
    (checkpoint : PackCheckpoint) (found : Found Raised) :
    Standing quoted decode identity (verify quoted decode state checkpoint found).1 := by
  unfold verify
  split
  · exact standing
  · exact standing
  · next unfailed unraised =>
    split
    · exact standing
    · next expected =>
      rw [not_not] at expected
      obtain ⟨rfl, standing⟩ := standing
      have before : state.looks.length ≤ 1 ∧
          (∀ look ∈ state.looks, Accepts quoted decode state.identity look) ∧
          state.looks.map Prod.fst ++ [checkpoint] =
            (match checkpoint with
              | .beforeExecution => [.beforeExecution]
              | .afterExecution => [.beforeExecution, .afterExecution]) := by
        rw [expected] at standing
        cases checkpoint with
        | beforeExecution => simp [standing.1]
        | afterExecution =>
          obtain ⟨names, each, _⟩ := standing
          have one : state.looks.length = 1 := by simpa using congrArg List.length names
          exact ⟨one.le, each, by rw [names]; rfl⟩
      obtain ⟨few, each, names⟩ := before
      cases found with
      | raised error => exact ⟨rfl, ⟨_, _, rfl, few, each, id⟩, .inr rfl⟩
      | pack pack =>
        have accepts := verify_pack_snapshot_ok_iff quoted decode state.snapshot pack state.identity
        dsimp only
        split
        · next text problem =>
          rw [problem] at accepts
          exact ⟨rfl, ⟨_, _, rfl, few, each, fun ok => nomatch accepts.mpr ok⟩, .inl rfl⟩
        · next ok =>
          have all : ∀ look ∈ state.looks ++ [(checkpoint, .pack pack)],
              Accepts quoted decode state.identity look :=
            List.forall_mem_append.mpr ⟨each, List.forall_mem_singleton.mpr (accepts.mp ok)⟩
          cases checkpoint <;>
            exact ⟨rfl, (List.map_append ..).trans names, all, unfailed, unraised⟩

theorem standing_run (standing : Standing quoted decode identity state)
    (calls : List (PackCheckpoint × Found Raised)) :
    Standing quoted decode identity (run quoted decode state calls) := by
  induction calls generalizing state with
  | nil => exact standing
  | cons call rest ih => exact ih (standing_verify standing call.1 call.2)

theorem run_failed (standing : Standing quoted decode identity state)
    (failed : state.phase = .failed) (calls : List (PackCheckpoint × Found Raised)) :
    run quoted decode state calls = state := by
  obtain ⟨_, standing⟩ := standing
  rw [failed] at standing
  have still (call : PackCheckpoint × Found Raised) :
      (verify quoted decode state call.1 call.2).1 = state := by
    unfold verify
    split
    · rfl
    · rfl
    · next unfailed unraised => simp [unfailed, unraised] at standing
  induction calls with
  | nil => rfl
  | cons call rest ih => exact (congrArg (run quoted decode · rest) (still call)).trans ih

end RepoPackContinuity

variable {quoted decode}

theorem hash_pack_files_inversion {files : List (Text × ByteArray)} {total : Nat} {hashed : Bytes}
    (ok : hashPackFiles total files = .ok hashed) :
    hashed = records fileRecord files ∧ ∀ file ∈ files, file.2.size ≤ maxPackFileBytes := by
  induction files generalizing total hashed with
  | nil =>
    cases ok
    exact ⟨rfl, fun _ inside => nomatch inside⟩
  | cons file rest ih =>
    unfold hashPackFiles at ok
    split_ifs at ok with large
    cases later : hashPackFiles (total + file.2.size) rest with
    | error problem =>
      rw [later] at ok
      cases ok
    | ok bytes =>
      rw [later] at ok
      cases ok
      obtain ⟨rfl, small⟩ := ih later
      exact ⟨rfl, List.forall_mem_cons.mpr ⟨Nat.not_lt.mp large, small⟩⟩

theorem digested_inventory {pack : Pack} {bytes : Bytes} {manifest : Option (List (Text × Json))}
    (digested : digestedBytesAndManifest quoted decode pack = .ok (bytes, manifest)) :
    ∃ inventory, packInventory pack = .ok inventory ∧
      bytes = packStream inventory.directories inventory.files ∧
      ∀ file ∈ inventory.files, file.2.size ≤ maxPackFileBytes := by
  unfold digestedBytesAndManifest at digested
  cases found : packInventory pack with
  | error problem =>
    rw [found] at digested
    cases digested
  | ok inventory =>
    rw [found] at digested
    dsimp only at digested
    split_ifs at digested
    unfold inventoryBytes at digested
    cases hashed : hashPackFiles 0 inventory.files with
    | error problem =>
      rw [hashed] at digested
      cases digested
    | ok files =>
      rw [hashed] at digested
      dsimp only at digested
      split at digested
      · cases digested
      · cases digested
        obtain ⟨rfl, small⟩ := hash_pack_files_inversion hashed
        exact ⟨inventory, rfl, rfl, small⟩

def PathsFramed (pack : Pack) : Prop :=
  ∀ inventory, packInventory pack = .ok inventory →
    (∀ rel ∈ inventory.directories, FramedDirectory rel) ∧
      ∀ file ∈ inventory.files, (utf8 file.1).length < 2 ^ 64

/-- The two packs have the same directories, and the same files with the same bytes. -/
def SameInventory (first second : Pack) : Prop :=
  ∃ left right, packInventory first = .ok left ∧ packInventory second = .ok right ∧
    left.directories = right.directories ∧ left.files = right.files

variable (quoted decode) in
def PacksCollide (first second : Pack) : Prop :=
  ∃ left right, (digestedBytesAndManifest quoted decode first).map Prod.fst = .ok left ∧
    (digestedBytesAndManifest quoted decode second).map Prod.fst = .ok right ∧
    left ≠ right ∧ Sha256.hexdigestBytes left = Sha256.hexdigestBytes right

theorem same_inventory_of_identity {first second : Pack} {identity : RepoPackIdentity}
    (left : digestAndManifest quoted decode first = .ok identity)
    (right : digestAndManifest quoted decode second = .ok identity)
    (framed : PathsFramed first) (alsoFramed : PathsFramed second) :
    SameInventory first second ∨ PacksCollide quoted decode first second := by
  unfold digestAndManifest at left right
  cases one : digestedBytesAndManifest quoted decode first with
  | error problem =>
    rw [one] at left
    cases left
  | ok found =>
    cases other : digestedBytesAndManifest quoted decode second with
    | error problem =>
      rw [other] at right
      cases right
    | ok again =>
      rw [one] at left
      rw [other] at right
      cases left
      have digests : Sha256.hexdigestBytes again.1 = Sha256.hexdigestBytes found.1 :=
        congrArg Prod.fst (Except.ok.inj right)
      by_cases same : found.1 = again.1
      · obtain ⟨mine, held, stream, small⟩ := digested_inventory one
        obtain ⟨others, alsoHeld, otherStream, otherSmall⟩ := digested_inventory other
        have framing (inventory : Inventory)
            (named : ∀ file ∈ inventory.files, (utf8 file.1).length < 2 ^ 64)
            (bounded : ∀ file ∈ inventory.files, file.2.size ≤ maxPackFileBytes) :
            ∀ file ∈ inventory.files, FramedFile file := by
          intro file inside
          have size := bounded file inside
          rw [maxPackFileBytes] at size
          exact ⟨named file inside, by omega⟩
        have equal := pack_stream_inj _ _ _ _ (framed mine held).1 (alsoFramed others alsoHeld).1
          (framing mine (framed mine held).2 small)
          (framing others (alsoFramed others alsoHeld).2 otherSmall)
          (by rw [← stream, ← otherStream, same])
        exact .inl ⟨mine, others, held, alsoHeld, equal.1, equal.2⟩
      · exact .inr ⟨found.1, again.1, by rw [one]; rfl, by rw [other]; rfl, same, digests.symm⟩

/-- In every order of calls each checkpoint is looked at once at most and in its turn, and a
failure is the last word. Delivered is only a pack whose snapshot had the accepted identity before
and after the execution: the files and bytes of any pack of that identity, unless two digests
collide. -/
theorem delivered_pack_is_accepted (quoted : Text → Text) (decode : ByteArray → Except Text Json)
    (snapshot : Text) (identity : RepoPackIdentity) (calls : List (PackCheckpoint × Found Raised)) :
    let ended := RepoPackContinuity.run quoted decode
      ⟨snapshot, identity, .accepted, none, none, []⟩ calls
    ended.Standing quoted decode identity ∧
      (ended.phase = .failed → ∀ later, ended.run quoted decode later = ended) ∧
      (ended.phase = .delivered → ∃ before after,
        ended.looks = [(.beforeExecution, .pack before), (.afterExecution, .pack after)] ∧
        ∀ executed, executed = before ∨ executed = after →
          digestAndManifest quoted decode executed = .ok identity ∧
          ∀ accepted, digestAndManifest quoted decode accepted = .ok identity →
            PathsFramed accepted → PathsFramed executed →
            SameInventory accepted executed ∨ PacksCollide quoted decode accepted executed) := by
  have start : RepoPackContinuity.Standing quoted decode identity
      (⟨snapshot, identity, .accepted, none, none, []⟩ : RepoPackContinuity Raised) :=
    ⟨rfl, rfl, rfl, rfl⟩
  have standing := RepoPackContinuity.standing_run start calls
  refine ⟨standing, fun failed later => RepoPackContinuity.run_failed standing failed later, ?_⟩
  intro delivered
  obtain ⟨_, standing⟩ := standing
  rw [delivered] at standing
  obtain ⟨names, each, _⟩ := standing
  have bound (executed : Pack) (taken : digestAndManifest quoted decode executed = .ok identity) :
      digestAndManifest quoted decode executed = .ok identity ∧
        ∀ accepted, digestAndManifest quoted decode accepted = .ok identity →
          PathsFramed accepted → PathsFramed executed →
          SameInventory accepted executed ∨ PacksCollide quoted decode accepted executed :=
    ⟨taken, fun _ known framed also => same_inventory_of_identity known taken framed also⟩
  match looked : (RepoPackContinuity.run quoted decode _ calls).looks, names, each with
  | [(_, .pack before), (_, .pack after)], names, each =>
    simp only [List.map_cons, List.map_nil, List.cons.injEq, and_true] at names
    obtain ⟨rfl, rfl⟩ := names
    refine ⟨before, after, rfl, ?_⟩
    rintro executed (rfl | rfl)
    · exact bound executed (each _ (.head _))
    · exact bound executed (each _ (.tail _ (.head _)))
  | [(_, .raised error), _], _, each => exact (each _ (.head _)).elim
  | [_, (_, .raised error)], _, each => exact (each _ (.tail _ (.head _))).elim

end Verify

end EvoomGuard.Verifiers
