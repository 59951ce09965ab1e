import EvoomGuard.Lib.Framing

/-!
The descriptor of one exclusively created output: how it is closed behind a duplicate, how a
release retries, and who owns which handle after any sequence of failures.
-/

namespace EvoomGuard.Signing

open Lib Lib.Framing

/-- What a call raises: an `OSError`, or another exception. -/
inductive Raised where
  | os (text : Text)
  | other (text : Text)
  deriving DecidableEq

def Raised.isOs : Raised → Bool
  | .os _ => true
  | .other _ => false

def Raised.text : Raised → Text
  | .os text => text
  | .other text => text

abbrev Handle := Nat

/-- A close, with the descriptor that the output stores while it is made. -/
structure CloseCall where
  handle : Handle
  stored : Option Handle
  failed : Option Raised

/-- What `fstat` and `lstat` show of a file, with the two identities that are compared. -/
structure Metadata where
  regular : Bool
  symlink : Bool
  reparsePoint : Bool
  nlink : Nat
  size : Nat
  identity : List Int
  pathIdentity : List Int

/-- What was done: to the file that a handle is open on, or at a path. -/
inductive Event where
  | opened (path : Text) (file : Nat)
  | wrote (file : Nat) (bytes : Bytes)
  | synced (file : Nat)
  | truncated (file : Nat)
  | read (file : Nat) (bytes : Bytes)
  | inspected (file : Nat) (metadata : Metadata)
  | located (path : Text) (metadata : Metadata)
  | closed (call : CloseCall)

def Event.closeCall : Event → Option CloseCall
  | .closed call => some call
  | _ => none

/-- The handles that were given out, by number, each with the file it is open on. -/
structure World where
  time : Nat
  files : List Nat
  log : List Event

def World.fresh (world : World) : Handle := world.files.length

def World.file (world : World) (handle : Handle) : Nat := world.files.getD handle 0

def World.closes (world : World) : List CloseCall := world.log.filterMap Event.closeCall

/-- How each call ends, by its number. -/
abbrev Outcomes := Nat → Option Raised

/-- `_CreatedKeyFile`. -/
structure CreatedOutput where
  path : Text
  descriptor : Option Handle
  mayContainKeyMaterial : Bool
  indeterminateDescriptorCount : Nat

structure State where
  created : CreatedOutput
  world : World

inductive DescriptorState where
  | retainedBeforeClose
  | indeterminateAfterCloseError
  | indeterminateAfterBackupCloseError
  deriving DecidableEq

def DescriptorState.text : DescriptorState → Text
  | .retainedBeforeClose => "retained-before-close"
  | .indeterminateAfterCloseError => "indeterminate-after-close-error"
  | .indeterminateAfterBackupCloseError => "indeterminate-after-backup-close-error"

/-- `_CreatedOutputCloseError`. -/
structure CloseError where
  path : Text
  descriptorState : DescriptorState
  original : Raised

def CloseError.message (error : CloseError) : Text :=
  "descriptor close failed for " ++ error.path ++ " (descriptor_state=" ++
    error.descriptorState.text ++ "): " ++ error.original.text

section Release

variable (outcomes : Outcomes)

def dup (handle : Handle) (world : World) : Except Raised Handle × World :=
  match outcomes world.time with
  | some error => (.error error, { world with time := world.time + 1 })
  | none =>
    (.ok world.fresh,
      { world with
        time := world.time + 1
        files := world.files ++ [world.file handle] })

def close (handle : Handle) (stored : Option Handle) (world : World) : Option Raised × World :=
  (outcomes world.time,
    { world with
      time := world.time + 1
      log := world.log ++ [.closed ⟨handle, stored, outcomes world.time⟩] })

/-- The output when a close has failed. -/
def CreatedOutput.lost (created : CreatedOutput) (stored : Option Handle) : CreatedOutput :=
  { created with
    descriptor := stored
    indeterminateDescriptorCount := created.indeterminateDescriptorCount + 1 }

def closeCreatedKeyFile (state : State) : Option CloseError × State :=
  match state.created.descriptor with
  | none => (none, state)
  | some descriptor =>
    match dup outcomes descriptor state.world with
    | (.error duplicateError, world) =>
      (some ⟨state.created.path, .retainedBeforeClose, duplicateError⟩, { state with world })
    | (.ok safeBackup, world) =>
      match close outcomes descriptor (some safeBackup) world with
      | (some closeError, world) =>
        (some ⟨state.created.path, .indeterminateAfterCloseError, closeError⟩,
          ⟨state.created.lost (some safeBackup), world⟩)
      | (none, world) =>
        match close outcomes safeBackup none world with
        | (some closeError, world) =>
          (some ⟨state.created.path, .indeterminateAfterBackupCloseError, closeError⟩,
            ⟨state.created.lost none, world⟩)
        | (none, world) => (none, ⟨{ state.created with descriptor := none }, world⟩)

def maxCloseAttempts : Nat := 2

def releaseLoop : Nat → Option CloseError → State → Option CloseError × State
  | 0, lastError, state => (lastError, state)
  | attempts + 1, lastError, state =>
    if state.created.descriptor = none then (lastError, state)
    else
      match closeCreatedKeyFile outcomes state with
      | (some closeError, state) =>
        if state.created.descriptor = none ∨ closeError.original.isOs = false then
          (some closeError, state)
        else releaseLoop attempts (some closeError) state
      | (none, state) =>
        (if state.created.indeterminateDescriptorCount = 0 then none else lastError, state)

/-- `_release_created_output_descriptor`. -/
def release (state : State) : Option CloseError × State :=
  releaseLoop outcomes maxCloseAttempts none state

/-- `release_retained_descriptors` of an error that owns the one output. -/
def releaseRetained (state : State) : Bool × State :=
  let released := if state.created.descriptor ≠ none then (release outcomes state).2 else state
  (released.created.descriptor.isNone, released)

inductive Call where
  | release
  | releaseRetained

def perform (state : State) : Call → State
  | .release => (release outcomes state).2
  | .releaseRetained => (releaseRetained outcomes state).2

/-- The output that `open` has just given a handle. -/
def opened (path : Text) : State := ⟨⟨path, some 0, false, 0⟩, ⟨0, [0], [.opened path 0]⟩⟩

def run (path : Text) (calls : List Call) : State := calls.foldl (perform outcomes) (opened path)

end Release

def World.handled (world : World) : List Handle := world.closes.map CloseCall.handle

/-- No handle is closed twice, and none is stored that is or was being closed; every other handle
was closed, and the failed closes are counted. -/
structure Owned (state : State) : Prop where
  apart : state.world.closes.Pairwise fun earlier later =>
    later.handle ≠ earlier.handle ∧ later.stored ≠ some earlier.handle
  moved : ∀ call ∈ state.world.closes, call.stored ≠ some call.handle
  obtained : ∀ handle, handle < state.world.fresh ↔
    state.created.descriptor = some handle ∨ handle ∈ state.world.handled
  untouched : ∀ handle, state.created.descriptor = some handle → handle ∉ state.world.handled
  counted : state.created.indeterminateDescriptorCount =
    state.world.closes.countP fun call => call.failed.isSome

/-- The world when a handle was passed to `close`. -/
def World.after (world : World) (call : CloseCall) (time : Nat) (files : List Nat) : World :=
  { time, files, log := world.log ++ [.closed call] }

@[simp] theorem closes_after (world : World) (call : CloseCall) (time : Nat) (files : List Nat) :
    (world.after call time files).closes = world.closes ++ [call] := by
  simp [World.closes, World.after, Event.closeCall]

@[simp] theorem handled_after (world : World) (call : CloseCall) (time : Nat) (files : List Nat) :
    (world.after call time files).handled = world.handled ++ [call.handle] := by
  simp [World.handled]

theorem Owned.below {state : State} (owned : Owned state) {handle : Handle}
    (inside : handle ∈ state.world.handled) : handle < state.world.fresh :=
  (owned.obtained handle).mpr (.inr inside)

/-- A close of the stored handle keeps the ownership: what is stored meanwhile is nothing, or the
duplicate that was made before. -/
theorem Owned.closed {state : State} (owned : Owned state) (call : CloseCall) (time : Nat)
    (files : List Nat) (created : CreatedOutput)
    (held : state.created.descriptor = some call.handle)
    (duplicated : call.stored = none ∧ files.length = state.world.fresh ∨
      call.stored = some state.world.fresh ∧ files.length = state.world.fresh + 1)
    (kept : created.descriptor = call.stored)
    (counted : created.indeterminateDescriptorCount =
      state.created.indeterminateDescriptorCount + if call.failed.isSome then 1 else 0) :
    Owned ⟨created, state.world.after call time files⟩ := by
  rcases call with ⟨descriptor, stored, failed⟩
  dsimp only at held duplicated kept counted
  have given : descriptor < state.world.fresh := (owned.obtained descriptor).mpr (.inl held)
  have new (handle : Handle) (known : handle < state.world.fresh) : stored ≠ some handle := by
    rcases duplicated with ⟨rfl, _⟩ | ⟨rfl, _⟩
    · simp
    · exact fun same => Nat.ne_of_gt known (Option.some.inj same)
  constructor
  · rw [closes_after, List.pairwise_append]
    refine ⟨owned.apart, List.pairwise_singleton _ _, ?_⟩
    intro earlier inside later last
    rw [List.mem_singleton.mp last]
    have before : earlier.handle ∈ state.world.handled := List.mem_map_of_mem inside
    constructor
    · intro same
      rw [← same] at before
      exact owned.untouched descriptor held before
    · exact new earlier.handle (owned.below before)
  · intro call inside
    rw [closes_after, List.mem_append, List.mem_singleton] at inside
    cases inside with
    | inl earlier => exact owned.moved call earlier
    | inr last =>
      rw [last]
      exact new descriptor given
  · intro handle
    have known := owned.obtained handle
    rw [held] at known
    simp only [handled_after, kept, List.mem_append, List.mem_singleton]
    rcases duplicated with ⟨rfl, length⟩ | ⟨rfl, length⟩
    · have same : (state.world.after ⟨descriptor, none, failed⟩ time files).fresh =
        state.world.fresh := length
      rw [same, known]
      simp [or_comm, eq_comm]
    · have same : (state.world.after ⟨descriptor, some state.world.fresh, failed⟩ time
          files).fresh = state.world.fresh + 1 := length
      rw [same, Nat.lt_succ_iff_lt_or_eq, known]
      simp only [Option.some.injEq]
      constructor
      · rintro ((rfl | earlier) | rfl)
        · exact .inr (.inr rfl)
        · exact .inr (.inl earlier)
        · exact .inl rfl
      · rintro (rfl | earlier | rfl)
        · exact .inr rfl
        · exact .inl (.inr earlier)
        · exact .inl (.inl rfl)
  · intro handle stays
    rw [kept] at stays
    rw [handled_after, List.mem_append, List.mem_singleton]
    rintro (earlier | rfl)
    · exact new handle (owned.below earlier) stays
    · exact new _ given stays
  · rw [closes_after, List.countP_append, counted, owned.counted]
    simp [List.countP_cons]

/-- What one attempt to close can do. -/
inductive Attempt (state : State) : Option CloseError → State → Prop where
  | nothing (gone : state.created.descriptor = none) : Attempt state none state
  | retained (error : CloseError) (time : Nat) :
      Attempt state (some error) { state with world := { state.world with time } }
  | moved (descriptor : Handle) (error : CloseError) (failed : Raised) (time : Nat)
      (held : state.created.descriptor = some descriptor) :
      Attempt state (some error) ⟨state.created.lost (some state.world.fresh),
        state.world.after ⟨descriptor, some state.world.fresh, some failed⟩ time
          (state.world.files ++ [state.world.file descriptor])⟩
  | ended (descriptor : Handle) (error : Option CloseError) (failed : Option Raised)
      (middle time : Nat) (held : state.created.descriptor = some descriptor)
      (told : error.isSome = failed.isSome) :
      Attempt state error ⟨if failed.isSome then state.created.lost none
          else { state.created with descriptor := none },
        (state.world.after ⟨descriptor, some state.world.fresh, none⟩ middle
          (state.world.files ++ [state.world.file descriptor])).after
            ⟨state.world.fresh, none, failed⟩ time
            (state.world.files ++ [state.world.file descriptor])⟩

section Keeps

variable (outcomes : Outcomes)

theorem close_created_attempt (state : State) :
    Attempt state (closeCreatedKeyFile outcomes state).1
      (closeCreatedKeyFile outcomes state).2 := by
  unfold closeCreatedKeyFile
  cases held : state.created.descriptor with
  | none => exact .nothing held
  | some descriptor =>
    simp only [dup, close]
    cases outcomes state.world.time with
    | some duplicateError => exact .retained _ _
    | none =>
      dsimp only
      cases outcomes (state.world.time + 1) with
      | some closeError => exact .moved descriptor _ closeError _ held
      | none =>
        dsimp only
        cases outcomes (state.world.time + 1 + 1) with
        | some closeError =>
          exact .ended descriptor (some _) (some closeError) (state.world.time + 1 + 1) _ held rfl
        | none => exact .ended descriptor none none (state.world.time + 1 + 1) _ held rfl

theorem Owned.attempt {state next : State} {error : Option CloseError} (owned : Owned state)
    (attempted : Attempt state error next) : Owned next := by
  cases attempted with
  | nothing => exact owned
  | retained =>
    exact ⟨owned.apart, owned.moved, owned.obtained, owned.untouched, owned.counted⟩
  | moved descriptor _ failed time held =>
    exact owned.closed ⟨descriptor, some state.world.fresh, some failed⟩ time _
      (state.created.lost (some state.world.fresh)) held (.inr ⟨rfl, List.length_append⟩) rfl rfl
  | ended descriptor _ failed middle time held =>
    have handed := owned.closed ⟨descriptor, some state.world.fresh, none⟩ middle
      (state.world.files ++ [state.world.file descriptor])
      { state.created with descriptor := some state.world.fresh } held
      (.inr ⟨rfl, List.length_append⟩) rfl rfl
    cases failed with
    | none =>
      exact handed.closed ⟨state.world.fresh, none, none⟩ time _
        { state.created with descriptor := none } rfl (.inl ⟨rfl, rfl⟩) rfl rfl
    | some raised =>
      exact handed.closed ⟨state.world.fresh, none, some raised⟩ time _
        (state.created.lost none) rfl (.inl ⟨rfl, rfl⟩) rfl rfl

theorem release_loop_keeps {holds : State → Prop}
    (step : ∀ state, holds state → holds (closeCreatedKeyFile outcomes state).2) (attempts : Nat)
    (lastError : Option CloseError) {state : State} (held : holds state) :
    holds (releaseLoop outcomes attempts lastError state).2 := by
  induction attempts generalizing lastError state with
  | zero => exact held
  | succ attempts ih =>
    have once := step state held
    unfold releaseLoop
    split
    · exact held
    · cases answered : closeCreatedKeyFile outcomes state with
      | mk failed next =>
        rw [answered] at once
        cases failed with
        | none => exact once
        | some closeError =>
          dsimp only
          split
          · exact once
          · exact ih _ once

theorem Owned.release {state : State} (owned : Owned state) :
    Owned (release outcomes state).2 :=
  release_loop_keeps outcomes
    (fun state held => held.attempt (close_created_attempt outcomes state)) maxCloseAttempts none owned

theorem Owned.perform {state : State} (owned : Owned state) (call : Call) :
    Owned (perform outcomes state call) := by
  have released := owned.release outcomes
  cases call with
  | release => exact released
  | releaseRetained =>
    unfold Signing.perform releaseRetained
    dsimp only
    split
    · exact released
    · exact owned

theorem owned_opened (path : Text) : Owned (opened path) := by
  constructor
  · exact List.Pairwise.nil
  · exact fun _ inside => nomatch inside
  · intro handle
    simp [opened, World.fresh, World.handled, World.closes, Event.closeCall, eq_comm]
  · exact fun _ _ inside => nomatch inside
  · rfl

theorem owned_run (path : Text) (calls : List Call) : Owned (run outcomes path calls) := by
  unfold run
  generalize starts : opened path = state
  have owned : Owned state := starts ▸ owned_opened path
  clear starts
  induction calls generalizing state with
  | nil => exact owned
  | cons call rest ih => exact ih _ (owned.perform outcomes call)

end Keeps

section

variable (outcomes : Outcomes)

theorem close_created_succeeds {state next : State}
    (closed : closeCreatedKeyFile outcomes state = (none, next)) :
    next.created.descriptor = none ∧ next.created.indeterminateDescriptorCount =
      state.created.indeterminateDescriptorCount := by
  have attempted := close_created_attempt outcomes state
  rw [closed] at attempted
  cases attempted with
  | nothing gone => exact ⟨gone, rfl⟩
  | ended descriptor _ failed middle time held told =>
    cases failed with
    | none => exact ⟨rfl, rfl⟩
    | some raised => cases told

/-- A loop that answers nothing has released the descriptor, and no close has failed. The induction
carries an error from the second attempt on: then only an empty count clears it. -/
theorem release_loop_silent (attempts : Nat) (lastError : Option CloseError) (state : State)
    (starts : lastError = none →
      0 < attempts ∧ state.created.indeterminateDescriptorCount = 0)
    (silent : (releaseLoop outcomes attempts lastError state).1 = none) :
    (releaseLoop outcomes attempts lastError state).2.created.descriptor = none ∧
      (releaseLoop outcomes attempts lastError state).2.created.indeterminateDescriptorCount =
        0 := by
  induction attempts generalizing lastError state with
  | zero => exact absurd (starts silent).1 (Nat.lt_irrefl 0)
  | succ attempts ih =>
    unfold releaseLoop at silent ⊢
    by_cases gone : state.created.descriptor = none
    · rw [if_pos gone] at silent ⊢
      exact ⟨gone, (starts silent).2⟩
    · rw [if_neg gone] at silent ⊢
      cases answered : closeCreatedKeyFile outcomes state with
      | mk failed next =>
        rw [answered] at silent
        cases failed with
        | some closeError =>
          dsimp only at silent ⊢
          split at silent
          · cases silent
          case isFalse again =>
            rw [if_neg again]
            exact ih (some closeError) next (fun impossible => nomatch impossible) silent
        | none =>
          obtain ⟨released, same⟩ := close_created_succeeds outcomes answered
          refine ⟨released, ?_⟩
          dsimp only at silent ⊢
          split at silent
          case isTrue zero => exact zero
          case isFalse => exact same.trans (starts silent).2

theorem release_of_success (state : State) :
    (release (fun _ => none) state).1 = none ∧
      (release (fun _ => none) state).2.created.indeterminateDescriptorCount =
        state.created.indeterminateDescriptorCount := by
  unfold release maxCloseAttempts releaseLoop
  split
  · exact ⟨rfl, rfl⟩
  · cases held : state.created.descriptor with
    | none => contradiction
    | some descriptor =>
      simp only [closeCreatedKeyFile, held, dup, close]
      exact ⟨ite_self none, trivial⟩

theorem Owned.all_closed_iff {state : State} (owned : Owned state) :
    (∀ call ∈ state.world.closes, call.failed = none) ↔
      state.created.indeterminateDescriptorCount = 0 := by
  rw [owned.counted, List.countP_eq_zero]
  simp

/-- A release that answers nothing: every close so far succeeded, and no handle remains. -/
def ReleaseSound (later : Outcomes) (state : State) : Prop :=
  (release later state).1 = none →
    (∀ call ∈ (release later state).2.world.closes, call.failed = none) ∧
      (release later state).2.created.descriptor = none

theorem Owned.release_sound_iff {state : State} (owned : Owned state) :
    (∀ later, ReleaseSound later state) ↔ state.created.indeterminateDescriptorCount = 0 := by
  have after (later : Outcomes) := owned.release later
  constructor
  · intro sound
    have succeeded := release_of_success state
    rw [← succeeded.2]
    exact (after fun _ => none).all_closed_iff.mp (sound (fun _ => none) succeeded.1).1
  · intro zero later silent
    have released := release_loop_silent later maxCloseAttempts none state
      (fun _ => ⟨Nat.two_pos, zero⟩) silent
    exact ⟨(after later).all_closed_iff.mpr released.2, released.1⟩

end

/-- After any calls with any outcomes every handle is accounted for, and what the next release
answers is right exactly when no close has failed before it. -/
theorem descriptors_released_iff (outcomes : Outcomes) (path : Text) (calls : List Call) :
    Owned (run outcomes path calls) ∧
      ((∀ later, ReleaseSound later (run outcomes path calls)) ↔
        (run outcomes path calls).created.indeterminateDescriptorCount = 0) := by
  have owned := owned_run outcomes path calls
  exact ⟨owned, owned.release_sound_iff⟩

theorem second_release_forgets :
    ¬ ReleaseSound (fun _ => none)
      (run (fun number => if number = 2 then some (.os "EIO") else none) "key.pem" [.release]) := by
  intro sound
  have closed := (sound rfl).1 ⟨1, none, some (.os "EIO")⟩ (.tail _ (.head _))
  cases closed

end EvoomGuard.Signing
