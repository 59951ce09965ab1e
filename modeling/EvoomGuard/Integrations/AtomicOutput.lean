import EvoomGuard.Integrations.GuardOutput

/-!
Output publication is atomic: what a run of `_atomic_write` leaves behind, at whatever points its
operations raise.
-/

namespace EvoomGuard.Integrations.AtomicOutput

open Lib Lib.Framing Integrations.GuardOutput

/-! What the calls of a run say -/

abbrev Calls := List (Operation × Option Error)

def failureOf (call : Operation × Option Error) : Option Failure :=
  call.2.map fun error => ⟨call.1, error⟩

def firstFailure (calls : Calls) : Option Failure := calls.findSome? failureOf

/-- How often the raw descriptor is closed. -/
def closings (calls : Calls) : Nat :=
  calls.countP fun call => call.1 == .closeDescriptor || call.1 == .cleanupClose

/-- How often the clean-up calls. -/
def sweeps (calls : Calls) : Nat :=
  calls.countP fun call => call.1 == .cleanupClose || call.1 == .unlink

def tally (calls : Calls) : Nat × Nat := (closings calls, sweeps calls)

theorem tally_append (first second : Calls) :
    tally (first ++ second) = tally first + tally second := by
  simp only [tally, closings, sweeps, List.countP_append, Prod.mk_add_mk]

theorem first_failure_append (first second : Calls) :
    firstFailure (first ++ second) = (firstFailure first).or (firstFailure second) :=
  List.findSome?_append

theorem first_failure_single (operation : Operation) (error : Option Error) :
    firstFailure [(operation, error)] = error.map fun error => ⟨operation, error⟩ := by
  cases error with
  | none => rfl
  | some error => rfl

theorem first_failure_none {calls : Calls} (none : firstFailure calls = none) :
    ∀ call ∈ calls, call.2 = Option.none := by
  intro call member
  have each := List.findSome?_eq_none_iff.1 none call member
  exact Option.map_eq_none_iff.1 each

/-- What is called between two worlds: nothing but the leaf of the temporary file changes, the
descriptor is closed and the clean-up called so often, and this is the first failure. -/
structure Phase {Place : Type*} (temp : Place) (count : Nat × Nat) (failed : Option Failure)
    (before after : World Place) : Prop where
  kept : ∀ place, place ≠ temp → after.leaves place = before.leaves place
  trail : ∃ calls, after.calls = before.calls ++ calls ∧ firstFailure calls = failed ∧
    tally calls = count

namespace Phase

variable {Place : Type*} {temp : Place} {first second : Nat × Nat} {failed later : Option Failure}
  {before middle after : World Place}

theorem refl (temp : Place) (world : World Place) : Phase temp 0 none world world :=
  ⟨fun _ _ => rfl, [], (List.append_nil _).symm, rfl, rfl⟩

theorem trans (early : Phase temp first failed before middle)
    (late : Phase temp second later middle after) :
    Phase temp (first + second) (failed.or later) before after := by
  refine ⟨fun place other => (late.kept place other).trans (early.kept place other), ?_⟩
  obtain ⟨calls, added, failure, closed⟩ := early.trail
  obtain ⟨more, again, next, also⟩ := late.trail
  refine ⟨calls ++ more, ?_, ?_, ?_⟩
  · rw [again, added, List.append_assoc]
  · rw [first_failure_append, failure, next]
  · rw [tally_append, closed, also]

end Phase

section Attempts

variable {Place : Type*} {temp : Place}

/-- An effect on the leaf of the temporary file, and on nothing else. -/
structure OnTemp (temp : Place) (effect : World Place → World Place) : Prop where
  kept : ∀ world place, place ≠ temp → (effect world).leaves place = world.leaves place
  silent : ∀ world, (effect world).calls = world.calls

theorem on_temp_id (temp : Place) : OnTemp temp (id : World Place → World Place) :=
  ⟨fun _ _ _ => rfl, fun _ => rfl⟩

theorem OnTemp.phase {effect : World Place → World Place} (quiet : OnTemp temp effect)
    (operation : Operation) (error : Option Error) (world : World Place) :
    Phase temp (tally [(operation, error)]) (error.map fun error => ⟨operation, error⟩) world
      ((effect world).record operation error) :=
  ⟨quiet.kept world, [(operation, error)],
    congrArg (· ++ [(operation, error)]) (quiet.silent world),
    first_failure_single operation error, rfl⟩

theorem Phase.of_record (temp : Place) (operation : Operation) (error : Option Error)
    (world : World Place) : Phase temp (tally [(operation, error)])
      (error.map fun error => ⟨operation, error⟩) world (world.record operation error) :=
  (on_temp_id temp).phase operation error world

section

variable {operation : Operation} {error : Option Error} {done broken : World Place → World Place}
  {world after : World Place} {failed : Option Failure}
  (tried : attempt operation error done broken world = (failed, after))
include tried

theorem attempt_cases :
    (error = none ∧ failed = none ∧ after = (done world).record operation none) ∨
      ∃ raised, error = some raised ∧ failed = some ⟨operation, raised⟩ ∧
        after = (broken world).record operation (some raised) := by
  cases error with
  | none =>
    cases tried
    exact .inl ⟨rfl, rfl, rfl⟩
  | some raised =>
    cases tried
    exact .inr ⟨raised, rfl, rfl, rfl⟩

theorem attempt_kept (good : OnTemp temp done) (bad : OnTemp temp broken) :
    Phase temp (tally [(operation, error)]) failed world after ∧
      failed = error.map fun error => ⟨operation, error⟩ := by
  obtain ⟨rfl, rfl, rfl⟩ | ⟨raised, rfl, rfl, rfl⟩ := attempt_cases tried
  · exact ⟨good.phase operation none world, rfl⟩
  · exact ⟨bad.phase operation (some raised) world, rfl⟩

end

variable {host : OutputHost Place}

theorem note_failure (primary : Raised) (note : Text) :
    (addExceptionNote host primary note).failure = primary.failure := by
  unfold addExceptionNote
  split
  · rfl
  · rfl

theorem preserve_failure (primary : Option Raised) (secondary : Option Failure) (label : Text) :
    (preservePrimary host primary secondary label).map Raised.failure =
      (primary.map Raised.failure).or secondary := by
  cases primary with
  | none =>
    cases secondary with
    | none => rfl
    | some failure => rfl
  | some raised =>
    cases secondary with
    | none => rfl
    | some failure => exact congrArg some (note_failure raised _)

variable [DecidableEq Place]

theorem on_temp_put (leaf : World Place → Option Leaf) :
    OnTemp temp fun world : World Place => world.put temp (leaf world) :=
  ⟨fun _ _ other => Function.update_of_ne other _ _, fun _ => rfl⟩

theorem on_temp_pass (temp : Place) (count : World Place → Nat) :
    OnTemp temp fun world : World Place => world.pass temp (count world) :=
  ⟨fun _ _ other => Function.update_of_ne other _ _, fun _ => rfl⟩

theorem on_temp_step (step : WriterStep) :
    OnTemp temp fun world => runStep host temp world step := by
  cases step with
  | write text => exact ⟨fun _ _ _ => rfl, fun _ => rfl⟩
  | pass count => exact on_temp_pass temp fun _ => count
  | change edit =>
    refine ⟨fun world place other => ?_, fun _ => rfl⟩
    exact (Function.update_of_ne other _ _).trans (Function.update_of_ne other _ _)

theorem on_temp_steps (steps : List WriterStep) :
    OnTemp temp (runSteps host temp steps) := by
  induction steps with
  | nil => exact on_temp_id temp
  | cons step rest ih =>
    have here : OnTemp temp fun world => runStep host temp world step := on_temp_step step
    refine ⟨fun world place other => ?_, fun world => ?_⟩
    · exact (ih.kept _ place other).trans (here.kept world place other)
    · exact (ih.silent _).trans (here.silent world)

end Attempts

/-! The content of the temporary file -/

section

variable {Place : Type*} [DecidableEq Place] {host : OutputHost Place} {temp : Place}

/-- What is in the file and what the stream holds back are the bytes together. -/
def Holds (temp : Place) (mode : Nat) (bytes : Bytes) (world : World Place) : Prop :=
  ∃ content, world.leaves temp = some (.regular mode content) ∧ content ++ world.pending = bytes

variable {mode : Nat} {bytes : Bytes} {world : World Place}

theorem holds_pass (holds : Holds temp mode bytes world) (count : Nat) :
    Holds temp mode bytes (world.pass temp count) := by
  obtain ⟨content, leaf, rfl⟩ := holds
  refine ⟨content ++ world.pending.take count, ?_, ?_⟩
  · refine (Function.update_self temp _ _).trans ?_
    exact congrArg (Option.map (Leaf.edit (· ++ world.pending.take count))) leaf
  · exact (List.append_assoc _ _ _).trans (congrArg _ (List.take_append_drop _ _))

theorem pass_all_pending (temp : Place) (world : World Place) : (world.passAll temp).pending = [] :=
  List.drop_length

theorem holds_change (holds : Holds temp mode bytes world) (edit : Bytes → Bytes) :
    Holds temp mode (edit bytes) ((world.passAll temp).edit temp edit) := by
  obtain ⟨content, leaf, whole⟩ := holds_pass holds world.pending.length
  have nothing : (world.passAll temp).pending = [] := pass_all_pending temp world
  have all : content = bytes := by
    rw [← whole]
    exact ((congrArg (content ++ ·) nothing).trans (List.append_nil content)).symm
  refine ⟨edit content, ?_, ?_⟩
  · refine (Function.update_self temp _ _).trans ?_
    exact congrArg (Option.map (Leaf.edit edit)) leaf
  · rw [← all]
    exact (congrArg (edit content ++ ·) nothing).trans (List.append_nil _)

theorem holds_step (holds : Holds temp mode bytes world) (step : WriterStep) :
    Holds temp mode (writtenStep host bytes step) (runStep host temp world step) := by
  cases step with
  | write text =>
    obtain ⟨content, leaf, rfl⟩ := holds
    exact ⟨content, leaf, (List.append_assoc _ _ _).symm⟩
  | pass count => exact holds_pass holds count
  | change edit => exact holds_change holds edit

theorem holds_steps {mode : Nat} (steps : List WriterStep) {bytes : Bytes} {world : World Place}
    (holds : Holds temp mode bytes world) :
    Holds temp mode (steps.foldl (writtenStep host) bytes) (runSteps host temp steps world) := by
  induction steps generalizing bytes world with
  | nil => exact holds
  | cons step rest ih => exact ih (holds_step holds step)

/-- The file holds the bytes and the stream holds nothing back. -/
def Flushed (temp : Place) (mode : Nat) (bytes : Bytes) (world : World Place) : Prop :=
  Holds temp mode bytes world ∧ world.pending = []

omit [DecidableEq Place] in
theorem flushed_leaf {mode : Nat} {bytes : Bytes} {world : World Place}
    (flushed : Flushed temp mode bytes world) :
    world.leaves temp = some (.regular mode bytes) := by
  obtain ⟨⟨content, leaf, whole⟩, nothing⟩ := flushed
  rw [nothing, List.append_nil] at whole
  exact whole ▸ leaf

end

/-! The stream -/

section

variable {Place : Type*} [DecidableEq Place] {host : OutputHost Place} {temp : Place}

theorem write_stream_spec {writer : Writer} {world after : World Place} {failed : Option Failure}
    {mode : Nat} (run : writeStream host temp writer world = (failed, after))
    (holds : Holds temp mode [] world) :
    Phase temp 0 failed world after ∧ Holds temp mode (written host writer) after ∧
      (failed = none ↔ writer.raises = none ∧ host.raises .flush = none ∧
        host.raises .fsync = none) ∧
      (failed = none → after.pending = []) := by
  have steps : OnTemp temp (runSteps host temp writer.steps) := on_temp_steps writer.steps
  have wrote : Holds temp mode (written host writer) (runSteps host temp writer.steps world) :=
    holds_steps writer.steps holds
  unfold writeStream at run
  cases tried : attempt .writer writer.raises (runSteps host temp writer.steps)
      (runSteps host temp writer.steps) world with
  | mk first middle =>
    rw [tried] at run
    obtain ⟨calm, rfl, rfl⟩ | ⟨raised, given, rfl, rfl⟩ := attempt_cases tried
    · have one := steps.phase .writer none world
      dsimp only at run
      cases passed : attempt .flush (host.raises .flush) (·.passAll temp)
          (·.pass temp (host.passes .flush))
          ((runSteps host temp writer.steps world).record .writer none) with
      | mk second later =>
        rw [passed] at run
        obtain ⟨flushed, rfl, rfl⟩ | ⟨raised, given, rfl, rfl⟩ := attempt_cases passed
        · have two := (on_temp_pass temp fun world => world.pending.length).phase
            .flush none ((runSteps host temp writer.steps world).record .writer none)
          obtain ⟨synced, rfl, rfl⟩ | ⟨raised, given, rfl, rfl⟩ := attempt_cases run
          · refine ⟨(one.trans two).trans ((on_temp_id temp).phase .fsync none _),
              holds_pass wrote _, ?_, fun _ => pass_all_pending temp _⟩
            exact iff_of_true rfl ⟨calm, flushed, synced⟩
          · refine ⟨(one.trans two).trans ((on_temp_id temp).phase .fsync (some raised) _),
              holds_pass wrote _, ?_, fun same => nomatch same⟩
            rw [given]
            simp
        · have two := (on_temp_pass temp fun _ => host.passes .flush).phase
            .flush (some raised) ((runSteps host temp writer.steps world).record .writer none)
          cases run
          refine ⟨one.trans two, holds_pass wrote _, ?_, fun same => nomatch same⟩
          rw [given]
          simp
    · cases run
      refine ⟨steps.phase .writer (some raised) world, wrote, ?_, fun same => nomatch same⟩
      rw [given]
      simp

theorem close_both_spec {primary closed : Option Raised} {world after : World Place} {mode : Nat}
    {bytes : Bytes} (run : closeBoth host temp primary world = (closed, after))
    (holds : Holds temp mode bytes world) :
    Holds temp mode bytes after ∧ (world.pending = [] → after.pending = []) ∧
      ∃ later, Phase temp (1, 0) later world after ∧
        closed.map Raised.failure = (primary.map Raised.failure).or later ∧
        (later = none ↔ host.raises .closeStream = none ∧ host.raises .closeDescriptor = none) := by
  unfold closeBoth at run
  cases streamed : attempt .closeStream (host.raises .closeStream) (·.passAll temp)
      (·.pass temp (host.passes .closeStream)) world with
  | mk first middle =>
    cases ended : attempt .closeDescriptor (host.raises .closeDescriptor) id id middle with
    | mk second last =>
      rw [streamed] at run
      dsimp only at run
      rw [ended] at run
      cases run
      obtain ⟨one, early⟩ := attempt_kept streamed
        (on_temp_pass temp fun world => world.pending.length)
        (on_temp_pass temp fun _ => host.passes .closeStream)
      obtain ⟨two, late⟩ := attempt_kept ended (on_temp_id temp) (on_temp_id temp)
      have held : Holds temp mode bytes middle ∧
          (world.pending = [] → middle.pending = []) := by
        obtain ⟨-, -, rfl⟩ | ⟨raised, -, -, rfl⟩ := attempt_cases streamed
        · exact ⟨holds_pass holds _, fun _ => pass_all_pending temp world⟩
        · refine ⟨holds_pass holds _, fun nothing => ?_⟩
          exact (congrArg (List.drop _) nothing).trans List.drop_nil
      have same : last.leaves = middle.leaves ∧ last.pending = middle.pending := by
        obtain ⟨-, -, rfl⟩ | ⟨raised, -, -, rfl⟩ := attempt_cases ended
        · exact ⟨rfl, rfl⟩
        · exact ⟨rfl, rfl⟩
      refine ⟨?_, fun nothing => same.2.trans (held.2 nothing), first.or second,
        one.trans two, ?_, ?_⟩
      · obtain ⟨content, leaf, whole⟩ := held.1
        exact ⟨content, same.1 ▸ leaf, same.2 ▸ whole⟩
      · rw [preserve_failure, preserve_failure, Option.or_assoc]
      · rw [early, late]
        simp [Option.or_eq_none_iff]

end

/-! The checks -/

section

variable {Place : Type*} {host : OutputHost Place}

theorem replaceable_mode_ok {leaf : Option Leaf} {mode : Option Nat}
    (accepted : replaceableMode leaf = .ok mode) : mode = permissionBits leaf := by
  cases leaf with
  | none =>
    cases accepted
    rfl
  | some leaf =>
    cases leaf with
    | other own => cases accepted
    | regular own content =>
      simp only [replaceableMode] at accepted
      split at accepted
      · cases accepted
      · cases accepted
        rfl

/-- A destination that passes the checks if it can be looked up. -/
def Admissible (host : OutputHost Place) (leaves : Place → Option Leaf) (path : Text) : Prop :=
  ∃ mode, checkDestination host leaves none path = .ok mode

theorem check_destination_ok_iff {leaves : Place → Option Leaf} {lookup : Option Error}
    {path : Text} {mode : Option Nat} : checkDestination host leaves lookup path = .ok mode ↔
      lookup = none ∧ Admissible host leaves path ∧
        mode = permissionBits (leaves (host.place path)) := by
  unfold Admissible checkDestination
  split
  · constructor
    · intro accepted
      cases accepted
    · rintro ⟨-, ⟨_, accepted⟩, -⟩
      cases accepted
  · cases lookup with
    | some error =>
      constructor
      · intro accepted
        cases accepted
      · rintro ⟨given, -, -⟩
        cases given
    | none =>
      constructor
      · intro accepted
        exact ⟨rfl, ⟨mode, accepted⟩, replaceable_mode_ok accepted⟩
      · rintro ⟨-, ⟨own, accepted⟩, rfl⟩
        rw [← replaceable_mode_ok accepted]
        exact accepted

theorem admissible_congr {first second : Place → Option Leaf} {path : Text}
    (same : first (host.place path) = second (host.place path)) :
    Admissible host first path ↔ Admissible host second path := by
  unfold Admissible checkDestination
  rw [same]

theorem validate_cases {operation : Operation} {path : Text} {world after : World Place}
    {answer : Except Failure (Option Nat)}
    (run : validateOutputDestination host operation path world = (answer, after)) :
    (answer = .ok (permissionBits (world.leaves (host.place path))) ∧
      host.raises operation = none ∧ Admissible host world.leaves path ∧
        after = world.record operation none) ∨
    ∃ error, answer = .error ⟨operation, error⟩ ∧
      ¬ (host.raises operation = none ∧ Admissible host world.leaves path) ∧
        after = world.record operation (some error) := by
  unfold validateOutputDestination at run
  cases checked : checkDestination host world.leaves (host.raises operation) path with
  | ok mode =>
    rw [checked] at run
    cases run
    obtain ⟨calm, admissible, rfl⟩ := check_destination_ok_iff.1 checked
    exact .inl ⟨rfl, calm, admissible, rfl⟩
  | error error =>
    rw [checked] at run
    cases run
    refine .inr ⟨error, rfl, ?_, rfl⟩
    rintro ⟨calm, admissible⟩
    rw [check_destination_ok_iff.2 ⟨calm, admissible, rfl⟩] at checked
    cases checked

end

/-! Taking the destination's place -/

section

variable {Place : Type*} [DecidableEq Place] {host : OutputHost Place} {temp : Place}

theorem apply_mode_spec {mode : Option Nat} {own : Nat} {bytes : Bytes} {world after : World Place}
    {failed : Option Failure} (run : applyMode host temp mode world = (failed, after))
    (leaf : world.leaves temp = some (.regular own bytes)) :
    Phase temp 0 failed world after ∧
      (failed = none ↔ mode = none ∨ host.raises .chmod = none) ∧
      (failed = none → after.leaves temp = some (.regular (mode.getD own) bytes)) := by
  cases mode with
  | none =>
    cases run
    exact ⟨Phase.refl temp world, iff_of_true rfl (.inl rfl), fun _ => leaf⟩
  | some mode =>
    have tried : attempt .chmod (host.raises .chmod)
        (fun world => world.put temp ((world.leaves temp).map (Leaf.chmod mode))) id world =
          (failed, after) := run
    obtain ⟨phase, given⟩ := attempt_kept tried
      (on_temp_put fun world => (world.leaves temp).map (Leaf.chmod mode)) (on_temp_id temp)
    refine ⟨phase, ?_, ?_⟩
    · rw [given]
      simp
    · intro calm
      obtain ⟨-, -, rfl⟩ | ⟨raised, -, failing, -⟩ := attempt_cases tried
      · refine (Function.update_self temp _ _).trans ?_
        exact congrArg (Option.map (Leaf.chmod mode)) leaf
      · rw [calm] at failing
        cases failing

/-- The destination holds the bytes with the mode, the temporary file is gone, and nothing else is
changed or has failed. -/
structure Replaced (host : OutputHost Place) (temp : Place) (destination : Text)
    (count : Nat × Nat) (mode : Nat) (bytes : Bytes) (before after : World Place) : Prop where
  kept : ∀ place, place ≠ temp → place ≠ host.place destination →
    after.leaves place = before.leaves place
  gone : after.leaves temp = none
  whole : after.leaves (host.place destination) = some (.regular mode bytes)
  trail : ∃ calls, after.calls = before.calls ++ calls ∧ firstFailure calls = none ∧
    tally calls = count

omit [DecidableEq Place] in
theorem Phase.replaced {destination : Text} {first second : Nat × Nat} {mode : Nat} {bytes : Bytes}
    {before middle after : World Place} (early : Phase temp first none before middle)
    (late : Replaced host temp destination second mode bytes middle after) :
    Replaced host temp destination (first + second) mode bytes before after := by
  refine ⟨fun place other elsewhere => (late.kept place other elsewhere).trans
    (early.kept place other), late.gone, late.whole, ?_⟩
  obtain ⟨calls, added, failure, closed⟩ := early.trail
  obtain ⟨more, again, next, also⟩ := late.trail
  refine ⟨calls ++ more, ?_, ?_, ?_⟩
  · rw [again, added, List.append_assoc]
  · rw [first_failure_append, failure, next]
    rfl
  · rw [tally_append, closed, also]

theorem commit_spec {destination : Text} {initial : Option Nat} {own : Nat} {bytes : Bytes}
    {world after : World Place} {failed : Option Failure}
    (run : commit host temp destination initial world = (failed, after))
    (apart : temp ≠ host.place destination)
    (admissible : Admissible host world.leaves destination)
    (leaf : world.leaves temp = some (.regular own bytes)) :
    (failed = none ↔ host.raises .validateCurrent = none ∧
      ((permissionBits (world.leaves (host.place destination))).or initial = none ∨
        host.raises .chmod = none) ∧ host.raises .replace = none) ∧
    (failed = none → Replaced host temp destination 0
      (((permissionBits (world.leaves (host.place destination))).or initial).getD own) bytes
        world after) ∧
    (failed ≠ none → Phase temp 0 failed world after) := by
  unfold commit at run
  cases checked : validateOutputDestination host .validateCurrent destination world with
  | mk answer middle =>
    rw [checked] at run
    obtain ⟨rfl, calm, -, rfl⟩ | ⟨error, rfl, refused, rfl⟩ := validate_cases checked
    · dsimp only at run
      have one := Phase.of_record temp .validateCurrent none world
      cases moded : applyMode host temp
          ((permissionBits (world.leaves (host.place destination))).or initial)
          (world.record .validateCurrent none) with
      | mk changed later =>
        obtain ⟨two, changes, held⟩ := apply_mode_spec moded leaf
        rw [moded] at run
        cases changed with
        | some failure =>
          cases run
          refine ⟨?_, (fun same => nomatch same), fun _ => one.trans two⟩
          refine iff_of_false (fun same => nomatch same) ?_
          rintro ⟨-, chosen, -⟩
          cases changes.2 chosen
        | none =>
          have chosen := changes.1 rfl
          dsimp only at run
          obtain ⟨replaced, rfl, rfl⟩ | ⟨raised, given, rfl, rfl⟩ := attempt_cases run
          · refine ⟨iff_of_true rfl ⟨calm, chosen, replaced⟩, fun _ => ?_,
              fun some => absurd rfl some⟩
            refine (one.trans two).replaced ⟨fun place other elsewhere => ?_,
              Function.update_self temp _ _, ?_, [(.replace, none)], rfl, rfl, rfl⟩
            · refine (Function.update_of_ne other _ _).trans ?_
              exact Function.update_of_ne elsewhere _ _
            · refine (Function.update_of_ne apart.symm _ _).trans ?_
              exact (Function.update_self _ _ _).trans (held rfl)
          · refine ⟨?_, (fun same => nomatch same), fun _ =>
              (one.trans two).trans (Phase.of_record temp .replace (some raised) later)⟩
            rw [given]
            simp
    · cases run
      refine ⟨?_, (fun same => nomatch same), fun _ =>
        Phase.of_record temp .validateCurrent (some error) world⟩
      refine iff_of_false (fun same => nomatch same) ?_
      rintro ⟨calm, -, -⟩
      exact refused ⟨calm, admissible⟩

/-- No operation behind the staging raises; the mode is set where there is one. -/
structure Commits (host : OutputHost Place) (writer : Writer) (mode : Option Nat) : Prop where
  fdopen : host.raises .fdopen = none
  writer : writer.raises = none
  flush : host.raises .flush = none
  fsync : host.raises .fsync = none
  closeStream : host.raises .closeStream = none
  closeDescriptor : host.raises .closeDescriptor = none
  validateCurrent : host.raises .validateCurrent = none
  chmod : mode = none ∨ host.raises .chmod = none
  replace : host.raises .replace = none

/-- The outer `try` replaces the destination, or raises the first failure with the descriptor
closed unless the stream was not opened. -/
theorem publish_spec {destination : Text} {initial : Option Nat} {own : Nat} {writer : Writer}
    {world after : World Place} {answer : Option (Raised × Bool)}
    (run : publish host temp destination initial writer world = (answer, after))
    (apart : temp ≠ host.place destination)
    (admissible : Admissible host world.leaves destination)
    (holds : Holds temp own [] world) :
    (answer = none ↔ Commits host writer
      ((permissionBits (world.leaves (host.place destination))).or initial)) ∧
    (answer = none → Replaced host temp destination (1, 0)
      (((permissionBits (world.leaves (host.place destination))).or initial).getD own)
        (written host writer) world after) ∧
    (∀ raised opened, answer = some (raised, opened) →
      Phase temp (if opened then 0 else (1, 0)) (some raised.failure) world after ∧
        (opened = true ↔ host.raises .fdopen ≠ none)) := by
  unfold publish at run
  cases streamed : attempt .fdopen (host.raises .fdopen) id id world with
  | mk failed opening =>
    rw [streamed] at run
    obtain ⟨ready, rfl, rfl⟩ | ⟨error, given, rfl, rfl⟩ := attempt_cases streamed
    · have one := Phase.of_record temp .fdopen none world
      dsimp only at run
      cases wrote : writeStream host temp writer ((id world).record .fdopen none) with
      | mk failed middle =>
        obtain ⟨two, held, writes, flushed⟩ := write_stream_spec wrote holds
        rw [wrote] at run
        dsimp only at run
        cases closing : closeBoth host temp (failed.map (⟨·, []⟩)) middle with
        | mk primary later =>
          obtain ⟨kept, empty, late, three, merged, closes⟩ := close_both_spec closing held
          have phase := (one.trans two).trans three
          have both : primary.map Raised.failure = failed.or late := by
            rw [merged, Option.map_map]
            cases failed with
            | none | some failure => rfl
          rw [closing] at run
          cases primary with
          | some primary =>
            cases run
            have named : failed.or late = some primary.failure := both.symm
            refine ⟨?_, (fun same => nomatch same), ?_⟩
            · refine iff_of_false (fun same => nomatch same) fun commits => ?_
              have first := writes.2 ⟨commits.writer, commits.flush, commits.fsync⟩
              have second := closes.2 ⟨commits.closeStream, commits.closeDescriptor⟩
              rw [first, second] at named
              cases named
            · rintro _ _ ⟨⟩
              refine ⟨?_, iff_of_false (fun same => nomatch same) fun other =>
                other ready⟩
              rw [← named]
              exact phase
          | none =>
            dsimp only at run
            obtain ⟨first, second⟩ := Option.or_eq_none_iff.1 both.symm
            subst first second
            have leaf := flushed_leaf ⟨kept, empty (flushed rfl)⟩
            have same := phase.kept _ apart.symm
            cases committed : commit host temp destination initial later with
            | mk failed last =>
              obtain ⟨commits, replaced, broken⟩ := commit_spec committed apart
                ((admissible_congr same).2 admissible) leaf
              rw [same] at commits replaced
              rw [committed] at run
              cases run
              refine ⟨?_, ?_, ?_⟩
              · rw [Option.map_eq_none_iff, commits]
                constructor
                · rintro ⟨current, chosen, moved⟩
                  obtain ⟨calm, flush, fsync⟩ := writes.1 rfl
                  obtain ⟨stream, descriptor⟩ := closes.1 rfl
                  exact ⟨ready, calm, flush, fsync, stream, descriptor, current, chosen,
                    moved⟩
                · intro all
                  exact ⟨all.validateCurrent, all.chmod, all.replace⟩
              · intro calm
                exact phase.replaced (replaced (Option.map_eq_none_iff.1 calm))
              · intro raised opened given
                obtain ⟨failure, rfl, pair⟩ := Option.map_eq_some_iff.1 given
                cases pair
                exact ⟨phase.trans (broken (Option.some_ne_none _)),
                  iff_of_false (fun same => nomatch same) fun other => other ready⟩
    · cases run
      refine ⟨?_, (fun same => nomatch same), ?_⟩
      · refine iff_of_false (fun same => nomatch same) fun commits => ?_
        rw [commits.fdopen] at given
        cases given
      · rintro _ _ ⟨⟩
        refine ⟨Phase.of_record temp .fdopen (some error) world, iff_of_true rfl ?_⟩
        rw [given]
        exact Option.some_ne_none _

end

/-! Staging and clean-up -/

section

variable {Place : Type*} {host : OutputHost Place} {temp : Place}

/-- The checks pass and the temporary file is made. -/
structure Staged (host : OutputHost Place) (leaves : Place → Option Leaf) (path : Text) : Prop where
  given : host.raises .validatePath = none ∧ Admissible host leaves path
  abspath : host.raises .abspath = none
  absolute : host.abspath path ≠ path →
    host.raises .validateAbsolute = none ∧ Admissible host leaves (host.abspath path)
  mkstemp : host.raises .mkstemp = none

theorem Staged.destination {leaves : Place → Option Leaf} {path : Text}
    (staged : Staged host leaves path) : Admissible host leaves (host.abspath path) := by
  by_cases same : host.abspath path = path
  · exact same.symm ▸ staged.given.2
  · exact (staged.absolute same).2

/-- The leaves and the stream are as before. -/
def Untouched (before after : World Place) : Prop :=
  after.leaves = before.leaves ∧ after.pending = before.pending

theorem validate_absolute_spec {path : Text} {initial : Option Nat} {world after : World Place}
    {answer : Except Failure (Option Nat)}
    (run : validateAbsolutePath host path initial world = (answer, after)) :
    Untouched world after ∧
    ((∃ mode, answer = .ok mode ∧ Phase temp 0 none world after ∧
        (permissionBits (world.leaves (host.place (host.abspath path)))).or mode =
          (permissionBits (world.leaves (host.place (host.abspath path)))).or initial ∧
        (host.abspath path ≠ path → host.raises .validateAbsolute = none ∧
          Admissible host world.leaves (host.abspath path))) ∨
      ∃ failure, answer = .error failure ∧ Phase temp 0 (some failure) world after ∧
        ¬ (host.abspath path ≠ path → host.raises .validateAbsolute = none ∧
          Admissible host world.leaves (host.abspath path))) := by
  unfold validateAbsolutePath at run
  by_cases same : host.abspath path = path
  · rw [if_pos same] at run
    cases run
    exact ⟨⟨rfl, rfl⟩, .inl ⟨initial, rfl, Phase.refl temp world, rfl, absurd same⟩⟩
  · rw [if_neg same] at run
    cases checked : validateOutputDestination host .validateAbsolute (host.abspath path) world with
    | mk found middle =>
      rw [checked] at run
      obtain ⟨rfl, calm, admissible, rfl⟩ | ⟨error, rfl, refused, rfl⟩ := validate_cases checked
      · cases run
        refine ⟨⟨rfl, rfl⟩, .inl ⟨_, rfl, Phase.of_record temp .validateAbsolute none world, ?_,
          fun _ => ⟨calm, admissible⟩⟩⟩
        cases permissionBits (world.leaves (host.place (host.abspath path))) with
        | none => exact Option.or_none
        | some bits => rfl
      · cases run
        exact ⟨⟨rfl, rfl⟩, .inr ⟨_, rfl,
          Phase.of_record temp .validateAbsolute (some error) world,
          fun both => refused (both same)⟩⟩

variable [DecidableEq Place]

/-- Before the outer `try` the destination is looked at, and nothing is done to it. -/
theorem stage_spec {path : Text} {world after : World Place}
    {answer : Except Failure (Option Nat)} (run : stage host path world = (answer, after)) :
    (∃ initial, answer = .ok initial ∧ Staged host world.leaves path ∧
      Phase (tempPlace host path) 0 none world after ∧
      after.leaves (tempPlace host path) = some (.regular 0o600 []) ∧
      after.pending = world.pending ∧
      (permissionBits (world.leaves (host.place (host.abspath path)))).or initial =
        (permissionBits (world.leaves (host.place (host.abspath path)))).or
          (permissionBits (world.leaves (host.place path)))) ∨
    ∃ failure, answer = .error failure ∧ ¬ Staged host world.leaves path ∧
      Phase (tempPlace host path) 0 (some failure) world after ∧ after.leaves = world.leaves := by
  unfold stage at run
  cases checked : validateOutputDestination host .validatePath path world with
  | mk found first =>
    rw [checked] at run
    obtain ⟨rfl, calm, admissible, rfl⟩ | ⟨error, rfl, refused, rfl⟩ := validate_cases checked
    · dsimp only at run
      have one := Phase.of_record (tempPlace host path) .validatePath none world
      cases rooted : attempt .abspath (host.raises .abspath) id id
          (world.record .validatePath none) with
      | mk failed second =>
        rw [rooted] at run
        obtain ⟨absolute, rfl, rfl⟩ | ⟨error, given, rfl, rfl⟩ := attempt_cases rooted
        · have two := Phase.of_record (tempPlace host path) .abspath none
            (world.record .validatePath none)
          dsimp only at run
          cases validated : validateAbsolutePath host path
              (permissionBits (world.leaves (host.place path)))
              ((id (world.record .validatePath none)).record .abspath none) with
          | mk found third =>
            rw [validated] at run
            obtain ⟨untouched, ⟨mode, rfl, three, merged, passes⟩ |
              ⟨failure, rfl, three, refused⟩⟩ :=
                @validate_absolute_spec Place host (tempPlace host path) _ _ _ _ _ validated
            · dsimp only at run
              cases made : attempt .mkstemp (host.raises .mkstemp)
                  (·.put (tempPlace host path) (some (.regular 0o600 []))) id third with
              | mk failed last =>
                rw [made] at run
                have phase := (one.trans two).trans three
                obtain ⟨stored, rfl, rfl⟩ | ⟨error, given, rfl, rfl⟩ := attempt_cases made
                · cases run
                  refine .inl ⟨mode, rfl, ⟨⟨calm, admissible⟩, absolute, passes, stored⟩,
                    phase.trans ((on_temp_put fun _ => some (.regular 0o600 [])).phase
                      .mkstemp none third), Function.update_self _ _ _, untouched.2, merged⟩
                · cases run
                  refine .inr ⟨_, rfl, fun staged => ?_,
                    phase.trans (Phase.of_record _ .mkstemp (some error) third),
                    untouched.1⟩
                  rw [staged.mkstemp] at given
                  cases given
            · cases run
              exact .inr ⟨failure, rfl, fun staged => refused staged.absolute,
                (one.trans two).trans three, untouched.1⟩
        · cases run
          refine .inr ⟨_, rfl, fun staged => ?_,
            one.trans (Phase.of_record _ .abspath (some error) _), rfl⟩
          rw [staged.abspath] at given
          cases given
    · cases run
      exact .inr ⟨_, rfl, fun staged => refused staged.given,
        Phase.of_record _ .validatePath (some error) world, rfl⟩

/-- The clean-up catches whatever the operation raises. -/
def Catches (host : OutputHost Place) (operation : Operation) : Prop :=
  ∀ error, host.raises operation = some error → error.isOs = true

omit [DecidableEq Place] in
theorem notes_failure (failures : List Failure) (primary : Raised) :
    (failures.foldl (fun primary failure => addExceptionNote host primary
      ("atomic output cleanup failed: " ++ failure.error.text)) primary).failure =
        primary.failure := by
  induction failures generalizing primary with
  | nil => rfl
  | cons failure rest ih => exact (ih _).trans (note_failure primary _)

omit [DecidableEq Place] in
theorem caught_iff {operation : Operation} {failed : Option Failure}
    (given : failed = (host.raises operation).map fun error => ⟨operation, error⟩) :
    failed.filter (!·.error.isOs) = none ↔ Catches host operation := by
  subst given
  unfold Catches
  cases host.raises operation with
  | none => simp
  | some error => simp

omit [DecidableEq Place] in
theorem uncaught_operation {operation : Operation} {failed : Option Failure} {failure : Failure}
    (given : failed = (host.raises operation).map fun error => ⟨operation, error⟩)
    (uncaught : failed.filter (!·.error.isOs) = some failure) : failure.operation = operation := by
  obtain ⟨same, -⟩ := Option.filter_eq_some_iff.1 uncaught
  obtain ⟨error, -, rfl⟩ := Option.map_eq_some_iff.1 (given.symm.trans same)
  rfl

theorem remove_temp_spec {closing : Option Failure} {primary raised : Raised}
    {world after : World Place}
    (run : removeTemp host temp closing primary world = (raised, after)) :
    (∃ later, Phase temp (0, 1) later world after) ∧
    (Catches host .unlink → raised.failure = primary.failure ∧
      (after.leaves temp = none ∨ ∃ error, (.unlink, some error) ∈ after.calls)) ∧
    (¬ Catches host .unlink → raised.failure.operation = .unlink) := by
  unfold removeTemp at run
  cases removed : attempt .unlink (host.raises .unlink) (·.put temp none) id world with
  | mk removal last =>
    obtain ⟨phase, given⟩ := attempt_kept removed (on_temp_put fun _ => none) (on_temp_id temp)
    rw [removed] at run
    dsimp only at run
    cases uncaught : removal.filter (!·.error.isOs) with
    | some failure =>
      rw [uncaught] at run
      cases run
      refine ⟨⟨_, phase⟩, fun catches => ?_, fun _ => uncaught_operation given uncaught⟩
      rw [(caught_iff given).2 catches] at uncaught
      cases uncaught
    | none =>
      rw [uncaught] at run
      cases run
      refine ⟨⟨_, phase⟩, fun _ => ⟨notes_failure _ primary, ?_⟩,
        absurd ((caught_iff given).1 uncaught)⟩
      obtain ⟨-, -, rfl⟩ | ⟨error, -, -, rfl⟩ := attempt_cases removed
      · exact .inl (Function.update_self temp _ _)
      · exact .inr ⟨error, List.mem_append_right _ List.mem_cons_self⟩

/-- The clean-up closes a descriptor that is still open, and keeps the primary exception exactly
when it catches what its own operations raise. -/
theorem cleanup_spec {opened : Bool} {primary raised : Raised} {world after : World Place}
    (run : cleanupAtomicTemp host opened temp primary world = (raised, after)) :
    (∃ count later, Phase temp count later world after ∧ count.1 = if opened then 1 else 0) ∧
    ((opened = true → Catches host .cleanupClose) → Catches host .unlink →
      raised.failure = primary.failure ∧
        (after.leaves temp = none ∨ ∃ error, (.unlink, some error) ∈ after.calls)) ∧
    (¬ ((opened = true → Catches host .cleanupClose) ∧ Catches host .unlink) →
      raised.failure.operation = .cleanupClose ∨ raised.failure.operation = .unlink) := by
  unfold cleanupAtomicTemp at run
  cases opened with
  | false =>
    obtain ⟨⟨later, phase⟩, kept, masked⟩ := remove_temp_spec run
    refine ⟨⟨_, later, phase, rfl⟩, fun _ => kept, fun escapes => .inr (masked fun catches => ?_)⟩
    exact escapes ⟨fun same => (nomatch same), catches⟩
  | true =>
    rw [if_pos rfl] at run
    cases closed : attempt .cleanupClose (host.raises .cleanupClose) id id world with
    | mk closing middle =>
      obtain ⟨one, given⟩ := attempt_kept closed (on_temp_id temp) (on_temp_id temp)
      rw [closed] at run
      dsimp only at run
      cases uncaught : closing.filter (!·.error.isOs) with
      | some failure =>
        rw [uncaught] at run
        cases run
        refine ⟨⟨_, _, one, rfl⟩, fun catches => ?_, fun _ =>
          .inl (uncaught_operation given uncaught)⟩
        rw [(caught_iff given).2 (catches rfl)] at uncaught
        cases uncaught
      | none =>
        rw [uncaught] at run
        obtain ⟨⟨later, two⟩, kept, masked⟩ := remove_temp_spec run
        refine ⟨⟨_, _, one.trans two, rfl⟩, fun _ => kept, fun escapes =>
          .inr (masked fun catches => ?_)⟩
        exact escapes ⟨fun _ => (caught_iff given).1 uncaught, catches⟩

end

/-! Publication as a whole -/

theorem not_swept {calls : Calls} {failure : Failure} (first : firstFailure calls = some failure)
    (quiet : sweeps calls = 0) :
    ¬ (failure.operation = .cleanupClose ∨ failure.operation = .unlink) := by
  obtain ⟨call, member, given⟩ := List.exists_of_findSome?_eq_some first
  obtain ⟨error, -, rfl⟩ := Option.map_eq_some_iff.1 given
  have other := List.countP_eq_zero.1 quiet call member
  simpa using other

section Atomic

variable {Place : Type*} [DecidableEq Place] (host : OutputHost Place) (path : Text)
  (writer : Writer) (leaves : Place → Option Leaf)

/-- `mkstemp` makes a file under a new name, which is not the destination's. -/
structure FreshName : Prop where
  absent : leaves (tempPlace host path) = none
  apart : tempPlace host path ≠ host.place (host.abspath path)

/-- Nothing has raised, and the destination holds the whole text with the permission bits of the
file that it replaces. -/
structure Published (after : World Place) : Prop where
  calm : ∀ call ∈ after.calls, call.2 = none
  whole : ∃ mode, after.leaves (host.place (host.abspath path)) =
      some (.regular mode (written host writer)) ∧
    ∀ old content, leaves (host.place (host.abspath path)) = some (.regular old content) →
      mode = old &&& 0o777
  gone : after.leaves (tempPlace host path) = none

/-- The destination is as before, the temporary file is gone unless its removal has failed, and the
exception is the first failure. -/
structure Withdrawn (raised : Raised) (after : World Place) : Prop where
  kept : after.leaves (host.place (host.abspath path)) =
    leaves (host.place (host.abspath path))
  gone : after.leaves (tempPlace host path) = none ∨
    ∃ error, (.unlink, some error) ∈ after.calls
  first : firstFailure after.calls = some raised.failure

/-- The descriptor is closed at most once, no other leaf changes, and the publication happens as a
whole or not at all. -/
structure AtomicResult (answer : Except Raised Unit) (after : World Place) : Prop where
  closed : closings after.calls ≤ 1
  elsewhere : ∀ place, place ≠ tempPlace host path → place ≠ host.place (host.abspath path) →
    after.leaves place = leaves place
  published : answer = .ok () → Published host path writer leaves after
  withdrawn : ∀ raised, answer = .error raised → Withdrawn host path leaves raised after

def Atomic : Prop :=
  AtomicResult host path writer leaves (atomicWrite host path writer (World.start leaves)).1
    (atomicWrite host path writer (World.start leaves)).2

/-- The mode that a published file gets from what was there. -/
def keptMode : Option Nat :=
  (permissionBits (leaves (host.place (host.abspath path)))).or
    (permissionBits (leaves (host.place path)))

/-- Where the clean-up is reached, its operations raise nothing but an `OSError`: the close of the
descriptor if the stream was not opened, and the removal if anything behind the staging raises. -/
def CleanupCatches : Prop :=
  Staged host leaves path →
    (host.raises .fdopen ≠ none → Catches host .cleanupClose) ∧
    (¬ Commits host writer (keptMode host path leaves) → Catches host .unlink)

variable {host path writer leaves}

omit [DecidableEq Place] in
/-- The file gets the permission bits of the one that it replaces. -/
theorem kept_mode_bits {old : Nat} {content : Bytes}
    (present : leaves (host.place (host.abspath path)) = some (.regular old content)) :
    (keptMode host path leaves).getD 0o600 = old &&& 0o777 := by
  rw [keptMode, present]
  rfl

/-- A run is refused before the temporary file is made, replaces the destination, or raises behind
the staging and cleans up. -/
theorem atomic_write_cases {answer : Except Raised Unit} {after : World Place}
    (fresh : FreshName host path leaves)
    (run : atomicWrite host path writer (World.start leaves) = (answer, after)) :
    (∃ failure, answer = .error ⟨failure, []⟩ ∧ ¬ Staged host leaves path ∧
      Phase (tempPlace host path) 0 (some failure) (World.start leaves) after ∧
        after.leaves = leaves) ∨
    (answer = .ok () ∧ Commits host writer (keptMode host path leaves) ∧
      Replaced host (tempPlace host path) (host.abspath path) (1, 0)
        ((keptMode host path leaves).getD 0o600) (written host writer) (World.start leaves) after) ∨
    ∃ primary opened middle raised, answer = .error raised ∧ Staged host leaves path ∧
      ¬ Commits host writer (keptMode host path leaves) ∧
      (opened = true ↔ host.raises .fdopen ≠ none) ∧
      Phase (tempPlace host path) (if opened then 0 else (1, 0)) (some primary.failure)
        (World.start leaves) middle ∧
      cleanupAtomicTemp host opened (tempPlace host path) primary middle = (raised, after) := by
  unfold atomicWrite at run
  cases staged : stage host path (World.start leaves) with
  | mk found first =>
    rw [staged] at run
    obtain ⟨initial, rfl, passes, one, leaf, nothing, merged⟩ |
      ⟨failure, rfl, fails, one, same⟩ := stage_spec staged
    · dsimp only at run
      cases published : publish host (tempPlace host path) (host.abspath path) initial writer
          first with
      | mk primary second =>
        have destination := one.kept _ fresh.apart.symm
        obtain ⟨commits, replaced, broken⟩ := publish_spec published fresh.apart
          ((admissible_congr destination).2 passes.destination) ⟨[], leaf, nothing⟩
        have bits : (permissionBits (first.leaves (host.place (host.abspath path)))).or
            initial = keptMode host path leaves := by
          rw [destination]
          exact merged
        rw [bits] at commits replaced
        rw [published] at run
        cases primary with
        | none =>
          cases run
          exact .inr (.inl ⟨rfl, commits.1 rfl, one.replaced (replaced rfl)⟩)
        | some primary =>
          obtain ⟨primary, opened⟩ := primary
          obtain ⟨two, opens⟩ := broken primary opened rfl
          have phase : Phase (tempPlace host path) (if opened then 0 else (1, 0))
              (some primary.failure) (World.start leaves) second := by
            cases opened with
            | true | false => exact one.trans two
          cases cleaned : cleanupAtomicTemp host opened (tempPlace host path) primary
              second with
          | mk raised last =>
            dsimp only at run
            rw [cleaned] at run
            cases run
            exact .inr (.inr ⟨primary, opened, second, raised, rfl, passes,
              fun all => (nomatch commits.2 all), opens, phase, cleaned⟩)
    · cases run
      exact .inl ⟨failure, rfl, fails, one, same⟩

omit [DecidableEq Place] in
theorem trail_calls {temp : Place} {count : Nat × Nat} {failed : Option Failure}
    {after : World Place} (phase : Phase temp count failed (World.start leaves) after) :
    firstFailure after.calls = failed ∧ tally after.calls = count := by
  obtain ⟨calls, added, failure, counted⟩ := phase.trail
  rw [added.trans (List.nil_append calls)]
  exact ⟨failure, counted⟩

omit [DecidableEq Place] in
/-- Before the temporary file is made nothing has happened to the directory. -/
theorem refused_atomic {failure : Failure} {after : World Place}
    (fresh : FreshName host path leaves)
    (phase : Phase (tempPlace host path) 0 (some failure) (World.start leaves) after)
    (same : after.leaves = leaves) :
    AtomicResult host path writer leaves (.error ⟨failure, []⟩) after := by
  obtain ⟨first, counted⟩ := trail_calls phase
  refine ⟨?_, fun place _ _ => congrFun same place, (fun same => nomatch same), ?_⟩
  · rw [show closings after.calls = 0 from congrArg Prod.fst counted]
    exact Nat.zero_le 1
  · rintro _ ⟨⟩
    exact ⟨congrFun same _, .inl ((congrFun same _).trans fresh.absent), first⟩

omit [DecidableEq Place] in
theorem replaced_atomic {after : World Place}
    (whole : Replaced host (tempPlace host path) (host.abspath path) (1, 0)
      ((keptMode host path leaves).getD 0o600) (written host writer) (World.start leaves) after) :
    AtomicResult host path writer leaves (.ok ()) after := by
  obtain ⟨calls, added, failure, counted⟩ := whole.trail
  have every : after.calls = calls := added.trans (List.nil_append calls)
  refine ⟨?_, whole.kept, fun _ => ⟨?_, ⟨_, whole.whole, fun old content => kept_mode_bits⟩,
    whole.gone⟩, fun raised same => nomatch same⟩
  · rw [every, show closings calls = 1 from congrArg Prod.fst counted]
  · rw [every]
    exact first_failure_none failure

theorem cleaned_atomic_iff {primary raised : Raised} {opened : Bool} {middle after : World Place}
    (fresh : FreshName host path leaves)
    (phase : Phase (tempPlace host path) (if opened then 0 else (1, 0)) (some primary.failure)
      (World.start leaves) middle)
    (cleaned : cleanupAtomicTemp host opened (tempPlace host path) primary middle =
      (raised, after)) :
    AtomicResult host path writer leaves (.error raised) after ↔
      (opened = true → Catches host .cleanupClose) ∧ Catches host .unlink := by
  obtain ⟨⟨count, later, clearing, closed⟩, kept, masked⟩ := cleanup_spec cleaned
  have whole := phase.trans clearing
  obtain ⟨first, counted⟩ := trail_calls whole
  constructor
  · intro atomic
    by_contra escapes
    have given := (atomic.withdrawn raised rfl).first
    rw [first, Option.some_or, Option.some.injEq] at given
    obtain ⟨failed, tallied⟩ := trail_calls phase
    refine not_swept failed ?_ (given ▸ masked escapes)
    have quiet : sweeps middle.calls = _ := congrArg Prod.snd tallied
    rw [quiet]
    cases opened with
    | true => rfl
    | false => rfl
  · rintro ⟨closes, removes⟩
    obtain ⟨same, gone⟩ := kept closes removes
    refine ⟨?_, fun place other _ => whole.kept place other, (fun same => nomatch same), ?_⟩
    · have number : closings after.calls = _ := congrArg Prod.fst counted
      rw [number, Prod.fst_add, closed]
      cases opened with
      | true | false => exact Nat.le_refl 1
    · rintro _ ⟨⟩
      exact ⟨whole.kept _ fresh.apart.symm, gone, same ▸ first⟩

/-- A publication is atomic exactly when the clean-up, where it is reached, catches what its own
operations raise. -/
theorem atomic_iff (fresh : FreshName host path leaves) :
    Atomic host path writer leaves ↔ CleanupCatches host path writer leaves := by
  cases run : atomicWrite host path writer (World.start leaves) with
  | mk answer after =>
    rw [Atomic, run, CleanupCatches]
    obtain ⟨failure, rfl, fails, phase, same⟩ | ⟨rfl, commits, whole⟩ |
      ⟨primary, opened, middle, raised, rfl, staged, fails, opens, phase, cleaned⟩ :=
        atomic_write_cases fresh run
    · exact iff_of_true (refused_atomic fresh phase same) fun staged => absurd staged fails
    · exact iff_of_true (replaced_atomic whole) fun _ =>
        ⟨absurd commits.fdopen, absurd commits⟩
    · rw [cleaned_atomic_iff fresh phase cleaned, opens]
      constructor
      · intro catches _
        exact ⟨catches.1, fun _ => catches.2⟩
      · intro catches
        exact ⟨(catches staged).1, (catches staged).2 fails⟩

end Atomic

/-! A report -/

def reportHost (raises : Operation → Option Error) : OutputHost Text where
  platform := .posix
  casefold := List.map Char.toLower
  upper := List.map Char.toUpper
  linesep := ['\n']
  hasNotes := true
  abspath := id
  tempName := fun directory => directory ++ "/.evoguard-output-a.tmp"
  place := id
  raises := raises
  passes := fun _ => 0

def reportPath : Text := "/out/report.md"

def priorReport (place : Text) : Option Leaf :=
  if place = reportPath then some (.regular 0o640 (utf8 "old")) else none

def reportWriter : Writer := ⟨[.write "new"], none⟩

theorem fresh_report (raises : Operation → Option Error) :
    FreshName (reportHost raises) reportPath priorReport := by
  have apart : "/out/.evoguard-output-a.tmp" ≠ reportPath := by decide
  exact ⟨if_neg apart, apart⟩

/-- The disk is full when the stream is synchronised, and the temporary file cannot be removed. -/
def fullDisk : Operation → Option Error
  | .fsync => some (.os "no space left on device")
  | .unlink => some (.os "permission denied")
  | _ => none

theorem full_disk_atomic :
    Atomic (reportHost fullDisk) reportPath reportWriter priorReport := by
  refine (atomic_iff (fresh_report fullDisk)).2 fun _ => ⟨fun opened => absurd rfl opened, ?_⟩
  rintro _ error ⟨⟩
  rfl

/-- The stream cannot be opened, and the close of its descriptor is interrupted. -/
def interruptedClose : Operation → Option Error
  | .fdopen => some (.os "cannot allocate memory")
  | .cleanupClose => some (.other "KeyboardInterrupt")
  | _ => none

/-- The interrupt takes the place of the first failure, and the temporary file stays though its
removal was not tried. -/
theorem interrupted_close_masks :
    FreshName (reportHost interruptedClose) reportPath priorReport ∧
      ¬ Atomic (reportHost interruptedClose) reportPath reportWriter priorReport := by
  refine ⟨fresh_report interruptedClose, fun atomic => ?_⟩
  have withdrawn := atomic.withdrawn ⟨⟨.cleanupClose, .other "KeyboardInterrupt"⟩, []⟩ rfl
  have first := withdrawn.first
  revert first
  decide

end EvoomGuard.Integrations.AtomicOutput
