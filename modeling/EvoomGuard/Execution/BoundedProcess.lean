import EvoomGuard.Execution.Process

/-!
`execute_bounded_process` as a system: the child and its descendants write to two pipes, a reader
thread drains each of them, and the main thread launches, polls, stops and joins. The clock, the
signals and the moment of an interrupt are choices of the environment, so they come with the
action.
-/

namespace EvoomGuard.Execution.Process

open Lib Lib.Framing Lib.Runs

inductive HostSystem where
  | posix
  | nt
  | other
  deriving DecidableEq

/-! Termination of the process tree -/

/-- What `os.killpg` did: nothing raised, `ProcessLookupError`, or another `OSError`. -/
inductive Killed where
  | delivered
  | noProcess
  | failed
  deriving DecidableEq

/-- What one call of `_terminate_process_tree` can see. -/
structure TerminationLooks where
  terminate : Killed
  /-- `_posix_group_exists` at each look before the grace deadline -/
  grace : List Bool
  kill : Killed
  /-- the looks before the kill deadline -/
  final : List Bool
  polled : Option Int
  taskkill : Option Int
  /-- `_wait_for_exit` -/
  waited : Bool

def terminateProcessTree (host : HostSystem) (looks : TerminationLooks) : Bool :=
  match host with
  | .posix =>
    match looks.terminate with
    | .noProcess => looks.waited
    | .failed => false
    | .delivered =>
      if false ∈ looks.grace then looks.waited
      else
        match looks.kill with
        | .noProcess => looks.waited
        | .failed => false
        | .delivered => if false ∈ looks.final then looks.waited else false
  | .nt =>
    match looks.polled with
    -- A departed root is no proof that its descendants are gone.
    | some _ => false
    | none => looks.taskkill == some 0 && looks.waited
  | .other => false

/-! The request and the result -/

structure ProcessLimits where
  maxOutputBytes : Nat
  readChunkBytes : Nat
  readable : 0 < readChunkBytes

def ProcessLimits.create (maxOutputBytes readChunkBytes : Int) : Except Text ProcessLimits :=
  if maxOutputBytes < 0 then .error "max_output_bytes must be non-negative"
  else if positive : readChunkBytes ≤ 0 then
    .error "read_chunk_bytes must be positive"
  else .ok ⟨maxOutputBytes.toNat, readChunkBytes.toNat, by omega⟩

structure BoundedProcessRequest where
  command : List Text
  limits : ProcessLimits
  requireProcessGroupCleanupProof : Bool

structure BoundedProcessResult where
  command : List Text
  returncode : Int
  stdout : Text
  stderr : Text
  targetStarted : Bool

inductive Failure where
  /-- `subprocess.TimeoutExpired` -/
  | timeoutExpired (command : List Text) (output stderr : Text)
  | outputLimitExceeded (limit : Nat)
  | containment (message : Text)
  | cleanupUnavailable (message : Text)
  /-- any other exception, an interrupt among them -/
  | other (message : Text)

/-- The three reasons of `stop_and_prove`. -/
inductive Stop where
  | timedOut
  | outputLimit
  | livePipes

def Stop.reason : Stop → Text
  | .timedOut => "subprocess timed out"
  | .outputLimit => "subprocess output limit reached"
  | .livePipes => "subprocess exited with live output pipes"

/-! The state -/

structure Pipe where
  /-- all that was ever written to it -/
  written : Bytes
  unread : Bytes
  /-- whether every writer is gone -/
  closed : Bool

inductive Reader where
  | unstarted
  | reading
  /-- between `stream.read` and `capture.append` -/
  | holding (chunk : Bytes)
  | ended

/-- Where the main thread stands. -/
inductive Main where
  | spawn
  | handshake
  | start (stream : OutputStream)
  | startupClock
  | startupPoll
  | poll
  | loopCheck
  | loopClock
  | exitedCheck
  | join
  | joinedCheck
  | proveTree
  | stdoutText
  | stderrText (stdout : Text)
  | stopTree (stop : Stop)
  | stopReaders (stop : Stop)
  | timeoutStdout
  | timeoutStderr (stdout : Text)
  | abortTree (failure : Failure)
  | abortReaders (failure : Failure)
  | ended (outcome : Except Failure BoundedProcessResult)

structure State where
  pipe : OutputStream → Pipe
  exit : Option Int
  reader : OutputStream → Reader
  capture : BoundedOutput
  main : Main
  launched : Bool
  targetStarted : Bool
  returncode : Option Int
  treeCleanupProven : Bool
  readerCleanupProven : Bool

def State.initial (request : BoundedProcessRequest) : State where
  pipe := fun _ => ⟨[], [], false⟩
  exit := none
  reader := fun _ => .unstarted
  capture := .empty request.limits.maxOutputBytes
  main := .spawn
  launched := false
  targetStarted := false
  returncode := none
  treeCleanupProven := false
  readerCleanupProven := false

/-! The child and its descendants -/

inductive ChildAction where
  | write (stream : OutputStream) (data : Bytes)
  | close (stream : OutputStream)
  | exit (code : Int)

def childStep (state : State) : ChildAction → Option State
  | .write stream data =>
    let pipe := state.pipe stream
    if pipe.closed then none
    else some { state with
      pipe := Function.update state.pipe stream
        ⟨pipe.written ++ data, pipe.unread ++ data, pipe.closed⟩ }
  | .close stream =>
    some { state with
      pipe := Function.update state.pipe stream { state.pipe stream with closed := true } }
  | .exit code =>
    match state.exit with
    | some _ => none
    | none => some { state with exit := some code }

/-! `drain_process_pipe` -/

inductive ReaderAction where
  /-- `stream.read` gives some bytes -/
  | read (count : Nat)
  | append
  /-- `stream.read` gives none, which it does at the end of the pipe only -/
  | finish

def readerStep (request : BoundedProcessRequest) (state : State) (stream : OutputStream) :
    ReaderAction → Option State
  | .read count =>
    match state.reader stream with
    | .reading =>
      let pipe := state.pipe stream
      if 0 < count ∧ count ≤ request.limits.readChunkBytes ∧ count ≤ pipe.unread.length then
        some { state with
          pipe := Function.update state.pipe stream { pipe with
            unread := pipe.unread.drop count }
          reader := Function.update state.reader stream (.holding (pipe.unread.take count)) }
      else none
    | _ => none
  | .append =>
    match state.reader stream with
    | .holding chunk =>
      some { state with
        capture := state.capture.append stream chunk
        reader := Function.update state.reader stream .reading }
    | _ => none
  | .finish =>
    match state.reader stream with
    | .reading =>
      if (state.pipe stream).closed ∧ (state.pipe stream).unread = [] then
        some { state with reader := Function.update state.reader stream .ended }
      else none
    | _ => none

/-! The main thread -/

inductive MainAction where
  /-- `subprocess.Popen`, with what it raised -/
  | spawn (raised : Option Failure)
  /-- the status channel of the launcher: what it raised, or whether the target was started -/
  | handshake (answer : Except Failure Bool)
  | start
  | clock (reached : Bool)
  | poll
  | check
  | join
  | terminate (looks : TerminationLooks)
  | text
  /-- `_join_attempted_pipe_readers`, `none` when it raised -/
  | joinAttempted (proven : Option Bool)
  | interrupt (failure : Failure)

def joinPipeReaders (state : State) : Bool :=
  match state.reader .stdout, state.reader .stderr with
  | .ended, .ended => true
  | _, _ => false

/-- The start of the abort cleanup: what was not proven before is tried. -/
def State.abort (state : State) (failure : Failure) : State :=
  { state with
    main :=
      if state.launched then
        if state.treeCleanupProven then
          if state.readerCleanupProven then .ended (.error failure) else .abortReaders failure
        else .abortTree failure
      else .ended (.error failure) }

/-- The exception that follows a stop that was proven. -/
def State.stopped (request : BoundedProcessRequest) (state : State) : Stop → State
  | .timedOut => { state with main := .timeoutStdout }
  | .outputLimit => state.abort (.outputLimitExceeded request.limits.maxOutputBytes)
  | .livePipes =>
    state.abort (.containment "subprocess exited but its output pipes did not close")

section System

variable (host : HostSystem) (decode : Bytes → Text) (request : BoundedProcessRequest)

def mainStep (state : State) (action : MainAction) : Option State :=
  match state.main, action with
  | .spawn, .spawn raised =>
    if request.requireProcessGroupCleanupProof ∧ host ≠ .posix then
      some { state with main := .ended (.error (.cleanupUnavailable
        ("process-group cleanup proof requires POSIX process-group support " ++
          "and is unavailable on this host").toList)) }
    else
      match raised with
      | some failure => some (state.abort failure)
      | none => some { state with launched := true, main := .handshake }
  | .handshake, .handshake (.error failure) => some (state.abort failure)
  | .handshake, .handshake (.ok started) =>
    some { state with targetStarted := started, main := .start .stdout }
  | .start stream, .start =>
    some { state with
      reader := Function.update state.reader stream .reading
      main := match stream with
        | .stdout => .start .stderr
        | .stderr => .startupClock }
  | .startupClock, .clock reached =>
    some { state with main := if reached then .startupPoll else .poll }
  | .startupPoll, .poll =>
    some { state with
      returncode := state.exit
      main := if state.exit.isNone then .stopTree .timedOut else .poll }
  | .poll, .poll =>
    some { state with
      returncode := state.exit
      main := if state.exit.isNone then .loopCheck else .exitedCheck }
  | .loopCheck, .check =>
    some { state with
      main := if state.capture.exceeded then .stopTree .outputLimit else .loopClock }
  | .loopClock, .clock reached =>
    some { state with main := if reached then .stopTree .timedOut else .poll }
  | .exitedCheck, .check =>
    some { state with
      main := if state.capture.exceeded then .stopTree .outputLimit else .join }
  | .join, .join =>
    if joinPipeReaders state then
      some { state with readerCleanupProven := true, main := .joinedCheck }
    else some { state with main := .stopTree .livePipes }
  | .joinedCheck, .check =>
    some { state with
      main := if state.capture.exceeded then .stopTree .outputLimit
        else if host = .posix then .proveTree else .stdoutText }
  | .proveTree, .terminate looks =>
    if terminateProcessTree host looks then
      some { state with treeCleanupProven := true, main := .stdoutText }
    else some (state.abort (.containment
      "subprocess completed but post-completion tree cleanup was not proven"))
  | .stdoutText, .text =>
    some { state with main := .stderrText (decode (state.capture.stored .stdout)) }
  | .stderrText stdout, .text =>
    match state.returncode with
    | none => some (state.abort (.other "AssertionError"))
    | some returncode =>
      some { state with
        main := .ended (.ok ⟨request.command, returncode, stdout,
          decode (state.capture.stored .stderr), state.targetStarted⟩) }
  | .stopTree stop, .terminate looks =>
    if terminateProcessTree host looks then
      some { state with treeCleanupProven := true, main := .stopReaders stop }
    else some (state.abort (.containment
      (stop.reason ++ "; could not prove subprocess-tree cleanup")))
  | .stopReaders stop, .join =>
    if joinPipeReaders state then
      some (State.stopped request { state with readerCleanupProven := true } stop)
    else some (state.abort (.containment
      (stop.reason ++ "; subprocess output pipes did not close after cleanup")))
  | .timeoutStdout, .text =>
    some { state with main := .timeoutStderr (decode (state.capture.stored .stdout)) }
  | .timeoutStderr stdout, .text =>
    some (state.abort (.timeoutExpired request.command stdout
      (decode (state.capture.stored .stderr))))
  | .abortTree failure, .terminate looks =>
    some { state with
      treeCleanupProven := terminateProcessTree host looks
      main := if state.readerCleanupProven then .ended (.error failure)
        else .abortReaders failure }
  | .abortReaders failure, .joinAttempted proven =>
    some { state with
      readerCleanupProven := proven == some true
      main := .ended (.error failure) }
  | .ended _, _ => none
  | .abortTree _, _ => none
  | .abortReaders _, _ => none
  -- An asynchronous exception may come at any point before the cleanup.
  | _, .interrupt failure => some (state.abort failure)
  | _, _ => none

inductive Action where
  | child (action : ChildAction)
  | reader (stream : OutputStream) (action : ReaderAction)
  | main (action : MainAction)

def step (action : Action) (state : State) : Option State :=
  match action with
  | .child action => childStep state action
  | .reader stream action => readerStep request state stream action
  | .main action => mainStep host decode request state action

end System

/-! Nothing is lost between the pipes and the capture -/

def Reader.held : Reader → Bytes
  | .holding chunk => chunk
  | _ => []

structure Conserved (state : State) : Prop where
  captured : ∃ appended, Capturing state.capture appended ∧ ∀ stream,
    (state.pipe stream).written =
      appended stream ++ (state.reader stream).held ++ (state.pipe stream).unread
  drained : ∀ stream, state.reader stream = .ended →
    (state.pipe stream).closed = true ∧ (state.pipe stream).unread = []

theorem conserved_initial (request : BoundedProcessRequest) :
    Conserved (.initial request) where
  captured := ⟨fun _ => [], capturing_empty _, fun _ => rfl⟩
  drained := fun _ ended => by cases ended

theorem child_step_conserved {before after : State} {action : ChildAction}
    (moved : childStep before action = some after) (conserved : Conserved before) :
    Conserved after := by
  obtain ⟨appended, capturing, written⟩ := conserved.captured
  cases action with
  | write stream data =>
    simp only [childStep] at moved
    split at moved
    case isTrue => cases moved
    case isFalse opened =>
      cases moved
      refine ⟨⟨appended, capturing, fun each => ?_⟩, fun each ended => ?_⟩
      · by_cases here : each = stream
        · subst here
          simp [written each]
        · simpa [Function.update_of_ne here] using written each
      · by_cases here : each = stream
        · subst here
          exact absurd (conserved.drained each ended).1 opened
        · simpa [Function.update_of_ne here] using conserved.drained each ended
  | close stream =>
    cases moved
    refine ⟨⟨appended, capturing, fun each => ?_⟩, fun each ended => ?_⟩
    · by_cases here : each = stream
      · subst here
        simpa using written each
      · simpa [Function.update_of_ne here] using written each
    · by_cases here : each = stream
      · subst here
        simpa using (conserved.drained each ended).2
      · simpa [Function.update_of_ne here] using conserved.drained each ended
  | exit code =>
    simp only [childStep] at moved
    split at moved
    · cases moved
    · cases moved
      exact ⟨⟨appended, capturing, written⟩, conserved.drained⟩

theorem reader_step_conserved {request : BoundedProcessRequest} {before after : State}
    {stream : OutputStream} {action : ReaderAction}
    (moved : readerStep request before stream action = some after)
    (conserved : Conserved before) : Conserved after := by
  obtain ⟨appended, capturing, written⟩ := conserved.captured
  cases action with
  | read count =>
    simp only [readerStep] at moved
    split at moved
    case h_2 => cases moved
    case h_1 reading =>
      split at moved
      case isFalse => cases moved
      case isTrue =>
        cases moved
        refine ⟨⟨appended, capturing, fun each => ?_⟩, fun each ended => ?_⟩
        · by_cases here : each = stream
          · subst here
            simp [written each, reading, Reader.held, List.take_append_drop]
          · simpa [Function.update_of_ne here] using written each
        · by_cases here : each = stream
          · subst here
            simp at ended
          · simp only [Function.update_of_ne here] at ended ⊢
            exact conserved.drained each ended
  | append =>
    simp only [readerStep] at moved
    split at moved
    case h_2 => cases moved
    case h_1 chunk holding =>
      cases moved
      refine ⟨⟨_, capturing_append capturing stream chunk, fun each => ?_⟩,
        fun each ended => ?_⟩
      · by_cases here : each = stream
        · subst here
          simp [written each, holding, Reader.held]
        · simpa [Function.update_of_ne here] using written each
      · by_cases here : each = stream
        · subst here
          simp at ended
        · simp only [Function.update_of_ne here] at ended
          exact conserved.drained each ended
  | finish =>
    simp only [readerStep] at moved
    split at moved
    case h_2 => cases moved
    case h_1 reading =>
      split at moved
      case isFalse => cases moved
      case isTrue drained =>
        cases moved
        refine ⟨⟨appended, capturing, fun each => ?_⟩, fun each ended => ?_⟩
        · by_cases here : each = stream
          · subst here
            simp [written each, reading, Reader.held]
          · simpa [Function.update_of_ne here] using written each
        · by_cases here : each = stream
          · subst here
            exact drained
          · simp only [Function.update_of_ne here] at ended
            exact conserved.drained each ended

theorem conserved_started {state : State} (conserved : Conserved state) {stream : OutputStream}
    (unstarted : state.reader stream = .unstarted) :
    Conserved { state with reader := Function.update state.reader stream .reading } := by
  obtain ⟨appended, capturing, written⟩ := conserved.captured
  refine ⟨⟨appended, capturing, fun each => ?_⟩, fun each ended => ?_⟩
  · by_cases here : each = stream
    · subst here
      simp [written each, unstarted, Reader.held]
    · simpa [Function.update_of_ne here] using written each
  · by_cases here : each = stream
    · subst here
      simp at ended
    · simp only [Function.update_of_ne here] at ended
      exact conserved.drained each ended

/-! What the main thread knows -/

def Settled (state : State) : Prop := ∀ stream, state.reader stream = .ended

structure Complete (host : HostSystem) (state : State) : Prop where
  settled : Settled state
  unexceeded : state.capture.exceeded = false
  proven : host = .posix → state.treeCleanupProven = true

def Known (host : HostSystem) (decode : Bytes → Text) (state : State) : Main → Prop
  | .spawn => ∀ stream, state.reader stream = .unstarted
  | .handshake => ∀ stream, state.reader stream = .unstarted
  | .start .stdout => ∀ stream, state.reader stream = .unstarted
  | .start .stderr => state.reader .stderr = .unstarted
  | .joinedCheck => Settled state
  | .proveTree => Settled state ∧ state.capture.exceeded = false
  | .stdoutText => Complete host state
  | .stderrText stdout => Complete host state ∧ stdout = decode (state.capture.stored .stdout)
  | .ended (.ok result) =>
    Complete host state ∧ result.stdout = decode (state.capture.stored .stdout) ∧
      result.stderr = decode (state.capture.stored .stderr)
  | _ => True

theorem settled_of_joined {state : State} (joined : joinPipeReaders state = true) :
    Settled state := by
  unfold joinPipeReaders at joined
  split at joined
  case h_1 first second =>
      intro stream
      cases stream with
      | stdout => exact first
      | stderr => exact second
  case h_2 => cases joined

section Knowledge

variable {host : HostSystem} {decode : Bytes → Text} {request : BoundedProcessRequest}

theorem known_abort (state : State) (failure : Failure) :
    Known host decode (state.abort failure) (state.abort failure).main := by
  simp only [State.abort]
  split
  · split
    · split <;> trivial
    · trivial
  · trivial

theorem known_stopped (state : State) (stop : Stop) :
    Known host decode (state.stopped request stop) (state.stopped request stop).main := by
  cases stop with
  | timedOut => trivial
  | outputLimit | livePipes => exact known_abort state _

variable {before after : State}

theorem child_step_frame {action : ChildAction}
    (moved : childStep before action = some after) :
    after.reader = before.reader ∧ after.capture = before.capture ∧ after.main = before.main ∧
      after.treeCleanupProven = before.treeCleanupProven := by
  cases action with
  | write stream data | exit code =>
    simp only [childStep] at moved
    split at moved
    · cases moved
    · cases moved
      exact ⟨rfl, rfl, rfl, rfl⟩
  | close stream =>
    cases moved
    exact ⟨rfl, rfl, rfl, rfl⟩

theorem known_of_same (reader : after.reader = before.reader)
    (capture : after.capture = before.capture)
    (proven : after.treeCleanupProven = before.treeCleanupProven) {main : Main}
    (known : Known host decode before main) : Known host decode after main := by
  have complete : Complete host before → Complete host after := fun held =>
    ⟨fun stream => reader ▸ held.settled stream, capture ▸ held.unexceeded, proven ▸ held.proven⟩
  cases main with
  | spawn | handshake | joinedCheck => exact fun stream => reader ▸ known stream
  | start next =>
    cases next with
    | stdout => exact fun stream => reader ▸ known stream
    | stderr => exact (congrFun reader .stderr).trans known
  | proveTree => exact ⟨fun stream => reader ▸ known.1 stream, capture ▸ known.2⟩
  | stdoutText => exact complete known
  | stderrText stdout => exact ⟨complete known.1, capture ▸ known.2⟩
  | ended outcome =>
    cases outcome with
    | ok result => exact ⟨complete known.1, capture ▸ known.2⟩
    | error failure => trivial
  | _ => trivial

theorem child_step_known {action : ChildAction}
    (moved : childStep before action = some after) (known : Known host decode before before.main) :
    Known host decode after after.main := by
  obtain ⟨reader, capture, main, proven⟩ := child_step_frame moved
  rw [main]
  exact known_of_same reader capture proven known

section

variable {stream : OutputStream} {action : ReaderAction}
  (moved : readerStep request before stream action = some after)
include moved

theorem reader_step_frame :
    before.reader stream ≠ .ended ∧ before.reader stream ≠ .unstarted ∧
      after.main = before.main ∧ after.treeCleanupProven = before.treeCleanupProven ∧
        ∀ other, other ≠ stream → after.reader other = before.reader other := by
  cases action with
  | read count | finish =>
    simp only [readerStep] at moved
    split at moved
    case h_2 => cases moved
    case h_1 reading =>
      split at moved
      case isFalse => cases moved
      case isTrue =>
        cases moved
        exact ⟨by simp [reading], by simp [reading], rfl, rfl,
          fun other here => Function.update_of_ne here _ _⟩
  | append =>
    simp only [readerStep] at moved
    split at moved
    case h_2 => cases moved
    case h_1 chunk holding =>
      cases moved
      exact ⟨by simp [holding], by simp [holding], rfl, rfl,
        fun other here => Function.update_of_ne here _ _⟩

theorem reader_step_known
    (known : Known host decode before before.main) : Known host decode after after.main := by
  obtain ⟨unended, started, main, -, others⟩ := reader_step_frame moved
  rw [main]
  generalize before.main = here at known ⊢
  cases here with
  | spawn | handshake => exact absurd (known stream) started
  | start next =>
    cases next with
    | stdout => exact absurd (known stream) started
    | stderr =>
      have elsewhere : OutputStream.stderr ≠ stream := fun same => started (same ▸ known)
      exact (others .stderr elsewhere).trans known
  | joinedCheck => exact absurd (known stream) unended
  | proveTree => exact absurd (known.1 stream) unended
  | stdoutText => exact absurd (known.settled stream) unended
  | stderrText stdout => exact absurd (known.1.settled stream) unended
  | ended outcome =>
    cases outcome with
    | ok result => exact absurd (known.1.settled stream) unended
    | error failure => trivial
  | _ => trivial

end

/-- What a step of the main thread leaves as it was: the pipes and the capture, and every reader
but one that it starts. -/
structure MainFrame (host : HostSystem) (action : MainAction) (before after : State) : Prop where
  pipe : after.pipe = before.pipe
  capture : after.capture = before.capture
  reader : after.reader = before.reader ∨ ∃ stream, before.reader stream = .unstarted ∧
    after.reader = Function.update before.reader stream .reading
  /-- The flag is set by a termination that was proven only. -/
  proven : after.treeCleanupProven = true → before.treeCleanupProven = true ∨
    ∃ looks, action = .terminate looks ∧ terminateProcessTree host looks = true

theorem main_frame_abort {action : MainAction} (state : State) (failure : Failure) :
    MainFrame host action state (state.abort failure) := ⟨rfl, rfl, .inl rfl, .inl⟩

theorem main_frame_stopped {action : MainAction} (state : State) (stop : Stop) :
    MainFrame host action state
      (State.stopped request { state with readerCleanupProven := true } stop) := by
  cases stop <;> exact ⟨rfl, rfl, .inl rfl, .inl⟩

/-- What the main thread knows at its next point follows from what it knew and saw. -/
theorem main_step_spec {action : MainAction}
    (moved : mainStep host decode request before action = some after)
    (known : Known host decode before before.main) :
    MainFrame host action before after ∧ Known host decode after after.main := by
  unfold mainStep at moved
  split at moved
  case h_1 =>
      split at moved
      case isTrue =>
        cases moved
        exact ⟨⟨rfl, rfl, .inl rfl, .inl⟩, trivial⟩
      case isFalse =>
        split at moved
        case h_1 failure =>
          cases moved
          exact ⟨main_frame_abort before failure, known_abort before failure⟩
        case h_2 here _ _ =>
          cases moved
          rw [here] at known
          exact ⟨⟨rfl, rfl, .inl rfl, .inl⟩, known⟩
  case h_2 failure here | h_25 failure _ _ _ =>
      cases moved
      exact ⟨main_frame_abort before failure, known_abort before failure⟩
  case h_3 started here =>
      cases moved
      rw [here] at known
      exact ⟨⟨rfl, rfl, .inl rfl, .inl⟩, known⟩
  case h_4 stream here =>
      cases moved
      rw [here] at known
      cases stream with
      | stdout =>
        have elsewhere : Function.update before.reader .stdout .reading .stderr =
            before.reader .stderr := Function.update_of_ne (by decide) _ _
        exact ⟨⟨rfl, rfl, .inr ⟨.stdout, known .stdout, rfl⟩, .inl⟩,
          elsewhere.trans (known .stderr)⟩
      | stderr => exact ⟨⟨rfl, rfl, .inr ⟨.stderr, known, rfl⟩, .inl⟩, trivial⟩
  case h_5 | h_6 | h_7 | h_8 | h_9 | h_10 =>
      cases moved
      exact ⟨⟨rfl, rfl, .inl rfl, .inl⟩, by dsimp only; split <;> trivial⟩
  case h_11 =>
      split at moved
      case isTrue joined =>
        cases moved
        exact ⟨⟨rfl, rfl, .inl rfl, .inl⟩, settled_of_joined joined⟩
      case isFalse =>
        cases moved
        exact ⟨⟨rfl, rfl, .inl rfl, .inl⟩, trivial⟩
  case h_12 here =>
      -- The readers have ended, so that this look at the capture is the last that is needed.
      cases moved
      rw [here] at known
      refine ⟨⟨rfl, rfl, .inl rfl, .inl⟩, ?_⟩
      dsimp only
      split
      case isTrue => trivial
      case isFalse unexceeded =>
        have complete := eq_false_of_ne_true unexceeded
        split
        case isTrue => exact ⟨known, complete⟩
        case isFalse elsewhere => exact ⟨known, complete, fun posix => absurd posix elsewhere⟩
  case h_13 looks here =>
      rw [here] at known
      split at moved
      case isTrue proven =>
        cases moved
        exact ⟨⟨rfl, rfl, .inl rfl, fun _ => .inr ⟨looks, rfl, proven⟩⟩, known.1, known.2,
          fun _ => rfl⟩
      case isFalse =>
        cases moved
        exact ⟨main_frame_abort before _, known_abort before _⟩
  case h_14 here =>
      cases moved
      rw [here] at known
      exact ⟨⟨rfl, rfl, .inl rfl, .inl⟩, ⟨known.settled, known.unexceeded, known.proven⟩, rfl⟩
  case h_15 stdout here =>
      rw [here] at known
      split at moved
      case h_1 =>
        cases moved
        exact ⟨main_frame_abort before _, known_abort before _⟩
      case h_2 =>
        cases moved
        exact ⟨⟨rfl, rfl, .inl rfl, .inl⟩, ⟨known.1.settled, known.1.unexceeded, known.1.proven⟩,
          known.2, rfl⟩
  case h_16 looks _ =>
      split at moved
      case isTrue proven =>
        cases moved
        exact ⟨⟨rfl, rfl, .inl rfl, fun _ => .inr ⟨looks, rfl, proven⟩⟩, trivial⟩
      case isFalse =>
        cases moved
        exact ⟨main_frame_abort before _, known_abort before _⟩
  case h_17 stop _ =>
      split at moved
      case isTrue =>
        cases moved
        exact ⟨main_frame_stopped before stop, known_stopped _ stop⟩
      case isFalse =>
        cases moved
        exact ⟨main_frame_abort before _, known_abort before _⟩
  case h_18 | h_21 =>
      cases moved
      exact ⟨⟨rfl, rfl, .inl rfl, .inl⟩, trivial⟩
  case h_19 =>
      cases moved
      exact ⟨main_frame_abort before _, known_abort before _⟩
  case h_20 looks _ =>
      cases moved
      exact ⟨⟨rfl, rfl, .inl rfl, fun proven => .inr ⟨looks, rfl, proven⟩⟩,
        by dsimp only; split <;> trivial⟩
  all_goals cases moved

theorem main_frame_conserved {action : MainAction} {before after : State}
    (frame : MainFrame host action before after)
    (conserved : Conserved before) : Conserved after := by
  obtain ⟨reader, captured, drained⟩ : ∃ reader, after.reader = reader ∧
      Conserved { before with reader := reader } := by
    rcases frame.reader with same | ⟨stream, unstarted, started⟩
    · exact ⟨_, same, conserved⟩
    · exact ⟨_, started, conserved_started conserved unstarted⟩
  obtain ⟨appended, capturing, written⟩ := drained.captured
  subst captured
  exact {
    captured := ⟨appended, frame.capture ▸ capturing, fun stream => frame.pipe ▸ written stream⟩
    drained := fun stream ended => frame.pipe ▸ drained.drained stream ended }

theorem step_keeps {action : Action} {before after : State}
    (moved : step host decode request action before = some after)
    (held : Conserved before ∧ Known host decode before before.main) :
    Conserved after ∧ Known host decode after after.main := by
  cases action with
  | child action =>
    exact ⟨child_step_conserved moved held.1, child_step_known moved held.2⟩
  | reader stream action =>
    exact ⟨reader_step_conserved moved held.1, reader_step_known moved held.2⟩
  | main action =>
    have spec := main_step_spec moved held.2
    exact ⟨main_frame_conserved spec.1 held.1, spec.2⟩

theorem complete_of_returned {state : State} (conserved : Conserved state)
    (known : Known host decode state state.main) {result : BoundedProcessResult}
    (returned : state.main = .ended (.ok result)) :
    (∀ stream, state.reader stream = .ended ∧ (state.pipe stream).closed = true ∧
      (state.pipe stream).unread = []) ∧
    result.stdout = decode (state.pipe .stdout).written ∧
    result.stderr = decode (state.pipe .stderr).written ∧
    (host = .posix → state.treeCleanupProven = true) := by
  rw [returned] at known
  obtain ⟨complete, stdout, stderr⟩ := known
  obtain ⟨appended, capturing, written⟩ := conserved.captured
  have stored : ∀ stream, state.capture.stored stream = (state.pipe stream).written := by
    intro stream
    rw [written, complete.settled, (conserved.drained stream (complete.settled stream)).2,
      capturing.complete complete.unexceeded]
    simp [Reader.held]
  exact ⟨fun stream => ⟨complete.settled stream,
    conserved.drained stream (complete.settled stream)⟩, stdout.trans (by rw [stored]),
    stderr.trans (by rw [stored]), complete.proven⟩

theorem run_proven (actions : List Action) :
    ∀ before after, run (step host decode request) actions before = some after →
      Known host decode before before.main → after.treeCleanupProven = true →
        before.treeCleanupProven = true ∨ ∃ looks, Action.main (.terminate looks) ∈ actions ∧
          terminateProcessTree host looks = true := by
  induction actions with
  | nil =>
    intro before after ran _ proven
    cases ran
    exact .inl proven
  | cons action rest ih =>
    intro before after ran known proven
    obtain ⟨between, moved, later⟩ := run_cons ran
    have next : Known host decode between between.main := by
      cases action with
      | child action => exact child_step_known moved known
      | reader stream action => exact reader_step_known moved known
      | main action => exact (main_step_spec moved known).2
    rcases ih between after later next proven with earlier | ⟨looks, taken, terminated⟩
    · cases action with
      | child action => exact .inl ((child_step_frame moved).2.2.2 ▸ earlier)
      | reader stream action => exact .inl ((reader_step_frame moved).2.2.2.1 ▸ earlier)
      | main action =>
        rcases (main_step_spec moved known).1.proven earlier with
          set | ⟨looks, here, terminated⟩
        · exact .inl set
        · exact .inr ⟨looks, here ▸ List.mem_cons_self, terminated⟩
    · exact .inr ⟨looks, List.mem_cons_of_mem _ taken, terminated⟩

end Knowledge

theorem known_initial (host : HostSystem) (decode : Bytes → Text)
    (request : BoundedProcessRequest) :
    Known host decode (.initial request) (State.initial request).main := fun _ => rfl

/-- The capture is exact for every order of the appends, and a run of the whole returns a result
with all that was written to both pipes only, after both readers ended and, on POSIX, after a
termination of the tree that was proven. -/
theorem bounded_output_is_complete (host : HostSystem) (decode : Bytes → Text) :
    (∀ limit output, BoundedOutput.create limit = .ok output → ∀ calls,
      Captures (calls.foldl (fun output call => output.append call.1 call.2) output)
        (given calls)) ∧
    ∀ request actions state result,
      run (step host decode request) actions (.initial request) = some state →
      state.main = .ended (.ok result) →
        (∀ stream, state.reader stream = .ended ∧ (state.pipe stream).closed = true ∧
          (state.pipe stream).unread = []) ∧
        result.stdout = decode (state.pipe .stdout).written ∧
        result.stderr = decode (state.pipe .stderr).written ∧
        (host = .posix → ∃ looks, Action.main (.terminate looks) ∈ actions ∧
          terminateProcessTree host looks = true) := by
  refine ⟨fun limit output created calls => created_captures created calls, ?_⟩
  intro request actions state result ran returned
  have initially := And.intro (conserved_initial request) (known_initial host decode request)
  obtain ⟨conserved, known⟩ := run_keeps
    (fun _ _ _ moved held => step_keeps moved held) actions _ _ ran initially
  obtain ⟨drained, stdout, stderr, proven⟩ := complete_of_returned conserved known returned
  refine ⟨drained, stdout, stderr, fun posix => ?_⟩
  rcases run_proven actions _ _ ran initially.2 (proven posix) with before | terminated
  · cases before
  · exact terminated

def twoByteRun : List Action :=
  [.main (.spawn none), .main (.handshake (.ok true)), .main .start, .main .start,
    .child (.write .stdout [104, 105]), .main (.clock false), .reader .stdout (.read 1),
    .main .poll, .main .check, .reader .stdout .append, .child (.exit 0), .child (.close .stdout),
    .main (.clock false), .main .poll, .reader .stdout (.read 1), .main .check,
    .reader .stdout .append, .child (.close .stderr), .reader .stderr .finish,
    .reader .stdout .finish, .main .join, .main .check,
    .main (.terminate ⟨.noProcess, [], .noProcess, [], none, none, true⟩), .main .text,
    .main .text]

def twoByteRequest : BoundedProcessRequest :=
  ⟨["print"], ⟨2, 1, by decide⟩, true⟩

def readAscii (bytes : Bytes) : Text := bytes.map fun byte => Char.ofNat byte.toNat

theorem bounded_output_is_complete_two_bytes :
    ∃ state, run (step .posix readAscii twoByteRequest) twoByteRun (.initial twoByteRequest) =
        some state ∧
      state.main = .ended (.ok ⟨["print"], 0, "hi", [], true⟩) ∧
      ∃ looks, Action.main (.terminate looks) ∈ twoByteRun ∧
        terminateProcessTree .posix looks = true :=
  ⟨_, rfl, rfl, ((bounded_output_is_complete .posix readAscii).2 twoByteRequest twoByteRun _ _ rfl
    rfl).2.2.2 rfl⟩

end EvoomGuard.Execution.Process
