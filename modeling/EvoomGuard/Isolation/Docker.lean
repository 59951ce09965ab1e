import EvoomGuard.Lib.Lines
import EvoomGuard.Lib.Phase

/-!
`cleanup_named_container` of `isolation/docker.py`. The daemon, the clock and the sleeper are a
host that answers from a world of its own, so every sequence of answers is the run of some host;
the events of a run say in which order it asked. The arithmetic of floats is the host's.
-/

namespace EvoomGuard.Isolation.Docker

open Lib Lib.Phase

/-! The facts of one control command -/

structure CompletedProcess where
  returncode : Int
  stdout : Option Text
  stderr : Option Text
  deriving DecidableEq

structure DockerControlResult where
  command : List Text
  returncode : Int
  stdout : Text
  stderr : Text
  deriving DecidableEq

def DockerControlResult.fromCompleted (completed : CompletedProcess) (command : List Text) :
    DockerControlResult where
  command := command
  returncode := completed.returncode
  stdout := completed.stdout.getD []
  stderr := completed.stderr.getD []

/-- `absent` is nothing when Docker could not provide trustworthy evidence. -/
structure DockerContainerAbsenceObservation where
  name : Text
  absent : Option Bool
  query : Option DockerControlResult
  error : Option Text
  deriving DecidableEq

namespace DockerContainerAbsenceObservation

def proven (observation : DockerContainerAbsenceObservation) : Bool :=
  observation.absent == some true

def observed (observation : DockerContainerAbsenceObservation) : Bool :=
  observation.absent.isSome

/-- The observation reports that the container is there. -/
def present (observation : DockerContainerAbsenceObservation) : Bool :=
  observation.absent == some false

end DockerContainerAbsenceObservation

structure DockerContainerCleanupResult where
  name : Text
  removals : List DockerControlResult
  observations : List DockerContainerAbsenceObservation
  provenAbsent : Bool
  error : Option Text
  deriving DecidableEq

/-- What a cleanup asks. A call that raises answers with the name of the exception's type. -/
structure Host (World : Type) where
  controlRunner : List Text → Rat → World → Except Text CompletedProcess × World
  absenceProbe : Option
    (Text → Rat → World → Except Text DockerContainerAbsenceObservation × World)
  monotonic : World → Rat × World
  sleeper : Rat → World → Except Text Unit × World
  plus : Rat → Rat → Rat
  minus : Rat → Rat → Rat

/-- `_DOCKER_CONTAINER_NAME`. -/
def validDockerContainerName (name : Text) : Bool :=
  name.head?.any Char.isAlphanum &&
    name.all fun character => character.isAlphanum || ['_', '.', '-'].contains character

def removalCommand (name : Text) : List Text := ["docker", "rm", "-f", name]

def enumerationCommand (name : Text) : List Text :=
  ["docker", "container", "ls", "--all", "--filter".toList,
    "name=" ++ name, "--format", "\x7b\x7b.Names\x7d\x7d".toList]

/-! One observation -/

section

variable {World : Type} (host : Host World) (name : Text)

/-- The observation that an answer of the enumeration is. -/
def absenceOf : Except Text CompletedProcess → DockerContainerAbsenceObservation
  | .error raised => { name, absent := none, query := none, error := some raised }
  | .ok completed =>
    let listed := DockerControlResult.fromCompleted completed (enumerationCommand name)
    if listed.returncode ≠ 0 then
      { name, absent := none, query := some listed, error := some "docker_query_failed" }
    else
      { name, absent := some !(Text.splitlines listed.stdout).contains name,
        query := some listed, error := none }

def probeContainerAbsent (timeout : Rat) (world : World) :
    DockerContainerAbsenceObservation × World :=
  if validDockerContainerName name then
    let (answer, after) := host.controlRunner (enumerationCommand name) timeout world
    (absenceOf name answer, after)
  else
    ({ name, absent := none, query := none, error := some "invalid_container_name" }, world)

end

/-- A report of absence or presence is read off one successful enumeration, by exact lines. -/
def Enumerated (name : Text) (observation : DockerContainerAbsenceObservation) : Prop :=
  ∀ absent, observation.absent = some absent → ∃ listed, observation.query = some listed ∧
    listed.command = enumerationCommand name ∧ listed.returncode = 0 ∧
      (absent = true ↔ name ∉ Text.splitlines listed.stdout)

theorem absence_of_enumerated (name : Text) (answer : Except Text CompletedProcess) :
    Enumerated name (absenceOf name answer) := by
  intro absent reported
  cases answer with
  | error raised => cases reported
  | ok completed =>
    by_cases failed : completed.returncode = 0
    · simp only [absenceOf, DockerControlResult.fromCompleted, failed, ne_eq, not_true_eq_false,
        if_false, Option.some.injEq] at reported ⊢
      refine ⟨_, rfl, rfl, rfl, ?_⟩
      rw [← reported]
      simp
    · simp [absenceOf, DockerControlResult.fromCompleted, failed] at reported

theorem probe_container_absent_enumerated {World : Type} (host : Host World) (name : Text)
    (timeout : Rat) (world : World) :
    Enumerated name (probeContainerAbsent host name timeout world).1 := by
  by_cases valid : validDockerContainerName name = true
  · simp only [probeContainerAbsent, valid, if_true]
    exact absence_of_enumerated name _
  · intro absent reported
    simp [probeContainerAbsent, valid] at reported

/-! The arguments -/

/-- A numeric argument as the checks tell it apart. -/
inductive Argument where
  | bool (value : Bool)
  | int (value : Int)
  | float (value : Rat)
  | notFinite
  | other
  deriving DecidableEq

/-- `math.isfinite` converts an integer to a float first, which raises for these. -/
def overflows (value : Int) : Bool := decide (2 ^ 1024 - 2 ^ 970 ≤ value.natAbs)

/-- Why a cleanup gives no result: a check of its arguments, or a call that raised. -/
inductive Failure where
  | valueError (message : Text)
  | raised (typeName : Text)
  deriving DecidableEq

structure CleanupArguments where
  controlTimeout : Argument := .float 30
  totalTimeout : Argument := .float 10
  reconcileAttempts : Argument := .int 10
  reconcileInterval : Argument := .float (1 / 20)
  requiredFinalAbsentObservations : Argument := .int 3

def durationOf (label : Text) (allowZero : Bool) (argument : Argument) : Except Failure Rat :=
  let refusal : Except Failure Rat := .error (.valueError (label ++ " must be finite and ".toList ++
    if allowZero then "non-negative".toList else "positive".toList))
  let checked (value : Rat) : Except Failure Rat :=
    if value < 0 ∨ (allowZero = false ∧ value = 0) then refusal else .ok value
  match argument with
  | .int value => if overflows value then .error (.raised "OverflowError".toList) else checked value
  | .float value => checked value
  | _ => refusal

def attemptsOf : Argument → Except Failure Nat
  | .int value =>
    if value < 1 then
      .error (.valueError "reconcile_attempts must be a positive integer")
    else .ok value.toNat
  | _ => .error (.valueError "reconcile_attempts must be a positive integer")

def requiredOf (attempts : Nat) (argument : Argument) : Except Failure Nat :=
  let refusal : Except Failure Nat := .error (.valueError
    "required_final_absent_observations must be between 1 and reconcile_attempts")
  match argument with
  | .int value => if value < 1 ∨ attempts < value then refusal else .ok value.toNat
  | _ => refusal

/-- Arguments that passed their checks. -/
structure CleanupLimits where
  controlTimeout : Rat
  totalTimeout : Rat
  attempts : Nat
  interval : Rat
  required : Nat
  required_positive : 1 ≤ required
  required_attempts : required ≤ attempts

theorem required_of_ok {attempts required : Nat} {argument : Argument}
    (passed : requiredOf attempts argument = .ok required) : 1 ≤ required ∧ required ≤ attempts := by
  unfold requiredOf at passed
  split at passed
  · split at passed
    · cases passed
    · cases passed
      omega
  · cases passed

def limitsOf (arguments : CleanupArguments) : Except Failure CleanupLimits :=
  match durationOf "control_timeout" false arguments.controlTimeout,
      durationOf "total_timeout" false arguments.totalTimeout,
      durationOf "reconcile_interval" true arguments.reconcileInterval,
      attemptsOf arguments.reconcileAttempts with
  | .error failure, _, _, _ => .error failure
  | _, .error failure, _, _ => .error failure
  | _, _, .error failure, _ => .error failure
  | _, _, _, .error failure => .error failure
  | .ok controlTimeout, .ok totalTimeout, .ok interval, .ok attempts =>
    match passed : requiredOf attempts arguments.requiredFinalAbsentObservations with
    | .error failure => .error failure
    | .ok required =>
      .ok ⟨controlTimeout, totalTimeout, attempts, interval, required,
        (required_of_ok passed).1, (required_of_ok passed).2⟩

/-! The loop -/

/-- What a cleanup asked and was told: a reading of the time that remains, a removal, or an
observation. A removal whose call raised has no result. -/
inductive Event where
  | reading (remaining : Rat)
  | removal (answer : Except Text DockerControlResult)
  | observation (observed : DockerContainerAbsenceObservation)

def removalResult : Event → Option DockerControlResult
  | .removal (.ok result) => some result
  | _ => none

def observationOf : Event → Option DockerContainerAbsenceObservation
  | .observation observed => some observed
  | _ => none

def Event.isRemoval : Event → Bool
  | .removal _ => true
  | _ => false

def observations (events : List Event) : List DockerContainerAbsenceObservation :=
  events.filterMap observationOf

def removalsIssued (events : List Event) : Nat := events.countP Event.isRemoval

structure Run (World : Type) where
  world : World
  events : List Event := []

inductive Ending where
  | failed (failure : Failure)
  | returned (result : DockerContainerCleanupResult)

section Cleanup

variable {World : Type} (host : Host World) (limits : CleanupLimits) (name : Text) (deadline : Rat)

def resultOf (proven : Bool) (error : Option Text) (events : List Event) :
    DockerContainerCleanupResult where
  name := name
  removals := events.filterMap removalResult
  observations := observations events
  provenAbsent := proven
  error := error

/-- `return result(False, error)`. -/
def giveUp {Value : Type} (error : Text) : Phase Ending (Run World) Value := do
  let run ← get
  throw (.returned (resultOf name false (some error) run.events))

def readRemaining : Phase Ending (Run World) Rat :=
  modifyGet fun run =>
    let (now, world) := host.monotonic run.world
    let remaining := host.minus deadline now
    (remaining, ⟨world, run.events ++ [.reading remaining]⟩)

def exhausted : Text := "cleanup_deadline_exhausted"

/-- `remaining_timeout`, with what every caller does when nothing remains. -/
def remainingTimeout : Phase Ending (Run World) Rat := do
  let remaining ← readRemaining host deadline
  if remaining ≤ 0 then giveUp name exhausted else pure (min limits.controlTimeout remaining)

def issueRemoval (timeout : Rat) : Phase Ending (Run World) (Except Text DockerControlResult) :=
  modifyGet fun run =>
    let (answer, world) := host.controlRunner (removalCommand name) timeout run.world
    let recorded := answer.map (DockerControlResult.fromCompleted · (removalCommand name))
    (recorded, ⟨world, run.events ++ [.removal recorded]⟩)

def remove : Phase Ending (Run World) Unit := do
  let timeout ← remainingTimeout host limits name deadline
  match ← issueRemoval host name timeout with
  | .error raised => giveUp name raised
  | .ok _ => pure ()

def observe (timeout : Rat) : Phase Ending (Run World) DockerContainerAbsenceObservation :=
  fun run =>
    match host.absenceProbe with
    | none =>
      let (observation, world) := probeContainerAbsent host name timeout run.world
      .ok observation ⟨world, run.events ++ [.observation observation]⟩
    | some probe =>
      match probe name timeout run.world with
      | (.ok observation, world) =>
        .ok observation ⟨world, run.events ++ [.observation observation]⟩
      | (.error raised, world) => .error (.failed (.raised raised)) ⟨world, run.events⟩

def sleep (seconds : Rat) : Phase Ending (Run World) Unit := fun run =>
  match host.sleeper seconds run.world with
  | (.ok (), world) => .ok () ⟨world, run.events⟩
  | (.error raised, world) => .error (.failed (.raised raised)) ⟨world, run.events⟩

/-- Between two attempts; after the last one there is no pause. -/
def pauseBefore : Nat → Phase Ending (Run World) Unit
  | 0 => pure ()
  | _ + 1 => do
      let remaining ← readRemaining host deadline
      if remaining ≤ 0 then giveUp name exhausted
      else sleep host (min limits.interval remaining)

/-- The error of an unknown observation, where an empty text counts as none. -/
def unverifiable (observation : DockerContainerAbsenceObservation) : Text :=
  (observation.error.filter (!·.isEmpty)).getD "absence_unverifiable"

/-- One attempt: the consecutive absences after it. -/
def attempt (absences : Nat) : Phase Ending (Run World) Nat := do
  let timeout ← remainingTimeout host limits name deadline
  let observation ← observe host name timeout
  match observation.absent with
  | none => giveUp name (unverifiable observation)
  | some true => pure (absences + 1)
  | some false => do
      remove host limits name deadline
      pure 0

def reconcile : Nat → Nat → Phase Ending (Run World) Nat
  | 0, absences => pure absences
  | left + 1, absences => do
      let absences ← attempt host limits name deadline absences
      pauseBefore host limits name deadline left
      reconcile left absences

def readDeadline : Phase Ending (Run World) Rat :=
  modifyGet fun run =>
    let (now, world) := host.monotonic run.world
    (host.plus now limits.totalTimeout, ⟨world, run.events⟩)

def cleanupProgram : Phase Ending (Run World) Ending := do
  let deadline ← readDeadline host limits
  remove host limits name deadline
  let absences ← reconcile host limits name deadline limits.attempts 0
  let run ← get
  let proven := decide (limits.required ≤ absences)
  pure (.returned (resultOf name proven
    (if proven then none else some "absence_not_stable") run.events))

end Cleanup

def cleanupNamedContainer {World : Type} (host : Host World) (arguments : CleanupArguments)
    (name : Text) (world : World) : Run World × Ending :=
  match limitsOf arguments with
  | .error failure => ({ world }, .failed failure)
  | .ok limits =>
    if validDockerContainerName name then finish (cleanupProgram host limits name) { world }
    else ({ world }, .returned
      (resultOf name false (some "invalid_container_name") []))

/-! What a cleanup that proves absence has done -/

/-- No call failed, nothing stayed unknown, and time remained when it was read. -/
def Event.Sound : Event → Prop
  | .reading remaining => 0 < remaining
  | .removal answer => ∃ result, answer = .ok result
  | .observation observed => observed.observed = true

/-- So many observations at the end, all of absence, and no removal after the first of them. -/
def EndsAbsent (absences : Nat) (events : List Event) : Prop :=
  ∃ before after, events = before ++ after ∧ removalsIssued after = 0 ∧
    (observations after).length = absences ∧
      ∀ observation ∈ observations after, observation.proven = true

/-- What holds of the events after some observations, with the consecutive absences counted. -/
structure Standing (probe : Prop) (name : Text) (made absences : Nat) (events : List Event) :
    Prop where
  sound : ∀ event ∈ events, event.Sound
  made : (observations events).length = made
  balance : removalsIssued events = 1 + (observations events).countP (·.present)
  settled : EndsAbsent absences events
  enumerated : probe → ∀ observation ∈ observations events, Enumerated name observation

theorem observations_append (first second : List Event) :
    observations (first ++ second) = observations first ++ observations second :=
  List.filterMap_append

theorem removals_issued_append (first second : List Event) :
    removalsIssued (first ++ second) = removalsIssued first + removalsIssued second :=
  List.countP_append

theorem observations_reading (remaining : Rat) : observations [.reading remaining] = [] := rfl

theorem removals_issued_reading (remaining : Rat) : removalsIssued [.reading remaining] = 0 := rfl

theorem observations_observation (observation : DockerContainerAbsenceObservation) :
    observations [.observation observation] = [observation] := rfl

theorem removals_issued_observation (observation : DockerContainerAbsenceObservation) :
    removalsIssued [.observation observation] = 0 := rfl

theorem observations_removal (answer : Except Text DockerControlResult) :
    observations [.removal answer] = [] := rfl

theorem removals_issued_removal (answer : Except Text DockerControlResult) :
    removalsIssued [.removal answer] = 1 := rfl

theorem ends_absent_append {absences : Nat} {events : List Event} (more : List Event)
    (settled : EndsAbsent absences events) (quiet : removalsIssued more = 0)
    (absent : ∀ observation ∈ observations more, observation.proven = true) :
    EndsAbsent (absences + (observations more).length) (events ++ more) := by
  obtain ⟨before, after, rfl, still, counted, all⟩ := settled
  refine ⟨before, after ++ more, List.append_assoc _ _ _, ?_, ?_, ?_⟩
  · rw [removals_issued_append, still, quiet]
  · rw [observations_append, List.length_append, counted]
  · intro observation member
    rw [observations_append, List.mem_append] at member
    exact member.elim (all observation) (absent observation)

theorem ends_absent_zero (events : List Event) : EndsAbsent 0 events :=
  ⟨events, [], (List.append_nil events).symm, rfl, rfl, fun _ member => nomatch member⟩

theorem exists_last_observations (count : Nat) (events : List Event)
    (enough : count ≤ (observations events).length) :
    ∃ before after, events = before ++ after ∧ (observations after).length = count := by
  induction events with
  | nil => exact ⟨[], [], rfl, (Nat.le_zero.1 enough).symm⟩
  | cons event rest ih =>
    by_cases later : count ≤ (observations rest).length
    · obtain ⟨before, after, split, counted⟩ := ih later
      exact ⟨event :: before, after, congrArg (event :: ·) split, counted⟩
    · refine ⟨[], event :: rest, rfl, ?_⟩
      rw [← List.singleton_append, observations_append, List.length_append] at enough ⊢
      have one : (observations [event]).length ≤ 1 := List.length_filterMap_le _ _
      omega

theorem ends_absent_of_le {absences required : Nat} {events : List Event}
    (settled : EndsAbsent absences events) (enough : required ≤ absences) :
    EndsAbsent required events := by
  obtain ⟨before, after, rfl, still, counted, all⟩ := settled
  obtain ⟨first, last, rfl, exact⟩ :=
    exists_last_observations required after (counted.symm ▸ enough)
  rw [removals_issued_append] at still
  refine ⟨before ++ first, last, (List.append_assoc _ _ _).symm, by omega, exact, ?_⟩
  intro observation member
  apply all
  rw [observations_append]
  exact List.mem_append_right _ member

section Standing

variable {probe : Prop} {name : Text} {made absences : Nat} {events : List Event}

theorem sound_append {more : List Event} (sound : ∀ event ∈ events, event.Sound)
    (others : ∀ event ∈ more, event.Sound) : ∀ event ∈ events ++ more, event.Sound := by
  intro event member
  exact (List.mem_append.1 member).elim (sound event) (others event)

theorem standing_start (remaining : Rat) (result : DockerControlResult) (time : 0 < remaining) :
    Standing probe name 0 0 ([.reading remaining] ++ [.removal (.ok result)]) where
  sound := sound_append (by simpa [Event.Sound] using time) (by simp [Event.Sound])
  made := rfl
  balance := rfl
  settled := ends_absent_zero _
  enumerated _ _ member := nomatch member

theorem standing_reading (standing : Standing probe name made absences events) (remaining : Rat)
    (time : 0 < remaining) :
    Standing probe name made absences (events ++ [.reading remaining]) where
  sound := sound_append standing.sound (by simpa [Event.Sound] using time)
  made := by rw [observations_append, observations_reading, List.append_nil, standing.made]
  balance := by
    rw [observations_append, observations_reading, List.append_nil, removals_issued_append,
      removals_issued_reading, Nat.add_zero, standing.balance]
  settled := ends_absent_append _ standing.settled rfl fun _ member => nomatch member
  enumerated := by
    rw [observations_append, observations_reading, List.append_nil]
    exact standing.enumerated

theorem enumerated_append {observation : DockerContainerAbsenceObservation}
    (standing : Standing probe name made absences events)
    (enumerated : probe → Enumerated name observation) (holds : probe) :
    ∀ other ∈ observations events ++ [observation], Enumerated name other := by
  intro other member
  rcases List.mem_append.1 member with earlier | last
  · exact standing.enumerated holds other earlier
  · exact List.mem_singleton.1 last ▸ enumerated holds

section

variable (standing : Standing probe name made absences events)
  (observation : DockerContainerAbsenceObservation)
include standing

theorem standing_absent (absent : observation.absent = some true)
    (enumerated : probe → Enumerated name observation) :
    Standing probe name (made + 1) (absences + 1) (events ++ [.observation observation]) where
  sound := sound_append standing.sound
    (by simp [Event.Sound, DockerContainerAbsenceObservation.observed, absent])
  made := by
    rw [observations_append, observations_observation, List.length_append, standing.made]
    rfl
  balance := by
    rw [observations_append, observations_observation, removals_issued_append,
      removals_issued_observation, Nat.add_zero, standing.balance, List.countP_append]
    simp [DockerContainerAbsenceObservation.present, absent]
  settled := by
    apply ends_absent_append [.observation observation] standing.settled rfl
    intro other member
    rw [List.mem_singleton.1 member]
    simp [DockerContainerAbsenceObservation.proven, absent]
  enumerated holds := by
    rw [observations_append, observations_observation]
    exact enumerated_append standing enumerated holds

theorem standing_present (present : observation.absent = some false)
    (enumerated : probe → Enumerated name observation) (remaining : Rat) (time : 0 < remaining)
    (result : DockerControlResult) :
    Standing probe name (made + 1) 0
      (events ++ [.observation observation] ++ [.reading remaining] ++
        [.removal (.ok result)]) where
  sound := by
    apply sound_append
    · apply sound_append
      · exact sound_append standing.sound
          (by simp [Event.Sound, DockerContainerAbsenceObservation.observed, present])
      · simpa [Event.Sound] using time
    · simp [Event.Sound]
  made := by
    simp only [observations_append, observations_observation, observations_reading,
      observations_removal, List.append_nil, List.length_append, standing.made]
    rfl
  balance := by
    simp only [observations_append, observations_observation, observations_reading,
      observations_removal, List.append_nil, removals_issued_append, removals_issued_observation,
      removals_issued_reading, removals_issued_removal, standing.balance, List.countP_append]
    simp [DockerContainerAbsenceObservation.present, present]
    omega
  settled := ends_absent_zero _
  enumerated holds := by
    simp only [observations_append, observations_observation, observations_reading,
      observations_removal, List.append_nil]
    exact enumerated_append standing enumerated holds

end

end Standing

/-! How the steps of a cleanup end -/

/-- An ending that proves nothing. -/
def GaveUp (name : Text) {World : Type} (run : Run World) : Ending → Prop
  | .failed _ => True
  | .returned result => ∃ error, result = resultOf name false (some error) run.events

section Steps

variable {World : Type} (host : Host World) (limits : CleanupLimits) (name : Text) (deadline : Rat)

theorem give_up_ends {Value : Type} (error : Text) (run : Run World)
    (returns : Run World → Value → Prop) :
    Ends (giveUp name error) run (GaveUp name) returns := ⟨error, rfl⟩

theorem remaining_timeout_ends (run : Run World) :
    Ends (remainingTimeout host limits name deadline) run (GaveUp name) fun after _ =>
      ∃ remaining, 0 < remaining ∧ after.events = run.events ++ [.reading remaining] := by
  apply ends_modify_get_bind
  dsimp only
  split
  · exact give_up_ends name exhausted _ _
  · next time => exact ⟨_, not_le.1 time, rfl⟩

theorem remove_ends (run : Run World) :
    Ends (remove host limits name deadline) run (GaveUp name) fun after _ =>
      ∃ remaining result, 0 < remaining ∧
        after.events = run.events ++ [.reading remaining] ++ [.removal (.ok result)] := by
  apply ends_bind _ _ _ _ _ _ (remaining_timeout_ends host limits name deadline run)
  rintro timeout between ⟨remaining, time, asked⟩
  apply ends_modify_get_bind
  dsimp only
  cases answered : (host.controlRunner (removalCommand name) timeout between.world).1 with
  | error raised => exact give_up_ends name raised _ _
  | ok completed =>
    refine ⟨remaining, .fromCompleted completed (removalCommand name), time, ?_⟩
    rw [asked]
    rfl

theorem observe_ends (timeout : Rat) (run : Run World) :
    Ends (observe host name timeout) run (GaveUp name) fun after observation =>
      after.events = run.events ++ [.observation observation] ∧
        (host.absenceProbe = none → Enumerated name observation) := by
  unfold Ends observe
  cases injected : host.absenceProbe with
  | none => exact ⟨rfl, fun _ => probe_container_absent_enumerated host name timeout run.world⟩
  | some probe =>
    dsimp only
    cases answered : probe name timeout run.world with
    | mk answer world =>
      cases answer with
      | ok observation => exact ⟨rfl, fun built => nomatch built⟩
      | error raised => trivial

theorem pause_before_ends (left made absences : Nat) (run : Run World)
    (standing : Standing (host.absenceProbe = none) name made absences run.events) :
    Ends (pauseBefore host limits name deadline left) run (GaveUp name) fun after _ =>
      Standing (host.absenceProbe = none) name made absences after.events := by
  cases left with
  | zero => exact standing
  | succ more =>
    apply ends_modify_get_bind
    dsimp only
    split
    · exact give_up_ends name exhausted _ _
    · next time =>
        have paused := standing_reading standing _ (not_le.1 time)
        unfold Ends sleep
        split
        · next slept =>
            dsimp only at slept
            split at slept
            · cases slept
              exact paused
            · cases slept
        · next slept =>
            dsimp only at slept
            split at slept
            · cases slept
            · cases slept
              trivial

theorem attempt_ends (made absences : Nat) (run : Run World)
    (standing : Standing (host.absenceProbe = none) name made absences run.events) :
    Ends (attempt host limits name deadline absences) run (GaveUp name) fun after counted =>
      Standing (host.absenceProbe = none) name (made + 1) counted after.events := by
  apply ends_bind _ _ _ _ _ _ (remaining_timeout_ends host limits name deadline run)
  rintro timeout between ⟨remaining, time, asked⟩
  have waited := asked ▸ standing_reading standing remaining time
  apply ends_bind _ _ _ _ _ _ (observe_ends host name timeout between)
  rintro observation seen ⟨observed, enumerated⟩
  cases reported : observation.absent with
  | none => exact give_up_ends name _ _ _
  | some absent =>
    cases absent with
    | true =>
      have counted := standing_absent waited observation reported enumerated
      rw [← observed] at counted
      exact counted
    | false =>
      apply ends_bind _ _ _ _ _ _ (remove_ends host limits name deadline seen)
      rintro - after ⟨remaining, result, time, removed⟩
      have begun :=
        standing_present waited observation reported enumerated remaining time result
      rw [← observed, ← removed] at begun
      exact begun

theorem reconcile_ends (left made absences : Nat) (run : Run World)
    (standing : Standing (host.absenceProbe = none) name made absences run.events) :
    Ends (reconcile host limits name deadline left absences) run (GaveUp name) fun after counted =>
      Standing (host.absenceProbe = none) name (made + left) counted after.events := by
  induction left generalizing made absences run with
  | zero => exact standing
  | succ more ih =>
    apply ends_bind _ _ _ _ _ _ (attempt_ends host limits name deadline made absences run
      standing)
    intro counted between attempted
    apply ends_bind _ _ _ _ _ _ (pause_before_ends host limits name deadline more _ _ between
      attempted)
    intro _ paused rested
    have rest := ih (made + 1) counted paused rested
    rw [Nat.add_right_comm, Nat.add_assoc] at rest
    exact rest

end Steps

/-- What stands behind a proof of absence: as many observations as attempts, no unknown among
them, the required ones at the end, and one removal for each presence beside the first. -/
structure AbsenceProof (builtIn : Prop) (limits : CleanupLimits) (name : Text)
    (events : List Event) : Prop where
  attempts : (observations events).length = limits.attempts
  known : ∀ observation ∈ observations events, observation.observed = true
  final : EndsAbsent limits.required events
  removals : removalsIssued events = 1 + (observations events).countP (·.present)
  recorded : (events.filterMap removalResult).length = removalsIssued events
  enumerated : builtIn → ∀ observation ∈ observations events, Enumerated name observation

theorem removals_recorded {events : List Event} (sound : ∀ event ∈ events, event.Sound) :
    (events.filterMap removalResult).length = removalsIssued events := by
  induction events with
  | nil => rfl
  | cons event rest ih =>
    have others := ih fun other member => sound other (List.mem_cons_of_mem _ member)
    cases event with
    | reading remaining | observation observed => exact others
    | removal answer =>
      obtain ⟨result, rfl⟩ := sound _ List.mem_cons_self
      have counted : removalsIssued (.removal (.ok result) :: rest) = removalsIssued rest + 1 :=
        List.countP_cons_of_pos rfl
      rw [counted, ← others]
      rfl

theorem absence_proof_of_standing {builtIn : Prop} {limits : CleanupLimits} {name : Text}
    {absences : Nat} {events : List Event}
    (standing : Standing builtIn name limits.attempts absences events)
    (enough : limits.required ≤ absences) : AbsenceProof builtIn limits name events where
  attempts := standing.made
  known observation member := by
    obtain ⟨event, listed, same⟩ := List.mem_filterMap.1 member
    cases event with
    | reading remaining | removal answer => cases same
    | observation observed =>
      cases same
      exact standing.sound _ listed
  final := ends_absent_of_le standing.settled enough
  removals := standing.balance
  recorded := removals_recorded standing.sound
  enumerated := standing.enumerated

/-- A returned result lists the calls that were made, it is negative when one of them failed,
left something unknown or came too late, and a positive one has its proof. -/
def HonestEnding (builtIn : Prop) (limits : Except Failure CleanupLimits) (name : Text)
    {World : Type} (run : Run World) : Ending → Prop
  | .failed _ => True
  | .returned result =>
    result.removals = run.events.filterMap removalResult ∧
    result.observations = observations run.events ∧
    ((∃ event ∈ run.events, ¬ event.Sound) → result.provenAbsent = false) ∧
    (result.provenAbsent = true →
      ∃ checked, limits = .ok checked ∧ AbsenceProof builtIn checked name run.events)

theorem honest_of_gave_up {builtIn : Prop} {limits : Except Failure CleanupLimits} {name : Text}
    {World : Type} {run : Run World} {ending : Ending} (gaveUp : GaveUp name run ending) :
    HonestEnding builtIn limits name run ending := by
  cases ending with
  | failed failure => trivial
  | returned result =>
    obtain ⟨error, rfl⟩ := gaveUp
    exact ⟨rfl, rfl, fun _ => rfl, fun proven => nomatch proven⟩

theorem honest_of_standing {builtIn : Prop} {limits : CleanupLimits} {name : Text} {World : Type}
    {run : Run World} {absences : Nat} (error : Option Text)
    (standing : Standing builtIn name limits.attempts absences run.events) :
    HonestEnding builtIn (.ok limits) name run
      (.returned (resultOf name (decide (limits.required ≤ absences)) error run.events)) := by
  refine ⟨rfl, rfl, ?_, ?_⟩
  · rintro ⟨event, listed, unsound⟩
    exact absurd (standing.sound event listed) unsound
  · intro proven
    exact ⟨limits, rfl, absence_proof_of_standing standing (of_decide_eq_true proven)⟩

theorem cleanup_program_ends {World : Type} (host : Host World) (limits : CleanupLimits)
    (name : Text) (world : World) :
    Ends (cleanupProgram host limits name) { world }
      (HonestEnding (host.absenceProbe = none) (.ok limits) name)
      (HonestEnding (host.absenceProbe = none) (.ok limits) name) := by
  apply ends_modify_get_bind
  dsimp only
  have removing := remove_ends host limits name
    (host.plus (host.monotonic world).1 limits.totalTimeout)
    { world := (host.monotonic world).2, events := [] }
  apply ends_bind _ _ _ _ _ _ (ends_weaken _ _ _ _ _ _ removing
    (fun _ _ => honest_of_gave_up) fun _ _ => id)
  rintro - started ⟨remaining, result, time, removed⟩
  have begun : Standing (host.absenceProbe = none) name 0 0 started.events :=
    removed ▸ standing_start remaining result time
  have attempts := reconcile_ends host limits name
    (host.plus (host.monotonic world).1 limits.totalTimeout) limits.attempts 0 0 started begun
  rw [Nat.zero_add] at attempts
  apply ends_bind _ _ _ _ _ _ (ends_weaken _ _ _ _ _ _ attempts
    (fun _ _ => honest_of_gave_up) fun _ _ => id)
  intro absences after standing
  exact honest_of_standing _ standing

/-- Whatever the daemon, the probe and the clock answer, a cleanup is honest about absence. -/
theorem cleanup_named_container_honest {World : Type} (host : Host World)
    (arguments : CleanupArguments) (name : Text) (world : World) :
    HonestEnding (host.absenceProbe = none) (limitsOf arguments) name
      (cleanupNamedContainer host arguments name world).1
      (cleanupNamedContainer host arguments name world).2 := by
  unfold cleanupNamedContainer
  cases checked : limitsOf arguments with
  | error failure => trivial
  | ok limits =>
    dsimp only
    split
    · exact finish_of_ends _ _ _ (cleanup_program_ends host limits name world)
    · exact ⟨rfl, rfl, fun _ => rfl, fun proven => nomatch proven⟩

end EvoomGuard.Isolation.Docker
