import EvoomGuard.Lib.Lines
import EvoomGuard.Lib.Phase

/-!
`cleanup_candidate_containers` of `isolation/docker.py`. The scanner of the cidfiles and the daemon
are a host that answers from a world of its own, so every sequence of scans and answers is the run
of some host; a call that raises one of the kinds that the loop handles answers with the text of the
exception.
-/

namespace EvoomGuard.Isolation.CandidateCleanup

open Lib Lib.Phase

structure DockerCidScanResult where
  containerIds : List Text
  failures : List Text
  deriving DecidableEq

structure CompletedControl where
  returncode : Int
  stdout : Text
  stderr : Text
  deriving DecidableEq

structure Host (World : Type) where
  pathExists : Text → World → Bool × World
  scanner : Text → World → DockerCidScanResult × World
  controlRunner : List Text → Rat → World → Except Text CompletedControl × World
  sleeper : World → World

structure DockerCandidateCleanupRequest where
  cidfileDir : Text
  waitForLateCidfiles : Bool := false
  knownContainerIds : List Text := []
  controlTimeoutSeconds : Rat := 30

structure DockerCandidateCleanupResult where
  attemptedContainerIds : List Text
  failures : List Text
  deriving DecidableEq

def DockerCandidateCleanupResult.cleanupProven (result : DockerCandidateCleanupResult) : Bool :=
  result.failures.isEmpty

/-- What a cleanup was told, in the order in which it asked. -/
inductive Event where
  | scan (scanned : DockerCidScanResult)
  | probe (containerId : Text) (answer : Except Text CompletedControl)
  | removal (containerId : Text) (answer : Except Text CompletedControl)

structure Run (World : Type) where
  world : World
  events : List Event := []
  attempted : List Text := []
  failures : List Text := []

def probeCommand (containerId : Text) : List Text :=
  ["docker", "ps", "-aq", "--no-trunc", "--filter".toList,
    "id=" ++ containerId]

def removalCommand (containerId : Text) : List Text :=
  ["docker", "rm", "-f", containerId]

/-- `(stderr or stdout).strip()[:200]`, or what stands for no detail. -/
def detailOf (completed : CompletedControl) (otherwise : Text) : Text :=
  let output := if completed.stderr = [] then completed.stdout else completed.stderr
  let detail := (Text.strip output).take 200
  if detail = [] then otherwise else detail

def listsContainer (containerId : Text) (completed : CompletedControl) : Bool :=
  ((Text.splitlines completed.stdout).map Text.strip).contains containerId

section Cleanup

variable {World : Type} (host : Host World) (request : DockerCandidateCleanupRequest)

def control (command : List Text) (event : Except Text CompletedControl → Event) :
    Phase Text (Run World) CompletedControl := fun run =>
  let (answer, world) := host.controlRunner command request.controlTimeoutSeconds run.world
  let after := { run with world, events := run.events ++ [event answer] }
  match answer with
  | .ok completed => .ok completed after
  | .error raised => .error raised after

def containerPresent (containerId : Text) : Phase Text (Run World) Bool := do
  let probe ← control host request (probeCommand containerId) (.probe containerId)
  if probe.returncode ≠ 0 then
    throw ("could not inspect candidate container " ++ containerId ++ ": " ++
      detailOf probe "docker ps failed")
  else pure (listsContainer containerId probe)

/-- The body of the `try`. -/
def removeContainer (containerId : Text) : Phase Text (Run World) Unit := do
  if ← containerPresent host request containerId then
    let removal ← control host request (removalCommand containerId) (.removal containerId)
    if removal.returncode ≠ 0 then
      throw ("docker rm -f failed for candidate container " ++ containerId ++ ": " ++
        detailOf removal ("exit " ++ (toString removal.returncode).toList))
    else if ← containerPresent host request containerId then
      throw ("candidate container " ++ containerId ++
        " remained after docker rm -f")
    else pure ()
  else pure ()

def attempt (run : Run World) (containerId : Text) : Run World :=
  if containerId ∈ run.attempted then run
  else
    match removeContainer host request containerId
        { run with attempted := run.attempted ++ [containerId] } with
    | .ok () after => after
    | .error raised after =>
      { after with failures := after.failures ++ [containerId ++ ": " ++ raised] }

def scanOnce (run : Run World) : Run World :=
  let (scanned, world) := host.scanner request.cidfileDir run.world
  let failures := scanned.failures.map ("cidfile scan: ".toList ++ ·)
  let noted := { run with
    world, events := run.events ++ [.scan scanned], failures := run.failures ++ failures }
  (Text.sortedSet (request.knownContainerIds ++ scanned.containerIds)).foldl (attempt host request)
    noted

def scanRepeatedly : Nat → Run World → Run World
  | 0, run => run
  | more + 1, run =>
    let after := scanOnce host request run
    scanRepeatedly more
      (if more = 0 then after else { after with world := host.sleeper after.world })

def cleanupCandidateContainers (world : World) :
    Run World × DockerCandidateCleanupResult :=
  let (pathExists, world) := host.pathExists request.cidfileDir world
  if pathExists = false ∧ request.knownContainerIds = [] then ({ world }, ⟨[], []⟩)
  else
    let attempts := if request.waitForLateCidfiles then 10 else 1
    let run := scanRepeatedly host request attempts { world }
    (run, ⟨Text.sorted run.attempted, run.failures⟩)

end Cleanup

def Event.isAbout (containerId : Text) : Event → Bool
  | .scan _ => false
  | .probe other _ => other == containerId
  | .removal other _ => other == containerId

def eventsAbout (containerId : Text) (events : List Event) : List Event :=
  events.filter (Event.isAbout containerId)

/-- The daemon answered, and the container was listed or was not. -/
def Reports (containerId : Text) (answer : Except Text CompletedControl) (present : Bool) : Prop :=
  ∃ completed, answer = .ok completed ∧ completed.returncode = 0 ∧
    listsContainer containerId completed = present

def Succeeded (answer : Except Text CompletedControl) : Prop :=
  ∃ completed, answer = .ok completed ∧ completed.returncode = 0

/-- One attempt at a container: it is removed only once it was seen, and looked for again. -/
inductive Attempt (containerId : Text) : List Event → Prop where
  | unknown {answer : Except Text CompletedControl} (failed : ¬Succeeded answer) :
      Attempt containerId [.probe containerId answer]
  | absent {answer : Except Text CompletedControl} (absent : Reports containerId answer false) :
      Attempt containerId [.probe containerId answer]
  | unremoved {answer removal : Except Text CompletedControl}
      (present : Reports containerId answer true) (failed : ¬Succeeded removal) :
      Attempt containerId [.probe containerId answer, .removal containerId removal]
  | removed {answer removal again : Except Text CompletedControl}
      (present : Reports containerId answer true) (removed : Succeeded removal) :
      Attempt containerId
        [.probe containerId answer, .removal containerId removal, .probe containerId again]

def ProvenAbsent (containerId : Text) (asked : List Event) : Prop :=
  ∃ earlier answer, asked = earlier ++ [.probe containerId answer] ∧
    Reports containerId answer false

section Attempts

variable {World : Type} (host : Host World) (request : DockerCandidateCleanupRequest)

/-- What a call leaves behind: the events it asked, and nothing else but a new world. -/
def Asks (before after : Run World) (asked : List Event) : Prop :=
  after.events = before.events ++ asked ∧ after.attempted = before.attempted ∧
    after.failures = before.failures

theorem control_ends (command : List Text) (event : Except Text CompletedControl → Event)
    (run : Run World) :
    Ends (control host request command event) run
      (fun after _ => ∃ raised, Asks run after [event (.error raised)])
      (fun after completed => Asks run after [event (.ok completed)]) := by
  unfold Ends control
  cases answered : (host.controlRunner command request.controlTimeoutSeconds run.world).1 with
  | ok completed =>
    simp only [answered]
    exact ⟨rfl, rfl, rfl⟩
  | error raised =>
    simp only [answered]
    exact ⟨raised, rfl, rfl, rfl⟩

theorem container_present_ends (containerId : Text) (run : Run World) :
    Ends (containerPresent host request containerId) run
      (fun after _ => ∃ answer, ¬Succeeded answer ∧ Asks run after [.probe containerId answer])
      (fun after present => ∃ answer, Reports containerId answer present ∧
        Asks run after [.probe containerId answer]) := by
  apply ends_bind _ _ _ _ (fun after completed =>
    Asks run after [.probe containerId (.ok completed)])
  · apply ends_weaken _ _ _ _ _ _ (control_ends host request _ _ run)
    · rintro after - ⟨raised, asks⟩
      refine ⟨.error raised, ?_, asks⟩
      rintro ⟨_, same, -⟩
      cases same
    · exact fun _ _ => id
  · intro completed after asks
    split
    · next failed =>
        apply ends_throw
        refine ⟨_, ?_, asks⟩
        rintro ⟨_, same, zero⟩
        cases same
        exact failed zero
    · next passed =>
        apply ends_pure
        exact ⟨_, ⟨completed, rfl, not_not.1 passed, rfl⟩, asks⟩

theorem asks_trans {before between after : Run World} {first second : List Event}
    (left : Asks before between first) (right : Asks between after second) :
    Asks before after (first ++ second) :=
  ⟨by rw [right.1, left.1, List.append_assoc], right.2.1.trans left.2.1,
    right.2.2.trans left.2.2⟩

theorem remove_container_ends (containerId : Text) (run : Run World) :
    Ends (removeContainer host request containerId) run
      (fun after _ => ∃ asked, Attempt containerId asked ∧ Asks run after asked)
      (fun after _ => ∃ asked, Attempt containerId asked ∧ ProvenAbsent containerId asked ∧
        Asks run after asked) := by
  have first := container_present_ends host request containerId run
  apply ends_bind _ _ _ _ _ _ (ends_weaken _ _ _ _ _ _ first ?_ fun _ _ => id)
  · rintro present seen ⟨answer, reports, asks⟩
    cases present with
    | false =>
      rw [if_neg Bool.false_ne_true]
      apply ends_pure
      exact ⟨_, .absent reports, ⟨[], answer, rfl, reports⟩, asks⟩
    | true =>
      rw [if_pos rfl]
      have removal := control_ends host request (removalCommand containerId)
        (.removal containerId) seen
      apply ends_bind _ _ _ _ _ _ (ends_weaken _ _ _ _ _ _ removal ?_ fun _ _ => id)
      · intro completed removed asks'
        have both := asks_trans asks asks'
        split
        · next failed =>
            apply ends_throw
            refine ⟨_, .unremoved reports ?_, both⟩
            rintro ⟨_, same, zero⟩
            cases same
            exact failed zero
        · next passed =>
            have succeeded : Succeeded (.ok completed) := ⟨completed, rfl, not_not.1 passed⟩
            have again := container_present_ends host request containerId removed
            apply ends_bind _ _ _ _ _ _ (ends_weaken _ _ _ _ _ _ again ?_ fun _ _ => id)
            · rintro present after ⟨answer', reports', asks''⟩
              have all := asks_trans both asks''
              cases present with
              | true =>
                rw [if_pos rfl]
                apply ends_throw
                exact ⟨_, .removed reports succeeded, all⟩
              | false =>
                rw [if_neg Bool.false_ne_true]
                apply ends_pure
                exact ⟨_, .removed reports succeeded, ⟨[_, _], answer', rfl, reports'⟩, all⟩
            · rintro after - ⟨answer', -, asks''⟩
              exact ⟨_, .removed reports succeeded, asks_trans both asks''⟩
      · rintro after - ⟨raised, asks'⟩
        refine ⟨_, .unremoved reports ?_, asks_trans asks asks'⟩
        rintro ⟨_, same, -⟩
        cases same
  · rintro after - ⟨answer, failed, asks⟩
    exact ⟨_, .unknown failed, asks⟩

end Attempts

theorem attempt_about {containerId : Text} {asked : List Event} (made : Attempt containerId asked) :
    eventsAbout containerId asked = asked := by
  cases made <;> simp [eventsAbout, Event.isAbout]

theorem attempt_about_other {containerId other : Text} {asked : List Event}
    (made : Attempt containerId asked) (apart : containerId ≠ other) :
    eventsAbout other asked = [] := by
  cases made <;> simp [eventsAbout, Event.isAbout, apart]

theorem attempt_scans_nothing {containerId : Text} {asked : List Event}
    (made : Attempt containerId asked) (scanned : DockerCidScanResult) :
    Event.scan scanned ∉ asked := by
  cases made <;> simp

/-- A container id is known, or a scan of the run found it. -/
def Observed (known : List Text) (events : List Event) (containerId : Text) : Prop :=
  containerId ∈ known ∨ ∃ scanned, Event.scan scanned ∈ events ∧ containerId ∈ scanned.containerIds

/-- What holds between any two attempts. -/
structure Covering {World : Type} (known : List Text) (run : Run World) : Prop where
  nodup : run.attempted.Nodup
  observed : ∀ containerId ∈ run.attempted, Observed known run.events containerId
  once : ∀ containerId ∈ run.attempted, Attempt containerId (eventsAbout containerId run.events)
  silent : ∀ containerId, containerId ∉ run.attempted → eventsAbout containerId run.events = []
  scans : run.failures = [] → ∀ scanned, Event.scan scanned ∈ run.events → scanned.failures = []
  absent : run.failures = [] → ∀ containerId ∈ run.attempted,
    ProvenAbsent containerId (eventsAbout containerId run.events)

section Invariant

variable {World : Type} (host : Host World) (request : DockerCandidateCleanupRequest)

theorem attempt_made (run : Run World) {containerId : Text} (fresh : containerId ∉ run.attempted) :
    ∃ asked, Attempt containerId asked ∧
      (attempt host request run containerId).events = run.events ++ asked ∧
      (attempt host request run containerId).attempted = run.attempted ++ [containerId] ∧
      ((attempt host request run containerId).failures = run.failures ∧
          ProvenAbsent containerId asked ∨
        (attempt host request run containerId).failures ≠ []) := by
  have ends := remove_container_ends host request containerId
    { run with attempted := run.attempted ++ [containerId] }
  unfold Ends at ends
  unfold attempt
  rw [if_neg fresh]
  split
  · next after removed =>
      rw [removed] at ends
      obtain ⟨asked, made, proven, events, attempted, failures⟩ := ends
      exact ⟨asked, made, events, attempted, .inl ⟨failures, proven⟩⟩
  · next raised after failed =>
      rw [failed] at ends
      obtain ⟨asked, made, events, attempted, -⟩ := ends
      exact ⟨asked, made, events, attempted, .inr (by simp)⟩

theorem attempt_covering {known : List Text} {run : Run World} (covering : Covering known run)
    {containerId : Text} (observed : Observed known run.events containerId) :
    Covering known (attempt host request run containerId) := by
  by_cases fresh : containerId ∈ run.attempted
  · rw [attempt, if_pos fresh]
    exact covering
  obtain ⟨asked, made, events, attempted, ended⟩ := attempt_made host request run fresh
  have here : eventsAbout containerId (attempt host request run containerId).events = asked := by
    rw [eventsAbout, events, List.filter_append]
    exact (congrArg₂ (· ++ ·) (covering.silent _ fresh) (attempt_about made)).trans
      (List.nil_append _)
  have elsewhere : ∀ other, containerId ≠ other →
      eventsAbout other (attempt host request run containerId).events =
        eventsAbout other run.events := by
    intro other apart
    rw [eventsAbout, events, List.filter_append]
    exact (congrArg (_ ++ ·) (attempt_about_other made apart)).trans (List.append_nil _)
  have scans : ∀ scanned, Event.scan scanned ∈ (attempt host request run containerId).events →
      Event.scan scanned ∈ run.events := by
    intro scanned member
    rw [events, List.mem_append] at member
    exact member.resolve_right (attempt_scans_nothing made scanned)
  have earlier : ∀ other ∈ (attempt host request run containerId).attempted,
      other = containerId ∨ other ∈ run.attempted ∧ containerId ≠ other := by
    intro other member
    rw [attempted, List.mem_append, List.mem_singleton] at member
    obtain before | same := member
    · exact .inr ⟨before, fun same => fresh (same ▸ before)⟩
    · exact .inl same
  have unfailed : (attempt host request run containerId).failures = [] →
      run.failures = [] ∧ ProvenAbsent containerId asked := by
    intro none
    obtain ⟨same, proven⟩ := ended.resolve_right fun some => some none
    exact ⟨same.symm.trans none, proven⟩
  exact {
    nodup := by
      rw [attempted, ← List.concat_eq_append]
      exact covering.nodup.concat fresh
    observed := by
      intro other member
      have origin : Observed known run.events other := by
        obtain rfl | ⟨before, -⟩ := earlier other member
        · exact observed
        · exact covering.observed other before
      obtain inKnown | ⟨scanned, found, listed⟩ := origin
      · exact .inl inKnown
      · exact .inr ⟨scanned, events ▸ List.mem_append_left _ found, listed⟩
    once := by
      intro other member
      obtain rfl | ⟨before, apart⟩ := earlier other member
      · rw [here]
        exact made
      · rw [elsewhere other apart]
        exact covering.once other before
    silent := by
      intro other unmade
      rw [attempted, List.mem_append, List.mem_singleton, not_or] at unmade
      rw [elsewhere other (Ne.symm unmade.2)]
      exact covering.silent other unmade.1
    scans := fun none scanned member =>
      covering.scans (unfailed none).1 scanned (scans scanned member)
    absent := by
      intro none other member
      obtain rfl | ⟨before, apart⟩ := earlier other member
      · rw [here]
        exact (unfailed none).2
      · rw [elsewhere other apart]
        exact covering.absent (unfailed none).1 other before }

theorem attempt_keeps (run : Run World) (containerId : Text) :
    run.attempted ⊆ (attempt host request run containerId).attempted ∧
      containerId ∈ (attempt host request run containerId).attempted ∧
      ∀ scanned, Event.scan scanned ∈ (attempt host request run containerId).events ↔
        Event.scan scanned ∈ run.events := by
  by_cases fresh : containerId ∈ run.attempted
  · rw [attempt, if_pos fresh]
    exact ⟨List.Subset.refl _, fresh, fun _ => Iff.rfl⟩
  obtain ⟨asked, made, events, attempted, -⟩ := attempt_made host request run fresh
  rw [attempted, events]
  refine ⟨List.subset_append_left _ _, List.mem_append_right _ (List.mem_singleton_self _), ?_⟩
  intro scanned
  rw [List.mem_append, or_iff_left (attempt_scans_nothing made scanned)]

theorem attempts_covering {known : List Text} (containerIds : List Text) :
    ∀ run : Run World, Covering known run →
      (∀ containerId ∈ containerIds, Observed known run.events containerId) →
        Covering known (containerIds.foldl (attempt host request) run) ∧
          run.attempted ⊆ (containerIds.foldl (attempt host request) run).attempted ∧
          containerIds ⊆ (containerIds.foldl (attempt host request) run).attempted ∧
          ∀ scanned, Event.scan scanned ∈ (containerIds.foldl (attempt host request) run).events ↔
            Event.scan scanned ∈ run.events := by
  induction containerIds with
  | nil => exact fun run covering _ =>
    ⟨covering, List.Subset.refl _, List.nil_subset _, fun _ => Iff.rfl⟩
  | cons containerId rest ih =>
    intro run covering observed
    obtain ⟨grows, made, scans⟩ := attempt_keeps host request run containerId
    have covering' := attempt_covering host request covering (observed _ List.mem_cons_self)
    have observed' : ∀ other ∈ rest,
        Observed known (attempt host request run containerId).events other := by
      intro other member
      obtain inKnown | ⟨scanned, found, listed⟩ := observed other (List.mem_cons_of_mem _ member)
      · exact .inl inKnown
      · exact .inr ⟨scanned, (scans scanned).2 found, listed⟩
    obtain ⟨after, grows', all, scans'⟩ := ih _ covering' observed'
    refine ⟨after, List.Subset.trans grows grows', ?_,
      fun scanned => (scans' scanned).trans (scans scanned)⟩
    exact List.cons_subset.2 ⟨grows' made, all⟩

/-- Every container id that is known or was found is attempted. -/
structure Complete (known : List Text) (run : Run World) : Prop extends Covering known run where
  attempts : ∀ scanned, Event.scan scanned ∈ run.events → scanned.containerIds ⊆ run.attempted

theorem scan_once_complete (run : Run World) (complete : Complete request.knownContainerIds run) :
    Complete request.knownContainerIds (scanOnce host request run) ∧
      request.knownContainerIds ⊆ (scanOnce host request run).attempted := by
  unfold scanOnce
  generalize host.scanner request.cidfileDir run.world = answered
  obtain ⟨scanned, world⟩ := answered
  dsimp only
  have about : ∀ containerId, eventsAbout containerId (run.events ++ [.scan scanned]) =
      eventsAbout containerId run.events := by
    intro containerId
    rw [eventsAbout, List.filter_append]
    exact List.append_nil _
  have noted : ∀ other, Event.scan other ∈ run.events ++ [.scan scanned] →
      Event.scan other ∈ run.events ∨ other = scanned := by
    intro other member
    rw [List.mem_append, List.mem_singleton] at member
    exact member.imp id fun same => Event.scan.inj same
  have covering : Covering request.knownContainerIds { run with
      world, events := run.events ++ [.scan scanned],
      failures := run.failures ++ scanned.failures.map ("cidfile scan: ".toList ++ ·) } := {
    nodup := complete.nodup
    observed := by
      intro containerId member
      obtain inKnown | ⟨other, found, listed⟩ := complete.observed containerId member
      · exact .inl inKnown
      · exact .inr ⟨other, List.mem_append_left _ found, listed⟩
    once := fun containerId member => (about containerId).symm ▸ complete.once containerId member
    silent := fun containerId unmade =>
      (about containerId).trans (complete.silent containerId unmade)
    scans := by
      intro none other member
      obtain ⟨before, here⟩ := List.append_eq_nil_iff.1 none
      obtain earlier | rfl := noted other member
      · exact complete.scans before other earlier
      · exact List.map_eq_nil_iff.1 here
    absent := by
      intro none containerId member
      rw [about containerId]
      exact complete.absent (List.append_eq_nil_iff.1 none).1 containerId member }
  have observed : ∀ containerId ∈
      Text.sortedSet (request.knownContainerIds ++ scanned.containerIds),
      Observed request.knownContainerIds (run.events ++ [.scan scanned]) containerId := by
    intro containerId member
    rw [Text.mem_sorted_set, List.mem_append] at member
    obtain inKnown | listed := member
    · exact .inl inKnown
    · exact .inr ⟨scanned, List.mem_append_right _ (List.mem_singleton_self _), listed⟩
  obtain ⟨after, grows, all, scans⟩ := attempts_covering host request _ _ covering observed
  refine ⟨⟨after, ?_⟩, ?_⟩
  · intro other member
    obtain earlier | rfl := noted other ((scans other).1 member)
    · exact List.Subset.trans (complete.attempts other earlier) grows
    · exact fun containerId listed => all (Text.mem_sorted_set.2 (List.mem_append_right _ listed))
  · exact fun containerId inKnown =>
      all (Text.mem_sorted_set.2 (List.mem_append_left _ inKnown))

theorem scan_repeatedly_complete (more : Nat) :
    ∀ run : Run World, Complete request.knownContainerIds run →
      Complete request.knownContainerIds (scanRepeatedly host request (more + 1) run) ∧
        request.knownContainerIds ⊆ (scanRepeatedly host request (more + 1) run).attempted := by
  induction more with
  | zero => exact fun run complete => scan_once_complete host request run complete
  | succ more ih =>
    intro run complete
    obtain ⟨after, -⟩ := scan_once_complete host request run complete
    rw [scanRepeatedly, if_neg (Nat.succ_ne_zero more)]
    exact ih _ ⟨⟨after.nodup, after.observed, after.once, after.silent, after.scans,
      after.absent⟩, after.attempts⟩

end Invariant

/-- Exactly the containers that are known or that a scan found are attempted, each once; a container
is removed only after it was seen; and a cleanup that is proven had no failed scan and saw every
container absent in the end. -/
structure CoversEveryId (known : List Text) (events : List Event)
    (result : DockerCandidateCleanupResult) : Prop where
  attempted : ∀ containerId,
    containerId ∈ result.attemptedContainerIds ↔ Observed known events containerId
  nodup : result.attemptedContainerIds.Nodup
  once : ∀ containerId ∈ result.attemptedContainerIds,
    Attempt containerId (eventsAbout containerId events)
  silent : ∀ containerId, containerId ∉ result.attemptedContainerIds →
    eventsAbout containerId events = []
  seen : ∀ before containerId removal after,
    events = before ++ .removal containerId removal :: after →
      ∃ answer, .probe containerId answer ∈ before ∧ Reports containerId answer true
  proven : result.cleanupProven = true →
    (∀ scanned, .scan scanned ∈ events → scanned.failures = []) ∧
      ∀ containerId ∈ result.attemptedContainerIds,
        ProvenAbsent containerId (eventsAbout containerId events)

theorem attempt_seen {containerId : Text} {front back : List Event}
    {removal : Except Text CompletedControl}
    (made : Attempt containerId (front ++ .removal containerId removal :: back)) :
    ∃ answer, .probe containerId answer ∈ front ∧ Reports containerId answer true := by
  generalize whole : front ++ .removal containerId removal :: back = asked at made
  cases front with
  | nil => cases made <;> cases whole
  | cons event rest =>
    rw [List.cons_append] at whole
    cases made with
    | unknown failed | absent absent => exact absurd (List.tail_eq_of_cons_eq whole) (by simp)
    | @unremoved answer removal' present failed | @removed answer removal' again present removed =>
      obtain rfl := List.head_eq_of_cons_eq whole
      exact ⟨answer, List.mem_cons_self, present⟩

theorem removal_seen {World : Type} {known : List Text} {run : Run World}
    (covering : Covering known run) (before : List Event) (containerId : Text)
    (removal : Except Text CompletedControl) (after : List Event)
    (whole : run.events = before ++ .removal containerId removal :: after) :
    ∃ answer, .probe containerId answer ∈ before ∧ Reports containerId answer true := by
  have about : eventsAbout containerId run.events = eventsAbout containerId before ++
      .removal containerId removal :: eventsAbout containerId after := by
    have self : Event.isAbout containerId (.removal containerId removal) = true :=
      beq_self_eq_true containerId
    rw [whole, eventsAbout, List.filter_append, List.filter_cons_of_pos self]
    rfl
  by_cases made : containerId ∈ run.attempted
  · have one := covering.once containerId made
    rw [about] at one
    obtain ⟨answer, member, present⟩ := attempt_seen one
    exact ⟨answer, List.mem_of_mem_filter member, present⟩
  · have none := covering.silent containerId made
    rw [about] at none
    exact absurd none (by simp)

end EvoomGuard.Isolation.CandidateCleanup
