import EvoomGuard.Isolation.Invocation

/-!
What the receipts of the invocation recorder are worth: every datagram is taken once and in order,
the count is that of the exact tokens of the batches that are through, and a `drain` that no stop
event cuts short has counted what a batch could reach when it was called.
-/

namespace EvoomGuard.Isolation.Invocation

open Lib Lib.Framing Lib.Runs

section Runs

variable {Caller : Type} [DecidableEq Caller]

/-- The answers of `drain` so far. -/
structure Reported (state : Recorder Caller) : Prop where
  ascending : state.drained.Pairwise (· ≤ ·)
  bounded : ∀ count ∈ state.drained, count ≤ state.count

theorem reported_step (action : Action Caller) (before after : Recorder Caller)
    (taken : step action before = some after) (reported : Reported before) : Reported after := by
  have advances := step_advances action before after taken
  have count := advances.count
  rcases advances.drained with same | longer
  · constructor
    · rw [same]
      exact reported.ascending
    · rw [same]
      intro answer inside
      exact (reported.bounded answer inside).trans count
  · constructor
    · rw [longer, List.pairwise_append]
      refine ⟨reported.ascending, List.pairwise_singleton _ _, ?_⟩
      intro answer inside last same
      rw [List.mem_singleton.1 same]
      exact reported.bounded answer inside
    · rw [longer]
      intro answer inside
      rcases List.mem_append.1 inside with earlier | last
      · exact (reported.bounded answer earlier).trans count
      · rw [List.mem_singleton.1 last]
        exact count

/-- What holds of a recorder in every state of a run. -/
structure Sound (token : Token) (state : Recorder Caller) : Prop where
  token : state.token = token
  locked : Locked state
  closing : Closing state
  reported : Reported state

theorem sound_step {token : Token} (action : Action Caller) (before after : Recorder Caller)
    (taken : step action before = some after) (sound : Sound token before) : Sound token after where
  token := (step_advances action before after taken).token.trans sound.token
  locked := locked_step action before after taken sound.locked
  closing := closing_step action before after taken sound.locked sound.closing
  reported := reported_step action before after taken sound.reported

omit [DecidableEq Caller] in
theorem create_sound (token : Token) : Sound token (create token : Recorder Caller) where
  token := rfl
  locked := ⟨fun _ => ⟨nofun, nofun⟩, rfl, List.prefix_rfl, fun _ => rfl, nofun, nofun⟩
  closing := ⟨fun begun => absurd rfl begun, nofun, nofun⟩
  reported := ⟨List.Pairwise.nil, nofun⟩

theorem run_arrived (actions : List (Action Caller)) :
    ∀ before after : Recorder Caller, run step actions before = some after →
      after.received ++ after.queue = before.received ++ before.queue ++ arrivals actions := by
  induction actions with
  | nil =>
    intro before after ran
    cases ran
    simp [arrivals]
  | cons action rest ih =>
    intro before after ran
    obtain ⟨between, first, later⟩ := run_cons ran
    have joined : arrivals (action :: rest) = arrivals [action] ++ arrivals rest := by
      rw [← List.singleton_append]
      exact List.filterMap_append
    rw [ih between after later, (step_advances action before between first).arrived, joined,
      List.append_assoc _ (arrivals [action])]

/-- How far a call has come that is to count `goal`. -/
def OnItsWay (goal : List Bytes) (state : Recorder Caller) : Point → Prop
  | .waiting => goal.length ≤ state.received.length + maxInvocationDatagramsPerDrain
  | .checking left _ => goal.length ≤ state.received.length + left
  | .receiving left _ => goal.length ≤ state.received.length + left + 1
  | .publishing _ => goal <+: state.received
  | _ => False

structure Served (goal : List Bytes) (name : Caller) (state : Recorder Caller) : Prop where
  arrived : goal <+: state.received ++ state.queue
  counted : goal <+: state.published ∨ OnItsWay goal state (state.point (.caller name))

omit [DecidableEq Caller] in
theorem on_its_way_later {goal : List Bytes} {before after : Recorder Caller} {point : Point}
    (received : before.received <+: after.received) (going : OnItsWay goal before point) :
    OnItsWay goal after point := by
  have longer := received.length_le
  cases point with
  | waiting | checking left valid | receiving left valid =>
    simp only [OnItsWay] at going ⊢
    omega
  | publishing valid => exact going.trans received
  | idle | joining | releasing | after | finished => exact going

/-- The thread that takes an action. -/
def Action.party : Action Caller → Option (Party Caller)
  | .arrive _ => none
  | .call name | .answer name => some (.caller name)
  | .loop | .sleep => some .reader
  | .stop | .join | .shut => some .closer
  | .acquire party | .check party | .cut party | .receive party | .publish party
  | .release party => some party

theorem others_stay (action : Action Caller) (before after : Recorder Caller)
    (taken : step action before = some after) (party : Party Caller)
    (other : action.party ≠ some party) : after.point party = before.point party := by
  have apart {mover : Party Caller} (moves : action.party = some mover) : party ≠ mover :=
    fun same => other (same ▸ moves)
  cases step_taken action before after taken with
  | arrive datagram => rfl
  | call | answer | loop | sleep | stop | join | shut | acquire | spent | check | cut | starved
  | receive | publish | release =>
    exact Function.update_of_ne (apart rfl) _ _

theorem own_step {goal : List Bytes} {name : Caller} (action : Action Caller)
    (before after : Recorder Caller) (taken : step action before = some after)
    (closing : Closing before) (own : action.party = some (.caller name))
    (uncut : action ≠ .cut (.caller name)) (arrived : goal <+: before.received ++ before.queue)
    (going : OnItsWay goal before (before.point (.caller name))) :
    goal <+: after.published ∨ OnItsWay goal after (after.point (.caller name)) := by
  cases step_taken action before after taken with
  | arrive | loop | sleep | stop | join | shut => cases own
  | call other here | answer other here | release party here =>
    cases own
    rw [here] at going
    exact going.elim
  | acquire party here =>
    cases own
    rw [here] at going
    simp only [moved_point, if_true]
    exact .inr going
  | cut party =>
    cases own
    exact absurd rfl uncut
  | spent party valid here =>
    cases own
    rw [here, OnItsWay, Nat.add_zero] at going
    simp only [moved_point, if_true]
    exact .inr (List.prefix_of_prefix_length_le arrived (List.prefix_append _ _) going)
  | check party left valid here =>
    cases own
    rw [here] at going
    simp only [moved_point, if_true]
    exact .inr going
  | starved party left valid here nothing =>
    cases own
    rcases nothing with shut | empty
    · exact absurd here (closing.quiet (.inr (closing.shut shut)) _ left valid)
    · rw [empty, List.append_nil] at arrived
      simp only [moved_point, if_true]
      exact .inr arrived
  | receive party left valid datagram rest here queued =>
    cases own
    rw [here] at going
    simp only [moved_point, if_true, OnItsWay, List.length_append,
      List.length_singleton] at going ⊢
    exact .inr (by omega)
  | publish party valid here =>
    cases own
    rw [here] at going
    exact .inl going

theorem served_step {goal : List Bytes} {name : Caller} {token : Token} (action : Action Caller)
    (uncut : action ≠ .cut (.caller name)) (before after : Recorder Caller)
    (taken : step action before = some after)
    (held : Sound token before ∧ Served goal name before) :
    Sound token after ∧ Served goal name after := by
  obtain ⟨sound, served⟩ := held
  have advances := step_advances action before after taken
  refine ⟨sound_step action before after taken sound, ?_, ?_⟩
  · rw [advances.arrived]
    exact served.arrived.trans (List.prefix_append _ _)
  · rcases served.counted with counted | going
    · apply Or.inl
      rcases advances.published with same | flushed
      · rw [same]
        exact counted
      · rw [flushed]
        exact counted.trans sound.locked.below
    · by_cases own : action.party = some (.caller name)
      · exact own_step action before after taken sound.closing own uncut served.arrived going
      · rw [others_stay action before after taken _ own]
        exact .inr (on_its_way_later advances.received going)

theorem call_served (name : Caller) (before after : Recorder Caller)
    (called : step (.call name) before = some after) :
    Served (before.received ++ before.queue.take maxInvocationDatagramsPerDrain) name after := by
  cases step_taken _ before after called
  constructor
  · exact (List.prefix_append_right_inj _).2 (List.take_prefix _ _)
  · apply Or.inr
    simp only [moved_point, if_true, OnItsWay, List.length_append, List.length_take]
    exact Nat.add_le_add_left (Nat.min_le_left _ _) _

/-- Every datagram is received once and in order, the count is that of the exact tokens of the
batches that are through, and what `drain` returns covers what its batch could reach. -/
theorem receipts_counted (token : Token) (actions : List (Action Caller))
    (state : Recorder Caller) (ran : run step actions (create token) = some state) :
    state.received ++ state.queue = arrivals actions ∧
    state.count = receipts token state.published ∧ state.published <+: state.received ∧
    (state.holder = none → state.count = receipts token state.received) ∧
    (∀ party, state.holder = some party →
      state.count + (state.point party).unpublished = receipts token state.received) ∧
    state.drained.Pairwise (· ≤ ·) ∧ (∀ answer ∈ state.drained, answer ≤ state.count) ∧
    ∀ name started between ended final,
      step (.call name) state = some started → run step between started = some ended →
      Action.cut (.caller name) ∉ between → step (.answer name) ended = some final →
      state.received ++ state.queue.take maxInvocationDatagramsPerDrain <+: ended.published ∧
        final.drained = ended.drained ++ [receipts token ended.published] := by
  have sound : Sound token state :=
    run_keeps sound_step actions (create token) state ran (create_sound token)
  obtain ⟨named, locked, closing, reported⟩ := sound
  refine ⟨run_arrived actions (create token) state ran, named ▸ locked.counted, locked.below, ?_,
    named ▸ locked.pending, reported.ascending, reported.bounded, ?_⟩
  · intro free
    rw [locked.counted, locked.settled free, named]
  · intro name started between ended final called later uncut answered
    have begun := sound_step _ state started called ⟨named, locked, closing, reported⟩
    have kept : Sound token ended ∧
        Served (state.received ++ state.queue.take maxInvocationDatagramsPerDrain) name ended :=
      run_keeps_among between
        (fun action member => served_step action fun same => uncut (same ▸ member)) started ended
        later ⟨begun, call_served name state started called⟩
    obtain ⟨after, served⟩ := kept
    cases step_taken _ ended final answered with
    | answer _ here =>
      have counted := served.counted
      rw [here] at counted
      refine ⟨counted.resolve_right (fun going => going), ?_⟩
      rw [after.locked.counted, after.token]

theorem run_arrivals (datagrams : List Bytes) : ∀ state : Recorder Caller, state.closed = false →
    run step (datagrams.map Action.arrive) state =
      some { state with queue := state.queue ++ datagrams } := by
  induction datagrams with
  | nil =>
    intro state _
    simp [run]
  | cons datagram rest ih =>
    intro state opened
    have first : step (.arrive datagram) state =
        some { state with queue := state.queue ++ [datagram] } := by
      simp [step, opened]
    rw [List.map_cons, run, first, Option.bind_some]
    refine Eq.trans (ih _ opened) ?_
    simp

theorem run_others (party : Party Caller) (datagrams rest : List Bytes) (left : Nat) :
    ∀ state : Recorder Caller, state.closed = false → state.stopped = false →
      (∀ datagram ∈ datagrams, state.token.accepts datagram = false) →
      state.point party = .checking (datagrams.length + left) 0 →
      state.queue = datagrams ++ rest →
      run step (datagrams.flatMap fun _ => [.check party, .receive party]) state =
        some { state.moved party (.checking left 0) with
          queue := rest
          received := state.received ++ datagrams } := by
  induction datagrams with
  | nil =>
    intro state _ _ _ here queued
    rw [List.length_nil, Nat.zero_add] at here
    rw [List.nil_append] at queued
    rw [List.flatMap_nil, run, Recorder.moved, ← here, Function.update_eq_self, ← queued]
    simp
  | cons datagram later ih =>
    intro state opened running others here queued
    have more : later.length + 1 + left = later.length + left + 1 := by omega
    rw [List.length_cons, more] at here
    have checked : step (.check party) state =
        some (state.moved party (.receiving (later.length + left) 0)) := by
      simp [step, here, Recorder.isCut, running]
    have received : step (.receive party)
          (state.moved party (.receiving (later.length + left) 0)) =
        some { state.moved party (.checking (later.length + left) 0) with
          queue := later ++ rest
          received := state.received ++ [datagram] } := by
      have other := others datagram List.mem_cons_self
      simp [step, Recorder.recv, Recorder.moved, opened, queued, other]
    rw [List.flatMap_cons, run_append, run, checked, Option.bind_some, run, received,
      Option.bind_some, run, Option.bind_some]
    refine Eq.trans (ih _ opened running
      (fun other member => others other (List.mem_cons_of_mem _ member))
      (by simp [moved_point]) rfl) ?_
    simp [Recorder.moved]

end Runs

def exampleToken : Token := ⟨List.replicate 64 48, by decide⟩

def drainer : Party Unit := .caller ()

/-- A drain of two datagrams, up to the count. -/
def shortDrain : List (Action Unit) :=
  [.acquire drainer, .check drainer, .receive drainer, .check drainer, .receive drainer,
    .check drainer, .receive drainer, .publish drainer, .release drainer]

theorem two_receipts_counted : ∃ state started ended final : Recorder Unit,
    run step [.arrive exampleToken.bytes, .arrive exampleToken.bytes] (create exampleToken) =
      some state ∧
    step (.call ()) state = some started ∧ run step shortDrain started = some ended ∧
    step (.answer ()) ended = some final ∧
    [exampleToken.bytes, exampleToken.bytes] <+: ended.published ∧
    final.drained = ended.drained ++ [receipts exampleToken ended.published] := by
  have counted := receipts_counted exampleToken
    ([.arrive exampleToken.bytes, .arrive exampleToken.bytes] : List (Action Unit))
  exact ⟨_, _, _, _, rfl, rfl, rfl, rfl,
    (counted _ rfl).2.2.2.2.2.2.2 () _ shortDrain _ _ rfl rfl (by decide) rfl⟩

/-- A run in which datagrams arrive, `drain` is called, the actions follow and `drain` returns. -/
def DrainsTo (datagrams : List Bytes) (between : List (Action Unit)) (final : Recorder Unit) :
    Prop :=
  ∃ state started ended, run step (datagrams.map Action.arrive) (create exampleToken) = some state ∧
    step (.call ()) state = some started ∧ run step between started = some ended ∧
    step (.answer ()) ended = some final

def otherPayloads : List Bytes := List.replicate maxInvocationDatagramsPerDrain [0]

def fullDrain : List (Action Unit) :=
  .acquire drainer :: (otherPayloads.flatMap fun _ => [.check drainer, .receive drainer]) ++
    [.check drainer, .publish drainer, .release drainer]

/-- The state in which the socket buffer holds the payloads and one receipt behind them. -/
def flooded : Recorder Unit :=
  { create exampleToken with queue := otherPayloads ++ [exampleToken.bytes] }

theorem full_drain_ends : ∃ ended,
    run step fullDrain (flooded.moved drainer .waiting) = some ended ∧
      ended.point drainer = .after ∧ ended.stopped = false ∧ ended.count = 0 ∧
      ended.drained = [] := by
  have others : ∀ datagram ∈ otherPayloads, exampleToken.accepts datagram = false := by
    intro datagram member
    rw [List.eq_of_mem_replicate member]
    decide
  have acquired : step (.acquire drainer) (flooded.moved drainer .waiting) =
      some { flooded.moved drainer (.checking (otherPayloads.length + 0) 0) with
        holder := some drainer } := by
    simp [step, Recorder.moved, flooded, create, otherPayloads]
  have taken := run_others drainer otherPayloads [exampleToken.bytes] 0
    { flooded.moved drainer (.checking (otherPayloads.length + 0) 0) with holder := some drainer }
    rfl rfl others (by simp [moved_point]) rfl
  rw [fullDrain, List.cons_append, run, acquired, Option.bind_some, run_append, taken,
    Option.bind_some]
  exact ⟨_, rfl, rfl, rfl, rfl, rfl⟩

/-- A drain that other payloads keep busy, one that the stop event cuts short, and one that is
overtaken by the reader: each returns 0 with a receipt behind it. -/
theorem receipts_left_behind :
    (∃ final, DrainsTo (otherPayloads ++ [exampleToken.bytes]) fullDrain final ∧
      final.stopped = false ∧ final.drained = [0]) ∧
    (∃ final, DrainsTo [exampleToken.bytes]
        [.acquire drainer, .stop, .cut drainer, .publish drainer, .release drainer] final ∧
      final.drained = [0]) ∧
    ∃ final, DrainsTo []
        ([.acquire drainer, .check drainer, .receive drainer, .publish drainer, .release drainer] ++
          [.arrive exampleToken.bytes, .loop, .acquire .reader, .check .reader,
            .receive .reader]) final ∧
      receipts exampleToken final.received = 1 ∧ final.drained = [0] := by
  refine ⟨?_, ?_, ?_⟩
  · obtain ⟨ended, ran, here, running, count, drained⟩ := full_drain_ends
    have arrived := run_arrivals (otherPayloads ++ [exampleToken.bytes])
      (create exampleToken : Recorder Unit) rfl
    have answered : step (.answer ()) ended =
        some { ended.moved drainer .idle with drained := ended.drained ++ [ended.count] } := by
      have here : ended.point (.caller ()) = .after := here
      simp [step, here, drainer]
    refine ⟨_, ⟨flooded, flooded.moved drainer .waiting, ended, arrived, rfl, ran, answered⟩,
      running, ?_⟩
    rw [drained, count]
    rfl
  · exact ⟨_, ⟨_, _, _, rfl, rfl, rfl, rfl⟩, rfl⟩
  · exact ⟨_, ⟨_, _, _, rfl, rfl, rfl, rfl⟩, rfl, rfl⟩

end EvoomGuard.Isolation.Invocation
