import EvoomGuard.Lib.Framing
import EvoomGuard.Lib.Runs

/-!
The invocation recorder of `isolation/invocation.py`: datagrams arrive in the socket buffer, and the
reader thread, the callers of `drain` and one `close` take them out in bounded batches under the
receiver lock. A run is any order of their steps. What is done under the count lock is one step.
-/

namespace EvoomGuard.Isolation.Invocation

open Lib Lib.Framing Lib.Runs

def maxInvocationDatagramsPerDrain : Nat := 256

def receiveSize : Nat := 4096

/-- A token that one `recv` can hold with room to spare; `create` takes 64 hex digits. -/
structure Token where
  bytes : Bytes
  short : bytes.length < receiveSize

/-- What `recv` returns of a datagram; the rest is lost. -/
def payloadOf (datagram : Bytes) : Bytes := datagram.take receiveSize

def Token.accepts (token : Token) (datagram : Bytes) : Bool := payloadOf datagram == token.bytes

inductive Party (Caller : Type) where
  | reader
  | caller (name : Caller)
  | closer
  deriving DecidableEq

/-- Where a thread is. `checking` and `receiving` are the two statements of the loop in
`_drain_available`, with the turns that are left and the tokens seen. -/
inductive Point where
  | idle
  | joining
  | waiting
  | checking (left valid : Nat)
  | receiving (left valid : Nat)
  | publishing (valid : Nat)
  | releasing
  | after
  | finished
  deriving DecidableEq

def Point.inBatch : Point → Bool
  | .checking _ _ | .receiving _ _ | .publishing _ | .releasing => true
  | _ => false

/-- Tokens that were taken and are not in the count yet. -/
def Point.unpublished : Point → Nat
  | .checking _ valid | .receiving _ valid | .publishing valid => valid
  | _ => 0

/-- `received` keeps the datagrams that were taken, `published` those among them whose batch has
reached the count, `drained` what `drain` has returned. -/
structure Recorder (Caller : Type) where
  token : Token
  queue : List Bytes := []
  received : List Bytes := []
  published : List Bytes := []
  count : Nat := 0
  stopped : Bool := false
  closed : Bool := false
  holder : Option (Party Caller) := none
  point : Party Caller → Point := fun _ => .idle
  drained : List Nat := []

section System

variable {Caller : Type} [DecidableEq Caller]

def create (token : Token) : Recorder Caller := { token := token }

def Recorder.moved (state : Recorder Caller) (party : Party Caller) (point : Point) :
    Recorder Caller :=
  { state with point := Function.update state.point party point }

inductive Action (Caller : Type) where
  | arrive (datagram : Bytes)
  | call (name : Caller)
  | answer (name : Caller)
  | loop
  | sleep
  | stop
  | join
  | shut
  | acquire (party : Party Caller)
  | check (party : Party Caller)
  | cut (party : Party Caller)
  | receive (party : Party Caller)
  | publish (party : Party Caller)
  | release (party : Party Caller)
  deriving DecidableEq

/-- Only the drain of `close` goes on behind the stop event. -/
def Recorder.isCut (state : Recorder Caller) (party : Party Caller) : Bool :=
  state.stopped && party ≠ .closer

/-- One `recv` and the comparison of what it returned. -/
def Recorder.recv (state : Recorder Caller) (party : Party Caller) (left valid : Nat) :
    Recorder Caller :=
  if state.closed then state.moved party (.publishing valid)
  else
    match state.queue with
    | [] => state.moved party (.publishing valid)
    | datagram :: rest =>
      { state.moved party
          (.checking left (if state.token.accepts datagram then valid + 1 else valid)) with
        queue := rest
        received := state.received ++ [datagram] }

def step : Action Caller → Recorder Caller → Option (Recorder Caller)
  | .arrive datagram, state =>
    if state.closed then none else some { state with queue := state.queue ++ [datagram] }
  -- `drain`
  | .call name, state =>
    if state.point (.caller name) = .idle then some (state.moved (.caller name) .waiting)
    else none
  | .answer name, state =>
    if state.point (.caller name) = .after then
      some { state.moved (.caller name) .idle with drained := state.drained ++ [state.count] }
    else none
  -- `_read_loop`
  | .loop, state =>
    if state.point .reader = .idle then
      some (state.moved .reader (if state.stopped then .finished else .waiting))
    else none
  | .sleep, state =>
    if state.point .reader = .after then some (state.moved .reader .idle) else none
  -- `close`; the join may time out
  | .stop, state =>
    if state.point .closer = .idle then
      some { state.moved .closer .joining with stopped := true }
    else none
  | .join, state =>
    if state.point .closer = .joining then some (state.moved .closer .waiting) else none
  | .shut, state =>
    if state.point .closer = .after then
      some { state.moved .closer .finished with closed := true }
    else none
  -- `_drain_available`
  | .acquire party, state =>
    if state.point party = .waiting ∧ state.holder = none then
      some { state.moved party (.checking maxInvocationDatagramsPerDrain 0) with
        holder := some party }
    else none
  | .check party, state =>
    match state.point party with
    | .checking 0 valid => some (state.moved party (.publishing valid))
    | .checking (left + 1) valid =>
      if state.isCut party then none else some (state.moved party (.receiving left valid))
    | _ => none
  | .cut party, state =>
    match state.point party with
    | .checking (_ + 1) valid =>
      if state.isCut party then some (state.moved party (.publishing valid)) else none
    | _ => none
  | .receive party, state =>
    match state.point party with
    | .receiving left valid => some (state.recv party left valid)
    | _ => none
  | .publish party, state =>
    match state.point party with
    | .publishing valid =>
      some { state.moved party .releasing with
        count := state.count + valid
        published := state.received }
    | _ => none
  | .release party, state =>
    if state.point party = .releasing then
      some { state.moved party .after with holder := none }
    else none

/-- The datagrams that a run sends, in order. -/
def arrivals (actions : List (Action Caller)) : List Bytes :=
  actions.filterMap fun action =>
    match action with
    | .arrive datagram => some datagram
    | _ => none

end System

/-- The exact tokens among datagrams. -/
def receipts (token : Token) (datagrams : List Bytes) : Nat := datagrams.count token.bytes

theorem accepts_iff (token : Token) (datagram : Bytes) :
    token.accepts datagram = true ↔ datagram = token.bytes := by
  have short := token.short
  simp only [Token.accepts, payloadOf, beq_iff_eq]
  constructor
  · intro same
    have length := congrArg List.length same
    rw [List.length_take] at length
    rwa [List.take_of_length_le (by omega)] at same
  · intro same
    rw [same, List.take_of_length_le (Nat.le_of_lt short)]

theorem receipts_append (token : Token) (first second : List Bytes) :
    receipts token (first ++ second) = receipts token first + receipts token second :=
  List.count_append

theorem receipts_one (token : Token) (datagram : Bytes) (valid : Nat) :
    (if token.accepts datagram then valid + 1 else valid) =
      valid + receipts token [datagram] := by
  by_cases same : datagram = token.bytes
  · rw [if_pos ((accepts_iff token datagram).2 same), receipts, same, List.count_singleton_self]
  · rw [if_neg (fun accepted => same ((accepts_iff token datagram).1 accepted)), receipts,
      List.count_singleton, if_neg (by simpa using same), Nat.add_zero]

section Steps

variable {Caller : Type} [DecidableEq Caller]

theorem moved_point (state : Recorder Caller) (party other : Party Caller) (point : Point) :
    (state.moved party point).point other = if other = party then point else state.point other :=
  Function.update_apply state.point party point other

/-- What an action asks of a state and what it makes of it. `spent` and `starved` are the turns
that end a batch: no turn is left, or nothing can be received. -/
inductive Taken (state : Recorder Caller) : Action Caller → Recorder Caller → Prop
  | arrive (datagram : Bytes) :
    Taken state (.arrive datagram) { state with queue := state.queue ++ [datagram] }
  | call (name : Caller) (here : state.point (.caller name) = .idle) :
    Taken state (.call name) (state.moved (.caller name) .waiting)
  | answer (name : Caller) (here : state.point (.caller name) = .after) :
    Taken state (.answer name)
      { state.moved (.caller name) .idle with drained := state.drained ++ [state.count] }
  | loop (here : state.point .reader = .idle) :
    Taken state .loop (state.moved .reader (if state.stopped then .finished else .waiting))
  | sleep (here : state.point .reader = .after) : Taken state .sleep (state.moved .reader .idle)
  | stop (here : state.point .closer = .idle) :
    Taken state .stop { state.moved .closer .joining with stopped := true }
  | join (here : state.point .closer = .joining) :
    Taken state .join (state.moved .closer .waiting)
  | shut (here : state.point .closer = .after) :
    Taken state .shut { state.moved .closer .finished with closed := true }
  | acquire (party : Party Caller) (here : state.point party = .waiting)
    (free : state.holder = none) : Taken state (.acquire party)
      { state.moved party (.checking maxInvocationDatagramsPerDrain 0) with holder := some party }
  | spent (party : Party Caller) (valid : Nat) (here : state.point party = .checking 0 valid) :
    Taken state (.check party) (state.moved party (.publishing valid))
  | check (party : Party Caller) (left valid : Nat)
    (here : state.point party = .checking (left + 1) valid) (uncut : ¬state.isCut party = true) :
    Taken state (.check party) (state.moved party (.receiving left valid))
  | cut (party : Party Caller) (left valid : Nat)
    (here : state.point party = .checking (left + 1) valid) :
    Taken state (.cut party) (state.moved party (.publishing valid))
  | starved (party : Party Caller) (left valid : Nat)
    (here : state.point party = .receiving left valid)
    (nothing : state.closed = true ∨ state.queue = []) :
    Taken state (.receive party) (state.moved party (.publishing valid))
  | receive (party : Party Caller) (left valid : Nat) (datagram : Bytes) (rest : List Bytes)
    (here : state.point party = .receiving left valid) (queued : state.queue = datagram :: rest) :
    Taken state (.receive party)
      { state.moved party
          (.checking left (if state.token.accepts datagram then valid + 1 else valid)) with
        queue := rest
        received := state.received ++ [datagram] }
  | publish (party : Party Caller) (valid : Nat) (here : state.point party = .publishing valid) :
    Taken state (.publish party)
      { state.moved party .releasing with
        count := state.count + valid
        published := state.received }
  | release (party : Party Caller) (here : state.point party = .releasing) :
    Taken state (.release party) { state.moved party .after with holder := none }

theorem recv_taken (state : Recorder Caller) (party : Party Caller) (left valid : Nat)
    (here : state.point party = .receiving left valid) :
    Taken state (.receive party) (state.recv party left valid) := by
  unfold Recorder.recv
  split
  · next closed => exact .starved party left valid here (.inl closed)
  · split
    · next empty => exact .starved party left valid here (.inr empty)
    · next datagram rest queued => exact .receive party left valid datagram rest here queued

theorem step_taken (action : Action Caller) (before after : Recorder Caller)
    (taken : step action before = some after) : Taken before action after := by
  cases action with
  | arrive datagram =>
    simp only [step, Option.ite_none_left_eq_some, Option.some.injEq] at taken
    exact taken.2 ▸ .arrive datagram
  | check party =>
    simp only [step] at taken
    split at taken
    · next valid here =>
        cases taken
        exact .spent party valid here
    · next left valid here =>
        simp only [Option.ite_none_left_eq_some, Option.some.injEq] at taken
        exact taken.2 ▸ .check party left valid here taken.1
    · cases taken
  | cut party =>
    simp only [step] at taken
    split at taken
    · next left valid here =>
        simp only [Option.ite_none_right_eq_some, Option.some.injEq] at taken
        exact taken.2 ▸ .cut party left valid here
    · cases taken
  | receive party =>
    simp only [step] at taken
    split at taken
    · next left valid here =>
        cases taken
        exact recv_taken before party left valid here
    · cases taken
  | publish party =>
    simp only [step] at taken
    split at taken
    · next valid here =>
        cases taken
        exact .publish party valid here
    · cases taken
  | call _ | answer _ | loop | sleep | stop | join | shut | acquire _ | release _ =>
    simp only [step, Option.ite_none_right_eq_some, Option.some.injEq] at taken
    obtain ⟨here, made⟩ := taken
    subst made
    first | exact .acquire _ here.1 here.2 | constructor; exact here

/-- What a step does to the books, whichever thread takes it. -/
structure Advances (action : Action Caller) (before after : Recorder Caller) : Prop where
  token : after.token = before.token
  arrived : after.received ++ after.queue = before.received ++ before.queue ++ arrivals [action]
  received : before.received <+: after.received
  published : after.published = before.published ∨ after.published = before.received
  count : before.count ≤ after.count
  drained : after.drained = before.drained ∨ after.drained = before.drained ++ [before.count]

omit [DecidableEq Caller] in
theorem advances_moved (action : Action Caller) (before after : Recorder Caller)
    (silent : arrivals [action] = []) (token : after.token = before.token)
    (queue : after.queue = before.queue) (received : after.received = before.received)
    (published : after.published = before.published ∨ after.published = before.received)
    (count : before.count ≤ after.count)
    (drained : after.drained = before.drained ∨ after.drained = before.drained ++ [before.count]) :
    Advances action before after := by
  constructor
  · exact token
  · rw [queue, received, silent, List.append_nil]
  · exact ⟨[], by rw [received, List.append_nil]⟩
  · exact published
  · exact count
  · exact drained

theorem step_advances (action : Action Caller) (before after : Recorder Caller)
    (taken : step action before = some after) : Advances action before after := by
  cases step_taken action before after taken with
  | arrive datagram =>
    exact ⟨rfl, by simp [arrivals], List.prefix_rfl, .inl rfl, le_rfl, .inl rfl⟩
  | answer name =>
    exact advances_moved _ before _ rfl rfl rfl rfl (.inl rfl) le_rfl (.inr rfl)
  | receive party left valid datagram rest here queued =>
    refine ⟨rfl, ?_, List.prefix_append _ _, .inl rfl, le_rfl, .inl rfl⟩
    simp [queued, arrivals]
  | publish party valid =>
    exact advances_moved _ before _ rfl rfl rfl rfl (.inr rfl) (Nat.le_add_right _ _) (.inl rfl)
  | call | loop | sleep | stop | join | shut | acquire | spent | check | cut | starved | release =>
    exact advances_moved _ before _ rfl rfl rfl rfl (.inl rfl) le_rfl (.inl rfl)

/-- The thread in a batch is the one that holds the lock, and all that was received is in the count
or in the hands of that thread. -/
structure Locked (state : Recorder Caller) : Prop where
  holds : ∀ party, (state.point party).inBatch = true ↔ state.holder = some party
  counted : state.count = receipts state.token state.published
  below : state.published <+: state.received
  settled : state.holder = none → state.published = state.received
  pending : ∀ party, state.holder = some party →
    state.count + (state.point party).unpublished = receipts state.token state.received
  flushed : ∀ party, state.point party = .releasing → state.published = state.received

omit [DecidableEq Caller] in
/-- What a thread in a batch has taken is in its hands. -/
theorem pending_at {state : Recorder Caller} {party : Party Caller} {point : Point}
    (locked : Locked state) (here : state.point party = point) (inside : point.inBatch = true) :
    state.count + point.unpublished = receipts state.token state.received := by
  have pending := locked.pending party ((locked.holds party).1 (by rw [here, inside]))
  rw [here] at pending
  exact pending

section Moves

variable {before after : Recorder Caller} {party : Party Caller} {point : Point}
  (locked : Locked before) (points : after.point = Function.update before.point party point)

include locked points

theorem locked_outside (outside : (before.point party).inBatch = false)
    (still : point.inBatch = false) (token : after.token = before.token)
    (received : after.received = before.received) (published : after.published = before.published)
    (count : after.count = before.count) (holder : after.holder = before.holder) :
    Locked after := by
  have free : before.holder ≠ some party := by
    intro held
    rw [(locked.holds party).2 held] at outside
    cases outside
  constructor
  · intro other
    rw [points, Function.update_apply, holder]
    by_cases here : other = party
    · rw [if_pos here, here, still]
      exact ⟨nofun, fun held => absurd held free⟩
    · rw [if_neg here]
      exact locked.holds other
  · rw [count, token, published]
    exact locked.counted
  · rw [published, received]
    exact locked.below
  · rw [holder, published, received]
    exact locked.settled
  · intro other held
    rw [holder] at held
    have apart : other ≠ party := fun same => free (same ▸ held)
    rw [points, Function.update_of_ne apart, count, token, received]
    exact locked.pending other held
  · intro other releasing
    rw [points, Function.update_apply] at releasing
    rw [published, received]
    by_cases here : other = party
    · rw [if_pos here] at releasing
      rw [releasing] at still
      cases still
    · rw [if_neg here] at releasing
      exact locked.flushed other releasing

theorem locked_inside {old : Point} (here : before.point party = old)
    (inside : old.inBatch = true) (still : point.inBatch = true)
    (holder : after.holder = before.holder)
    (counted : after.count = receipts after.token after.published)
    (below : after.published <+: after.received)
    (pending : after.count + point.unpublished = receipts after.token after.received)
    (flushed : point = .releasing → after.published = after.received) : Locked after := by
  have held := (locked.holds party).1 (by rw [here, inside])
  constructor
  · intro other
    rw [points, Function.update_apply, holder]
    by_cases same : other = party
    · rw [if_pos same, same, still]
      exact ⟨fun _ => held, fun _ => rfl⟩
    · rw [if_neg same]
      exact locked.holds other
  · exact counted
  · exact below
  · intro free
    rw [holder, held] at free
    cases free
  · intro other otherHeld
    rw [holder, held, Option.some.injEq] at otherHeld
    rw [points, ← otherHeld, Function.update_self]
    exact pending
  · intro other releasing
    rw [points, Function.update_apply] at releasing
    by_cases same : other = party
    · rw [if_pos same] at releasing
      exact flushed releasing
    · rw [if_neg same] at releasing
      have otherHeld := (locked.holds other).1 (by rw [releasing]; rfl)
      rw [held, Option.some.injEq] at otherHeld
      exact absurd otherHeld.symm same

omit points in
/-- A move in a batch that takes nothing. -/
theorem locked_turn {old : Point} (here : before.point party = old) (inside : old.inBatch = true)
    (still : point.inBatch = true) (kept : point.unpublished = old.unpublished)
    (going : point ≠ .releasing) : Locked (before.moved party point) := by
  have pending := pending_at locked here inside
  rw [← kept] at pending
  exact locked_inside locked rfl here inside still rfl locked.counted locked.below pending
    fun releasing => absurd releasing going

end Moves

theorem locked_step (action : Action Caller) (before after : Recorder Caller)
    (taken : step action before = some after) (locked : Locked before) : Locked after := by
  cases step_taken action before after taken with
  | arrive datagram =>
    exact ⟨locked.holds, locked.counted, locked.below, locked.settled, locked.pending,
      locked.flushed⟩
  | call name here | answer name here | sleep here | stop here | join here | shut here =>
    exact locked_outside locked rfl (by rw [here]; rfl) rfl rfl rfl rfl rfl rfl
  | loop here =>
    have still : (if before.stopped then Point.finished else Point.waiting).inBatch = false := by
      split
      · rfl
      · rfl
    exact locked_outside locked rfl (by rw [here]; rfl) still rfl rfl rfl rfl rfl
  | acquire party _ free =>
    have none (other : Party Caller) : (before.point other).inBatch = false := by
      rw [← Bool.not_eq_true, locked.holds, free]
      nofun
    refine ⟨?_, locked.counted, locked.below, nofun, ?_, fun _ _ => locked.settled free⟩
    · intro other
      simp only [moved_point, Option.some.injEq]
      by_cases here : other = party
      · rw [if_pos here]
        exact ⟨fun _ => here.symm, fun _ => rfl⟩
      · rw [if_neg here, none]
        exact ⟨nofun, fun same => absurd same.symm here⟩
    · intro other same
      cases same
      simp only [moved_point, if_true, Point.unpublished, Nat.add_zero]
      exact locked.counted.trans (congrArg _ (locked.settled free))
  | release party releasing =>
    have held := (locked.holds party).1 (by rw [releasing]; rfl)
    have flushed := locked.flushed party releasing
    refine ⟨?_, locked.counted, locked.below, fun _ => flushed, nofun, fun _ _ => flushed⟩
    intro other
    simp only [moved_point]
    by_cases here : other = party
    · rw [if_pos here]
      exact ⟨nofun, nofun⟩
    · rw [if_neg here, locked.holds, held, Option.some.injEq]
      exact ⟨fun same => absurd same.symm here, nofun⟩
  | spent party valid here | check party left valid here | cut party left valid here
  | starved party left valid here =>
    exact locked_turn locked here rfl rfl rfl nofun
  | receive party left valid datagram rest here queued =>
    have pending := pending_at locked here rfl
    refine locked_inside locked rfl here rfl rfl rfl locked.counted ?_ ?_ nofun
    · exact locked.below.trans (List.prefix_append _ _)
    · simp only [Point.unpublished, Recorder.moved] at pending ⊢
      rw [receipts_one, receipts_append, ← pending, Nat.add_assoc]
  | publish party valid here =>
    have pending := pending_at locked here rfl
    exact locked_inside locked rfl here rfl rfl rfl pending List.prefix_rfl pending fun _ => rfl

/-- The socket is closed behind the stop event, when no thread is about to receive. -/
structure Closing (state : Recorder Caller) : Prop where
  stopped : state.point .closer ≠ .idle → state.stopped = true
  quiet : state.point .closer = .after ∨ state.point .closer = .finished →
    ∀ party left valid, state.point party ≠ .receiving left valid
  shut : state.closed = true → state.point .closer = .finished

theorem closing_moved {before after : Recorder Caller} {party : Party Caller} {old point : Point}
    (closing : Closing before) (points : after.point = Function.update before.point party point)
    (here : before.point party = old) (stopped : after.stopped = before.stopped)
    (closed : after.closed = before.closed)
    (midway : party = .closer → old ≠ .idle ∧ old ≠ .finished ∧ point ≠ .finished)
    (fresh : ∀ left valid, point = .receiving left valid → party = .closer ∨ before.stopped = false)
    (ended : party = .closer → point = .after →
      ∀ other left valid, before.point other ≠ .receiving left valid) : Closing after := by
  have still (apart : Party.closer ≠ party) : after.point .closer = before.point .closer := by
    rw [points, Function.update_of_ne apart]
  constructor
  · intro begun
    rw [stopped]
    by_cases own : Party.closer = party
    · apply closing.stopped
      rw [own, here]
      exact (midway own.symm).1
    · exact closing.stopped (still own ▸ begun)
  · intro past other left valid receiving
    rw [points] at receiving
    by_cases own : Party.closer = party
    · rw [points, own, Function.update_self] at past
      have last : point = .after :=
        past.resolve_right (midway own.symm).2.2
      by_cases same : other = party
      · rw [same, Function.update_self, last] at receiving
        cases receiving
      · rw [Function.update_of_ne same] at receiving
        exact ended own.symm last other left valid receiving
    · rw [still own] at past
      by_cases same : other = party
      · rw [same, Function.update_self] at receiving
        have running := (fresh left valid receiving).resolve_left fun closer => own closer.symm
        rw [closing.stopped (by rcases past with past | past <;> rw [past] <;> nofun)] at running
        cases running
      · rw [Function.update_of_ne same] at receiving
        exact closing.quiet past other left valid receiving
  · intro shut
    rw [closed] at shut
    have last := closing.shut shut
    by_cases own : Party.closer = party
    · rw [own, here] at last
      exact absurd last (midway own.symm).2.1
    · rw [still own]
      exact last

theorem closing_step (action : Action Caller) (before after : Recorder Caller)
    (taken : step action before = some after) (locked : Locked before)
    (closing : Closing before) : Closing after := by
  cases step_taken action before after taken with
  | arrive datagram => exact ⟨closing.stopped, closing.quiet, closing.shut⟩
  | call name here | answer name here | sleep here =>
    exact closing_moved closing rfl here rfl rfl nofun nofun nofun
  | loop here =>
    refine closing_moved closing rfl here rfl rfl nofun ?_ nofun
    intro left valid receiving
    split at receiving
    · cases receiving
    · cases receiving
  | stop here =>
    refine ⟨fun _ => rfl, ?_, ?_⟩
    · intro last
      simp [moved_point] at last
    · intro shut
      rw [closing.shut shut] at here
      cases here
  | shut here =>
    have started : before.point .closer ≠ .idle := by
      rw [here]
      nofun
    refine ⟨fun _ => closing.stopped started, ?_, ?_⟩
    · intro _ other left valid receiving
      simp only [moved_point] at receiving
      split at receiving
      · cases receiving
      · exact closing.quiet (.inl here) other left valid receiving
    · intro _
      simp [moved_point]
  | release party here =>
    have held := (locked.holds party).1 (by rw [here]; rfl)
    refine closing_moved closing rfl here rfl rfl (fun _ => ⟨nofun, nofun, nofun⟩) nofun ?_
    intro _ _ other left valid receiving
    have otherHeld := (locked.holds other).1 (by rw [receiving]; rfl)
    rw [held, Option.some.injEq] at otherHeld
    rw [← otherHeld, here] at receiving
    cases receiving
  | check party left valid here uncut =>
    refine closing_moved closing rfl here rfl rfl (fun _ => ⟨nofun, nofun, nofun⟩) ?_ nofun
    intro _ _ _
    simp only [Recorder.isCut, Bool.and_eq_true, decide_eq_true_eq, not_and, not_not] at uncut
    by_cases stopped : before.stopped = true
    · exact .inl (uncut stopped)
    · exact .inr (Bool.eq_false_iff.2 stopped)
  | join here | acquire party here | spent party valid here | cut party left valid here
  | starved party left valid here | receive party left valid datagram rest here
  | publish party valid here =>
    exact closing_moved closing rfl here rfl rfl (fun _ => ⟨nofun, nofun, nofun⟩) nofun nofun

end Steps

end EvoomGuard.Isolation.Invocation
