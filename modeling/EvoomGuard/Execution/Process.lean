import EvoomGuard.Lib.Framing
import EvoomGuard.Lib.Runs

/-!
The bounded execution of a process in `execution/process.py`: two reader threads drain the pipes of
the child into one capture that they share, while the main thread polls the child and the capture.
A run is any order of the steps of the child, the readers and the main thread; an append and a look
at the capture are one step each, since both hold its lock.
-/

namespace EvoomGuard.Execution.Process

open Lib Lib.Framing

inductive OutputStream where
  | stdout
  | stderr
  deriving DecidableEq

structure BoundedOutput where
  limit : Nat
  /-- `_stdout` and `_stderr` -/
  stored : OutputStream → Bytes
  captured : Nat
  exceeded : Bool

def BoundedOutput.empty (limit : Nat) : BoundedOutput := ⟨limit, fun _ => [], 0, false⟩

def BoundedOutput.create (limit : Int) : Except Text BoundedOutput :=
  if limit < 0 then .error "output limit must be non-negative"
  else .ok (.empty limit.toNat)

def BoundedOutput.append (output : BoundedOutput) (stream : OutputStream) (data : Bytes) :
    BoundedOutput :=
  let remaining := output.limit - output.captured
  let accepted := data.take remaining
  { output with
    stored := Function.update output.stored stream (output.stored stream ++ accepted)
    captured := output.captured + accepted.length
    exceeded := output.exceeded || accepted.length ≠ data.length }

def given (calls : List (OutputStream × Bytes)) (stream : OutputStream) : Bytes :=
  calls.flatMap fun call => if call.1 = stream then call.2 else []

def total (bytes : OutputStream → Bytes) : Nat := (bytes .stdout).length + (bytes .stderr).length

/-- The capture holds a part of what it was given, within its limit, and says whether that is not
all. -/
structure Captures (output : BoundedOutput) (bytes : OutputStream → Bytes) : Prop where
  stored : ∀ stream, output.stored stream <+: bytes stream
  bounded : total output.stored ≤ output.limit
  exceeded : output.exceeded = true ↔ output.limit < total bytes
  complete : output.exceeded = false → output.stored = bytes

/-- What holds between two appends: nothing is stored once something was refused. -/
structure Capturing (output : BoundedOutput) (bytes : OutputStream → Bytes) : Prop
    extends Captures output bytes where
  counted : output.captured = total output.stored
  full : output.exceeded = true → output.captured = output.limit

theorem total_update (bytes : OutputStream → Bytes) (stream : OutputStream) (more : Bytes) :
    total (Function.update bytes stream (bytes stream ++ more)) = total bytes + more.length := by
  cases stream <;> simp [total, Function.update] <;> omega

/-- The part of the data that an append stores, and what there is in all afterwards. -/
theorem capturing_append {output : BoundedOutput} {bytes : OutputStream → Bytes}
    (capturing : Capturing output bytes) (stream : OutputStream) (data : Bytes) :
    Capturing (output.append stream data)
      (Function.update bytes stream (bytes stream ++ data)) := by
  have bounded := capturing.bounded
  have counted := capturing.counted
  have length : (data.take (output.limit - output.captured)).length =
      min (output.limit - output.captured) data.length := List.length_take
  have stored := total_update output.stored stream (data.take (output.limit - output.captured))
  have all := total_update bytes stream data
  have refused : (output.append stream data).exceeded = true ↔ output.exceeded = true ∨
      output.limit < output.captured + data.length := by
    simp only [BoundedOutput.append, Bool.or_eq_true, decide_eq_true_eq, length]
    cases exceeded : output.exceeded with
    | true => simp
    | false =>
      simp only [Bool.false_eq_true, false_or]
      omega
  cases exceeded : output.exceeded with
  | true =>
    -- Nothing was left, so nothing is stored.
    have full := capturing.full exceeded
    have spilled := capturing.exceeded.1 exceeded
    have none : data.take (output.limit - output.captured) = [] := by
      rw [full, Nat.sub_self, List.take_zero]
    have same : (output.append stream data).stored = output.stored := by
      simp only [BoundedOutput.append, none, List.append_nil]
      exact Function.update_eq_self stream output.stored
    exact {
      stored := by
        intro each
        rw [same]
        refine (capturing.stored each).trans ?_
        by_cases here : each = stream
        · rw [here, Function.update_self]
          exact List.prefix_append _ _
        · simp only [Function.update_of_ne here]
          exact List.prefix_rfl
      bounded := same ▸ bounded
      exceeded := by
        rw [refused, all]
        exact ⟨fun _ => Nat.lt_of_lt_of_le spilled (Nat.le_add_right _ _),
          fun _ => .inl exceeded⟩
      complete := fun unexceeded => by
        rw [refused.2 (.inl exceeded)] at unexceeded
        cases unexceeded
      counted := by
        rw [same, ← counted]
        simp only [BoundedOutput.append, none, List.length_nil, Nat.add_zero]
      full := by
        intro _
        change output.captured + (data.take (output.limit - output.captured)).length =
          output.limit
        rw [none, full]
        exact Nat.add_zero _ }
  | false =>
    have complete := capturing.complete exceeded
    rw [complete] at counted bounded stored
    exact {
      stored := by
        intro each
        simp only [BoundedOutput.append, complete]
        by_cases here : each = stream
        · rw [here, Function.update_self, Function.update_self]
          exact (List.prefix_append_right_inj _).2 (List.take_prefix _ _)
        · simp only [Function.update_of_ne here]
          exact List.prefix_rfl
      bounded := by
        simp only [BoundedOutput.append, complete]
        omega
      exceeded := by
        rw [refused, all, exceeded, ← counted]
        simp [BoundedOutput.append]
      complete := by
        intro unexceeded
        have fits : ¬output.limit < output.captured + data.length := fun spilled => by
          rw [refused.2 (.inr spilled)] at unexceeded
          cases unexceeded
        simp only [BoundedOutput.append, complete]
        rw [List.take_of_length_le (by omega)]
      counted := by
        simp only [BoundedOutput.append, complete]
        omega
      full := by
        intro spilled
        have beyond := (refused.1 spilled).resolve_left (by rw [exceeded]; decide)
        simp only [BoundedOutput.append]
        omega }

theorem capturing_empty (limit : Nat) : Capturing (.empty limit) fun _ => [] where
  stored := fun _ => List.prefix_rfl
  bounded := Nat.zero_le limit
  exceeded := by simp [BoundedOutput.empty, total]
  complete := fun _ => rfl
  counted := rfl
  full := fun exceeded => by cases exceeded

theorem capturing_calls (calls : List (OutputStream × Bytes)) :
    ∀ {output : BoundedOutput} {bytes : OutputStream → Bytes}, Capturing output bytes →
      Capturing (calls.foldl (fun output call => output.append call.1 call.2) output)
        fun stream => bytes stream ++ given calls stream := by
  induction calls with
  | nil =>
    intro output bytes capturing
    simpa [given] using capturing
  | cons call rest ih =>
    intro output bytes capturing
    have all := ih (capturing_append capturing call.1 call.2)
    have same : (fun stream => Function.update bytes call.1 (bytes call.1 ++ call.2) stream ++
        given rest stream) = fun stream => bytes stream ++ given (call :: rest) stream := by
      funext stream
      by_cases here : call.1 = stream
      · subst here
        simp [given]
      · simp [given, here, Function.update_of_ne (Ne.symm here)]
    rwa [same] at all

theorem created_captures {limit : Int} {output : BoundedOutput}
    (created : BoundedOutput.create limit = .ok output) (calls : List (OutputStream × Bytes)) :
    Captures (calls.foldl (fun output call => output.append call.1 call.2) output)
      (given calls) := by
  unfold BoundedOutput.create at created
  split at created
  · cases created
  · cases created
    simpa using (capturing_calls calls (capturing_empty limit.toNat)).toCaptures

end EvoomGuard.Execution.Process
