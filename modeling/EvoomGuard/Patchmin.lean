import Mathlib.Data.List.Sublists

/-!
The delta debugging of `patchmin.py`: `minimize_patch` over a list of independent edits and an
injected predicate.
-/

namespace EvoomGuard.Patchmin

section Minimize

variable {Edit : Type*} (passes : List Edit → Bool)

/-- `current[:i] + current[i + 1:]`. -/
def without (current : List Edit) (index : Nat) : List Edit :=
  current.take index ++ current.drop (index + 1)

/-- One sweep in order: the list without its first removable element, or nothing. -/
def sweepFrom (current : List Edit) : List Nat → Option (List Edit)
  | [] => none
  | index :: rest =>
    if passes (without current index) then some (without current index)
    else sweepFrom current rest

def sweep (current : List Edit) : Option (List Edit) :=
  sweepFrom passes current (List.range current.length)

variable (current : List Edit)

theorem without_length (index : Nat) (inside : index < current.length) :
    (without current index).length + 1 = current.length := by
  simp only [without, List.length_append, List.length_take, List.length_drop]
  omega

theorem without_sublist (index : Nat) :
    (without current index).Sublist current := by
  have whole : current.take index ++ current.drop index = current := List.take_append_drop ..
  have later : (current.drop (index + 1)).Sublist (current.drop index) :=
    List.drop_sublist_drop_left _ (Nat.le_succ index)
  calc
    without current index = current.take index ++ current.drop (index + 1) := rfl
    List.Sublist _ (current.take index ++ current.drop index) :=
      List.Sublist.append_left later _
    _ = current := whole

theorem sweep_from_cases (indices : List Nat) :
    (∃ index ∈ indices, sweepFrom passes current indices = some (without current index) ∧
        passes (without current index) = true) ∨
      (sweepFrom passes current indices = none ∧
        ∀ index ∈ indices, passes (without current index) = false) := by
  induction indices with
  | nil => exact Or.inr ⟨rfl, by simp⟩
  | cons index rest ih =>
    rw [sweepFrom]
    by_cases removable : passes (without current index) = true
    · rw [if_pos removable]
      exact Or.inl ⟨index, List.mem_cons_self, rfl, removable⟩
    · rw [if_neg removable]
      cases ih with
      | inl found =>
        obtain ⟨later, inside, swept, passing⟩ := found
        exact Or.inl ⟨later, List.mem_cons_of_mem _ inside, swept, passing⟩
      | inr kept =>
        apply Or.inr
        constructor
        · exact kept.1
        · intro other inside
          rw [List.mem_cons] at inside
          cases inside with
          | inl same => simpa [same] using removable
          | inr later => exact kept.2 other later

theorem sweep_shorter (current next : List Edit) (swept : sweep passes current = some next) :
    next.length < current.length := by
  rcases sweep_from_cases passes current (List.range current.length) with
    ⟨index, inside, found, _⟩ | ⟨none, _⟩
  · rw [sweep, found, Option.some.injEq] at swept
    rw [← swept]
    have shorter := without_length current index (List.mem_range.mp inside)
    omega
  · rw [sweep, none] at swept
    cases swept

/-- The `while changed` loop. Every turn but the last drops an element. -/
def fixpoint (current : List Edit) : List Edit :=
  match swept : sweep passes current with
  | none => current
  | some next => fixpoint next
termination_by current.length
decreasing_by exact sweep_shorter passes current next swept

/-- `none` is the `ValueError` of a patch that fails to begin with. -/
def minimizePatch (edits : List Edit) : Option (List Edit) :=
  if passes [] then some []
  else if passes edits then some (fixpoint passes edits)
  else none

/-- Removing any one element makes the predicate false. -/
def OneMinimal (current : List Edit) : Prop :=
  ∀ index < current.length, passes (current.eraseIdx index) = false

theorem without_eq_erase (index : Nat) :
    without current index = current.eraseIdx index :=
  (List.eraseIdx_eq_take_drop_succ current index).symm

theorem sweep_none_iff :
    sweep passes current = none ↔ OneMinimal passes current := by
  rcases sweep_from_cases passes current (List.range current.length) with
    ⟨index, inside, found, passing⟩ | ⟨none, kept⟩
  · constructor
    · intro absent
      rw [sweep, found] at absent
      cases absent
    · intro minimal
      have failing := minimal index (List.mem_range.mp inside)
      rw [← without_eq_erase, passing] at failing
      cases failing
  · constructor
    · intro _ index inside
      rw [← without_eq_erase]
      exact kept index (List.mem_range.mpr inside)
    · intro _
      exact none

theorem sweep_keeps (edits current next : List Edit) (below : current.Sublist edits)
    (swept : sweep passes current = some next) : next.Sublist edits ∧ passes next = true := by
  rcases sweep_from_cases passes current (List.range current.length) with
    ⟨index, _, found, passing⟩ | ⟨none, _⟩
  · rw [sweep, found, Option.some.injEq] at swept
    rw [← swept]
    exact ⟨(without_sublist current index).trans below, passing⟩
  · rw [sweep, none] at swept
    cases swept

theorem fixpoint_minimal (edits current : List Edit) (below : current.Sublist edits)
    (passing : passes current = true) :
    (fixpoint passes current).Sublist edits ∧ passes (fixpoint passes current) = true ∧
      OneMinimal passes (fixpoint passes current) := by
  induction current using fixpoint.induct passes with
  | case1 current ended =>
    rw [fixpoint, ended]
    exact ⟨below, passing, (sweep_none_iff passes current).mp ended⟩
  | case2 current next swept ih =>
    rw [fixpoint, swept]
    obtain ⟨inside, still⟩ := sweep_keeps passes edits current next below swept
    exact ih inside still

theorem minimize_patch_minimal (edits : List Edit) (whole : passes edits = true) :
    ∃ result, minimizePatch passes edits = some result ∧ result.Sublist edits ∧
      passes result = true ∧ OneMinimal passes result := by
  rw [minimizePatch]
  by_cases unnecessary : passes [] = true
  · rw [if_pos unnecessary]
    exact ⟨[], rfl, List.nil_sublist edits, unnecessary, fun _ inside => absurd inside (by simp)⟩
  · rw [if_neg unnecessary, if_pos whole]
    exact ⟨_, rfl, fixpoint_minimal passes edits edits (List.Sublist.refl edits) whole⟩

end Minimize

/-- Under a predicate that is not monotone: no one of the four edits can go, two of them could. -/
theorem minimize_patch_pair :
    ∃ result, minimizePatch (fun edits : List Nat => edits.length == 2 || edits.length == 4)
        [7, 5, 3, 1] = some result ∧ result.Sublist [7, 5, 3, 1] ∧
      (result.length == 2 || result.length == 4) = true ∧
      OneMinimal (fun edits : List Nat => edits.length == 2 || edits.length == 4) result :=
  minimize_patch_minimal (fun edits : List Nat => edits.length == 2 || edits.length == 4)
    [7, 5, 3, 1] (by decide)

end EvoomGuard.Patchmin
