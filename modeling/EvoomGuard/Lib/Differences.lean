import EvoomGuard.Lib.Order

/-!
Two lists in strictly ascending order of their keys, read side by side: the keys at which they
differ come out in the same order.
-/

namespace EvoomGuard.Lib

variable {Item Key : Type*} {le : Key → Key → Bool}

theorem TotalOrder.strict_trans (order : TotalOrder le) (first second third : Key)
    (below : le first second = true ∧ first ≠ second)
    (above : le second third = true ∧ second ≠ third) :
    le first third = true ∧ first ≠ third := by
  constructor
  · exact order.trans first second third below.1 above.1
  · intro same
    rw [← same] at above
    exact below.2 (order.antisymm first second below.1 above.1)

def Strict (le : Key → Key → Bool) (left right : Key) : Prop := le left right = true ∧ left ≠ right

def AscendingOn (le : Key → Key → Bool) (key : Item → Key) (items : List Item) : Prop :=
  items.Pairwise fun left right => Strict le (key left) (key right)

variable (key : Item → Key)

/-- Under this key the two lists hold different items. -/
def DiffersAt (before after : List Item) (wanted : Key) : Prop :=
  ∃ item, key item = wanted ∧ ¬(item ∈ before ↔ item ∈ after)

theorem first_not_among (left : Item) (others : List Item)
    (below : ∀ item ∈ others, Strict le (key left) (key item)) : left ∉ others := by
  intro inside
  exact (below left inside).2 rfl

theorem differs_at_cons (left right : Item) (lefts rights : List Item) (wanted : Key)
    (same : key left = key right)
    (leftBelow : ∀ item ∈ lefts, Strict le (key left) (key item))
    (rightBelow : ∀ item ∈ rights, Strict le (key right) (key item)) :
    DiffersAt key (left :: lefts) (right :: rights) wanted ↔
      (wanted = key left ∧ left ≠ right) ∨ DiffersAt key lefts rights wanted := by
  have leftOut := first_not_among key left lefts leftBelow
  have leftOther := first_not_among key left rights fun item inside => by
    rw [same]
    exact rightBelow item inside
  have rightOut := first_not_among key right rights rightBelow
  have rightOther := first_not_among key right lefts fun item inside => by
    rw [← same]
    exact leftBelow item inside
  unfold DiffersAt
  constructor
  · intro found
    rcases found with ⟨item, named, apart⟩
    rw [List.mem_cons, List.mem_cons] at apart
    by_cases first : item = left
    · subst first
      have other : item ≠ right := by
        intro equal
        exact apart ⟨fun _ => Or.inl equal, fun _ => Or.inl rfl⟩
      exact Or.inl ⟨named.symm, other⟩
    · by_cases second : item = right
      · subst second
        have other : left ≠ item := fun equal => first equal.symm
        exact Or.inl ⟨named.symm.trans same.symm, other⟩
      · refine Or.inr ⟨item, named, ?_⟩
        simpa [first, second] using apart
  · intro found
    rcases found with ⟨named, apart⟩ | ⟨item, named, apart⟩
    · refine ⟨left, named.symm, ?_⟩
      simp [apart, leftOther]
    · refine ⟨item, named, ?_⟩
      have first : item ≠ left := by
        intro equal
        subst equal
        exact apart ⟨fun inside => absurd inside leftOut, fun inside => absurd inside leftOther⟩
      have second : item ≠ right := by
        intro equal
        subst equal
        exact apart ⟨fun inside => absurd inside rightOther, fun inside => absurd inside rightOut⟩
      simpa [first, second] using apart

theorem differs_at_first (left : Item) (lefts others : List Item) (wanted : Key)
    (leftBelow : ∀ item ∈ lefts, Strict le (key left) (key item))
    (otherBelow : ∀ item ∈ others, Strict le (key left) (key item)) :
    DiffersAt key (left :: lefts) others wanted ↔
      wanted = key left ∨ DiffersAt key lefts others wanted := by
  have leftOut := first_not_among key left lefts leftBelow
  have otherOut := first_not_among key left others otherBelow
  unfold DiffersAt
  constructor
  · intro found
    rcases found with ⟨item, named, apart⟩
    by_cases first : item = left
    · exact Or.inl (by rw [← named, first])
    · refine Or.inr ⟨item, named, ?_⟩
      simpa [first] using apart
  · intro found
    rcases found with named | ⟨item, named, apart⟩
    · refine ⟨left, named.symm, ?_⟩
      simp [otherOut]
    · refine ⟨item, named, ?_⟩
      have first : item ≠ left := by
        intro equal
        subst equal
        exact apart ⟨fun inside => absurd inside leftOut, fun inside => absurd inside otherOut⟩
      simpa [first] using apart

theorem differs_at_comm (before after : List Item) (wanted : Key) :
    DiffersAt key before after wanted ↔ DiffersAt key after before wanted := by
  unfold DiffersAt
  constructor
  · intro found
    rcases found with ⟨item, named, apart⟩
    exact ⟨item, named, fun same => apart same.symm⟩
  · intro found
    rcases found with ⟨item, named, apart⟩
    exact ⟨item, named, fun same => apart same.symm⟩

theorem differs_at_nil (items : List Item) (wanted : Key) :
    DiffersAt key items [] wanted ↔ wanted ∈ items.map key := by
  simp [DiffersAt, and_comm]

theorem below_all (order : TotalOrder le) (left right : Item) (rights : List Item)
    (below : Strict le (key left) (key right))
    (ascending : AscendingOn le key (right :: rights)) :
    ∀ item ∈ right :: rights, Strict le (key left) (key item) := by
  intro item inside
  rcases List.mem_cons.mp inside with first | later
  · rw [first]
    exact below
  · exact order.strict_trans _ _ _ below ((List.pairwise_cons.mp ascending).1 item later)

variable [DecidableEq Item] [DecidableEq Key]

def differences (le : Key → Key → Bool) (key : Item → Key) : List Item → List Item → List Key
  | left :: lefts, right :: rights =>
    if key left = key right then
      if left = right then differences le key lefts rights
      else key left :: differences le key lefts rights
    else if le (key left) (key right) then key left :: differences le key lefts (right :: rights)
    else key right :: differences le key (left :: lefts) rights
  | [], rights => rights.map key
  | left :: lefts, [] => (left :: lefts).map key
termination_by lefts rights => lefts.length + rights.length

section

variable (order : TotalOrder le) (before after : List Item)
  (beforeAscends : AscendingOn le key before) (afterAscends : AscendingOn le key after)
include afterAscends beforeAscends order

theorem mem_differences (wanted : Key) :
    wanted ∈ differences le key before after ↔ DiffersAt key before after wanted := by
  induction before, after using differences.induct le key with
  | case1 lefts right rights same ih =>
    have leftParts := List.pairwise_cons.mp beforeAscends
    have rightParts := List.pairwise_cons.mp afterAscends
    rw [differences, if_pos rfl, if_pos rfl, ih leftParts.2 rightParts.2,
      differs_at_cons key right right lefts rights wanted rfl leftParts.1 rightParts.1]
    simp
  | case2 left lefts right rights same apart ih =>
    have leftParts := List.pairwise_cons.mp beforeAscends
    have rightParts := List.pairwise_cons.mp afterAscends
    rw [differences, if_pos same, if_neg apart, List.mem_cons, ih leftParts.2 rightParts.2,
      differs_at_cons key left right lefts rights wanted same leftParts.1 rightParts.1]
    simp [apart]
  | case3 left lefts right rights apart below ih =>
    have leftParts := List.pairwise_cons.mp beforeAscends
    rw [differences, if_neg apart, if_pos below, List.mem_cons, ih leftParts.2 afterAscends,
      differs_at_first key left lefts (right :: rights) wanted leftParts.1
        (below_all key order left right rights ⟨below, apart⟩ afterAscends)]
  | case4 left lefts right rights apart above ih =>
    have rightParts := List.pairwise_cons.mp afterAscends
    have reversed := (order.le_false_iff (key left) (key right)).mp (by simpa using above)
    rw [differences, if_neg apart, if_neg above, List.mem_cons, ih beforeAscends rightParts.2,
      differs_at_comm key (left :: lefts) (right :: rights),
      differs_at_first key right rights (left :: lefts) wanted rightParts.1
        (below_all key order right left lefts ⟨reversed.1, Ne.symm apart⟩ beforeAscends),
      differs_at_comm key rights (left :: lefts)]
  | case5 rights => rw [differences, differs_at_comm, differs_at_nil]
  | case6 left lefts => rw [differences, differs_at_nil]

theorem key_of_difference (wanted : Key) (found : wanted ∈ differences le key before after) :
    ∃ item, key item = wanted ∧ (item ∈ before ∨ item ∈ after) := by
  rw [mem_differences key order before after beforeAscends afterAscends] at found
  rcases found with ⟨item, named, apart⟩
  refine ⟨item, named, ?_⟩
  by_contra outside
  rw [not_or] at outside
  exact apart ⟨fun inside => absurd inside outside.1, fun inside => absurd inside outside.2⟩

theorem differences_ascend :
    (differences le key before after).Pairwise (Strict le) := by
  have above (lefts rights : List Item) (first : Key) (lefts_ascend : AscendingOn le key lefts)
      (rights_ascend : AscendingOn le key rights)
      (leftBelow : ∀ item ∈ lefts, Strict le first (key item))
      (rightBelow : ∀ item ∈ rights, Strict le first (key item)) :
      ∀ other ∈ differences le key lefts rights, Strict le first other := by
    intro other found
    rcases key_of_difference key order lefts rights lefts_ascend rights_ascend other found with
      ⟨item, named, inside⟩
    rw [← named]
    rcases inside with inside | inside
    · exact leftBelow item inside
    · exact rightBelow item inside
  induction before, after using differences.induct le key with
  | case1 lefts right rights same ih =>
    rw [differences, if_pos rfl, if_pos rfl]
    exact ih (List.pairwise_cons.mp beforeAscends).2 (List.pairwise_cons.mp afterAscends).2
  | case2 left lefts right rights same apart ih =>
    have leftParts := List.pairwise_cons.mp beforeAscends
    have rightParts := List.pairwise_cons.mp afterAscends
    rw [differences, if_pos same, if_neg apart, List.pairwise_cons]
    constructor
    · apply above lefts rights (key left) leftParts.2 rightParts.2 leftParts.1
      intro item inside
      rw [same]
      exact rightParts.1 item inside
    · exact ih leftParts.2 rightParts.2
  | case3 left lefts right rights apart below ih =>
    have leftParts := List.pairwise_cons.mp beforeAscends
    rw [differences, if_neg apart, if_pos below, List.pairwise_cons]
    constructor
    · exact above lefts (right :: rights) (key left) leftParts.2 afterAscends leftParts.1
        (below_all key order left right rights ⟨below, apart⟩ afterAscends)
    · exact ih leftParts.2 afterAscends
  | case4 left lefts right rights apart reversed ih =>
    have rightParts := List.pairwise_cons.mp afterAscends
    have order_ := (order.le_false_iff (key left) (key right)).mp (by simpa using reversed)
    rw [differences, if_neg apart, if_neg reversed, List.pairwise_cons]
    constructor
    · exact above (left :: lefts) rights (key right) beforeAscends rightParts.2
        (below_all key order right left lefts ⟨order_.1, Ne.symm apart⟩ beforeAscends)
        rightParts.1
    · exact ih beforeAscends rightParts.2
  | case5 rights =>
    rw [differences, List.pairwise_map]
    exact afterAscends
  | case6 left lefts =>
    rw [differences, List.pairwise_map]
    exact beforeAscends

theorem differences_eq_nil_iff :
    differences le key before after = [] ↔ before = after := by
  have unique (items : List Item) (ascends : AscendingOn le key items) :
      (items.map key).Nodup ∧
        items.Pairwise fun left right => le (key left) (key right) = true := by
    constructor
    · rw [List.Nodup, List.pairwise_map]
      exact ascends.imp And.right
    · exact ascends.imp And.left
  rw [List.eq_nil_iff_forall_not_mem]
  constructor
  · intro none
    have members (item : Item) : item ∈ before ↔ item ∈ after := by
      by_contra apart
      apply none (key item)
      rw [mem_differences key order before after beforeAscends afterAscends]
      exact ⟨item, rfl, apart⟩
    have left := unique before beforeAscends
    have right := unique after afterAscends
    apply ascending_unique order key before after _ left.1 left.2 right.2
    rw [List.perm_ext_iff_of_nodup (List.Nodup.of_map key left.1) (List.Nodup.of_map key right.1)]
    exact members
  · intro same wanted found
    rw [mem_differences key order before after beforeAscends afterAscends, same] at found
    rcases found with ⟨item, _, apart⟩
    exact apart Iff.rfl

end

end EvoomGuard.Lib
