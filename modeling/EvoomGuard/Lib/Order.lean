import EvoomGuard.Lib.Text

/-!
Total orders given by a Boolean test, the lexicographic order they induce on lists, and what
sorting by a key with such an order depends on. Code points, bytes and paths of components are
all compared this way.
-/

namespace EvoomGuard.Lib

variable {Item Key : Type*}

structure TotalOrder (le : Key → Key → Bool) : Prop where
  antisymm : ∀ left right, le left right = true → le right left = true → left = right
  trans : ∀ first second third, le first second = true → le second third = true →
    le first third = true
  total : ∀ left right, le left right = true ∨ le right left = true

namespace TotalOrder

variable {le : Key → Key → Bool}

theorem refl (order : TotalOrder le) (key : Key) : le key key = true := by
  rcases order.total key key with holds | holds <;> exact holds

theorem le_false_iff (order : TotalOrder le) (left right : Key) :
    le left right = false ↔ le right left = true ∧ left ≠ right := by
  constructor
  · intro above
    constructor
    · rcases order.total left right with holds | holds
      · rw [holds] at above
        cases above
      · exact holds
    · intro same
      rw [same, order.refl right] at above
      cases above
  · intro below
    by_contra holds
    exact below.2 (order.antisymm left right (by simpa using holds) below.1)

theorem comap (order : TotalOrder le) (read : Item → Key)
    (faithful : Function.Injective read) :
    TotalOrder fun left right => le (read left) (read right) where
  antisymm := fun left right below above =>
    faithful (order.antisymm (read left) (read right) below above)
  trans := fun first second third => order.trans (read first) (read second) (read third)
  total := fun left right => order.total (read left) (read right)

end TotalOrder

theorem nat_order : TotalOrder fun left right : Nat => decide (left ≤ right) where
  antisymm := by
    intro left right below above
    simp only [decide_eq_true_eq] at below above
    omega
  trans := by
    intro first second third below above
    simp only [decide_eq_true_eq] at below above ⊢
    omega
  total := by
    intro left right
    simp only [decide_eq_true_eq]
    omega

def lexLe [DecidableEq Item] (le : Item → Item → Bool) : List Item → List Item → Bool
  | [], _ => true
  | _ :: _, [] => false
  | left :: lefts, right :: rights =>
    if left = right then lexLe le lefts rights else le left right

section Lex

variable [DecidableEq Item] {le : Item → Item → Bool}

theorem lex_order (order : TotalOrder le) : TotalOrder (lexLe le) where
  antisymm := by
    intro left
    induction left with
    | nil =>
      intro right _ above
      cases right with
      | nil => rfl
      | cons item rest => cases above
    | cons item rest ih =>
      intro right below above
      cases right with
      | nil => cases below
      | cons other others =>
        by_cases same : item = other
        · subst same
          simp only [lexLe, if_true] at below above
          rw [ih others below above]
        · simp only [lexLe, if_neg same, if_neg (Ne.symm same)] at below above
          exact absurd (order.antisymm item other below above) same
  trans := by
    intro first
    induction first with
    | nil =>
      intro second third _ _
      rfl
    | cons item rest ih =>
      intro second third below above
      cases second with
      | nil => cases below
      | cons other others =>
        cases third with
        | nil => cases above
        | cons last lasts =>
          by_cases early : item = other
          · subst early
            by_cases late : item = last
            · subst late
              simp only [lexLe, if_true] at below above ⊢
              exact ih others lasts below above
            · simp only [lexLe, if_neg late] at above ⊢
              exact above
          · by_cases late : other = last
            · subst late
              simp only [lexLe, if_neg early] at below ⊢
              exact below
            · simp only [lexLe, if_neg early, if_neg late] at below above
              by_cases around : item = last
              · subst around
                exact absurd (order.antisymm item other below above) early
              · simp only [lexLe, if_neg around]
                exact order.trans item other last below above
  total := by
    intro left
    induction left with
    | nil =>
      intro right
      exact Or.inl rfl
    | cons item rest ih =>
      intro right
      cases right with
      | nil => exact Or.inr rfl
      | cons other others =>
        by_cases same : item = other
        · subst same
          simp only [lexLe, if_true]
          exact ih others
        · simp only [lexLe, if_neg same, if_neg (Ne.symm same)]
          exact order.total item other

@[simp]
theorem lex_append_left (head left right : List Item) :
    lexLe le (head ++ left) (head ++ right) = lexLe le left right := by
  induction head with
  | nil => rfl
  | cons item rest ih => simpa only [List.cons_append, lexLe, if_true] using ih

theorem lex_of_beginning (left right : List Item) (inside : left <+: right) :
    lexLe le left right = true := by
  rcases inside with ⟨rest, joined⟩
  subst joined
  have same : lexLe le (left ++ []) (left ++ rest) = lexLe le [] rest :=
    lex_append_left left [] rest
  rw [List.append_nil] at same
  rw [same]
  rfl

theorem lex_append_of_apart (left right : List Item) (apart : ¬ left <+: right)
    (other : ¬ right <+: left) (lefts rights : List Item) :
    lexLe le (left ++ lefts) (right ++ rights) = lexLe le left right := by
  induction left generalizing right with
  | nil => exact absurd List.nil_prefix apart
  | cons item rest ih =>
    cases right with
    | nil => exact absurd List.nil_prefix other
    | cons next nexts =>
      simp only [List.cons_append, lexLe]
      by_cases same : item = next
      · subst same
        rw [if_pos rfl, if_pos rfl]
        apply ih
        · intro inside
          exact apart (List.cons_prefix_cons.mpr ⟨rfl, inside⟩)
        · intro inside
          exact other (List.cons_prefix_cons.mpr ⟨rfl, inside⟩)
      · rw [if_neg same, if_neg same]

end Lex

/-- `sorted(items, key=key)`. -/
def sortOn (le : Key → Key → Bool) (key : Item → Key) (items : List Item) : List Item :=
  items.insertionSort fun left right => le (key left) (key right) = true

section Sorting

variable {le : Key → Key → Bool} {key : Item → Key}

theorem sort_on_perm (le : Key → Key → Bool) (key : Item → Key) (items : List Item) :
    (sortOn le key items).Perm items :=
  List.perm_insertionSort _ items

theorem sort_on_pairwise (order : TotalOrder le) (key : Item → Key) (items : List Item) :
    (sortOn le key items).Pairwise fun left right => le (key left) (key right) = true := by
  have total : Std.Total fun left right : Item => le (key left) (key right) = true :=
    ⟨fun left right => order.total (key left) (key right)⟩
  have trans : IsTrans Item fun left right => le (key left) (key right) = true :=
    ⟨fun first second third => order.trans (key first) (key second) (key third)⟩
  exact List.pairwise_insertionSort _ items

section

variable (order : TotalOrder le) (key : Item → Key) (left right : List Item)
  (same : left.Perm right) (distinct : (left.map key).Nodup)
include distinct order same

theorem ascending_unique
    (leftSorted : left.Pairwise fun first second => le (key first) (key second) = true)
    (rightSorted : right.Pairwise fun first second => le (key first) (key second) = true) :
    left = right := by
  apply List.Perm.eq_of_pairwise _ leftSorted rightSorted same
  intro first second firstInside secondInside below above
  have equal := order.antisymm (key first) (key second) below above
  exact List.inj_on_of_nodup_map distinct firstInside (same.mem_iff.mpr secondInside) equal

theorem sort_on_eq_of_perm :
    sortOn le key left = sortOn le key right := by
  apply ascending_unique order key
  · exact ((sort_on_perm le key left).trans same).trans (sort_on_perm le key right).symm
  · exact (((sort_on_perm le key left).map key).nodup_iff).mpr distinct
  · exact sort_on_pairwise order key left
  · exact sort_on_pairwise order key right

end

end Sorting

namespace Text

theorem le_eq_lex (left right : Text) :
    le left right = lexLe (fun first second => decide (first.toNat ≤ second.toNat)) left right := by
  induction left generalizing right with
  | nil => rfl
  | cons character rest ih =>
    cases right with
    | nil => rfl
    | cons other others =>
      simp only [le, lexLe]
      by_cases same : character = other
      · rw [if_pos same, if_pos same]
        exact ih others
      · rw [if_neg same, if_neg same]
        have apart : character.toNat ≠ other.toNat := fun equal => same (Char.toNat_inj.mp equal)
        simp only [decide_eq_decide]
        omega

theorem order : TotalOrder le := by
  have codePoints : TotalOrder fun first second : Char => decide (first.toNat ≤ second.toNat) :=
    nat_order.comap Char.toNat fun _ _ => Char.toNat_inj.mp
  have same : le = lexLe fun first second : Char => decide (first.toNat ≤ second.toNat) := by
    funext left right
    exact le_eq_lex left right
  rw [same]
  exact lex_order codePoints

theorem sorted_eq_sort_on (texts : List Text) : sorted texts = sortOn le id texts := rfl

theorem sorted_pairwise (texts : List Text) :
    (sorted texts).Pairwise fun left right => le left right = true :=
  sort_on_pairwise order id texts

theorem sorted_set_eq_iff (left right : List Text) :
    sortedSet left = sortedSet right ↔ ∀ text, text ∈ left ↔ text ∈ right := by
  constructor
  · intro same text
    rw [← mem_sorted_set, same, mem_sorted_set]
  · intro members
    have same : left.dedup.Perm right.dedup := by
      rw [List.perm_ext_iff_of_nodup (List.nodup_dedup left) (List.nodup_dedup right)]
      intro text
      rw [List.mem_dedup, List.mem_dedup, members text]
    apply sort_on_eq_of_perm order id _ _ same
    rw [List.map_id]
    exact List.nodup_dedup left

end Text

end EvoomGuard.Lib
