import Mathlib.Data.List.Basic

/-!
Occurrences of a list in another, from the left and without overlaps: the first one, the gaps
between them, and the replacement of the first few.
-/

namespace EvoomGuard.Lib.Occurrences

variable {Letter : Type*}

/-- `search` stands at this position of `source`. -/
def OccursAt (search source : List Letter) (pos : Nat) : Prop := search <+: source.drop pos

theorem occurs_at_bound {search source : List Letter} {pos : Nat} (nonempty : search ≠ [])
    (occurs : OccursAt search source pos) : pos + search.length ≤ source.length := by
  have fits := occurs.length_le
  have some := List.length_pos_iff.mpr nonempty
  rw [List.length_drop] at fits
  omega

theorem occurs_at_after (search before rest : List Letter) (pos : Nat) :
    OccursAt search (before ++ rest) (before.length + pos) ↔ OccursAt search rest pos := by
  rw [OccursAt, OccursAt, List.drop_append]
  have past : before.drop (before.length + pos) = [] := List.drop_eq_nil_of_le (by omega)
  rw [past, List.nil_append, Nat.add_sub_cancel_left]

theorem occurs_at_gap (search gap rest : List Letter) :
    OccursAt search (gap ++ search ++ rest) gap.length := by
  rw [List.append_assoc]
  have here := occurs_at_after search gap (search ++ rest) 0
  rw [Nat.add_zero] at here
  rw [here]
  exact List.prefix_append search rest

theorem occurs_at_split {search source : List Letter} {pos : Nat}
    (occurs : OccursAt search source pos) :
    source = source.take pos ++ search ++ source.drop (pos + search.length) := by
  obtain ⟨rest, found⟩ := occurs
  have after : source.drop (pos + search.length) = rest := by
    rw [← List.drop_drop, ← found, List.drop_left]
  rw [after, List.append_assoc, found, List.take_append_drop]

section

variable [DecidableEq Letter] (search : List Letter)

def findIn : List Letter → Option Nat
  | [] => if search.isEmpty then some 0 else none
  | letter :: rest =>
    if search.isPrefixOf (letter :: rest) then some 0 else (findIn rest).map (· + 1)

variable {search}

theorem find_in_spec (nonempty : search ≠ []) (source : List Letter) :
    match findIn search source with
    | some pos => OccursAt search source pos ∧ ∀ earlier < pos, ¬OccursAt search source earlier
    | none => ∀ pos, ¬OccursAt search source pos := by
  induction source with
  | nil =>
    have empty : search.isEmpty = false := by simpa using nonempty
    simp only [findIn, empty, Bool.false_eq_true, if_false]
    intro pos occurs
    rw [OccursAt, List.drop_nil, List.prefix_nil] at occurs
    exact nonempty occurs
  | cons letter rest ih =>
    have later (pos : Nat) :
        OccursAt search (letter :: rest) (pos + 1) ↔ OccursAt search rest pos := by
      rw [OccursAt, OccursAt, List.drop_succ_cons]
    rw [findIn]
    by_cases here : search.isPrefixOf (letter :: rest) = true
    · rw [if_pos here]
      exact ⟨List.isPrefixOf_iff_prefix.mp here, fun _ before => absurd before (Nat.not_lt_zero _)⟩
    · have notHere : ¬OccursAt search (letter :: rest) 0 := fun occurs =>
        here (List.isPrefixOf_iff_prefix.mpr occurs)
      rw [if_neg here]
      cases found : findIn search rest with
      | none =>
        simp only [found] at ih
        intro pos
        cases pos with
        | zero => exact notHere
        | succ pos => exact fun occurs => ih pos ((later pos).mp occurs)
      | some pos =>
        simp only [found] at ih
        constructor
        · exact (later pos).mpr ih.1
        · intro earlier before
          cases earlier with
          | zero => exact notHere
          | succ earlier =>
            exact fun occurs => ih.2 earlier (Nat.lt_of_succ_lt_succ before)
              ((later earlier).mp occurs)

variable {source : List Letter}

theorem find_in_some {pos : Nat} (nonempty : search ≠ [])
    (found : findIn search source = some pos) :
    OccursAt search source pos ∧ ∀ earlier < pos, ¬OccursAt search source earlier := by
  have spec := find_in_spec nonempty source
  rw [found] at spec
  exact spec

theorem find_in_none (nonempty : search ≠ [])
    (found : findIn search source = none) : ∀ pos, ¬OccursAt search source pos := by
  have spec := find_in_spec nonempty source
  rw [found] at spec
  exact spec

theorem find_in_first {pos : Nat} (nonempty : search ≠ [])
    (occurs : OccursAt search source pos) (first : ∀ earlier < pos, ¬OccursAt search source earlier) :
    findIn search source = some pos := by
  cases found : findIn search source with
  | none => exact absurd occurs (find_in_none nonempty found pos)
  | some other =>
    obtain ⟨here, before⟩ := find_in_some nonempty found
    rcases Nat.lt_trichotomy other pos with less | same | more
    · exact absurd here (first other less)
    · rw [same]
    · exact absurd occurs (before pos more)

theorem find_in_clear (nonempty : search ≠ [])
    (clear : ∀ pos, ¬OccursAt search source pos) : findIn search source = none := by
  cases found : findIn search source with
  | none => rfl
  | some pos => exact absurd (find_in_some nonempty found).1 (clear pos)

end

/-- The text cut at its occurrences, each the first one after the cut before it. -/
inductive Cuts (search : List Letter) : List Letter → List (List Letter) → Prop where
  | last (rest : List Letter) (clear : ∀ pos, ¬OccursAt search rest pos) :
      Cuts search rest [rest]
  | cut (gap rest : List Letter) (gaps : List (List Letter))
      (first : ∀ earlier < gap.length, ¬OccursAt search (gap ++ search ++ rest) earlier)
      (onward : Cuts search rest gaps) : Cuts search (gap ++ search ++ rest) (gap :: gaps)

/-- The gaps joined again, with the first `count` of the cuts replaced. -/
def weave (search replace : List Letter) : Nat → List (List Letter) → List Letter
  | _, [] => []
  | _, [gap] => gap
  | 0, gap :: next :: gaps => gap ++ search ++ weave search replace 0 (next :: gaps)
  | count + 1, gap :: next :: gaps => gap ++ replace ++ weave search replace count (next :: gaps)

def cutPositions (search : List Letter) : Nat → List (List Letter) → List Nat
  | _, [] => []
  | _, [_] => []
  | start, gap :: next :: gaps =>
    (start + gap.length) :: cutPositions search (start + gap.length + search.length) (next :: gaps)

theorem cuts_ne_nil {search source : List Letter} {gaps : List (List Letter)}
    (cuts : Cuts search source gaps) : gaps ≠ [] := by
  cases cuts <;> simp

variable (search replace gap : List Letter)

theorem weave_last (count : Nat) :
    weave search replace count [gap] = gap := by
  cases count <;> rfl

theorem weave_zero {gaps : List (List Letter)}
    (more : gaps ≠ []) :
    weave search replace 0 (gap :: gaps) = gap ++ search ++ weave search replace 0 gaps := by
  cases gaps with
  | nil => exact absurd rfl more
  | cons next gaps => rfl

theorem weave_succ (count : Nat) {gaps : List (List Letter)}
    (more : gaps ≠ []) :
    weave search replace (count + 1) (gap :: gaps) =
      gap ++ replace ++ weave search replace count gaps := by
  cases gaps with
  | nil => exact absurd rfl more
  | cons next gaps => rfl

theorem cut_positions_cons (search gap : List Letter) (start : Nat) {gaps : List (List Letter)}
    (more : gaps ≠ []) :
    cutPositions search start (gap :: gaps) =
      (start + gap.length) :: cutPositions search (start + gap.length + search.length) gaps := by
  cases gaps with
  | nil => exact absurd rfl more
  | cons next gaps => rfl

theorem cut_positions_length (search : List Letter) (gaps : List (List Letter)) :
    ∀ start, (cutPositions search start gaps).length = gaps.length - 1 := by
  induction gaps with
  | nil => exact fun _ => rfl
  | cons gap gaps ih =>
    intro start
    cases gaps with
    | nil => rfl
    | cons next gaps =>
      rw [cutPositions, List.length_cons, ih]
      rfl

variable {search source : List Letter} {gaps : List (List Letter)}

theorem weave_none (cuts : Cuts search source gaps) (replace : List Letter) :
    weave search replace 0 gaps = source := by
  induction cuts with
  | last rest clear => exact weave_last ..
  | cut gap rest gaps first onward ih => rw [weave_zero search replace gap (cuts_ne_nil onward), ih]

theorem weave_same (search : List Letter) (gaps : List (List Letter)) :
    ∀ count, weave search search count gaps = weave search search 0 gaps := by
  induction gaps with
  | nil => exact fun count => by cases count <;> rfl
  | cons gap gaps ih =>
    intro count
    cases gaps with
    | nil => rw [weave_last, weave_last]
    | cons next gaps =>
      cases count with
      | zero => rfl
      | succ count => rw [weave, weave, ih count]

theorem weave_all (search replace : List Letter) (gaps : List (List Letter)) :
    ∀ count, gaps.length ≤ count + 1 → weave search replace count gaps = replace.intercalate gaps := by
  induction gaps with
  | nil => exact fun count _ => by cases count <;> rfl
  | cons gap gaps ih =>
    intro count enough
    cases gaps with
    | nil => rw [weave_last, List.intercalate_singleton]
    | cons next gaps =>
      cases count with
      | zero => simp at enough
      | succ count =>
        rw [weave, ih count (by simpa using enough), List.intercalate_cons_cons]

theorem occurs_at_pieces {search source : List Letter} {pos : Nat} (nonempty : search ≠ [])
    (occurs : OccursAt search source pos) :
    ∃ gap rest, source = gap ++ search ++ rest ∧ gap.length = pos := by
  have within := occurs_at_bound nonempty occurs
  exact ⟨_, _, occurs_at_split occurs, List.length_take_of_le (by omega)⟩

theorem cuts_exist [DecidableEq Letter] {search : List Letter} (nonempty : search ≠ [])
    (source : List Letter) : ∃ gaps, Cuts search source gaps := by
  induction size : source.length using Nat.strongRecOn generalizing source with
  | ind bound ih =>
    cases found : findIn search source with
    | none => exact ⟨[source], Cuts.last source (find_in_none nonempty found)⟩
    | some pos =>
      obtain ⟨occurs, first⟩ := find_in_some nonempty found
      obtain ⟨gap, rest, split, here⟩ := occurs_at_pieces nonempty occurs
      subst here
      have some := List.length_pos_iff.mpr nonempty
      have shorter : rest.length < bound := by
        rw [← size, split, List.length_append, List.length_append]
        omega
      obtain ⟨gaps, onward⟩ := ih rest.length shorter rest rfl
      rw [split] at first ⊢
      exact ⟨gap :: gaps, Cuts.cut gap rest gaps first onward⟩

theorem cuts_unique (cuts : Cuts search source gaps) :
    ∀ other, Cuts search source other → other = gaps := by
  induction cuts with
  | last rest clear =>
    intro other again
    cases again with
    | last => rfl
    | cut gap after gaps first onward =>
      exact absurd (occurs_at_gap search gap after) (clear gap.length)
  | cut gap rest gaps first onward ih =>
    intro other again
    generalize whole : gap ++ search ++ rest = source at again first
    cases again with
    | last rest' clear => exact absurd (whole ▸ occurs_at_gap search gap rest) (clear gap.length)
    | cut gap' rest' gaps' first' onward' =>
      have here := occurs_at_gap search gap rest
      have there := occurs_at_gap search gap' rest'
      rw [whole] at here
      have same : gap.length = gap'.length := by
        rcases Nat.lt_trichotomy gap.length gap'.length with less | same | more
        · exact absurd here (first' _ less)
        · exact same
        · exact absurd there (first _ more)
      rw [List.append_assoc, List.append_assoc] at whole
      obtain ⟨left, right⟩ := List.append_inj whole same
      have after := List.append_cancel_left right
      rw [left, ih gaps' (after ▸ onward')]

theorem weave_one_cut (search replace gap last : List Letter) (count : Nat) :
    weave search replace (count + 1) [gap, last] = gap ++ replace ++ last := by
  rw [weave, weave_last]

theorem cuts_of_single (nonempty : search ≠ []) (cuts : Cuts search source gaps) {pos : Nat}
    (single : ∀ other, OccursAt search source other ↔ other = pos) :
    gaps = [source.take pos, source.drop (pos + search.length)] := by
  cases cuts with
  | last rest clear => exact absurd ((single pos).mpr rfl) (clear pos)
  | cut gap rest gaps first onward =>
    have here : gap.length = pos := (single _).mp (occurs_at_gap search gap rest)
    have taken : (gap ++ search ++ rest).take pos = gap := by
      rw [← here, List.append_assoc, List.take_left]
    have dropped : (gap ++ search ++ rest).drop (pos + search.length) = rest := by
      rw [← here, ← List.length_append, List.drop_left]
    rw [taken, dropped]
    cases onward with
    | last rest clear => rfl
    | cut gap' rest' gaps' first' onward' =>
      have next := occurs_at_gap search gap' rest'
      rw [← occurs_at_after search (gap ++ search), single, List.length_append] at next
      have some := List.length_pos_iff.mpr nonempty
      omega

theorem cuts_of_apart (cuts : Cuts search source gaps) {first second : Nat}
    (here : OccursAt search source first)
    (there : OccursAt search source second) (apart : first + search.length ≤ second) :
    3 ≤ gaps.length := by
  cases cuts with
  | last rest clear => exact absurd here (clear first)
  | cut gap rest gaps before onward =>
    have reached : gap.length ≤ first := by
      by_contra earlier
      exact before first (Nat.lt_of_not_le earlier) here
    have later : OccursAt search rest (second - (gap ++ search).length) := by
      rw [← occurs_at_after search (gap ++ search) rest]
      rw [List.length_append] at *
      have position : gap.length + search.length + (second - (gap.length + search.length)) =
          second := by omega
      rw [position]
      exact there
    cases onward with
    | last rest clear => exact absurd later (clear _)
    | cut gap' rest' gaps' before' onward' =>
      have more := List.length_pos_iff.mpr (cuts_ne_nil onward')
      simp only [List.length_cons]
      omega

end EvoomGuard.Lib.Occurrences
