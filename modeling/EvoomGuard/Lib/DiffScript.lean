import EvoomGuard.Lib.Difflib

/-!
What a script of `SequenceMatcher` says of the second sequence: each of its elements is put in or
kept, kept elements stand in the first sequence in the same order, and between equal sequences
nothing changes.
-/

namespace EvoomGuard.Lib.Difflib

/-- The elements of the second sequence, counted from one, that a code puts in or keeps. -/
def Opcode.Changes (code : Opcode) (line : Nat) : Prop :=
  (code.tag = .replace ∨ code.tag = .insert) ∧ code.j1 < line ∧ line ≤ code.j2

def Opcode.Keeps (code : Opcode) (line : Nat) : Prop :=
  code.tag = .equal ∧ code.j1 < line ∧ line ≤ code.j2

def changeCodes (i ai j bj : Nat) : List Opcode :=
  match changeTag i ai j bj with
  | some tag => [⟨tag, i, ai, j, bj⟩]
  | none => []

def equalCodes (block : Match) : List Opcode :=
  if block.size = 0 then []
  else [⟨.equal, block.a, block.a + block.size, block.b, block.b + block.size⟩]

theorem opcodes_from_cons (i j : Nat) (block : Match) (rest : List Match) :
    opcodesFrom i j (block :: rest) = changeCodes i block.a j block.b ++ equalCodes block ++
      opcodesFrom (block.a + block.size) (block.b + block.size) rest :=
  rfl

theorem change_codes_change (i ai j bj line : Nat) :
    (∃ code ∈ changeCodes i ai j bj, code.Changes line) ↔ j < line ∧ line ≤ bj := by
  unfold changeCodes changeTag
  split_ifs with both one other
  · simp [Opcode.Changes]
  · simp only [List.mem_singleton, exists_eq_left, Opcode.Changes]
    constructor
    · intro wrong
      cases wrong.1 with
      | inl same | inr same => cases same
    · omega
  · simp [Opcode.Changes]
  · simp only [List.not_mem_nil, false_and, exists_false, false_iff]
    omega

theorem change_codes_keep (i ai j bj line : Nat) :
    ¬∃ code ∈ changeCodes i ai j bj, code.Keeps line := by
  unfold changeCodes changeTag
  split_ifs <;> simp [Opcode.Keeps]

theorem equal_codes_keep (block : Match) (line : Nat) :
    (∃ code ∈ equalCodes block, code.Keeps line) ↔
      block.b < line ∧ line ≤ block.b + block.size := by
  unfold equalCodes
  split_ifs with empty
  · simp only [List.not_mem_nil, false_and, exists_false, false_iff]
    omega
  · simp [Opcode.Keeps]

theorem equal_codes_change (block : Match) (line : Nat) :
    ¬∃ code ∈ equalCodes block, code.Changes line := by
  unfold equalCodes
  split_ifs <;> simp [Opcode.Changes]

theorem exists_mem_append {Item : Type*} {holds : Item → Prop} (first second : List Item) :
    (∃ item ∈ first ++ second, holds item) ↔
      (∃ item ∈ first, holds item) ∨ ∃ item ∈ second, holds item := by
  simp only [List.mem_append, or_and_right, exists_or]

theorem opcodes_from_cover {la lb : Nat} (blocks : List Match) : ∀ i j,
    Ordered la lb i j blocks → blocks.getLast? = some ⟨la, lb, 0⟩ → ∀ line,
      ((∃ code ∈ opcodesFrom i j blocks, code.Keeps line) → j < line ∧ line ≤ lb) ∧
      ((∃ code ∈ opcodesFrom i j blocks, code.Changes line) ↔
        (j < line ∧ line ≤ lb) ∧ ¬∃ code ∈ opcodesFrom i j blocks, code.Keeps line) := by
  induction blocks with
  | nil => exact fun i j _ last => absurd last (by simp)
  | cons block rest ih =>
    intro i j ordered last line
    cases ordered with
    | cons _ _ _ _ rows columns onward =>
      have bounds := ordered_bounds onward
      have later : ((∃ code ∈ opcodesFrom (block.a + block.size) (block.b + block.size) rest,
            code.Keeps line) → block.b + block.size < line ∧ line ≤ lb) ∧
          ((∃ code ∈ opcodesFrom (block.a + block.size) (block.b + block.size) rest,
            code.Changes line) ↔ (block.b + block.size < line ∧ line ≤ lb) ∧
              ¬∃ code ∈ opcodesFrom (block.a + block.size) (block.b + block.size) rest,
                code.Keeps line) := by
        cases rest with
        | nil =>
          rw [List.getLast?_singleton, Option.some.injEq] at last
          subst last
          simp [opcodesFrom]
        | cons next rest =>
          rw [List.getLast?_cons_cons] at last
          exact ih _ _ onward last line
      rw [opcodes_from_cons, exists_mem_append, exists_mem_append, exists_mem_append,
        exists_mem_append, change_codes_change, equal_codes_keep, later.2]
      have unkept := change_codes_keep i block.a j block.b line
      have unchanged := equal_codes_change block line
      have within := later.1
      by_cases kept : ∃ code ∈ opcodesFrom (block.a + block.size) (block.b + block.size) rest,
          code.Keeps line
      · have where_ := within kept
        simp only [kept, unkept, unchanged, not_true, and_false, or_false, or_true, false_or,
          iff_false]
        constructor
        · intro _
          omega
        · omega
      · simp only [kept, unkept, unchanged, not_false_eq_true, and_true, or_false, false_or]
        omega

section Script

variable {Item : Type*} [DecidableEq Item] (a b : List Item)

theorem unfiltered_blocks_ordered :
    Ordered a.length b.length 0 0 (joinAdjacent ⟨0, 0, 0⟩
      (unfilteredMatchesIn a b (a.length + 1) 0 a.length 0 b.length) ++
        [⟨a.length, b.length, 0⟩]) := by
  rw [unfiltered_matches_in_eq]
  exact joined_blocks_ordered a b (positions b)

theorem unfiltered_changes_iff (line : Nat) :
    (∃ code ∈ unfilteredOpcodes a b, code.Changes line) ↔
      (0 < line ∧ line ≤ b.length) ∧ ¬∃ code ∈ unfilteredOpcodes a b, code.Keeps line := by
  apply (opcodes_from_cover _ 0 0 (unfiltered_blocks_ordered a b) _ line).2
  rw [List.getLast?_append, List.getLast?_singleton, Option.some_or]

/-- A match of elements that are the same. -/
def Match.Equal (found : Match) : Prop :=
  ∀ t, t < found.size → a[found.a + t]? = b[found.b + t]?

/-- What the loop over `a` has found before its element `i`: stretches of equal elements. -/
structure Search.Runs (search : Search) (i : Nat) : Prop where
  best : search.best.Equal a b
  lengths : ∀ pair ∈ search.lengths, pair.2 ≤ i ∧ pair.2 ≤ pair.1 + 1 ∧
    ∀ t, t < pair.2 → a[i - pair.2 + t]? = b[pair.1 + 1 - pair.2 + t]?

variable {a b}

omit [DecidableEq Item] in
theorem extend_match_runs {i j : Nat} {earlier search : Search} (before : earlier.Runs a b i)
    (same : a[i]? = b[j]?) (runs : search.Runs a b (i + 1)) :
    (extendMatch earlier.lengths i search j).Runs a b (i + 1) := by
  have extended : ∃ k, (if j = 0 then 0 else (earlier.lengths.lookup (j - 1)).getD 0) = k ∧
      k ≤ i ∧ k ≤ j ∧ ∀ t, t < k + 1 → a[i - k + t]? = b[j - k + t]? := by
    have alone : ∀ t, t < 0 + 1 → a[i - 0 + t]? = b[j - 0 + t]? := by
      intro t first
      have zero : t = 0 := by omega
      rw [zero]
      exact same
    by_cases zero : j = 0
    · exact ⟨0, if_pos zero, Nat.zero_le _, Nat.zero_le _, alone⟩
    · rw [if_neg zero]
      cases found : earlier.lengths.lookup (j - 1) with
      | none => exact ⟨0, rfl, Nat.zero_le _, Nat.zero_le _, alone⟩
      | some k =>
        obtain ⟨first, rest, joined, _⟩ := List.lookup_eq_some_iff.mp found
        obtain ⟨rows, columns, equal⟩ := before.lengths (j - 1, k) (by simp [joined])
        simp only at rows columns equal
        refine ⟨k, rfl, rows, by omega, ?_⟩
        intro t inside
        by_cases last : t = k
        · have row : i - k + t = i := by omega
          have column : j - k + t = j := by omega
          rw [row, column]
          exact same
        · have column : j - k + t = j - 1 + 1 - k + t := by omega
          rw [column]
          exact equal t (by omega)
  obtain ⟨k, size, rows, columns, equal⟩ := extended
  have row (t : Nat) : i + 1 - (k + 1) + t = i - k + t := by omega
  have column (t : Nat) : j + 1 - (k + 1) + t = j - k + t := by omega
  rw [extendMatch, size]
  constructor
  · dsimp only
    split_ifs
    · intro t inside
      rw [row, column]
      exact equal t inside
    · exact runs.best
  · intro pair listed
    rw [List.mem_cons] at listed
    cases listed with
    | inl here =>
      rw [here]
      refine ⟨by omega, by omega, ?_⟩
      intro t inside
      rw [row, column]
      exact equal t inside
    | inr later => exact runs.lengths pair later

variable {index : Item → List Nat} (found : ∀ item, ∀ j ∈ index item, b[j]? = some item)

include found

omit [DecidableEq Item] in
theorem search_indexed_runs {i blo bhi : Nat} {search : Search} (runs : search.Runs a b i) :
    (searchIndexed a index blo bhi search i).Runs a b (i + 1) := by
  have fresh : (⟨search.best, []⟩ : Search).Runs a b (i + 1) :=
    ⟨runs.best, fun pair listed => absurd listed (by simp)⟩
  rw [searchIndexed]
  cases here : a[i]? with
  | none => exact fresh
  | some item =>
    have each : ∀ j ∈ (index item).filter fun j => decide (blo ≤ j ∧ j < bhi),
        a[i]? = b[j]? := by
      intro j listed
      rw [here, found item j (List.mem_of_mem_filter listed)]
    have kept : ∀ indices : List Nat, (∀ j ∈ indices, a[i]? = b[j]?) → ∀ after : Search,
        after.Runs a b (i + 1) →
          (indices.foldl (extendMatch search.lengths i) after).Runs a b (i + 1) := by
      intro indices
      induction indices with
      | nil => exact fun _ after held => held
      | cons j rest ih =>
        intro same after held
        exact ih (fun other listed => same other (List.mem_cons_of_mem j listed)) _
          (extend_match_runs runs (same j List.mem_cons_self) held)
    exact kept _ each _ fresh

omit [DecidableEq Item] in
theorem searches_indexed_runs (blo bhi count : Nat) :
    ∀ (i : Nat) (search : Search), search.Runs a b i →
      ((List.range' i count).foldl (searchIndexed a index blo bhi) search).Runs a b
        (i + count) := by
  induction count with
  | zero => exact fun i search runs => runs
  | succ count ih =>
    intro i search runs
    have next := ih (i + 1) (searchIndexed a index blo bhi search i)
      (search_indexed_runs found runs)
    rw [Nat.add_right_comm] at next
    exact next

omit found in
theorem grow_left_equal {alo blo : Nat} (fuel : Nat) : ∀ block : Match, block.Equal a b →
    (growLeft a b alo blo fuel block).Equal a b := by
  induction fuel with
  | zero => exact fun block equal => equal
  | succ fuel ih =>
    intro block equal
    rw [growLeft]
    split_ifs with more
    · apply ih
      intro t inside
      cases t with
      | zero => exact more.2.2
      | succ t =>
        have row : block.a - 1 + (t + 1) = block.a + t := by omega
        have column : block.b - 1 + (t + 1) = block.b + t := by omega
        dsimp only at inside ⊢
        rw [row, column]
        exact equal t (by omega)
    · exact equal

omit found in
theorem grow_right_equal {ahi bhi : Nat} (fuel : Nat) : ∀ block : Match, block.Equal a b →
    (growRight a b ahi bhi fuel block).Equal a b := by
  induction fuel with
  | zero => exact fun block equal => equal
  | succ fuel ih =>
    intro block equal
    rw [growRight]
    split_ifs with more
    · apply ih
      intro t inside
      dsimp only at inside ⊢
      by_cases last : t = block.size
      · rw [last]
        exact more.2.2
      · exact equal t (by omega)
    · exact equal

theorem longest_indexed_equal (alo ahi blo bhi : Nat) :
    (longestIndexed a b index alo ahi blo bhi).Equal a b := by
  have start : (⟨⟨alo, blo, 0⟩, []⟩ : Search).Runs a b alo :=
    ⟨fun t wrong => absurd wrong (Nat.not_lt_zero t), fun pair listed => absurd listed (by simp)⟩
  have searched := searches_indexed_runs found blo bhi (ahi - alo) alo _ start
  exact grow_right_equal _ _ (grow_left_equal _ _ searched.best)

theorem matches_indexed_equal (fuel : Nat) : ∀ alo ahi blo bhi,
    ∀ block ∈ matchesIndexed a b index fuel alo ahi blo bhi, block.Equal a b := by
  induction fuel with
  | zero => exact fun _ _ _ _ block listed => absurd listed (by simp [matchesIndexed])
  | succ fuel ih =>
    intro alo ahi blo bhi block listed
    rw [matchesIndexed] at listed
    by_cases empty : (longestIndexed a b index alo ahi blo bhi).size = 0
    · rw [if_pos empty] at listed
      cases listed
    · rw [if_neg empty] at listed
      rcases List.mem_append.1 listed with before | after
      · split_ifs at before
        · exact ih _ _ _ _ block before
        · cases before
      · rcases List.mem_cons.1 after with here | later
        · rw [here]
          exact longest_indexed_equal found alo ahi blo bhi
        · split_ifs at later
          · exact ih _ _ _ _ block later
          · cases later

omit found [DecidableEq Item] in
theorem join_adjacent_equal (blocks : List Match) : ∀ pending : Match, pending.Equal a b →
    (∀ block ∈ blocks, block.Equal a b) →
    ∀ block ∈ joinAdjacent pending blocks, block.Equal a b := by
  induction blocks with
  | nil =>
    intro pending equal _ block listed
    rw [joinAdjacent] at listed
    split_ifs at listed
    · cases listed
    · rw [List.mem_singleton.1 listed]
      exact equal
  | cons next rest ih =>
    intro pending equal each block listed
    have later : ∀ block ∈ rest, block.Equal a b :=
      fun other member => each other (List.mem_cons_of_mem next member)
    have here := each next List.mem_cons_self
    rw [joinAdjacent] at listed
    split_ifs at listed with adjacent empty
    · refine ih _ ?_ later block listed
      intro t inside
      dsimp only at inside ⊢
      by_cases first : t < pending.size
      · exact equal t first
      · have row : pending.a + t = next.a + (t - pending.size) := by omega
        have column : pending.b + t = next.b + (t - pending.size) := by omega
        rw [row, column]
        exact here _ (by omega)
    · exact ih next here later block listed
    · rcases List.mem_cons.1 listed with same | later_
      · rw [same]
        exact equal
      · exact ih next here later block later_

omit found [DecidableEq Item] in
theorem equal_stretch {block : Match} (equal : block.Equal a b) :
    (b.drop block.b).take block.size = (a.drop block.a).take block.size := by
  apply List.ext_getElem?
  intro t
  rw [List.getElem?_take, List.getElem?_take, List.getElem?_drop, List.getElem?_drop]
  split_ifs with inside
  · exact (equal t inside).symm
  · rfl

omit found [DecidableEq Item] in
/-- Where nothing is put in, what is left of the second sequence stands in the rest of the
first. -/
theorem opcodes_from_sublist (blocks : List Match) : ∀ i j,
    Ordered a.length b.length i j blocks → blocks.getLast? = some ⟨a.length, b.length, 0⟩ →
    (∀ block ∈ blocks, block.Equal a b) →
    (∀ line, ¬∃ code ∈ opcodesFrom i j blocks, code.Changes line) →
    (b.drop j).Sublist (a.drop i) := by
  induction blocks with
  | nil => exact fun i j _ last => absurd last (by simp)
  | cons block rest ih =>
    intro i j ordered last equal unchanged
    cases ordered with
    | cons _ _ _ _ rows columns onward =>
      have split (line : Nat) := unchanged line
      simp only [opcodes_from_cons, exists_mem_append, change_codes_change, not_or] at split
      have here : j = block.b := by
        have next := (split (j + 1)).1.1
        omega
      have later : (b.drop (block.b + block.size)).Sublist
          (a.drop (block.a + block.size)) := by
        cases rest with
        | nil =>
          rw [List.getLast?_singleton, Option.some.injEq] at last
          subst last
          simp
        | cons next rest =>
          rw [List.getLast?_cons_cons] at last
          exact ih _ _ onward last
            (fun other member => equal other (List.mem_cons_of_mem block member))
            fun line => (split line).2
      have joined := (List.Sublist.refl ((a.drop block.a).take block.size)).append later
      rw [← equal_stretch (equal block List.mem_cons_self), ← List.drop_drop,
        List.take_append_drop, equal_stretch (equal block List.mem_cons_self),
        ← List.drop_drop, List.take_append_drop] at joined
      rw [here]
      exact joined.trans (List.drop_sublist_drop_left a rows)

omit found in
/-- A script that puts nothing in leaves a part of the first sequence. -/
theorem unfiltered_sublist
    (unchanged : ∀ line, ¬∃ code ∈ unfilteredOpcodes a b, code.Changes line) : b.Sublist a := by
  have looked : ∀ item, ∀ j ∈ positions b item, b[j]? = some item := by
    intro item j listed
    exact of_decide_eq_true (List.mem_filter.1 listed).2
  have equal : ∀ block ∈ joinAdjacent ⟨0, 0, 0⟩
      (unfilteredMatchesIn a b (a.length + 1) 0 a.length 0 b.length), block.Equal a b := by
    apply join_adjacent_equal
    · exact fun t wrong => absurd wrong (Nat.not_lt_zero t)
    · rw [unfiltered_matches_in_eq]
      exact matches_indexed_equal looked _ _ _ _ _
  have part := opcodes_from_sublist _ 0 0 (unfiltered_blocks_ordered a b)
    (by rw [List.getLast?_append, List.getLast?_singleton, Option.some_or])
    (by
      intro block listed
      rcases List.mem_append.1 listed with before | last
      · exact equal block before
      · rw [List.mem_singleton.1 last]
        exact fun t wrong => absurd wrong (Nat.not_lt_zero t))
    unchanged
  simpa using part

end Script

section

variable {Item : Type*} [DecidableEq Item] (items : List Item)

/-- What the search of a sequence in itself has found before the element `i`. -/
structure Search.Diagonal (search : Search) (i : Nat) : Prop where
  best : i ≤ search.best.size
  length : ∀ last, i = last + 1 → search.lengths.lookup last = some i

theorem extend_match_keeps {before : List (Nat × Nat)} {i : Nat} (rest : List Nat) :
    ∀ search : Search, i ∉ rest → search.Diagonal (i + 1) →
      (rest.foldl (extendMatch before i) search).Diagonal (i + 1) := by
  induction rest with
  | nil => exact fun search _ diagonal => diagonal
  | cons j rest ih =>
    intro search absent diagonal
    rw [List.mem_cons, not_or] at absent
    apply ih _ absent.2
    have best := diagonal.best
    constructor
    · rw [extendMatch]
      generalize (if j = 0 then 0 else (before.lookup (j - 1)).getD 0) = known
      dsimp only
      split_ifs with longer
      · exact best.trans longer.le
      · exact best
    · intro last same
      have here : last = i := by omega
      have apart : (last == j) = false := by
        rw [here]
        exact beq_false_of_ne absent.1
      rw [extendMatch, List.lookup_cons, apart]
      exact diagonal.length last same

theorem extend_match_diagonal {before : Search} {i : Nat} (diagonal : before.Diagonal i)
    (indices : List Nat) : ∀ search : Search, i ∈ indices → indices.Nodup →
      (indices.foldl (extendMatch before.lengths i) search).Diagonal (i + 1) := by
  induction indices with
  | nil => exact fun search listed => absurd listed (by simp)
  | cons j rest ih =>
    intro search listed distinct
    rw [List.nodup_cons] at distinct
    by_cases here : j = i
    · rw [here] at distinct
      apply extend_match_keeps rest _ distinct.1
      have size : (if i = 0 then 0 else (before.lengths.lookup (i - 1)).getD 0) = i := by
        cases i with
        | zero => rfl
        | succ last =>
          rw [if_neg (Nat.succ_ne_zero last), Nat.add_sub_cancel,
            diagonal.length last rfl, Option.getD_some]
      rw [here, extendMatch, size]
      constructor
      · dsimp only
        split_ifs with longer
        · exact le_rfl
        · exact Nat.le_of_not_lt longer
      · intro last same
        have own : last = i := by omega
        rw [own]
        simp
    · exact ih _ ((List.mem_cons.1 listed).resolve_left (Ne.symm here)) distinct.2

theorem search_indexed_diagonal {i : Nat} {search : Search} (inside : i < items.length)
    (diagonal : search.Diagonal i) :
    (searchIndexed items (positions items) 0 items.length search i).Diagonal (i + 1) := by
  have here : items[i]? = some items[i] := List.getElem?_eq_getElem inside
  rw [searchIndexed, here]
  apply extend_match_diagonal diagonal
  · simp [positions, inside]
  · exact (List.nodup_range.filter _).filter _

theorem searches_indexed_diagonal (count : Nat) : ∀ (i : Nat) (search : Search),
    i + count ≤ items.length → search.Diagonal i →
      ((List.range' i count).foldl (searchIndexed items (positions items) 0 items.length)
        search).Diagonal (i + count) := by
  induction count with
  | zero => exact fun i search _ diagonal => diagonal
  | succ count ih =>
    intro i search inside diagonal
    have next := ih (i + 1) (searchIndexed items (positions items) 0 items.length search i)
      (by omega) (search_indexed_diagonal items (by omega) diagonal)
    rw [Nat.add_right_comm] at next
    exact next

theorem grow_left_size (a b : List Item) (alo blo fuel : Nat) : ∀ block : Match,
    block.size ≤ (growLeft a b alo blo fuel block).size := by
  induction fuel with
  | zero => exact fun block => le_rfl
  | succ fuel ih =>
    intro block
    rw [growLeft]
    split_ifs
    · have longer := ih ⟨block.a - 1, block.b - 1, block.size + 1⟩
      exact (Nat.le_succ block.size).trans longer
    · exact le_rfl

theorem grow_right_size (a b : List Item) (ahi bhi fuel : Nat) : ∀ block : Match,
    block.size ≤ (growRight a b ahi bhi fuel block).size := by
  induction fuel with
  | zero => exact fun block => le_rfl
  | succ fuel ih =>
    intro block
    rw [growRight]
    split_ifs
    · have longer := ih ⟨block.a, block.b, block.size + 1⟩
      exact (Nat.le_succ block.size).trans longer
    · exact le_rfl

theorem longest_of_same :
    longestIndexed items items (positions items) 0 items.length 0 items.length =
      ⟨0, 0, items.length⟩ := by
  have inside := longest_indexed_inside items items (positions items)
    (Nat.zero_le items.length) (Nat.zero_le items.length)
  have searched := searches_indexed_diagonal items items.length 0 ⟨⟨0, 0, 0⟩, []⟩ (by omega)
    ⟨le_rfl, fun last wrong => absurd wrong (by omega)⟩
  have size : items.length ≤
      (longestIndexed items items (positions items) 0 items.length 0 items.length).size := by
    rw [longestIndexed]
    refine le_trans ?_ (grow_right_size _ _ _ _ _ _)
    refine le_trans ?_ (grow_left_size _ _ _ _ _ _)
    have best := searched.best
    rwa [Nat.zero_add] at best
  obtain ⟨left, right, below, above⟩ := inside
  generalize longestIndexed items items (positions items) 0 items.length 0 items.length = found
    at left right below above size
  have first : found.a = 0 := by omega
  have second : found.b = 0 := by omega
  have whole : found.size = items.length := by omega
  cases found
  simp_all

theorem unfiltered_of_same (line : Nat) :
    ¬∃ code ∈ unfilteredOpcodes items items, code.Changes line := by
  rw [unfilteredOpcodes, unfiltered_matches_in_eq, matchesIndexed, longest_of_same]
  by_cases empty : items.length = 0
  · simp [empty, joinAdjacent, opcodesFrom, changeTag]
  · simp [empty, joinAdjacent, opcodesFrom, changeTag, Opcode.Changes]

end

end EvoomGuard.Lib.Difflib
