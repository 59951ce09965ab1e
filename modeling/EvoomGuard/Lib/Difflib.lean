import EvoomGuard.Lib.Text

/-!
`difflib.SequenceMatcher` without a junk predicate, and `difflib.unified_diff` without dates and
file names. The blocks are listed in order, as the source sorts its list of them.
-/

namespace EvoomGuard.Lib.Difflib

/-- Equal stretches of the two sequences. -/
structure Match where
  a : Nat
  b : Nat
  size : Nat
  deriving DecidableEq, Repr

inductive Tag where
  | replace
  | delete
  | insert
  | equal
  deriving DecidableEq, Repr

structure Opcode where
  tag : Tag
  i1 : Nat
  i2 : Nat
  j1 : Nat
  j2 : Nat
  deriving DecidableEq, Repr

section Matcher

variable {Item : Type*} [DecidableEq Item] (a b : List Item)

/-- The positions of an element, unless it is so popular that the matcher drops it. -/
def b2j (item : Item) : List Nat :=
  let indices := (List.range b.length).filter fun j => decide (b[j]? = some item)
  if 200 ≤ b.length ∧ b.length / 100 + 1 < indices.length then [] else indices

/-- The best match so far, and the lengths of the matches that end at the last element read. -/
structure Search where
  best : Match
  lengths : List (Nat × Nat)

def extendMatch (before : List (Nat × Nat)) (i : Nat) (search : Search) (j : Nat) : Search :=
  let k := (if j = 0 then 0 else (before.lookup (j - 1)).getD 0) + 1
  ⟨if search.best.size < k then ⟨i + 1 - k, j + 1 - k, k⟩ else search.best,
    (j, k) :: search.lengths⟩

/-- One turn of the loop over `a`: the indices of its element between `blo` and `bhi`. -/
def searchElement (blo bhi : Nat) (search : Search) (i : Nat) : Search :=
  match a[i]? with
  | none => ⟨search.best, []⟩
  | some item =>
    ((b2j b item).filter fun j => decide (blo ≤ j ∧ j < bhi)).foldl
      (extendMatch search.lengths i) ⟨search.best, []⟩

/-- The elements the popularity rule has dropped may still extend a match to the left. -/
def growLeft (alo blo : Nat) : Nat → Match → Match
  | 0, found => found
  | fuel + 1, found =>
    if alo < found.a ∧ blo < found.b ∧ a[found.a - 1]? = b[found.b - 1]? then
      growLeft alo blo fuel ⟨found.a - 1, found.b - 1, found.size + 1⟩
    else found

def growRight (ahi bhi : Nat) : Nat → Match → Match
  | 0, found => found
  | fuel + 1, found =>
    if found.a + found.size < ahi ∧ found.b + found.size < bhi ∧
        a[found.a + found.size]? = b[found.b + found.size]? then
      growRight ahi bhi fuel ⟨found.a, found.b, found.size + 1⟩
    else found

def findLongestMatch (alo ahi blo bhi : Nat) : Match :=
  let searched := (List.range' alo (ahi - alo)).foldl (searchElement a b blo bhi)
    ⟨⟨alo, blo, 0⟩, []⟩
  growRight a b ahi bhi (ahi - alo) (growLeft a b alo blo (ahi - alo) searched.best)

def matchesIn : Nat → Nat → Nat → Nat → Nat → List Match
  | 0, _, _, _, _ => []
  | fuel + 1, alo, ahi, blo, bhi =>
    let found := findLongestMatch a b alo ahi blo bhi
    if found.size = 0 then []
    else
      (if alo < found.a ∧ blo < found.b then matchesIn fuel alo found.a blo found.b else []) ++
        found ::
        (if found.a + found.size < ahi ∧ found.b + found.size < bhi then
          matchesIn fuel (found.a + found.size) ahi (found.b + found.size) bhi
        else [])

def joinAdjacent : Match → List Match → List Match
  | pending, [] => if pending.size = 0 then [] else [pending]
  | pending, block :: rest =>
    if pending.a + pending.size = block.a ∧ pending.b + pending.size = block.b then
      joinAdjacent ⟨pending.a, pending.b, pending.size + block.size⟩ rest
    else if pending.size = 0 then joinAdjacent block rest
    else pending :: joinAdjacent block rest

def matchingBlocks : List Match :=
  joinAdjacent ⟨0, 0, 0⟩ (matchesIn a b (a.length + 1) 0 a.length 0 b.length) ++
    [⟨a.length, b.length, 0⟩]

def changeTag (i ai j bj : Nat) : Option Tag :=
  if i < ai ∧ j < bj then some .replace
  else if i < ai then some .delete
  else if j < bj then some .insert
  else none

def opcodesFrom : Nat → Nat → List Match → List Opcode
  | _, _, [] => []
  | i, j, block :: rest =>
    (match changeTag i block.a j block.b with
      | some tag => [⟨tag, i, block.a, j, block.b⟩]
      | none => []) ++
    (if block.size = 0 then []
      else [⟨.equal, block.a, block.a + block.size, block.b, block.b + block.size⟩]) ++
    opcodesFrom (block.a + block.size) (block.b + block.size) rest

/-- `get_opcodes`. -/
def opcodes : List Opcode := opcodesFrom 0 0 (matchingBlocks a b)

/-- What the script takes out, and what it puts in. -/
def Opcode.deleted (code : Opcode) : List Item :=
  if code.tag = .replace ∨ code.tag = .delete then (a.take code.i2).drop code.i1 else []

def Opcode.inserted (code : Opcode) : List Item :=
  if code.tag = .replace ∨ code.tag = .insert then (b.take code.j2).drop code.j1 else []

def deletedItems : List Item := (opcodes a b).flatMap (Opcode.deleted a)

def insertedItems : List Item := (opcodes a b).flatMap (Opcode.inserted b)

end Matcher

section

variable {Item : Type*} [DecidableEq Item] (a b : List Item)

def positions (item : Item) : List Nat :=
  (List.range b.length).filter fun j => decide (b[j]? = some item)

def searchEveryElement (blo bhi : Nat) (search : Search) (i : Nat) : Search :=
  match a[i]? with
  | none => ⟨search.best, []⟩
  | some item =>
    ((positions b item).filter fun j => decide (blo ≤ j ∧ j < bhi)).foldl
      (extendMatch search.lengths i) ⟨search.best, []⟩

def longestUnfilteredMatch (alo ahi blo bhi : Nat) : Match :=
  let searched := (List.range' alo (ahi - alo)).foldl (searchEveryElement a b blo bhi)
    ⟨⟨alo, blo, 0⟩, []⟩
  growRight a b ahi bhi (ahi - alo) (growLeft a b alo blo (ahi - alo) searched.best)

def unfilteredMatchesIn : Nat → Nat → Nat → Nat → Nat → List Match
  | 0, _, _, _, _ => []
  | fuel + 1, alo, ahi, blo, bhi =>
    let found := longestUnfilteredMatch a b alo ahi blo bhi
    if found.size = 0 then []
    else
      (if alo < found.a ∧ blo < found.b then unfilteredMatchesIn fuel alo found.a blo found.b
        else []) ++
        found ::
        (if found.a + found.size < ahi ∧ found.b + found.size < bhi then
          unfilteredMatchesIn fuel (found.a + found.size) ahi (found.b + found.size) bhi
        else [])

def unfilteredOpcodes : List Opcode :=
  opcodesFrom 0 0 (joinAdjacent ⟨0, 0, 0⟩
    (unfilteredMatchesIn a b (a.length + 1) 0 a.length 0 b.length) ++ [⟨a.length, b.length, 0⟩])

end

def Opcode.keepTail (n : Nat) (code : Opcode) : Opcode :=
  { code with i1 := max code.i1 (code.i2 - n), j1 := max code.j1 (code.j2 - n) }

def Opcode.keepHead (n : Nat) (code : Opcode) : Opcode :=
  { code with i2 := min code.i2 (code.i1 + n), j2 := min code.j2 (code.j1 + n) }

def trimFirst (n : Nat) : List Opcode → List Opcode
  | [] => []
  | code :: rest => (if code.tag = .equal then code.keepTail n else code) :: rest

def trimLast (n : Nat) : List Opcode → List Opcode
  | [] => []
  | [code] => [if code.tag = .equal then code.keepHead n else code]
  | code :: next :: rest => code :: trimLast n (next :: rest)

def groupsFrom (n : Nat) : List Opcode → List Opcode → List (List Opcode)
  | group, [] =>
    match group with
    | [] => []
    | [code] => if code.tag = .equal then [] else [[code]]
    | code :: next :: rest => [code :: next :: rest]
  | group, code :: rest =>
    if code.tag = .equal ∧ n + n < code.i2 - code.i1 then
      (group ++ [code.keepHead n]) :: groupsFrom n [code.keepTail n] rest
    else groupsFrom n (group ++ [code]) rest

/-- `get_grouped_opcodes`. -/
def groupedOpcodes (n : Nat) (codes : List Opcode) : List (List Opcode) :=
  let codes := if codes.isEmpty then [⟨.equal, 0, 1, 0, 1⟩] else codes
  groupsFrom n [] (trimLast n (trimFirst n codes))

def formatRange (start stop : Nat) : Text :=
  let length := stop - start
  if length = 1 then Nat.toDigits 10 (start + 1)
  else
    Nat.toDigits 10 (if length = 0 then start else start + 1) ++ ',' :: Nat.toDigits 10 length

def rangeLine (group : List Opcode) : Text :=
  let first := group.head?.getD ⟨.equal, 0, 0, 0, 0⟩
  let last := group.getLast?.getD ⟨.equal, 0, 0, 0, 0⟩
  "@@ -" ++ formatRange first.i1 last.i2 ++ " +" ++ formatRange first.j1 last.j2 ++
    " @@\n"

section Render

variable (a b : List Text)

def codeLines (code : Opcode) : List Text :=
  if code.tag = .equal then ((a.take code.i2).drop code.i1).map (' ' :: ·)
  else (code.deleted a).map ('-' :: ·) ++ (code.inserted b).map ('+' :: ·)

def hunkLines (group : List Opcode) : List Text :=
  rangeLine group :: group.flatMap (codeLines a b)

def unifiedDiff (n : Nat) : List Text :=
  match groupedOpcodes n (opcodes a b) with
  | [] => []
  | group :: rest =>
    "--- \n" :: "+++ \n".toList :: (group :: rest).flatMap (hunkLines a b)

end Render

section

variable {Item : Type*} [DecidableEq Item] (a b : List Item) (index : Item → List Nat)

omit [DecidableEq Item] in
def searchIndexed (blo bhi : Nat) (search : Search) (i : Nat) : Search :=
  match a[i]? with
  | none => ⟨search.best, []⟩
  | some item =>
    ((index item).filter fun j => decide (blo ≤ j ∧ j < bhi)).foldl
      (extendMatch search.lengths i) ⟨search.best, []⟩

def longestIndexed (alo ahi blo bhi : Nat) : Match :=
  let searched := (List.range' alo (ahi - alo)).foldl (searchIndexed a index blo bhi)
    ⟨⟨alo, blo, 0⟩, []⟩
  growRight a b ahi bhi (ahi - alo) (growLeft a b alo blo (ahi - alo) searched.best)

def matchesIndexed : Nat → Nat → Nat → Nat → Nat → List Match
  | 0, _, _, _, _ => []
  | fuel + 1, alo, ahi, blo, bhi =>
    let found := longestIndexed a b index alo ahi blo bhi
    if found.size = 0 then []
    else
      (if alo < found.a ∧ blo < found.b then matchesIndexed fuel alo found.a blo found.b
        else []) ++
        found ::
        (if found.a + found.size < ahi ∧ found.b + found.size < bhi then
          matchesIndexed fuel (found.a + found.size) ahi (found.b + found.size) bhi
        else [])

theorem matches_in_eq (fuel : Nat) : ∀ alo ahi blo bhi,
    matchesIn a b fuel alo ahi blo bhi = matchesIndexed a b (b2j b) fuel alo ahi blo bhi := by
  induction fuel with
  | zero => exact fun _ _ _ _ => rfl
  | succ fuel ih =>
    intro alo ahi blo bhi
    have found : findLongestMatch a b alo ahi blo bhi =
        longestIndexed a b (b2j b) alo ahi blo bhi := rfl
    simp only [matchesIn, matchesIndexed, found, ih]

theorem unfiltered_matches_in_eq (fuel : Nat) : ∀ alo ahi blo bhi,
    unfilteredMatchesIn a b fuel alo ahi blo bhi =
      matchesIndexed a b (positions b) fuel alo ahi blo bhi := by
  induction fuel with
  | zero => exact fun _ _ _ _ => rfl
  | succ fuel ih =>
    intro alo ahi blo bhi
    have found : longestUnfilteredMatch a b alo ahi blo bhi =
        longestIndexed a b (positions b) alo ahi blo bhi := rfl
    simp only [unfilteredMatchesIn, matchesIndexed, found, ih]

end

structure Match.Inside (found : Match) (alo ahi blo bhi : Nat) : Prop where
  left : alo ≤ found.a
  right : found.a + found.size ≤ ahi
  below : blo ≤ found.b
  above : found.b + found.size ≤ bhi

section Bounds

variable {Item : Type*} [DecidableEq Item] (a b : List Item) (index : Item → List Nat)

/-- What the loop over `a` has found before its element `i`. -/
structure Search.Within (search : Search) (alo i blo bhi : Nat) : Prop where
  best : search.best.Inside alo i blo bhi
  lengths : ∀ pair ∈ search.lengths, pair.2 + alo ≤ i ∧ pair.2 + blo ≤ pair.1 + 1

theorem extend_match_within {alo i blo bhi : Nat} {before : List (Nat × Nat)} {search : Search}
    {j : Nat} (reached : alo ≤ i) (inside : blo ≤ j ∧ j < bhi)
    (earlier : ∀ pair ∈ before, pair.2 + alo ≤ i ∧ pair.2 + blo ≤ pair.1 + 1)
    (within : search.Within alo (i + 1) blo bhi) :
    (extendMatch before i search j).Within alo (i + 1) blo bhi := by
  have size : ((if j = 0 then 0 else (before.lookup (j - 1)).getD 0) + 1) + alo ≤ i + 1 ∧
      ((if j = 0 then 0 else (before.lookup (j - 1)).getD 0) + 1) + blo ≤ j + 1 := by
    by_cases zero : j = 0
    · rw [if_pos zero]
      omega
    · rw [if_neg zero]
      cases found : before.lookup (j - 1) with
      | none =>
        rw [Option.getD_none]
        omega
      | some k =>
        rcases List.lookup_eq_some_iff.mp found with ⟨first, rest, joined, _⟩
        have known := earlier (j - 1, k) (by simp [joined])
        rw [Option.getD_some]
        dsimp only at known
        omega
  rw [extendMatch]
  generalize ((if j = 0 then 0 else (before.lookup (j - 1)).getD 0) + 1) = k at size
  constructor
  · by_cases longer : search.best.size < k
    · dsimp only
      rw [if_pos longer]
      constructor
      · dsimp only
        omega
      · dsimp only
        omega
      · dsimp only
        omega
      · dsimp only
        omega
    · dsimp only
      rw [if_neg longer]
      exact within.best
  · intro pair listed
    rw [List.mem_cons] at listed
    cases listed with
    | inl here => simpa [here] using size
    | inr later => exact within.lengths pair later

theorem extend_matches_within {alo i blo bhi : Nat} {before : List (Nat × Nat)}
    (reached : alo ≤ i)
    (earlier : ∀ pair ∈ before, pair.2 + alo ≤ i ∧ pair.2 + blo ≤ pair.1 + 1) (indices : List Nat) :
    ∀ search : Search, (∀ j ∈ indices, blo ≤ j ∧ j < bhi) → search.Within alo (i + 1) blo bhi →
      (indices.foldl (extendMatch before i) search).Within alo (i + 1) blo bhi := by
  induction indices with
  | nil => exact fun search _ within => within
  | cons j rest ih =>
    intro search inside within
    exact ih _ (fun other listed => inside other (List.mem_cons_of_mem _ listed))
      (extend_match_within reached (inside j List.mem_cons_self) earlier within)

omit [DecidableEq Item] in
theorem search_indexed_within {alo i blo bhi : Nat} {search : Search} (reached : alo ≤ i)
    (within : search.Within alo i blo bhi) :
    (searchIndexed a index blo bhi search i).Within alo (i + 1) blo bhi := by
  have best : search.best.Inside alo (i + 1) blo bhi :=
    ⟨within.best.left, Nat.le_succ_of_le within.best.right, within.best.below, within.best.above⟩
  have fresh : (⟨search.best, []⟩ : Search).Within alo (i + 1) blo bhi :=
    ⟨best, fun pair listed => absurd listed (by simp)⟩
  rw [searchIndexed]
  cases a[i]? with
  | none => exact fresh
  | some item =>
    apply extend_matches_within reached within.lengths _ _ _ fresh
    intro j listed
    rw [List.mem_filter, decide_eq_true_eq] at listed
    exact listed.2

omit [DecidableEq Item] in
theorem searches_indexed_within {alo blo bhi : Nat} (count : Nat) :
    ∀ (i : Nat) (search : Search), alo ≤ i → search.Within alo i blo bhi →
      ((List.range' i count).foldl (searchIndexed a index blo bhi) search).Within alo (i + count)
        blo bhi := by
  induction count with
  | zero => exact fun i search _ within => within
  | succ count ih =>
    intro i search reached within
    have next := ih (i + 1) _ (Nat.le_succ_of_le reached)
      (search_indexed_within a index reached within)
    rw [Nat.add_right_comm] at next
    exact next

theorem grow_left_inside {alo ahi blo bhi : Nat} (fuel : Nat) :
    ∀ found : Match, found.Inside alo ahi blo bhi →
      (growLeft a b alo blo fuel found).Inside alo ahi blo bhi := by
  induction fuel with
  | zero => exact fun found inside => inside
  | succ fuel ih =>
    intro found inside
    rw [growLeft]
    split_ifs with more
    · apply ih
      obtain ⟨left, right, below, above⟩ := inside
      constructor
      all_goals dsimp only
      all_goals omega
    · exact inside

theorem grow_right_inside {alo ahi blo bhi : Nat} (fuel : Nat) :
    ∀ found : Match, found.Inside alo ahi blo bhi →
      (growRight a b ahi bhi fuel found).Inside alo ahi blo bhi := by
  induction fuel with
  | zero => exact fun found inside => inside
  | succ fuel ih =>
    intro found inside
    rw [growRight]
    split_ifs with more
    · apply ih
      obtain ⟨left, right, below, above⟩ := inside
      constructor
      all_goals dsimp only
      all_goals omega
    · exact inside

theorem longest_indexed_inside {alo ahi blo bhi : Nat} (rows : alo ≤ ahi) (columns : blo ≤ bhi) :
    (longestIndexed a b index alo ahi blo bhi).Inside alo ahi blo bhi := by
  have start : (⟨⟨alo, blo, 0⟩, []⟩ : Search).Within alo alo blo bhi :=
    ⟨⟨Nat.le_refl _, Nat.le_refl _, Nat.le_refl _, columns⟩,
      fun pair listed => absurd listed (by simp)⟩
  have searched := searches_indexed_within a index (ahi - alo) alo _ (Nat.le_refl _) start
  rw [Nat.add_sub_cancel' rows] at searched
  rw [longestIndexed]
  exact grow_right_inside a b _ _ (grow_left_inside a b _ _ searched.best)

end Bounds

/-- Blocks one after the other in both sequences, from a position on and up to a last one. -/
inductive Ordered (la lb : Nat) : Nat → Nat → List Match → Prop where
  | nil (i j : Nat) (rows : i ≤ la) (columns : j ≤ lb) : Ordered la lb i j []
  | cons (i j : Nat) (block : Match) (rest : List Match) (rows : i ≤ block.a)
      (columns : j ≤ block.b)
      (onward : Ordered la lb (block.a + block.size) (block.b + block.size) rest) :
      Ordered la lb i j (block :: rest)

theorem ordered_bounds {la lb i j : Nat} {blocks : List Match}
    (ordered : Ordered la lb i j blocks) :
    i ≤ la ∧ j ≤ lb := by
  induction ordered with
  | nil i j rows columns => exact ⟨rows, columns⟩
  | cons i j block rest rows columns onward ih => omega

theorem ordered_append {la lb p q i j : Nat} {blocks after : List Match}
    (ordered : Ordered p q i j blocks)
    (onward : ∀ i' j', i' ≤ p → j' ≤ q → Ordered la lb i' j' after) :
    Ordered la lb i j (blocks ++ after) := by
  induction ordered with
  | nil i j rows columns => exact onward i j rows columns
  | cons i j block rest rows columns _ ih => exact Ordered.cons i j block _ rows columns ih

section Blocks

variable {Item : Type*} [DecidableEq Item] (a b : List Item)

theorem matches_indexed_ordered (index : Item → List Nat) (fuel : Nat) :
    ∀ alo ahi blo bhi, alo ≤ ahi → blo ≤ bhi →
      Ordered ahi bhi alo blo (matchesIndexed a b index fuel alo ahi blo bhi) := by
  induction fuel with
  | zero => exact fun alo ahi blo bhi rows columns => Ordered.nil alo blo rows columns
  | succ fuel ih =>
    intro alo ahi blo bhi rows columns
    have inside := longest_indexed_inside a b index rows columns
    rw [matchesIndexed]
    generalize longestIndexed a b index alo ahi blo bhi = found at inside
    obtain ⟨left, right, below, above⟩ := inside
    by_cases empty : found.size = 0
    · rw [if_pos empty]
      exact Ordered.nil alo blo rows columns
    · rw [if_neg empty]
      have after : Ordered ahi bhi (found.a + found.size) (found.b + found.size)
          (if found.a + found.size < ahi ∧ found.b + found.size < bhi then
            matchesIndexed a b index fuel (found.a + found.size) ahi (found.b + found.size) bhi
          else []) := by
        split_ifs
        · exact ih _ _ _ _ right above
        · exact Ordered.nil _ _ right above
      have before : Ordered found.a found.b alo blo
          (if alo < found.a ∧ blo < found.b then
            matchesIndexed a b index fuel alo found.a blo found.b
          else []) := by
        split_ifs
        · exact ih _ _ _ _ left below
        · exact Ordered.nil _ _ left below
      exact ordered_append before fun i j row column => Ordered.cons i j found _ row column after

theorem join_adjacent_ordered {la lb : Nat} (blocks : List Match) :
    ∀ (i j : Nat) (pending : Match), Ordered la lb i j (pending :: blocks) →
      Ordered la lb i j (joinAdjacent pending blocks) := by
  induction blocks with
  | nil =>
    intro i j pending ordered
    rw [joinAdjacent]
    split_ifs
    · have bounds := ordered_bounds ordered
      exact Ordered.nil i j bounds.1 bounds.2
    · exact ordered
  | cons block rest ih =>
    intro i j pending ordered
    rw [joinAdjacent]
    cases ordered with
    | cons _ _ _ _ rows columns onward =>
      split_ifs with adjacent empty
      · apply ih
        cases onward with
        | cons _ _ _ _ _ _ later =>
          rw [← adjacent.1, ← adjacent.2, Nat.add_assoc, Nat.add_assoc] at later
          exact Ordered.cons i j ⟨pending.a, pending.b, pending.size + block.size⟩ rest rows
            columns later
      · apply ih
        cases onward with
        | cons _ _ _ _ row column later =>
          exact Ordered.cons i j block rest (by omega) (by omega) later
      · exact Ordered.cons i j pending _ rows columns (ih _ _ _ onward)

theorem joined_blocks_ordered (index : Item → List Nat) :
    Ordered a.length b.length 0 0 (joinAdjacent ⟨0, 0, 0⟩
      (matchesIndexed a b index (a.length + 1) 0 a.length 0 b.length) ++
        [⟨a.length, b.length, 0⟩]) := by
  have found := matches_indexed_ordered a b index (a.length + 1) 0 a.length 0 b.length
    (Nat.zero_le _) (Nat.zero_le _)
  have joined := join_adjacent_ordered _ 0 0 ⟨0, 0, 0⟩
    (Ordered.cons 0 0 ⟨0, 0, 0⟩ _ (Nat.le_refl _) (Nat.le_refl _) found)
  apply ordered_append joined
  intro i j rows columns
  exact Ordered.cons i j _ [] rows columns (Ordered.nil _ _ (Nat.le_refl _) (Nat.le_refl _))

theorem matching_blocks_ordered :
    Ordered a.length b.length 0 0 (matchingBlocks a b) := by
  rw [matchingBlocks, matches_in_eq]
  exact joined_blocks_ordered a b (b2j b)

omit [DecidableEq Item] in
/-- What stands between two blocks is taken out of the one sequence and put into the other. -/
theorem change_lengths {i ai j bj : Nat} (rows : i ≤ ai) (columns : j ≤ bj)
    (known : ai ≤ a.length) (knownToo : bj ≤ b.length) :
    ((match changeTag i ai j bj with
        | some tag => [(⟨tag, i, ai, j, bj⟩ : Opcode)]
        | none => []).flatMap (Opcode.deleted a)).length = ai - i ∧
      ((match changeTag i ai j bj with
        | some tag => [(⟨tag, i, ai, j, bj⟩ : Opcode)]
        | none => []).flatMap (Opcode.inserted b)).length = bj - j := by
  rw [changeTag]
  split_ifs with both one other
  · simp only [List.flatMap_singleton, Opcode.deleted, Opcode.inserted, true_or, if_true,
      List.length_drop, List.length_take]
    omega
  · simp only [List.flatMap_singleton, Opcode.deleted, Opcode.inserted, or_true, if_true,
      List.length_drop, List.length_take]
    simp
    omega
  · simp only [List.flatMap_singleton, Opcode.deleted, Opcode.inserted, or_true, if_true,
      List.length_drop, List.length_take]
    simp
    omega
  · simp
    omega

omit [DecidableEq Item] in
theorem opcodes_from_balance (blocks : List Match) :
    ∀ i j, Ordered a.length b.length i j blocks →
      blocks.getLast? = some ⟨a.length, b.length, 0⟩ →
      ((opcodesFrom i j blocks).flatMap (Opcode.inserted b)).length + (a.length - i) =
        ((opcodesFrom i j blocks).flatMap (Opcode.deleted a)).length + (b.length - j) := by
  induction blocks with
  | nil => exact fun i j _ last => absurd last (by simp)
  | cons block rest ih =>
    intro i j ordered last
    cases ordered with
    | cons _ _ _ _ rows columns onward =>
      have bounds := ordered_bounds onward
      have changed := change_lengths a b rows columns (by omega) (by omega)
      have unchanged : ((if block.size = 0 then []
          else [(⟨.equal, block.a, block.a + block.size, block.b,
            block.b + block.size⟩ : Opcode)]).flatMap (Opcode.deleted a)) = [] ∧
          ((if block.size = 0 then []
          else [(⟨.equal, block.a, block.a + block.size, block.b,
            block.b + block.size⟩ : Opcode)]).flatMap (Opcode.inserted b)) = [] := by
        split_ifs <;> simp [Opcode.deleted, Opcode.inserted]
      rw [opcodesFrom, List.flatMap_append, List.flatMap_append, List.flatMap_append,
        List.flatMap_append, unchanged.1, unchanged.2, List.append_nil, List.append_nil,
        List.length_append, List.length_append, changed.1, changed.2]
      cases rest with
      | nil =>
        rw [List.getLast?_singleton, Option.some.injEq] at last
        subst last
        simp only [opcodesFrom, List.flatMap_nil, List.length_nil]
        omega
      | cons next rest =>
        rw [List.getLast?_cons_cons] at last
        have later := ih _ _ onward last
        omega

theorem script_balance :
    (insertedItems a b).length + a.length = (deletedItems a b).length + b.length := by
  have last : (matchingBlocks a b).getLast? = some ⟨a.length, b.length, 0⟩ := by
    rw [matchingBlocks, List.getLast?_append, List.getLast?_singleton, Option.some_or]
  exact opcodes_from_balance a b _ 0 0 (matching_blocks_ordered a b) last

end Blocks

section

variable {Line : Type*} (lines : Opcode → List Line)

section

variable (equal : ∀ code, code.tag = .equal → lines code = []) (n : Nat) (codes : List Opcode)
include equal

theorem trim_first_changes : (trimFirst n codes).flatMap lines = codes.flatMap lines := by
  cases codes with
  | nil => rfl
  | cons code rest =>
    rw [trimFirst, List.flatMap_cons, List.flatMap_cons]
    split_ifs with same
    · rw [equal code same, equal (code.keepTail n) same]
    · rfl

theorem trim_last_changes : (trimLast n codes).flatMap lines = codes.flatMap lines := by
  induction codes with
  | nil => rfl
  | cons code rest ih =>
    cases rest with
    | nil =>
      rw [trimLast, List.flatMap_singleton, List.flatMap_singleton]
      split_ifs with same
      · rw [equal code same, equal (code.keepHead n) same]
      · rfl
    | cons next rest =>
      rw [trimLast, List.flatMap_cons, ih]
      rfl

theorem groups_from_changes :
    ∀ group, (groupsFrom n group codes).flatMap (List.flatMap lines) =
      group.flatMap lines ++ codes.flatMap lines := by
  induction codes with
  | nil =>
    intro group
    cases group with
    | nil => rfl
    | cons code others =>
      cases others with
      | nil =>
        simp only [groupsFrom]
        split_ifs with same
        · simp [equal code same]
        · simp
      | cons next others => simp [groupsFrom]
  | cons code rest ih =>
    intro group
    rw [groupsFrom]
    split_ifs with cut
    · rw [List.flatMap_cons, ih, List.flatMap_append, List.flatMap_singleton,
        List.flatMap_singleton, List.flatMap_cons, equal code cut.1,
        equal (code.keepHead n) cut.1, equal (code.keepTail n) cut.1]
      simp
    · rw [ih, List.flatMap_append, List.flatMap_singleton, List.flatMap_cons, List.append_assoc]

theorem grouped_changes :
    (groupedOpcodes n codes).flatMap (List.flatMap lines) = codes.flatMap lines := by
  rw [groupedOpcodes, groups_from_changes lines equal, trim_last_changes lines equal,
    trim_first_changes lines equal, List.flatMap_nil, List.nil_append]
  cases codes with
  | nil => simp [equal ⟨.equal, 0, 1, 0, 1⟩ rfl]
  | cons code rest => rfl

end

end

end EvoomGuard.Lib.Difflib
