import Mathlib.Data.List.Basic

/-!
Tokens that a reader takes from a text, from left to right: a state is carried from one character
to the next, the state and the text ahead say how long the token is that starts here, and no token
starts inside another.
-/

namespace EvoomGuard.Lib

structure Reader (State Letter : Type*) where
  start : State
  read : State → Letter → State
  /-- The length of the token that starts here, zero when none does. -/
  width : State → List Letter → Nat

namespace Reader

variable {State Letter Other : Type*} (reader : Reader State Letter) (text : List Letter)

/-- The tokens with their positions and lengths, when so many letters of a token are still to be
read. -/
def scan (state : State) (pending position : Nat) : List Letter → List (Nat × Nat)
  | [] => []
  | letter :: rest =>
    let width := reader.width state (letter :: rest)
    let found := if pending = 0 ∧ width ≠ 0 then [(position, width)] else []
    found ++ scan (reader.read state letter) (if pending = 0 then width - 1 else pending - 1)
      (position + 1) rest

theorem scan_of_width_zero {state : State} {letter : Letter} {rest : List Letter} (position : Nat)
    (none : reader.width state (letter :: rest) = 0) :
    reader.scan state 0 position (letter :: rest) =
      reader.scan (reader.read state letter) 0 (position + 1) rest := by
  rw [scan, none]
  rfl

theorem scan_of_width_succ {state : State} {letter : Letter} {rest : List Letter}
    (position : Nat) {more : Nat} (some : reader.width state (letter :: rest) = more + 1) :
    reader.scan state 0 position (letter :: rest) =
      (position, more + 1) :: reader.scan (reader.read state letter) more (position + 1) rest := by
  rw [scan, some]
  rfl

theorem scan_of_pending (state : State) (pending position : Nat) (letter : Letter)
    (rest : List Letter) :
    reader.scan state (pending + 1) position (letter :: rest) =
      reader.scan (reader.read state letter) pending (position + 1) rest := rfl

def tokens : List (Nat × Nat) := reader.scan reader.start 0 0 text

def after : State := text.foldl reader.read reader.start

/-- The length of the token at a position, were it not inside another. -/
def widthAt (position : Nat) : Nat :=
  reader.width (reader.after (text.take position)) (text.drop position)

/-- The letters still to be read of a token that started before the position. -/
def pendingAt : Nat → Nat
  | 0 => 0
  | position + 1 =>
    if pendingAt position = 0 then reader.widthAt text position - 1 else pendingAt position - 1

theorem after_append (before behind : List Letter) :
    reader.after (before ++ behind) = behind.foldl reader.read (reader.after before) :=
  List.foldl_append

/-- A reader finds no token where there is nothing to read. -/
def Ends : Prop := ∀ state, reader.width state [] = 0

variable {reader text}

theorem after_take_succ {position : Nat} {letter : Letter} (here : text[position]? = some letter) :
    reader.after (text.take (position + 1)) =
      reader.read (reader.after (text.take position)) letter := by
  rw [List.take_add_one, here, after_append]
  rfl

theorem width_at_append (before behind : List Letter) :
    reader.widthAt (before ++ behind) before.length = reader.width (reader.after before) behind := by
  rw [widthAt, List.take_left, List.drop_left]

theorem lt_length_of_width_at (ends : reader.Ends) {position : Nat}
    (found : reader.widthAt text position ≠ 0) : position < text.length := by
  by_contra beyond
  rw [widthAt, List.drop_eq_nil_of_le (Nat.le_of_not_lt beyond)] at found
  exact found (ends _)

theorem mem_scan_iff (token : Nat × Nat) (rest : List Letter) :
    ∀ before, text = before ++ rest →
      (token ∈ reader.scan (reader.after before) (reader.pendingAt text before.length)
          before.length rest ↔
        before.length ≤ token.1 ∧ token.1 < text.length ∧ reader.pendingAt text token.1 = 0 ∧
          reader.widthAt text token.1 = token.2 ∧ token.2 ≠ 0) := by
  induction rest with
  | nil =>
    rintro before rfl
    simp only [scan, List.not_mem_nil, List.append_nil, false_iff]
    omega
  | cons letter rest ih =>
    intro before whole
    have later := ih (before ++ [letter]) (by rw [whole, List.append_assoc, List.singleton_append])
    have width : reader.widthAt text before.length =
        reader.width (reader.after before) (letter :: rest) := whole ▸ width_at_append before _
    have inside : before.length < text.length := by
      rw [whole, List.length_append, List.length_cons]
      omega
    rw [after_append, List.length_append, List.length_singleton, pendingAt, width] at later
    rw [scan, List.mem_append, ← width]
    rw [← width] at later
    constructor
    · rintro (found | found)
      · split at found
        · next starts =>
            rw [List.mem_singleton.1 found]
            exact ⟨Nat.le_refl _, inside, starts.1, rfl, starts.2⟩
        · cases found
      · obtain ⟨behind, rest⟩ := later.1 found
        exact ⟨Nat.le_of_succ_le behind, rest⟩
    · rintro ⟨behind, rest⟩
      rcases Nat.eq_or_lt_of_le behind with here | further
      · obtain ⟨position, length⟩ := token
        obtain rfl : before.length = position := here
        obtain ⟨-, free, found, some⟩ := rest
        rw [show length = _ from found.symm]
        refine .inl ?_
        rw [if_pos ⟨free, fun zero => some (found.symm.trans zero)⟩]
        exact List.mem_singleton_self _
      · exact .inr (later.2 ⟨further, rest⟩)

theorem mem_tokens_iff {position width : Nat} :
    (position, width) ∈ reader.tokens text ↔ position < text.length ∧
      reader.pendingAt text position = 0 ∧ reader.widthAt text position = width ∧ width ≠ 0 := by
  have whole := @mem_scan_iff _ _ reader text (position, width) text [] rfl
  exact whole.trans (and_iff_right (Nat.zero_le _))

theorem scan_behind (rest : List Letter) :
    ∀ state pending position, ∀ token ∈ reader.scan state pending position rest,
      position ≤ token.1 := by
  induction rest with
  | nil =>
    intro state pending position token member
    cases member
  | cons letter rest ih =>
    intro state pending position token member
    rcases List.mem_append.1 member with here | later
    · split at here
      · exact Nat.le_of_eq (congrArg Prod.fst (List.mem_singleton.1 here)).symm
      · cases here
    · exact Nat.le_of_succ_le (ih _ _ _ token later)

theorem scan_pairwise (rest : List Letter) :
    ∀ state pending position,
      (reader.scan state pending position rest).Pairwise fun first second => first.1 < second.1 := by
  induction rest with
  | nil =>
    intro state pending position
    exact List.Pairwise.nil
  | cons letter rest ih =>
    intro state pending position
    refine List.pairwise_append.2 ⟨?_, ih _ _ _, ?_⟩
    · split
      · exact List.pairwise_singleton _ _
      · exact List.Pairwise.nil
    · intro first here second later
      have behind := scan_behind rest _ _ _ second later
      split at here
      · rw [List.mem_singleton.1 here]
        exact behind
      · cases here

theorem getLast_tokens_iff {token : Nat × Nat} :
    (reader.tokens text).getLast? = some token ↔
      token ∈ reader.tokens text ∧ ∀ other ∈ reader.tokens text, other.1 ≤ token.1 := by
  have ordered : (reader.tokens text).Pairwise fun first second => first.1 < second.1 :=
    scan_pairwise text _ _ _
  constructor
  · intro last
    obtain ⟨front, whole⟩ := List.getLast?_eq_some_iff.1 last
    rw [whole] at ordered ⊢
    refine ⟨List.mem_append_right _ (List.mem_singleton_self _), fun other member => ?_⟩
    rcases List.mem_append.1 member with earlier | same
    · exact Nat.le_of_lt ((List.pairwise_append.1 ordered).2.2 other earlier token
        (List.mem_singleton_self _))
    · exact Nat.le_of_eq (congrArg Prod.fst (List.mem_singleton.1 same))
  · rintro ⟨member, greatest⟩
    cases last : (reader.tokens text).getLast? with
    | none =>
      rw [List.getLast?_eq_none_iff.1 last] at member
      cases member
    | some other =>
      obtain ⟨front, whole⟩ := List.getLast?_eq_some_iff.1 last
      rw [whole] at ordered member greatest
      rcases List.mem_append.1 member with earlier | same
      · have before := (List.pairwise_append.1 ordered).2.2 token earlier other
          (List.mem_singleton_self _)
        have behind := greatest other (List.mem_append_right _ (List.mem_singleton_self _))
        omega
      · rw [List.mem_singleton.1 same]

theorem pending_inside {position width : Nat} (member : (position, width) ∈ reader.tokens text)
    (count : Nat) (inside : count + 1 < width) :
    reader.pendingAt text (position + count + 1) = width - (count + 1) := by
  obtain ⟨-, free, found, -⟩ := mem_tokens_iff.1 member
  induction count with
  | zero => rw [pendingAt, Nat.add_zero, if_pos free, found]
  | succ fewer ih =>
    have before := ih (by omega)
    rw [pendingAt, ← Nat.add_assoc, before, if_neg (by omega)]
    omega

theorem started_of_pending {position : Nat} (ends : reader.Ends)
    (behind : reader.pendingAt text position ≠ 0) :
    ∃ start width, (start, width) ∈ reader.tokens text ∧ start < position ∧
      start + width = position + reader.pendingAt text position := by
  induction position with
  | zero => exact absurd rfl behind
  | succ position ih =>
    rw [pendingAt] at behind ⊢
    split at behind
    · next free =>
        rw [if_pos free]
        have some : reader.widthAt text position ≠ 0 := fun zero => behind (by rw [zero])
        refine ⟨position, _, mem_tokens_iff.2
          ⟨lt_length_of_width_at ends some, free, rfl, some⟩, Nat.lt_succ_self _, ?_⟩
        omega
    · next held =>
        rw [if_neg held]
        obtain ⟨start, width, member, before, reaches⟩ := ih held
        exact ⟨start, width, member, Nat.lt_succ_of_lt before, by omega⟩

theorem covered_of_width_at (ends : reader.Ends) {position : Nat}
    (found : reader.widthAt text position ≠ 0) :
    ∃ start width, (start, width) ∈ reader.tokens text ∧ start ≤ position ∧
      position < start + width := by
  by_cases free : reader.pendingAt text position = 0
  · refine ⟨position, _, mem_tokens_iff.2 ⟨lt_length_of_width_at ends found, free, rfl, found⟩,
      Nat.le_refl _, ?_⟩
    omega
  · obtain ⟨start, width, member, before, reaches⟩ := started_of_pending ends free
    exact ⟨start, width, member, Nat.le_of_lt before, by omega⟩

theorem tokens_eq_nil_iff (ends : reader.Ends) :
    reader.tokens text = [] ↔ ∀ position, reader.widthAt text position = 0 := by
  constructor
  · intro none position
    by_contra found
    obtain ⟨start, width, member, -⟩ := covered_of_width_at ends found
    rw [none] at member
    cases member
  · intro none
    refine List.eq_nil_iff_forall_not_mem.2 fun token member => ?_
    obtain ⟨-, -, found, some⟩ := mem_tokens_iff.1 member
    exact some (found.symm.trans (none _))

theorem disjoint_tokens {first second : Nat × Nat} (left : first ∈ reader.tokens text)
    (right : second ∈ reader.tokens text) (before : first.1 < second.1) :
    first.1 + first.2 ≤ second.1 := by
  by_contra overlaps
  have held := pending_inside left (second.1 - first.1 - 1) (by omega)
  have free := (mem_tokens_iff.1 right).2.1
  rw [show first.1 + (second.1 - first.1 - 1) + 1 = second.1 by omega, free] at held
  omega

theorem end_le_of_getLast {token other : Nat × Nat}
    (last : (reader.tokens text).getLast? = some token) (member : other ∈ reader.tokens text) :
    other.1 + other.2 ≤ token.1 + token.2 := by
  obtain ⟨member', greatest⟩ := getLast_tokens_iff.1 last
  rcases Nat.eq_or_lt_of_le (greatest other member) with same | before
  · have left : reader.widthAt text other.1 = other.2 := (mem_tokens_iff.1 member).2.2.1
    have right : reader.widthAt text token.1 = token.2 := (mem_tokens_iff.1 member').2.2.1
    have equal : other.2 = token.2 := left.symm.trans ((congrArg _ same).trans right)
    omega
  · exact Nat.le_trans (disjoint_tokens member member' before) (Nat.le_add_right _ _)

theorem lt_of_getLast (ends : reader.Ends) {token : Nat × Nat}
    (last : (reader.tokens text).getLast? = some token) {position : Nat}
    (found : reader.widthAt text position ≠ 0) : position < token.1 + token.2 := by
  obtain ⟨start, width, member, -, reaches⟩ := covered_of_width_at ends found
  exact Nat.lt_of_lt_of_le reaches (end_le_of_getLast last member)

section

variable {Another : Type*} {reader : Reader State Letter} {other : Reader Another Letter}

/-- Where one token of either reader could start inside another, and one of the other reader could
start too, both readers find the same token around them. -/
def Aligned (reader : Reader State Letter) (other : Reader Another Letter)
    (text : List Letter) : Prop :=
  ∀ earlier position, earlier < position → reader.widthAt text position ≠ 0 →
    other.widthAt text position ≠ 0 →
      position < earlier + reader.widthAt text earlier ∨
        position < earlier + other.widthAt text earlier →
      reader.widthAt text earlier = other.widthAt text earlier

theorem aligned_symm (aligned : Aligned reader other text) : Aligned other reader text :=
  fun earlier position before left right covers =>
    (aligned earlier position before right left covers.symm).symm

theorem free_of_aligned (ends : reader.Ends) (aligned : Aligned reader other text) {position : Nat}
    (together : ∀ earlier < position, reader.widthAt text earlier ≠ 0 →
      other.widthAt text earlier ≠ 0 → reader.pendingAt text earlier = 0 →
        other.pendingAt text earlier = 0)
    (found : reader.widthAt text position ≠ 0) (found' : other.widthAt text position ≠ 0)
    (free : other.pendingAt text position = 0) : reader.pendingAt text position = 0 := by
  by_contra held
  -- The token around the position starts earlier, where the other reader has it too.
  obtain ⟨start, width, member, before, reaches⟩ := started_of_pending ends held
  obtain ⟨inside, starts, length, some⟩ := mem_tokens_iff.1 member
  have same := aligned start position before found found' (.inl (by omega))
  have length' : other.widthAt text start = width := same.symm.trans length
  have starts' := together start before (by omega) (by omega) starts
  have member' := mem_tokens_iff.2 ⟨inside, starts', length', some⟩
  have held' := pending_inside member' (position - start - 1) (by omega)
  rw [show start + (position - start - 1) + 1 = position by omega, free] at held'
  omega

theorem pending_iff_of_aligned (ends : reader.Ends) (ends' : other.Ends)
    (aligned : Aligned reader other text) (position : Nat)
    (found : reader.widthAt text position ≠ 0) (found' : other.widthAt text position ≠ 0) :
    reader.pendingAt text position = 0 ↔ other.pendingAt text position = 0 := by
  induction position using Nat.strongRecOn with
  | _ position ih =>
    constructor
    · apply free_of_aligned ends' (aligned_symm aligned) _ found' found
      exact fun earlier before some' some => (ih earlier before some some').2
    · apply free_of_aligned ends aligned _ found found'
      exact fun earlier before some some' => (ih earlier before some some').1

end

end Reader

end EvoomGuard.Lib
