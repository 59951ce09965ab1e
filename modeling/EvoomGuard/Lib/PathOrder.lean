import EvoomGuard.Lib.Listing
import EvoomGuard.Lib.Order

/-!
The order of slash-joined paths beside the order in which a walk collects them. A walk lists a
directory before it descends, the order of texts compares the separator with the characters of
names; the two agree exactly where the names of a directory leave the separator no say.
-/

namespace EvoomGuard.Lib

namespace Text

theorem join_append (separator : Text) (first second : List Text) (firstProper : first ≠ [])
    (secondProper : second ≠ []) :
    join separator (first ++ second) = join separator first ++ separator ++ join separator second := by
  induction first with
  | nil => exact absurd rfl firstProper
  | cons part rest ih =>
    cases rest with
    | nil =>
      cases second with
      | nil => exact absurd rfl secondProper
      | cons next more => simp [join]
    | cons next more =>
      have joined := ih (by simp)
      simp only [List.cons_append, join] at joined ⊢
      rw [joined]
      simp [List.append_assoc]

variable (separator : Char)

theorem split_of_slash_free (name rest : Text) (free : separator ∉ name) :
    split separator (name ++ separator :: rest) = name :: split separator rest := by
  induction name with
  | nil => simp [split]
  | cons character characters ih =>
    have other : character ≠ separator := fun same => free (by simp [same])
    have later := ih fun inside => free (List.mem_cons_of_mem _ inside)
    simp [split, other, later]

theorem split_name (name : Text) (free : separator ∉ name) :
    split separator name = [name] := by
  induction name with
  | nil => rfl
  | cons character characters ih =>
    have other : character ≠ separator := fun same => free (by simp [same])
    have later := ih fun inside => free (List.mem_cons_of_mem _ inside)
    simp [split, other, later]

theorem split_join (parts : List Text) (proper : parts ≠ [])
    (free : ∀ part ∈ parts, separator ∉ part) : split separator (join [separator] parts) = parts := by
  induction parts with
  | nil => exact absurd rfl proper
  | cons part rest ih =>
    have here := free part List.mem_cons_self
    cases rest with
    | nil => exact split_name separator part here
    | cons next more =>
      have later := ih (by simp) fun other inside => free other (List.mem_cons_of_mem _ inside)
      rw [join, List.append_assoc, List.singleton_append,
        split_of_slash_free separator part _ here, later]

theorem split_parts_free (text : Text) :
    ∀ part ∈ split separator text, separator ∉ part := by
  induction text with
  | nil => simp [split]
  | cons character rest ih =>
    intro part inside
    simp only [split] at inside
    split at inside
    · rcases List.mem_cons.mp inside with same | later
      · simp [same]
      · exact ih part later
    · rename_i other
      cases parts : split separator rest with
      | nil => exact absurd parts (split_ne_nil separator rest)
      | cons first others =>
        rw [parts] at inside ih
        rcases List.mem_cons.mp inside with same | later
        · rw [same, List.mem_cons]
          intro found
          rcases found with equal | deeper
          · exact other equal.symm
          · exact ih first List.mem_cons_self deeper
        · exact ih part (List.mem_cons_of_mem _ later)

theorem le_append_left (head left right : Text) : le (head ++ left)
    (head ++ right) = le left right := by
  rw [le_eq_lex, le_eq_lex, lex_append_left]

theorem le_join_common (path first second : List Text) (firstProper : first ≠ [])
    (secondProper : second ≠ []) :
    le (join ['/'] (path ++ first)) (join ['/'] (path ++ second)) =
      le (join ['/'] first) (join ['/'] second) := by
  by_cases empty : path = []
  · rw [empty, List.nil_append, List.nil_append]
  · rw [join_append _ path first empty firstProper, join_append _ path second empty secondProper,
      le_append_left]

theorem le_name_path (name head rest : Text) (free : '/' ∉ name) :
    le name (head ++ '/' :: rest) = le name (head ++ ['/']) := by
  have grouped : head ++ '/' :: rest = (head ++ ['/']) ++ rest := by simp
  rw [grouped, le_eq_lex, le_eq_lex]
  by_cases inside : name <+: head ++ ['/']
  · rw [lex_of_beginning _ _ inside, lex_of_beginning _ _ (inside.trans (List.prefix_append _ rest))]
  · have outside : ¬ head ++ ['/'] <+: name := by
      intro found
      rcases found with ⟨more, joined⟩
      apply free
      rw [← joined]
      simp
    have same := @lex_append_of_apart Char _
      (fun first second : Char => decide (first.toNat ≤ second.toNat))
      name (head ++ ['/']) inside outside [] rest
    rw [List.append_nil] at same
    exact same

theorem le_path_path (left right lefts rights : Text) (apart : left ≠ right)
    (leftFree : '/' ∉ left) (rightFree : '/' ∉ right) :
    le (left ++ '/' :: lefts) (right ++ '/' :: rights) = le (left ++ ['/']) (right ++ ['/']) := by
  have separate (first second : Text) (different : first ≠ second) (free : '/' ∉ second) :
      ¬ first ++ ['/'] <+: second ++ ['/'] := by
    intro inside
    rcases List.prefix_concat_iff.mp inside with same | shorter
    · exact different (List.append_cancel_right same)
    · rcases shorter with ⟨more, joined⟩
      apply free
      rw [← joined]
      simp
  have groupedLeft : left ++ '/' :: lefts = (left ++ ['/']) ++ lefts := by simp
  have groupedRight : right ++ '/' :: rights = (right ++ ['/']) ++ rights := by simp
  rw [groupedLeft, groupedRight, le_eq_lex, le_eq_lex]
  exact lex_append_of_apart _ _ (separate left right apart rightFree)
    (separate right left (Ne.symm apart) leftFree) lefts rights

/-- A name that sorts before another one with the separator sorts before the other one itself,
unless appending the separator to both turns their order round. -/
theorem le_slash_iff (name other : Text) (nameFree : '/' ∉ name)
    (kept : name ≠ other → le other name = true → le (other ++ ['/']) (name ++ ['/']) = true) :
    le name (other ++ ['/']) = true ↔ le name other = true := by
  have longer : le other (other ++ ['/']) = true := by
    rw [le_eq_lex]
    exact lex_of_beginning _ _ (List.prefix_append other ['/'])
  constructor
  · intro below
    by_contra above
    have facts := (order.le_false_iff name other).mp (by simpa using above)
    have turned := kept facts.2 facts.1
    by_cases inside : name <+: other ++ ['/']
    · rcases List.prefix_concat_iff.mp inside with same | shorter
      · apply nameFree
        rw [same]
        simp
      · apply above
        rw [le_eq_lex]
        exact lex_of_beginning _ _ shorter
    · have outside : ¬ other ++ ['/'] <+: name := by
        intro found
        rcases found with ⟨more, joined⟩
        apply nameFree
        rw [← joined]
        simp
      have extended := @lex_append_of_apart Char _
        (fun first second : Char => decide (first.toNat ≤ second.toNat))
        name (other ++ ['/']) inside outside ['/'] []
      rw [List.append_nil, ← le_eq_lex, ← le_eq_lex, below] at extended
      have same := order.antisymm _ _ extended turned
      exact facts.2 (List.append_cancel_right same)
  · intro below
    exact order.trans name other _ below longer

end Text

namespace Listing

variable {Entry : Type*} {directory : Entry → Bool} (listing : Listing Text directory)
  (pick descend : List Text → List Text)

/-- The collected paths stand in the order of their texts. -/
def Ascending (paths : List (List Text)) : Prop :=
  paths.Pairwise fun left right =>
    Text.le (Text.join ['/'] left) (Text.join ['/'] right) = true

/-- In one directory, with `fuel` levels below it: what is picked sorts before the paths below
each subdirectory, and the subdirectories sort as their paths do. -/
structure AscendsAt (fuel : Nat) (path : List Text) : Prop where
  before : ∀ name ∈ pick path, ∀ below ∈ descend path,
    collect pick descend fuel (path ++ [below]) ≠ [] → Text.le name (below ++ ['/']) = true
  between : ∀ first ∈ descend path, ∀ second ∈ descend path, first ≠ second →
    Text.le first second = true → collect pick descend fuel (path ++ [first]) ≠ [] →
    collect pick descend fuel (path ++ [second]) ≠ [] →
    Text.le (first ++ ['/']) (second ++ ['/']) = true

section Ascending

variable (pickFree : ∀ path, ∀ name ∈ pick path, '/' ∉ name)
  (descendFree : ∀ path, ∀ name ∈ descend path, '/' ∉ name)
  (pickSorted : ∀ path, (pick path).Pairwise fun left right => Text.le left right = true)
  (descendSorted : ∀ path, (descend path).Pairwise fun left right => Text.le left right = true)
  (descendDistinct : ∀ path, (descend path).Nodup)

include pickFree in
theorem before_iff (fuel : Nat) (path : List Text) (name below : Text) (picked : name ∈ pick path)
    (fruitful : collect pick descend fuel (path ++ [below]) ≠ []) :
    (∀ target ∈ collect pick descend fuel (path ++ [below]),
        Text.le (Text.join ['/'] (path ++ [name])) (Text.join ['/'] target) = true) ↔
      Text.le name (below ++ ['/']) = true := by
  have each (target : List Text) (inside : target ∈ collect pick descend fuel (path ++ [below])) :
      Text.le (Text.join ['/'] (path ++ [name])) (Text.join ['/'] target) =
        Text.le name (below ++ ['/']) := by
    rcases collect_below pick descend fuel _ target inside with ⟨rest, proper, joined⟩
    rw [joined, List.append_assoc, Text.le_join_common path [name] ([below] ++ rest) (by simp)
      (by simp), Text.join_append ['/'] [below] rest (by simp) proper]
    simp only [Text.join, List.append_assoc, List.singleton_append]
    exact Text.le_name_path name below _ (pickFree path name picked)
  rcases List.exists_mem_of_ne_nil _ fruitful with ⟨witness, inside⟩
  constructor
  · intro all
    rw [← each witness inside]
    exact all witness inside
  · intro holds target found
    rw [each target found]
    exact holds

include descendFree in
theorem between_iff (fuel : Nat) (path : List Text) (first second : Text)
    (firstInside : first ∈ descend path) (secondInside : second ∈ descend path)
    (apart : first ≠ second) (firstFruitful : collect pick descend fuel (path ++ [first]) ≠ [])
    (secondFruitful : collect pick descend fuel (path ++ [second]) ≠ []) :
    (∀ left ∈ collect pick descend fuel (path ++ [first]),
        ∀ right ∈ collect pick descend fuel (path ++ [second]),
        Text.le (Text.join ['/'] left) (Text.join ['/'] right) = true) ↔
      Text.le (first ++ ['/']) (second ++ ['/']) = true := by
  have each (left right : List Text)
      (inLeft : left ∈ collect pick descend fuel (path ++ [first]))
      (inRight : right ∈ collect pick descend fuel (path ++ [second])) :
      Text.le (Text.join ['/'] left) (Text.join ['/'] right) =
        Text.le (first ++ ['/']) (second ++ ['/']) := by
    rcases collect_below pick descend fuel _ left inLeft with ⟨lefts, leftProper, leftJoined⟩
    rcases collect_below pick descend fuel _ right inRight with ⟨rights, rightProper, rightJoined⟩
    rw [leftJoined, rightJoined, List.append_assoc, List.append_assoc,
      Text.le_join_common path ([first] ++ lefts) ([second] ++ rights) (by simp) (by simp),
      Text.join_append ['/'] [first] lefts (by simp) leftProper,
      Text.join_append ['/'] [second] rights (by simp) rightProper]
    simp only [Text.join, List.append_assoc, List.singleton_append]
    exact Text.le_path_path first second _ _ apart (descendFree path first firstInside)
      (descendFree path second secondInside)
  rcases List.exists_mem_of_ne_nil _ firstFruitful with ⟨left, inLeft⟩
  rcases List.exists_mem_of_ne_nil _ secondFruitful with ⟨right, inRight⟩
  constructor
  · intro all
    rw [← each left right inLeft inRight]
    exact all left inLeft right inRight
  · intro holds one oneInside two twoInside
    rw [each one two oneInside twoInside]
    exact holds

include pickFree descendFree pickSorted descendSorted descendDistinct in
/-- One level: what is collected below each subdirectory ascends, and the directory itself does. -/
theorem collect_step_ascending_iff (fuel : Nat) (path : List Text) :
    Ascending (collect pick descend (fuel + 1) path) ↔
      AscendsAt pick descend fuel path ∧
        ∀ below ∈ descend path, Ascending (collect pick descend fuel (path ++ [below])) := by
  have here : ((pick path).map fun name => path ++ [name]).Pairwise fun left right =>
      Text.le (Text.join ['/'] left) (Text.join ['/'] right) = true := by
    rw [List.pairwise_map]
    apply (pickSorted path).imp
    intro left right sorted
    rw [Text.le_join_common path [left] [right] (by simp) (by simp)]
    exact sorted
  unfold Ascending
  rw [collect, List.pairwise_append, List.pairwise_flatMap]
  constructor
  · intro ascends
    rcases ascends with ⟨_, ⟨deeper, across⟩, cross⟩
    constructor
    · constructor
      · intro name picked below entering fruitful
        rw [← before_iff pick descend pickFree fuel path name below picked fruitful]
        intro target inside
        exact cross (path ++ [name]) (List.mem_map.mpr ⟨name, picked, rfl⟩) target
          (List.mem_flatMap.mpr ⟨below, entering, inside⟩)
      · intro first firstInside second secondInside apart sorted firstFruitful secondFruitful
        rw [← between_iff pick descend descendFree fuel path first second firstInside secondInside
          apart firstFruitful secondFruitful]
        -- Of two different subdirectories the sorted one is entered first.
        have order := List.pairwise_iff_getElem.mp across
        have sortedList := List.pairwise_iff_getElem.mp (descendSorted path)
        rcases List.getElem_of_mem firstInside with ⟨i, iBound, iFound⟩
        rcases List.getElem_of_mem secondInside with ⟨j, jBound, jFound⟩
        rcases Nat.lt_trichotomy i j with earlier | same | later
        · have inOrder := order i j iBound jBound earlier
          rw [iFound, jFound] at inOrder
          exact inOrder
        · subst same
          exact absurd (iFound.symm.trans jFound) apart
        · have reversed := sortedList j i jBound iBound later
          rw [iFound, jFound] at reversed
          exact absurd (Text.order.antisymm first second sorted reversed) apart
    · exact deeper
  · intro ascends
    rcases ascends with ⟨level, deeper⟩
    refine ⟨here, ⟨deeper, ?_⟩, ?_⟩
    · have both := (descendSorted path).and (descendDistinct path)
      apply both.imp_of_mem
      intro first second firstInside secondInside facts left inLeft right inRight
      exact (between_iff pick descend descendFree fuel path first second firstInside secondInside
        facts.2 (List.ne_nil_of_mem inLeft) (List.ne_nil_of_mem inRight)).mpr
        (level.between first firstInside second secondInside facts.2 facts.1
          (List.ne_nil_of_mem inLeft) (List.ne_nil_of_mem inRight)) left inLeft right inRight
    · intro left inLeft target inside
      rcases List.mem_map.mp inLeft with ⟨name, picked, joined⟩
      rcases List.mem_flatMap.mp inside with ⟨below, entering, found⟩
      subst joined
      exact (before_iff pick descend pickFree fuel path name below picked
        (List.ne_nil_of_mem found)).mpr
        (level.before name picked below entering (List.ne_nil_of_mem found)) target found

variable (entered : ∀ path name, name ∈ descend path ↔ listing.isDirectory (path ++ [name]) = true)

include pickFree descendFree pickSorted descendSorted descendDistinct entered in
/-- A walk collects in ascending order exactly when every directory it enters ascends. -/
theorem collect_ascending_iff (fuel : Nat) (path : List Text) :
    Ascending (collect pick descend fuel path) ↔
      ∀ between remaining, between.length + remaining + 1 = fuel →
        (between = [] ∨ listing.isDirectory (path ++ between) = true) →
        AscendsAt pick descend remaining (path ++ between) := by
  induction fuel generalizing path with
  | zero =>
    constructor
    · intro _ between remaining impossible
      omega
    · intro _
      exact List.Pairwise.nil
  | succ fuel ih =>
    rw [collect_step_ascending_iff pick descend pickFree descendFree pickSorted descendSorted
      descendDistinct fuel path]
    constructor
    · intro ascends between remaining levels inside
      cases between with
      | nil =>
        have all : remaining = fuel := by
          simp only [List.length_nil] at levels
          omega
        rw [all, List.append_nil]
        exact ascends.1
      | cons step rest =>
        have below : listing.isDirectory (path ++ [step] ++ rest) = true := by
          rcases inside with empty | found
          · cases empty
          · simpa using found
        have here := listing.is_directory_between _ rest below
        have deeper := (ih (path ++ [step])).mp (ascends.2 step ((entered path step).mpr here))
        have level := deeper rest remaining (by
          simp only [List.length_cons] at levels
          omega) (Or.inr below)
        simpa using level
    · intro levels
      constructor
      · have top := levels [] fuel (by simp) (Or.inl rfl)
        rwa [List.append_nil] at top
      · intro below entering
        rw [ih (path ++ [below])]
        intro between remaining count inside
        have deeper := levels (below :: between) remaining (by
          simp only [List.length_cons]
          omega) (Or.inr (by
            rcases inside with empty | found
            · subst empty
              simpa using (entered path below).mp entering
            · simpa using found))
        simpa using deeper

end Ascending

end Listing

end EvoomGuard.Lib
