import EvoomGuard.Lib.Listing
import EvoomGuard.Lib.Order

/-!
A tree in preorder, the names of a directory in ascending order: the paths come out in the
lexicographic order of their components, each once.
-/

namespace EvoomGuard.Lib.Listing

variable {Name Entry : Type*} [DecidableEq Name] {directory : Entry → Bool}
  (listing : Listing Name directory) (le : Name → Name → Bool)

def sortedNames (path : List Name) : List Name := sortOn le id (listing.names path)

theorem mem_sorted_names (path : List Name) (name : Name) :
    name ∈ sortedNames listing le path ↔ (listing.entry (path ++ [name])).isSome = true := by
  rw [sortedNames, (sort_on_perm le id _).mem_iff, mem_names]

theorem sorted_names_ascend (order : TotalOrder le) (path : List Name) :
    (sortedNames listing le path).Pairwise fun left right =>
      le left right = true ∧ left ≠ right := by
  have distinct : (sortedNames listing le path).Nodup :=
    (sort_on_perm le id _).nodup_iff.mpr (listing.names_nodup path)
  exact (sort_on_pairwise order id (listing.names path)).and distinct

/-- A path that is no directory has nothing below it, so the walk may ask it for names too. -/
def preorderFrom : Nat → List Name → List (List Name)
  | 0, _ => []
  | fuel + 1, path =>
    path :: (sortedNames listing le path).flatMap fun name => preorderFrom fuel (path ++ [name])

def preorder (path : List Name) : List (List Name) :=
  preorderFrom listing le (listing.height + 1 - path.length) path

theorem mem_preorder_from (fuel : Nat) (path target : List Name) :
    target ∈ preorderFrom listing le fuel path ↔
      ∃ below, target = path ++ below ∧ below.length < fuel ∧
        (below = [] ∨ (listing.entry target).isSome = true) := by
  induction fuel generalizing path with
  | zero => simp [preorderFrom]
  | succ fuel ih =>
    rw [preorderFrom, List.mem_cons, List.mem_flatMap]
    constructor
    · intro found
      rcases found with here | ⟨name, inside, deeper⟩
      · exact ⟨[], by simp [here], by simp, Or.inl rfl⟩
      · rcases (ih (path ++ [name])).mp deeper with ⟨below, joined, bound, present⟩
        refine ⟨name :: below, by simp [joined], by simpa using bound, Or.inr ?_⟩
        rcases present with last | present
        · rw [joined, last, List.append_nil]
          exact (mem_sorted_names listing le path name).mp inside
        · exact present
    · intro found
      rcases found with ⟨below, joined, bound, present⟩
      cases below with
      | nil => exact Or.inl (by simpa using joined)
      | cons name below =>
        have inTree : (listing.entry (path ++ [name] ++ below)).isSome = true := by
          rcases present with empty | present
          · cases empty
          · simpa [joined] using present
        have beside : (listing.entry (path ++ [name])).isSome = true := by
          by_cases last : below = []
          · simpa [last] using inTree
          · exact listing.is_some_of_directory _
              (listing.is_directory_of_below _ below last inTree)
        refine Or.inr ⟨name, (mem_sorted_names listing le path name).mpr beside, ?_⟩
        rw [ih (path ++ [name])]
        refine ⟨below, by simp [joined], by simpa using bound, Or.inr ?_⟩
        simpa [joined] using inTree

theorem preorder_from_ascends (order : TotalOrder le) (fuel : Nat) (path : List Name) :
    (preorderFrom listing le fuel path).Pairwise fun left right =>
      lexLe le left right = true ∧ left ≠ right := by
  induction fuel generalizing path with
  | zero => exact List.Pairwise.nil
  | succ fuel ih =>
    rw [preorderFrom, List.pairwise_cons, List.pairwise_flatMap]
    constructor
    · intro target inside
      rcases List.mem_flatMap.mp inside with ⟨name, _, deeper⟩
      rcases (mem_preorder_from listing le fuel _ target).mp deeper with ⟨below, joined, _⟩
      constructor
      · apply lex_of_beginning
        rw [joined, List.append_assoc]
        exact List.prefix_append path _
      · intro same
        have lengths := congrArg List.length (same.trans joined)
        simp at lengths
    · constructor
      · intro name _
        exact ih (path ++ [name])
      · apply (sorted_names_ascend listing le order path).imp
        intro first second apart left inLeft right inRight
        rcases (mem_preorder_from listing le fuel _ left).mp inLeft with ⟨lefts, leftJoined, _⟩
        rcases (mem_preorder_from listing le fuel _ right).mp inRight with
          ⟨rights, rightJoined, _⟩
        rw [leftJoined, rightJoined, List.append_assoc, List.append_assoc, lex_append_left]
        constructor
        · simpa only [List.singleton_append, lexLe, if_neg apart.2] using apart.1
        · intro same
          simp only [List.singleton_append, List.append_cancel_left_eq, List.cons.injEq] at same
          exact apart.2 same.1

theorem preorder_ascends (order : TotalOrder le) (path : List Name) :
    (preorder listing le path).Pairwise fun left right =>
      lexLe le left right = true ∧ left ≠ right :=
  preorder_from_ascends listing le order _ path

theorem preorder_step (path : List Name) (present : (listing.entry path).isSome = true) :
    preorder listing le path =
      path :: (sortedNames listing le path).flatMap fun name =>
        preorder listing le (path ++ [name]) := by
  have bound := listing.length_le_height path present
  have room : listing.height + 1 - path.length = (listing.height - path.length) + 1 := by omega
  rw [preorder, room, preorderFrom]
  congr 2
  funext name
  rw [preorder]
  congr 1
  simp only [List.length_append, List.length_cons, List.length_nil]
  omega

theorem preorder_leaf (path : List Name) (present : (listing.entry path).isSome = true)
    (leaf : listing.isDirectory path = false) : preorder listing le path = [path] := by
  have empty : sortedNames listing le path = [] := by
    apply List.eq_nil_iff_forall_not_mem.mpr
    intro name inside
    have above := listing.parent path name ((mem_sorted_names listing le path name).mp inside)
    rw [isDirectory, above] at leaf
    cases leaf
  rw [preorder_step listing le path present, empty]
  rfl

theorem mem_preorder_root (target : List Name) :
    target ∈ preorder listing le [] ↔ (listing.entry target).isSome = true := by
  rw [preorder, mem_preorder_from]
  constructor
  · intro found
    rcases found with ⟨below, joined, _, present⟩
    rcases present with empty | present
    · rw [joined, empty]
      exact listing.is_some_of_directory [] listing.root
    · exact present
  · intro present
    have bound := listing.length_le_height target present
    exact ⟨target, by simp, by simp; omega, Or.inr present⟩

theorem preorder_root_length (order : TotalOrder le) :
    (preorder listing le []).length = listing.paths.length := by
  have distinct : (preorder listing le []).Nodup :=
    (preorder_ascends listing le order []).imp And.right
  apply List.Perm.length_eq
  rw [List.perm_ext_iff_of_nodup distinct listing.distinct]
  intro target
  rw [mem_preorder_root, listing.complete]

end EvoomGuard.Lib.Listing
