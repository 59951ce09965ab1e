import EvoomGuard.Lib.PathOrder

/-!
Texts read segment by segment: which characters a split keeps, how a mapping that works character
by character acts on the segments, and when the segments of one text begin those of another.
-/

namespace EvoomGuard.Lib

namespace Text

theorem rstrip_kept (drop : Char → Bool) (text : Text)
    (last : ∀ character, text.getLast? = some character → drop character = false) :
    rstripWhile drop text = text := by
  unfold rstripWhile
  cases turned : text.reverse with
  | nil => rw [List.dropWhile_nil, ← turned, List.reverse_reverse]
  | cons character rest =>
    have ends : text.getLast? = some character := by
      rw [← List.head?_reverse, turned, List.head?_cons]
    rw [List.dropWhile_cons_of_neg (by simp [last character ends]), ← turned,
      List.reverse_reverse]

theorem mem_split_iff (separator character : Char) (text : Text) (other : character ≠ separator) :
    (∃ part ∈ split separator text, character ∈ part) ↔ character ∈ text := by
  induction text with
  | nil => simp [split]
  | cons head rest ih =>
    cases parts : split separator rest with
    | nil => exact absurd parts (split_ne_nil separator rest)
    | cons first others =>
      rw [parts] at ih
      by_cases same : head = separator
      · rw [split, if_pos same, parts, List.exists_mem_cons_iff, ih, List.mem_cons, same]
        simp [other]
      · rw [split, if_neg same, parts, List.mem_cons, ← ih, List.exists_mem_cons_iff,
          List.exists_mem_cons_iff, List.mem_cons, or_assoc]

theorem split_flat_map (separator : Char) (fold : Char → Text)
    (own : fold separator = [separator])
    (free : ∀ character, separator ∈ fold character → character = separator) (text : Text) :
    split separator (text.flatMap fold) =
      (split separator text).map fun part => part.flatMap fold := by
  have proper : (split separator text).map (fun part => part.flatMap fold) ≠ [] := by
    intro empty
    exact split_ne_nil separator text (List.map_eq_nil_iff.mp empty)
  have parted : ∀ part ∈ (split separator text).map (fun part => part.flatMap fold),
      separator ∉ part := by
    intro part inside found
    rcases List.mem_map.mp inside with ⟨original, listed, mapped⟩
    rw [← mapped, List.mem_flatMap] at found
    rcases found with ⟨character, within, made⟩
    rw [free character made] at within
    exact split_parts_free separator text original listed within
  have joined (parts : List Text) :
      (join [separator] parts).flatMap fold =
        join [separator] (parts.map fun part => part.flatMap fold) := by
    induction parts with
    | nil => rfl
    | cons part rest ih =>
      cases rest with
      | nil => rfl
      | cons next more =>
        rw [List.map_cons] at ih
        simp only [join, List.map_cons, List.flatMap_append, List.flatMap_cons,
          List.flatMap_nil, own, ih, List.append_nil]
  rw [← split_join separator _ proper parted, ← joined, join_split]

/-- The segments of one text begin those of another when the texts are the same or the first
ends where the second has a separator. -/
theorem split_begins_iff (separator : Char) (left right : Text) :
    split separator left <+: split separator right ↔
      left = right ∨ left ++ [separator] <+: right := by
  constructor
  · intro begins
    rcases begins with ⟨more, joined⟩
    cases more with
    | nil =>
      rw [List.append_nil] at joined
      exact Or.inl (split_injective separator joined)
    | cons next others =>
      have whole := join_split separator right
      rw [← joined, join_append [separator] _ _ (split_ne_nil separator left) (by simp),
        join_split] at whole
      exact Or.inr ⟨join [separator] (next :: others), whole⟩
  · intro related
    rcases related with same | begins
    · exact same ▸ List.prefix_refl _
    · rcases begins with ⟨more, joined⟩
      have parted : split separator right = split separator left ++ split separator more := by
        have proper : split separator left ++ split separator more ≠ [] := by
          simp [split_ne_nil]
        have free : ∀ part ∈ split separator left ++ split separator more, separator ∉ part := by
          intro part inside
          rcases List.mem_append.mp inside with early | late
          · exact split_parts_free separator left part early
          · exact split_parts_free separator more part late
        rw [← split_join separator _ proper free,
          join_append [separator] _ _ (split_ne_nil separator left) (split_ne_nil separator more),
          join_split, join_split, joined]
      rw [parted]
      exact List.prefix_append _ _

end Text

/-- Full case folding works character by character, and no character but the slash folds to a text
with a slash in it. -/
structure CharacterFolding (mapping : CaseMapping) : Prop where
  characters : ∃ fold : Char → Text, (∀ text, mapping.casefold text = text.flatMap fold) ∧
    ∀ character, '/' ∈ fold character → character = '/'

theorem ascii_folds_characters : CharacterFolding asciiCase := by
  apply CharacterFolding.mk
  exists fun character => [character.toLower]
  constructor
  · intro text
    exact List.map_eq_flatMap
  · intro character inside
    rw [List.mem_singleton] at inside
    unfold Char.toLower at inside
    split at inside
    · next upper =>
        have code := congrArg (fun found => found.val.toNat) inside
        have least : 65 ≤ character.val.toNat := upper.1
        have most : character.val.toNat ≤ 90 := upper.2
        simp only [UInt32.toNat_add] at code
        change 47 = (character.val.toNat + 32) % 4294967296 at code
        omega
    · exact inside.symm

theorem split_casefold {mapping : CaseMapping} (folding : CharacterFolding mapping) (text : Text) :
    Text.split '/' (mapping.casefold text) = (Text.split '/' text).map mapping.casefold := by
  rcases folding.characters with ⟨fold, mapped, free⟩
  have own : fold '/' = ['/'] := by
    have single := mapped ['/']
    rw [mapping.casefold_ascii ['/'] (each_of_all _ _ rfl), List.flatMap_singleton] at single
    exact single.symm
  have each : mapping.casefold = fun part => part.flatMap fold := funext mapped
  rw [each]
  exact Text.split_flat_map '/' fold own free text

end EvoomGuard.Lib
