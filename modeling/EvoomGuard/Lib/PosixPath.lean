import EvoomGuard.Lib.PathOrder
import EvoomGuard.Lib.Posix

/-!
Path texts as `posixpath` reads them: the root, the components and the normal form.
-/

namespace EvoomGuard.Lib.Posix

def isabs (path : Text) : Bool := Text.startsWith path ['/']

-- Exactly two leading slashes are a root of their own.
def splitroot : Text → Text × Text
  | '/' :: '/' :: '/' :: rest => (['/'], '/' :: '/' :: rest)
  | '/' :: '/' :: rest => (['/', '/'], rest)
  | '/' :: rest => (['/'], rest)
  | path => ([], path)

def normComponent (rooted : Bool) (parts : List Text) (part : Text) : List Text :=
  if part.isEmpty || part == ['.'] then parts
  else if part != ['.', '.'] || (!rooted && parts.isEmpty) ||
      parts.getLast? == some ['.', '.'] then parts ++ [part]
  else parts.dropLast

def normpath (path : Text) : Text :=
  let root := (splitroot path).1
  let parts := (Text.split '/' (splitroot path).2).foldl (normComponent (!root.isEmpty)) []
  let joined := root ++ Text.join ['/'] parts
  if joined.isEmpty then ['.'] else joined

/-- The names a path goes through. -/
def components (path : Text) : List Text :=
  (Text.split '/' path).filter fun part => !part.isEmpty

theorem valid_name_iff (name : Text) :
    validName name = true ↔ name ≠ [] ∧ '/' ∉ name ∧ name ≠ ['.'] ∧ name ≠ ['.', '.'] := by
  simp [validName, and_assoc]

-- Below a root `..` never enters the parts, so it is never their last one.
theorem norm_component_valid (parts : List Text) (part : Text) (free : '/' ∉ part)
    (valid : ∀ name ∈ parts, validName name = true) :
    ∀ name ∈ normComponent true parts part, validName name = true := by
  have unlast : parts.getLast? ≠ some ['.', '.'] := by
    intro last
    have member := List.mem_of_getLast? last
    exact absurd (valid _ member) (by decide)
  intro name member
  unfold normComponent at member
  by_cases skipped : (part.isEmpty || part == ['.']) = true
  · rw [if_pos skipped] at member
    exact valid name member
  · rw [if_neg skipped] at member
    simp only [Bool.or_eq_true, not_or, List.isEmpty_iff, beq_iff_eq] at skipped
    by_cases plain : part = ['.', '.']
    · have popped : ¬ (part != ['.', '.'] || (!true && parts.isEmpty) ||
          parts.getLast? == some ['.', '.']) = true := by
        simp [plain, unlast]
      rw [if_neg popped] at member
      exact valid name (List.dropLast_subset _ member)
    · have pushed : (part != ['.', '.'] || (!true && parts.isEmpty) ||
          parts.getLast? == some ['.', '.']) = true := by
        simp [plain]
      rw [if_pos pushed, List.mem_append, List.mem_singleton] at member
      cases member with
      | inl old => exact valid name old
      | inr new =>
        rw [new, valid_name_iff]
        exact ⟨skipped.1, free, skipped.2, plain⟩

theorem norm_components_valid (rest : List Text) (free : ∀ part ∈ rest, '/' ∉ part) :
    ∀ parts : List Text, (∀ name ∈ parts, validName name = true) →
      ∀ name ∈ rest.foldl (normComponent true) parts, validName name = true := by
  induction rest with
  | nil =>
    intro parts valid
    exact valid
  | cons part later onward =>
    intro parts valid
    exact onward (fun other inside => free other (List.mem_cons_of_mem _ inside)) _
      (norm_component_valid parts part (free part List.mem_cons_self) valid)

theorem splitroot_absolute (path : Text) (absolute : isabs path = true) :
    (splitroot path).1 = ['/'] ∨ (splitroot path).1 = ['/', '/'] := by
  unfold splitroot
  split
  · exact Or.inl rfl
  · exact Or.inr rfl
  · exact Or.inl rfl
  · next other =>
      cases path with
      | nil => cases absolute
      | cons first rest =>
        simp only [isabs, Text.startsWith, List.isPrefixOf_cons_cons, Bool.and_eq_true,
          beq_iff_eq] at absolute
        rw [← absolute.1] at other
        exact absurd rfl (other rest)

theorem components_root (root : Text) (parts : List Text)
    (rooted : ∀ character ∈ root, character = '/')
    (valid : ∀ name ∈ parts, validName name = true) :
    components (root ++ Text.join ['/'] parts) = parts := by
  induction root with
  | nil =>
    rw [List.nil_append, components]
    cases parts with
    | nil => rfl
    | cons first others =>
      rw [Text.split_join '/' (first :: others) (by simp) fun part inside =>
        ((valid_name_iff part).mp (valid part inside)).2.1, List.filter_eq_self]
      intro part inside
      simpa using ((valid_name_iff part).mp (valid part inside)).1
  | cons first others deeper =>
    have slash := rooted first List.mem_cons_self
    rw [slash, List.cons_append, components, Text.split, if_pos rfl, List.filter_cons_of_neg (by simp)]
    exact deeper fun character inside => rooted character (List.mem_cons_of_mem _ inside)

theorem normal_components_valid (path : Text) (absolute : isabs path = true)
    (normal : normpath path = path) : ∀ name ∈ components path, validName name = true := by
  have roots := splitroot_absolute path absolute
  have rooted : (!(splitroot path).1.isEmpty) = true := by
    cases roots with
    | inl single => rw [single]; rfl
    | inr double => rw [double]; rfl
  have slashes : ∀ character ∈ (splitroot path).1, character = '/' := by
    cases roots with
    | inl single => simp [single]
    | inr double => simp [double]
  have valid := norm_components_valid (Text.split '/' (splitroot path).2)
    (Text.split_parts_free '/' _) [] (by simp)
  have joined : (splitroot path).1 ++ Text.join ['/'] ((Text.split '/' (splitroot path).2).foldl
      (normComponent true) []) = path := by
    rw [normpath, rooted] at normal
    split_ifs at normal with empty
    · rw [← normal] at absolute
      cases absolute
    · exact normal
  rw [← joined, components_root _ _ slashes valid]
  exact valid

end EvoomGuard.Lib.Posix
