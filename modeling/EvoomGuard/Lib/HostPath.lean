import EvoomGuard.Lib.NtPath
import EvoomGuard.Lib.PosixPath
import EvoomGuard.Lib.Segments

/-!
`os.path` of the platform a program runs on, as far as names and directories of path texts go, and
the texts that both platforms read alike.
-/

namespace EvoomGuard.Lib

namespace Posix

def dirname (path : Text) : Text :=
  let head := path.take (path.length - (Text.lastSegment path).length)
  if head.all (· == '/') then head else Text.rstripWhile (· == '/') head

/-- `posixpath.join` of two paths. -/
def join (base next : Text) : Text :=
  if isabs next then next
  else if base = [] ∨ Text.endsWith base ['/'] = true then base ++ next
  else base ++ '/' :: next

end Posix

namespace NtPath

def dirname (path : Text) : Text :=
  let parts := splitroot path
  let head := parts.path.take (parts.path.length - (lastComponent parts.path).length)
  parts.drive ++ parts.root ++ Text.rstripWhile isSeparator head

end NtPath

inductive Platform where
  | posix
  | nt
  deriving DecidableEq

namespace Platform

def basename : Platform → Text → Text
  | .posix => Text.lastSegment
  | .nt => NtPath.basename

def dirname : Platform → Text → Text
  | .posix => Posix.dirname
  | .nt => NtPath.dirname

/-- `os.path.join`; drives are compared in lower case. -/
def join (lower : Text → Text) : Platform → Text → Text → Text
  | .posix => Posix.join
  | .nt => NtPath.join lower

def devnull : Platform → Text
  | .posix => "/dev/null"
  | .nt => "nul"

end Platform

/-- Forward slashes only, no drive, no network share and no slash at the end. -/
structure Portable (path : Text) : Prop where
  forward : '\\' ∉ path
  driveless : ':' ∉ path
  here : Text.startsWith path "//" = false
  named : path.getLast? ≠ some '/'

namespace Text

theorem last_segment_free {name : Text} (free : '/' ∉ name) : lastSegment name = name := by
  rw [lastSegment, split_name '/' name free]
  rfl

theorem last_segment_append (front : Text) {name : Text} (free : '/' ∉ name) :
    lastSegment (front ++ '/' :: name) = name := by
  have parted : split '/' (front ++ '/' :: name) = split '/' front ++ [name] := by
    have whole : join ['/'] (split '/' front ++ [name]) = front ++ '/' :: name := by
      rw [join_append _ _ _ (split_ne_nil '/' front) (by simp), join_split, join,
        List.append_assoc, List.singleton_append]
    rw [← whole]
    apply split_join '/' _ (by simp)
    intro part member
    cases List.mem_append.1 member with
    | inl early => exact split_parts_free '/' front part early
    | inr late => exact List.mem_singleton.1 late ▸ free
  rw [lastSegment, parted, List.getLastD_concat]

theorem last_slash (path : Text) :
    '/' ∉ path ∨ ∃ front name, path = front ++ '/' :: name ∧ '/' ∉ name := by
  by_cases slashed : '/' ∈ path.reverse
  · obtain ⟨name, front, turned, free⟩ := List.eq_append_cons_of_mem slashed
    refine .inr ⟨front.reverse, name.reverse, ?_, fun member => free (List.mem_reverse.1 member)⟩
    rw [← path.reverse_reverse, turned, List.reverse_append, List.reverse_cons, List.append_assoc,
      List.singleton_append]
  · exact .inl fun member => slashed (List.mem_reverse.2 member)

theorem last_segment_suffix (path : Text) : lastSegment path <:+ path := by
  obtain free | ⟨front, name, rfl, free⟩ := last_slash path
  · exact ⟨[], last_segment_free free⟩
  · rw [last_segment_append front free]
    exact ⟨front ++ ['/'], List.append_assoc _ _ _⟩

end Text

namespace NtPath

theorem plain_of_free {name : Text} (forward : '\\' ∉ name) (free : '/' ∉ name) : Plain name := by
  intro character member
  have backslash : character ≠ '\\' := fun same => forward (same ▸ member)
  have slash : character ≠ '/' := fun same => free (same ▸ member)
  simp [isSeparator, backslash, slash]

theorem name_extension_suffix (name : Text) : nameExtension name <:+ name := by
  by_cases dotted : '.' ∈ name.reverse
  · obtain ⟨suffix, front, turned, dotless⟩ := List.eq_append_cons_of_mem dotted
    have whole : name = front.reverse ++ '.' :: suffix.reverse := by
      rw [← name.reverse_reverse, turned, List.reverse_append, List.reverse_cons,
        List.append_assoc, List.singleton_append]
    have free : '.' ∉ suffix.reverse := fun member => dotless (List.mem_reverse.1 member)
    by_cases dots : OnlyDots front.reverse
    · rw [whole, name_extension_dots_append dots free]
      exact List.nil_suffix
    · rw [whole, name_extension_append dots free]
      exact ⟨front.reverse, rfl⟩
  · have none : '.' ∉ name.dropWhile (· == '.') := fun member =>
      dotted (List.mem_reverse.2 ((List.dropWhile_sublist _).subset member))
    rw [nameExtension, if_neg none]
    exact List.nil_suffix

theorem last_component_suffix (path : Text) : lastComponent path <:+ path := by
  obtain ⟨rest, parted⟩ := List.takeWhile_prefix (!isSeparator ·) (l := path.reverse)
  refine ⟨rest.reverse, ?_⟩
  rw [lastComponent, ← List.reverse_append, parted, List.reverse_reverse]

theorem splitext_append (path : Text) : (splitext path).1 ++ (splitext path).2 = path := by
  obtain ⟨front, whole⟩ := (name_extension_suffix _).trans (last_component_suffix path)
  have length := congrArg List.length whole
  rw [List.length_append] at length
  have taken : path.take (path.length - (extension path).length) = front := by
    rw [extension, ← length, Nat.add_sub_cancel]
    exact whole ▸ List.take_left
  rw [splitext, taken]
  exact whole

theorem last_component_forward {path : Text} (forward : '\\' ∉ path) :
    lastComponent path = Text.lastSegment path := by
  obtain free | ⟨front, name, rfl, free⟩ := Text.last_slash path
  · rw [last_component_plain (plain_of_free forward free), Text.last_segment_free free]
  · have own : '\\' ∉ name := fun member =>
      forward (List.mem_append_right _ (List.mem_cons_of_mem _ member))
    rw [last_component_append (plain_of_free own free) front '/' rfl,
      Text.last_segment_append front free]

end NtPath

namespace Portable

open NtPath

theorem basename_nt {path : Text} (portable : Portable path) :
    NtPath.basename path = Text.lastSegment path := by
  match path, portable with
  | [], _ => rfl
  | [only], portable =>
    have other : isSeparator only = false := by
      apply plain_of_free portable.forward _ only List.mem_cons_self
      intro member
      exact portable.named (List.mem_singleton.1 member ▸ rfl)
    rw [NtPath.basename, splitroot, other]
    exact last_component_forward portable.forward
  | first :: second :: rest, portable =>
    have later : '\\' ∉ second :: rest := fun member =>
      portable.forward (List.mem_cons_of_mem _ member)
    have colon : second ≠ ':' := by
      rintro rfl
      exact portable.driveless (List.mem_cons_of_mem _ List.mem_cons_self)
    by_cases rooted : first = '/'
    · subst rooted
      have single : isSeparator second = false := by
        have backslash : second ≠ '\\' := by
          rintro rfl
          exact later List.mem_cons_self
        have slash : second ≠ '/' := by
          rintro rfl
          cases portable.here
        simp [isSeparator, backslash, slash]
      have shown : NtPath.basename ('/' :: second :: rest) = lastComponent (second :: rest) := by
        unfold NtPath.basename splitroot
        simp only [single]
        rfl
      have parted :
          Text.split '/' ('/' :: second :: rest) = [] :: Text.split '/' (second :: rest) :=
        if_pos rfl
      rw [shown, last_component_forward later, Text.lastSegment, Text.lastSegment, parted]
      cases parts : Text.split '/' (second :: rest) with
      | nil => exact absurd parts (Text.split_ne_nil '/' _)
      | cons part others => rfl
    · have own : isSeparator first = false := by
        have backslash : first ≠ '\\' := by
          rintro rfl
          exact portable.forward List.mem_cons_self
        simp [isSeparator, backslash, rooted]
      have shown : NtPath.basename (first :: second :: rest) =
          lastComponent (first :: second :: rest) := by
        simp [NtPath.basename, splitroot, own, colon]
      rw [shown, last_component_forward portable.forward]

theorem basename_eq {path : Text} (portable : Portable path) (platform : Platform) :
    platform.basename path = NtPath.basename path := by
  cases platform with
  | posix => exact (basename_nt portable).symm
  | nt => rfl

theorem stripped {path : Text} (portable : Portable path) :
    Text.rstripWhile isSeparator path = path := by
  apply Text.rstrip_kept
  intro character last
  have member := List.mem_of_getLast? last
  have backslash : character ≠ '\\' := fun same => portable.forward (same ▸ member)
  have slash : character ≠ '/' := fun same => portable.named (same ▸ last)
  simp [isSeparator, backslash, slash]

end Portable

end EvoomGuard.Lib
