import EvoomGuard.Lib.Regex

/-!
The path contracts of `domain/harness.py`: which repository paths have one spelling
on every platform, and which lists of harness inputs a policy may declare. A Python
caller that passes something other than a list of strings is outside the types.
-/

namespace EvoomGuard.Domain.Harness

open Lib

def patternCharacters : List Char := ['*', '?', '[', ']', '\x7b', '\x7d']

def windowsInvalidCharacters : List Char := ['<', '>', ':', '"', '|', '?', '*']

def windowsReservedStems : List Text :=
  ["aux".toList, "clock$".toList, "con".toList, "nul".toList, "prn".toList] ++
    (["1", "2", "3", "4", "5", "6", "7", "8", "9", "¹", "²", "³"].flatMap fun number =>
      ["com".toList ++ number.toList, "lpt".toList ++ number.toList])

/-- `.*~[0-9]+(?:\..*)?`, where the dot does not match a newline. -/
def windowsShortAlias : Regex.Expr Unit :=
  Regex.chain [.many (· != '\n'), Regex.char '~', Regex.some1 Char.isDigit,
    Regex.optional (.seq (Regex.char '.') (.many (· != '\n')))]

/-- Whether Win32 can reinterpret or redirect this path segment. -/
def isWindowsAmbiguousPathSegment (mapping : CaseMapping) (segment : Text) : Bool :=
  if segment.isEmpty || Text.endsWith segment [' '] || Text.endsWith segment ['.'] ||
      segment.any (fun character => character.toNat < 32 || character.toNat == 127 ||
        windowsInvalidCharacters.contains character) ||
      Regex.fullmatch windowsShortAlias segment then true
  else
    let stem := Text.rstripWhile (fun character => character == ' ' || character == '.')
      (segment.takeWhile (· != '.'))
    windowsReservedStems.contains (mapping.casefold stem)

/-- `posixpath.isabs` or `ntpath.isabs` on a path without a backslash. -/
def isAbsolute (path : Text) : Bool :=
  Text.startsWith path ['/'] || Text.startsWith (path.drop 1) [':', '/']

def isDotSegment (part : Text) : Bool := part == [] || part == ['.'] || part == ['.', '.']

/-- Whether one exact path has the same meaning on every platform. -/
def isPortableRepoPath (mapping : CaseMapping) (path : Text) : Bool :=
  if path.isEmpty || path.contains '\\' || isAbsolute path then false
  else
    (Text.split '/' path).all fun part =>
      !isDotSegment part && !isWindowsAmbiguousPathSegment mapping part

inductive HarnessInputPolicyError where
  | notPortable
  | notNormalized
  | duplicatePaths
  | caseCollidingPaths
  deriving DecidableEq, Repr

def HarnessInputPolicyError.message : HarnessInputPolicyError → String
  | .notPortable =>
    "harness_inputs must contain exact non-empty repository-relative " ++
      "portable forward-slash paths, not globs, device names, aliases, " ++
      "or platform-ambiguous spellings"
  | .notNormalized =>
    "harness_inputs must be normalized and cannot contain '.', '..', " ++
      "or empty path segments"
  | .duplicatePaths => "harness_inputs cannot contain duplicate paths"
  | .caseCollidingPaths => "harness_inputs cannot contain case-colliding paths"

/-- The checks made on one declared value. -/
def checkHarnessInput (mapping : CaseMapping) (value : Text) :
    Except HarnessInputPolicyError Unit :=
  if !isPortableRepoPath mapping value || value.any patternCharacters.contains then
    .error .notPortable
  else if (Text.split '/' value).any isDotSegment then .error .notNormalized
  else .ok ()

def checkHarnessInputs (mapping : CaseMapping) : List Text → Except HarnessInputPolicyError Unit
  | [] => .ok ()
  | value :: rest =>
    match checkHarnessInput mapping value with
    | .error problem => .error problem
    | .ok () => checkHarnessInputs mapping rest

/-- Validates canonical repository-relative harness files and sorts them. -/
def normalizeHarnessInputs (mapping : CaseMapping) (values : List Text) :
    Except HarnessInputPolicyError (List Text) :=
  match checkHarnessInputs mapping values with
  | .error problem => .error problem
  | .ok () =>
    if values.dedup.length ≠ values.length then .error .duplicatePaths
    else if (values.map mapping.casefold).dedup.length ≠ values.length then
      .error .caseCollidingPaths
    else .ok (Text.sorted values)

/-- Whether a candidate path is a declared input or an ancestor of one. -/
def conflictsWith (mapping : CaseMapping) (path root : Text) : Bool :=
  let candidate := mapping.casefold path
  candidate == mapping.casefold root ||
    Text.startsWith (mapping.casefold root) (candidate ++ ['/'])

def harnessInputPathConflicts (mapping : CaseMapping) (path : Text) (roots : List Text) :
    Except HarnessInputPolicyError Bool :=
  match normalizeHarnessInputs mapping roots with
  | .error problem => .error problem
  | .ok normalized => .ok (normalized.any (conflictsWith mapping path))

variable (mapping : CaseMapping)

theorem check_harness_inputs_ok (values : List Text) :
    checkHarnessInputs mapping values = .ok () ↔
      ∀ value ∈ values, checkHarnessInput mapping value = .ok () := by
  induction values with
  | nil => simp [checkHarnessInputs]
  | cons value rest ih =>
    simp only [checkHarnessInputs, List.forall_mem_cons]
    cases checkHarnessInput mapping value with
    | error problem => simp
    | ok _ => simpa using ih

/-- What an accepted declaration satisfies: every value passes its own check, and no two
values are equal or differ in case only. -/
theorem normalize_harness_inputs_ok (values normalized : List Text) :
    normalizeHarnessInputs mapping values = .ok normalized ↔
      (∀ value ∈ values, checkHarnessInput mapping value = .ok ()) ∧ values.Nodup ∧
        (values.map mapping.casefold).Nodup ∧ normalized = Text.sorted values := by
  have lengths := @length_dedup_iff Text _
  have folded : (values.map mapping.casefold).dedup.length = values.length ↔
      (values.map mapping.casefold).Nodup := by
    rw [← length_dedup_iff, List.length_map]
  rw [← check_harness_inputs_ok]
  unfold normalizeHarnessInputs
  cases checked : checkHarnessInputs mapping values with
  | error problem => simp
  | ok _ =>
    by_cases distinct : values.Nodup
    · by_cases separate : (values.map mapping.casefold).Nodup
      · simp [lengths, folded, distinct, separate, eq_comm]
      · simp [lengths, folded, distinct, separate]
    · simp [lengths, distinct]

theorem mem_normalized_inputs (values normalized : List Text)
    (accepted : normalizeHarnessInputs mapping values = .ok normalized) (value : Text) :
    value ∈ normalized ↔ value ∈ values := by
  obtain ⟨-, -, -, rfl⟩ := (normalize_harness_inputs_ok mapping values normalized).mp accepted
  exact Text.mem_sorted

theorem normalize_harness_inputs_again (values normalized : List Text)
    (accepted : normalizeHarnessInputs mapping values = .ok normalized) :
    ∃ again, normalizeHarnessInputs mapping normalized = .ok again ∧
      ∀ value, value ∈ again ↔ value ∈ values := by
  obtain ⟨checked, distinct, separate, rfl⟩ :=
    (normalize_harness_inputs_ok mapping values normalized).mp accepted
  have order := Text.sorted_perm values
  refine ⟨Text.sorted (Text.sorted values), ?_, fun value => ?_⟩
  · refine (normalize_harness_inputs_ok mapping _ _).mpr ⟨?_, ?_, ?_, rfl⟩
    · exact fun value inside => checked value (Text.mem_sorted.mp inside)
    · exact order.nodup_iff.mpr distinct
    · exact (order.map mapping.casefold).nodup_iff.mpr separate
  · rw [Text.mem_sorted, Text.mem_sorted]

end EvoomGuard.Domain.Harness
