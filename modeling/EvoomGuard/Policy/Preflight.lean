import EvoomGuard.Cli.GuardCommand

/-!
The command of `policy/preflight.py`: how a configured test command becomes the argv that the
static report is about, beside the argv that the guard command passes on.
-/

namespace EvoomGuard.Policy.Preflight

open Cli.GuardCommand Lib

/-- A test command as a policy gives it: left out, one string, or a list of tokens. -/
inductive TestCommandValue where
  | absent
  | line (command : Text)
  | tokens (items : List Json)

def TestCommandValue.configured : TestCommandValue → Option Json
  | .absent => none
  | .line command => some (.string command)
  | .tokens items => some (.array items)

/-- The command of a policy that names none. -/
def defaultTestCommand (python : Text) : List Text :=
  [python, "-m", "pytest", "-q", "--color=no", "-p".toList,
    "no:cacheprovider"]

section Normalization

variable (shown : Json → Text) (python : Text)

/-- `tuple(str(token) for token in value)`: a string has its characters for items. -/
def itemTexts : TestCommandValue → List Text
  | .absent => []
  | .line command => command.map fun character => [character]
  | .tokens items => items.map fun item => item.asString?.getD (shown item)

/-- What the branch for strings returns, when it returns. -/
def normalizedLine : TestCommandValue → Option (List Text)
  | .line command =>
    if shellOperators.any (holds · command) then some ["sh", "-c", command]
    else givenCommand (some (wordsFrom [] command))
  | _ => none

def normalizeTestCommand (value : TestCommandValue) : List Text :=
  match normalizedLine value with
  | some argv => argv
  | none => (givenCommand (some (itemTexts shown value))).getD (defaultTestCommand python)

/-- The argv that the guard command passes on, where an empty one stands for the default. -/
def commandPassedOn (value : TestCommandValue) : List Text :=
  (givenCommand (testCommandOf shown value.configured)).getD (defaultTestCommand python)

end Normalization

/-- A string that is not empty and has white space only. -/
def TestCommandValue.Blank : TestCommandValue → Prop
  | .line command => command ≠ [] ∧ ∀ character ∈ command, Text.isSpace character = true
  | _ => False

theorem given_command_nil : givenCommand (some []) = none := rfl

theorem given_command_cons (token : Text) (rest : List Text) :
    givenCommand (some (token :: rest)) = some (token :: rest) := rfl

theorem words_from_nil_iff (text word : Text) :
    wordsFrom word text = [] ↔ word = [] ∧ ∀ character ∈ text, Text.isSpace character = true := by
  induction text generalizing word with
  | nil => by_cases read : word = [] <;> simp [wordsFrom, read]
  | cons character rest ih =>
    by_cases space : Text.isSpace character = true
    · by_cases read : word = []
      · simp [wordsFrom, space, read, ih]
      · simp [wordsFrom, space, read]
    · simp [wordsFrom, space, ih]

theorem mem_of_holds {needle text : Text} {character : Char} (held : holds needle text = true)
    (member : character ∈ needle) : character ∈ text := by
  obtain ⟨tail, suffix, begun⟩ := List.any_eq_true.1 held
  have inside := (List.isPrefixOf_iff_prefix.1 begun).subset member
  exact ((List.mem_tails _ _).1 suffix).subset inside

theorem operator_visible :
    ∀ operator ∈ shellOperators, ∃ character ∈ operator, Text.isSpace character = false := by
  simp [shellOperators, Text.isSpace]

theorem no_operator_of_spaces {command : Text}
    (spaces : ∀ character ∈ command, Text.isSpace character = true) :
    shellOperators.any (holds · command) = false := by
  rw [List.any_eq_false]
  intro operator listed held
  obtain ⟨character, member, visible⟩ := operator_visible operator listed
  have space := spaces character (mem_of_holds held member)
  rw [visible] at space
  cases space

theorem characters_ne_default (command : Text) (python : Text) :
    command.map (fun character => [character]) ≠ defaultTestCommand python := by
  intro same
  have member : "-m".toList ∈ command.map fun character => [character] := by
    rw [same]
    simp [defaultTestCommand]
  obtain ⟨character, -, one⟩ := List.mem_map.1 member
  cases one

theorem line_agrees_iff (shown : Json → Text) (python command : Text) :
    normalizeTestCommand shown python (.line command) =
        commandPassedOn shown python (.line command) ↔
      ¬ (TestCommandValue.line command).Blank := by
  by_cases wrapped : shellOperators.any (holds · command) = true
  · have visible : ¬ (TestCommandValue.line command).Blank := by
      rintro ⟨-, spaces⟩
      rw [no_operator_of_spaces spaces] at wrapped
      cases wrapped
    simp only [normalizeTestCommand, normalizedLine, commandPassedOn, testCommandOf,
      TestCommandValue.configured, commandOf, wrapped, if_true, given_command_cons,
      Option.getD_some, visible, not_false_eq_true]
  · cases words : wordsFrom [] command with
    | cons word others =>
      have visible : ¬ (TestCommandValue.line command).Blank := by
        rintro ⟨-, spaces⟩
        rw [(words_from_nil_iff command []).2 ⟨rfl, spaces⟩] at words
        cases words
      have left : normalizedLine (.line command) = some (word :: others) := by
        simp only [normalizedLine, wrapped, words, given_command_cons]
        rfl
      have right : testCommandOf shown (some (.string command)) = some (word :: others) := by
        simp only [testCommandOf, commandOf, wrapped, words]
        rfl
      simp only [normalizeTestCommand, left, commandPassedOn, TestCommandValue.configured, right,
        given_command_cons, Option.getD_some, visible, not_false_eq_true]
    | nil =>
      have spaces := ((words_from_nil_iff command []).1 words).2
      have left : normalizeTestCommand shown python (.line command) =
          (givenCommand (some (command.map fun character => [character]))).getD
            (defaultTestCommand python) := by
        simp only [normalizeTestCommand, normalizedLine, wrapped, words, given_command_nil,
          itemTexts]
        rfl
      have right : commandPassedOn shown python (.line command) = defaultTestCommand python := by
        simp only [commandPassedOn, testCommandOf, TestCommandValue.configured, commandOf,
          wrapped, words]
        rfl
      rw [left, right]
      cases command with
      | nil => simp [TestCommandValue.Blank, given_command_nil]
      | cons character rest =>
        have blank : (TestCommandValue.line (character :: rest)).Blank := ⟨by simp, spaces⟩
        simp only [blank, not_true_eq_false, iff_false]
        exact characters_ne_default (character :: rest) python

/-- The report is about the command that runs, unless a string of white space is configured. -/
theorem normalized_command_agrees_iff (shown : Json → Text) (python : Text)
    (value : TestCommandValue) :
    normalizeTestCommand shown python value = commandPassedOn shown python value ↔
      ¬ value.Blank := by
  cases value with
  | line command => exact line_agrees_iff shown python command
  | absent | tokens items => exact iff_of_true rfl id

/-- One space is analysed as a command of that name, while the guard runs pytest. -/
theorem blank_command_differs :
    ¬ ∀ (shown : Json → Text) (python : Text) (value : TestCommandValue),
      normalizeTestCommand shown python value = commandPassedOn shown python value := by
  intro agrees
  have same := agrees (fun _ => []) "python" (.line " ")
  revert same
  decide

end EvoomGuard.Policy.Preflight
