import EvoomGuard.Lib.Text
import EvoomGuard.Lib.Tokens

/-!
How a shell reads a script down to the control operators between its commands: quotes, backslashes,
backquotes, substitutions, groups in parentheses, comments and redirections. Whatever stands in
parameter expansions, here-documents and compound commands is read like any other text.
-/

namespace EvoomGuard.Lib.Shell

inductive Nesting where
  | single
  | double
  | backquotes
  /-- `$(`, `<(` or `>(` -/
  | substitution
  | group
  deriving DecidableEq

structure Reading where
  /-- The innermost comes first. -/
  nesting : List Nesting
  escaped : Bool
  comment : Bool
  /-- A `#` would start a comment. -/
  fresh : Bool
  /-- A `$`, `<` or `>` that has a meaning for the character behind it. -/
  opener : Option Char
  deriving DecidableEq

namespace Reading

def start : Reading := ⟨[], false, false, true, none⟩

def isOpener (character : Char) : Bool := character = '$' || character = '<' || character = '>'

/-- The blanks and operators of a shell, between which words stand. -/
def isMeta (character : Char) : Bool := " \t\n|&;<>()".toList.contains character

def enter (reading : Reading) (inner : Nesting) (fresh : Bool) : Reading :=
  ⟨inner :: reading.nesting, false, false, fresh, none⟩

def leave (reading : Reading) (fresh : Bool) : Reading :=
  ⟨reading.nesting.tail, false, false, fresh, none⟩

def goOn (reading : Reading) (fresh : Bool) (opener : Option Char) : Reading :=
  ⟨reading.nesting, false, false, fresh, opener⟩

def escape (reading : Reading) : Reading := { reading with escaped := true, opener := none }

/-- In single quotes and in backquotes only the end is looked for, in backquotes behind an even
number of backslashes. -/
def readLiteral (reading : Reading) (mark character : Char) : Reading :=
  if character = mark then reading.leave false else reading.goOn false none

/-- In double quotes there are substitutions of both kinds. -/
def readDouble (reading : Reading) (character : Char) : Reading :=
  if character = '"' then reading.leave false
  else if character = '`' then reading.enter .backquotes false
  else if character = '(' ∧ reading.opener.isSome then reading.enter .substitution true
  else reading.goOn false (if character = '$' then some character else none)

def readCommand (reading : Reading) (character : Char) : Reading :=
  if character = '\'' then reading.enter .single false
  else if character = '"' then reading.enter .double false
  else if character = '`' then reading.enter .backquotes false
  else if character = '(' then
    reading.enter (if reading.opener.isSome then .substitution else .group) true
  else if character = ')' then reading.leave (reading.nesting.head? ≠ some .substitution)
  else if character = '#' ∧ reading.fresh then ⟨reading.nesting, false, true, false, none⟩
  else reading.goOn (isMeta character) (if isOpener character then some character else none)

def read (reading : Reading) (character : Char) : Reading :=
  if reading.comment then
    { reading.goOn (character = '\n') none with comment := character ≠ '\n' }
  else if reading.escaped then
    -- Behind a backslash the end of a line is nothing at all.
    reading.goOn (reading.fresh && character = '\n') none
  else if reading.nesting.head? = some .single then reading.readLiteral '\'' character
  else if character = '\\' then reading.escape
  else if reading.nesting.head? = some .backquotes then reading.readLiteral '`' character
  else if reading.nesting.head? = some .double then reading.readDouble character
  else reading.readCommand character

end Reading

def isPair (ahead : Text) : Bool :=
  Text.startsWith ahead "&&" || Text.startsWith ahead "||" ||
    Text.startsWith ahead "|&"

/-- The length of the control operator in front. A `&` or `|` of a redirection is none, unless it
belongs to a longer operator. -/
def operatorWidth (opener : Option Char) (ahead : Text) : Nat :=
  if isPair ahead then 2
  else
    match ahead with
    | [] => 0
    | character :: rest =>
      if character = '|' then if opener = some '>' then 0 else 1
      else if character = '&' then
        if opener = some '<' ∨ opener = some '>' ∨ rest.head? = some '>' then 0 else 1
      else if character = ';' ∨ character = '\n' then 1
      else 0

/-- Control operators between commands stand outside everything; the end of the line ends a comment
and is one. -/
def commandWidth (reading : Reading) (ahead : Text) : Nat :=
  if reading.nesting ≠ [] ∨ reading.escaped then 0
  else if reading.comment then if ahead.head? = some '\n' then 1 else 0
  else operatorWidth reading.opener ahead

/-- The reader of the control operators that part a script into its commands. -/
def commands : Reader Reading Char := ⟨.start, .read, commandWidth⟩

def controlOperators (script : Text) : List (Nat × Nat) := commands.tokens script

def lastOperator (script : Text) : Option (Nat × Nat) := (controlOperators script).getLast?

/-- The place behind the text is in a comment. -/
def InComment (before : Text) : Prop := (commands.after before).comment = true

instance (before : Text) : Decidable (InComment before) :=
  inferInstanceAs (Decidable (_ = true))

theorem starts_with_pair {ahead : Text} {first second : Char}
    (starts : Text.startsWith ahead [first, second] = true) :
    ∃ later, ahead = first :: second :: later := by
  obtain ⟨later, whole⟩ := List.isPrefixOf_iff_prefix.1 starts
  exact ⟨later, whole.symm⟩

theorem pair_ahead {ahead : Text} (pair : isPair ahead = true) :
    ∃ first second later, ahead = first :: second :: later ∧ (first = '&' ∨ first = '|') ∧
      (second = '&' ∨ second = '|') := by
  rw [isPair, Bool.or_eq_true, Bool.or_eq_true] at pair
  obtain (starts | starts) | starts := pair
  all_goals
    obtain ⟨later, rfl⟩ := starts_with_pair starts
    exact ⟨_, _, later, rfl, by decide, by decide⟩

theorem operator_width_pair (opener : Option Char) {ahead : Text} (pair : isPair ahead = true) :
    operatorWidth opener ahead = 2 := if_pos pair

theorem operator_width_eq {opener : Option Char} {ahead : Text}
    (found : operatorWidth opener ahead ≠ 0) :
    operatorWidth opener ahead = if isPair ahead then 2 else 1 := by
  unfold operatorWidth at found ⊢
  by_cases pair : isPair ahead = true
  · rw [if_pos pair, if_pos pair]
  · rw [if_neg pair] at found
    rw [if_neg pair, if_neg pair]
    cases ahead with
    | nil => exact absurd rfl found
    | cons character rest =>
      dsimp only at found ⊢
      split_ifs at found ⊢
      all_goals first | rfl | exact absurd rfl found

variable {reading : Reading} {ahead : Text}

theorem command_width_eq (found : commandWidth reading ahead ≠ 0) :
    commandWidth reading ahead = if isPair ahead then 2 else 1 := by
  unfold commandWidth at found ⊢
  by_cases held : reading.nesting ≠ [] ∨ reading.escaped = true
  · exact absurd (if_pos held) found
  rw [if_neg held] at found ⊢
  by_cases commented : reading.comment = true
  · rw [if_pos commented] at found ⊢
    by_cases line : ahead.head? = some '\n'
    · obtain ⟨rest, rfl⟩ := List.head?_eq_some_iff.1 line
      rfl
    · exact absurd (if_neg line) found
  · rw [if_neg commented] at found ⊢
    exact operator_width_eq found

theorem commands_ends : commands.Ends := by
  intro reading
  change commandWidth reading [] = 0
  unfold commandWidth
  split_ifs with held commented line
  · rfl
  · cases line
  · rfl
  · rfl

theorem command_width_le (found : commandWidth reading ahead ≠ 0) :
    commandWidth reading ahead ≤ ahead.length := by
  rw [command_width_eq found]
  by_cases pair : isPair ahead = true
  · obtain ⟨first, second, later, rfl, -⟩ := pair_ahead pair
    rw [if_pos pair, List.length_cons, List.length_cons]
    omega
  · rw [if_neg pair]
    cases ahead with
    | nil => exact absurd (commands_ends reading) found
    | cons character rest => exact Nat.succ_le_succ (Nat.zero_le _)

theorem outside_of_command_width (found : commandWidth reading ahead ≠ 0) :
    reading.nesting = [] ∧ reading.escaped = false ∧
      (reading.comment = true → ahead.head? = some '\n') := by
  unfold commandWidth at found
  split_ifs at found with held commented line
  · exact absurd rfl found
  · rw [not_or, not_not, Bool.not_eq_true] at held
    exact ⟨held.1, held.2, fun _ => line⟩
  · exact absurd rfl found
  · rw [not_or, not_not, Bool.not_eq_true] at held
    exact ⟨held.1, held.2, fun comment => absurd comment commented⟩

theorem operator_inside {script : Text} {start width : Nat}
    (member : (start, width) ∈ controlOperators script) : start + width ≤ script.length := by
  obtain ⟨inside, -, length, some⟩ := Reader.mem_tokens_iff.1 member
  have found : commandWidth (commands.after (script.take start)) (script.drop start) ≠ 0 :=
    fun zero => some (length.symm.trans zero)
  have short := command_width_le found
  rw [show commandWidth _ _ = width from length, List.length_drop] at short
  omega

namespace Reading

/-- Outside everything. -/
def Clear (reading : Reading) : Prop :=
  reading.nesting = [] ∧ reading.comment = false ∧ reading.escaped = false

variable {reading : Reading}

theorem read_clear (clear : reading.Clear) (character : Char) :
    reading.read character =
      if character = '\\' then reading.escape else reading.readCommand character := by
  obtain ⟨outside, uncommented, unescaped⟩ := clear
  simp [read, outside, uncommented, unescaped]

/-- In the text of commands no character but quotes, parentheses, a backslash and `#` matters to
what comes later. -/
theorem clear_read (clear : reading.Clear) {character : Char}
    (plain : character ∉ "\\'\"`()#".toList) : (reading.read character).Clear := by
  simp only [String.reduceToList, List.mem_cons, List.not_mem_nil, or_false, not_or] at plain
  obtain ⟨backslash, single, double, backquote, opens, closes, hash⟩ := plain
  rw [read_clear clear, if_neg backslash, readCommand, if_neg single, if_neg double,
    if_neg backquote, if_neg opens, if_neg closes, if_neg fun both => hash both.1]
  exact ⟨clear.1, rfl, rfl⟩

theorem read_nesting (reading : Reading) {character : Char}
    (plain : character ∉ "'\"`()#\n".toList) :
    (reading.read character).nesting = reading.nesting ∧
      (reading.read character).comment = reading.comment := by
  simp only [String.reduceToList, List.mem_cons, List.not_mem_nil, or_false, not_or] at plain
  obtain ⟨single, double, backquote, opens, closes, hash, line⟩ := plain
  unfold read
  by_cases commented : reading.comment = true
  · rw [if_pos commented, commented]
    exact ⟨rfl, decide_eq_true line⟩
  rw [if_neg commented, eq_false_of_ne_true commented]
  split_ifs with escaped quoted backslash literal double'
  · exact ⟨rfl, rfl⟩
  · rw [readLiteral, if_neg single]
    exact ⟨rfl, rfl⟩
  · exact ⟨rfl, eq_false_of_ne_true commented⟩
  · rw [readLiteral, if_neg backquote]
    exact ⟨rfl, rfl⟩
  · rw [readDouble, if_neg double, if_neg backquote, if_neg fun both => opens both.1]
    exact ⟨rfl, rfl⟩
  · rw [readCommand, if_neg single, if_neg double, if_neg backquote, if_neg opens, if_neg closes,
      if_neg fun both => hash both.1]
    exact ⟨rfl, rfl⟩

theorem backslash_of_escaped_read {character : Char}
    (held : (reading.read character).escaped = true) : character = '\\' := by
  by_contra other
  unfold read at held
  rw [if_neg other] at held
  split_ifs at held with commented escaped quoted literal double
  · cases held
  · cases held
  · unfold readLiteral at held
    split at held <;> cases held
  · unfold readLiteral at held
    split at held <;> cases held
  · unfold readDouble at held
    split_ifs at held <;> cases held
  · unfold readCommand at held
    split_ifs at held <;> cases held

theorem escaped_read_iff (outside : reading.nesting = [])
    (uncommented : reading.comment = false) (character : Char) :
    (reading.read character).escaped = true ↔ character = '\\' ∧ reading.escaped = false := by
  by_cases escaped : reading.escaped = true
  · simp [read, uncommented, escaped, goOn]
  have unescaped := eq_false_of_ne_true escaped
  refine ⟨fun held => ⟨backslash_of_escaped_read held, unescaped⟩, fun both => ?_⟩
  rw [read_clear ⟨outside, uncommented, unescaped⟩, if_pos both.1]
  rfl

end Reading

theorem operator_letter {opener : Option Char} {character : Char} {rest : Text}
    (found : operatorWidth opener (character :: rest) ≠ 0) : character ∈ "&|;\n".toList := by
  by_contra plain
  simp only [String.reduceToList, List.mem_cons, List.not_mem_nil, or_false, not_or] at plain
  obtain ⟨ampersand, bar, semicolon, line⟩ := plain
  have single : ¬isPair (character :: rest) = true := by
    intro pair
    obtain ⟨first, second, later, ahead, kind, -⟩ := pair_ahead pair
    rw [← (List.cons.inj ahead).1] at kind
    exact kind.elim ampersand bar
  simp [operatorWidth, single, ampersand, bar, semicolon, line] at found

section

variable {reading : Reading} {character : Char} {rest : Text}
  (found : commandWidth reading (character :: rest) ≠ 0)
include found

theorem command_letter : character ∈ "&|;\n".toList := by
  unfold commandWidth at found
  split_ifs at found with held commented line
  · exact absurd rfl found
  · rw [Option.some.inj line]
    decide
  · exact absurd rfl found
  · exact operator_letter found

theorem clear_read_operator : (reading.read character).Clear := by
  obtain ⟨outside, unescaped, line⟩ := outside_of_command_width found
  cases commented : reading.comment with
  | true =>
    obtain rfl := Option.some.inj (line commented)
    rw [Reading.read, if_pos commented]
    exact ⟨outside, rfl, rfl⟩
  | false =>
    apply Reading.clear_read ⟨outside, commented, unescaped⟩
    have listed := command_letter found
    simp only [String.reduceToList, List.mem_cons, List.not_mem_nil, or_false] at listed
    obtain rfl | rfl | rfl | rfl := listed <;> decide

end

theorem clear_behind {reading : Reading} {ahead : Text} (found : commandWidth reading ahead ≠ 0) :
    ((ahead.take (commandWidth reading ahead)).foldl Reading.read reading).Clear := by
  rw [command_width_eq found]
  by_cases pair : isPair ahead = true
  · obtain ⟨first, second, later, rfl, -, kind⟩ := pair_ahead pair
    rw [if_pos pair]
    apply Reading.clear_read (clear_read_operator found)
    obtain rfl | rfl := kind <;> decide
  · rw [if_neg pair]
    cases ahead with
    | nil => exact absurd (commands_ends reading) found
    | cons character rest => exact clear_read_operator found

end EvoomGuard.Lib.Shell
