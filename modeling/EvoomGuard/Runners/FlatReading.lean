import EvoomGuard.Lib.ShellReading
import EvoomGuard.Runners.Shell

/-!
A script read without nesting, and the splitter of the shell adapter as its reader.
-/

namespace EvoomGuard.Runners.Shell

open Lib

/-- A quotation goes to the next quote of its kind, parentheses count from a substitution on, and
there are no groups and no comments. -/
structure FlatReading where
  quote : Option Char
  escaped : Bool
  depth : Nat
  /-- A `$`, `<` or `>`, read last, with which a parenthesis opens a substitution. -/
  opener : Option Char
  previous : Option Char

namespace FlatReading

def start : FlatReading := ⟨none, false, 0, none, none⟩

def depthBehind (reading : FlatReading) (character : Char) : Nat :=
  if character = '(' ∧ (reading.opener.isSome ∨ reading.depth ≠ 0) then reading.depth + 1
  else if character = ')' then reading.depth - 1
  else reading.depth

def read (reading : FlatReading) (character : Char) : FlatReading :=
  if reading.escaped then ⟨reading.quote, false, reading.depth, none, some character⟩
  else if character = '\\' ∧ reading.quote ≠ some '\'' then
    ⟨reading.quote, true, reading.depth, none, some character⟩
  else if reading.quote.isSome then
    ⟨if some character = reading.quote then none else reading.quote, false, reading.depth, none,
      some character⟩
  else if Scanning.isQuote character then
    ⟨some character, false, reading.depth, none, some character⟩
  else
    ⟨none, false, reading.depthBehind character,
      if Lib.Shell.Reading.isOpener character then some character else none, some character⟩

/-- Neither quoted nor escaped nor inside a substitution. -/
def Bare (reading : FlatReading) : Prop :=
  reading.quote = none ∧ reading.escaped = false ∧ reading.depth = 0

instance (reading : FlatReading) : Decidable reading.Bare :=
  inferInstanceAs (Decidable (_ ∧ _ ∧ _))

/-- The length of the operator in front, where a `#` in front of a word is one, and a `&` at the
beginning, behind a `<` or `>` or before a `>` is none. -/
def markWidth (previous : Option Char) (ahead : Text) : Nat :=
  if Lib.Shell.isPair ahead then 2
  else
    match ahead with
    | [] => 0
    | character :: rest =>
      if character = '|' ∨ character = ';' ∨ character = '\n' then 1
      else if character = '&' then
        if previous.all (fun before => before = '<' || before = '>') ∨ rest.head? = some '>' then 0 else 1
      else if character = '#' ∧ previous.all Text.isSpace then 1
      else 0

def width (reading : FlatReading) (ahead : Text) : Nat :=
  if reading.Bare then markWidth reading.previous ahead else 0

end FlatReading

def flat : Reader FlatReading Char := ⟨.start, FlatReading.read, FlatReading.width⟩

/-- At the position an operator or a `#` in front of a word shows in the flat reading. -/
def Shows (script : Text) (position : Nat) : Prop := flat.widthAt script position ≠ 0

theorem flat_width_eq {reading : FlatReading} {ahead : Text} (found : reading.width ahead ≠ 0) :
    reading.width ahead = if Lib.Shell.isPair ahead then 2 else 1 := by
  unfold FlatReading.width at found ⊢
  by_cases bare : reading.Bare
  · rw [if_pos bare] at found ⊢
    unfold FlatReading.markWidth at found ⊢
    by_cases pair : Lib.Shell.isPair ahead = true
    · rw [if_pos pair, if_pos pair]
    · rw [if_neg pair] at found
      rw [if_neg pair, if_neg pair]
      cases ahead with
      | nil => exact absurd rfl found
      | cons character rest =>
        dsimp only at found ⊢
        split_ifs at found ⊢
        all_goals first | rfl | exact absurd rfl found
  · exact absurd (if_neg bare) found

theorem flat_ends : flat.Ends := by
  intro reading
  change FlatReading.width reading [] = 0
  rw [FlatReading.width]
  split
  · rfl
  · rfl

section

variable (scanning : Scanning) (opener previous : Option Char)

/-- The flat reading at the beginning of a turn. -/
def reading : FlatReading :=
  ⟨scanning.quote, scanning.escaped, scanning.commandSubstitutionDepth, opener, previous⟩

/-- What a turn passes: one character, or two that open a substitution or are an operator. -/
inductive Passed (char : Char) (rest : Text) : Scanning × Nat × Bool → Prop where
  | one {next : Scanning} {operator : Bool} {behind : Option Char}
      (read : (reading scanning opener previous).read char = reading next behind (some char))
      (width : (reading scanning opener previous).width (char :: rest) = operator.toNat)
      (apart : behind.isSome → rest.head? ≠ some '(') : Passed char rest (next, 1, operator)
  | opens {next : Scanning} {later : Text} (ahead : rest = '(' :: later)
      (read : ((reading scanning opener previous).read char).read '(' =
        reading next none (some '('))
      (width : (reading scanning opener previous).width (char :: rest) = 0)
      (inside : ((reading scanning opener previous).read char).width rest = 0) :
      Passed char rest (next, 2, false)
  | operator {second : Char} {later : Text} (ahead : rest = second :: later)
      (read : ((reading scanning opener previous).read char).read second =
        reading scanning none (some second))
      (width : (reading scanning opener previous).width (char :: rest) = 2) :
      Passed char rest (scanning, 2, true)

end

theorem passed_closed {scanning next : Scanning} {opener previous : Option Char} {char : Char}
    {rest : Text} {operator : Bool}
    (read : (reading scanning opener previous).read char = reading next none (some char))
    (width : (reading scanning opener previous).width (char :: rest) = operator.toNat) :
    Passed scanning opener previous char rest (next, 1, operator) :=
  .one read width fun some => absurd some (by decide)

theorem mark_width_pair (previous : Option Char) {ahead : Text}
    (pair : Lib.Shell.isPair ahead = true) : FlatReading.markWidth previous ahead = 2 := if_pos pair

theorem mark_width_plain (previous : Option Char) {char : Char} (rest : Text)
    (plain : char ∉ ['|', '&', ';', '\n', '#']) :
    FlatReading.markWidth previous (char :: rest) = 0 := by
  simp only [List.mem_cons, List.not_mem_nil, or_false, not_or] at plain
  obtain ⟨bar, ampersand, semicolon, line, hash⟩ := plain
  have single : Lib.Shell.isPair (char :: rest) = false := by
    refine eq_false_of_ne_true fun pair => ?_
    obtain ⟨first, second, later, whole, kind, -⟩ := Lib.Shell.pair_ahead pair
    rw [← (List.cons.inj whole).1] at kind
    exact kind.elim ampersand bar
  simp [FlatReading.markWidth, single, bar, ampersand, semicolon, line, hash]

theorem width_plain (reading : FlatReading) {char : Char} (rest : Text)
    (plain : char ∉ ['|', '&', ';', '\n', '#']) : reading.width (char :: rest) = 0 := by
  rw [FlatReading.width, mark_width_plain _ _ plain, ite_self]

theorem width_unbare {reading : FlatReading} (ahead : Text) (held : ¬reading.Bare) :
    reading.width ahead = 0 := if_neg held

theorem opener_apart {char : Char} {rest : Text} {behind : Option Char}
    (shut : Scanning.startsWithAny (char :: rest) ["$(", "<(", ">("] = false)
    (opened : behind = if Lib.Shell.Reading.isOpener char then some char else none) :
    behind.isSome → rest.head? ≠ some '(' := by
  intro some ahead
  obtain ⟨later, rfl⟩ := List.head?_eq_some_iff.1 ahead
  rw [opened] at some
  split at some
  · next opener =>
      simp only [Lib.Shell.Reading.isOpener, Bool.or_eq_true, decide_eq_true_eq] at opener
      rcases opener with (rfl | rfl) | rfl <;> simp [Scanning.startsWithAny, Text.startsWith] at shut
  · cases some

theorem substitution_ahead {char : Char} {rest : Text}
    (opens : Scanning.startsWithAny (char :: rest) ["$(", "<(", ">("] = true) :
    Lib.Shell.Reading.isOpener char = true ∧ ∃ later, rest = '(' :: later := by
  simp only [Scanning.startsWithAny, List.any_cons, List.any_nil, Bool.or_false,
    Bool.or_eq_true] at opens
  obtain starts | starts | starts := opens
  all_goals
    obtain ⟨later, whole⟩ := Lib.Shell.starts_with_pair starts
    obtain ⟨rfl, rfl⟩ := List.cons.inj whole
    exact ⟨rfl, later, rfl⟩

variable (opener previous : Option Char)

theorem read_unquoted (depth : Nat) {char : Char}
    (plain : char ≠ '\\') (unquoted : Scanning.isQuote char = false) :
    (FlatReading.mk none false depth opener previous).read char =
      ⟨none, false, (FlatReading.mk none false depth opener previous).depthBehind char,
        if Lib.Shell.Reading.isOpener char then some char else none, some char⟩ := by
  simp [FlatReading.read, plain, unquoted]

theorem is_pair_eq (ahead : Text) :
    Lib.Shell.isPair ahead = (Scanning.startsWithAny ahead ["&&", "||"] ||
      Scanning.startsWithAny ahead ["|&"]) := by
  simp [Lib.Shell.isPair, Scanning.startsWithAny]

theorem operator_turn_pair (previous : Option Char) {char : Char} {rest : Text}
    (pair : Lib.Shell.isPair (char :: rest) = true) :
    Scanning.operatorTurn previous char rest = (2, true) := by
  rw [is_pair_eq, Bool.or_eq_true] at pair
  unfold Scanning.operatorTurn
  dsimp only
  by_cases both : Scanning.startsWithAny (char :: rest) ["&&", "||"] = true
  · rw [if_pos both]
  · rw [if_neg both, if_pos (pair.resolve_left both)]

theorem operator_turn_single (previous : Option Char) {char : Char} {rest : Text}
    (single : Lib.Shell.isPair (char :: rest) = false) :
    ∃ operator, Scanning.operatorTurn previous char rest = (1, operator) ∧
      FlatReading.markWidth previous (char :: rest) = operator.toNat := by
  have apart := single
  rw [is_pair_eq, Bool.or_eq_false_iff] at apart
  simp only [Scanning.operatorTurn, FlatReading.markWidth, single, apart.1, apart.2,
    Bool.false_eq_true, if_false]
  by_cases bar : char = '|'
  · exact ⟨true, if_pos bar, if_pos (.inl bar)⟩
  by_cases ampersand : char = '&'
  · subst ampersand
    refine ⟨_, rfl, ?_⟩
    cases previous with
    | none => rfl
    | some before =>
      by_cases redirects : before = '<' ∨ before = '>'
      · obtain rfl | rfl := redirects <;> rfl
      · by_cases ahead : rest.head? = some '>'
        · simp [ahead]
        · simp [ahead, not_or.1 redirects]
  by_cases ends : char = ';' ∨ char = '\n'
  · refine ⟨true, ?_, if_pos (.inr ends)⟩
    rw [if_neg bar, if_neg ampersand, if_pos ends]
  by_cases hash : char = '#' ∧ previous.all Text.isSpace = true
  · refine ⟨true, ?_, ?_⟩
    · rw [if_neg bar, if_neg ampersand, if_neg ends, if_pos hash]
    · rw [if_neg (not_or.2 ⟨bar, ends⟩), if_neg ampersand, if_pos hash]
      rfl
  · refine ⟨false, ?_, ?_⟩
    · rw [if_neg bar, if_neg ampersand, if_neg ends, if_neg hash]
    · rw [if_neg (not_or.2 ⟨bar, ends⟩), if_neg ampersand, if_neg hash]
      rfl

theorem operator_turn_passes {char : Char} (rest : Text)
    (apart : opener.isSome → char ≠ '(') (plain : char ≠ '\\')
    (unquoted : Scanning.isQuote char = false)
    (shut : Scanning.startsWithAny (char :: rest) ["$(", "<(", ">("] = false) :
    Passed .start opener previous char rest
      (.start, Scanning.operatorTurn previous char rest) := by
  have goes := read_unquoted opener previous 0 plain unquoted
  have flush : (FlatReading.mk none false 0 opener previous).depthBehind char = 0 := by
    unfold FlatReading.depthBehind
    split_ifs with opens
    · exact absurd opens.1 (apart (opens.2.resolve_right fun held => held rfl))
    · rfl
    · rfl
  rw [flush] at goes
  have bare : (reading .start opener previous).width (char :: rest) =
      FlatReading.markWidth previous (char :: rest) := if_pos ⟨rfl, rfl, rfl⟩
  cases pair : Lib.Shell.isPair (char :: rest) with
  | true =>
    rw [operator_turn_pair previous pair]
    obtain ⟨first, second, later, whole, kind, kind'⟩ := Lib.Shell.pair_ahead pair
    obtain ⟨rfl, rfl⟩ := List.cons.inj whole
    refine .operator rfl ?_ (bare.trans ?_)
    · rw [reading, Scanning.start, goes]
      obtain rfl | rfl := kind' <;> rfl
    · exact mark_width_pair previous pair
  | false =>
    obtain ⟨operator, turned, width⟩ := operator_turn_single previous pair
    rw [turned]
    exact .one goes (bare.trans width) (opener_apart shut rfl)

theorem unquoted_turn_passes (depth : Nat) {char : Char}
    (rest : Text) (apart : opener.isSome → char ≠ '(') (plain : char ≠ '\\') :
    Passed ⟨none, false, depth⟩ opener previous char rest
      (Scanning.unquotedTurn ⟨none, false, depth⟩ previous char rest) := by
  unfold Scanning.unquotedTurn
  dsimp only
  split
  · next quotes =>
      refine passed_closed ?_ ?_
      · simp [reading, FlatReading.read, plain, quotes]
      · apply width_plain
        simp only [Scanning.isQuote, Bool.or_eq_true, decide_eq_true_eq] at quotes
        obtain (rfl | rfl) | rfl := quotes <;> decide
  next unquoted =>
  have unquoted := eq_false_of_ne_true unquoted
  have goes := read_unquoted opener previous depth plain unquoted
  split
  · next opens =>
      obtain ⟨opener', later, rfl⟩ := substitution_ahead opens
      have back : char ∉ ['(', ')', '|', '&', ';', '\n', '#'] := by
        simp only [Lib.Shell.Reading.isOpener, Bool.or_eq_true, decide_eq_true_eq] at opener'
        obtain (rfl | rfl) | rfl := opener' <;> decide
      have same : (FlatReading.mk none false depth opener previous).depthBehind char = depth := by
        simp only [List.mem_cons, not_or] at back
        simp [FlatReading.depthBehind, back.1, back.2.1]
      rw [opener', if_pos rfl, same] at goes
      refine .opens rfl ?_ (width_plain _ _ fun listed => back (by simp [listed])) ?_
      · rw [reading, goes]
        rfl
      · rw [reading, goes]
        exact width_plain _ _ (by decide)
  next shut =>
  have shut := eq_false_of_ne_true shut
  split
  · next inside =>
      refine .one (goes.trans ?_) (width_unbare _ fun bare => inside bare.2.2) (opener_apart shut rfl)
      have counted : (FlatReading.mk none false depth opener previous).depthBehind char =
          if char = ')' then depth - 1 else if char = '(' then depth + 1 else depth := by
        unfold FlatReading.depthBehind
        by_cases opens : char = '('
        · subst opens
          exact if_pos ⟨rfl, .inr inside⟩
        · rw [if_neg fun both => opens both.1, if_neg opens]
      rw [counted]
      rfl
  · next outside =>
      obtain rfl := not_not.1 outside
      exact operator_turn_passes opener previous rest apart plain unquoted shut

theorem turn_passes (scanning : Scanning) {opener : Option Char} (previous : Option Char)
    {char : Char} (rest : Text) (apart : opener.isSome → char ≠ '(') :
    Passed scanning opener previous char rest (scanning.turn previous char rest) := by
  obtain ⟨quote, escaped, depth⟩ := scanning
  unfold Scanning.turn
  dsimp only
  split
  · next skips =>
      refine passed_closed ?_ ?_
      · simp [reading, FlatReading.read, skips]
      · exact width_unbare _ fun bare => absurd bare.2.1 (by simp [reading, skips])
  next goes =>
  obtain rfl := eq_false_of_ne_true goes
  split
  · next escapes =>
      refine passed_closed ?_ ?_
      · simp [reading, FlatReading.read, escapes]
      · exact width_plain _ _ (by rw [escapes.1]; decide)
  next stays =>
  cases quote with
  | some mark =>
    refine passed_closed ?_ ?_
    · unfold reading FlatReading.read
      rw [if_neg goes, if_neg stays]
      simp
    · exact width_unbare _ fun bare => absurd bare.1 (by simp [reading])
  | none =>
    have plain : char ≠ '\\' := fun equal => stays ⟨equal, by decide⟩
    exact unquoted_turn_passes opener previous depth rest apart plain

theorem operators_eq (text : Text) :
    ∀ scanning opener previous i, (opener.isSome → text.head? ≠ some '(') →
      operators scanning previous i text =
        flat.scan (reading scanning opener previous) 0 i text := by
  induction count : text.length using Nat.strongRecOn generalizing text with
  | _ count ih =>
    intro scanning opener previous i apart
    cases text with
    | nil => rfl
    | cons char rest =>
      rw [List.length_cons] at count
      have shut : opener.isSome → char ≠ '(' := fun some equal =>
        apart some (congrArg Option.some equal)
      have passed := turn_passes scanning previous rest shut
      unfold operators
      generalize scanning.turn previous char rest = turned at passed
      cases passed with
      | @one next operator behind read width apart' =>
        have later := ih rest.length (by omega) rest rfl next behind (some char) (i + 1) apart'
        have carried : flat.read (reading scanning opener previous) char = _ := read
        cases operator with
        | false =>
          rw [flat.scan_of_width_zero i width, carried]
          exact later
        | true =>
          rw [flat.scan_of_width_succ i width, carried]
          exact congrArg (List.cons (i, 1)) later
      | @opens next later ahead read width inside =>
        subst ahead
        rw [List.length_cons] at count
        have rest := ih later.length (by omega) later rfl next none (some '(') (i + 2)
          fun some => by cases some
        have carried : flat.read (flat.read (reading scanning opener previous) char) '(' = _ :=
          read
        have inside' : flat.width (flat.read (reading scanning opener previous) char)
            ('(' :: later) = 0 := inside
        rw [flat.scan_of_width_zero i width, flat.scan_of_width_zero (i + 1) inside', carried]
        exact rest
      | @operator second later ahead read width =>
        subst ahead
        rw [List.length_cons] at count
        have rest := ih later.length (by omega) later rfl scanning none (some second) (i + 2)
          fun some => by cases some
        have carried : flat.read (flat.read (reading scanning opener previous) char) second = _ :=
          read
        rw [flat.scan_of_width_succ i width, Reader.scan_of_pending, carried]
        exact congrArg (List.cons (i, 2)) rest

theorem operators_eq_tokens (shellStr : Text) :
    operators .start none 0 shellStr = flat.tokens shellStr :=
  operators_eq shellStr .start none none 0 fun some => by cases some

end EvoomGuard.Runners.Shell
