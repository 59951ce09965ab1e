import EvoomGuard.Runners.FlatReading
import Mathlib.Data.List.DropRight

/-!
Where the script of a shell wrapper is split, and when that is where its last command begins.
-/

namespace EvoomGuard.Runners.Shell

open Lib
open EvoomGuard.Lib.Shell (commands controlOperators lastOperator InComment)

/-! The last command of a script -/

def Blank (text : Text) : Prop := ∀ character ∈ text, Text.isSpace character = true

/-- The parts are the script up to white space around it; the operator, with white space around it,
is the last control operator; there is none in the last command, and it is not the text of a
comment. -/
def SplitsAtLastOperator (shellStr : Text) (parts : Text × Text × Text) : Prop :=
  let (before, operator, last) := parts
  ∃ lead trail, Blank lead ∧ Blank trail ∧ shellStr = lead ++ before ++ operator ++ last ++ trail ∧
    (match lastOperator shellStr with
      | none => before = [] ∧ operator = []
      | some (start, width) => lead = [] ∧ ∃ left right, Blank left ∧ Blank right ∧
          before ++ left = shellStr.take start ∧
          operator = left ++ (shellStr.drop start).take width ++ right) ∧
    (∀ token ∈ controlOperators shellStr,
      token.1 + token.2 ≤ (lead ++ before ++ operator).length) ∧
    ¬InComment (lead ++ before ++ operator)

/-- Of the last control operator and what follows it the flat reading shows nothing but that
operator, and of a script without one nothing at all. -/
def ShowsLastOperator (shellStr : Text) : Prop :=
  match lastOperator shellStr with
  | none => ∀ position, ¬Shows shellStr position
  | some (start, width) =>
    Shows shellStr start ∧ ∀ position, start + width ≤ position → ¬Shows shellStr position

/-! What a character leaves as it was in the flat reading -/

namespace FlatReading

variable {reading : FlatReading}

theorem quote_read {character mark : Char}
    (quoted : (reading.read character).quote = some mark) :
    reading.quote = some mark ∨ Scanning.isQuote mark = true := by
  unfold read at quoted
  split_ifs at quoted with escaped backslash closes same opens
  · exact .inl quoted
  · exact .inl quoted
  · exact .inl quoted
  · obtain rfl := Option.some.inj quoted
    exact .inr opens

theorem read_plain {character : Char}
    (marks : ∀ mark, reading.quote = some mark → Scanning.isQuote mark = true)
    (unquoted : Scanning.isQuote character = false) (opens : character ≠ '(')
    (closes : character ≠ ')') :
    (reading.read character).quote = reading.quote ∧
      (reading.read character).depth = reading.depth := by
  have same : (if character = '(' ∧ (reading.opener.isSome ∨ reading.depth ≠ 0) then
      reading.depth + 1 else if character = ')' then reading.depth - 1 else reading.depth) =
        reading.depth := by
    rw [if_neg fun both => opens both.1, if_neg closes]
  unfold read
  split_ifs with escaped backslash quoted shut opening
  · exact ⟨rfl, rfl⟩
  · exact ⟨rfl, rfl⟩
  · rw [marks character shut.symm] at unquoted
    cases unquoted
  · exact ⟨rfl, rfl⟩
  · rw [opening] at unquoted
    cases unquoted
  all_goals exact ⟨(Option.not_isSome_iff_eq_none.1 quoted).symm, same⟩

theorem backslash_of_escaped_read {character : Char}
    (held : (reading.read character).escaped = true) : character = '\\' := by
  unfold read at held
  split_ifs at held with escaped backslash
  exact backslash.1

theorem escaped_read_iff (unquoted : reading.quote = none)
    (character : Char) :
    (reading.read character).escaped = true ↔ character = '\\' ∧ reading.escaped = false := by
  refine ⟨fun held => ?_, fun both => ?_⟩
  · have backslash := backslash_of_escaped_read held
    cases escaped : reading.escaped with
    | true => simp [read, escaped] at held
    | false => exact ⟨backslash, rfl⟩
  · simp [read, both, unquoted]

end FlatReading

variable (text : Text)

theorem flat_marks {mark : Char} (quoted : (flat.after text).quote = some mark) :
    Scanning.isQuote mark = true := by
  induction text using List.reverseRecOn with
  | nil => cases quoted
  | append_singleton before character ih =>
    rw [Reader.after_append] at quoted
    exact (FlatReading.quote_read quoted).elim ih id

theorem escaped_agree :
    (commands.after text).nesting = [] → (commands.after text).comment = false →
      (flat.after text).quote = none →
        (commands.after text).escaped = (flat.after text).escaped := by
  induction text using List.reverseRecOn with
  | nil =>
    intro _ _ _
    rfl
  | append_singleton before character ih =>
    rw [Reader.after_append, Reader.after_append]
    change ((commands.after before).read character).nesting = [] →
      ((commands.after before).read character).comment = false →
        ((flat.after before).read character).quote = none →
          ((commands.after before).read character).escaped =
            ((flat.after before).read character).escaped
    intro outside uncommented unquoted
    by_cases backslash : character = '\\'
    · subst backslash
      have same := @Lib.Shell.Reading.read_nesting (commands.after before) '\\' (by decide)
      have same' := @FlatReading.read_plain (flat.after before) '\\' (fun mark => flat_marks before)
        rfl (by decide) (by decide)
      rw [same.1] at outside
      rw [same.2] at uncommented
      rw [same'.1] at unquoted
      have agree := ih outside uncommented unquoted
      rw [Bool.eq_iff_iff, Lib.Shell.Reading.escaped_read_iff outside uncommented,
        FlatReading.escaped_read_iff unquoted, agree]
    · have left : ((commands.after before).read character).escaped = false :=
        eq_false_of_ne_true fun held =>
          backslash (Lib.Shell.Reading.backslash_of_escaped_read held)
      have right : ((flat.after before).read character).escaped = false :=
        eq_false_of_ne_true fun held => backslash (FlatReading.backslash_of_escaped_read held)
      rw [left, right]

/-! Both readers take the same tokens -/

/-- Where both find an operator behind a `&` or `|`, both were outside everything before it, but for
a backslash that both have read. -/
theorem outside_before (before later : Text) {first second : Char}
    (kind : first = '&' ∨ first = '|')
    (kind' : second = '&' ∨ second = '|')
    (found : Lib.Shell.commandWidth ((commands.after before).read first) (second :: later) ≠ 0)
    (found' : ((flat.after before).read first).width (second :: later) ≠ 0) :
    (commands.after before).nesting = [] ∧ (commands.after before).comment = false ∧
      (flat.after before).quote = none ∧ (flat.after before).depth = 0 ∧
        (commands.after before).escaped = (flat.after before).escaped := by
  have plain : first ∉ "'\"`()#\n".toList := by
    obtain rfl | rfl := kind <;> decide
  have plain' : Scanning.isQuote first = false ∧ first ≠ '(' ∧ first ≠ ')' := by
    obtain rfl | rfl := kind <;> decide
  obtain ⟨outside, -, line⟩ := Lib.Shell.outside_of_command_width found
  have uncommented : ((commands.after before).read first).comment = false := by
    refine eq_false_of_ne_true fun comment => ?_
    rw [Option.some.inj (line comment)] at kind'
    exact absurd kind' (by decide)
  have bare : ((flat.after before).read first).Bare := by
    by_contra held
    exact found' (if_neg held)
  obtain ⟨nesting, comment⟩ := (commands.after before).read_nesting plain
  obtain ⟨quote, depth⟩ := FlatReading.read_plain (fun mark => flat_marks before) plain'.1 plain'.2.1
    plain'.2.2
  rw [nesting] at outside
  rw [comment] at uncommented
  have unquoted := quote.symm.trans bare.1
  exact ⟨outside, uncommented, unquoted, depth.symm.trans bare.2.2,
    escaped_agree before outside uncommented unquoted⟩

theorem aligned (script : Text) : Reader.Aligned commands flat script := by
  intro earlier position before found found' covers
  have length : commands.widthAt script earlier ≠ 0 →
      commands.widthAt script earlier = if Lib.Shell.isPair (script.drop earlier) then 2 else 1 :=
    Lib.Shell.command_width_eq
  have length' : flat.widthAt script earlier ≠ 0 →
      flat.widthAt script earlier = if Lib.Shell.isPair (script.drop earlier) then 2 else 1 :=
    flat_width_eq
  have pair : Lib.Shell.isPair (script.drop earlier) = true := by
    by_contra single
    rw [if_neg single] at length length'
    omega
  rw [if_pos pair] at length length'
  obtain rfl : position = earlier + 1 := by omega
  obtain ⟨first, second, later, ahead, kind, kind'⟩ := Lib.Shell.pair_ahead pair
  have here : script[earlier]? = some first := by
    rw [← List.head?_drop, ahead]
    rfl
  have next : script.drop (earlier + 1) = second :: later := by
    rw [← List.drop_drop, ahead]
    rfl
  rw [Reader.widthAt, Reader.after_take_succ here, next] at found
  rw [Reader.widthAt, Reader.after_take_succ here, next] at found'
  obtain ⟨outside, uncommented, unquoted, shallow, agree⟩ :=
    outside_before (script.take earlier) later kind kind' found found'
  have left : (commands.after (script.take earlier)).escaped = true →
      commands.widthAt script earlier = 0 := fun escaped => if_pos (.inr escaped)
  have right : (flat.after (script.take earlier)).escaped = true →
      flat.widthAt script earlier = 0 := fun escaped => if_neg fun bare => by
    rw [bare.2.1] at escaped
    cases escaped
  cases escaped : (commands.after (script.take earlier)).escaped with
  | true =>
    rw [left escaped, right (agree ▸ escaped)]
  | false =>
    have two : commands.widthAt script earlier = 2 := by
      change Lib.Shell.commandWidth _ _ = 2
      rw [Lib.Shell.commandWidth, outside, escaped, uncommented]
      exact Lib.Shell.operator_width_pair _ pair
    have two' : flat.widthAt script earlier = 2 := by
      change FlatReading.width _ _ = 2
      rw [FlatReading.width, if_pos ⟨unquoted, agree ▸ escaped, shallow⟩]
      exact mark_width_pair _ pair
    rw [two, two']

theorem last_shown_iff (shellStr : Text) :
    (flat.tokens shellStr).getLast? = lastOperator shellStr ↔ ShowsLastOperator shellStr := by
  unfold ShowsLastOperator
  cases last : lastOperator shellStr with
  | none =>
    rw [List.getLast?_eq_none_iff, Reader.tokens_eq_nil_iff flat_ends]
    exact forall_congr' fun position => not_not.symm
  | some token =>
    obtain ⟨start, width⟩ := token
    constructor
    · intro shown
      obtain ⟨member, -⟩ := Reader.getLast_tokens_iff.1 shown
      obtain ⟨-, -, length, some⟩ := Reader.mem_tokens_iff.1 member
      refine ⟨fun none => some (length.symm.trans none), fun position behind found => ?_⟩
      have before := Reader.lt_of_getLast flat_ends shown found
      exact absurd behind (Nat.not_le.2 before)
    · rintro ⟨shown, silent⟩
      obtain ⟨member, -⟩ := Reader.getLast_tokens_iff.1 last
      obtain ⟨inside, free, length, some⟩ := Reader.mem_tokens_iff.1 member
      have found : commands.widthAt shellStr start ≠ 0 := length ▸ some
      have free' := (Reader.pending_iff_of_aligned Lib.Shell.commands_ends flat_ends (aligned shellStr) start
        found shown).1 free
      have length' : flat.widthAt shellStr start = width :=
        (flat_width_eq shown).trans ((Lib.Shell.command_width_eq found).symm.trans length)
      have member' := Reader.mem_tokens_iff.2 ⟨inside, free', length', some⟩
      refine Reader.getLast_tokens_iff.2 ⟨member', fun other another => ?_⟩
      by_contra later
      have apart := Reader.disjoint_tokens member' another (Nat.not_le.1 later)
      obtain ⟨-, -, length', some'⟩ := Reader.mem_tokens_iff.1 another
      exact silent other.1 apart fun none => some' (length'.symm.trans none)

/-! What the splitter returns -/

theorem blank_takeWhile : Blank (text.takeWhile Text.isSpace) :=
  fun _ member => List.mem_takeWhile_imp member

theorem blank_rtakeWhile : Blank (text.rtakeWhile Text.isSpace) :=
  fun _ member => List.mem_rtakeWhile_imp member

theorem rstrip_append :
    Text.rstripWhile Text.isSpace text ++ text.rtakeWhile Text.isSpace = text :=
  List.rdropWhile_append_rtakeWhile

theorem strip_parts :
    ∃ lead trail, Blank lead ∧ Blank trail ∧ text = lead ++ Text.strip text ++ trail := by
  refine ⟨_, _, blank_takeWhile text, blank_rtakeWhile (text.dropWhile Text.isSpace), ?_⟩
  rw [List.append_assoc, Text.strip, Text.stripWhile, Text.lstripWhile, rstrip_append,
    List.takeWhile_append_dropWhile]

theorem take_length_rstrip (start : Nat) :
    text.take (Text.rstripWhile Text.isSpace (text.take start)).length =
      Text.rstripWhile Text.isSpace (text.take start) := by
  have inside : Text.rstripWhile Text.isSpace (text.take start) <+: text.take start :=
    List.rdropWhile_prefix _ _
  exact (List.prefix_iff_eq_take.1 (inside.trans (List.take_prefix start text))).symm

theorem take_length_takeWhile :
    text.take (text.takeWhile Text.isSpace).length = text.takeWhile Text.isSpace :=
  (List.prefix_iff_eq_take.1 (List.takeWhile_prefix _)).symm

theorem drop_length_takeWhile :
    text.drop (text.takeWhile Text.isSpace).length = text.dropWhile Text.isSpace := by
  have whole := List.takeWhile_append_dropWhile (p := Text.isSpace) (l := text)
  have parted := List.take_append_drop (text.takeWhile Text.isSpace).length text
  rw [take_length_takeWhile] at parted
  exact List.append_cancel_left (parted.trans whole.symm)

theorem strip_dropWhile :
    Text.strip (text.dropWhile Text.isSpace) ++
      (text.dropWhile Text.isSpace).rtakeWhile Text.isSpace = text.dropWhile Text.isSpace := by
  rw [Text.strip, Text.stripWhile, Text.lstripWhile, List.dropWhile_idempotent]
  exact rstrip_append _

theorem split_parts {shellStr : Text} {start width : Nat}
    (last : (flat.tokens shellStr).getLast? = some (start, width)) :
    ∃ before left right rest trail, Blank left ∧ Blank right ∧ Blank trail ∧
      splitLastCmd shellStr = (before, left ++ (shellStr.drop start).take width ++ right, rest) ∧
      before ++ left = shellStr.take start ∧
      shellStr = shellStr.take start ++ (shellStr.drop start).take width ++ right ++ rest ++ trail := by
  have found : (operators .start none 0 shellStr).getLast? = some (start, width) := by
    rw [operators_eq_tokens, last]
  have front := rstrip_append (shellStr.take start)
  have back := strip_dropWhile (shellStr.drop (start + width))
  have between : shellStr.take (start + width + _) = _ :=
    List.take_add.trans (congrArg₂ (· ++ ·) List.take_add
      (take_length_takeWhile (shellStr.drop (start + width))))
  have behind : shellStr.drop (start + width + _) = _ :=
    List.drop_drop.symm.trans (drop_length_takeWhile (shellStr.drop (start + width)))
  unfold splitLastCmd
  rw [found]
  refine ⟨_, _, _, _, _, blank_rtakeWhile (shellStr.take start),
    blank_takeWhile (shellStr.drop (start + width)),
    blank_rtakeWhile ((shellStr.drop (start + width)).dropWhile Text.isSpace),
    Prod.ext (take_length_rstrip shellStr start) (Prod.ext ?_ rfl), front, ?_⟩
  · dsimp only
    rw [between]
    nth_rewrite 2 [← front]
    rw [List.append_assoc, List.append_assoc, List.drop_left, List.append_assoc]
  · rw [behind, List.append_assoc, back, List.append_assoc, List.takeWhile_append_dropWhile,
      ← List.take_add, List.take_append_drop]

/-! White space between operators -/

/-- Behind its tokens a reader is in a state that white space keeps, and in which the end of a line
is a token; no token is white space but the end of a line. -/
structure LineReader {State : Type} (reader : Reader State Char) (Open : State → Prop) : Prop where
  behind : ∀ state ahead, reader.width state ahead ≠ 0 →
    Open ((ahead.take (reader.width state ahead)).foldl reader.read state)
  blank : ∀ state character, Open state → Text.isSpace character = true →
    Open (reader.read state character)
  line : ∀ state rest, Open state → reader.width state ('\n' :: rest) ≠ 0
  mark : ∀ state character rest, reader.width state (character :: rest) ≠ 0 →
    Text.isSpace character = true → character = '\n'
  one : ∀ state rest, reader.width state ('\n' :: rest) ≤ 1

theorem space_not_mem {character : Char} (space : Text.isSpace character = true) {others : Text}
    (none : others.any Text.isSpace = false) : character ∉ others := by
  intro member
  rw [List.any_eq_true.2 ⟨character, member, space⟩] at none
  cases none

theorem commands_line_reader : LineReader commands Lib.Shell.Reading.Clear where
  behind := fun _ _ found => Lib.Shell.clear_behind found
  blank := fun _ _ clear space =>
    Lib.Shell.Reading.clear_read clear (space_not_mem space (by decide))
  line := by
    intro state rest clear
    change Lib.Shell.commandWidth _ _ ≠ 0
    rw [Lib.Shell.commandWidth, clear.1, clear.2.1, clear.2.2]
    exact Nat.one_ne_zero
  mark := by
    intro state character rest found space
    have listed := Lib.Shell.command_letter found
    have plain := @space_not_mem _ space "&|;" (by decide)
    simp only [String.reduceToList, List.mem_cons, List.not_mem_nil, or_false, not_or] at listed plain
    exact ((listed.resolve_left plain.1).resolve_left plain.2.1).resolve_left plain.2.2
  one := by
    intro state rest
    by_cases found : commands.width state ('\n' :: rest) = 0
    · rw [found]
      exact Nat.zero_le 1
    · exact Nat.le_of_eq (Lib.Shell.command_width_eq found)

variable {reading : FlatReading}

theorem bare_read (bare : reading.Bare) {character : Char}
    (plain : character ∉ "\\'\"`()".toList) : (reading.read character).Bare := by
  simp only [String.reduceToList, List.mem_cons, List.not_mem_nil, or_false, not_or] at plain
  obtain ⟨backslash, single, double, backquote, opens, closes⟩ := plain
  obtain ⟨quote, depth⟩ := @FlatReading.read_plain reading character
    (fun mark quoted => by rw [bare.1] at quoted; cases quoted)
    (by simp [Scanning.isQuote, single, double, backquote]) opens closes
  refine ⟨quote.trans bare.1, ?_, depth.trans bare.2.2⟩
  exact eq_false_of_ne_true fun held => backslash (FlatReading.backslash_of_escaped_read held)

theorem flat_letter {character : Char} {rest : Text}
    (found : reading.width (character :: rest) ≠ 0) :
    reading.Bare ∧ character ∈ ['|', '&', ';', '\n', '#'] := by
  constructor
  · by_contra held
    exact found (width_unbare _ held)
  · by_contra plain
    exact found (width_plain reading rest plain)

theorem bare_read_mark {character : Char} {rest : Text}
    (found : reading.width (character :: rest) ≠ 0) : (reading.read character).Bare := by
  obtain ⟨bare, listed⟩ := flat_letter found
  apply bare_read bare
  simp only [List.mem_cons, List.not_mem_nil, or_false] at listed
  obtain rfl | rfl | rfl | rfl | rfl := listed <;> decide

theorem bare_behind {ahead : Text} (found : reading.width ahead ≠ 0) :
    ((ahead.take (reading.width ahead)).foldl FlatReading.read reading).Bare := by
  rw [flat_width_eq found]
  by_cases pair : Lib.Shell.isPair ahead = true
  · obtain ⟨first, second, later, rfl, -, kind⟩ := Lib.Shell.pair_ahead pair
    rw [if_pos pair]
    apply bare_read (bare_read_mark found)
    obtain rfl | rfl := kind <;> decide
  · rw [if_neg pair]
    cases ahead with
    | nil => exact absurd (flat_ends reading) found
    | cons character rest => exact bare_read_mark found

theorem flat_line_reader : LineReader flat FlatReading.Bare where
  behind := fun _ _ found => bare_behind found
  blank := fun _ _ bare space => bare_read bare (space_not_mem space (by decide))
  line := by
    intro state rest bare
    change FlatReading.width _ _ ≠ 0
    rw [FlatReading.width, if_pos bare]
    exact Nat.one_ne_zero
  mark := by
    intro state character rest found space
    have listed := (flat_letter found).2
    have plain := @space_not_mem _ space ['|', '&', ';', '#'] (by decide)
    simp only [List.mem_cons, List.not_mem_nil, or_false, not_or] at listed plain
    obtain ⟨bar, ampersand, semicolon, hash⟩ := plain
    exact (((listed.resolve_left bar).resolve_left ampersand).resolve_left semicolon).resolve_right hash
  one := by
    intro state rest
    by_cases found : flat.width state ('\n' :: rest) = 0
    · rw [found]
      exact Nat.zero_le 1
    · exact Nat.le_of_eq (flat_width_eq found)

section

variable {State : Type} {reader : Reader State Char} {Open : State → Prop}
  (lines : LineReader reader Open)
include lines

theorem open_foldl {gap : Text} (blank : Blank gap) :
    ∀ state, Open state → Open (gap.foldl reader.read state) := by
  induction gap with
  | nil => exact fun state held => held
  | cons character rest ih =>
    intro state held
    have space := blank character List.mem_cons_self
    exact ih (fun other member => blank other (List.mem_cons_of_mem _ member)) _
      (lines.blank state character held space)

theorem line_behind {script gap rest : Text} {start width : Nat}
    (member : (start, width) ∈ reader.tokens script) (blank : Blank gap)
    (whole : script = script.take (start + width) ++ gap ++ '\n' :: rest) :
    reader.widthAt script (script.take (start + width) ++ gap).length ≠ 0 := by
  obtain ⟨-, -, length, some⟩ := Reader.mem_tokens_iff.1 member
  have position := @Reader.width_at_append _ _ reader (script.take (start + width) ++ gap)
    ('\n' :: rest)
  rw [← whole] at position
  rw [position]
  apply lines.line
  rw [Reader.after_append, List.take_add, Reader.after_append]
  apply open_foldl lines blank
  have behind := lines.behind (reader.after (script.take start)) (script.drop start)
    fun zero => some (length.symm.trans zero)
  rwa [show reader.width _ _ = width from length] at behind

end

/-- Two operators with nothing but white space around both are one. -/
theorem not_before {State Other : Type} {reader : Reader State Char} {other : Reader Other Char}
    {Open : State → Prop} {Open' : Other → Prop} (lines : LineReader reader Open)
    (lines' : LineReader other Open') (ends : reader.Ends)
    {script before left right left' right' : Text} {start width start' width' : Nat}
    (last : (reader.tokens script).getLast? = some (start, width))
    (member' : (start', width') ∈ other.tokens script)
    (front : before ++ left = script.take start) (front' : before ++ left' = script.take start')
    (same : left ++ (script.drop start).take width ++ right =
      left' ++ (script.drop start').take width' ++ right')
    (blank : Blank right) (blank' : Blank left') : ¬start < start' := by
  intro later
  obtain ⟨member, -⟩ := Reader.getLast_tokens_iff.1 last
  obtain ⟨inside, -, length, some⟩ := Reader.mem_tokens_iff.1 member
  obtain ⟨inside', -, length', some'⟩ := Reader.mem_tokens_iff.1 member'
  have inner : before ++ left <+: before ++ left' :=
    front ▸ front' ▸ List.take_prefix_take_left (Nat.le_of_lt later)
  obtain ⟨middle, rfl⟩ := (List.prefix_append_right_inj before).1 inner
  have gone : script.drop start = middle ++ script.drop start' := by
    have parted := List.take_append_drop start' script
    rw [← front', ← List.append_assoc, front, List.append_assoc] at parted
    exact List.append_cancel_left ((List.take_append_drop start script).trans parted.symm)
  cases middle with
  | nil =>
    rw [List.append_nil, front] at front'
    have equal := congrArg List.length front'
    rw [List.length_take, List.length_take] at equal
    omega
  | cons character gap =>
    -- Both tokens are then ends of lines, and the first one is not the last.
    rw [List.cons_append] at gone
    have found : reader.width (reader.after (script.take start))
        (character :: (gap ++ script.drop start')) = width := gone ▸ length
    have space := blank' character (List.mem_append_right _ List.mem_cons_self)
    obtain rfl := lines.mark _ _ _ (found ▸ some) space
    obtain rfl : width = 1 := by
      have short := lines.one (reader.after (script.take start)) (gap ++ script.drop start')
      omega
    rw [gone] at same
    have behind : right = gap ++ ((script.drop start').take width' ++ right') := by
      rw [List.take_succ_cons, List.take_zero, List.append_assoc, List.append_assoc,
        List.append_assoc, List.append_cancel_left_eq, List.cons_append, List.cons_append] at same
      exact List.tail_eq_of_cons_eq same
    obtain ⟨other', tail, ahead⟩ := List.exists_cons_of_length_pos (l := script.drop start')
      (by rw [List.length_drop]; omega)
    have space' : Text.isSpace other' = true := by
      cases width' with
      | zero => exact absurd rfl some'
      | succ more =>
        rw [ahead, List.take_succ_cons] at behind
        exact blank other' (behind ▸ List.mem_append_right _ List.mem_cons_self)
    have found' : other.width (other.after (script.take start')) (other' :: tail) = width' :=
      ahead ▸ length'
    obtain rfl := lines'.mark _ _ _ (found' ▸ some') space'
    have blank_gap : Blank gap := fun each listed => blank' each
      (List.mem_append_right _ (List.mem_cons_of_mem _ listed))
    have taken : script.take (start + 1) ++ gap = script.take start' := by
      rw [List.take_add, gone, ← front', ← List.append_assoc, front, List.append_assoc]
      rfl
    have whole : script = script.take (start + 1) ++ gap ++ '\n' :: tail := by
      rw [taken, ← ahead, List.take_append_drop]
    have shown := line_behind lines member blank_gap whole
    rw [taken, List.length_take, Nat.min_eq_left (Nat.le_of_lt inside')] at shown
    have bound := Reader.lt_of_getLast ends last shown
    omega

/-! When the splitter finds the last command -/

theorem uncommented_behind {script gap : Text} {start width : Nat}
    (member : (start, width) ∈ controlOperators script) (blank : Blank gap) :
    ¬InComment (script.take (start + width) ++ gap) := by
  obtain ⟨-, -, length, some⟩ := Reader.mem_tokens_iff.1 member
  have behind := commands_line_reader.behind (commands.after (script.take start))
    (script.drop start) fun zero => some (length.symm.trans zero)
  rw [show commands.width _ _ = width from length] at behind
  have clear := open_foldl commands_line_reader blank _ behind
  rw [InComment, Reader.after_append, List.take_add, Reader.after_append, Bool.not_eq_true]
  exact clear.2.1

theorem split_of_none {shellStr : Text} (none : (flat.tokens shellStr).getLast? = none) :
    splitLastCmd shellStr = ([], [], Text.strip shellStr) := by
  unfold splitLastCmd
  rw [operators_eq_tokens, none]

theorem operator_ne_nil {State : Type} {reader : Reader State Char} {script left right : Text}
    {start width : Nat} (member : (start, width) ∈ reader.tokens script) :
    left ++ (script.drop start).take width ++ right ≠ [] := by
  obtain ⟨inside, -, -, some⟩ := Reader.mem_tokens_iff.1 member
  intro empty
  have length := congrArg List.length empty
  rw [List.length_append, List.length_append, List.length_take, List.length_drop,
    List.length_nil] at length
  omega

theorem splits_of_last {shellStr : Text}
    (same : (flat.tokens shellStr).getLast? = lastOperator shellStr) :
    SplitsAtLastOperator shellStr (splitLastCmd shellStr) := by
  unfold SplitsAtLastOperator
  cases last : lastOperator shellStr with
  | none =>
    rw [split_of_none (same.trans last)]
    obtain ⟨lead, trail, blank, blank', whole⟩ := strip_parts shellStr
    have empty : controlOperators shellStr = [] := List.getLast?_eq_none_iff.1 last
    refine ⟨lead, trail, blank, blank', ?_, ⟨rfl, rfl⟩, ?_, ?_⟩
    · rw [List.append_nil, List.append_nil, ← whole]
    · rw [empty]
      exact fun token member => absurd member List.not_mem_nil
    · rw [List.append_nil, List.append_nil, InComment, Bool.not_eq_true]
      exact (open_foldl commands_line_reader blank .start ⟨rfl, rfl, rfl⟩).2.1
  | some token =>
    obtain ⟨start, width⟩ := token
    obtain ⟨before, left, right, rest, trail, blank, blank', blank'', parts, front, whole⟩ :=
      split_parts (same.trans last)
    have member := (Reader.getLast_tokens_iff.1 last).1
    have taken : before ++ (left ++ (shellStr.drop start).take width ++ right) =
        shellStr.take (start + width) ++ right := by
      rw [List.append_assoc, ← List.append_assoc, front, List.take_add, List.append_assoc]
    rw [parts]
    refine ⟨[], trail, fun _ listed => absurd listed List.not_mem_nil, blank'', ?_, ⟨rfl, left,
      right, blank, blank', front, rfl⟩, ?_, ?_⟩
    · rw [List.nil_append, taken, List.take_add]
      exact whole
    · intro other listed
      have bound := Reader.end_le_of_getLast last listed
      rw [List.nil_append, taken, List.length_append, List.length_take,
        Nat.min_eq_left (Lib.Shell.operator_inside member)]
      exact Nat.le_trans bound (Nat.le_add_right _ _)
    · rw [List.nil_append, taken]
      exact uncommented_behind member blank'

theorem last_of_splits {shellStr : Text}
    (splits : SplitsAtLastOperator shellStr (splitLastCmd shellStr)) :
    (flat.tokens shellStr).getLast? = lastOperator shellStr := by
  unfold SplitsAtLastOperator at splits
  cases last : lastOperator shellStr with
  | none =>
    rw [last] at splits
    cases shown : (flat.tokens shellStr).getLast? with
    | none => rfl
    | some token =>
      obtain ⟨start, width⟩ := token
      obtain ⟨before, left, right, rest, -, -, -, -, parts, -, -⟩ := split_parts shown
      rw [parts] at splits
      obtain ⟨-, -, -, -, -, ⟨-, empty⟩, -⟩ := splits
      exact absurd empty (operator_ne_nil (Reader.getLast_tokens_iff.1 shown).1)
  | some token =>
    obtain ⟨start, width⟩ := token
    have member := (Reader.getLast_tokens_iff.1 last).1
    rw [last] at splits
    cases shown : (flat.tokens shellStr).getLast? with
    | none =>
      rw [split_of_none shown] at splits
      obtain ⟨-, -, -, -, -, ⟨-, left, right, -, -, -, empty⟩, -⟩ := splits
      exact absurd empty.symm (operator_ne_nil member)
    | some token' =>
      obtain ⟨start', width'⟩ := token'
      have member' := (Reader.getLast_tokens_iff.1 shown).1
      obtain ⟨before, left', right', rest, -, blank', blank'', -, parts, front', -⟩ :=
        split_parts shown
      rw [parts] at splits
      obtain ⟨-, -, -, -, -, ⟨-, left, right, blank, behind, front, same⟩, -⟩ := splits
      have forward := not_before commands_line_reader flat_line_reader Lib.Shell.commands_ends
        last member' front front' same.symm behind blank'
      have backward := not_before flat_line_reader commands_line_reader flat_ends
        shown member front' front same blank'' blank
      obtain rfl : start = start' := by omega
      obtain ⟨-, -, length, some⟩ := Reader.mem_tokens_iff.1 member
      obtain ⟨-, -, length', some'⟩ := Reader.mem_tokens_iff.1 member'
      have found : commands.widthAt shellStr start ≠ 0 := fun zero => some (length.symm.trans zero)
      have found' : flat.widthAt shellStr start ≠ 0 := fun zero => some' (length'.symm.trans zero)
      have width_eq := Lib.Shell.command_width_eq found
      have width_eq' := flat_width_eq found'
      rw [← length, ← length']
      exact congrArg (fun width => Option.some (start, width)) (width_eq'.trans width_eq.symm)

/-- The splitter finds the last command of a script exactly where a flat reading shows its last
operator and nothing behind. -/
theorem last_command_split_iff (shellStr : Text) :
    SplitsAtLastOperator shellStr (splitLastCmd shellStr) ↔ ShowsLastOperator shellStr :=
  ⟨fun splits => (last_shown_iff shellStr).1 (last_of_splits splits),
    fun shows => splits_of_last ((last_shown_iff shellStr).2 shows)⟩

/-- The text of a comment is taken for the last command, and the report is asked of it. -/
theorem comment_becomes_command :
    ¬SplitsAtLastOperator "echo hi # pytest" (splitLastCmd "echo hi # pytest") ∧
      instrumentWithAdapters Command.asciiCommandLetters
        ["sh", "-c", "echo hi # pytest"] "/x" Registry.innerAdapters =
          some ["sh".toList, "-c".toList,
            "echo hi # pytest --junitxml=/x -o junit_family=xunit2"] := by
  have none : lastOperator "echo hi # pytest" = none := by decide
  have parts : splitLastCmd "echo hi # pytest" =
      ("echo hi".toList, " # ".toList, "pytest".toList) := by decide
  refine ⟨?_, by decide⟩
  unfold SplitsAtLastOperator
  rw [none, parts]
  rintro ⟨-, -, -, -, -, ⟨-, empty⟩, -⟩
  exact absurd empty (by decide)

end EvoomGuard.Runners.Shell
