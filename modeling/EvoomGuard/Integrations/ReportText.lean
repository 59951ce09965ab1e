import EvoomGuard.Lib.JsonGrammar
import Mathlib.Data.Nat.Digits.Lemmas

/-!
How a report shows a text it does not trust: on one line with escapes, as a code span, and as a
fenced block. A text is a list of code points, with lone surrogates among them.
-/

namespace EvoomGuard.Integrations.ReportText

open Lib.JsonGrammar

/-- `unicodedata.category(character) in {"Cc", "Cf"}`: no printable ASCII character is one, and
the digits of a format character with a long code begin with no other such code. -/
structure Categories where
  isUnsafeControl : Nat → Bool
  printable : ∀ code, 32 ≤ code → code < 127 → isUnsafeControl code = false
  apart : ∀ code other places, isUnsafeControl code = true → isUnsafeControl other = true →
    4096 ≤ code → places ≠ 0 → other / 16 ^ places ≠ code

def formatRanges : List (Nat × Nat) :=
  [(0x600, 0x605), (0x61c, 0x61c), (0x6dd, 0x6dd), (0x70f, 0x70f), (0x890, 0x891), (0x8e2, 0x8e2),
    (0x180e, 0x180e), (0x200b, 0x200f), (0x202a, 0x202e), (0x2060, 0x2064), (0x2066, 0x206f),
    (0xfeff, 0xfeff), (0xfff9, 0xfffb), (0x110bd, 0x110bd), (0x110cd, 0x110cd),
    (0x13430, 0x1343f), (0x1bca0, 0x1bca3), (0x1d173, 0x1d17a), (0xe0001, 0xe0001),
    (0xe0020, 0xe007f)]

def isControlOrFormat (code : Nat) : Bool :=
  code < 32 || (127 ≤ code && code < 160) || code == 0xad ||
    formatRanges.any fun range => range.1 ≤ code && code ≤ range.2

theorem control_or_format_iff (code : Nat) :
    isControlOrFormat code = true ↔ code < 32 ∨ (127 ≤ code ∧ code < 160) ∨ code = 0xad ∨
      ∃ range ∈ formatRanges, range.1 ≤ code ∧ code ≤ range.2 := by
  simp [isControlOrFormat, or_assoc]

def unicode : Categories where
  isUnsafeControl := isControlOrFormat
  printable := by
    intro code low high
    rw [← Bool.not_eq_true, control_or_format_iff]
    simp only [formatRanges, List.mem_cons, List.not_mem_nil, or_false, exists_eq_or_imp,
      exists_eq_left]
    omega
  apart := by
    intro code other places short long wide some same
    rw [control_or_format_iff] at short long
    simp only [formatRanges, List.mem_cons, List.not_mem_nil, or_false, exists_eq_or_imp,
      exists_eq_left] at short long
    have once : other / 16 ^ places ≤ other / 16 :=
      Nat.div_le_div_left (Nat.le_self_pow some 16) (by decide)
    have high : 65536 ≤ other := by omega
    match places, some with
    | 1, _ =>
      rw [pow_one] at same
      omega
    | more + 2, _ =>
      -- two digits fewer than a code of at most five digits is a short code
      have twice : other / 16 ^ (more + 2) ≤ other / 16 ^ 2 :=
        Nat.div_le_div_left (Nat.pow_le_pow_right (by decide) (by omega)) (by decide)
      omega

def hexLetter (digit : Nat) : Nat := if digit < 10 then 48 + digit else 87 + digit

/-- The digits of a code from the last one on, at least four. -/
def paddedDigits (code : Nat) : List Nat :=
  Nat.digits 16 code ++ List.replicate (4 - (Nat.digits 16 code).length) 0

/-- `f"{ord(character):04x}"`. -/
def hex (code : Nat) : Letters := (paddedDigits code).reverse.map hexLetter

def markdownSpecial : Letters := letters "\\`*_[]"

def newline : Nat := '\n'.toNat

def carriageReturn : Nat := '\r'.toNat

def tab : Nat := '\t'.toNat

def backslash : Nat := '\\'.toNat

def ampersand : Nat := '&'.toNat

def less : Nat := '<'.toNat

def greater : Nat := '>'.toNat

def tick : Nat := 96

section Rendering

variable (table : Categories)

/-- One turn of the loop of `_visible_inline_text`. -/
def inlineCode (markdown : Bool) (letter : Nat) : Letters :=
  if letter = newline then letters "\\n"
  else if letter = carriageReturn then letters "\\r"
  else if letter = tab then letters "\\t"
  else if table.isUnsafeControl letter then letters "\\u" ++ hex letter
  else if markdown ∧ letter = ampersand then letters "&amp;"
  else if markdown ∧ letter ∈ markdownSpecial then [backslash, letter]
  else if markdown ∧ letter = less then letters "&lt;"
  else if markdown ∧ letter = greater then letters "&gt;"
  else [letter]

def visibleInlineText (markdown : Bool) (value : Letters) : Letters :=
  value.flatMap (inlineCode table markdown)

/-- One turn of the loop that measures the runs of backticks: the longest one and the one that
may go on. -/
def runStep (run : Nat × Nat) (letter : Nat) : Nat × Nat :=
  let current := if letter = tick then run.2 + 1 else 0
  (max run.1 current, current)

def longestRun (text : Letters) : Nat := (text.foldl runStep (0, 0)).1

def fence (width : Nat) : Letters := List.replicate width tick

def markdownCode (value : Letters) : Letters :=
  let text := visibleInlineText table false value
  if tick ∉ text then fence 1 ++ text ++ fence 1
  else
    let border := fence (longestRun text + 1)
    border ++ letters " " ++ text ++ letters " " ++ border

/-- `text.replace("\r\n", "\n")`. -/
def joinReturns : Letters → Letters
  | [] => []
  | letter :: rest =>
    if letter = carriageReturn ∧ rest.head? = some newline then joinReturns rest
    else letter :: joinReturns rest

def fencedCode (letter : Nat) : Letters :=
  if letter = newline ∨ letter = tab then [letter]
  else if table.isUnsafeControl letter then letters "\\u" ++ hex letter
  else [letter]

def markdownFencedCode (value : Letters) : Letters :=
  let text := (joinReturns value).map fun letter =>
    if letter = carriageReturn then newline else letter
  let safe := text.flatMap (fencedCode table)
  let border := fence (max 3 (longestRun safe + 1))
  border ++ [newline] ++ safe ++ [newline] ++ border

end Rendering

theorem padded_digits_lt (code : Nat) : ∀ digit ∈ paddedDigits code, digit < 16 := by
  intro digit inside
  rcases List.mem_append.mp inside with written | padding
  · exact Nat.digits_lt_base (by decide) written
  · rw [(List.mem_replicate.mp padding).2]
    decide

theorem padded_digits_value (code : Nat) : Nat.ofDigits 16 (paddedDigits code) = code := by
  rw [paddedDigits, Nat.ofDigits_append_replicate_zero, Nat.ofDigits_digits]

theorem padded_digits_length (code : Nat) :
    4 ≤ (paddedDigits code).length ∧
      (4 < (paddedDigits code).length → 16 ^ (paddedDigits code).length ≤ 16 * code) := by
  have length : (paddedDigits code).length = max (Nat.digits 16 code).length 4 := by
    rw [paddedDigits, List.length_append, List.length_replicate]
    omega
  refine ⟨by omega, fun long => ?_⟩
  have written : (paddedDigits code).length = (Nat.digits 16 code).length := by omega
  have some : code ≠ 0 := by
    rintro rfl
    rw [Nat.digits_zero] at written
    exact absurd long (by rw [written]; decide)
  rw [written]
  exact Nat.base_pow_length_digits_le 16 code (by decide) some

theorem hex_letter_injective {left right : Nat} (leftDigit : left < 16) (rightDigit : right < 16)
    (same : hexLetter left = hexLetter right) : left = right := by
  unfold hexLetter at same
  split at same <;> split at same <;> omega

theorem map_hex_letter_injective (left right : List Nat) (leftDigits : ∀ digit ∈ left, digit < 16)
    (rightDigits : ∀ digit ∈ right, digit < 16)
    (same : left.map hexLetter = right.map hexLetter) : left = right := by
  induction left generalizing right with
  | nil => exact (List.map_eq_nil_iff.mp same.symm).symm
  | cons digit rest ih =>
    cases right with
    | nil => cases same
    | cons other others =>
      simp only [List.map_cons, List.cons.injEq] at same
      simp only [List.forall_mem_cons] at leftDigits rightDigits
      rw [hex_letter_injective leftDigits.1 rightDigits.1 same.1,
        ih others leftDigits.2 rightDigits.2 same.2]

/-- If the digits of one code begin those of another, the first is the second one without its
last digits, and long. -/
theorem hex_begins {code other : Nat} {rest : Letters} (begins : hex other = hex code ++ rest) :
    rest = [] ∧ code = other ∨
      4096 ≤ code ∧ ∃ places, places ≠ 0 ∧ other / 16 ^ places = code := by
  obtain ⟨front, back, cut, fronts, backs⟩ := List.map_eq_append_iff.mp begins
  have digits : ∀ digit ∈ front ++ back, digit < 16 := by
    intro digit inside
    rw [← cut, List.mem_reverse] at inside
    exact padded_digits_lt other digit inside
  have whole : front = (paddedDigits code).reverse := by
    apply map_hex_letter_injective _ _ _ _ fronts
    · exact fun digit inside => digits digit (List.mem_append_left back inside)
    · exact fun digit inside => padded_digits_lt code digit (List.mem_reverse.mp inside)
  have parts : paddedDigits other = back.reverse ++ paddedDigits code := by
    rw [← List.reverse_reverse (paddedDigits other), cut, whole, List.reverse_append,
      List.reverse_reverse]
  have value : other = Nat.ofDigits 16 back.reverse + 16 ^ back.length * code := by
    rw [← padded_digits_value other, parts, Nat.ofDigits_append, List.length_reverse,
      padded_digits_value]
  have low : Nat.ofDigits 16 back.reverse < 16 ^ back.length := by
    rw [← List.length_reverse]
    apply Nat.ofDigits_lt_base_pow_length (by decide)
    exact fun digit inside =>
      digits digit (List.mem_append_right front (List.mem_reverse.mp inside))
  by_cases none : back = []
  · subst none
    refine .inl ⟨backs.symm, ?_⟩
    rw [value]
    simp
  · have some : back.length ≠ 0 := fun zero => none (List.length_eq_zero_iff.mp zero)
    have positive : 0 < 16 ^ back.length := Nat.pow_pos (by decide)
    refine .inr ⟨?_, back.length, some, ?_⟩
    · have length : (paddedDigits other).length = back.length + (paddedDigits code).length := by
        rw [parts, List.length_append, List.length_reverse]
      have least := (padded_digits_length code).1
      have large := (padded_digits_length other).2 (by omega)
      rw [length, pow_add] at large
      have four : 16 ^ 4 ≤ 16 ^ (paddedDigits code).length :=
        Nat.pow_le_pow_right (by decide) least
      have scaled := Nat.mul_le_mul_left (16 ^ back.length) four
      have below : 16 ^ back.length * 16 ^ 4 < 16 ^ back.length * (16 * (code + 1)) :=
        calc 16 ^ back.length * 16 ^ 4 ≤ 16 * other := scaled.trans large
          _ < 16 * (16 ^ back.length + 16 ^ back.length * code) := by omega
          _ = 16 ^ back.length * (16 * (code + 1)) := by ring
      have short := Nat.lt_of_mul_lt_mul_left below
      omega
    · rw [value, Nat.add_mul_div_left _ _ positive, Nat.div_eq_of_lt low, Nat.zero_add]

/-- What a letter is written as in Markdown, by the branch that writes it. -/
inductive Coded (table : Categories) : Nat → Letters → Prop where
  | newline : Coded table newline (letters "\\n")
  | carriageReturn : Coded table carriageReturn (letters "\\r")
  | tab : Coded table tab (letters "\\t")
  | control (letter : Nat) (unsafeControl : table.isUnsafeControl letter = true) :
    Coded table letter (letters "\\u" ++ hex letter)
  | ampersand : Coded table ampersand (letters "&amp;")
  | special (letter : Nat) (special : letter ∈ markdownSpecial) :
    Coded table letter [backslash, letter]
  | less : Coded table less (letters "&lt;")
  | greater : Coded table greater (letters "&gt;")
  | plain (letter : Nat) (other : letter ≠ ampersand) (plain : letter ∉ markdownSpecial) :
    Coded table letter [letter]

section Markdown

variable {table : Categories}

theorem inline_code_coded (letter : Nat) : Coded table letter (inlineCode table true letter) := by
  unfold inlineCode
  split_ifs with isNewline isReturn isTab control isAmpersand special isLess isGreater
  · exact isNewline ▸ .newline
  · exact isReturn ▸ .carriageReturn
  · exact isTab ▸ .tab
  · exact .control letter control
  · exact isAmpersand.2 ▸ .ampersand
  · exact .special letter special.2
  · exact isLess.2 ▸ .less
  · exact isGreater.2 ▸ .greater
  · exact .plain letter (fun same => isAmpersand ⟨rfl, same⟩) fun inside => special ⟨rfl, inside⟩

theorem hex_delimits {left right : Nat} {lefts rights : Letters}
    (leftControl : table.isUnsafeControl left = true)
    (rightControl : table.isUnsafeControl right = true)
    (same : hex left ++ lefts = hex right ++ rights) : left = right ∧ lefts = rights := by
  rcases List.append_eq_append_iff.mp same with ⟨more, longer, follows⟩ | ⟨more, longer, follows⟩
  · rcases hex_begins longer with ⟨rfl, equal⟩ | ⟨wide, places, some, begins⟩
    · exact ⟨equal, follows⟩
    · exact absurd begins (table.apart _ _ places leftControl rightControl wide some)
  · rcases hex_begins longer with ⟨rfl, equal⟩ | ⟨wide, places, some, begins⟩
    · exact ⟨equal.symm, follows.symm⟩
    · exact absurd begins (table.apart _ _ places rightControl leftControl wide some)

theorem coded_delimits {left right : Nat} {leftCode rightCode lefts rights : Letters}
    (leftCoded : Coded table left leftCode) (rightCoded : Coded table right rightCode)
    (same : leftCode ++ lefts = rightCode ++ rights) : left = right ∧ lefts = rights := by
  cases leftCoded with
  | control _ leftControl =>
    cases rightCoded with
    | control _ rightControl =>
      exact hex_delimits leftControl rightControl (by simpa [letters] using same)
    | _ =>
      simp [letters, markdownSpecial, ampersand, backslash] at *
      try grind
  | _ =>
    -- the second letter of an escape, or the first one, tells the branches apart
    cases rightCoded <;>
      simp [letters, markdownSpecial, newline, carriageReturn, tab, ampersand, less, greater,
        backslash] at * <;>
      grind

theorem inline_code_ne_nil (letter : Nat) : inlineCode table true letter ≠ [] := by
  have coded : Coded table letter (inlineCode table true letter) := inline_code_coded letter
  generalize inlineCode table true letter = code at coded
  cases coded <;> exact List.cons_ne_nil _ _

theorem visible_markdown_injective : Function.Injective (visibleInlineText table true) := by
  intro left
  induction left with
  | nil =>
    intro right same
    cases right with
    | nil => rfl
    | cons letter rest =>
      exact absurd (List.append_eq_nil_iff.mp same.symm).1 (inline_code_ne_nil letter)
  | cons letter rest ih =>
    intro right same
    cases right with
    | nil => exact absurd (List.append_eq_nil_iff.mp same).1 (inline_code_ne_nil letter)
    | cons other others =>
      simp only [visibleInlineText, List.flatMap_cons] at same
      have head := coded_delimits (inline_code_coded letter) (inline_code_coded other) same
      rw [head.1, ih head.2]

end Markdown

section

variable (table : Categories)

theorem hex_printable (code : Nat) : ∀ letter ∈ hex code, 32 ≤ letter ∧ letter < 127 := by
  intro letter inside
  obtain ⟨digit, digits, rfl⟩ := List.mem_map.mp inside
  have small := padded_digits_lt code digit (List.mem_reverse.mp digits)
  unfold hexLetter
  split <;> omega

theorem inline_code_letters (markdown : Bool) (letter : Nat) :
    inlineCode table markdown letter = [letter] ∧ table.isUnsafeControl letter = false ∨
      1 < (inlineCode table markdown letter).length ∧
        ∀ written ∈ inlineCode table markdown letter, 32 ≤ written ∧ written < 127 := by
  unfold inlineCode
  split_ifs with isNewline isReturn isTab control isAmpersand special isLess isGreater
  · exact .inr (by decide)
  · exact .inr (by decide)
  · exact .inr (by decide)
  · refine .inr ⟨by simp [letters], fun written inside => ?_⟩
    have start : ∀ each ∈ letters "\\u", 32 ≤ each ∧ each < 127 := by decide
    rcases List.mem_append.mp inside with head | digits
    · exact start written head
    · exact hex_printable letter written digits
  · exact .inr (by decide)
  · have printable : ∀ each ∈ markdownSpecial, 32 ≤ each ∧ each < 127 := by decide
    refine .inr ⟨Nat.one_lt_two, fun written inside => ?_⟩
    rcases List.mem_cons.mp inside with rfl | last
    · decide
    · exact List.mem_singleton.mp last ▸ printable letter special.2
  · exact .inr (by decide)
  · exact .inr (by decide)
  · exact .inl ⟨rfl, Bool.not_eq_true _ ▸ control⟩

theorem visible_text_safe (markdown : Bool) (text : Letters) :
    ∀ letter ∈ visibleInlineText table markdown text, table.isUnsafeControl letter = false := by
  intro letter inside
  obtain ⟨source, _, written⟩ := List.mem_flatMap.mp inside
  rcases inline_code_letters table markdown source with ⟨kept, safe⟩ | ⟨_, printable⟩
  · rw [kept, List.mem_singleton] at written
    exact written ▸ safe
  · have range := printable letter written
    exact table.printable letter range.1 range.2

/-- The letters that are escaped without Markdown as well. -/
def Escaped (letter : Nat) : Prop :=
  letter = newline ∨ letter = carriageReturn ∨ letter = tab ∨ table.isUnsafeControl letter = true

theorem inline_code_unescaped {letter : Nat} (free : ¬Escaped table letter) :
    inlineCode table false letter = [letter] := by
  simp only [Escaped, not_or] at free
  simp [inlineCode, free]

theorem inline_code_escaped {letter : Nat} (escaped : Escaped table letter) :
    1 < (inlineCode table false letter).length ∧
      ∀ written ∈ inlineCode table false letter, 32 ≤ written ∧ written < 127 := by
  rcases inline_code_letters table false letter with ⟨kept, safe⟩ | coded
  · rcases escaped with rfl | rfl | rfl | control
    · cases kept
    · cases kept
    · cases kept
    · rw [safe] at control
      cases control
  · exact coded

theorem visible_unescaped (text : Letters) (free : ∀ letter ∈ text, ¬Escaped table letter) :
    visibleInlineText table false text = text := by
  induction text with
  | nil => rfl
  | cons letter rest ih =>
    rw [List.forall_mem_cons] at free
    have tail := ih free.2
    rw [visibleInlineText] at tail
    rw [visibleInlineText, List.flatMap_cons, inline_code_unescaped table free.1, tail]
    rfl

theorem visible_spelled {letter : Nat} (escaped : Escaped table letter) :
    visibleInlineText table false (inlineCode table false letter) =
      inlineCode table false letter := by
  apply visible_unescaped
  intro written inside
  have range := (inline_code_escaped table escaped).2 written inside
  rintro (rfl | rfl | rfl | control)
  · exact absurd range (by decide)
  · exact absurd range (by decide)
  · exact absurd range (by decide)
  · rw [table.printable written range.1 range.2] at control
    cases control

/-- A letter that is escaped is not in the text, neither itself nor as its escape. -/
def Unspoiled (text : Letters) : Prop :=
  ∀ letter, Escaped table letter → letter ∉ text ∧ ¬inlineCode table false letter <:+: text

theorem visible_spelled_out (before after : Letters) {letter : Nat}
    (escaped : Escaped table letter) :
    before ++ letter :: after ≠ before ++ inlineCode table false letter ++ after ∧
      visibleInlineText table false (before ++ letter :: after) =
        visibleInlineText table false (before ++ inlineCode table false letter ++ after) := by
  constructor
  · intro same
    have lengths := congrArg List.length same
    have long := (inline_code_escaped table escaped).1
    simp only [List.length_append, List.length_cons] at lengths
    omega
  · have spelled := visible_spelled table escaped
    rw [visibleInlineText] at spelled
    simp only [visibleInlineText, List.flatMap_append, List.flatMap_cons, spelled,
      List.append_assoc]

theorem visible_plain_alone_iff (text : Letters) :
    (∀ other, other ≠ text →
      visibleInlineText table false other ≠ visibleInlineText table false text) ↔
      Unspoiled table text := by
  constructor
  · intro alone letter escaped
    constructor
    · intro inside
      obtain ⟨before, after, rfl⟩ := List.append_of_mem inside
      have both := visible_spelled_out table before after escaped
      exact alone _ both.1.symm both.2.symm
    · rintro ⟨before, after, rfl⟩
      have both := visible_spelled_out table before after escaped
      exact alone _ both.1 both.2
  · intro unspoiled other different same
    rw [visible_unescaped table text fun letter inside escaped =>
      (unspoiled letter escaped).1 inside] at same
    have free : ∀ letter ∈ other, ¬Escaped table letter := by
      intro letter inside escaped
      obtain ⟨before, after, rfl⟩ := List.append_of_mem inside
      apply (unspoiled letter escaped).2
      refine ⟨visibleInlineText table false before, visibleInlineText table false after, ?_⟩
      rw [← same]
      simp [visibleInlineText]
    exact different (by rw [← same, visible_unescaped table other free])

end

theorem run_step_current (letters : Letters) (run : Nat × Nat) :
    run.1 ≤ (letters.foldl runStep run).1 := by
  induction letters generalizing run with
  | nil => exact le_rfl
  | cons letter rest ih => exact (le_max_left _ _).trans (ih (runStep run letter))

theorem run_of_ticks (width : Nat) (run : Nat × Nat) (ordered : run.2 ≤ run.1) :
    run.2 + width ≤ ((fence width).foldl runStep run).1 := by
  induction width generalizing run with
  | zero => exact ordered
  | succ width ih =>
    rw [fence, List.replicate_succ, List.foldl_cons]
    have turn : runStep run tick = (max run.1 (run.2 + 1), run.2 + 1) := by simp [runStep]
    rw [turn]
    have later := ih (max run.1 (run.2 + 1), run.2 + 1) (le_max_right _ _)
    rw [fence] at later
    omega

theorem run_ordered (letters : Letters) (run : Nat × Nat) (ordered : run.2 ≤ run.1) :
    (letters.foldl runStep run).2 ≤ (letters.foldl runStep run).1 := by
  induction letters generalizing run with
  | nil => exact ordered
  | cons letter rest ih => exact ih _ (le_max_right _ _)

theorem fence_le_longest_run {width : Nat} {text : Letters} (inside : fence width <:+: text) :
    width ≤ longestRun text := by
  obtain ⟨before, after, rfl⟩ := inside
  rw [longestRun, List.foldl_append, List.foldl_append]
  have start := run_ordered before (0, 0) le_rfl
  have run := run_of_ticks width (before.foldl runStep (0, 0)) start
  have kept := run_step_current after ((fence width).foldl runStep (before.foldl runStep (0, 0)))
  omega

theorem longest_run_bordered {border : Nat} (other : border ≠ tick) (text : Letters) :
    longestRun ([border] ++ text ++ [border]) = longestRun text := by
  have turn : ∀ run : Nat × Nat, runStep run border = (run.1, 0) := by
    intro run
    simp [runStep, other]
  rw [longestRun, List.foldl_append, List.foldl_append, List.foldl_cons, List.foldl_nil, turn,
    List.foldl_cons, List.foldl_nil, turn]
  rfl

/-- What stands between two fences, with no run of backticks as long as they are. -/
def Enclosed (shown text : Letters) : Prop :=
  ∃ width body, 0 < width ∧ shown = fence width ++ body ++ fence width ∧ text <:+: body ∧
    ¬fence width <:+: body

theorem enclosed_of_run {border width : Nat} (other : border ≠ tick) {text : Letters}
    (long : longestRun text < width) :
    Enclosed (fence width ++ [border] ++ text ++ [border] ++ fence width) text := by
  refine ⟨width, [border] ++ text ++ [border], by omega, by simp, ⟨[border], [border], rfl⟩, ?_⟩
  intro inside
  have bound := fence_le_longest_run inside
  rw [longest_run_bordered other] at bound
  omega

theorem markdown_code_enclosed (table : Categories) (value : Letters) :
    Enclosed (markdownCode table value) (visibleInlineText table false value) := by
  unfold markdownCode
  by_cases free : tick ∉ visibleInlineText table false value
  · rw [if_pos free]
    refine ⟨1, visibleInlineText table false value, Nat.one_pos, rfl, List.infix_rfl, ?_⟩
    exact fun inside => free (inside.subset (List.mem_singleton_self tick))
  · rw [if_neg free]
    exact enclosed_of_run (by decide) (Nat.lt_succ_self _)

def fencedText (table : Categories) (value : Letters) : Letters :=
  ((joinReturns value).map fun letter =>
    if letter = carriageReturn then newline else letter).flatMap (fencedCode table)

theorem markdown_fenced_code_enclosed (table : Categories) (value : Letters) :
    Enclosed (markdownFencedCode table value) (fencedText table value) := by
  apply enclosed_of_run (by decide)
  exact lt_of_lt_of_le (Nat.lt_succ_self _) (le_max_right _ _)

/-- No other text is shown as this one; what is shown has no control or format character, and no
code span or block can be closed from inside. -/
def Faithful (table : Categories) (markdown : Bool) (text : Letters) : Prop :=
  (∀ other, other ≠ text →
      visibleInlineText table markdown other ≠ visibleInlineText table markdown text) ∧
    (∀ letter ∈ visibleInlineText table markdown text, table.isUnsafeControl letter = false) ∧
    Enclosed (markdownCode table text) (visibleInlineText table false text) ∧
    Enclosed (markdownFencedCode table text) (fencedText table text)

theorem report_faithful_iff (table : Categories) (markdown : Bool) (text : Letters) :
    Faithful table markdown text ↔ markdown = true ∨ Unspoiled table text := by
  have always : Faithful table markdown text ↔ ∀ other, other ≠ text →
      visibleInlineText table markdown other ≠ visibleInlineText table markdown text :=
    ⟨And.left, fun alone => ⟨alone, visible_text_safe table markdown text,
      markdown_code_enclosed table text, markdown_fenced_code_enclosed table text⟩⟩
  rw [always]
  cases markdown with
  | true =>
    refine ⟨fun _ => .inl rfl, fun _ other different same => ?_⟩
    exact different (visible_markdown_injective same)
  | false =>
    rw [visible_plain_alone_iff]
    simp

/-- A line feed and the two letters of its escape are shown alike where Markdown is off. -/
theorem spelled_newline_collides :
    ¬∀ (table : Categories) (markdown : Bool) (text : Letters), Faithful table markdown text := by
  intro every
  exact (every unicode false (letters "\\n")).1 [newline] (by decide) rfl

end EvoomGuard.Integrations.ReportText
