import EvoomGuard.Lib.Text
import Mathlib.Data.List.TakeWhile

/-!
The lexical rules of Windows paths, after the `ntpath` module of the Python standard library:
the split into drive, root and rest, joining, absolute paths, and extensions. `lower` is the
lower case in which drives are compared.
-/

namespace EvoomGuard.Lib.NtPath

def isSeparator (character : Char) : Bool := character == '\\' || character == '/'

def beforeSeparator (text : Text) : Text := text.takeWhile (!isSeparator ·)

def fromSeparator (text : Text) : Text := text.dropWhile (!isSeparator ·)

def endsSeparated (text : Text) : Bool := text.getLast?.any isSeparator

structure Split where
  drive : Text
  root : Text
  path : Text
  deriving DecidableEq

/-- `\\?\UNC\`, with either separator and in either case. -/
def hasUncPrefix (path : Text) : Bool :=
  path[7]?.any isSeparator &&
    (path.take 7).map (fun character =>
      if isSeparator character then '\\' else character.toUpper) == "\\\\?\\UNC"

/-- A path that starts with two separators: the drive is the server and the share. -/
def splitShare (path : Text) : Split :=
  let start := if hasUncPrefix path then 8 else 2
  let server := path.take start ++ beforeSeparator (path.drop start)
  match fromSeparator (path.drop start) with
  | [] => ⟨path, [], []⟩
  | separator :: rest =>
    match fromSeparator rest with
    | [] => ⟨path, [], []⟩
    | root :: tail => ⟨server ++ separator :: beforeSeparator rest, [root], tail⟩

def splitroot (path : Text) : Split :=
  match path with
  | [] => ⟨[], [], []⟩
  | [only] => if isSeparator only then ⟨[], [only], []⟩ else ⟨[], [], [only]⟩
  | first :: second :: rest =>
    if isSeparator first then
      if isSeparator second then splitShare path else ⟨[], [first], second :: rest⟩
    else if second = ':' then
      match rest with
      | [] => ⟨[first, second], [], []⟩
      | third :: tail =>
        if isSeparator third then ⟨[first, second], [third], tail⟩
        else ⟨[first, second], [], rest⟩
    else ⟨[], [], path⟩

/-- A path that something can be appended to. -/
def closed (path : Text) : Text :=
  if path = [] ∨ endsSeparated path = true then path else path ++ ['\\']

/-- A share and what is not rooted get a separator between them. -/
def assemble (parts : Split) : Text :=
  if parts.path ≠ [] ∧ parts.root = [] ∧ parts.drive ≠ [] ∧
      endsSeparated parts.drive = false ∧ parts.drive.getLast? ≠ some ':' then
    parts.drive ++ '\\' :: parts.path
  else parts.drive ++ parts.root ++ parts.path

/-- `ntpath.join` of two paths. -/
def join (lower : Text → Text) (base next : Text) : Text :=
  let left := splitroot base
  let right := splitroot next
  assemble <|
    if right.root ≠ [] then
      ⟨if right.drive ≠ [] ∨ left.drive = [] then right.drive else left.drive, right.root,
        right.path⟩
    else if right.drive ≠ [] ∧ right.drive ≠ left.drive ∧ lower right.drive ≠ lower left.drive then
      right
    else
      ⟨if right.drive = [] then left.drive else right.drive, left.root,
        closed left.path ++ right.path⟩

/-- `ntpath.isabs`; before Python 3.13 a root without a drive was enough. -/
def isabs (rootIsEnough : Bool) : Text → Bool
  | [] => false
  | [only] => rootIsEnough && isSeparator only
  | first :: second :: rest =>
    isSeparator first && (rootIsEnough || isSeparator second) ||
      second == ':' && rest.head?.any isSeparator

def lastComponent (path : Text) : Text := (path.reverse.takeWhile (!isSeparator ·)).reverse

def basename (path : Text) : Text := lastComponent (splitroot path).path

/-- From the last dot on; dots in front of a name start no extension. -/
def nameExtension (name : Text) : Text :=
  let body := name.dropWhile (· == '.')
  if '.' ∈ body then '.' :: (body.reverse.takeWhile (· != '.')).reverse else []

/-- `ntpath.splitext(path)[1]`. -/
def extension (path : Text) : Text := nameExtension (lastComponent path)

/-- `ntpath.splitext(path)`. -/
def splitext (path : Text) : Text × Text :=
  (path.take (path.length - (extension path).length), extension path)

/-- A text without separators. -/
def Plain (name : Text) : Prop := ∀ character ∈ name, isSeparator character = false

def OnlyDots (name : Text) : Prop := ∀ character ∈ name, character = '.'

instance (name : Text) : Decidable (Plain name) := List.decidableBAll _ name

instance (name : Text) : Decidable (OnlyDots name) := List.decidableBAll _ name

theorem plain_append {first second : Text} (left : Plain first) (right : Plain second) :
    Plain (first ++ second) := by
  intro character member
  exact (List.mem_append.1 member).elim (left character) (right character)

variable {name : Text}

theorem takeWhile_plain (plain : Plain name) (rest : Text) :
    (name ++ rest).takeWhile (!isSeparator ·) = name ++ rest.takeWhile (!isSeparator ·) := by
  apply List.takeWhile_append_of_pos
  intro character member
  simp [plain character member]

theorem last_component_plain (plain : Plain name) : lastComponent name = name := by
  have reversed : Plain name.reverse := fun character member =>
    plain character (List.mem_reverse.1 member)
  have taken := takeWhile_plain reversed []
  rw [List.append_nil, List.takeWhile_nil, List.append_nil] at taken
  rw [lastComponent, taken, List.reverse_reverse]

theorem last_component_append (plain : Plain name) (front : Text) (separator : Char)
    (separates : isSeparator separator = true) :
    lastComponent (front ++ separator :: name) = name := by
  have reversed : Plain name.reverse := fun character member =>
    plain character (List.mem_reverse.1 member)
  have taken := takeWhile_plain reversed (separator :: front.reverse)
  rw [List.takeWhile_cons_of_neg (by simp [separates]), List.append_nil] at taken
  rw [lastComponent, List.reverse_append, List.reverse_cons, List.append_assoc,
    List.singleton_append, taken, List.reverse_reverse]

theorem dropWhile_dots (dots : OnlyDots name) (rest : Text) :
    (name ++ rest).dropWhile (· == '.') = rest.dropWhile (· == '.') := by
  apply List.dropWhile_append_of_pos
  intro character member
  simp [dots character member]

theorem name_extension_dots (dots : OnlyDots name) : nameExtension name = [] := by
  have dropped := dropWhile_dots dots []
  rw [List.append_nil, List.dropWhile_nil] at dropped
  simp [nameExtension, dropped]

theorem name_extension_dots_append {name suffix : Text} (dots : OnlyDots name)
    (dotless : '.' ∉ suffix) : nameExtension (name ++ '.' :: suffix) = [] := by
  have dropped := dropWhile_dots dots ('.' :: suffix)
  rw [List.dropWhile_cons_of_pos (by decide)] at dropped
  have none : '.' ∉ suffix.dropWhile (· == '.') := fun member =>
    dotless (List.dropWhile_sublist _ |>.subset member)
  simp only [nameExtension, dropped, none, if_false]

theorem name_extension_append {name suffix : Text} (letter : ¬ OnlyDots name)
    (dotless : '.' ∉ suffix) : nameExtension (name ++ '.' :: suffix) = '.' :: suffix := by
  have body : ∃ front, (name ++ '.' :: suffix).dropWhile (· == '.') = front ++ '.' :: suffix := by
    induction name with
    | nil => exact absurd (fun _ member => nomatch member) letter
    | cons character rest ih =>
      by_cases dot : character = '.'
      · obtain ⟨front, dropped⟩ := ih fun dots => letter fun other member =>
          (List.mem_cons.1 member).elim (fun same => same.trans dot) (dots other)
        refine ⟨front, ?_⟩
        rw [List.cons_append, List.dropWhile_cons_of_pos (by simp [dot]), dropped]
      · refine ⟨character :: rest, ?_⟩
        exact List.dropWhile_cons_of_neg (by simp [dot])
  obtain ⟨front, dropped⟩ := body
  have reversed : ∀ other ∈ suffix.reverse, (other != '.') = true := by
    intro other member
    rw [bne_iff_ne]
    rintro rfl
    exact dotless (List.mem_reverse.1 member)
  have taken : (suffix.reverse ++ '.' :: front.reverse).takeWhile (· != '.') = suffix.reverse := by
    rw [List.takeWhile_append_of_pos reversed, List.takeWhile_cons_of_neg (by decide),
      List.append_nil]
  simp only [nameExtension, dropped]
  rw [if_pos (List.mem_append_right _ List.mem_cons_self), List.reverse_append, List.reverse_cons,
    List.append_assoc, List.singleton_append, taken, List.reverse_reverse]

theorem before_from_separator (text : Text) : beforeSeparator text ++ fromSeparator text = text :=
  List.takeWhile_append_dropWhile

theorem split_share_rejoined (path : Text) :
    (splitShare path).drive ++ (splitShare path).root ++ (splitShare path).path = path := by
  unfold splitShare
  generalize (if hasUncPrefix path then 8 else 2) = start
  dsimp only
  have parted := before_from_separator (path.drop start)
  split
  · simp
  · next separator rest found =>
      have again := before_from_separator rest
      split
      · simp
      · next root tail ends =>
          rw [ends] at again
          rw [found, ← again] at parted
          calc
            _ = path.take start ++
                (beforeSeparator (path.drop start) ++
                  separator :: (beforeSeparator rest ++ root :: tail)) := by simp
            _ = path := by rw [parted, List.take_append_drop]

theorem splitroot_rejoined (path : Text) :
    (splitroot path).drive ++ (splitroot path).root ++ (splitroot path).path = path := by
  unfold splitroot
  split
  · rfl
  · split_ifs <;> rfl
  · next first second rest =>
      split_ifs
      · exact split_share_rejoined _
      · rfl
      · split
        · rfl
        · split_ifs <;> rfl
      · rfl

/-- The second character is a colon: the text has the form of a path with a drive. -/
def hasDrive (name : Text) : Bool := (name.drop 1).head? == some ':'

theorem splitroot_name {name : Text} (plain : Plain name) (driveless : hasDrive name = false) :
    splitroot name = ⟨[], [], name⟩ := by
  unfold splitroot
  split
  · rfl
  · next only => rw [plain only List.mem_cons_self]; rfl
  · next first second rest =>
      rw [plain first List.mem_cons_self]
      have other : second ≠ ':' := by
        rintro rfl
        cases driveless
      simp [other]

theorem has_drive_cases {name : Text} (driven : hasDrive name = true) :
    ∃ letter rest, name = letter :: ':' :: rest := by
  match name, driven with
  | letter :: second :: rest, driven =>
    have colon : second = ':' := by simpa [hasDrive] using driven
    exact ⟨letter, rest, colon ▸ rfl⟩

theorem splitroot_drive {letter : Char} {rest : Text} (plain : Plain (letter :: ':' :: rest)) :
    splitroot (letter :: ':' :: rest) = ⟨[letter, ':'], [], rest⟩ := by
  have first := plain letter List.mem_cons_self
  unfold splitroot
  cases rest with
  | nil => simp [first]
  | cons third tail =>
    have last := plain third (by simp)
    simp [first, last]

def within (directory name : Text) : Text :=
  (if endsSeparated directory then directory else directory ++ ['\\']) ++ name

theorem ends_separated_append {last : Text} (some : last ≠ []) (front : Text) :
    endsSeparated (front ++ last) = endsSeparated last := by
  rw [endsSeparated, endsSeparated, List.getLast?_append_of_ne_nil _ some]

theorem within_eq_closed {directory : Text} (some : directory ≠ []) (name : Text) :
    within directory name = closed directory ++ name := by
  simp only [within, closed, some, false_or]

theorem within_separated {directory : Text} (some : directory ≠ []) :
    ∃ front separator, isSeparator separator = true ∧
      ∀ name, within directory name = front ++ separator :: name := by
  by_cases ended : endsSeparated directory = true
  · have last := List.getLast?_eq_getLast_of_ne_nil some
    refine ⟨directory.dropLast, directory.getLast some, ?_, fun name => ?_⟩
    · rw [endsSeparated, last] at ended
      exact ended
    · rw [within, if_pos ended, List.append_cons, List.dropLast_append_getLast some]
  · exact ⟨directory, '\\', rfl, fun name => by simp [within, ended]⟩

theorem not_plain_within (directory name : Text) : ¬ Plain (within directory name) := by
  intro plain
  by_cases empty : directory = []
  · subst empty
    have other := plain '\\' List.mem_cons_self
    cases other
  · obtain ⟨front, separator, separates, form⟩ := within_separated empty
    have other := plain separator (by rw [form]; simp)
    rw [separates] at other
    cases other

theorem extension_within {directory name : Text} (some : directory ≠ []) (plain : Plain name) :
    extension (within directory name) = nameExtension name := by
  obtain ⟨front, separator, separates, form⟩ := within_separated some
  rw [extension, form, last_component_append plain front separator separates]

theorem closed_append {last : Text} (some : last ≠ []) (front : Text) :
    closed (front ++ last) = front ++ closed last := by
  have nonempty : front ++ last ≠ [] := List.append_ne_nil_of_right_ne_nil _ some
  simp only [closed, nonempty, some, false_or, ends_separated_append some]
  split_ifs
  · rfl
  · exact List.append_assoc _ _ _

theorem from_separator_cons {text : Text} {character : Char} {rest : Text}
    (found : fromSeparator text = character :: rest) : isSeparator character = true := by
  have stopped := List.head?_dropWhile_not (!isSeparator ·) text
  rw [fromSeparator] at found
  rw [found] at stopped
  simpa using stopped

theorem from_separator_append_nil {text more : Text} (none : fromSeparator text = [])
    (plain : Plain more) : fromSeparator (text ++ more) = [] := by
  rw [fromSeparator, List.dropWhile_eq_nil_iff] at none ⊢
  intro character member
  rcases List.mem_append.1 member with early | late
  · exact none character early
  · simp [plain character late]

theorem from_separator_append_cons {text more rest : Text} {separator : Char}
    (found : fromSeparator text = separator :: rest) :
    fromSeparator (text ++ more) = separator :: (rest ++ more) := by
  have parted := before_from_separator text
  rw [found] at parted
  have before : ∀ character ∈ beforeSeparator text, (!isSeparator character) = true := by
    intro character member
    exact List.mem_takeWhile_imp (p := (!isSeparator ·)) member
  rw [fromSeparator, ← parted, List.append_assoc, List.dropWhile_append_of_pos before,
    List.cons_append, List.dropWhile_cons_of_neg]
  simp [from_separator_cons found]

theorem split_share_cases (path : Text) :
    (∃ drive root tail, splitShare path = ⟨drive, [root], tail⟩ ∧ isSeparator root = true) ∨
      splitShare path = ⟨path, [], []⟩ := by
  unfold splitShare
  generalize (if hasUncPrefix path then 8 else 2) = start
  dsimp only
  split
  · exact .inr rfl
  · split
    · exact .inr rfl
    · next root tail ends => exact .inl ⟨_, root, tail, rfl, from_separator_cons ends⟩

theorem has_unc_prefix_append (path : Text) {more : Text} (plain : Plain more) :
    hasUncPrefix (path ++ more) = hasUncPrefix path := by
  by_cases long : 8 ≤ path.length
  · rw [hasUncPrefix, List.getElem?_append_left (by omega), List.take_append_of_le_length (by omega)]
    rfl
  · have short : path[7]? = none := List.getElem?_eq_none (by omega)
    have later : (path ++ more)[7]?.any isSeparator = false := by
      rw [List.getElem?_append_right (by omega)]
      cases found : more[7 - path.length]? with
      | none => rfl
      | some character => exact plain character (List.mem_of_getElem? found)
    rw [hasUncPrefix, hasUncPrefix, later, short]
    rfl

theorem split_share_append {first second : Char} {rest more : Text} (plain : Plain more)
    (share : splitShare (first :: second :: rest) = ⟨first :: second :: rest, [], []⟩) :
    (splitShare (first :: second :: (rest ++ more))).path = [] := by
  have prefixed : hasUncPrefix (first :: second :: (rest ++ more)) =
      hasUncPrefix (first :: second :: rest) := has_unc_prefix_append (first :: second :: rest) plain
  have reaches : (if hasUncPrefix (first :: second :: rest) then 8 else 2) ≤
      (first :: second :: rest).length := by
    split_ifs with shared
    · have last := (Bool.and_eq_true_iff.1 shared).1
      by_contra short
      rw [List.getElem?_eq_none (by omega)] at last
      cases last
    · simp
  have dropped : ∀ start, start ≤ (first :: second :: rest).length →
      (first :: second :: (rest ++ more)).drop start =
        (first :: second :: rest).drop start ++ more := by
    intro start inside
    exact @List.drop_append_of_le_length _ (first :: second :: rest) more start inside
  unfold splitShare at share ⊢
  rw [prefixed]
  generalize (if hasUncPrefix (first :: second :: rest) then 8 else 2) = start at *
  dsimp only at share ⊢
  rw [dropped start reaches]
  cases server : fromSeparator ((first :: second :: rest).drop start) with
  | nil => rw [from_separator_append_nil server plain]
  | cons separator tail =>
    rw [from_separator_append_cons server]
    dsimp only
    rw [server] at share
    dsimp only at share
    cases ends : fromSeparator tail with
    | nil => rw [from_separator_append_nil ends plain]
    | cons root below =>
      rw [ends] at share
      exact absurd (congrArg Split.root share) (List.cons_ne_nil _ _)

theorem splitroot_absolute {rootIsEnough : Bool} {path : Text}
    (absolute : isabs rootIsEnough path = true) :
    (∃ drive root tail, splitroot path = ⟨drive, [root], tail⟩ ∧ isSeparator root = true) ∨
      ∃ first second rest, path = first :: second :: rest ∧ isSeparator first = true ∧
        isSeparator second = true ∧ splitShare path = ⟨path, [], []⟩ := by
  match path, absolute with
  | [only], absolute =>
    have separates : isSeparator only = true := (Bool.and_eq_true_iff.1 absolute).2
    exact .inl ⟨[], only, [], by simp [splitroot, separates], separates⟩
  | first :: second :: rest, absolute =>
    by_cases begun : isSeparator first = true
    · by_cases share : isSeparator second = true
      · have split : splitroot (first :: second :: rest) = splitShare (first :: second :: rest) := by
          simp [splitroot, begun, share]
        rcases split_share_cases (first :: second :: rest) with rooted | alone
        · rw [split]
          exact .inl rooted
        · exact .inr ⟨first, second, rest, rfl, begun, share, alone⟩
      · exact .inl ⟨[], first, second :: rest, by simp [splitroot, begun, share], begun⟩
    · simp only [isabs, begun, Bool.false_and, Bool.false_or, Bool.and_eq_true,
        beq_iff_eq] at absolute
      obtain ⟨rfl, third⟩ := absolute
      cases rest with
      | nil => cases third
      | cons root tail =>
        have separates : isSeparator root = true := by simpa using third
        exact .inl ⟨[first, ':'], root, tail, by simp [splitroot, begun, separates], separates⟩

theorem split_share_drive (first : Char) (rest : Text) :
    first ∈ (splitShare (first :: rest)).drive := by
  unfold splitShare
  have positive : ∃ start, (if hasUncPrefix (first :: rest) then 8 else 2) = start + 1 := by
    split_ifs
    · exact ⟨7, rfl⟩
    · exact ⟨1, rfl⟩
  obtain ⟨start, counted⟩ := positive
  rw [counted]
  dsimp only
  split
  · exact List.mem_cons_self
  · split
    · exact List.mem_cons_self
    · exact List.mem_append_left _ (List.mem_append_left _ List.mem_cons_self)

theorem splitroot_drive_cases (path : Text) :
    (splitroot path).drive = [] ∨ (∃ letter, (splitroot path).drive = [letter, ':']) ∨
      ∃ first rest, path = first :: rest ∧ isSeparator first = true ∧
        splitroot path = splitShare path := by
  unfold splitroot
  split
  · exact .inl rfl
  · split_ifs <;> exact .inl rfl
  · next first second rest =>
      split_ifs with begun share colon
      · exact .inr (.inr ⟨first, second :: rest, rfl, begun, rfl⟩)
      · exact .inl rfl
      · subst colon
        split
        · exact .inr (.inl ⟨first, rfl⟩)
        · split_ifs <;> exact .inr (.inl ⟨first, rfl⟩)
      · exact .inl rfl

theorem assemble_rooted (drive path : Text) (root : Char) :
    assemble ⟨drive, [root], path⟩ = drive ++ root :: path := by
  simp [assemble]

theorem closed_rooted {root : Char} (drive tail : Text) (separates : isSeparator root = true) :
    closed (drive ++ [root] ++ tail) = drive ++ root :: closed tail := by
  by_cases empty : tail = []
  · subst empty
    simp [closed, endsSeparated, separates]
  · rw [closed_append empty, List.append_assoc]
    rfl

theorem join_below {base next drive tail own path : Text} {root : Char} (lower : Text → Text)
    (left : splitroot base = ⟨drive, [root], tail⟩) (separates : isSeparator root = true)
    (right : splitroot next = ⟨own, [], path⟩) (same : own = [] ∨ own = drive) :
    join lower base next = within base path := by
  have joined : join lower base next = assemble ⟨drive, [root], closed tail ++ path⟩ := by
    rcases same with rfl | rfl <;> simp [join, left, right]
  have whole := splitroot_rejoined base
  rw [left] at whole
  rw [joined, assemble_rooted, ← whole, within_eq_closed (by simp),
    closed_rooted drive tail separates, List.append_assoc]
  rfl

/-- Joining a plain name to an absolute path names something within it, except for a share that
ends in a colon. -/
theorem join_name {rootIsEnough : Bool} {base name : Text} (lower : Text → Text)
    (absolute : isabs rootIsEnough base = true) (plain : Plain name)
    (driveless : hasDrive name = false) (some : name ≠ []) :
    join lower base name = within base name ∨
      join lower base name = base ++ name ∧ ∀ more, Plain more →
        (splitroot (base ++ more)).path = [] := by
  rcases splitroot_absolute absolute with ⟨drive, root, tail, split, separates⟩ | share
  · exact .inl (join_below lower split separates (splitroot_name plain driveless) (.inl rfl))
  · obtain ⟨first, second, rest, rfl, begun, doubled, alone⟩ := share
    have split : splitroot (first :: second :: rest) = ⟨first :: second :: rest, [], []⟩ := by
      rw [← alone]
      simp [splitroot, begun, doubled]
    have joined : join lower (first :: second :: rest) name =
        assemble ⟨first :: second :: rest, [], name⟩ := by
      simp [join, splitroot_name plain driveless, split, closed]
    rw [joined]
    by_cases colon : (first :: second :: rest).getLast? = Option.some ':'
    · right
      refine ⟨by simp [assemble, colon], fun more plainMore => ?_⟩
      have appended := split_share_append plainMore alone
      simpa [splitroot, begun, doubled] using appended
    · left
      by_cases ended : endsSeparated (first :: second :: rest) = true
      · simp [assemble, within, ended]
      · have other : (second :: rest).getLast? ≠ Option.some ':' := by
          rwa [List.getLast?_cons_cons] at colon
        simp [assemble, within, ended, some, other]

theorem join_drive {lower : Text → Text} {rootIsEnough : Bool} {base rest : Text} {letter : Char}
    (absolute : isabs rootIsEnough base = true) (plain : Plain (letter :: ':' :: rest))
    (same : lower [letter, ':'] = lower (splitroot base).drive →
      ∃ other, (splitroot base).drive = [other, ':']) :
    join lower base (letter :: ':' :: rest) = letter :: ':' :: rest ∨
      lower [letter, ':'] = lower (splitroot base).drive ∧
        join lower base (letter :: ':' :: rest) =
          within ([letter, ':'] ++ (splitroot base).root ++ (splitroot base).path) rest := by
  have right := splitroot_drive plain
  by_cases other : [letter, ':'] ≠ (splitroot base).drive ∧
      lower [letter, ':'] ≠ lower (splitroot base).drive
  · left
    simp [join, right, other, assemble]
  · right
    have equal : lower [letter, ':'] = lower (splitroot base).drive := by
      by_contra differs
      exact other ⟨fun spelled => differs (congrArg lower spelled), differs⟩
    obtain ⟨letter', driven⟩ := same equal
    refine ⟨equal, ?_⟩
    rcases splitroot_absolute absolute with ⟨drive, root, tail, split, separates⟩ | share
    · have joined : join lower base (letter :: ':' :: rest) =
          assemble ⟨[letter, ':'], [root], closed tail ++ rest⟩ := by
        rw [split] at equal
        simp [join, right, split, equal]
      rw [joined, assemble_rooted, split, within_eq_closed (by simp)]
      have rooted := closed_rooted [letter, ':'] tail separates
      rw [rooted, List.append_assoc]
      rfl
    · obtain ⟨first, second, rest', rfl, begun, doubled, alone⟩ := share
      have split : splitroot (first :: second :: rest') = ⟨first :: second :: rest', [], []⟩ := by
        rw [← alone]
        simp [splitroot, begun, doubled]
      rw [split] at driven
      cases driven
      cases doubled

end EvoomGuard.Lib.NtPath
