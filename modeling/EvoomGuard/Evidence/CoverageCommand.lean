import EvoomGuard.Lib.HostPath
import EvoomGuard.Policy.PytestGrammar

/-!
The command under which coverage runs a test command, of `evidence.py`: which argv it takes for a
pytest command and where it cuts it, against the pytest adapter.
-/

namespace EvoomGuard.Evidence.CoverageCommand

open Lib Runners.Command Runners.Registry Policy.PytestGrammar

/-- The interpreter that judges; `executable` is `sys.executable`. -/
structure CoverageHost where
  letters : CommandLetters
  platform : Platform
  executable : Text

/-- Wrapper, interpreter, interpreter options and pytest arguments. -/
structure CommandParts where
  wrapper : List Text
  interpreter : Text
  options : List Text
  arguments : List Text
  deriving DecidableEq

def pytestNames : List Text :=
  ["pytest".toList, "pytest.exe".toList, "py.test".toList, "py.test.exe".toList]

def shellSwitches : List Text :=
  ["-c".toList, "-lc".toList, "/c".toList, "-command".toList, "-encodedcommand".toList]

def trustedCoverageLauncher : Text :=
  ("import os, sys; from coverage.cmdline import main as coverage_main; " ++
    "sys.path.insert(0, os.getcwd()); raise SystemExit(coverage_main())").toList

section Parser

variable (host : CoverageHost)

def tokenName (token : Text) : Text := host.letters.mapping.lower (host.platform.basename token)

def pytestNamed (token : Text) : Bool := pytestNames.contains (tokenName host token)

def interpreterToken (token : Text) : Bool :=
  let name := tokenName host token
  Text.startsWith name "python".toList || Text.startsWith name "pypy".toList ||
    ["py".toList, "py.exe".toList].contains name

def shellSwitch (token : Text) : Bool := shellSwitches.contains (host.letters.mapping.lower token)

def interpreterBefore (cmd : List Text) (moduleIndex : Nat) : Option Nat :=
  (List.range moduleIndex).reverse.find? fun index => cmd[index]?.any (interpreterToken host)

/-- The command that has its `-m` at the index. -/
def modulePartsAt (cmd : List Text) (moduleIndex : Nat) : Option CommandParts :=
  if cmd[moduleIndex]? = some "-m".toList ∧
      cmd[moduleIndex + 1]?.any (pytestNamed host) = true then
    (interpreterBefore host cmd moduleIndex).bind fun interpreterIndex =>
      (cmd[interpreterIndex]?).map fun interpreter =>
        ⟨cmd.take interpreterIndex, interpreter,
          (cmd.take moduleIndex).drop (interpreterIndex + 1), cmd.drop (moduleIndex + 2)⟩
  else none

def moduleParts (cmd : List Text) : Option CommandParts :=
  (List.range (cmd.length - 1)).findSome? (modulePartsAt host cmd)

/-- A pytest name that is not the value of an `-m`. -/
def executableAt (cmd : List Text) (index : Nat) : Bool :=
  cmd[index]?.any (pytestNamed host) && (index == 0 || cmd[index - 1]? != some "-m".toList)

def executableIndex (cmd : List Text) : Option Nat :=
  (List.range cmd.length).find? (executableAt host cmd)

/-- The interpreter of the environment in which an explicit pytest is found. -/
def environmentInterpreter (wrapper : List Text) (explicitPytest : Text) : Text :=
  if wrapper = [] then
    if host.platform.dirname explicitPytest ≠ [] then
      host.platform.join host.letters.mapping.lower (host.platform.dirname explicitPytest)
        (if host.platform = .nt then "python.exe".toList else "python".toList)
    else host.executable
  else "python".toList

def executableParts (cmd : List Text) (index : Nat) : Option CommandParts :=
  if (cmd.take index).any (shellSwitch host) then none
  else (cmd[index]?).map fun explicitPytest =>
    ⟨cmd.take index, environmentInterpreter host (cmd.take index) explicitPytest, [],
      cmd.drop (index + 1)⟩

/-- Whichever form of command appears first. -/
def pytestCommandParts (cmd : List Text) : Option CommandParts :=
  match moduleParts host cmd, executableIndex host cmd with
  | none, none => none
  | some parts, none => some parts
  | none, some index => executableParts host cmd index
  | some parts, some index =>
    if parts.wrapper.length ≤ index then some parts else executableParts host cmd index

/-- What coverage puts between the interpreter's options and the arguments of pytest. -/
def coverageTokens (dataFile : Text) : List Text :=
  ["-I".toList, "-c".toList, trustedCoverageLauncher, "run".toList,
    "--rcfile=".toList ++ host.platform.devnull, "--data-file=".toList ++ dataFile, "-m".toList,
    "pytest".toList]

def coverageWrap (cmd : List Text) (dataFile : Text) : Option (List Text) :=
  (pytestCommandParts host cmd).map fun parts =>
    parts.wrapper ++ parts.interpreter ::
      (parts.options ++ coverageTokens host dataFile ++ parts.arguments)

end Parser

/-! The two forms of a pytest command -/

namespace CommandParts

/-- Where `-m` stands in a command of the module form. -/
def moduleIndex (parts : CommandParts) : Nat := parts.wrapper.length + 1 + parts.options.length

end CommandParts

section Forms

variable (host : CoverageHost)

/-- Every pytest name is the value of an `-m`. -/
def ExecutableFree (tokens : List Text) : Prop :=
  ∀ before token after, tokens = before ++ token :: after → pytestNamed host token = true →
    before.getLast? = some "-m".toList

/-- An interpreter, its options, `-m` and pytest. -/
structure ModuleForm (cmd : List Text) (parts : CommandParts) (module : Text) : Prop where
  form : cmd = parts.wrapper ++ parts.interpreter ::
    (parts.options ++ "-m".toList :: module :: parts.arguments)
  interprets : interpreterToken host parts.interpreter = true
  nearest : ∀ option ∈ parts.options, interpreterToken host option = false
  named : pytestNamed host module = true

/-- The first pytest that is run itself. -/
structure ExecutableForm (cmd : List Text) (parts : CommandParts) (token : Text) : Prop where
  form : cmd = parts.wrapper ++ token :: parts.arguments
  named : pytestNamed host token = true
  apart : parts.wrapper.getLast? ≠ some "-m".toList
  free : ExecutableFree host parts.wrapper
  interpreter : parts.interpreter = environmentInterpreter host parts.wrapper token
  options : parts.options = []

/-- An argv as a pytest command: the first module form that no explicit pytest comes before, or
else the first explicit pytest that is no word of a shell command. -/
inductive PytestCommand (cmd : List Text) (parts : CommandParts) : Prop where
  | module (module : Text) (form : ModuleForm host cmd parts module)
      (first : ∀ other name, ModuleForm host cmd other name →
        parts.moduleIndex ≤ other.moduleIndex)
      (free : ExecutableFree host parts.wrapper)
  | executable (token : Text) (form : ExecutableForm host cmd parts token)
      (direct : ∀ word ∈ parts.wrapper, shellSwitch host word = false)
      (other : ∀ other name, ModuleForm host cmd other name → ¬ ExecutableFree host other.wrapper)

end Forms

section Positions

variable {host : CoverageHost}

theorem get_at_split {cmd front rest : List Text} {token : Text}
    (form : cmd = front ++ token :: rest) : cmd[front.length]? = some token := by
  rw [form, List.getElem?_append_right (Nat.le_refl _), Nat.sub_self, List.getElem?_cons_zero]

theorem split_at_get {cmd : List Text} {token : Text} {index : Nat}
    (found : cmd[index]? = some token) :
    cmd = cmd.take index ++ token :: cmd.drop (index + 1) ∧ (cmd.take index).length = index := by
  obtain ⟨inside, rfl⟩ := List.getElem?_eq_some_iff.1 found
  constructor
  · rw [← List.drop_eq_getElem_cons inside, List.take_append_drop]
  · exact List.length_take_of_le inside.le

theorem executable_at_split {cmd front rest : List Text} {token : Text}
    (form : cmd = front ++ token :: rest) : executableAt host cmd front.length =
      (pytestNamed host token && front.getLast? != some "-m".toList) := by
  rw [executableAt, get_at_split form, Option.any_some]
  obtain rfl | ⟨init, last, rfl⟩ := List.eq_nil_or_concat' front
  · rfl
  · have before : cmd[(init ++ [last]).length - 1]? = some last := by
      rw [List.length_append, List.length_singleton, Nat.add_sub_cancel]
      exact get_at_split (form.trans (List.append_assoc _ _ _))
    rw [before, List.getLast?_concat]
    simp

theorem executable_at_append {front : List Text} {index : Nat} (inside : index < front.length)
    (rest : List Text) :
    executableAt host (front ++ rest) index = executableAt host front index := by
  rw [executableAt, executableAt, List.getElem?_append_left inside,
    List.getElem?_append_left (by omega)]

theorem executable_free_iff {tokens : List Text} : ExecutableFree host tokens ↔
    ∀ index < tokens.length, executableAt host tokens index = false := by
  constructor
  · intro free index inside
    obtain ⟨form, length⟩ := split_at_get (List.getElem?_eq_getElem inside)
    have shown := @executable_at_split host _ _ _ _ form
    rw [length] at shown
    rw [shown]
    cases named : pytestNamed host tokens[index] with
    | false => rfl
    | true => simp [free _ _ _ form named]
  · intro none before token after form named
    have inside : before.length < tokens.length := by
      rw [form, List.length_append, List.length_cons]
      omega
    have shown := none before.length inside
    rw [executable_at_split form, named, Bool.true_and] at shown
    simpa using shown

theorem executable_index_none {cmd : List Text} :
    executableIndex host cmd = none ↔ ExecutableFree host cmd := by
  rw [executable_free_iff, executableIndex, List.find?_range_eq_none]
  simp

theorem executable_index_some {cmd : List Text} {index : Nat} :
    executableIndex host cmd = some index ↔ ∃ front token rest, cmd = front ++ token :: rest ∧
      front.length = index ∧ pytestNamed host token = true ∧
        front.getLast? ≠ some "-m".toList ∧ ExecutableFree host front := by
  rw [executableIndex, List.find?_range_eq_some]
  constructor
  · rintro ⟨executable, inside, earlier⟩
    have found := List.getElem?_eq_getElem (List.mem_range.1 inside)
    obtain ⟨form, length⟩ := split_at_get found
    have shown := @executable_at_split host _ _ _ _ form
    rw [length, executable] at shown
    obtain ⟨named, apart⟩ := Bool.and_eq_true_iff.1 shown.symm
    refine ⟨_, _, _, form, length, named, bne_iff_ne.1 apart, executable_free_iff.2 ?_⟩
    intro before shorter
    rw [← executable_at_append shorter (cmd.drop index), List.take_append_drop]
    simpa using earlier before (length ▸ shorter)
  · rintro ⟨front, token, rest, form, rfl, named, apart, free⟩
    refine ⟨?_, ?_, ?_⟩
    · rw [executable_at_split form, named, bne_iff_ne.2 apart]
      rfl
    · rw [List.mem_range, form, List.length_append, List.length_cons]
      omega
    · intro before shorter
      rw [form, executable_at_append shorter, executable_free_iff.1 free before shorter]
      rfl

theorem find_last_iff {found : Nat → Bool} {count index : Nat} :
    (List.range count).reverse.find? found = some index ↔ index < count ∧ found index = true ∧
      ∀ later, index < later → later < count → found later = false := by
  induction count with
  | zero => simp
  | succ count ih =>
    rw [List.range_succ, List.reverse_concat, List.find?_cons]
    cases here : found count with
    | true =>
      constructor
      · intro same
        cases same
        exact ⟨Nat.lt_succ_self _, here, fun later above below => by omega⟩
      · rintro ⟨inside, -, none⟩
        by_cases last : index = count
        · exact last ▸ rfl
        · have absent := none count (by omega) (Nat.lt_succ_self _)
          rw [here] at absent
          cases absent
    | false =>
      rw [ih]
      constructor
      · rintro ⟨inside, holds, none⟩
        refine ⟨by omega, holds, fun later above below => ?_⟩
        by_cases last : later = count
        · exact last ▸ here
        · exact none later above (by omega)
      · rintro ⟨inside, holds, none⟩
        have before : index ≠ count := by
          rintro rfl
          rw [here] at holds
          cases holds
        exact ⟨by omega, holds, fun later above below => none later above (by omega)⟩

theorem find_some_range_iff {Value : Type*} {found : Nat → Option Value} {count : Nat}
    {value : Value} : (List.range count).findSome? found = some value ↔
      ∃ index < count, found index = some value ∧ ∀ earlier < index, found earlier = none := by
  induction count with
  | zero => simp
  | succ count ih =>
    rw [List.range_succ, List.findSome?_append, Option.or_eq_some_iff, ih,
      List.findSome?_eq_none_iff]
    constructor
    · rintro (⟨index, inside, holds, none⟩ | ⟨none, last⟩)
      · exact ⟨index, by omega, holds, none⟩
      · refine ⟨count, Nat.lt_succ_self _, ?_, fun earlier below =>
          none earlier (List.mem_range.2 below)⟩
        simpa using last
    · rintro ⟨index, inside, holds, none⟩
      by_cases last : index = count
      · subst last
        exact .inr ⟨fun earlier member => none earlier (List.mem_range.1 member), by simp [holds]⟩
      · exact .inl ⟨index, by omega, holds, none⟩

namespace ModuleForm

variable {cmd : List Text} {parts : CommandParts} {module : Text}

theorem at_interpreter (form : ModuleForm host cmd parts module) :
    cmd[parts.wrapper.length]? = some parts.interpreter :=
  get_at_split form.form

theorem form_at_module (form : ModuleForm host cmd parts module) :
    cmd = (parts.wrapper ++ parts.interpreter :: parts.options) ++
      "-m".toList :: module :: parts.arguments := by
  rw [form.form, List.append_assoc, List.cons_append]

theorem front_length (parts : CommandParts) :
    (parts.wrapper ++ parts.interpreter :: parts.options).length = parts.moduleIndex := by
  rw [List.length_append, List.length_cons, CommandParts.moduleIndex]
  omega

theorem at_module (form : ModuleForm host cmd parts module) :
    cmd[parts.moduleIndex]? = some "-m".toList := by
  rw [← front_length]
  exact get_at_split form.form_at_module

theorem at_name (form : ModuleForm host cmd parts module) :
    cmd[parts.moduleIndex + 1]? = some module := by
  have split : cmd = ((parts.wrapper ++ parts.interpreter :: parts.options) ++ ["-m".toList]) ++
      module :: parts.arguments := by
    rw [form.form_at_module, List.append_assoc _ ["-m".toList], List.singleton_append]
  have found := get_at_split split
  rwa [List.length_append, front_length] at found

theorem no_later_interpreter (form : ModuleForm host cmd parts module) {index : Nat}
    (above : parts.wrapper.length < index) (below : index < parts.moduleIndex) :
    cmd[index]?.any (interpreterToken host) = false := by
  have inside : index < (parts.wrapper ++ parts.interpreter :: parts.options).length := by
    rwa [front_length]
  obtain ⟨offset, rfl⟩ : ∃ offset, index = parts.wrapper.length + (offset + 1) :=
    ⟨index - parts.wrapper.length - 1, by omega⟩
  rw [form.form_at_module, List.getElem?_append_left inside,
    List.getElem?_append_right (Nat.le_add_right _ _), Nat.add_sub_cancel_left,
    List.getElem?_cons_succ]
  cases found : parts.options[offset]? with
  | none => rfl
  | some option => exact form.nearest option (List.mem_of_getElem? found)

theorem wrapper_le {other : CommandParts} {name : Text} (form : ModuleForm host cmd parts module)
    (later : ModuleForm host cmd other name) (ordered : parts.moduleIndex ≤ other.moduleIndex) :
    parts.wrapper.length ≤ other.wrapper.length := by
  by_contra shorter
  have inside : parts.wrapper.length < other.moduleIndex := by
    rw [CommandParts.moduleIndex] at ordered
    omega
  have absent := later.no_later_interpreter (by omega) inside
  rw [form.at_interpreter, Option.any_some, form.interprets] at absent
  cases absent

end ModuleForm

variable {cmd : List Text}

theorem module_parts_at_some {index : Nat} {parts : CommandParts} :
    modulePartsAt host cmd index = some parts ↔
      parts.moduleIndex = index ∧ ∃ module, ModuleForm host cmd parts module := by
  constructor
  · intro given
    obtain ⟨⟨dashed, behind⟩, given⟩ := Option.ite_none_right_eq_some.1 given
    obtain ⟨interpreterIndex, found, given⟩ := Option.bind_eq_some_iff.1 given
    obtain ⟨interpreter, at_interpreter, rfl⟩ := Option.map_eq_some_iff.1 given
    obtain ⟨module, at_name, named⟩ := (Option.any_eq_true _ _).1 behind
    obtain ⟨inside, interprets, none⟩ := find_last_iff.1 found
    rw [at_interpreter, Option.any_some] at interprets
    have whole := (split_at_get at_interpreter).1
    have shorter : interpreterIndex < cmd.length := (List.getElem?_eq_some_iff.1 at_interpreter).1
    obtain ⟨module_inside, -⟩ := List.getElem?_eq_some_iff.1 at_name
    refine ⟨?_, module, ?_, interprets, ?_, named⟩
    · simp only [CommandParts.moduleIndex, List.length_take, List.length_drop]
      omega
    · have options : cmd.drop (interpreterIndex + 1) =
          (cmd.take index).drop (interpreterIndex + 1) ++ cmd.drop index := by
        have parted := congrArg (List.drop (interpreterIndex + 1)) (List.take_append_drop index cmd)
        rw [List.drop_append_of_le_length (by rw [List.length_take]; omega)] at parted
        exact parted.symm
      have tail : cmd.drop index = "-m".toList :: module :: cmd.drop (index + 2) := by
        have first := List.getElem?_eq_some_iff.1 dashed
        have second := List.getElem?_eq_some_iff.1 at_name
        rw [List.drop_eq_getElem_cons first.1, List.drop_eq_getElem_cons second.1, first.2,
          second.2]
      simp only
      rw [← tail, ← options]
      exact whole
    · intro option member
      obtain ⟨offset, reached⟩ := List.mem_iff_getElem?.1 member
      rw [List.getElem?_drop] at reached
      have below : interpreterIndex + 1 + offset < index := by
        have bound := (List.getElem?_eq_some_iff.1 reached).1
        rw [List.length_take] at bound
        omega
      rw [List.getElem?_take_of_lt below] at reached
      have absent := none _ (by omega) below
      rwa [reached, Option.any_some] at absent
  · rintro ⟨rfl, module, form⟩
    have found : interpreterBefore host cmd parts.moduleIndex = some parts.wrapper.length := by
      refine find_last_iff.2 ⟨?_, ?_, fun later => form.no_later_interpreter⟩
      · rw [CommandParts.moduleIndex]
        omega
      · rw [form.at_interpreter, Option.any_some, form.interprets]
    rw [modulePartsAt, if_pos ⟨form.at_module, by rw [form.at_name, Option.any_some, form.named]⟩,
      found, Option.bind_some, form.at_interpreter, Option.map_some]
    have wrapper : cmd.take parts.wrapper.length = parts.wrapper := by
      rw [form.form, List.take_left]
    have options : (cmd.take parts.moduleIndex).drop (parts.wrapper.length + 1) =
        parts.options := by
      rw [form.form_at_module, ← ModuleForm.front_length, List.take_left, ← List.drop_drop,
        List.drop_left]
      rfl
    have arguments : cmd.drop (parts.moduleIndex + 2) = parts.arguments := by
      rw [form.form_at_module, ← ModuleForm.front_length, ← List.drop_drop, List.drop_left]
      rfl
    rw [wrapper, options, arguments]

theorem module_parts_at_none {index : Nat} :
    modulePartsAt host cmd index = none ↔
      ∀ parts module, ModuleForm host cmd parts module → parts.moduleIndex ≠ index := by
  rw [Option.eq_none_iff_forall_ne_some]
  constructor
  · intro none parts module form same
    exact none parts (module_parts_at_some.2 ⟨same, module, form⟩)
  · intro none parts given
    obtain ⟨same, module, form⟩ := module_parts_at_some.1 given
    exact none parts module form same

theorem ModuleForm.index_lt {parts : CommandParts} {module : Text}
    (form : ModuleForm host cmd parts module) : parts.moduleIndex < cmd.length - 1 := by
  have inside := (List.getElem?_eq_some_iff.1 form.at_name).1
  omega

theorem module_parts_some {parts : CommandParts} :
    moduleParts host cmd = some parts ↔ (∃ module, ModuleForm host cmd parts module) ∧
      ∀ other name, ModuleForm host cmd other name → parts.moduleIndex ≤ other.moduleIndex := by
  rw [moduleParts, find_some_range_iff]
  constructor
  · rintro ⟨index, inside, given, earlier⟩
    obtain ⟨rfl, present⟩ := module_parts_at_some.1 given
    refine ⟨present, fun other name form => ?_⟩
    by_contra before
    exact module_parts_at_none.1 (earlier _ (Nat.lt_of_not_le before)) other name form rfl
  · rintro ⟨⟨module, form⟩, first⟩
    refine ⟨parts.moduleIndex, form.index_lt, module_parts_at_some.2 ⟨rfl, module, form⟩, ?_⟩
    intro earlier below
    apply module_parts_at_none.2
    rintro other name before rfl
    exact Nat.not_lt_of_le (first other name before) below

theorem module_parts_none :
    moduleParts host cmd = none ↔ ∀ parts module, ¬ ModuleForm host cmd parts module := by
  rw [moduleParts, List.findSome?_eq_none_iff]
  constructor
  · intro none parts module form
    exact module_parts_at_none.1 (none _ (List.mem_range.2 form.index_lt)) parts module form rfl
  · intro none index inside
    exact module_parts_at_none.2 fun parts module form => absurd form (none parts module)

/-! The parser and the forms -/

theorem executable_free_front {front rest : List Text}
    (free : ExecutableFree host (front ++ rest)) :
    ExecutableFree host front := by
  intro before token after form named
  refine free before token (after ++ rest) ?_ named
  rw [form, List.append_assoc, List.cons_append]

theorem free_ends {front rest wrapper more : List Text} {token : Text}
    (whole : wrapper ++ more = front ++ token :: rest) (named : pytestNamed host token = true)
    (apart : front.getLast? ≠ some "-m".toList) (free : ExecutableFree host wrapper) :
    wrapper.length ≤ front.length := by
  by_contra longer
  have begins : front <+: wrapper :=
    List.prefix_of_prefix_length_le ⟨_, whole.symm⟩ ⟨_, rfl⟩ (Nat.le_of_not_le longer)
  obtain ⟨between, same⟩ := begins
  cases between with
  | nil =>
    rw [← same, List.append_nil] at longer
    exact longer (Nat.le_refl _)
  | cons first others =>
    rw [← same, List.append_assoc, List.append_cancel_left_eq, List.cons_append,
      List.cons.injEq] at whole
    exact apart (free front token others (whole.1 ▸ same.symm) named)

/-- What comes before the interpreter is free of a pytest executable exactly when it ends no later
than the first one. -/
theorem free_wrapper_iff {cmd front rest : List Text} {parts : CommandParts} {token module : Text}
    (form : ModuleForm host cmd parts module) (split : cmd = front ++ token :: rest)
    (named : pytestNamed host token = true) (apart : front.getLast? ≠ some "-m".toList)
    (free : ExecutableFree host front) :
    ExecutableFree host parts.wrapper ↔ parts.wrapper.length ≤ front.length := by
  have whole : parts.wrapper ++ (parts.interpreter ::
      (parts.options ++ "-m".toList :: module :: parts.arguments)) = front ++ token :: rest :=
    form.form.symm.trans split
  constructor
  · exact free_ends whole named apart
  · intro shorter
    obtain ⟨more, same⟩ : parts.wrapper <+: front :=
      List.prefix_of_prefix_length_le ⟨_, whole⟩ ⟨_, rfl⟩ shorter
    exact executable_free_front (same ▸ free)

theorem executable_parts_some {cmd front rest : List Text} {parts : CommandParts} {token : Text}
    (split : cmd = front ++ token :: rest) :
    executableParts host cmd front.length = some parts ↔
      (∀ word ∈ front, shellSwitch host word = false) ∧
        parts = ⟨front, environmentInterpreter host front token, [], rest⟩ := by
  have before : cmd.take front.length = front := by
    rw [split, List.take_left]
  have behind : cmd.drop (front.length + 1) = rest := by
    rw [split, ← List.drop_drop, List.drop_left]
    rfl
  rw [executableParts, before, behind, get_at_split split, Option.map_some,
    Option.ite_none_left_eq_some, Option.some.injEq, List.any_eq_true]
  apply and_congr
  · constructor
    · intro none word member
      exact eq_false_of_ne_true fun switch => none ⟨word, member, switch⟩
    · rintro none ⟨word, member, switch⟩
      rw [none word member] at switch
      cases switch
  · exact eq_comm

theorem executable_form_at {parts : CommandParts} {token : Text}
    (form : ExecutableForm host cmd parts token) :
    executableIndex host cmd = some parts.wrapper.length :=
  executable_index_some.2 ⟨parts.wrapper, token, parts.arguments, form.form, rfl, form.named,
    form.apart, form.free⟩

theorem executable_parts_form {cmd front rest : List Text} {parts : CommandParts} {token : Text}
    (split : cmd = front ++ token :: rest) (named : pytestNamed host token = true)
    (apart : front.getLast? ≠ some "-m".toList) (free : ExecutableFree host front)
    (given : executableParts host cmd front.length = some parts) :
    ExecutableForm host cmd parts token ∧
      ∀ word ∈ parts.wrapper, shellSwitch host word = false := by
  obtain ⟨direct, rfl⟩ := (executable_parts_some split).1 given
  exact ⟨⟨split, named, apart, free, rfl, rfl⟩, direct⟩

theorem executable_parts_of_form {parts : CommandParts} {token : Text}
    (form : ExecutableForm host cmd parts token)
    (direct : ∀ word ∈ parts.wrapper, shellSwitch host word = false) :
    executableParts host cmd parts.wrapper.length = some parts := by
  refine (executable_parts_some form.form).2 ⟨direct, ?_⟩
  rw [← form.interpreter, ← form.options]

/-- The positions that the parser compares cut the argv as its forms do. -/
theorem pytest_command_parts_iff {parts : CommandParts} :
    pytestCommandParts host cmd = some parts ↔ PytestCommand host cmd parts := by
  cases modules : moduleParts host cmd with
  | none =>
    have absent := module_parts_none.1 modules
    cases executable : executableIndex host cmd with
    | none =>
      rw [pytestCommandParts, modules, executable]
      constructor
      · intro given
        cases given
      · intro command
        cases command with
        | module module form => exact absurd form (absent parts module)
        | executable token form =>
          rw [executable_form_at form] at executable
          cases executable
    | some index =>
      obtain ⟨front, token, rest, split, rfl, named, apart, free⟩ :=
        executable_index_some.1 executable
      rw [pytestCommandParts, modules, executable]
      constructor
      · intro given
        obtain ⟨form, direct⟩ := executable_parts_form split named apart free given
        exact .executable token form direct fun other name module =>
          absurd module (absent other name)
      · intro command
        cases command with
        | module module form => exact absurd form (absent parts module)
        | executable token form direct =>
          rw [executable_form_at form, Option.some.injEq] at executable
          exact executable ▸ executable_parts_of_form form direct
  | some found =>
    obtain ⟨⟨module, present⟩, first⟩ := module_parts_some.1 modules
    have only : ∀ {other name}, ModuleForm host cmd other name →
        (∀ earlier name, ModuleForm host cmd earlier name →
          other.moduleIndex ≤ earlier.moduleIndex) → other = found := by
      intro other name form least
      have again := module_parts_some.2 ⟨⟨name, form⟩, least⟩
      rw [modules, Option.some.injEq] at again
      exact again.symm
    cases executable : executableIndex host cmd with
    | none =>
      have free := executable_index_none.1 executable
      rw [present.form] at free
      rw [pytestCommandParts, modules, executable, Option.some.injEq]
      constructor
      · rintro rfl
        exact .module module present first (executable_free_front free)
      · intro command
        cases command with
        | module name form least => exact (only form least).symm
        | executable token form =>
          rw [executable_form_at form] at executable
          cases executable
    | some index =>
      obtain ⟨front, token, rest, split, rfl, named, apart, free⟩ :=
        executable_index_some.1 executable
      have leading := free_wrapper_iff present split named apart free
      rw [pytestCommandParts, modules, executable]
      by_cases early : found.wrapper.length ≤ front.length
      · simp only [early, if_true, Option.some.injEq]
        constructor
        · rintro rfl
          exact .module module present first (leading.2 early)
        · intro command
          cases command with
          | module name form least => exact (only form least).symm
          | executable _ _ _ other =>
            exact absurd (leading.2 early) (other found module present)
      · simp only [early, if_false]
        constructor
        · intro given
          obtain ⟨form, direct⟩ := executable_parts_form split named apart free given
          refine .executable token form direct fun other name later blank => early ?_
          exact (present.wrapper_le later (first other name later)).trans
            ((free_wrapper_iff later split named apart free).1 blank)
        · intro command
          cases command with
          | module name form least blank =>
            rw [only form least] at blank
            exact absurd (leading.1 blank) early
          | executable token form direct =>
            rw [executable_form_at form, Option.some.injEq] at executable
            exact executable ▸ executable_parts_of_form form direct

end Positions

/-! The adapter -/

section

variable (letters : CommandLetters)

/-- What stands before the command that the adapters find. -/
def adapterLauncher (tokens : List Text) : List Text :=
  match wrappedCommandIndex letters tokens with
  | some index => tokens.take index
  | none => []

/-- An ASCII path with forward slashes only, to no drive, share or directory and without the
suffix of a batch file or a `.com` file. -/
structure Readable (token : Text) : Prop where
  ascii : ∀ character ∈ token, character.toNat < 128
  portable : Portable token
  native : ∀ suffix ∈ [".bat".toList, ".cmd".toList, ".com".toList],
    ¬ suffix <:+ token.map Char.toLower

/-- The words by which the adapter knows the command are plain ones. -/
structure ReadableCommand (command : List Text) : Prop where
  first : ∀ token, command[0]? = some token → Readable token
  module : modulesAt letters "pytest".toList command 0 = true → ∀ name, command[2]? = some name →
    ∀ character ∈ name, character.toNat < 128

end

section Names

variable {host : CoverageHost}

variable {token : Text}

section

variable (readable : Readable token)
include readable

theorem readable_base :
    ∀ character ∈ Text.lastSegment token, character.toNat < 128 := by
  intro character member
  exact readable.ascii character ((Text.last_segment_suffix token).subset member)

theorem readable_folded :
    host.letters.mapping.casefold
      (NtPath.basename (Text.rstripWhile NtPath.isSeparator token)) = tokenName host token := by
  rw [tokenName, readable.portable.stripped, readable.portable.basename_eq,
    readable.portable.basename_nt, host.letters.mapping.casefold_ascii _ (readable_base readable),
    host.letters.mapping.lower_ascii _ (readable_base readable)]

theorem readable_suffix :
    tokenName host token <:+ token.map Char.toLower := by
  rw [tokenName, readable.portable.basename_eq, readable.portable.basename_nt,
    host.letters.mapping.lower_ascii _ (readable_base readable)]
  exact (Text.last_segment_suffix token).map Char.toLower

theorem readable_name :
    tokenName host token = executableName host.letters token ∨
      tokenName host token = executableName host.letters token ++ ".exe".toList := by
  have cut := NtPath.splitext_append (tokenName host token)
  rw [executableName, @readable_folded host token readable]
  split
  · next suffixed =>
      have ends : (NtPath.splitext (tokenName host token)).2 <:+ token.map Char.toLower :=
        List.IsSuffix.trans ⟨_, cut⟩ (readable_suffix readable)
      have others : ∀ suffix ∈ windowsExecutableSuffixes, suffix ≠ ".exe".toList →
          suffix ∈ [".bat".toList, ".cmd".toList, ".com".toList] := by decide
      have last : (NtPath.splitext (tokenName host token)).2 = ".exe".toList := by
        by_contra other
        exact readable.native _ (others _ (List.contains_iff_mem.1 suffixed) other) ends
      rw [← last]
      exact .inr cut.symm
  · exact .inl rfl

theorem pytest_named_of_adapter (named : executableName host.letters token = "pytest".toList) :
    pytestNamed host token = true := by
  obtain same | same := @readable_name host token readable
  · rw [pytestNamed, same, named]
    rfl
  · rw [pytestNamed, same, named]
    rfl

end

theorem interpreter_of_python {token rest : Text}
    (named : tokenName host token = "python".toList ++ rest) :
    interpreterToken host token = true := by
  have begins : Text.startsWith ("python".toList ++ rest) "python".toList = true :=
    List.isPrefixOf_iff_prefix.2 ⟨rest, rfl⟩
  simp only [interpreterToken, named, begins, Bool.true_or]

theorem interpreter_of_adapter (readable : Readable token)
    (python : isPythonExecutable host.letters token = true) :
    interpreterToken host token = true := by
  have same := @readable_name host token readable
  rw [isPythonExecutable, Bool.or_eq_true] at python
  cases python with
  | inl py =>
    rw [eq_of_beq py] at same
    rw [interpreterToken]
    obtain same | same := same
    · rw [same]
      rfl
    · rw [same]
      rfl
  | inr versioned =>
    obtain ⟨rest, whole⟩ := List.isPrefixOf_iff_prefix.1 (Bool.and_eq_true_iff.1 versioned).1
    rw [← whole] at same
    obtain same | same := same
    · exact interpreter_of_python same
    · exact interpreter_of_python (same.trans (List.append_assoc _ _ _))

theorem interpreter_not_pytest (interpreter : interpreterToken host token = true) :
    pytestNamed host token = false := by
  have apart : ∀ name ∈ pytestNames, (Text.startsWith name "python".toList ||
      Text.startsWith name "pypy".toList ||
        ["py".toList, "py.exe".toList].contains name) = false := by decide
  apply eq_false_of_ne_true
  intro named
  have other := apart _ (List.contains_iff_mem.1 named)
  rw [interpreterToken] at interpreter
  rw [interpreter] at other
  cases other

theorem pytest_named_of_module {module : Text}
    (ascii : ∀ character ∈ module, character.toNat < 128)
    (folded : host.letters.mapping.casefold module = "pytest".toList) :
    pytestNamed host module = true := by
  rw [host.letters.mapping.casefold_ascii _ ascii] at folded
  have free (character : Char) (other : character.toLower ∉ "pytest".toList) :
      character ∉ module := fun member => other (folded ▸ List.mem_map_of_mem member)
  have slash : '/' ∉ module := free '/' (by decide)
  have portable : Portable module := by
    refine ⟨free '\\' (by decide), free ':' (by decide), ?_, fun last =>
      slash (List.mem_of_getLast? last)⟩
    apply eq_false_of_ne_true
    intro begins
    exact slash ((List.isPrefixOf_iff_prefix.1 begins).subset List.mem_cons_self)
  have own : tokenName host module = "pytest".toList := by
    rw [tokenName, portable.basename_eq, portable.basename_nt, Text.last_segment_free slash,
      host.letters.mapping.lower_ascii _ ascii, folded]
  rw [pytestNamed, own]
  rfl

end Names

section Matched

variable {host : CoverageHost}

theorem adapter_split (letters : CommandLetters) (tokens : List Text) :
    adapterLauncher letters tokens ++ adapterCommand letters tokens = tokens := by
  rw [adapterLauncher, adapterCommand]
  cases wrappedCommandIndex letters tokens with
  | none => rfl
  | some index => exact List.take_append_drop index tokens

theorem starts_pytest_cases {letters : CommandLetters} {command : List Text}
    (starts : startsPytest letters command = true) :
    (∃ token rest, command = token :: rest ∧ executableName letters token = "pytest".toList ∧
      namesAt letters "pytest".toList command 0 = true) ∨
    ∃ interpreter module rest, command = interpreter :: "-m".toList :: module :: rest ∧
      isPythonExecutable letters interpreter = true ∧
        letters.mapping.casefold module = "pytest".toList ∧
          modulesAt letters "pytest".toList command 0 = true := by
  rw [startsPytest, Bool.or_eq_true] at starts
  cases starts with
  | inl named =>
    cases command with
    | nil => cases named
    | cons token rest => exact .inl ⟨token, rest, rfl, eq_of_beq named, named⟩
  | inr runs =>
    rcases command with _ | ⟨interpreter, _ | ⟨second, _ | ⟨module, rest⟩⟩⟩
    · cases runs
    · simp [modulesAt] at runs
    · simp [modulesAt] at runs
    · have parts := runs
      simp only [modulesAt, List.getElem?_cons_zero, List.getElem?_cons_succ, Option.any_some,
        Bool.and_eq_true, beq_iff_eq, Option.some.injEq] at parts
      obtain ⟨⟨python, rfl⟩, folded⟩ := parts
      exact .inr ⟨interpreter, module, rest, rfl, python, folded, runs⟩

theorem command_of_executable {cmd front rest : List Text} {token : Text}
    (split : cmd = front ++ token :: rest) (named : pytestNamed host token = true)
    (apart : front.getLast? ≠ some "-m".toList)
    (direct : ∀ word ∈ front, shellSwitch host word = false) :
    ∃ parts, PytestCommand host cmd parts := by
  cases executable : executableIndex host cmd with
  | none => exact absurd (executable_index_none.1 executable front token rest split named) apart
  | some index =>
    obtain ⟨before, explicit, behind, form, rfl, -, -, free⟩ :=
      executable_index_some.1 executable
    have shorter := free_ends (form.symm.trans split) named apart free
    obtain ⟨between, same⟩ : before <+: front :=
      List.prefix_of_prefix_length_le ⟨_, form.symm⟩ ⟨_, split.symm⟩ shorter
    obtain ⟨parts, given⟩ : ∃ parts, executableParts host cmd before.length = some parts :=
      ⟨_, (executable_parts_some form).2 ⟨fun word member =>
        direct word (same ▸ List.mem_append_left between member), rfl⟩⟩
    cases modules : moduleParts host cmd with
    | none =>
      refine ⟨parts, pytest_command_parts_iff.1 ?_⟩
      rw [pytestCommandParts, modules, executable]
      exact given
    | some found =>
      by_cases early : found.wrapper.length ≤ before.length
      · refine ⟨found, pytest_command_parts_iff.1 ?_⟩
        rw [pytestCommandParts, modules, executable]
        exact if_pos early
      · refine ⟨parts, pytest_command_parts_iff.1 ?_⟩
        rw [pytestCommandParts, modules, executable]
        exact (if_neg early).trans given

variable {cmd : List Text}

theorem command_of_module {parts : CommandParts} {module : Text}
    (form : ModuleForm host cmd parts module) (free : ExecutableFree host parts.wrapper) :
    ∃ parts, PytestCommand host cmd parts := by
  cases modules : moduleParts host cmd with
  | none => exact absurd form (module_parts_none.1 modules parts module)
  | some found =>
    obtain ⟨⟨name, present⟩, first⟩ := module_parts_some.1 modules
    refine ⟨found, .module name present first ?_⟩
    have shorter := present.wrapper_le form (first parts module form)
    obtain ⟨more, same⟩ : found.wrapper <+: parts.wrapper :=
      List.prefix_of_prefix_length_le ⟨_, present.form.symm⟩ ⟨_, form.form.symm⟩ shorter
    exact executable_free_front (same ▸ free)

/-- A matched command is wrapped unless its pytest is the value of an `-m` of the launcher, or a
word of a shell command. -/
theorem matched_wrapped
    (starts : startsPytest host.letters (adapterCommand host.letters cmd) = true)
    (readable : ReadableCommand host.letters (adapterCommand host.letters cmd))
    (apart : namesAt host.letters "pytest".toList (adapterCommand host.letters cmd) 0 = true →
      (adapterLauncher host.letters cmd).getLast? ≠ some "-m".toList)
    (direct : ∀ word ∈ adapterLauncher host.letters cmd, shellSwitch host word = false) :
    ∃ parts, PytestCommand host cmd parts := by
  have split := adapter_split host.letters cmd
  obtain ⟨token, rest, form, name, named⟩ |
      ⟨interpreter, module, rest, form, python, folded, runs⟩ := starts_pytest_cases starts
  · have first := readable.first token (form ▸ rfl)
    rw [form] at split
    exact command_of_executable split.symm (pytest_named_of_adapter first name) (apart named) direct
  · have first := readable.first interpreter (form ▸ rfl)
    have ascii := readable.module runs module (form ▸ rfl)
    rw [form] at split
    by_cases free : ExecutableFree host (adapterLauncher host.letters cmd)
    · have whole : ModuleForm host cmd ⟨adapterLauncher host.letters cmd, interpreter, [], rest⟩
          module :=
        ⟨split.symm, interpreter_of_adapter first python, List.forall_mem_nil _,
          pytest_named_of_module ascii folded⟩
      exact command_of_module whole free
    · simp only [ExecutableFree, not_forall] at free
      obtain ⟨before, token, after, parted, named, other⟩ := free
      rw [parted] at split direct
      refine command_of_executable (split.symm.trans (List.append_assoc _ _ _)) named other ?_
      exact fun word member => direct word (List.mem_append_left _ member)

/-- No word is named like pytest or an interpreter, none is a shell switch, and the last one is no
`-m`. -/
structure PlainLauncher (host : CoverageHost) (words : List Text) : Prop where
  unnamed : ∀ word ∈ words, pytestNamed host word = false
  native : ∀ word ∈ words, interpreterToken host word = false
  direct : ∀ word ∈ words, shellSwitch host word = false
  apart : words.getLast? ≠ some "-m".toList

theorem PlainLauncher.free {words : List Text} (plain : PlainLauncher host words) :
    ExecutableFree host words := by
  rintro before token after rfl named
  have other := plain.unnamed token (List.mem_append_right _ List.mem_cons_self)
  rw [other] at named
  cases named

theorem PlainLauncher.length_le {cmd words rest : List Text} {parts : CommandParts} {module : Text}
    (plain : PlainLauncher host words) (split : cmd = words ++ rest)
    (form : ModuleForm host cmd parts module) : words.length ≤ parts.wrapper.length := by
  by_contra shorter
  have found := form.at_interpreter
  rw [split, List.getElem?_append_left (Nat.lt_of_not_le shorter)] at found
  have other := plain.native _ (List.mem_of_getElem? found)
  rw [form.interprets] at other
  cases other

theorem matched_cut (starts : startsPytest host.letters (adapterCommand host.letters cmd) = true)
    (readable : ReadableCommand host.letters (adapterCommand host.letters cmd))
    (plain : PlainLauncher host (adapterLauncher host.letters cmd)) :
    ∃ parts, PytestCommand host cmd parts ∧ parts.wrapper = adapterLauncher host.letters cmd ∧
      parts.options = [] := by
  have split := adapter_split host.letters cmd
  obtain ⟨token, rest, form, name, -⟩ |
      ⟨interpreter, module, rest, form, python, folded, runs⟩ := starts_pytest_cases starts
  · have named := pytest_named_of_adapter (readable.first token (form ▸ rfl)) name
    rw [form] at split
    refine ⟨⟨adapterLauncher host.letters cmd, environmentInterpreter host _ token, [], rest⟩,
      .executable token ⟨split.symm, named, plain.apart, plain.free, rfl, rfl⟩ plain.direct ?_,
      rfl, rfl⟩
    intro other module later blank
    have shorter := free_ends (later.form.symm.trans split.symm) named plain.apart blank
    have same := Nat.le_antisymm shorter (plain.length_le split.symm later)
    have found := later.at_interpreter
    rw [same, get_at_split split.symm, Option.some.injEq] at found
    rw [found, interpreter_not_pytest later.interprets] at named
    cases named
  · have first := readable.first interpreter (form ▸ rfl)
    have ascii := readable.module runs module (form ▸ rfl)
    rw [form] at split
    refine ⟨⟨adapterLauncher host.letters cmd, interpreter, [], rest⟩,
      .module module ⟨split.symm, interpreter_of_adapter first python,
        List.forall_mem_nil _, pytest_named_of_module ascii folded⟩ ?_ plain.free,
      rfl, rfl⟩
    intro other name later
    have longer := plain.length_le split.symm later
    simp only [CommandParts.moduleIndex, List.length_nil]
    omega

theorem executable_cut_matched {parts : CommandParts} {token : Text}
    (form : ExecutableForm host cmd parts token)
    (placed : parts.wrapper = adapterLauncher host.letters cmd) (readable : Readable token)
    (own : tokenName host token = "pytest".toList ∨ tokenName host token = "pytest.exe".toList) :
    startsPytest host.letters (adapterCommand host.letters cmd) = true := by
  have split := adapter_split host.letters cmd
  rw [← placed] at split
  have command := List.append_cancel_left (split.trans form.form)
  have name : executableName host.letters token = "pytest".toList := by
    rw [executableName, @readable_folded host token readable]
    obtain own | own := own
    · rw [own]
      decide
    · rw [own]
      decide
  rw [command, startsPytest, Bool.or_eq_true]
  left
  rw [namesAt, List.getElem?_cons_zero, Option.any_some, name]
  rfl

theorem module_cut_matched {parts : CommandParts} {module : Text}
    (form : ModuleForm host cmd parts module)
    (placed : parts.wrapper = adapterLauncher host.letters cmd) (plain : parts.options = [])
    (python : isPythonExecutable host.letters parts.interpreter = true)
    (folded : host.letters.mapping.casefold module = "pytest".toList) :
    startsPytest host.letters (adapterCommand host.letters cmd) = true := by
  have split := adapter_split host.letters cmd
  rw [← placed] at split
  have command := List.append_cancel_left (split.trans form.form)
  rw [plain] at command
  rw [command, startsPytest, Bool.or_eq_true]
  right
  simp [modulesAt, python, folded]

/-! Coverage of a command -/

theorem coverage_wrap_iff {cmd wrapped : List Text} {dataFile : Text} :
    coverageWrap host cmd dataFile = some wrapped ↔ ∃ parts, PytestCommand host cmd parts ∧
      wrapped = parts.wrapper ++ parts.interpreter ::
        (parts.options ++ coverageTokens host dataFile ++ parts.arguments) := by
  rw [coverageWrap, Option.map_eq_some_iff]
  constructor
  · rintro ⟨parts, given, rfl⟩
    exact ⟨parts, pytest_command_parts_iff.1 given, rfl⟩
  · rintro ⟨parts, command, rfl⟩
    exact ⟨parts, pytest_command_parts_iff.2 command, rfl⟩

end Matched

section Coverage

variable (host : CoverageHost) (cmd : List Text) (dataFile : Text)

/-- The tokens fall into wrapper, interpreter, its options and arguments around `python -m pytest`
or around a pytest that no shell switch stands before. -/
def PytestParts (parts : CommandParts) : Prop :=
  (∃ module, ModuleForm host cmd parts module) ∨ ∃ token, ExecutableForm host cmd parts token ∧
    ∀ word ∈ parts.wrapper, shellSwitch host word = false

/-- An option by which the Windows launcher selects a version. -/
def versionOption (option : Text) : Bool :=
  option.head? == some '-' && (option.drop 1).head?.any Char.isDigit

end Coverage

def posixHost : CoverageHost := ⟨asciiCommandLetters, .posix, "/usr/bin/python3".toList⟩

def uvRunPytest : List Text := ["uv".toList, "run".toList, "pytest".toList]

end EvoomGuard.Evidence.CoverageCommand
