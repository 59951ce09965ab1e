import EvoomGuard.Runners.Registry

/-!
The static recognition of a pytest run in `policy/preflight.py`, beside the grammar of the runner
adapter that makes the run write a report.
-/

namespace EvoomGuard.Policy.PytestGrammar

open Lib Runners.Command Runners.Registry

section Preflight

variable (letters : CommandLetters)

/-- Skips options such as `--package=value`; nothing at an option without its value. -/
def skipSpelledOptions : List Text → Option (List Text)
  | [] => some []
  | token :: rest =>
    if isOption token then if token.contains '=' then skipSpelledOptions rest else none
    else some (token :: rest)

def commandAfterKnownLauncher (tokens : List Text) : List Text :=
  match tokens with
  | [] => []
  | first :: rest =>
    let launcher := executableName letters first
    let behind (subcommands : List Text) : Bool :=
      3 ≤ tokens.length && tokens[1]?.any subcommands.contains
    if ["poetry".toList, "pipenv".toList, "uv".toList].contains launcher &&
        behind ["run".toList] then tokens.drop 2
    else if launcher == "bundle".toList && behind ["exec".toList] then tokens.drop 2
    else if launcher == "pnpm".toList && behind ["exec".toList, "dlx".toList] then tokens.drop 2
    else if launcher == "npm".toList && behind ["exec".toList, "x".toList] then tokens.drop 2
    else if ["npx".toList, "bunx".toList].contains launcher && 2 ≤ tokens.length then
      (skipSpelledOptions rest).getD tokens
    else tokens

def pythonExecutables : List Text :=
  ["python".toList, "python2".toList, "python3".toList, "py".toList]

def readsAsPython (token : Text) : Bool :=
  let executable := executableName letters token
  pythonExecutables.contains executable || Text.startsWith executable "python".toList

def isPyLauncherSelector (token : Text) : Bool :=
  Text.startsWith token "-V:".toList && 3 < token.length ||
    isOption token && (token[1]?.any ['2', '3'].contains) &&
      (token.drop 2).all fun character =>
        letters.isDigit character || ['.', '-'].contains character

def noValueFlags : Text := "bBdEhiIOPqRsSuvVx".toList

/-- One option of the interpreter: the flags it sets, and whether the next token is its value. -/
def consumePythonInterpreterOption (token : Text) : Option (List Text × Bool) :=
  if ["-X".toList, "-W".toList, "--check-hash-based-pycs".toList].contains token then
    some ([], true)
  else if (Text.startsWith token "-X".toList || Text.startsWith token "-W".toList) &&
      2 < token.length then some ([], false)
  else if Text.startsWith token "--check-hash-based-pycs=".toList then some ([], false)
  else if isOption token && !Text.startsWith token "--".toList && 1 < token.length &&
      (token.drop 1).all noValueFlags.contains then
    some ((token.drop 1).map fun character => ['-', character], false)
  else none

/-- The flags before the script or module, and the module; `value` says that the first token is
the value of an option. -/
def scanInterpreter (flags : List Text) : Bool → List Text → List Text × Option Text
  | _, [] => (flags, none)
  | true, _ :: rest => scanInterpreter flags false rest
  | false, token :: rest =>
    if token = "--".toList then (flags, none)
    else if token = "-m".toList then (flags, rest.head?)
    else if token = "-c".toList then (flags, none)
    else
      match consumePythonInterpreterOption token with
      | none => (flags, none)
      | some (more, value) => scanInterpreter (flags ++ more) value rest

def parsePythonInvocation (command : List Text) : Option (List Text × Option Text) :=
  match commandAfterKnownLauncher letters command with
  | [] => none
  | first :: rest =>
    if readsAsPython letters first then
      some (scanInterpreter [] false
        (if executableName letters first = "py".toList then
          rest.dropWhile (isPyLauncherSelector letters) else rest))
    else none

/-- The module that a command makes a Python interpreter run. -/
def selectedModule (command : List Text) : Option Text :=
  (parsePythonInvocation letters command).bind Prod.snd

/-- The command starts pytest as the static grammar reads it. -/
def selectsPytest (command : List Text) : Bool :=
  match command with
  | [] => false
  | first :: _ =>
    executableName letters first == "pytest".toList ||
      selectedModule letters command == some "pytest".toList

def invokesPytest (tokens : List Text) : Bool :=
  selectsPytest letters (commandAfterKnownLauncher letters tokens)

end Preflight

section

variable (letters : CommandLetters)

/-- The command that the adapters find behind a launcher, or the whole argv. -/
def adapterCommand (tokens : List Text) : List Text :=
  match wrappedCommandIndex letters tokens with
  | some index => tokens.drop index
  | none => tokens

def startsPytest (command : List Text) : Bool :=
  namesAt letters "pytest".toList command 0 || modulesAt letters "pytest".toList command 0

/-- The command is a standard Python with `-m` as its first argument. -/
def isPlainModule (command : List Text) : Bool :=
  command[0]?.any (isPythonExecutable letters) && command[1]? == some "-m".toList

/-- The commands on which the two grammars part. -/
inductive Diverges (tokens : List Text) : Prop where
  /-- The static grammar skips options of the interpreter, takes more names for Python, and looks
  behind a second launcher. -/
  | interpreter (command : List Text)
      (preflight : commandAfterKnownLauncher letters tokens = command)
      (adapter : adapterCommand letters tokens = command)
      (unnamed : namesAt letters "pytest".toList command 0 = false)
      (selected : selectedModule letters command = some "pytest".toList)
      (apart : isPlainModule letters command = false)
  /-- The adapter folds the case of the module. -/
  | spelling (command : List Text) (module : Text)
      (preflight : commandAfterKnownLauncher letters tokens = command)
      (adapter : adapterCommand letters tokens = command)
      (plain : isPlainModule letters command = true)
      (third : command[2]? = some module)
      (folded : letters.mapping.casefold module = "pytest".toList)
      (spelled : module ≠ "pytest".toList)
  /-- The adapter looks behind a launcher that the static grammar leaves alone. -/
  | launcher (preflight : commandAfterKnownLauncher letters tokens = tokens)
      (adapter : adapterCommand letters tokens ≠ tokens)
      (started : startsPytest letters (adapterCommand letters tokens) = true)
  /-- The adapter skips options behind a sub-command, where the static grammar takes the first
  one for the command. -/
  | option (token : Text)
      (preflight : commandAfterKnownLauncher letters tokens = tokens.drop 2)
      (adapter : adapterCommand letters tokens ≠ tokens.drop 2)
      (third : tokens[2]? = some token) (dashed : isOption token = true)
      (one : startsPytest letters (adapterCommand letters tokens) ≠
        selectsPytest letters (tokens.drop 2))

end

def launchers : List Text :=
  ["npx".toList, "bunx".toList, "pnpm".toList, "yarn".toList, "yarnpkg".toList, "npm".toList,
    "bundle".toList, "poetry".toList, "pipenv".toList, "uv".toList]

theorem launcher_distinct : ∀ launcher ∈ launchers, launcher ≠ "pytest".toList ∧
    launcher ∉ pythonExecutables ∧ Text.startsWith launcher "python".toList = false := by
  decide

section Launchers

variable {letters : CommandLetters}

theorem reads_as_python_of_executable {token : Text}
    (python : isPythonExecutable letters token = true) : readsAsPython letters token = true := by
  rw [isPythonExecutable, Bool.or_eq_true] at python
  rw [readsAsPython, Bool.or_eq_true]
  refine python.imp (fun py => ?_) fun versioned => (Bool.and_eq_true_iff.1 versioned).1
  rw [eq_of_beq py]
  rfl

theorem launcher_not_python {token : Text} (launcher : executableName letters token ∈ launchers) :
    readsAsPython letters token = false := by
  obtain ⟨-, unlisted, unprefixed⟩ := launcher_distinct _ launcher
  rw [readsAsPython, unprefixed]
  simp [unlisted]

variable {first : Text} {rest : List Text}

theorem launcher_of_wrapped {index : Nat}
    (wrapped : wrappedCommandIndex letters (first :: rest) = some index) :
    executableName letters first ∈ launchers := by
  unfold wrappedCommandIndex at wrapped
  dsimp only at wrapped
  split_ifs at wrapped with npx pnpm yarn npm bundle poetry
  · rcases npx with name | name <;> simp [launchers, name]
  · simp [launchers, pnpm]
  · rcases yarn with name | name <;> simp [launchers, name]
  · simp [launchers, npm]
  · simp [launchers, bundle.1]
  · rcases poetry.1 with name | name | name <;> simp [launchers, name]

theorem after_launcher_of_not_launcher (other : executableName letters first ∉ launchers) :
    commandAfterKnownLauncher letters (first :: rest) = first :: rest := by
  simp [launchers] at other
  simp [commandAfterKnownLauncher, other]

theorem names_at_drop (runner : Text) (tokens : List Text) (index : Nat) :
    namesAt letters runner tokens index = namesAt letters runner (tokens.drop index) 0 := by
  simp [namesAt]

theorem modules_at_drop (module : Text) (tokens : List Text) (index : Nat) :
    modulesAt letters module tokens index = modulesAt letters module (tokens.drop index) 0 := by
  simp [modulesAt]

theorem launcher_starts_nothing (launcher : executableName letters first ∈ launchers) :
    startsPytest letters (first :: rest) = false := by
  have python : isPythonExecutable letters first = false := by
    apply eq_false_of_ne_true
    intro python
    have reads := reads_as_python_of_executable python
    rw [launcher_not_python launcher] at reads
    cases reads
  have other : (executableName letters first == "pytest".toList) = false :=
    beq_eq_false_iff_ne.2 (launcher_distinct _ launcher).1
  simp only [startsPytest, namesAt, modulesAt, List.getElem?_cons_zero, Option.any_some, other,
    python, Bool.false_and, Bool.or_self]

theorem pytest_matches_eq (tokens : List Text) :
    pytestMatches letters tokens = startsPytest letters (adapterCommand letters tokens) := by
  cases wrapped : wrappedCommandIndex letters tokens with
  | none =>
    simp [pytestMatches, invokesRunner, invokesPythonModule, adapterCommand, startsPytest, wrapped]
  | some index =>
    cases tokens with
    | nil => cases wrapped
    | cons first rest =>
      have nothing := @launcher_starts_nothing letters _ rest (launcher_of_wrapped wrapped)
      rw [startsPytest, Bool.or_eq_false_iff] at nothing
      rw [pytestMatches, invokesRunner, invokesPythonModule, nothing.1, nothing.2, wrapped,
        adapterCommand, wrapped, startsPytest]
      simp only [Option.any_some, Bool.false_or]
      rw [names_at_drop, modules_at_drop]

theorem dash_m_no_selector : isPyLauncherSelector letters "-m".toList = false := rfl

variable {command : List Text}

theorem selected_module_plain (plain : isPlainModule letters command = true) :
    selectedModule letters command = command[2]? := by
  match command, plain with
  | [], plain => cases plain
  | [_], plain => simp [isPlainModule] at plain
  | first :: second :: rest, plain =>
    simp only [isPlainModule, List.getElem?_cons_zero, List.getElem?_cons_succ, Option.any_some,
      Bool.and_eq_true, beq_iff_eq, Option.some.injEq] at plain
    obtain ⟨python, rfl⟩ := plain
    have reads := reads_as_python_of_executable python
    have other : executableName letters first ∉ launchers := by
      intro launcher
      rw [launcher_not_python launcher] at reads
      cases reads
    have kept : ("-m".toList :: rest).dropWhile (isPyLauncherSelector letters) =
        "-m".toList :: rest := List.dropWhile_cons_of_neg (ne_true_of_eq_false dash_m_no_selector)
    rw [selectedModule, parsePythonInvocation, after_launcher_of_not_launcher other]
    simp only [reads, if_true, kept, ite_self]
    cases rest <;> rfl

theorem starts_pytest_unnamed (unnamed : namesAt letters "pytest".toList command 0 = false) :
    startsPytest letters command = (isPlainModule letters command &&
      command[2]?.any (letters.mapping.casefold · == "pytest".toList)) := by
  rw [startsPytest, unnamed, Bool.false_or]
  rfl

theorem selects_pytest_unnamed (unnamed : namesAt letters "pytest".toList command 0 = false) :
    selectsPytest letters command = (selectedModule letters command == some "pytest".toList) := by
  cases command with
  | nil => rfl
  | cons first rest =>
    have other : (executableName letters first == "pytest".toList) = false := unnamed
    simp only [selectsPytest, other, Bool.false_or]

theorem unnamed_of_plain (plain : isPlainModule letters command = true) :
    namesAt letters "pytest".toList command 0 = false := by
  cases command with
  | nil => rfl
  | cons first rest =>
    have reads := reads_as_python_of_executable (Bool.and_eq_true_iff.1 plain).1
    apply eq_false_of_ne_true
    intro named
    have name : executableName letters first = "pytest".toList := eq_of_beq named
    rw [readsAsPython, name] at reads
    cases reads

theorem casefold_pytest : letters.mapping.casefold "pytest".toList = "pytest".toList :=
  letters.mapping.casefold_ascii _ (each_of_all _ _ rfl)

theorem one_command_agrees_iff (command : List Text) :
    selectsPytest letters command = startsPytest letters command ↔
      ¬ (namesAt letters "pytest".toList command 0 = false ∧
          selectedModule letters command = some "pytest".toList ∧
            isPlainModule letters command = false) ∧
        ¬ (isPlainModule letters command = true ∧ ∃ module, command[2]? = some module ∧
          letters.mapping.casefold module = "pytest".toList ∧ module ≠ "pytest".toList) := by
  by_cases unnamed : namesAt letters "pytest".toList command 0 = false
  · rw [selects_pytest_unnamed unnamed, starts_pytest_unnamed unnamed]
    by_cases plain : isPlainModule letters command = true
    · rw [selected_module_plain plain, plain]
      cases third : command[2]? with
      | none => simp
      | some module =>
        by_cases spelled : module = "pytest".toList
        · subst spelled
          simp only [Option.any_some, casefold_pytest]
          simp
        · have differs : (some module == some "pytest".toList) = false := by
            simpa only [beq_eq_false_iff_ne, ne_eq, Option.some.injEq] using spelled
          rw [differs]
          simp only [Option.any_some, Bool.true_and, Option.some.injEq, exists_eq_left', spelled,
            not_false_eq_true, true_and, reduceCtorEq, and_false]
          rw [eq_comm, beq_eq_false_iff_ne, and_iff_left spelled]
    · rw [Bool.not_eq_true] at plain
      rw [plain, Bool.false_and]
      simp only [unnamed, true_and, and_true, Bool.false_eq_true, false_and, not_false_eq_true,
        beq_eq_false_iff_ne, ne_eq]
  · rw [Bool.not_eq_false] at unnamed
    have selected : selectsPytest letters command = true := by
      cases command with
      | nil => cases unnamed
      | cons first rest => exact Bool.or_eq_true_iff.2 (.inl unnamed)
    have started : startsPytest letters command = true := Bool.or_eq_true_iff.2 (.inl unnamed)
    rw [selected, started]
    refine iff_of_true rfl ⟨fun held => ?_, fun held => ?_⟩
    · rw [unnamed] at held
      cases held.1
    · rw [unnamed_of_plain held.1] at unnamed
      cases unnamed

theorem skipped_options {valueOptions tokens command : List Text}
    (skipped : skipSpelledOptions tokens = some command) :
    tokens.drop (optionTokens valueOptions false tokens) = command := by
  induction tokens with
  | nil =>
    cases skipped
    rfl
  | cons token rest ih =>
    unfold skipSpelledOptions at skipped
    split_ifs at skipped with dashed spelled
    · have named : token ≠ "--".toList := by
        rintro rfl
        cases spelled
      have alone : takesValue valueOptions token = false := by
        simp only [takesValue, spelled, Bool.not_true, Bool.false_and]
      rw [optionTokens, if_neg named, if_pos dashed, alone, Nat.add_comm, List.drop_succ_cons]
      exact ih skipped
    · cases skipped
      have named : token ≠ "--".toList := by
        rintro rfl
        exact dashed rfl
      rw [optionTokens, if_neg named, if_neg dashed, List.drop_zero]

variable {first : Text} {rest : List Text}

theorem wrapped_npx (launcher : executableName letters first ∈ ["npx".toList, "bunx".toList]) :
    wrappedCommandIndex letters (first :: rest) = some (optionValueEnd (first :: rest) 1
      ["-p".toList, "--package".toList, "-c".toList, "--call".toList]) := by
  rw [wrappedCommandIndex, if_pos (by simpa only [List.mem_cons, List.not_mem_nil, or_false] using
    launcher)]

theorem wrapped_pnpm (launcher : executableName letters first = "pnpm".toList) :
    wrappedCommandIndex letters (first :: rest) = some (scriptCommandIndex (first :: rest)
      ["-C".toList, "--dir".toList, "-F".toList, "--filter".toList, "--config-dir".toList]
      ["-c".toList, "--shell-mode".toList]) := by
  rw [wrappedCommandIndex, launcher, if_neg (by decide), if_pos rfl]

theorem wrapped_npm (launcher : executableName letters first = "npm".toList) :
    wrappedCommandIndex letters (first :: rest) = (npmMarker (first :: rest)).map fun marker =>
      optionValueEnd (first :: rest) (marker + 1)
        ["-c".toList, "--call".toList, "--package".toList] := by
  rw [wrappedCommandIndex, launcher, if_neg (by decide), if_neg (by decide), if_neg (by decide),
    if_pos rfl]

theorem wrapped_bundle (launcher : executableName letters first = "bundle".toList)
    (long : 3 ≤ (first :: rest).length)
    (second : (first :: rest)[1]? = some "exec".toList) :
    wrappedCommandIndex letters (first :: rest) = some 2 := by
  rw [wrappedCommandIndex, launcher, if_neg (by decide), if_neg (by decide), if_neg (by decide),
    if_neg (by decide), if_pos ⟨rfl, long, second⟩]

theorem wrapped_run
    (launcher : executableName letters first ∈ ["poetry".toList, "pipenv".toList, "uv".toList])
    (long : 3 ≤ (first :: rest).length) (second : (first :: rest)[1]? = some "run".toList) :
    wrappedCommandIndex letters (first :: rest) = some 2 := by
  have apart : ∀ name ∈ ["poetry".toList, "pipenv".toList, "uv".toList],
      ¬ (name = "npx".toList ∨ name = "bunx".toList) ∧ name ≠ "pnpm".toList ∧
        ¬ (name = "yarn".toList ∨ name = "yarnpkg".toList) ∧ name ≠ "npm".toList ∧
          name ≠ "bundle".toList := by decide
  obtain ⟨npx, pnpm, yarn, npm, bundle⟩ := apart _ launcher
  rw [wrappedCommandIndex, if_neg npx, if_neg pnpm, if_neg yarn, if_neg npm,
    if_neg fun held => bundle held.1, if_pos]
  simp only [List.mem_cons, List.not_mem_nil, or_false] at launcher
  exact ⟨launcher, long, second⟩

theorem option_end_cases (tokens valueOptions : List Text) :
    optionValueEnd tokens 2 valueOptions = 2 ∨
      ∃ token, tokens[2]? = some token ∧ isOption token = true := by
  rw [optionValueEnd]
  cases later : tokens.drop 2 with
  | nil => exact .inl rfl
  | cons token more =>
    have third : tokens[2]? = some token := by
      rw [← List.head?_drop, later]
      rfl
    by_cases dashed : isOption token = true
    · exact .inr ⟨token, third, dashed⟩
    · have named : token ≠ "--".toList := by
        rintro rfl
        exact dashed rfl
      rw [optionTokens, if_neg named, if_neg dashed]
      exact .inl rfl

theorem option_end_start {tokens valueOptions : List Text} {start : Nat} {token : Text}
    (found : tokens[start]? = some token) (plain : isOption token = false) :
    optionValueEnd tokens start valueOptions = start := by
  have later : ∃ more, tokens.drop start = token :: more := by
    rw [← List.head?_drop] at found
    exact List.head?_eq_some_iff.1 found
  obtain ⟨more, dropped⟩ := later
  have named : token ≠ "--".toList := by
    rintro rfl
    cases plain
  rw [optionValueEnd, dropped, optionTokens, if_neg named, if_neg (ne_true_of_eq_false plain),
    Nat.add_zero]

theorem script_command_index {tokens valueOptions laterOptions : List Text} {token : Text}
    (second : tokens[1]? = some token)
    (listed : token ∈ ["dlx".toList, "exec".toList, "run".toList]) :
    scriptCommandIndex tokens valueOptions laterOptions = optionValueEnd tokens 2 laterOptions := by
  have plain : ∀ token ∈ ["dlx".toList, "exec".toList, "run".toList], isOption token = false := by
    decide
  rw [scriptCommandIndex, option_end_start second (plain token listed), second, if_pos]
  exact List.contains_iff_mem.2 listed

theorem npm_marker_second {token : Text}
    (second : (first :: rest)[1]? = some token) (listed : token ∈ ["exec".toList, "x".toList]) :
    npmMarker (first :: rest) = some 1 := by
  cases rest with
  | nil => cases second
  | cons other more =>
    cases second
    have marked : ["exec".toList, "x".toList].contains token = true :=
      List.contains_iff_mem.2 listed
    rw [npmMarker, List.drop_succ_cons, List.drop_zero, List.findIdx?_cons, if_pos marked]
    rfl

/-- The static grammar leaves the argv alone, agrees with the adapter, or takes an option for the
command. -/
theorem launcher_cases (tokens : List Text) :
    commandAfterKnownLauncher letters tokens = tokens ∨
      commandAfterKnownLauncher letters tokens = adapterCommand letters tokens ∨
        commandAfterKnownLauncher letters tokens = tokens.drop 2 ∧
          ∃ token, tokens[2]? = some token ∧ isOption token = true := by
  cases tokens with
  | nil => exact .inl rfl
  | cons first rest =>
    have second_of {subcommands : List Text} (behind : ((first :: rest)[1]?.any
        subcommands.contains) = true) : ∃ token ∈ subcommands,
          (first :: rest)[1]? = some token := by
      obtain ⟨token, found, listed⟩ := (Option.any_eq_true _ _).1 behind
      exact ⟨token, List.contains_iff_mem.1 listed, found⟩
    unfold commandAfterKnownLauncher
    dsimp only
    split_ifs with poetry bundle pnpm npm npx
    · simp only [Bool.and_eq_true, decide_eq_true_eq] at poetry
      obtain ⟨launcher, long, behind⟩ := poetry
      obtain ⟨token, listed, second⟩ := second_of behind
      rw [List.mem_singleton.1 listed] at second
      have wrapped := wrapped_run (List.contains_iff_mem.1 launcher) long second
      exact .inr (.inl (by rw [adapterCommand, wrapped]))
    · simp only [Bool.and_eq_true, decide_eq_true_eq, beq_iff_eq] at bundle
      obtain ⟨launcher, long, behind⟩ := bundle
      obtain ⟨token, listed, second⟩ := second_of behind
      rw [List.mem_singleton.1 listed] at second
      exact .inr (.inl (by rw [adapterCommand, wrapped_bundle launcher long second]))
    · simp only [Bool.and_eq_true, decide_eq_true_eq, beq_iff_eq] at pnpm
      obtain ⟨launcher, -, behind⟩ := pnpm
      obtain ⟨token, listed, second⟩ := second_of behind
      have scripts : ∀ token ∈ ["exec".toList, "dlx".toList],
          token ∈ ["dlx".toList, "exec".toList, "run".toList] := by decide
      have script := scripts token listed
      right
      rw [adapterCommand, wrapped_pnpm launcher, script_command_index second script]
      rcases option_end_cases (first :: rest) ["-c".toList, "--shell-mode".toList] with
        reached | dashed
      · exact .inl (by rw [reached])
      · exact .inr ⟨rfl, dashed⟩
    · simp only [Bool.and_eq_true, decide_eq_true_eq, beq_iff_eq] at npm
      obtain ⟨launcher, -, behind⟩ := npm
      obtain ⟨token, listed, second⟩ := second_of behind
      right
      rw [adapterCommand, wrapped_npm launcher, npm_marker_second second listed]
      rcases option_end_cases (first :: rest)
        ["-c".toList, "--call".toList, "--package".toList] with reached | dashed
      · exact .inl (by rw [Option.map_some, reached])
      · exact .inr ⟨rfl, dashed⟩
    · simp only [Bool.and_eq_true, decide_eq_true_eq] at npx
      cases skipped : skipSpelledOptions rest with
      | none => exact .inl rfl
      | some command =>
        have wrapped := @wrapped_npx letters _ rest (List.contains_iff_mem.1 npx.1)
        refine .inr (.inl ?_)
        rw [adapterCommand, wrapped, optionValueEnd, List.drop_succ_cons, List.drop_zero,
          Nat.add_comm]
        exact (skipped_options skipped).symm
    · exact .inl rfl

theorem launcher_selects_nothing (launcher : executableName letters first ∈ launchers)
    (alone : commandAfterKnownLauncher letters (first :: rest) = first :: rest) :
    selectsPytest letters (first :: rest) = false := by
  have other : (executableName letters first == "pytest".toList) = false :=
    beq_eq_false_iff_ne.2 (launcher_distinct _ launcher).1
  have none : selectedModule letters (first :: rest) = none := by
    rw [selectedModule, parsePythonInvocation, alone]
    simp only [launcher_not_python launcher, Bool.false_eq_true, if_false]
    rfl
  rw [selectsPytest, other, none]
  rfl

theorem selects_nothing_of_apart {tokens : List Text}
    (alone : commandAfterKnownLauncher letters tokens = tokens)
    (apart : adapterCommand letters tokens ≠ tokens) : selectsPytest letters tokens = false := by
  cases tokens with
  | nil => rfl
  | cons first rest =>
    cases wrapped : wrappedCommandIndex letters (first :: rest) with
    | none =>
      rw [adapterCommand, wrapped] at apart
      exact absurd rfl apart
    | some index => exact launcher_selects_nothing (launcher_of_wrapped wrapped) alone

theorem apart_of_diverges {tokens : List Text} (diverges : Diverges letters tokens) :
    selectsPytest letters (commandAfterKnownLauncher letters tokens) ≠
      startsPytest letters (adapterCommand letters tokens) := by
  cases diverges with
  | interpreter command preflight adapter unnamed selected apart =>
    rw [preflight, adapter]
    exact fun agrees => ((one_command_agrees_iff command).1 agrees).1 ⟨unnamed, selected, apart⟩
  | spelling command module preflight adapter plain third folded spelled =>
    rw [preflight, adapter]
    exact fun agrees =>
      ((one_command_agrees_iff command).1 agrees).2 ⟨plain, module, third, folded, spelled⟩
  | launcher preflight adapter started =>
    rw [preflight, started, selects_nothing_of_apart preflight adapter]
    exact Bool.false_ne_true
  | option token preflight adapter third dashed one =>
    rw [preflight]
    exact one.symm

theorem diverges_of_apart {tokens : List Text}
    (apart : selectsPytest letters (commandAfterKnownLauncher letters tokens) ≠
      startsPytest letters (adapterCommand letters tokens)) : Diverges letters tokens := by
  by_cases same : commandAfterKnownLauncher letters tokens = adapterCommand letters tokens
  · rw [same, ne_eq, one_command_agrees_iff, not_and_or, not_not, not_not] at apart
    rcases apart with ⟨unnamed, selected, apart⟩ | ⟨plain, module, third, folded, spelled⟩
    · exact .interpreter _ same rfl unnamed selected apart
    · exact .spelling _ module same rfl plain third folded spelled
  · rcases @launcher_cases letters tokens with alone | found | ⟨taken, token, third, dashed⟩
    · have adapter : adapterCommand letters tokens ≠ tokens := fun found =>
        same (alone.trans found.symm)
      rw [alone, selects_nothing_of_apart alone adapter] at apart
      exact .launcher alone adapter (Bool.eq_true_of_not_eq_false apart.symm)
    · exact absurd found same
    · have adapter : adapterCommand letters tokens ≠ tokens.drop 2 := fun found =>
        same (taken.trans found.symm)
      rw [taken] at apart
      exact .option token taken adapter third dashed apart.symm

end Launchers

/-- The adapter grades from a report exactly what the static grammar takes for pytest, apart from
the commands on which the grammars part. -/
theorem pytest_grammars_agree_iff (letters : CommandLetters) (tokens : List Text) :
    invokesPytest letters tokens = pytestMatches letters tokens ↔ ¬ Diverges letters tokens := by
  rw [invokesPytest, pytest_matches_eq]
  constructor
  · intro agrees diverges
    exact apart_of_diverges diverges agrees
  · intro kept
    by_contra apart
    exact kept (diverges_of_apart apart)

/-- The documented cache-safe command is pytest for the report on readiness only. -/
theorem isolated_python_diverges :
    invokesPytest asciiCommandLetters ["python".toList, "-I".toList, "-B".toList, "-m".toList,
        "pytest".toList] = true ∧
      pytestMatches asciiCommandLetters ["python".toList, "-I".toList, "-B".toList, "-m".toList,
        "pytest".toList] = false := by
  decide

end EvoomGuard.Policy.PytestGrammar
