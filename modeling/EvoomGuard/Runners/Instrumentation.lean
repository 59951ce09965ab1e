import EvoomGuard.Runners.Registry

/-!
Where an adapter finds its runner in an argv and where it puts the report options.
-/

namespace EvoomGuard.Runners.Instrumentation

open Lib Runners.Command Runners.Registry

/-! Inserting one block -/

/-- The report stands in one piece behind the token at the index, with no `--` between them, and
nothing else changed. -/
def Inserted (tokens report instrumented : List Text) (last : Nat) : Prop :=
  ∃ before after, tokens = before ++ after ∧ instrumented = before ++ report ++ after ∧
    last < before.length ∧ "--".toList ∉ before.drop (last + 1)

theorem insert_at_length (report tokens : List Text) :
    insertAt tokens.length report tokens = tokens ++ report := by
  rw [insertAt, List.take_length, List.drop_length, List.append_nil]

theorem takeWhile_before_fresh {tokens : List Text} {head : Text} (rest : List Text)
    (fresh : head ∉ tokens) : (tokens ++ head :: rest).takeWhile (· != head) = tokens := by
  have others : ∀ token ∈ tokens, (token != head) = true := by
    intro token member
    exact bne_iff_ne.2 fun same => fresh (same ▸ member)
  rw [List.takeWhile_append_of_pos others, List.takeWhile_cons_of_neg (by simp), List.append_nil]

theorem inserted_iff_of_fresh {tokens more : List Text} {head : Text} (fresh : head ∉ tokens)
    {index last : Nat} (inside : index ≤ tokens.length) :
    Inserted tokens (head :: more) (insertAt index (head :: more) tokens) last ↔
      last < index ∧ "--".toList ∉ (tokens.take index).drop (last + 1) := by
  constructor
  · rintro ⟨before, after, rfl, placed, behind, apart⟩
    have same : (before ++ after).take index = before := by
      have left := takeWhile_before_fresh (more ++ (before ++ after).drop index)
        fun member => fresh (List.mem_of_mem_take (i := index) member)
      have right := takeWhile_before_fresh (more ++ after)
        fun member => fresh (List.mem_append_left after member)
      rw [insertAt, List.append_assoc, List.append_assoc] at placed
      exact left.symm.trans ((congrArg (List.takeWhile (· != head)) placed).trans right)
    rw [same]
    have counted := congrArg List.length same
    rw [List.length_take, Nat.min_eq_left inside] at counted
    exact ⟨counted ▸ behind, apart⟩
  · rintro ⟨behind, apart⟩
    refine ⟨tokens.take index, tokens.drop index, (List.take_append_drop _ _).symm, rfl, ?_, apart⟩
    rwa [List.length_take, Nat.min_eq_left inside]

theorem not_mem_of_commutes {block : List Text} {token : Text} (some : block ≠ [])
    (free : token ∉ block) (tokens : List Text) (commutes : block ++ tokens = tokens ++ block) :
    token ∉ tokens := by
  induction length : tokens.length using Nat.strong_induction_on generalizing tokens with
  | _ count ih =>
    have first : block <+: tokens ++ block := ⟨tokens, commutes⟩
    have second : tokens <+: tokens ++ block := ⟨block, rfl⟩
    by_cases longer : block.length ≤ tokens.length
    · obtain ⟨rest, rfl⟩ := List.prefix_of_prefix_length_le first second longer
      rw [List.append_assoc, List.append_cancel_left_eq] at commutes
      have positive := List.length_pos_iff.2 some
      rw [List.length_append] at length
      have later := ih rest.length (by omega) rest commutes rfl
      exact fun member => (List.mem_append.1 member).elim free later
    · have inside := List.prefix_of_prefix_length_le second first (by omega)
      exact fun member => free (inside.subset member)

theorem inserted_iff_of_appended {tokens report : List Text} (some : report ≠ [])
    (free : "--".toList ∉ report) {last : Nat} (inside : last < tokens.length) :
    Inserted tokens report (tokens ++ report) last ↔ "--".toList ∉ tokens.drop (last + 1) := by
  constructor
  · rintro ⟨before, after, rfl, placed, behind, apart⟩
    rw [List.append_assoc, List.append_assoc, List.append_cancel_left_eq] at placed
    have later := not_mem_of_commutes some free after placed.symm
    rw [List.drop_append_of_le_length behind]
    exact fun member => (List.mem_append.1 member).elim apart later
  · intro apart
    exact ⟨tokens, [], (List.append_nil _).symm, (List.append_nil _).symm, inside, apart⟩

/-! Options and their values -/

/-- Options, each with the value that it takes; `ends` says that a `--` may stand behind them. -/
inductive OptionRun (ends : Bool) (takes : Text → Bool) : List Text → Prop where
  | nil : OptionRun ends takes []
  | closed (allowed : ends = true) : OptionRun ends takes ["--"]
  | option {token : Text} {rest : List Text} (dashed : isOption token = true)
      (apart : token ≠ "--") (single : takes token = false) (later : OptionRun ends takes rest) :
      OptionRun ends takes (token :: rest)
  | valued {token value : Text} {rest : List Text} (dashed : isOption token = true)
      (apart : token ≠ "--") (asks : takes token = true) (later : OptionRun ends takes rest) :
      OptionRun ends takes (token :: value :: rest)

theorem option_run_behind {ends : Bool} {takes : Text → Bool} {run front rest : List Text}
    {token : Text} (whole : OptionRun ends takes run) (form : run = front ++ token :: rest)
    (plain : isOption token = false) : OptionRun ends takes rest := by
  induction whole generalizing front with
  | nil => simp at form
  | closed allowed =>
    obtain ⟨rfl, same⟩ | ⟨others, -, same⟩ := List.cons_eq_append_iff.1 form
    · cases same
      cases plain
    · simp at same
  | option dashed apart single later ih =>
    obtain ⟨rfl, same⟩ | ⟨others, -, same⟩ := List.cons_eq_append_iff.1 form
    · cases same
      exact absurd (dashed.symm.trans plain) (by decide)
    · exact ih same
  | valued dashed apart asks later ih =>
    obtain ⟨rfl, same⟩ | ⟨others, -, same⟩ := List.cons_eq_append_iff.1 form
    · cases same
      exact absurd (dashed.symm.trans plain) (by decide)
    · obtain ⟨rfl, same⟩ | ⟨others, -, same⟩ := List.cons_eq_append_iff.1 same
      · cases same
        exact later
      · exact ih same

theorem option_run_tokens {takes : Text → Bool} {valueOptions : List Text} (tokens : List Text) :
    (optionTokens valueOptions false tokens < tokens.length →
      (∀ token ∈ tokens.take (optionTokens valueOptions false tokens), isOption token = true →
        takes token = takesValue valueOptions token) →
      OptionRun true takes (tokens.take (optionTokens valueOptions false tokens))) ∧
    (optionTokens valueOptions true tokens < tokens.length →
      (∀ token ∈ tokens.take (optionTokens valueOptions true tokens), isOption token = true →
        takes token = takesValue valueOptions token) →
      ∀ token, isOption token = true → token ≠ "--" → takes token = true →
        OptionRun true takes (token :: tokens.take (optionTokens valueOptions true tokens))) := by
  induction tokens with
  | nil => exact ⟨fun inside => absurd inside (by simp), fun inside => absurd inside (by simp)⟩
  | cons first rest ih =>
    constructor
    · intro inside listed
      unfold optionTokens at inside listed ⊢
      split_ifs at inside listed ⊢ with ended dashed
      · exact ended ▸ .closed rfl
      · rw [Nat.add_comm, List.take_succ_cons] at listed ⊢
        rw [Nat.add_comm, List.length_cons, Nat.add_lt_add_iff_right] at inside
        have same := listed first List.mem_cons_self dashed
        have others := fun token member => listed token (List.mem_cons_of_mem first member)
        cases valued : takesValue valueOptions first with
        | false =>
          rw [valued] at inside others same
          exact .option dashed ended same (ih.1 inside others)
        | true =>
          rw [valued] at inside others same
          exact ih.2 inside others first dashed ended same
      · exact .nil
    · intro inside listed token dashed apart asks
      rw [optionTokens] at inside listed ⊢
      rw [Nat.add_comm, List.length_cons, Nat.add_lt_add_iff_right] at inside
      rw [Nat.add_comm, List.take_succ_cons] at listed ⊢
      exact .valued dashed apart asks
        (ih.1 inside fun token member => listed token (List.mem_cons_of_mem first member))

def skippedTokens (valueOptions tokens : List Text) (start : Nat) : List Text :=
  (tokens.drop start).take (optionTokens valueOptions false (tokens.drop start))

theorem take_option_value_end (tokens : List Text) (start : Nat) (valueOptions : List Text) :
    tokens.take (optionValueEnd tokens start valueOptions) =
      tokens.take start ++ skippedTokens valueOptions tokens start := by
  rw [optionValueEnd, List.take_add, skippedTokens]

/-- The options that the grammar skips from the index on take a value where it lists them. -/
def ListedAt (tokens : List Text) (takes : Text → Bool) (valueOptions : List Text) (start : Nat) :
    Prop :=
  ∀ token ∈ skippedTokens valueOptions tokens start,
    isOption token = true → takes token = takesValue valueOptions token

theorem option_run_skipped {tokens valueOptions : List Text} {takes : Text → Bool} {start : Nat}
    (listed : ListedAt tokens takes valueOptions start)
    (inside : optionValueEnd tokens start valueOptions < tokens.length) :
    OptionRun true takes (skippedTokens valueOptions tokens start) := by
  refine (option_run_tokens (tokens.drop start)).1 ?_ listed
  rw [optionValueEnd] at inside
  rw [List.length_drop]
  omega

/-! The position of a command -/

/-- The sub-commands behind which a launcher has a command. -/
def launcherForms (launcher : Text) : List (List Text) :=
  if launcher = "npx" ∨ launcher = "bunx" then [[]]
  else if launcher = "pnpm" ∨ launcher = "yarn" ∨ launcher = "yarnpkg" then
    [[], ["dlx"], ["exec"], ["run"]]
  else if launcher = "npm" then [["exec"], ["x"]]
  else if launcher = "bundle" then [["exec"]]
  else if launcher = "poetry" ∨ launcher = "pipenv" ∨ launcher = "uv" then
    [["run"]]
  else []

/-- Where the grammar skips the options of a launcher, behind which sub-command, and the value
options that it lists there. It has none for what stands between `npm` and its sub-command. -/
def optionScans (launcher : Text) (tokens : List Text) : List (List Text × List Text × Nat) :=
  let script (front later : List Text) : List (List Text × List Text × Nat) :=
    let i := optionValueEnd tokens 1 front
    ([], front, 1) :: (tokens[i]?.toList.filter ["dlx".toList, "exec", "run"].contains).map
      fun subcommand => ([subcommand], later, i + 1)
  if launcher = "npx" ∨ launcher = "bunx" then [([], ["-p", "--package", "-c", "--call"], 1)]
  else if launcher = "pnpm" then
    script ["-C", "--dir", "-F", "--filter", "--config-dir"] ["-c", "--shell-mode"]
  else if launcher = "yarn" ∨ launcher = "yarnpkg" then
    script ["--cwd", "--use-yarnrc", "--cache-folder", "--mutex"] []
  else if launcher = "npm" then
    (npmMarker tokens).toList.flatMap fun marker =>
      [["exec".toList], ["x".toList]].map fun subcommand =>
        (subcommand, ["-c", "--call", "--package"], marker + 1)
  else []

section Position

-- The value options of the launchers and of node, by sub-command, are theirs and not of the code.
variable (letters : CommandLetters) (takes : Text → List Text → Text → Bool)

/-- The launcher takes a value where the grammar says so, on the options that the grammar skips. -/
def ListedOptions (tokens : List Text) : Prop :=
  ∀ launcher ∈ tokens.head?.map (executableName letters),
    ∀ scan ∈ optionScans launcher tokens, ListedAt tokens (takes launcher scan.1) scan.2.1 scan.2.2

/-- The first token, or the command of a launcher: between them stand the sub-command, options
and values of options. -/
def CommandPosition (tokens : List Text) (start : Nat) : Prop :=
  start = 0 ∨ ∃ launcher front subcommand back,
    tokens.take start = launcher :: (front ++ subcommand ++ back) ∧
      subcommand ∈ launcherForms (executableName letters launcher) ∧
      OptionRun true (takes (executableName letters launcher) []) front ∧
      OptionRun true (takes (executableName letters launcher) subcommand) back ∧
      (subcommand = [] → back = [])

/-- Some sub-command of `npm` before the command has only options of `npm` and their values in
front of it. -/
def NpmFront (tokens : List Text) (start : Nat) : Prop :=
  namesAt letters "npm" tokens 0 = true → ∃ front later, ∃ marker ∈ ["exec".toList, "x".toList],
    (tokens.take start).drop 1 = front ++ marker :: later ∧
      OptionRun true (takes "npm" []) front

end Position

section Launchers

variable {letters : CommandLetters} {takes : Text → List Text → Text → Bool}

theorem script_command_run {tokens front later : List Text} {launcher : Text}
    (listed : ListedAt tokens (takes launcher []) front 1)
    (behind : ∀ subcommand ∈ tokens[optionValueEnd tokens 1 front]?.toList.filter
      ["dlx".toList, "exec", "run"].contains,
        ListedAt tokens (takes launcher [subcommand]) later (optionValueEnd tokens 1 front + 1))
    (inside : scriptCommandIndex tokens front later < tokens.length) :
    ∃ before subcommand back,
      tokens.take (scriptCommandIndex tokens front later) =
        tokens.take 1 ++ (before ++ subcommand ++ back) ∧
      subcommand ∈ [[], ["dlx".toList], ["exec".toList], ["run".toList]] ∧
      OptionRun true (takes launcher []) before ∧
      OptionRun true (takes launcher subcommand) back ∧ (subcommand = [] → back = []) := by
  unfold scriptCommandIndex at inside ⊢
  dsimp only at inside ⊢
  split_ifs at inside ⊢ with named
  · obtain ⟨subcommand, found, known⟩ := (Option.any_eq_true _ _).1 named
    obtain ⟨bound, reached⟩ := List.getElem?_eq_some_iff.1 found
    have skipped := behind subcommand (by simpa [found] using known)
    refine ⟨_, [subcommand], _, ?_, ?_, option_run_skipped listed bound,
      option_run_skipped skipped inside, (absurd · (List.cons_ne_nil _ _))⟩
    · rw [take_option_value_end, List.take_add_one, found, take_option_value_end]
      simp
    · simp only [List.contains_iff_mem, List.mem_cons, List.not_mem_nil, or_false] at known
      rcases known with rfl | rfl | rfl <;> simp
  · refine ⟨_, [], [], ?_, by simp, option_run_skipped listed inside, .nil, fun _ => rfl⟩
    rw [take_option_value_end, List.append_nil, List.append_nil]

theorem npm_marker_some {tokens : List Text} {marker : Nat}
    (found : npmMarker tokens = some marker) :
    ∃ subcommand ∈ ["exec".toList, "x".toList], tokens[marker]? = some subcommand ∧
      0 < marker ∧ ∀ token ∈ (tokens.take marker).drop 1,
        token ∉ ["exec".toList, "x".toList] := by
  obtain ⟨offset, first, rfl⟩ := Option.map_eq_some_iff.1 found
  obtain ⟨bound, listed, others⟩ := List.findIdx?_eq_some_iff_getElem.1 first
  refine ⟨(tokens.drop 1)[offset], List.contains_iff_mem.1 listed, ?_, Nat.succ_pos _, ?_⟩
  · rw [← List.getElem?_eq_getElem bound, List.getElem?_drop, Nat.add_comm]
  · intro token member
    rw [List.drop_take, Nat.add_sub_cancel] at member
    obtain ⟨earlier, inside, rfl⟩ := List.mem_iff_getElem.1 member
    rw [List.length_take] at inside
    rw [List.getElem_take]
    have passed := others earlier (by omega)
    simpa only [Bool.not_eq_true, ← Bool.not_eq_true, List.contains_iff_mem] using passed

/-- The sub-command with only options of `npm` in front of it may stand behind the first `exec` or
`x`, which then is the value of an option. -/
theorem npm_position {first : Text} {rest back : List Text} {marker start : Nat}
    (named : executableName letters first = "npm")
    (found : npmMarker (first :: rest) = some marker)
    (taken : (first :: rest).take start = (first :: rest).take (marker + 1) ++ back)
    (skipped : ∀ token ∈ ["exec".toList, "x".toList], OptionRun true (takes "npm" [token]) back)
    (front : NpmFront letters takes (first :: rest) start) :
    CommandPosition letters takes (first :: rest) start := by
  obtain ⟨before, later, token, listed, parted, options⟩ := front (beq_iff_eq.2 named)
  obtain ⟨subcommand, -, reached, positive, others⟩ := npm_marker_some found
  obtain ⟨fewer, rfl⟩ := Nat.exists_eq_succ_of_ne_zero positive.ne'
  rw [List.take_add_one, reached, List.take_succ_cons] at taken
  rw [List.take_succ_cons, List.drop_succ_cons, List.drop_zero] at others
  have whole := parted
  rw [taken, Option.toList_some, List.cons_append, List.cons_append, List.drop_succ_cons,
    List.drop_zero, List.append_assoc, List.singleton_append] at whole
  have behind : OptionRun true (takes "npm" [token]) later := by
    have plain : isOption token = false := by
      simp only [List.mem_cons, List.not_mem_nil, or_false] at listed
      rcases listed with rfl | rfl <;> rfl
    obtain ⟨more, -, same⟩ | ⟨more, same, again⟩ := List.append_eq_append_iff.1 whole
    · obtain ⟨rfl, same⟩ | ⟨fewer, rfl, same⟩ := List.cons_eq_append_iff.1 same
      · cases same
        exact skipped token listed
      · exact option_run_behind (skipped token listed) (List.cons.inj same).2 plain
    · cases more with
      | nil =>
        cases again
        exact skipped token listed
      | cons one more =>
        cases again
        exact absurd listed (others token (same ▸ by simp))
  refine .inr ⟨first, before, [token], later, ?_, ?_, named ▸ options, named ▸ behind,
    (absurd · (List.cons_ne_nil _ _))⟩
  · rw [taken]
    simpa using whole
  · rw [named]
    simp only [List.mem_cons, List.not_mem_nil, or_false] at listed
    rcases listed with rfl | rfl <;> decide

/-- What an adapter takes for the command of a launcher stands in the position of one, where for
`npm` the tokens before the sub-command are not looked at. -/
theorem command_position_of_wrapped {tokens : List Text} {start : Nat}
    (listed : ListedOptions letters takes tokens)
    (wrapped : wrappedCommandIndex letters tokens = some start) (inside : start < tokens.length)
    (npm : NpmFront letters takes tokens start) : CommandPosition letters takes tokens start := by
  cases tokens with
  | nil => cases wrapped
  | cons first rest =>
    have scanned := listed _ rfl
    unfold wrappedCommandIndex at wrapped
    unfold optionScans at scanned
    dsimp only at wrapped scanned
    split_ifs at wrapped with npx pnpm yarn named bundle poetry
    · cases wrapped
      rw [if_pos npx] at scanned
      refine .inr ⟨first, _, [], [], ?_, ?_,
        option_run_skipped (scanned _ List.mem_cons_self) inside, .nil, fun _ => rfl⟩
      · rw [take_option_value_end, List.append_nil, List.append_nil]
        rfl
      · rcases npx with name | name <;> rw [name] <;> decide
    · cases wrapped
      rw [if_neg npx, if_pos pnpm] at scanned
      obtain ⟨front, subcommand, back, before, form, runs⟩ :=
        script_command_run (scanned _ List.mem_cons_self) (fun subcommand member =>
          scanned ([subcommand], _) (List.mem_cons_of_mem _ (List.mem_map_of_mem member))) inside
      exact .inr ⟨first, front, subcommand, back, before, pnpm ▸ form, runs⟩
    · cases wrapped
      rw [if_neg npx, if_neg pnpm, if_pos yarn] at scanned
      obtain ⟨front, subcommand, back, before, form, runs⟩ :=
        script_command_run (scanned _ List.mem_cons_self) (fun subcommand member =>
          scanned ([subcommand], _) (List.mem_cons_of_mem _ (List.mem_map_of_mem member))) inside
      refine .inr ⟨first, front, subcommand, back, before, ?_, runs⟩
      rcases yarn with name | name <;> rw [name] <;> exact form
    · obtain ⟨marker, found, rfl⟩ := Option.map_eq_some_iff.1 wrapped
      rw [if_neg npx, if_neg pnpm, if_neg yarn, if_pos named, found] at scanned
      rw [named] at scanned
      refine npm_position named found (take_option_value_end _ _ _) (fun token member => ?_) npm
      have both : ([token], ["-c".toList, "--call", "--package"], marker + 1) ∈
          (some marker).toList.flatMap fun marker =>
            [["exec".toList], ["x".toList]].map fun subcommand =>
              (subcommand, ["-c".toList, "--call", "--package"], marker + 1) := by
        simp only [List.mem_cons, List.not_mem_nil, or_false] at member
        rcases member with rfl | rfl
        · exact List.mem_cons_self
        · exact List.mem_cons_of_mem _ List.mem_cons_self
      exact option_run_skipped (scanned _ both) inside
    · cases wrapped
      obtain ⟨name, long, second⟩ := bundle
      cases rest with
      | nil => cases second
      | cons other more =>
        cases second
        exact .inr ⟨first, [], ["exec"], [], rfl, by rw [name]; decide, .nil, .nil, fun _ => rfl⟩
    · cases wrapped
      obtain ⟨name, long, second⟩ := poetry
      cases rest with
      | nil => cases second
      | cons other more =>
        cases second
        refine .inr ⟨first, [], ["run"], [], rfl, ?_, .nil, .nil, fun _ => rfl⟩
        rcases name with name | name | name <;> rw [name] <;> decide

theorem npm_front_of_command_position {tokens : List Text} {start : Nat} (positive : start ≠ 0)
    (position : CommandPosition letters takes tokens start) :
    NpmFront letters takes tokens start := by
  intro named
  obtain ⟨launcher, front, subcommand, back, taken, form, options, -, -⟩ :=
    position.resolve_left positive
  have name : executableName letters launcher = "npm" := by
    cases tokens with
    | nil => cases named
    | cons first rest =>
      cases start with
      | zero => exact absurd rfl positive
      | succ fewer =>
        have same : first = launcher := List.head_eq_of_cons_eq taken
        exact same ▸ eq_of_beq named
  have forms : launcherForms "npm".toList = [["exec".toList], ["x".toList]] := by decide
  rw [name] at form options
  rw [forms] at form
  simp only [List.mem_cons, List.not_mem_nil, or_false] at form
  rcases form with rfl | rfl
  · exact ⟨front, back, "exec", List.mem_cons_self, by rw [taken]; simp, options⟩
  · exact ⟨front, back, "x", List.mem_cons_of_mem _ List.mem_cons_self, by rw [taken]; simp,
      options⟩

end Launchers

/-! The runner that an adapter sees -/

section

variable (letters : CommandLetters)

def commandStart (recognised : List Text → Nat → Bool) (tokens : List Text) : Option Nat :=
  if recognised tokens 0 then some 0
  else (wrappedCommandIndex letters tokens).filter (recognised tokens)

/-- The module is named two tokens behind the interpreter. -/
def pytestPosition (tokens : List Text) : Option (Nat × Nat) :=
  match commandStart letters (namesAt letters "pytest") tokens with
  | some start => some (start, start)
  | none => (commandStart letters (modulesAt letters "pytest") tokens).map fun start =>
    (start, start + 2)

/-- Where the command starts, and the token that names the runner in it. -/
def runnerPosition (tokens : List Text) : Runner → Option (Nat × Nat)
  | .pytest => pytestPosition letters tokens
  | .nodeTest => if nodeTestMatches letters tokens then some (0, 0) else none
  | .vitest => (commandStart letters (namesAt letters "vitest") tokens).map fun i => (i, i)
  | .jest => (commandStart letters (namesAt letters "jest") tokens).map fun i => (i, i)
  | .gotestsum =>
    (commandStart letters (namesAt letters "gotestsum") tokens).map fun i => (i, i)
  | .rspec => (commandStart letters (namesAt letters "rspec") tokens).map fun i => (i, i)
  | .mocha => (commandStart letters (namesAt letters "mocha") tokens).map fun i => (i, i)
  | .maven => if mavenMatches letters tokens then some (0, 0) else none

end

section Positions

variable {letters : CommandLetters} {takes : Text → List Text → Text → Bool} {tokens : List Text}

theorem command_start_isSome (recognised : List Text → Nat → Bool) :
    (commandStart letters recognised tokens).isSome =
      (recognised tokens 0 ||
        (wrappedCommandIndex letters tokens).any (recognised tokens)) := by
  unfold commandStart
  split_ifs with first
  · rw [first]
    rfl
  · rw [eq_false_of_ne_true first]
    cases wrappedCommandIndex letters tokens with
    | none => rfl
    | some index => cases found : recognised tokens index <;> simp [found]

theorem command_start_cases {recognised : List Text → Nat → Bool} {start : Nat}
    (found : commandStart letters recognised tokens = some start) :
    recognised tokens start = true ∧
      (start = 0 ∨ wrappedCommandIndex letters tokens = some start) := by
  unfold commandStart at found
  split_ifs at found with first
  · cases found
    exact ⟨first, .inl rfl⟩
  · obtain ⟨wrapped, named⟩ := Option.filter_eq_some_iff.1 found
    exact ⟨named, .inr wrapped⟩

theorem names_at_bound {runner : Text} {index : Nat}
    (named : namesAt letters runner tokens index = true) : index < tokens.length := by
  by_contra outside
  rw [namesAt, List.getElem?_eq_none (by omega)] at named
  cases named

theorem modules_at_bound {module : Text} {index : Nat}
    (selected : modulesAt letters module tokens index = true) : index + 2 < tokens.length := by
  by_contra outside
  rw [modulesAt, List.getElem?_eq_none (by omega : tokens.length ≤ index + 2), Bool.and_eq_true]
    at selected
  cases selected.2

theorem runner_position_isSome (runner : Runner) :
    (runnerPosition letters tokens runner).isSome = runner.matches letters tokens := by
  have named (name : Text) :
      ((commandStart letters (namesAt letters name) tokens).map fun i => (i, i)).isSome =
        invokesRunner letters tokens name := by
    rw [Option.isSome_map, command_start_isSome]
    rfl
  cases runner with
  | pytest =>
    have runs := @command_start_isSome letters tokens
      (namesAt letters "pytest")
    have modules := @command_start_isSome letters tokens
      (modulesAt letters "pytest")
    rw [runnerPosition, pytestPosition, Runner.matches, pytestMatches, invokesRunner,
      invokesPythonModule, ← runs, ← modules]
    cases commandStart letters (namesAt letters "pytest") tokens <;> simp
  | nodeTest =>
    rw [runnerPosition, Runner.matches]
    cases nodeTestMatches letters tokens <;> rfl
  | maven =>
    rw [runnerPosition, Runner.matches]
    cases mavenMatches letters tokens <;> rfl
  | vitest | jest | gotestsum | rspec | mocha => exact named _

section

variable {runner : Runner} {start last : Nat}
  (found : runnerPosition letters tokens runner = some (start, last))
include found

theorem runner_position_cases :
    start ≤ last ∧ last < tokens.length ∧
      (start = 0 ∨ wrappedCommandIndex letters tokens = some start) := by
  have named {name : Text} (found : ((commandStart letters (namesAt letters name) tokens).map
      fun i => (i, i)) = some (start, last)) : start ≤ last ∧ last < tokens.length ∧
        (start = 0 ∨ wrappedCommandIndex letters tokens = some start) := by
    obtain ⟨index, reached, same⟩ := Option.map_eq_some_iff.1 found
    cases same
    obtain ⟨runs, placed⟩ := command_start_cases reached
    exact ⟨Nat.le_refl _, names_at_bound runs, placed⟩
  cases runner with
  | pytest =>
    rw [runnerPosition, pytestPosition] at found
    cases direct : commandStart letters (namesAt letters "pytest") tokens with
    | some index =>
      rw [direct] at found
      cases found
      obtain ⟨runs, placed⟩ := command_start_cases direct
      exact ⟨Nat.le_refl _, names_at_bound runs, placed⟩
    | none =>
      rw [direct] at found
      obtain ⟨index, reached, same⟩ := Option.map_eq_some_iff.1 found
      cases same
      obtain ⟨selected, placed⟩ := command_start_cases reached
      exact ⟨by omega, modules_at_bound selected, placed⟩
  | nodeTest =>
    obtain ⟨matched, same⟩ := Option.ite_none_right_eq_some.1 found
    cases same
    exact ⟨Nat.le_refl _, names_at_bound (Bool.and_eq_true_iff.1 matched).1, .inl rfl⟩
  | maven =>
    obtain ⟨matched, same⟩ := Option.ite_none_right_eq_some.1 found
    cases same
    exact ⟨Nat.le_refl _, (Bool.or_eq_true_iff.1 matched).elim names_at_bound names_at_bound,
      .inl rfl⟩
  | vitest | jest | gotestsum | rspec | mocha => exact named found

theorem command_position_iff (listed : ListedOptions letters takes tokens) :
    CommandPosition letters takes tokens start ↔
      start = 0 ∨ NpmFront letters takes tokens start := by
  obtain ⟨ordered, inside, placed⟩ := runner_position_cases found
  by_cases first : start = 0
  · exact iff_of_true (.inl first) (.inl first)
  · rw [or_iff_right first]
    exact ⟨npm_front_of_command_position first, fun npm =>
      command_position_of_wrapped listed (placed.resolve_left first) (by omega) npm⟩

end

end Positions

/-! The place of the report options -/

/-- Before which token an adapter puts its options. -/
def Runner.place (tokens : List Text) : Runner → Nat
  | .nodeTest => tokens.idxOf "--test".toList + 1
  | .gotestsum => if tokens.contains "--" then tokens.idxOf "--".toList else tokens.length
  | _ => tokens.length

theorem not_mem_of_no_start {tokens heads : List Text} {token head : Text}
    (none : anyStartsWith tokens heads = false) (listed : head ∈ heads)
    (starts : Text.startsWith token head = true) : token ∉ tokens := by
  intro member
  rw [anyStartsWith, List.any_eq_false] at none
  exact none token member (List.any_eq_true.2 ⟨head, listed, starts⟩)

/-- The options start with one that the command does not have; pytest takes the last of equal
ones, and so its adapter never declines. -/
theorem instrument_cases {runner : Runner} {tokens instrumented : List Text} {path : Text}
    (given : runner.instrument tokens path = some instrumented) :
    instrumented = insertAt (Runner.place tokens runner) (runner.report path) tokens ∧
      (runner = .pytest ∨ ∃ head more, runner.report path = head :: more ∧ head ∉ tokens) := by
  cases runner with
  | pytest =>
    cases given
    exact ⟨(insert_at_length _ _).symm, .inl rfl⟩
  | nodeTest =>
    obtain ⟨none, same⟩ := Option.ite_none_left_eq_some.1 given
    cases same
    refine ⟨rfl, .inr ⟨_, _, rfl, ?_⟩⟩
    exact not_mem_of_no_start (eq_false_of_ne_true none) (List.mem_singleton_self _) rfl
  | vitest =>
    obtain ⟨none, same⟩ := Option.ite_none_left_eq_some.1 given
    cases same
    refine ⟨(insert_at_length _ _).symm, .inr ⟨_, _, rfl, ?_⟩⟩
    exact not_mem_of_no_start (eq_false_of_ne_true none) List.mem_cons_self rfl
  | jest | maven =>
    obtain ⟨none, same⟩ := Option.ite_none_left_eq_some.1 given
    cases same
    refine ⟨(insert_at_length _ _).symm, .inr ⟨_, _, rfl, ?_⟩⟩
    exact not_mem_of_no_start (eq_false_of_ne_true none) (List.mem_singleton_self _) rfl
  | gotestsum =>
    obtain ⟨none, same⟩ := Option.ite_none_left_eq_some.1 given
    refine ⟨?_, .inr ⟨_, _, rfl, ?_⟩⟩
    · simp only [Runner.place]
      split_ifs at same ⊢
      · exact (Option.some.inj same).symm
      · rw [insert_at_length]
        exact (Option.some.inj same).symm
    · exact not_mem_of_no_start (eq_false_of_ne_true none) (List.mem_singleton_self _) rfl
  | rspec | mocha =>
    obtain ⟨none, same⟩ := Option.ite_none_left_eq_some.1 given
    cases same
    refine ⟨(insert_at_length _ _).symm, .inr ⟨_, _, rfl, fun member => none ?_⟩⟩
    rw [List.contains_iff_mem.2 member]
    rfl

/-- No `--` stands where the options of a runner would come behind it. -/
def PlacedOptions (tokens : List Text) (last : Nat) : Runner → Prop
  | .nodeTest => "--".toList ∉ (tokens.take (tokens.idxOf "--test".toList)).drop 1
  | .gotestsum => "--".toList ∉ tokens.take (last + 1)
  | _ => "--".toList ∉ tokens.drop (last + 1)

variable {tokens more : List Text} {head : Text}

theorem inserted_iff_at_end (fresh : head ∉ tokens)
    {last : Nat} (inside : last < tokens.length) :
    Inserted tokens (head :: more) (insertAt tokens.length (head :: more) tokens) last ↔
      "--".toList ∉ tokens.drop (last + 1) := by
  rw [inserted_iff_of_fresh fresh (Nat.le_refl _), List.take_length]
  exact and_iff_right inside

theorem inserted_iff_after_test (fresh : head ∉ tokens)
    (tested : "--test".toList ∈ tokens) :
    Inserted tokens (head :: more)
        (insertAt (tokens.idxOf "--test".toList + 1) (head :: more) tokens) 0 ↔
      "--".toList ∉ (tokens.take (tokens.idxOf "--test".toList)).drop 1 := by
  have reached : tokens[tokens.idxOf "--test".toList]? = some "--test".toList :=
    List.getElem?_idxOf tested
  rw [inserted_iff_of_fresh fresh (List.idxOf_lt_length_iff.2 tested),
    and_iff_right (Nat.succ_pos _), List.take_add_one, reached, Option.toList_some]
  cases tokens.take (tokens.idxOf "--test".toList) with
  | nil => exact iff_of_true (fun member => nomatch member) fun member => nomatch member
  | cons first others =>
    rw [List.cons_append, Nat.zero_add, List.drop_succ_cons, List.drop_succ_cons, List.drop_zero,
      List.drop_zero, List.mem_append, List.mem_singleton, not_or]
    exact and_iff_left (by decide)

theorem inserted_iff_before_rest (fresh : head ∉ tokens)
    {last : Nat} (separated : "--".toList ∈ tokens) :
    Inserted tokens (head :: more) (insertAt (tokens.idxOf "--".toList) (head :: more) tokens)
        last ↔ "--".toList ∉ tokens.take (last + 1) := by
  rw [inserted_iff_of_fresh fresh List.idxOf_le_length, List.mem_take_iff_idxOf_lt separated]
  have none : "--".toList ∉ (tokens.take (tokens.idxOf "--".toList)).drop (last + 1) := by
    intro member
    have early := (List.mem_take_iff_idxOf_lt separated).1 (List.mem_of_mem_drop member)
    exact absurd early (Nat.lt_irrefl _)
  rw [and_iff_left none]
  omega

theorem inserted_iff {letters : CommandLetters} {runner : Runner} {tokens instrumented : List Text}
    {path : Text} {start last : Nat}
    (found : runnerPosition letters tokens runner = some (start, last))
    (given : runner.instrument tokens path = some instrumented) :
    Inserted tokens (runner.report path) instrumented last ↔ PlacedOptions tokens last runner := by
  have inside := (runner_position_cases found).2.1
  obtain ⟨rfl, rfl | ⟨head, more, form, fresh⟩⟩ := instrument_cases given
  · have free : "--".toList ∉ pytestReport path := by
      simp [pytestReport]
    have appended := inserted_iff_of_appended (List.cons_ne_nil _ _) free inside
    rw [← insert_at_length] at appended
    exact appended
  · rw [form]
    cases runner with
    | pytest | vitest | jest | rspec | mocha | maven => exact inserted_iff_at_end fresh inside
    | nodeTest =>
      obtain ⟨matched, same⟩ := Option.ite_none_right_eq_some.1 found
      cases same
      exact inserted_iff_after_test fresh
        (List.contains_iff_mem.1 (Bool.and_eq_true_iff.1 matched).2)
    | gotestsum =>
      by_cases separated : "--".toList ∈ tokens
      · rw [Runner.place, if_pos (List.contains_iff_mem.2 separated)]
        exact inserted_iff_before_rest fresh separated
      · rw [Runner.place, if_neg fun listed => separated (List.contains_iff_mem.1 listed),
          inserted_iff_at_end fresh inside]
        exact iff_of_true (fun member => separated (List.mem_of_mem_drop member))
          fun member => separated (List.mem_of_mem_take member)

/-! Instrumentation as a whole -/

section Instrumentation

variable (letters : CommandLetters) (takes : Text → List Text → Text → Bool)

/-- Options of node and their values stand between it and some `--test`. -/
def TestBeforeOperands (tokens : List Text) : Prop :=
  ∃ front rest, tokens.drop 1 = front ++ "--test".toList :: rest ∧
    OptionRun false (takes "node" []) front

/-- An argv that is instrumented has its runner in the position of a command, and gets nothing but
the options of the report, behind the runner and before any `--`. -/
def SoundlyInstrumented (shell : List Text → Text → Option (List Text)) (tokens : List Text)
    (path : Text) : Prop :=
  ∀ instrumented env, instrumentCommand letters shell tokens path = (instrumented, true, env) →
    ∃ runner start last, innerAdapters.find? (Runner.matches letters tokens) = some runner ∧
      runnerPosition letters tokens runner = some (start, last) ∧
      CommandPosition letters takes tokens start ∧
      (runner = .nodeTest → TestBeforeOperands takes tokens) ∧
      Inserted tokens (runner.report path) instrumented last ∧ env = runner.reportEnv path

/-- What the tokens have to satisfy for that, where an adapter takes them on: no positional
argument of `npm` before its sub-command or of node before `--test`, and no `--` where the options
would come behind it. -/
def RunnerInCommandPosition (tokens : List Text) (path : Text) : Prop :=
  ∀ runner start last, innerAdapters.find? (Runner.matches letters tokens) = some runner →
    runnerPosition letters tokens runner = some (start, last) →
      (runner.instrument tokens path).isSome = true →
        (start = 0 ∨ NpmFront letters takes tokens start) ∧
          (runner = .nodeTest → TestBeforeOperands takes tokens) ∧
          PlacedOptions tokens last runner

end Instrumentation

variable {letters : CommandLetters}

theorem instrument_command_eq {tokens : List Text}
    (direct : shellMatches letters tokens = false) {runner : Runner}
    (selected : innerAdapters.find? (Runner.matches letters tokens) = some runner)
    (shell : List Text → Text → Option (List Text)) (path : Text) :
    instrumentCommand letters shell tokens path =
      match runner.instrument tokens path with
      | some command => (command, true, runner.reportEnv path)
      | none => (tokens, false, []) := by
  cases given : runner.instrument tokens path with
  | some command | none => simp [instrumentCommand, direct, selected, given]

theorem runner_selected {tokens instrumented : List Text} {path : Text}
    {env : List (Text × Text)} {shell : List Text → Text → Option (List Text)}
    (direct : shellMatches letters tokens = false)
    (given : instrumentCommand letters shell tokens path = (instrumented, true, env)) :
    ∃ runner, innerAdapters.find? (Runner.matches letters tokens) = some runner ∧
      runner.instrument tokens path = some instrumented ∧ env = runner.reportEnv path := by
  cases selected : innerAdapters.find? (Runner.matches letters tokens) with
  | none =>
    rw [instrumentCommand, direct] at given
    simp [selected] at given
  | some runner =>
    rw [instrument_command_eq direct selected] at given
    cases taken : runner.instrument tokens path with
    | none =>
      rw [taken] at given
      cases given
    | some command =>
      rw [taken] at given
      cases given
      exact ⟨runner, rfl, taken, rfl⟩

/-- Of `npx` and `npm exec` those that they document for the package and the call. -/
def packageValueOptions (launcher : Text) (subcommand : List Text) (token : Text) : Bool :=
  launcher == "npx" && takesValue ["-p", "--package", "-c", "--call"] token ||
    launcher == "npm" && subcommand != [] && takesValue ["-c", "--call", "--package"] token

/-- The adapters take the last token for a runner, though `npm` gets it as an argument of `test`. -/
def npmTestArguments : List Text :=
  ["npm", "test", "exec", "pytest"]

def npmExecVitest : List Text := ["npm", "--yes", "exec", "--package", "vitest", "vitest", "run"]

end EvoomGuard.Runners.Instrumentation
