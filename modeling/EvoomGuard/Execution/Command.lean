import EvoomGuard.Lib.NtPath

/-!
`execution/command.py` on Windows: the search for the executable of a command without a shell.
-/

namespace EvoomGuard.Execution.Command

open Lib Lib.NtPath

def nativeExecutableExtensions : List Text :=
  [".COM", ".EXE", ".BAT", ".CMD"]

def isNative (mapping : CaseMapping) (extension : Text) : Bool :=
  (nativeExecutableExtensions.map mapping.casefold).contains (mapping.casefold extension)

/-- The case rules of a Unicode database as far as names on Windows need them: what folds to a
native extension has it for its upper case, and lower case keeps the punctuation of paths. -/
structure WindowsLetters where
  mapping : CaseMapping
  upper : Text → Text
  upper_native : ∀ text, isNative mapping text = true → upper text ∈ nativeExecutableExtensions
  lower_punctuation : ∀ text, ∀ character ∈ ['\\', '/', ':'],
    character ∈ mapping.lower text ↔ character ∈ text

/-- What the search asks the host. What is only a drive or a share is no file; a root without a
drive made a path absolute before Python 3.13. -/
structure WindowsHost where
  rootIsEnough : Bool
  isfile : Text → Bool
  expandvars : Text → Text
  getcwd : Text
  share_no_file : ∀ path, isfile path = true → (splitroot path).path ≠ []

/-- The ways in which `FileNotFoundError` is raised, each with what its message shows. -/
inductive FileNotFound where
  | unsupportedSuffix (suffix : Text)
  | explicitNotFound (executable : Text)
  | bareNotFound (executable : Text)
  deriving DecidableEq

abbrev Environment := Text → Option Text

section Search

variable (letters : WindowsLetters) (host : WindowsHost) (env : Environment)

/-- The native suffix that one item of `PATHEXT` stands for. -/
def configuredExtension (item : Text) : Option Text :=
  let extension := Text.strip item
  let normalized := if Text.startsWith extension "." then extension else '.' :: extension
  if extension ≠ [] ∧ isNative letters.mapping normalized = true then some (letters.upper normalized)
  else none

def windowsExecutableExtensions : List Text :=
  let configured := (Text.split ';' ((env "PATHEXT").getD ".COM;.EXE;.BAT;.CMD"))
    |>.filterMap (configuredExtension letters)
  ".EXE" ::
    configured.eraseDups.filter (letters.mapping.casefold · != ".exe")

def windowsCandidates (base : Text) (extensions : List Text) : List Text :=
  if letters.mapping.casefold (extension base) = [] then extensions.map (base ++ ·)
  else if isNative letters.mapping (extension base) then [base]
  else []

def existingWindowsCandidate (base : Text) (extensions : List Text) : Option Text :=
  (windowsCandidates letters base extensions).find? host.isfile

def explicitPath (executable : Text) : Option Text → Text
  | none => executable
  | some cwd =>
    if cwd ≠ [] ∧ isabs host.rootIsEnough executable = false then
      join letters.mapping.lower cwd executable
    else executable

def resolveExplicitWindowsExecutable (executable : Text) (cwd : Option Text)
    (extensions : List Text) : Except FileNotFound Text :=
  let explicit := explicitPath letters host executable cwd
  let suffix := letters.mapping.casefold (extension explicit)
  if suffix ≠ [] ∧ isNative letters.mapping (extension explicit) = false then
    .error (.unsupportedSuffix suffix)
  else
    match existingWindowsCandidate letters host explicit extensions with
    | none => .error (.explicitNotFound executable)
    | some resolved => .ok resolved

def pathDirectories : List Text :=
  (Text.split ';' ((env "PATH").getD [])).map fun item =>
    host.expandvars (Text.stripWhile (· == '"') (Text.strip item))

/-- The absolute entries of `PATH`. -/
def absoluteDirectories : List Text :=
  (pathDirectories host env).filter fun directory =>
    directory ≠ [] && isabs host.rootIsEnough directory

def foundIn (executable : Text) (extensions : List Text) (directory : Text) : Option Text :=
  (existingWindowsCandidate letters host (join letters.mapping.lower directory executable)
    extensions).filter (!·.isEmpty)

def resolveBareWindowsExecutable (executable : Text) (extensions : List Text) :
    Except FileNotFound Text :=
  match (absoluteDirectories host env).findSome? (foundIn letters host executable extensions) with
  | some resolved => .ok resolved
  | none => .error (.bareNotFound executable)

def resolveHostCommand (command : List Text) (cwd : Option Text) :
    Except FileNotFound (List Text) :=
  match command with
  | [] => .ok []
  | executable :: arguments =>
    let extensions := windowsExecutableExtensions letters env
    let resolved :=
      if executable.any isSeparator then
        resolveExplicitWindowsExecutable letters host executable cwd extensions
      else resolveBareWindowsExecutable letters host env executable extensions
    resolved.map (· :: arguments)

def locateHostCommand (executable : Text) (cwd : Option Text) : Option Text :=
  let activeCwd := cwd.getD host.getcwd
  if executable = [] then none
  else
    match resolveHostCommand letters host env [executable] (some activeCwd) with
    | .error _ => none
    | .ok resolved =>
      if resolved ≠ [executable] then resolved.head?
      else if executable.any isSeparator then
        let candidate := if isabs host.rootIsEnough executable then executable
          else join letters.mapping.lower activeCwd executable
        if isNative letters.mapping (extension candidate) && host.isfile candidate then
          some candidate
        else none
      else none

end Search

/-! Where a bare command is found -/

/-- The path names something in the directory, where drives are compared in lower case. -/
def InDirectory (lower : Text → Text) (directory path : Text) : Prop :=
  ∃ drive name, lower drive = lower (splitroot directory).drive ∧ Plain name ∧
    path = within (drive ++ (splitroot directory).root ++ (splitroot directory).path) name

/-- One outcome for every working directory and every further token, which both functions agree
on: nothing, or a native executable in an absolute entry of `PATH`. -/
def BareSafe (letters : WindowsLetters) (host : WindowsHost) (env : Environment) (token : Text) :
    Prop :=
  ∃ outcome : Option Text,
    (∀ arguments cwd, (resolveHostCommand letters host env (token :: arguments) cwd).toOption =
      outcome.map (· :: arguments)) ∧
    (∀ cwd, locateHostCommand letters host env token cwd = outcome) ∧
    ∀ path, outcome = some path → isNative letters.mapping (extension path) = true ∧
      ∃ directory ∈ absoluteDirectories host env, InDirectory letters.mapping.lower directory path

/-- The search tries an extension as it is, or puts the native ones behind. -/
def Searched (letters : WindowsLetters) (extension : Text) : Prop :=
  letters.mapping.casefold extension = [] ∨ isNative letters.mapping extension = true

/-- A name that only a search of `PATH` can lead to: there is more to it than dots, and with a
drive before it the whole has an extension that the search never takes. -/
def Shielded (letters : WindowsLetters) (token : Text) : Prop :=
  if hasDrive token = true then ¬ Searched letters (extension token) ∧ ¬ OnlyDots (token.drop 2)
  else ¬ OnlyDots token

theorem is_native_iff (mapping : CaseMapping) (extension : Text) :
    isNative mapping extension = true ↔
      ∃ native ∈ nativeExecutableExtensions, mapping.casefold extension = mapping.casefold native := by
  rw [isNative, List.contains_iff_mem, List.mem_map]
  exact exists_congr fun native => and_congr_right fun _ => eq_comm

theorem is_native_of_mem {mapping : CaseMapping} {extension : Text}
    (native : extension ∈ nativeExecutableExtensions) : isNative mapping extension = true :=
  (is_native_iff mapping extension).2 ⟨extension, native, rfl⟩

theorem not_native_nil (mapping : CaseMapping) : isNative mapping [] = false := by
  apply eq_false_of_ne_true
  intro native
  obtain ⟨extension, listed, same⟩ := (is_native_iff mapping []).1 native
  rw [mapping.casefold_ascii [] (fun _ member => nomatch member)] at same
  have ascii : ∀ extension ∈ nativeExecutableExtensions,
      ∀ character ∈ extension, character.toNat < 128 := by simp [nativeExecutableExtensions]
  have longer : ∀ extension ∈ nativeExecutableExtensions, extension ≠ [] := by decide
  rw [mapping.casefold_ascii extension (ascii extension listed)] at same
  exact longer extension listed (List.map_eq_nil_iff.1 same.symm)

theorem casefold_nil (mapping : CaseMapping) : mapping.casefold [] = [] :=
  mapping.casefold_ascii [] fun _ member => nomatch member

theorem native_spelled : ∀ native ∈ nativeExecutableExtensions,
    ∃ suffix, native = '.' :: suffix ∧ '.' ∉ suffix ∧ Plain native := by
  intro native listed
  refine ⟨native.drop 1, ?_⟩
  revert native
  decide

theorem mem_windows_executable_extensions {letters : WindowsLetters} {env : Environment}
    {extension : Text} (listed : extension ∈ windowsExecutableExtensions letters env) :
    extension ∈ nativeExecutableExtensions := by
  rcases List.mem_cons.1 listed with rfl | configured
  · decide
  · have original := List.mem_eraseDups.1 (List.mem_filter.1 configured).1
    obtain ⟨item, -, given⟩ := List.mem_filterMap.1 original
    obtain ⟨kept, same⟩ := Option.ite_none_right_eq_some.1 given
    rw [← Option.some.inj same]
    exact letters.upper_native _ kept.2

/-! The candidates of one directory -/

section

variable {letters : WindowsLetters} {host : WindowsHost} {env : Environment}

theorem existing_candidate_cases {base path : Text} {extensions : List Text}
    (existing : existingWindowsCandidate letters host base extensions = some path) :
    host.isfile path = true ∧
      (isNative letters.mapping (extension base) = true ∧ path = base ∨
        letters.mapping.casefold (extension base) = [] ∧ ∃ suffix ∈ extensions,
          path = base ++ suffix) := by
  have listed := List.mem_of_find?_eq_some existing
  refine ⟨List.find?_some existing, ?_⟩
  unfold windowsCandidates at listed
  split_ifs at listed with bare native
  · obtain ⟨suffix, member, rfl⟩ := List.mem_map.1 listed
    exact .inr ⟨bare, suffix, member, rfl⟩
  · exact .inl ⟨native, List.mem_singleton.1 listed⟩
  · cases listed

theorem existing_candidate_within {directory name path : Text} (some : directory ≠ [])
    (plain : Plain name) (letter : ¬ OnlyDots name)
    (existing : existingWindowsCandidate letters host (within directory name)
      (windowsExecutableExtensions letters env) = Option.some path) :
    isNative letters.mapping (extension path) = true ∧
      ∃ name, Plain name ∧ path = within directory name := by
  obtain ⟨-, ⟨native, rfl⟩ | ⟨-, suffix, listed, rfl⟩⟩ := existing_candidate_cases existing
  · exact ⟨native, name, plain, rfl⟩
  · have known := mem_windows_executable_extensions listed
    obtain ⟨letters', rfl, dotless, plainSuffix⟩ := native_spelled suffix known
    have extended : within directory name ++ '.' :: letters' =
        within directory (name ++ '.' :: letters') := List.append_assoc _ _ _
    refine ⟨?_, name ++ '.' :: letters', plain_append plain plainSuffix, extended⟩
    rw [extended, extension_within some (plain_append plain plainSuffix),
      name_extension_append letter dotless]
    exact is_native_of_mem known

theorem existing_candidate_share {base path : Text} {extensions : List Text}
    (listed : ∀ suffix ∈ extensions, suffix ∈ nativeExecutableExtensions)
    (share : ∀ more, Plain more → (splitroot (base ++ more)).path = []) :
    existingWindowsCandidate letters host base extensions ≠ some path := by
  intro existing
  obtain ⟨isFile, ⟨-, rfl⟩ | ⟨-, suffix, member, rfl⟩⟩ := existing_candidate_cases existing
  · have alone := share [] fun _ member => nomatch member
    rw [List.append_nil] at alone
    exact host.share_no_file _ isFile alone
  · obtain ⟨-, -, -, plain⟩ := native_spelled suffix (listed suffix member)
    exact host.share_no_file _ isFile (share suffix plain)

theorem drive_of_lower_eq {letter : Char} {directory : Text}
    (absolute : isabs host.rootIsEnough directory = true) (plain : isSeparator letter = false)
    (same : letters.mapping.lower [letter, ':'] = letters.mapping.lower (splitroot directory).drive) :
    ∃ other, (splitroot directory).drive = [other, ':'] := by
  have kept : ∀ character ∈ ['\\', '/', ':'],
      character ∈ (splitroot directory).drive ↔ character ∈ [letter, ':'] := by
    intro character listed
    rw [← letters.lower_punctuation _ character listed, ← same,
      letters.lower_punctuation _ character listed]
  rcases splitroot_drive_cases directory with empty | ⟨other, driven⟩ | share
  · have colon := (kept ':' (by simp)).2 (by simp)
    rw [empty] at colon
    cases colon
  · exact ⟨other, driven⟩
  · obtain ⟨first, rest, rfl, separates, split⟩ := share
    have listed : first ∈ ['\\', '/', ':'] := by
      rw [isSeparator, Bool.or_eq_true, beq_iff_eq, beq_iff_eq] at separates
      rcases separates with rfl | rfl <;> simp
    have inside : first ∈ (splitroot (first :: rest)).drive := by
      rw [split]
      exact split_share_drive first rest
    rcases List.mem_cons.1 ((kept first listed).1 inside) with rfl | colon
    · rw [plain] at separates
      cases separates
    · rw [List.mem_singleton.1 colon] at separates
      cases separates

theorem found_in_directory {token directory path : Text} (bare : Plain token)
    (shielded : Shielded letters token) (absolute : isabs host.rootIsEnough directory = true)
    (found : foundIn letters host token (windowsExecutableExtensions letters env) directory =
      some path) :
    isNative letters.mapping (extension path) = true ∧
      InDirectory letters.mapping.lower directory path := by
  have existing := (Option.filter_eq_some_iff.1 found).1
  have nonempty : directory ≠ [] := by
    rintro rfl
    cases absolute
  by_cases driven : hasDrive token = true
  · rw [Shielded, if_pos driven] at shielded
    obtain ⟨letter, rest, rfl⟩ := has_drive_cases driven
    have same := @drive_of_lower_eq letters _ _ _ absolute (bare letter (by simp))
    rcases join_drive absolute bare same with joined | ⟨lowered, joined⟩
    · rw [joined] at existing
      obtain ⟨-, ⟨native, -⟩ | ⟨none, -⟩⟩ := existing_candidate_cases existing
      · exact absurd (.inr native) shielded.1
      · exact absurd (.inl none) shielded.1
    · rw [joined] at existing
      have plainRest : Plain rest := fun character member =>
        bare character (List.mem_cons_of_mem _ (List.mem_cons_of_mem _ member))
      obtain ⟨native, name, plain, named⟩ :=
        existing_candidate_within (by simp) plainRest shielded.2 existing
      exact ⟨native, [letter, ':'], name, lowered, plain, named⟩
  · have letter : ¬ OnlyDots token := by simpa [Shielded, driven] using shielded
    have some : token ≠ [] := by
      rintro rfl
      exact letter fun _ member => nomatch member
    rcases join_name letters.mapping.lower absolute bare (eq_false_of_ne_true driven) some with
      joined | ⟨joined, share⟩
    · rw [joined] at existing
      obtain ⟨native, name, plain, named⟩ :=
        existing_candidate_within nonempty bare letter existing
      refine ⟨native, (splitroot directory).drive, name, rfl, plain, ?_⟩
      rw [splitroot_rejoined, named]
    · rw [joined] at existing
      refine absurd existing (existing_candidate_share ?_ ?_)
      · exact fun suffix => mem_windows_executable_extensions
      · intro more plain
        rw [List.append_assoc]
        exact share _ (plain_append bare plain)

end

/-! The two functions on a bare token -/

theorem any_separator_eq_false_iff (name : Text) :
    name.any isSeparator = false ↔ Plain name := by
  simp [List.any_eq_false, Plain]

section Bare

variable (letters : WindowsLetters) (host : WindowsHost) (env : Environment) (token : Text)

/-- What the search of `PATH` finds. -/
def bareOutcome : Option Text :=
  (absoluteDirectories host env).findSome?
    (foundIn letters host token (windowsExecutableExtensions letters env))

theorem resolve_bare (bare : Plain token) (arguments : List Text) (cwd : Option Text) :
    resolveHostCommand letters host env (token :: arguments) cwd =
      match bareOutcome letters host env token with
      | some path => .ok (path :: arguments)
      | none => .error (.bareNotFound token) := by
  simp only [resolveHostCommand, (any_separator_eq_false_iff token).2 bare,
    resolveBareWindowsExecutable]
  rw [← bareOutcome]
  cases bareOutcome letters host env token <;> rfl

theorem locate_bare (bare : Plain token) (some : token ≠ [])
    (other : ∀ path, bareOutcome letters host env token = Option.some path → path ≠ token)
    (cwd : Option Text) :
    locateHostCommand letters host env token cwd = bareOutcome letters host env token := by
  simp only [locateHostCommand, some, if_false, resolve_bare letters host env token bare]
  cases outcome : bareOutcome letters host env token with
  | none => rfl
  | some path =>
    have differs : [path] ≠ [token] := fun same => other path outcome (List.head_eq_of_cons_eq same)
    simp [differs]

end Bare

theorem mem_absolute_directories {host : WindowsHost} {env : Environment} {directory : Text} :
    directory ∈ absoluteDirectories host env ↔ directory ∈ pathDirectories host env ∧
      directory ≠ [] ∧ isabs host.rootIsEnough directory = true := by
  simp [absoluteDirectories, List.mem_filter]

variable {letters : WindowsLetters}

theorem shielded_ne_nil {token : Text}
    (shielded : Shielded letters token) : token ≠ [] := by
  rintro rfl
  exact shielded fun _ member => nomatch member

theorem bare_safe_of_shielded {token : Text} (bare : Plain token)
    (shielded : Shielded letters token) (host : WindowsHost) (env : Environment) :
    BareSafe letters host env token := by
  have inside : ∀ path, bareOutcome letters host env token = some path →
      isNative letters.mapping (extension path) = true ∧
        ∃ directory ∈ absoluteDirectories host env,
          InDirectory letters.mapping.lower directory path := by
    intro path outcome
    obtain ⟨directory, listed, found⟩ := List.exists_of_findSome?_eq_some outcome
    have absolute := (mem_absolute_directories.1 listed).2.2
    obtain ⟨native, within⟩ := found_in_directory bare shielded absolute found
    exact ⟨native, directory, listed, within⟩
  refine ⟨bareOutcome letters host env token, fun arguments cwd => ?_, fun cwd => ?_, inside⟩
  · rw [resolve_bare letters host env token bare]
    cases bareOutcome letters host env token <;> rfl
  · apply locate_bare letters host env token bare (shielded_ne_nil shielded)
    rintro path outcome rfl
    obtain ⟨-, directory, -, drive, name, -, -, named⟩ := inside path outcome
    rw [named] at bare
    exact not_plain_within _ _ bare

/-! An environment in which a token is not safe -/

/-- A host on which every possible file exists and whose `PATH` expands to one directory. -/
def everyFileHost (directory : Text) : WindowsHost where
  rootIsEnough := true
  isfile path := !(splitroot path).path.isEmpty
  expandvars _ := directory
  getcwd := []
  share_no_file path isFile := by
    intro empty
    rw [empty] at isFile
    cases isFile

def judgePath : Environment := fun name =>
  if name = "PATH" then some "%JUDGE%" else none

theorem absolute_directories_every {directory : Text} (absolute : isabs true directory = true) :
    absoluteDirectories (everyFileHost directory) judgePath = [directory] := by
  have nonempty : directory ≠ [] := by
    rintro rfl
    cases absolute
  have one : pathDirectories (everyFileHost directory) judgePath = [directory] := rfl
  rw [absoluteDirectories, one, List.filter_singleton]
  simp [nonempty, everyFileHost, absolute]

/-- What is found on that host is a witness against the token, unless it is native and lies in
the directory. -/
theorem found_of_bare_safe {directory token path : Text}
    (absolute : isabs true directory = true) (bare : Plain token)
    (safe : BareSafe letters (everyFileHost directory) judgePath token)
    (found : foundIn letters (everyFileHost directory) token
      (windowsExecutableExtensions letters judgePath) directory = some path) :
    isNative letters.mapping (extension path) = true ∧
      InDirectory letters.mapping.lower directory path := by
  have outcome : bareOutcome letters (everyFileHost directory) judgePath token = some path := by
    rw [bareOutcome, absolute_directories_every absolute, List.findSome?_cons, found]
  obtain ⟨known, resolved, -, proven⟩ := safe
  have given := resolved [] none
  rw [resolve_bare letters _ _ token bare, outcome] at given
  cases known with
  | none => cases given
  | some other =>
    cases given
    obtain ⟨native, other, listed, inside⟩ := proven _ rfl
    rw [absolute_directories_every absolute, List.mem_singleton] at listed
    exact ⟨native, listed ▸ inside⟩

theorem splitroot_letter {letter : Char} (plain : isSeparator letter = false) (tail : Text) :
    splitroot (letter :: ':' :: '\\' :: tail) = ⟨[letter, ':'], ['\\'], tail⟩ := by
  simp only [splitroot, plain]
  rfl

theorem first_extension_found {directory base : Text}
    (bare : letters.mapping.casefold (extension base) = [])
    (isFile : (splitroot (base ++ ".EXE")).path ≠ []) :
    existingWindowsCandidate letters (everyFileHost directory) base
      (windowsExecutableExtensions letters judgePath) = some (base ++ ".EXE") := by
  have candidate : (everyFileHost directory).isfile (base ++ ".EXE") = true := by
    simpa [everyFileHost] using isFile
  rw [existingWindowsCandidate, windowsCandidates, if_pos bare, windowsExecutableExtensions,
    List.map_cons, List.find?_cons_of_pos candidate]

theorem found_in_of_existing {host : WindowsHost} {extensions : List Text}
    {token directory path : Text} (nonempty : path ≠ [])
    (existing : existingWindowsCandidate letters host
      (join letters.mapping.lower directory token) extensions = some path) :
    foundIn letters host token extensions directory = some path := by
  rw [foundIn, existing, Option.filter_some, if_pos]
  simpa using nonempty

theorem not_safe_of_dots {letter : Char} {token name : Text}
    (plainLetter : isSeparator letter = false) (bare : Plain token) (dots : OnlyDots name)
    (joined : join letters.mapping.lower (letter :: ':' :: "\\bin") token =
      within (letter :: ':' :: "\\bin") name) :
    ¬ BareSafe letters (everyFileHost (letter :: ':' :: "\\bin")) judgePath token := by
  intro safe
  have plain : Plain name := by
    intro character member
    rw [dots character member]
    rfl
  have absolute : isabs true (letter :: ':' :: "\\bin") = true := by
    simp [isabs, isSeparator]
  have none := @extension_within (letter :: ':' :: "\\bin") _ (by simp) plain
  rw [name_extension_dots dots] at none
  have isFile : (splitroot (within (letter :: ':' :: "\\bin") name ++
      ".EXE")).path ≠ [] := by
    have form : within (letter :: ':' :: "\\bin") name ++ ".EXE" =
        letter :: ':' :: '\\' :: ("bin\\" ++ name ++ ".EXE") := rfl
    rw [form, splitroot_letter plainLetter]
    simp
  have existing := @first_extension_found letters (letter :: ':' :: "\\bin") _
    ((congrArg letters.mapping.casefold none).trans (casefold_nil _)) isFile
  rw [← joined] at existing
  have found := found_in_of_existing (by rw [joined]; simp [within]) existing
  obtain ⟨native, -⟩ := found_of_bare_safe absolute bare safe found
  have extended : within (letter :: ':' :: "\\bin") name ++ ".EXE" =
      within (letter :: ':' :: "\\bin") (name ++ ".EXE") := List.append_assoc _ _ _
  have suffixed : Plain (name ++ ".EXE") := plain_append plain (by decide)
  rw [joined, extended, extension_within (by simp) suffixed] at native
  have vanished : nameExtension (name ++ ".EXE") = [] :=
    @name_extension_dots_append _ "EXE" dots (by decide)
  rw [vanished, not_native_nil] at native
  cases native

theorem not_safe_of_drive {letter : Char} {rest directory : Text}
    (bare : Plain (letter :: ':' :: rest))
    (searched : Searched letters (extension (letter :: ':' :: rest)))
    (absolute : isabs true directory = true)
    (joined : join letters.mapping.lower directory (letter :: ':' :: rest) =
      letter :: ':' :: rest) :
    ¬ BareSafe letters (everyFileHost directory) judgePath (letter :: ':' :: rest) := by
  intro safe
  obtain ⟨path, plain, nonempty, existing⟩ : ∃ path, Plain path ∧ path ≠ [] ∧
      existingWindowsCandidate letters (everyFileHost directory) (letter :: ':' :: rest)
        (windowsExecutableExtensions letters judgePath) = some path := by
    by_cases none : letters.mapping.casefold (extension (letter :: ':' :: rest)) = []
    · have suffixed : Plain (letter :: ':' :: (rest ++ ".EXE")) :=
        plain_append bare (by decide : Plain ".EXE")
      refine ⟨letter :: ':' :: (rest ++ ".EXE"), suffixed, by simp, ?_⟩
      apply first_extension_found none
      change (splitroot (letter :: ':' :: (rest ++ ".EXE"))).path ≠ []
      rw [splitroot_drive suffixed]
      simp
    · have native := searched.resolve_left none
      refine ⟨letter :: ':' :: rest, bare, by simp, ?_⟩
      have some : rest ≠ [] := by
        rintro rfl
        apply none
        rw [extension, last_component_plain bare]
        by_cases dot : letter = '.'
        · subst dot
          exact casefold_nil _
        · simp [nameExtension, dot, casefold_nil, Ne.symm dot]
      have isFile : (everyFileHost directory).isfile (letter :: ':' :: rest) = true := by
        simpa [everyFileHost, splitroot_drive bare] using some
      rw [existingWindowsCandidate, windowsCandidates, if_neg none, if_pos native,
        List.find?_cons_of_pos isFile]
  rw [← joined] at existing
  obtain ⟨-, drive, name, -, -, named⟩ :=
    found_of_bare_safe absolute bare safe (found_in_of_existing nonempty existing)
  rw [named] at plain
  exact not_plain_within _ _ plain

theorem exists_other_drive (letters : WindowsLetters) (letter : Char) :
    ∃ other, isSeparator other = false ∧
      letters.mapping.lower [letter, ':'] ≠ letters.mapping.lower [other, ':'] := by
  have first : letters.mapping.lower ['C', ':'] = ['c', ':'] :=
    letters.mapping.lower_ascii _ (each_of_all _ _ rfl)
  have second : letters.mapping.lower ['D', ':'] = ['d', ':'] :=
    letters.mapping.lower_ascii _ (each_of_all _ _ rfl)
  by_cases same : letters.mapping.lower [letter, ':'] = letters.mapping.lower ['C', ':']
  · refine ⟨'D', by decide, ?_⟩
    rw [same, first, second]
    decide
  · exact ⟨'C', by decide, same⟩

theorem not_safe_of_not_shielded {token : Text} (bare : Plain token)
    (exposed : ¬ Shielded letters token) :
    ∃ host env, ¬ BareSafe letters host env token := by
  by_cases driven : hasDrive token = true
  · obtain ⟨letter, rest, rfl⟩ := has_drive_cases driven
    have plainLetter := bare letter List.mem_cons_self
    rw [Shielded, if_pos driven] at exposed
    by_cases searched : Searched letters (extension (letter :: ':' :: rest))
    · obtain ⟨other, plainOther, differs⟩ := exists_other_drive letters letter
      have absolute : isabs true (other :: ':' :: "\\bin") = true := by
        simp [isabs, isSeparator]
      have drive : (splitroot (other :: ':' :: "\\bin")).drive = [other, ':'] :=
        congrArg Split.drive (splitroot_letter plainOther _)
      have joined := @join_drive letters.mapping.lower _ _ _ _ absolute bare
        fun _ => ⟨other, drive⟩
      rw [drive] at joined
      exact ⟨_, _, not_safe_of_drive bare searched absolute
        (joined.resolve_right fun same => differs same.1)⟩
    · have dots : OnlyDots rest := by
        by_contra letters'
        exact exposed ⟨searched, letters'⟩
      have joined := join_below letters.mapping.lower (splitroot_letter plainLetter "bin")
        rfl (splitroot_drive bare) (.inr rfl)
      exact ⟨_, _, not_safe_of_dots plainLetter bare dots joined⟩
  · have dots : OnlyDots token := by
      rw [Shielded, if_neg driven] at exposed
      exact not_not.1 exposed
    have plainLetter : isSeparator 'C' = false := rfl
    have joined := join_below letters.mapping.lower (splitroot_letter plainLetter "bin")
      rfl (splitroot_name bare (eq_false_of_ne_true driven)) (.inl rfl)
    exact ⟨_, _, not_safe_of_dots plainLetter bare dots joined⟩

/-- A bare command is taken from an absolute entry of `PATH` in every environment exactly when it
is more than dots and has no drive that the search would follow. -/
theorem bare_command_safe_iff (letters : WindowsLetters) (token : Text) (bare : Plain token) :
    (∀ host env, BareSafe letters host env token) ↔ Shielded letters token := by
  constructor
  · intro safe
    by_contra exposed
    obtain ⟨host, env, refuted⟩ := not_safe_of_not_shielded bare exposed
    exact refuted (safe host env)
  · exact bare_safe_of_shielded bare

/-! ASCII letters -/

theorem to_lower_punctuation (letter : Char) {character : Char}
    (listed : character ∈ ['\\', '/', ':']) : letter.toLower = character ↔ letter = character := by
  have low : character.val.toNat < 97 ∧ character.toLower = character := by
    simp only [List.mem_cons, List.not_mem_nil, or_false] at listed
    rcases listed with rfl | rfl | rfl
    · decide
    · decide
    · decide
  constructor
  · intro lowered
    unfold Char.toLower at lowered
    split at lowered
    · next upper =>
        have code := congrArg (fun found => found.val.toNat) lowered
        have least : 65 ≤ letter.val.toNat := upper.1
        have most : letter.val.toNat ≤ 90 := upper.2
        simp only [UInt32.toNat_add] at code
        change (letter.val.toNat + 32) % 4294967296 = character.val.toNat at code
        omega
    · exact lowered
  · rintro rfl
    exact low.2

def asciiLetters : WindowsLetters where
  mapping := asciiCase
  upper := List.map fun letter => letter.toLower.toUpper
  upper_native text native := by
    obtain ⟨extension, listed, same⟩ := (is_native_iff asciiCase text).1 native
    have spelled : text.map Char.toLower = extension.map Char.toLower := same
    have raised : ∀ name : Text, (name.map fun letter => letter.toLower.toUpper) =
        (name.map Char.toLower).map Char.toUpper := by
      intro name
      rw [List.map_map]
      rfl
    have kept : ∀ extension ∈ nativeExecutableExtensions,
        (extension.map Char.toLower).map Char.toUpper = extension := by decide
    rw [raised, spelled, kept extension listed]
    exact listed
  lower_punctuation text character listed := by
    change character ∈ text.map Char.toLower ↔ character ∈ text
    rw [List.mem_map]
    constructor
    · rintro ⟨letter, member, lowered⟩
      exact (to_lower_punctuation letter listed).1 lowered ▸ member
    · intro member
      exact ⟨character, member, (to_lower_punctuation character listed).2 rfl⟩

/-- `pytest` is never taken from a working directory. -/
theorem pytest_safe : Plain "pytest" ∧
    ∀ host env, BareSafe asciiLetters host env "pytest" :=
  ⟨each_of_all _ _ rfl, (bare_command_safe_iff asciiLetters "pytest" (each_of_all _ _ rfl)).2 (by
    rw [Shielded, if_neg (by decide)]
    decide)⟩

/-- `C:pytest` is, when `PATH` has a directory on another drive. -/
theorem drive_relative_not_safe : Plain "C:pytest" ∧
    ¬ BareSafe asciiLetters (everyFileHost "D:\\bin") judgePath "C:pytest" :=
  ⟨each_of_all _ _ rfl, @not_safe_of_drive _ 'C' "pytest" _ (each_of_all _ _ rfl)
    (.inl (by decide)) (by decide) (by decide)⟩

end EvoomGuard.Execution.Command
