import EvoomGuard.Domain.Harness
import EvoomGuard.Domain.Verdict
import EvoomGuard.Lib.FileTree
import EvoomGuard.Lib.Fnmatch

/-!
The path policy of `verifiers/harness_policy.py`: which paths judge the candidate, and
the gate that rejects the first unsafe or judge-owned path of a list. The base tree is
read through the three `os.path` probes the source makes, on repository-relative paths.
Which local Action directories the base workflows use is one more answer of the base
tree; how the workflow files are scanned for them is not modelled here.
-/

namespace EvoomGuard.Verifiers

open Lib Domain Domain.Harness

/-- The answers of the file system about the trusted base tree. `samefile` has no answer
where the operating system raises an error. -/
structure BaseTree where
  exists? : Text → Bool
  lexists : Text → Bool
  samefile : Text → Text → Option Bool
  discoverLocalActionDirs : List Text

/-- The base tree at `root` of a directory tree. -/
def BaseTree.ofTree (tree : Tree) (root : Path) (localActionDirs : List Text) : BaseTree where
  exists? := fun path => tree.exists? (root ++ Text.split '/' path)
  lexists := fun path => tree.lexists (root ++ Text.split '/' path)
  samefile := fun left right =>
    tree.samefile (root ++ Text.split '/' left) (root ++ Text.split '/' right)
  discoverLocalActionDirs := localActionDirs

def protectedBasenames : List String :=
  ["test_*.py", "*_test.py", "conftest.py",
    "*.test.ts", "*.test.tsx", "*.test.js", "*.test.jsx",
    "*.spec.ts", "*.spec.tsx", "*.spec.js", "*.spec.jsx",
    "*.cy.*", "*_test.go", "*_spec.rb", "*.snap"]

def protectedConfig : List String :=
  [".evoguard.json",
    "pytest.ini", ".pytest.ini", "tox.ini", "setup.cfg", "pyproject.toml",
    "vitest.config.*", "vite.config.*", "jest.config.*", "jest.setup.*",
    ".mocharc.*", "karma.conf.*", "cypress.config.*", "playwright.config.*",
    "ava.config.*", ".nycrc", ".nycrc.*",
    ".rspec",
    "pom.xml",
    "foundry.toml", "echidna.yaml", "slither.config.json",
    "Makefile", "GNUmakefile", "noxfile.py", "Justfile", "Rakefile", "rakefile",
    "pnpm-lock.yaml", "package-lock.json", "yarn.lock",
    "Cargo.lock", "Gemfile.lock", "poetry.lock", "go.sum"]

def strictHarnessBasenames : List String :=
  ["requirements*.txt", "constraints*.txt", "pipfile", "pipfile.lock",
    "uv.lock", "pdm.lock", "pixi.lock", "setup.py",
    "package.json", "npm-shrinkwrap.json", "bun.lock", "bun.lockb",
    "pnpm-workspace.yaml", "tsconfig*.json", "babel.config.*", ".babelrc",
    ".babelrc.*", ".swcrc",
    "go.mod", "go.work", "cargo.toml", "gemfile", "composer.json",
    "composer.lock", "build.gradle", "build.gradle.kts", "settings.gradle",
    "settings.gradle.kts", "gradle.properties"]

def strictHarnessExactPaths : List String := [".cargo/config", ".cargo/config.toml"]

def protectedAutoexec : List String := ["sitecustomize.py", "usercustomize.py", "*.pth"]

def protectedCiPrefixes : List String := [".github/workflows/", ".github/actions/"]

def protectedCiManifests : List String := ["action.yml", "action.yaml"]

def protectedTestDirSegments : List String := ["tests", "test", "__tests__", "spec"]

def autoexecTestlike : List String := ["conftest.py"]

section Classification

variable (mapping : CaseMapping)

/-- Some pattern of a table matches, both sides in lower case where `name` already is. -/
def matchesTable (name : Text) (patterns : List String) : Bool :=
  patterns.any fun pattern => Fnmatch.fnmatch name (mapping.lower pattern.toList)

def matchesGlobs (path : Text) (globs : List Text) : Bool :=
  globs.any fun glob => Fnmatch.fnmatch (mapping.lower path) (mapping.lower glob)

def isSafeRelpath (path : Text) : Bool := isPortableRepoPath mapping path

/-- Is this one of the files that judge the candidate? -/
def isProtected (path : Text) (extraGlobs : List Text) : Bool :=
  let parts := Text.split '/' path
  let directories := parts.dropLast.map mapping.lower
  directories.any (fun part => protectedTestDirSegments.any (·.toList == part)) ||
    (directories.zip directories.tail).any (fun pair =>
      pair.1 == "cypress" && pair.2 == "e2e") ||
    matchesTable mapping (mapping.lower (Text.lastSegment path)) protectedBasenames ||
    matchesGlobs mapping path extraGlobs

def isStrictHarnessManifest (path : Text) : Bool :=
  let normalized := mapping.lower path
  strictHarnessExactPaths.any (·.toList == normalized) ||
    matchesTable mapping (Text.lastSegment normalized) strictHarnessBasenames

/-- Is this judge-owned config, lock, or strict-profile project manifest? -/
def isProtectedConfig (path : Text) (strictHarness : Bool) : Bool :=
  matchesTable mapping (mapping.lower (Text.lastSegment path)) protectedConfig ||
    (strictHarness && isStrictHarnessManifest mapping path)

/-- Is this a file Python auto-executes inside the judge process? -/
def isJudgeAutoexec (path : Text) : Bool :=
  matchesTable mapping (mapping.lower (Text.lastSegment path)) protectedAutoexec

def isInsideLocalActionDir (path : Text) (localActionDirs : List Text) : Bool :=
  let normalized := mapping.lower path
  localActionDirs.any fun directory =>
    let actionDir := mapping.lower (Text.stripWhile (· == '/') directory)
    !actionDir.isEmpty &&
      (normalized == actionDir || Text.startsWith normalized (actionDir ++ ['/']))

/-- Is this a CI workflow or local action file that defines how the gate runs? -/
def isProtectedCi (path : Text) (localActionDirs : List Text) : Bool :=
  let normalized := mapping.lower path
  protectedCiPrefixes.any (fun head => Text.startsWith normalized head.toList) ||
    protectedCiManifests.any (fun name => name.toList == normalized) ||
    protectedCiManifests.any (fun name => Text.endsWith normalized ('/' :: name.toList)) ||
    isInsideLocalActionDir mapping path localActionDirs

/-- May an adopter allowlist exempt this path? Never a built-in judge-owned one. -/
def isAllowlistExemptible (path : Text) (localActionDirs : List Text)
    (strictHarness : Bool) : Bool :=
  !(isProtected mapping path [] || isProtectedConfig mapping path strictHarness ||
    isProtectedCi mapping path localActionDirs || isJudgeAutoexec mapping path)

/-- May feature mode allow this net-new, plain test file? -/
def isAddableNewTest (path : Text) (extra : List Text) (isNew : Bool)
    (localActionDirs : List Text) (strictHarness : Bool) : Bool :=
  isNew && isProtected mapping path [] &&
    !autoexecTestlike.any (·.toList == mapping.lower (Text.lastSegment path)) &&
    !matchesGlobs mapping path extra &&
    !isProtectedConfig mapping path strictHarness &&
    !isJudgeAutoexec mapping path &&
    !isProtectedCi mapping path localActionDirs

end Classification

/-- One declared file against a candidate entry that exists: the entry is that file or one
of its ancestors, or nothing can be said about an ancestor that is there. -/
def aliasesHarnessInput (base : BaseTree) (path harnessPath : Text) : Bool :=
  let parts := Text.split '/' harnessPath
  (List.range parts.length).any fun index =>
    let trustedPath := Text.join ['/'] (parts.take (index + 1))
    match base.samefile path trustedPath with
    | some same => same
    | none => base.lexists trustedPath

/-- Resolves lexical, ancestor, link, and file-system-alias collisions. -/
def candidatePathTargetsHarnessInput (mapping : CaseMapping) (base : BaseTree) (path : Text)
    (harnessInputs : List Text) : Except HarnessInputPolicyError Bool :=
  match normalizeHarnessInputs mapping harnessInputs with
  | .error problem => .error problem
  | .ok normalized =>
    match harnessInputPathConflicts mapping path normalized with
    | .error problem => .error problem
    | .ok true => .ok true
    | .ok false =>
      if path.isEmpty || Text.startsWith path ['/'] || path.contains '\\' ||
          path.contains ':' || (Text.split '/' path).any isDotSegment then .ok false
      else if !base.lexists path then .ok false
      else .ok (normalized.any (aliasesHarnessInput base path))

/-- What a rejected candidate reports about its files. -/
structure CandidateArtifact where
  filesChanged : List Text
  filesDeleted : Option (List Text) := none
  deriving DecidableEq

/-- The keyword arguments of the gate, with the defaults of its signature. -/
structure GateOptions where
  harnessInputs : List Text := []
  repoPath : Option BaseTree := none
  allowNewTests : Bool := false
  newPaths : List Text := []
  allow : List Text := []
  localActionDirs : List Text := []
  strictHarness : Bool := false

def gateRejection (diagnostics : Text) : VerdictResult CandidateArtifact where
  passed := false
  score := 5 / 100
  diagnostics := diagnostics
  artifact := { filesChanged := [] }

/-- The checks of the gate on one path, in the order of the source. -/
def rejectPath (mapping : CaseMapping) (path : Text) (extra : List Text)
    (options : GateOptions) :
    Except HarnessInputPolicyError (Option (VerdictResult CandidateArtifact)) :=
  if !isSafeRelpath mapping path then
    .ok (some (gateRejection ("unsafe path rejected: " ++ path)))
  else
    match
      (match options.repoPath with
        | some base => candidatePathTargetsHarnessInput mapping base path options.harnessInputs
        | none => harnessInputPathConflicts mapping path options.harnessInputs) with
    | .error problem => .error problem
    | .ok true =>
      .ok (some (gateRejection
        ("modifying a policy-bound harness input is forbidden: " ++ path ++
          (" — fix the source under test, not the command wrapper or its " ++
            "declared dependencies").toList)))
    | .ok false =>
      if isProtectedConfig mapping path options.strictHarness then
        .ok (some (gateRejection
          ("modifying the test/build configuration is forbidden: " ++ path ++
            " — fix the source under test, not the harness that judges it")))
      else if isProtected mapping path extra then
        if options.allowNewTests &&
            isAddableNewTest mapping path extra (options.newPaths.contains path)
              options.localActionDirs options.strictHarness then .ok none
        else if isAllowlistExemptible mapping path options.localActionDirs
              options.strictHarness && matchesGlobs mapping path options.allow then .ok none
        else
          .ok (some (gateRejection
            ("modifying the judging tests is forbidden: " ++ path)))
      else if isProtectedCi mapping path options.localActionDirs then
        .ok (some (gateRejection
          (("modifying the CI workflow / local action that runs the gate is " ++
            "forbidden: ").toList ++ path ++
            (" — fix the source under test, not the gate " ++ "that judges it").toList)))
      else if isJudgeAutoexec mapping path then
        .ok (some (gateRejection
          ("writing an auto-executed judge file is forbidden: " ++ path ++
            (" — it would run code inside the judge process itself (not the program " ++
              "under test); fix the source instead").toList)))
      else .ok none

def rejectUnsafeOrProtected (mapping : CaseMapping) (extra : List Text)
    (options : GateOptions) : List Text →
    Except HarnessInputPolicyError (Option (VerdictResult CandidateArtifact))
  | [] => .ok none
  | path :: rest =>
    match rejectPath mapping path extra options with
    | .error problem => .error problem
    | .ok (some rejection) => .ok (some rejection)
    | .ok none => rejectUnsafeOrProtected mapping extra options rest

/-- The harness collision of a path, once the declared inputs are known to be valid. -/
def targetsHarnessInput (mapping : CaseMapping) (base : BaseTree) (path : Text)
    (normalized : List Text) : Bool :=
  normalized.any (conflictsWith mapping path) ||
    (!(path.isEmpty || Text.startsWith path ['/'] || path.contains '\\' ||
        path.contains ':' || (Text.split '/' path).any isDotSegment) &&
      base.lexists path && normalized.any (aliasesHarnessInput base path))

private theorem any_congr_of_mem (test : Text → Bool) (left right : List Text)
    (same : ∀ value, value ∈ left ↔ value ∈ right) : left.any test = right.any test := by
  rw [Bool.eq_iff_iff, List.any_eq_true, List.any_eq_true]
  simp only [same]

variable (mapping : CaseMapping)

theorem targets_harness_input_congr (base : BaseTree) (path : Text)
    (left right : List Text) (same : ∀ value, value ∈ left ↔ value ∈ right) :
    targetsHarnessInput mapping base path left = targetsHarnessInput mapping base path right := by
  simp only [targetsHarnessInput, any_congr_of_mem _ left right same]

theorem candidate_path_targets_ok (base : BaseTree) (path : Text)
    (inputs normalized : List Text)
    (accepted : normalizeHarnessInputs mapping inputs = .ok normalized) :
    candidatePathTargetsHarnessInput mapping base path inputs =
      .ok (targetsHarnessInput mapping base path inputs) := by
  obtain ⟨again, twice, members⟩ := normalize_harness_inputs_again mapping inputs normalized accepted
  have original := mem_normalized_inputs mapping inputs normalized accepted
  have conflicts : harnessInputPathConflicts mapping path normalized =
      .ok (inputs.any (conflictsWith mapping path)) := by
    rw [harnessInputPathConflicts, twice]
    simp only [any_congr_of_mem _ again inputs members]
  simp only [candidatePathTargetsHarnessInput, accepted, conflicts, targetsHarnessInput]
  cases inputs.any (conflictsWith mapping path) with
  | true => simp
  | false =>
    simp only [Bool.false_or, any_congr_of_mem _ normalized inputs original]
    split_ifs with irregular absent
    · rw [irregular]
      rfl
    · rw [Bool.not_eq_true] at irregular
      rw [irregular, (Bool.not_eq_true' _).mp absent]
      rfl
    · rw [Bool.not_eq_true] at irregular
      rw [irregular, (by simpa using absent : base.lexists path = true)]
      rfl

/-- A path the judge owns under a policy: nothing the candidate may touch. A new test is
exempt in feature mode, an adopter's own glob where the allowlist names the path. -/
def judgeOwned (mapping : CaseMapping) (base : BaseTree) (harnessInputs extra allow : List Text)
    (allowNewTests strictHarness isNew : Bool) (path : Text) : Bool :=
  targetsHarnessInput mapping base path harnessInputs ||
    isJudgeAutoexec mapping path ||
    isProtectedConfig mapping path strictHarness ||
    isProtectedCi mapping path base.discoverLocalActionDirs ||
    (isProtected mapping path extra &&
      !(allowNewTests && isAddableNewTest mapping path extra isNew
          base.discoverLocalActionDirs strictHarness) &&
      !(isAllowlistExemptible mapping path base.discoverLocalActionDirs strictHarness &&
          matchesGlobs mapping path allow))

theorem judge_owned_congr (base : BaseTree)
    (left right extra allow : List Text) (allowNewTests strictHarness isNew : Bool) (path : Text)
    (same : ∀ value, value ∈ left ↔ value ∈ right) :
    judgeOwned mapping base left extra allow allowNewTests strictHarness isNew path =
      judgeOwned mapping base right extra allow allowNewTests strictHarness isNew path := by
  simp only [judgeOwned, targets_harness_input_congr mapping base path left right same]

theorem protected_mono (path : Text) (extra : List Text)
    (builtIn : isProtected mapping path [] = true) : isProtected mapping path extra = true := by
  simp only [isProtected, matchesGlobs, List.any_nil, Bool.or_false] at builtIn
  simp only [isProtected, builtIn, Bool.true_or]

theorem addable_new_test_excludes (path : Text) (extra : List Text)
    (isNew : Bool) (localActionDirs : List Text) (strictHarness : Bool)
    (addable : isAddableNewTest mapping path extra isNew localActionDirs strictHarness = true) :
    isProtectedConfig mapping path strictHarness = false ∧
      isJudgeAutoexec mapping path = false ∧
      isProtectedCi mapping path localActionDirs = false := by
  simp only [isAddableNewTest, Bool.and_eq_true, Bool.not_eq_true'] at addable
  exact ⟨addable.1.1.2, addable.1.2, addable.2⟩

theorem allowlist_exemptible_excludes (path : Text)
    (localActionDirs : List Text) (strictHarness : Bool)
    (exemptible : isAllowlistExemptible mapping path localActionDirs strictHarness = true) :
    isProtectedConfig mapping path strictHarness = false ∧
      isJudgeAutoexec mapping path = false ∧
      isProtectedCi mapping path localActionDirs = false := by
  simp only [isAllowlistExemptible, Bool.not_eq_true', Bool.or_eq_false_iff] at exemptible
  exact ⟨exemptible.1.1.2, exemptible.2, exemptible.1.2⟩

/-- The gate lets a path through exactly when it is safe and not judge-owned: its two early
exits never hide a later check, since each excludes configuration, CI and auto-executed files. -/
theorem reject_path_none (base : BaseTree) (path : Text)
    (extra : List Text) (options : GateOptions) (normalized : List Text)
    (atBase : options.repoPath = some base)
    (discovered : options.localActionDirs = base.discoverLocalActionDirs)
    (accepted : normalizeHarnessInputs mapping options.harnessInputs = .ok normalized) :
    rejectPath mapping path extra options = .ok none ↔
      isSafeRelpath mapping path = true ∧
        judgeOwned mapping base options.harnessInputs extra options.allow options.allowNewTests
          options.strictHarness (options.newPaths.contains path) path = false := by
  unfold rejectPath judgeOwned
  simp only [atBase, discovered, candidate_path_targets_ok mapping base path _ normalized accepted]
  -- `simp only` throughout: the rejection texts must not be unfolded to characters.
  cases isSafeRelpath mapping path with
  | false => simp only [Bool.not_false, if_true, Except.ok.injEq, reduceCtorEq, false_and,
      Bool.false_eq_true]
  | true =>
    simp only [Bool.not_true, Bool.false_eq_true, if_false, true_and]
    cases targetsHarnessInput mapping base path options.harnessInputs with
    | true => simp only [Except.ok.injEq, reduceCtorEq, Bool.true_or, Bool.true_eq_false]
    | false =>
      simp only [Bool.false_or]
      cases config : isProtectedConfig mapping path options.strictHarness with
      | true => simp only [if_true, Except.ok.injEq, reduceCtorEq, Bool.or_true, Bool.true_or,
          Bool.true_eq_false]
      | false =>
        cases judging : isProtected mapping path extra with
        | true =>
          by_cases addable : (options.allowNewTests && isAddableNewTest mapping path extra
            (options.newPaths.contains path) base.discoverLocalActionDirs
            options.strictHarness) = true
          · have excluded := addable_new_test_excludes mapping path extra _ _ _
              (Bool.and_eq_true_iff.mp addable).2
            simp only [addable, excluded, Bool.false_eq_true, if_false, if_true,
              Bool.or_false, Bool.not_true, Bool.and_false, Bool.false_and]
          · by_cases exempt : (isAllowlistExemptible mapping path
              base.discoverLocalActionDirs options.strictHarness &&
                matchesGlobs mapping path options.allow) = true
            · have excluded := allowlist_exemptible_excludes mapping path _ _
                (Bool.and_eq_true_iff.mp exempt).1
              simp only [addable, exempt, excluded, Bool.false_eq_true, if_false, if_true,
                Bool.or_false, Bool.not_true, Bool.and_false]
            · simp only [addable, exempt, Bool.false_eq_true, if_false, if_true,
                Except.ok.injEq, reduceCtorEq, Bool.not_false, Bool.and_true, Bool.or_true,
                Bool.true_eq_false]
        | false =>
          simp only [Bool.false_eq_true, if_false, Bool.or_false, Bool.false_and]
          cases isProtectedCi mapping path base.discoverLocalActionDirs with
          | true => simp only [if_true, Except.ok.injEq, reduceCtorEq, Bool.or_true,
              Bool.true_eq_false]
          | false =>
            cases isJudgeAutoexec mapping path with
            | true => simp only [Bool.false_eq_true, if_false, if_true, Except.ok.injEq,
                reduceCtorEq, Bool.true_or, Bool.true_eq_false]
            | false => simp only [Bool.false_eq_true, if_false, Bool.or_false]

theorem reject_unsafe_or_protected_none (extra : List Text)
    (options : GateOptions) (paths : List Text) :
    rejectUnsafeOrProtected mapping extra options paths = .ok none ↔
      ∀ path ∈ paths, rejectPath mapping path extra options = .ok none := by
  induction paths with
  | nil => simp [rejectUnsafeOrProtected]
  | cons path rest ih =>
    simp only [rejectUnsafeOrProtected, List.forall_mem_cons]
    cases rejectPath mapping path extra options with
    | error problem => simp
    | ok outcome =>
      cases outcome with
      | some rejection => simp
      | none => simpa using ih

/-- With valid harness inputs the gate answers on every list, and a rejection reports no
changed file. -/
theorem reject_unsafe_or_protected_answers (base : BaseTree)
    (extra : List Text) (options : GateOptions) (normalized : List Text)
    (atBase : options.repoPath = some base)
    (accepted : normalizeHarnessInputs mapping options.harnessInputs = .ok normalized)
    (paths : List Text) :
    rejectUnsafeOrProtected mapping extra options paths = .ok none ∨
      ∃ diagnostics, rejectUnsafeOrProtected mapping extra options paths =
        .ok (some (gateRejection diagnostics)) := by
  have single : ∀ path, rejectPath mapping path extra options = .ok none ∨
      ∃ diagnostics, rejectPath mapping path extra options =
        .ok (some (gateRejection diagnostics)) := by
    intro path
    unfold rejectPath
    simp only [atBase, candidate_path_targets_ok mapping base path _ normalized accepted]
    cases targetsHarnessInput mapping base path options.harnessInputs <;> split_ifs <;>
      first
      | exact Or.inl rfl
      | exact Or.inr ⟨_, rfl⟩
  induction paths with
  | nil => exact Or.inl rfl
  | cons path rest ih =>
    rcases single path with passed | ⟨diagnostics, rejected⟩
    · simpa only [rejectUnsafeOrProtected, passed] using ih
    · exact Or.inr ⟨diagnostics, by simp only [rejectUnsafeOrProtected, rejected]⟩

end EvoomGuard.Verifiers
