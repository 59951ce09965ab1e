import EvoomGuard.Runners.Command

/-!
The runner adapters under `runners/` and their dispatch in `runners/registry.py`. The adapter for
shell wrappers is an argument of the dispatch.
-/

namespace EvoomGuard.Runners.Registry

open Lib Runners.Command

/-- The adapters behind the shell adapter, in the order in which they are asked. -/
inductive Runner where
  | pytest
  | nodeTest
  | vitest
  | jest
  | gotestsum
  | rspec
  | mocha
  | maven
  deriving DecidableEq

def innerAdapters : List Runner :=
  [.pytest, .nodeTest, .vitest, .jest, .gotestsum, .rspec, .mocha, .maven]

def anyStartsWith (tokens : List Text) (heads : List Text) : Bool :=
  tokens.any fun token => heads.any (Text.startsWith token)

def pytestReport (path : Text) : List Text :=
  ["--junitxml=" ++ path, "-o".toList, "junit_family=xunit2".toList]

def nodeTestReport (path : Text) : List Text :=
  ["--test-reporter=junit", "--test-reporter-destination=".toList ++ path,
    "--test-reporter=spec", "--test-reporter-destination=stdout".toList]

def vitestReport (path : Text) : List Text :=
  ["--reporter=default", "--reporter=junit".toList, "--outputFile=".toList ++ path]

def jestReport (_path : Text) : List Text :=
  ["--reporters=default", "--reporters=jest-junit".toList]

def gotestsumReport (path : Text) : List Text := ["--junitfile=" ++ path]

def rspecReport (path : Text) : List Text :=
  ["--format", "progress".toList, "--format".toList, "RspecJunitFormatter".toList,
    "--out", path]

def mochaReport (path : Text) : List Text :=
  ["--reporter", "mocha-junit-reporter".toList, "--reporter-options".toList,
    "mochaFile=" ++ path]

def mavenReport (path : Text) : List Text :=
  ["-Dsurefire.reportsDirectory=" ++ path ++ ".d"]

def insertAt (index : Nat) (report tokens : List Text) : List Text :=
  tokens.take index ++ report ++ tokens.drop index

def instrumentPytest (tokens : List Text) (path : Text) : Option (List Text) :=
  some (tokens ++ pytestReport path)

def instrumentNodeTest (tokens : List Text) (path : Text) : Option (List Text) :=
  if anyStartsWith tokens ["--test-reporter"] then none
  else some (insertAt (tokens.idxOf "--test".toList + 1) (nodeTestReport path) tokens)

def instrumentVitest (tokens : List Text) (path : Text) : Option (List Text) :=
  if anyStartsWith tokens ["--reporter", "--outputFile".toList] then none
  else some (tokens ++ vitestReport path)

def instrumentJest (tokens : List Text) (path : Text) : Option (List Text) :=
  if anyStartsWith tokens ["--reporters"] then none else some (tokens ++ jestReport path)

/-- What follows `--` is the command of `go test`. -/
def instrumentGotestsum (tokens : List Text) (path : Text) : Option (List Text) :=
  if anyStartsWith tokens ["--junitfile"] then none
  else if tokens.contains "--" then
    some (insertAt (tokens.idxOf "--".toList) (gotestsumReport path) tokens)
  else some (tokens ++ gotestsumReport path)

def instrumentRspec (tokens : List Text) (path : Text) : Option (List Text) :=
  if tokens.contains "--format" || tokens.contains "-f".toList ||
      anyStartsWith tokens ["--format=", "--out".toList] then none
  else some (tokens ++ rspecReport path)

def instrumentMocha (tokens : List Text) (path : Text) : Option (List Text) :=
  if tokens.contains "--reporter" || tokens.contains "-R".toList ||
      anyStartsWith tokens ["--reporter=", "--reporter-options".toList] then none
  else some (tokens ++ mochaReport path)

def instrumentMaven (tokens : List Text) (path : Text) : Option (List Text) :=
  if anyStartsWith tokens ["-Dsurefire.reportsDirectory"] then none
  else some (tokens ++ mavenReport path)

namespace Runner

def instrument : Runner → List Text → Text → Option (List Text)
  | pytest => instrumentPytest
  | nodeTest => instrumentNodeTest
  | vitest => instrumentVitest
  | jest => instrumentJest
  | gotestsum => instrumentGotestsum
  | rspec => instrumentRspec
  | mocha => instrumentMocha
  | maven => instrumentMaven

def report : Runner → Text → List Text
  | pytest => pytestReport
  | nodeTest => nodeTestReport
  | vitest => vitestReport
  | jest => jestReport
  | gotestsum => gotestsumReport
  | rspec => rspecReport
  | mocha => mochaReport
  | maven => mavenReport

def reportEnv : Runner → Text → List (Text × Text)
  | jest, path => [("JEST_JUNIT_OUTPUT_FILE", path)]
  | _, _ => []

end Runner

section Dispatch

variable (letters : CommandLetters)

def pytestMatches (tokens : List Text) : Bool :=
  invokesRunner letters tokens "pytest" || invokesPythonModule letters tokens "pytest"

def nodeTestMatches (tokens : List Text) : Bool :=
  namesAt letters "node" tokens 0 && tokens.contains "--test"

def mavenMatches (tokens : List Text) : Bool :=
  namesAt letters "mvn" tokens 0 || namesAt letters "mvnw" tokens 0

def Runner.matches (tokens : List Text) : Runner → Bool
  | .pytest => pytestMatches letters tokens
  | .nodeTest => nodeTestMatches letters tokens
  | .vitest => invokesRunner letters tokens "vitest"
  | .jest => invokesRunner letters tokens "jest"
  | .gotestsum => invokesRunner letters tokens "gotestsum"
  | .rspec => invokesRunner letters tokens "rspec"
  | .mocha => invokesRunner letters tokens "mocha"
  | .maven => mavenMatches letters tokens

def shells : List Text := ["sh", "bash", "zsh", "dash"]

def shellMatches (tokens : List Text) : Bool :=
  3 ≤ tokens.length && tokens[0]?.any (fun token => shells.contains (executableName letters token)) &&
    tokens[1]? == some "-c".toList

/-- The instrumented command, whether a report is expected, and the environment of the report. -/
def instrumentCommand (shell : List Text → Text → Option (List Text)) (tokens : List Text)
    (path : Text) : List Text × Bool × List (Text × Text) :=
  let result (instrumented : Option (List Text)) (env : List (Text × Text)) :=
    match instrumented with
    | some command => (command, true, env)
    | none => (tokens, false, [])
  if shellMatches letters tokens then
    result (shell tokens path) []
  else
    match innerAdapters.find? (Runner.matches letters tokens) with
    | some runner => result (runner.instrument tokens path) (runner.reportEnv path)
    | none => (tokens, false, [])

end Dispatch

end EvoomGuard.Runners.Registry
