import EvoomGuard.Domain.Harness
import EvoomGuard.Lib.Binary64
import EvoomGuard.RecordVerifier.CoverageFloor

/-!
`verifiers/record_coverage_types.py`: the errors in the shape of a recorded measurement. The keys
of a decoded object are texts, so the branches for other keys are left out.
-/

namespace EvoomGuard.RecordVerifier.CoverageTypes

open Lib Domain RecordVerifier

/-- How the interpreter prints a path and a number in a message. -/
structure Shown where
  path : Text → Text
  percent : Option Rat → Text

def asNumber? : Option Json → Option Rat
  | some (.int value) => some value
  | some (.float value) => some value
  | _ => none

/-- `sorted(set(lines))`. -/
def sortedLines (lines : List Int) : List Int := lines.dedup.insertionSort (· ≤ ·)

/-- The lines of an array that `_positive_line_array` accepts. -/
def positiveLines? : Option Json → Option (List Int)
  | some (.array items) =>
    match items.mapM (asInt? ∘ some) with
    | none => none
    | some lines =>
      if (lines.all fun line => decide (0 < line)) ∧ lines = sortedLines lines then some lines
      else none
  | _ => none

def stringList? : Option Json → Option (List Text)
  | some (.array items) => items.mapM Json.asString?
  | _ => none

def coveragePath (value : Text) (python : Bool) : Bool :=
  if value.isEmpty || value.contains '\\' || Text.startsWith value ['/'] then false
  else if (Text.split '/' value).any Harness.isDotSegment then false
  else if python then Text.endsWith value ".py"
  else !Text.endsWith value ".py"

def nonEmptyString : Option Json → Bool
  | some (.string value) => !value.isEmpty
  | _ => false

def measuredCoverageKeys : List Text :=
  ["measured", "percent", "executed", "total", "files",
    "unmeasured_files", "caveat"]

def unmeasuredCoverageKeys : List Text := ["measured", "note"]

def unmeasuredCoverageDetailKeys : List Text :=
  unmeasuredCoverageKeys ++ ["unmeasured_files".toList, "caveat".toList]

def fileDetailKeys : List Text := ["executed", "missed"]

/-- `frozenset(fields) == keys`. -/
def sameKeys (fields : List (Text × Json)) (keys : List Text) : Bool :=
  (fields.map Prod.fst).all keys.contains && keys.all (fields.map Prod.fst).contains

def check (holds : Bool) (message : Text) : List Text := if holds then [] else [message]

section Errors

variable (shown : Shown)

def measuredScalarErrors (coverage : List (Text × Json)) : List Text :=
  check ((asNumber? (Json.field? coverage "percent")).any fun percent =>
      decide (0 ≤ percent ∧ percent ≤ 100))
    "percent must be a finite number in 0..100" ++
  check ((asInt? (Json.field? coverage "executed")).any fun executed =>
      (asInt? (Json.field? coverage "total")).any fun total =>
        decide (0 ≤ executed ∧ executed ≤ total))
    "executed/total must be non-negative ordered integers"

def fileMessage (path : Text) (problem : String) : Text :=
  "files[" ++ shown.path path ++ "]" ++ problem.toList

/-- The errors of one file, its executed lines and its measurable lines. -/
def fileDetailProjection (path : Text) (detail : Json) : List Text × Nat × Nat :=
  if !coveragePath path true then
    (["files keys must be safe repo-relative .py paths"], 0, 0)
  else
    match detail with
    | .object fields =>
      let shape := check (sameKeys fields fileDetailKeys ||
          sameKeys fields (fileDetailKeys ++ ["note".toList]))
        (fileMessage shown path " has an invalid producer shape")
      match positiveLines? (Json.field? fields "executed"),
          positiveLines? (Json.field? fields "missed") with
      | some executed, some missed =>
        (shape ++
          check (executed.all fun line => !missed.contains line)
            (fileMessage shown path " executed and missed lines overlap") ++
          check ((Json.field? fields "note").isNone ||
              nonEmptyString (Json.field? fields "note"))
            (fileMessage shown path ".note must be non-empty"),
          executed.length, executed.length + missed.length)
      | _, _ =>
        (shape ++ [fileMessage shown path
          " executed/missed must be sorted unique positive lines"], 0, 0)
    | _ => ([fileMessage shown path " must be an object with string keys"], 0, 0)

def measuredFileProjection : Option Json → List Text × Nat × Nat
  | some (.object files) =>
    let projected := files.map fun file => fileDetailProjection shown file.1 file.2
    (projected.flatMap Prod.fst, (projected.map fun part => part.2.1).sum,
      (projected.map fun part => part.2.2).sum)
  | _ => (["files must be an object"], 0, 0)

def measuredPathAndCaveatErrors (coverage : List (Text × Json)) : List Text :=
  check ((stringList? (Json.field? coverage "unmeasured_files")).any fun paths =>
      decide (paths = Text.sortedSet paths) && paths.all fun path => coveragePath path false)
    "unmeasured_files must be sorted unique safe non-Python paths" ++
  check (nonEmptyString (Json.field? coverage "caveat"))
    "caveat must be a non-empty string"

/-- What the producer would have computed. The conversion of a huge integer raises. -/
def calculatedPercent (executed total : Int) : Except Binary64.OverflowError (Option Rat) :=
  if total = 0 then .ok (some 100) else Binary64.ratioPercent executed total

def measuredConsistencyErrors (coverage : List (Text × Json)) (fileExecuted fileTotal : Nat) :
    Except Binary64.OverflowError (List Text) :=
  let executed := asInt? (Json.field? coverage "executed")
  let total := asInt? (Json.field? coverage "total")
  let counts :=
    check (executed.all (· == (fileExecuted : Int)))
      "executed does not equal the per-file executed-line total" ++
    check (total.all (· == (fileTotal : Int)))
      "total does not equal the per-file measurable-line total"
  match asNumber? (Json.field? coverage "percent"), executed, total with
  | some percent, some executed, some total =>
    match calculatedPercent executed total with
    | .error problem => .error problem
    | .ok calculated =>
      .ok (counts ++ check (decide (some percent = calculated))
        ("percent must equal the producer calculation " ++ shown.percent calculated))
  | _, _, _ => .ok counts

def measuredErrors (coverage : List (Text × Json)) : Except Binary64.OverflowError (List Text) :=
  let files := measuredFileProjection shown (Json.field? coverage "files")
  match measuredConsistencyErrors shown coverage files.2.1 files.2.2 with
  | .error problem => .error problem
  | .ok consistency =>
    .ok (check (sameKeys coverage measuredCoverageKeys)
        "measured coverage must contain exactly the seven producer keys" ++
      measuredScalarErrors coverage ++ files.1 ++ measuredPathAndCaveatErrors coverage ++
        consistency)

def unmeasuredErrors (coverage : List (Text × Json)) : List Text :=
  check (sameKeys coverage unmeasuredCoverageKeys ||
      sameKeys coverage unmeasuredCoverageDetailKeys)
    "unmeasured coverage has an invalid producer shape" ++
  check (nonEmptyString (Json.field? coverage "note"))
    "unmeasured coverage note must be non-empty" ++
  if sameKeys coverage unmeasuredCoverageDetailKeys then
    check ((stringList? (Json.field? coverage "unmeasured_files")).any fun paths =>
        decide (paths = Text.sortedSet paths) && paths.all fun path => !path.isEmpty)
      "unmeasured_files must be a sorted unique string array" ++
    check (nonEmptyString (Json.field? coverage "caveat"))
      "unmeasured coverage caveat must be non-empty"
  else []

def projectDiffCoverageTypeErrors (coverage : List (Text × Json)) :
    Except Binary64.OverflowError (List Text) :=
  match Json.field? coverage "measured" with
  | some (.bool true) => measuredErrors shown coverage
  | some (.bool false) => .ok (unmeasuredErrors coverage)
  | _ => .ok ["measured must be a boolean"]

end Errors

end EvoomGuard.RecordVerifier.CoverageTypes
