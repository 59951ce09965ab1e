import EvoomGuard.Domain.Verification
import EvoomGuard.Lib.Sha256

/-!
The JUnit oracle of `verifiers/junit_oracle.py`: counts derived from an element tree,
report sets, grading and the tamper signature. The XML parser of the standard library is
an argument, from a text to its element tree; comments never reach the tree.
-/

namespace EvoomGuard.Verifiers

open Lib Domain

inductive Element where
  | mk (tag : Text) (attributes : List (Text × Text)) (children : List Element)

def Element.tag : Element → Text
  | .mk tag _ _ => tag

def Element.children : Element → List Element
  | .mk _ _ children => children

structure RawCounts where
  tests : Nat
  failures : Nat
  errors : Nat
  skipped : Nat
  deriving DecidableEq

def RawCounts.zero : RawCounts := ⟨0, 0, 0, 0⟩

def RawCounts.add (left right : RawCounts) : RawCounts :=
  ⟨left.tests + right.tests, left.failures + right.failures, left.errors + right.errors,
    left.skipped + right.skipped⟩

structure DeclaredCounts where
  tests : Option Nat := none
  failures : Option Nat := none
  errors : Option Nat := none
  skipped : Option Nat := none

def maxJunitCounter : Nat := 10 ^ 12

def maxJunitCounterDigits : Nat := 13

def maxJunitNesting : Nat := 128

def localName (tag : Text) : Text := (Text.split '}' tag).getLastD []

def isSuiteName (name : Text) : Bool := name == "testsuite" || name == "testsuites"

-- Decimal digits only, bounded before conversion.
def counterValue (raw : Text) : Option Nat :=
  if raw.isEmpty || decide (maxJunitCounterDigits < raw.length) ||
      raw.any (fun digit => !digit.isDigit) then none
  else
    let value := raw.foldl (fun value digit => 10 * value + (digit.toNat - 48)) 0
    if maxJunitCounter < value then none else some value

-- An absent counter is no declaration; a malformed one invalidates the report.
def declaredCounter (attributes : List (Text × Text)) (name : String) : Option (Option Nat) :=
  match attributes.lookup name.toList with
  | none => some none
  | some raw => (counterValue raw).map some

def declaredCounts (attributes : List (Text × Text)) : Option DeclaredCounts := do
  let tests ← declaredCounter attributes "tests"
  let failures ← declaredCounter attributes "failures"
  let errors ← declaredCounter attributes "errors"
  let skipped ← declaredCounter attributes "skipped"
  match tests with
  | some declared =>
    if declared < failures.getD 0 + errors.getD 0 + skipped.getD 0 then none
    else some ⟨tests, failures, errors, skipped⟩
  | none => some ⟨tests, failures, errors, skipped⟩

def testcaseCounts (testcase : Element) : Option RawCounts :=
  let states := (testcase.children.map fun child => localName child.tag).filter fun name =>
    name == "failure".toList || name == "error".toList || name == "skipped".toList
  match states.dedup with
  | [] => some ⟨1, 0, 0, 0⟩
  | [state] =>
    some ⟨1, if state == "failure".toList then 1 else 0, if state == "error".toList then 1 else 0,
      if state == "skipped".toList then 1 else 0⟩
  | _ => none

/-- Declared totals must agree with the explicit cases, up to a surplus of passed cases when
every terminal counter is declared and agrees. -/
def declaredCountsAgree (declared : DeclaredCounts) (actual : RawCounts) : Bool :=
  let terminalAgree := declared.failures.getD actual.failures == actual.failures &&
    declared.errors.getD actual.errors == actual.errors &&
    declared.skipped.getD actual.skipped == actual.skipped
  let terminalDeclared := declared.failures.isSome && declared.errors.isSome &&
    declared.skipped.isSome
  terminalAgree &&
    match declared.tests with
    | none => true
    | some tests => tests == actual.tests || (decide (actual.tests < tests) && terminalDeclared)

mutual

def elementCounts (depth : Nat) : Element → Option (RawCounts × Bool)
  | .mk tag attributes children =>
    if maxJunitNesting < depth then none
    else
      match (if isSuiteName (localName tag) then declaredCounts attributes
          else some {}), childCounts depth RawCounts.zero false children with
      | some declared, some (counts, true) =>
        if declaredCountsAgree declared counts then some (counts, true) else none
      | some declared, some (counts, false) =>
        if localName tag == "testsuite" then
          some (⟨declared.tests.getD 0, declared.failures.getD 0, declared.errors.getD 0,
            declared.skipped.getD 0⟩, true)
        else some (counts, false)
      | _, _ => none

def childCounts (depth : Nat) (counts : RawCounts) (seen : Bool) :
    List Element → Option (RawCounts × Bool)
  | [] => some (counts, seen)
  | child :: rest =>
    if localName child.tag == "testcase" then
      match testcaseCounts child with
      | none => none
      | some own => childCounts depth (counts.add own) true rest
    else if isSuiteName (localName child.tag) || !child.children.isEmpty then
      match elementCounts (depth + 1) child with
      | none => none
      | some (own, true) => childCounts depth (counts.add own) true rest
      | some (_, false) => childCounts depth counts seen rest
    else childCounts depth counts seen rest

end

/-- Skipped cases do not count; a report whose failures exceed what is left is refused. -/
def balancedCounts (raw : RawCounts) : Option JUnitCounts :=
  if enough : raw.skipped + raw.failures + raw.errors ≤ raw.tests then
    some ⟨raw.tests - raw.skipped - raw.failures - raw.errors, raw.tests - raw.skipped,
      raw.failures, raw.errors, by omega⟩
  else none

def countTestcases (root : Element) : Option JUnitCounts :=
  if isSuiteName (localName root.tag) then
    match elementCounts 0 root with
    | some (raw, true) => balancedCounts raw
    | _ => none
  else none

def caseFailed (testid tag : Text) (attributes : List (Text × Text)) (children : List Element) :
    Bool :=
  localName tag == "testcase".toList && attributes.lookup "name".toList == some testid &&
    children.any fun child => localName child.tag == "failure" ||
      localName child.tag == "error"

mutual

def anyCaseFailed (testid : Text) : Element → Bool
  | .mk tag attributes children =>
    caseFailed testid tag attributes children || anyCaseFailedIn testid children

def anyCaseFailedIn (testid : Text) : List Element → Bool
  | [] => false
  | child :: rest => anyCaseFailed testid child || anyCaseFailedIn testid rest

end

def maxReportBytes : Nat := 8 * 1024 * 1024

def containsText (text part : Text) : Bool := text.tails.any fun suffix => part.isPrefixOf suffix

section Reports

variable (parseXml : Text → Option Element)

def parseJunitXml (text : Text) : Option JUnitCounts :=
  if (Text.strip text).isEmpty || decide (maxReportBytes < text.length) ||
      containsText text "<!DOCTYPE" || containsText text "<!ENTITY" then none
  else (parseXml text).bind countTestcases

/-- Did the named case fail? A report that cannot be read answers no. -/
def canaryCaseFailed (text testid : Text) : Bool :=
  if (Text.strip text).isEmpty || decide (maxReportBytes < text.length) ||
      containsText text "<!DOCTYPE" || containsText text "<!ENTITY" then false
  else (parseXml text).any (anyCaseFailed testid)

/-- One entry of a report directory: its size when it is a regular file, and the text read. -/
structure ReportEntry where
  name : Text
  size : Option Nat
  text : Option Text

def maxReportSetBytes : Nat := 16 * 1024 * 1024

def maxReportFiles : Nat := 2048

def sizeField (value : Nat) : List UInt8 := Sha256.lengthBytes value

structure ReportSet where
  counts : JUnitCounts
  digested : List UInt8
  files : Nat
  bytes : Nat

theorem ReportSet.balanced (set : ReportSet) (counts : JUnitCounts) :
    set.counts.passed + counts.passed + (set.counts.failures + counts.failures) +
      (set.counts.errors + counts.errors) = set.counts.total + counts.total := by
  have left := set.counts.balanced
  have right := counts.balanced
  omega

def addReport (set : ReportSet) (entry : ReportEntry) : Option ReportSet :=
  match entry.size, entry.text with
  | some size, some text =>
    if maxReportFiles < set.files + 1 || maxReportBytes < size ||
        maxReportSetBytes < set.bytes + size then none
    else
      (parseJunitXml parseXml text).map fun counts =>
        { counts := ⟨set.counts.passed + counts.passed, set.counts.total + counts.total,
            set.counts.failures + counts.failures, set.counts.errors + counts.errors,
            set.balanced counts⟩
          digested := set.digested ++
            (sizeField (Sha256.utf8Bytes entry.name).length ++ Sha256.utf8Bytes entry.name ++
              sizeField (Sha256.utf8Bytes text).length ++ Sha256.utf8Bytes text)
          files := set.files + 1
          bytes := set.bytes + size }
  | _, _ => none

def emptyReportSet : ReportSet where
  counts := ⟨0, 0, 0, 0, rfl⟩
  digested := Sha256.utf8Bytes (DigestFormat.reportSet.name.toList ++ ['\x00'])
  files := 0
  bytes := 0

def addReports : ReportSet → List ReportEntry → Option ReportSet
  | set, [] => some set
  | set, entry :: rest =>
    match addReport parseXml set entry with
    | none => none
    | some next => addReports next rest

/-- The merged counts of a report directory and the digest of the set. `none` for a directory
that is absent. The entries are listed in name order. -/
def parseJunitDirWithDigest (lowerName : Text → Text) (directory : Option (List ReportEntry)) :
    Option (JUnitCounts × Text) :=
  match directory with
  | none => none
  | some entries =>
    let reports := entries.filter fun entry =>
      Text.endsWith (lowerName entry.name) ".xml"
    match addReports parseXml emptyReportSet reports with
    | none => none
    | some set =>
      if set.files = 0 then none else some (set.counts, Sha256.hexdigestBytes set.digested)

end Reports

def partialFloor : Rat := 25 / 100

def partialCeil : Rat := 95 / 100

def partialScore (stderr : Text) : Rat :=
  if containsText stderr "SyntaxError" then 5 / 100
  else if containsText stderr "NameError" then 10 / 100
  else 25 / 100

def fractionScore (passed total : Nat) : Rat :=
  if passed = 0 || total = 0 then partialScore []
  else if total ≤ passed then 1
  else partialFloor + (partialCeil - partialFloor) * (passed / total)

structure Grade where
  passed : Bool
  score : Rat
  testsPassed : Nat
  testsTotal : Nat

def gradeRepoRun (returncode : Int) (junit : Option JUnitCounts) (reportExpected : Bool) : Grade :=
  match junit with
  | some counts =>
    if returncode = 0 && decide (0 < counts.total) && counts.failures == 0 &&
        counts.errors == 0 then
      ⟨true, 1, counts.passed, counts.total⟩
    else if returncode = 1 && decide (0 < counts.total) &&
        (decide (0 < counts.failures) || decide (0 < counts.errors)) then
      ⟨false, fractionScore counts.passed counts.total, counts.passed, counts.total⟩
    else ⟨false, 10 / 100, counts.passed, counts.total⟩
  | none =>
    if reportExpected then ⟨false, 10 / 100, 0, 0⟩
    else if returncode = 0 then ⟨true, 1, 0, 0⟩
    else if returncode = 1 then ⟨false, 25 / 100, 0, 0⟩
    else ⟨false, 10 / 100, 0, 0⟩

/-- Is the exit code inconsistent with its judge-owned JUnit report? -/
def detectTamper (returncode : Int) (junit : Option JUnitCounts) : Bool :=
  match junit with
  | none => false
  | some counts =>
    let allPass := decide (0 < counts.total) && counts.failures == 0 && counts.errors == 0
    let hasFailures := decide (0 < counts.failures) || decide (0 < counts.errors)
    (allPass && decide (returncode ≠ 0)) || (hasFailures && decide (returncode = 0))

theorem parse_junit_xml_nonempty (parseXml : Text → Option Element) (text : Text)
    (counts : JUnitCounts) (parsed : parseJunitXml parseXml text = some counts) : text ≠ [] := by
  intro empty
  subst empty
  simp [parseJunitXml, Text.strip, Text.stripWhile, Text.lstripWhile, Text.rstripWhile] at parsed

end EvoomGuard.Verifiers
