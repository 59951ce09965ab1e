import EvoomGuard.Verifiers.RepoVerifier

/-!
Which testcase elements of a report tree the counter of `verifiers/junit_oracle.py` reaches,
beside `Element.iter`, which reaches all of them.
-/

namespace EvoomGuard.Verifiers

open Lib Domain

def Element.attributes : Element → List (Text × Text)
  | .mk _ attributes _ => attributes

def isTestcase (element : Element) : Bool := localName element.tag == "testcase"

def hasState (state : String) (testcase : Element) : Bool :=
  testcase.children.any fun child => localName child.tag == state.toList

/-- A failure or an error stands directly below the testcase. -/
def failedCase (testcase : Element) : Bool :=
  testcase.children.any fun child => localName child.tag == "failure" ||
    localName child.tag == "error"

def isNamed (testid : Text) (testcase : Element) : Bool :=
  testcase.attributes.lookup "name".toList == some testid

mutual

def iter : Element → List Element
  | .mk tag attributes children => .mk tag attributes children :: iterIn children

def iterIn : List Element → List Element
  | [] => []
  | child :: rest => iter child ++ iterIn rest

end

mutual

/-- The testcases met by the counter, which descends everywhere but into a testcase. -/
def counted : Element → List Element
  | .mk tag attributes children =>
    if localName tag == "testcase" then [.mk tag attributes children]
    else countedIn children

def countedIn : List Element → List Element
  | [] => []
  | child :: rest => counted child ++ countedIn rest

end

/-! The counter sees every case it reaches -/

theorem counted_testcase (element : Element) (testcase : isTestcase element = true) :
    counted element = [element] := by
  cases element with
  | mk tag attributes children =>
    rw [counted]
    exact if_pos testcase

theorem counted_other (element : Element) (other : isTestcase element = false) :
    counted element = countedIn element.children := by
  cases element with
  | mk tag attributes children =>
    rw [counted]
    exact if_neg (ne_true_of_eq_false other)

theorem passed_case_clean (testcase : Element) (own : RawCounts)
    (counts : testcaseCounts testcase = some own) (failures : own.failures = 0)
    (errors : own.errors = 0) : failedCase testcase = false := by
  by_contra failed
  have present : failedCase testcase = true := by simpa using failed
  simp only [failedCase, List.any_eq_true, Bool.or_eq_true, beq_iff_eq] at present
  obtain ⟨child, member, state⟩ := present
  have listed : localName child.tag ∈ ((testcase.children.map fun child =>
      localName child.tag).filter fun name => name == "failure".toList ||
        name == "error".toList || name == "skipped".toList).dedup := by
    rw [List.mem_dedup, List.mem_filter]
    constructor
    · exact List.mem_map_of_mem member
    · cases state with
      | inl failure => simp [failure]
      | inr error => simp [error]
  simp only [testcaseCounts] at counts
  split at counts
  · next empty =>
      rw [empty] at listed
      cases listed
  · next single =>
      rw [single, List.mem_singleton] at listed
      cases counts
      cases state with
      | inl failure => simp [← listed, failure] at failures
      | inr error => simp [← listed, error] at errors
  · cases counts

/-- What a finished count says about the cases it went through: without a seen case there was
none, and a clean count leaves every one of them without a failure. -/
def CleanlyCounted (counts : RawCounts) (before : Bool) (raw : RawCounts) (seen : Bool)
    (reached : List Element) : Prop :=
  (seen = false → before = false ∧ reached = []) ∧
    (raw.failures = 0 → raw.errors = 0 → (counts.failures = 0 ∧ counts.errors = 0) ∧
      ∀ testcase ∈ reached, failedCase testcase = false)

theorem cleanly_counted_add (counts own raw : RawCounts) (before seen : Bool)
    (first rest : List Element)
    (clean : own.failures = 0 → own.errors = 0 → ∀ testcase ∈ first, failedCase testcase = false)
    (onward : CleanlyCounted (counts.add own) true raw seen rest) :
    CleanlyCounted counts before raw seen (first ++ rest) := by
  constructor
  · intro unseen
    exact absurd (onward.1 unseen).1 (by decide)
  · intro failures errors
    obtain ⟨added, later⟩ := onward.2 failures errors
    simp only [RawCounts.add, Nat.add_eq_zero_iff] at added
    constructor
    · exact ⟨added.1.1, added.2.1⟩
    · intro testcase member
      rw [List.mem_append] at member
      cases member with
      | inl inner => exact clean added.1.2 added.2.2 testcase inner
      | inr after => exact later testcase after

/-- What one child does to a count: a testcase and a subtree with cases add theirs, a subtree
without cases and a leaf add nothing. -/
theorem child_counts_cons (depth : Nat) (counts : RawCounts) (before : Bool) (child : Element)
    (rest : List Element) (result : RawCounts × Bool)
    (counting : childCounts depth counts before (child :: rest) = some result) :
    (isTestcase child = true ∧ ∃ own, testcaseCounts child = some own ∧
        childCounts depth (counts.add own) true rest = some result) ∨
      (isTestcase child = false ∧ ∃ own, elementCounts (depth + 1) child = some (own, true) ∧
        childCounts depth (counts.add own) true rest = some result) ∨
      (isTestcase child = false ∧
        ((∃ own, elementCounts (depth + 1) child = some (own, false)) ∨ child.children = []) ∧
          childCounts depth counts before rest = some result) := by
  have folded : (localName child.tag == "testcase") = isTestcase child := rfl
  rw [childCounts, folded] at counting
  by_cases testcase : isTestcase child = true
  · rw [if_pos testcase] at counting
    cases own : testcaseCounts child with
    | none => simp [own] at counting
    | some counted =>
      simp only [own] at counting
      exact Or.inl ⟨testcase, counted, rfl, counting⟩
  · have other : isTestcase child = false := by simpa using testcase
    rw [if_neg testcase] at counting
    by_cases group : (isSuiteName (localName child.tag) || !child.children.isEmpty) = true
    · rw [if_pos group] at counting
      cases own : elementCounts (depth + 1) child with
      | none => simp [own] at counting
      | some found =>
        obtain ⟨inner, met⟩ := found
        cases met with
        | true =>
          simp only [own] at counting
          exact Or.inr (Or.inl ⟨other, inner, rfl, counting⟩)
        | false =>
          simp only [own] at counting
          exact Or.inr (Or.inr ⟨other, Or.inl ⟨inner, rfl⟩, counting⟩)
    · rw [if_neg group] at counting
      have leaf : child.children = [] := by
        simp only [Bool.or_eq_true, not_or, Bool.not_eq_true, Bool.not_eq_false',
          List.isEmpty_iff] at group
        exact group.2
      exact Or.inr (Or.inr ⟨other, Or.inr leaf, counting⟩)

/-- An element answers with the count of its children, or it is an empty suite and answers with
what it declares. -/
theorem element_counts_cases (depth : Nat) (element : Element) (raw : RawCounts) (seen : Bool)
    (counting : elementCounts depth element = some (raw, seen)) :
    childCounts depth RawCounts.zero false element.children = some (raw, seen) ∨
      ∃ inner, childCounts depth RawCounts.zero false element.children = some (inner, false) ∧
        seen = true ∧ localName element.tag = "testsuite" := by
  cases element with
  | mk tag attributes children =>
    rw [elementCounts] at counting
    by_cases deep : maxJunitNesting < depth
    · rw [if_pos deep] at counting
      cases counting
    rw [if_neg deep] at counting
    cases own : (if isSuiteName (localName tag) then declaredCounts attributes
        else some {}) with
    | none => simp [own] at counting
    | some declared =>
      cases below : childCounts depth RawCounts.zero false children with
      | none => simp [own, below] at counting
      | some found =>
        obtain ⟨inner, met⟩ := found
        simp only [own, below] at counting
        cases met with
        | true =>
          dsimp only at counting
          split_ifs at counting
          cases counting
          exact Or.inl below
        | false =>
          dsimp only at counting
          split_ifs at counting with suite
          · cases counting
            exact Or.inr ⟨inner, below, rfl, beq_iff_eq.mp suite⟩
          · cases counting
            exact Or.inl below

mutual

theorem element_counts_clean (depth : Nat) (raw : RawCounts) (seen : Bool) :
    ∀ element : Element, elementCounts depth element = some (raw, seen) →
      (seen = false → countedIn element.children = []) ∧
        (raw.failures = 0 → raw.errors = 0 →
          ∀ testcase ∈ countedIn element.children, failedCase testcase = false)
  | .mk tag attributes children => by
      intro counting
      cases element_counts_cases depth _ raw seen counting with
      | inl same =>
        have clean := child_counts_clean depth raw seen children RawCounts.zero false same
        constructor
        · intro unseen
          exact (clean.1 unseen).2
        · intro failures errors
          exact (clean.2 failures errors).2
      | inr declared =>
        obtain ⟨inner, unseen, met, _⟩ := declared
        have clean := child_counts_clean depth inner false children RawCounts.zero false unseen
        have none : countedIn children = [] := (clean.1 rfl).2
        simp [Element.children, none]

theorem child_counts_clean (depth : Nat) (raw : RawCounts) (seen : Bool) :
    ∀ (children : List Element) (counts : RawCounts) (before : Bool),
      childCounts depth counts before children = some (raw, seen) →
        CleanlyCounted counts before raw seen (countedIn children)
  | [], counts, before => by
      intro counting
      rw [childCounts] at counting
      cases counting
      constructor
      · intro unseen
        exact ⟨unseen, rfl⟩
      · intro failures errors
        exact ⟨⟨failures, errors⟩, by simp [countedIn]⟩
  | child :: rest, counts, before => by
      intro counting
      rw [countedIn]
      cases child_counts_cons depth counts before child rest (raw, seen) counting with
      | inl reached =>
        obtain ⟨testcase, own, states, onward⟩ := reached
        have later := child_counts_clean depth raw seen rest (counts.add own) true onward
        apply cleanly_counted_add counts own raw before seen _ _ _ later
        intro failures errors member single
        rw [counted_testcase child testcase, List.mem_singleton] at single
        rw [single]
        exact passed_case_clean child own states failures errors
      | inr beyond =>
        cases beyond with
        | inl grouped =>
          obtain ⟨other, own, inside, onward⟩ := grouped
          have later := child_counts_clean depth raw seen rest (counts.add own) true onward
          have below := element_counts_clean (depth + 1) own true child inside
          apply cleanly_counted_add counts own raw before seen _ _ _ later
          rw [counted_other child other]
          exact below.2
        | inr empty =>
          obtain ⟨other, hollow, onward⟩ := empty
          have none : counted child = [] := by
            rw [counted_other child other]
            cases hollow with
            | inl unseen =>
              obtain ⟨own, inside⟩ := unseen
              exact (element_counts_clean (depth + 1) own false child inside).1 rfl
            | inr leaf =>
              rw [leaf]
              rfl
          rw [none, List.nil_append]
          exact child_counts_clean depth raw seen rest counts before onward

end

theorem count_testcases_clean (root : Element) (counts : JUnitCounts)
    (counting : countTestcases root = some counts) (failures : counts.failures = 0)
    (errors : counts.errors = 0) : ∀ testcase ∈ counted root, failedCase testcase = false := by
  rw [countTestcases] at counting
  by_cases suite : isSuiteName (localName root.tag) = true
  · rw [if_pos suite] at counting
    cases found : elementCounts 0 root with
    | none => simp [found] at counting
    | some result =>
      obtain ⟨raw, seen⟩ := result
      cases seen with
      | false => simp [found] at counting
      | true =>
        simp only [found, balancedCounts] at counting
        split_ifs at counting with enough
        cases counting
        have other : isTestcase root = false := by
          simp only [isSuiteName, Bool.or_eq_true, beq_iff_eq] at suite
          cases suite with
          | inl single =>
            rw [isTestcase, single]
            decide
          | inr several =>
            rw [isTestcase, several]
            decide
        rw [counted_other root other]
        exact (element_counts_clean 0 raw true root found).2 failures errors
  · rw [if_neg suite] at counting
    cases counting

/-! The scan sees every element -/

mutual

theorem iter_reached (testcase : Element) (named : isTestcase testcase = true) :
    ∀ element : Element, testcase ∈ iter element →
      testcase ∈ counted element ∨
        ∃ outer ∈ counted element, testcase ∈ iterIn outer.children
  | .mk tag attributes children => by
      intro member
      rw [iter, List.mem_cons] at member
      by_cases own : isTestcase (.mk tag attributes children) = true
      · rw [counted_testcase _ own]
        cases member with
        | inl same => exact Or.inl (by simp [same])
        | inr below => exact Or.inr ⟨_, List.mem_singleton_self _, below⟩
      · rw [counted_other _ (by simpa using own)]
        cases member with
        | inl same =>
          rw [← same] at own
          exact absurd named own
        | inr below => exact iter_in_reached testcase named children below

theorem iter_in_reached (testcase : Element) (named : isTestcase testcase = true) :
    ∀ elements : List Element, testcase ∈ iterIn elements →
      testcase ∈ countedIn elements ∨
        ∃ outer ∈ countedIn elements, testcase ∈ iterIn outer.children
  | [] => by
      intro member
      cases member
  | element :: rest => by
      intro member
      rw [iterIn, List.mem_append] at member
      rw [countedIn]
      have joined : ∀ part : List Element, (∀ outer ∈ part, outer ∈ counted element ++ countedIn rest) →
          (testcase ∈ part ∨ ∃ outer ∈ part, testcase ∈ iterIn outer.children) →
          testcase ∈ counted element ++ countedIn rest ∨
            ∃ outer ∈ counted element ++ countedIn rest, testcase ∈ iterIn outer.children := by
        intro part within found
        cases found with
        | inl direct => exact Or.inl (within testcase direct)
        | inr inside =>
          obtain ⟨outer, listed, below⟩ := inside
          exact Or.inr ⟨outer, within outer listed, below⟩
      cases member with
      | inl first =>
        exact joined _ (fun _ => List.mem_append_left _)
          (iter_reached testcase named element first)
      | inr later =>
        exact joined _ (fun _ => List.mem_append_right _)
          (iter_in_reached testcase named rest later)

end

mutual

theorem counted_iter (testcase : Element) :
    ∀ element : Element, testcase ∈ counted element →
      testcase ∈ iter element ∧ isTestcase testcase = true
  | .mk tag attributes children => by
      intro member
      rw [iter]
      by_cases own : isTestcase (.mk tag attributes children) = true
      · rw [counted_testcase _ own, List.mem_singleton] at member
        subst member
        exact ⟨List.mem_cons_self, own⟩
      · rw [counted_other _ (by simpa using own)] at member
        have below := counted_in_iter testcase children member
        exact ⟨List.mem_cons_of_mem _ below.1, below.2⟩

theorem counted_in_iter (testcase : Element) :
    ∀ elements : List Element, testcase ∈ countedIn elements →
      testcase ∈ iterIn elements ∧ isTestcase testcase = true
  | [] => by
      intro member
      cases member
  | element :: rest => by
      intro member
      rw [countedIn, List.mem_append] at member
      rw [iterIn, List.mem_append]
      cases member with
      | inl first =>
        have found := counted_iter testcase element first
        exact ⟨Or.inl found.1, found.2⟩
      | inr later =>
        have found := counted_in_iter testcase rest later
        exact ⟨Or.inr found.1, found.2⟩

end

mutual

theorem iter_below (outer inner : Element) (below : inner ∈ iterIn outer.children) :
    ∀ element : Element, outer ∈ iter element → inner ∈ iter element
  | .mk tag attributes children => by
      intro member
      rw [iter, List.mem_cons] at member ⊢
      cases member with
      | inl same =>
        subst same
        exact Or.inr below
      | inr deeper => exact Or.inr (iter_in_below outer inner below children deeper)

theorem iter_in_below (outer inner : Element) (below : inner ∈ iterIn outer.children) :
    ∀ elements : List Element, outer ∈ iterIn elements → inner ∈ iterIn elements
  | [] => by
      intro member
      cases member
  | element :: rest => by
      intro member
      rw [iterIn, List.mem_append] at member ⊢
      cases member with
      | inl first => exact Or.inl (iter_below outer inner below element first)
      | inr later => exact Or.inr (iter_in_below outer inner below rest later)

end

mutual

theorem any_case_failed_iter (testid : Text) : ∀ element : Element,
    anyCaseFailed testid element = (iter element).any fun testcase =>
      isTestcase testcase && isNamed testid testcase && failedCase testcase
  | .mk tag attributes children => by
      rw [anyCaseFailed, iter, List.any_cons, any_case_failed_iter_in testid children]
      rfl

theorem any_case_failed_iter_in (testid : Text) : ∀ elements : List Element,
    anyCaseFailedIn testid elements = (iterIn elements).any fun testcase =>
      isTestcase testcase && isNamed testid testcase && failedCase testcase
  | [] => rfl
  | element :: rest => by
      rw [anyCaseFailedIn, iterIn, List.any_append, any_case_failed_iter testid element,
        any_case_failed_iter_in testid rest]

end

theorem canary_case_passed (parseXml : Text → Option Element) (text testid : Text)
    (root : Element) (parsed : parseXml text = some root)
    (clean : ∀ testcase ∈ iter root, isTestcase testcase = true → failedCase testcase = false) :
    canaryCaseFailed parseXml text testid = false := by
  have scanned : anyCaseFailed testid root = false := by
    rw [any_case_failed_iter, List.any_eq_false]
    intro testcase member
    by_cases named : isTestcase testcase = true
    · simp [clean testcase member named]
    · simp [named]
  rw [canaryCaseFailed, parsed]
  split
  · rfl
  · simpa using scanned

/-- Counts without failures and errors speak for every testcase of the tree, and for the canary
scan of it, exactly when no testcase below another testcase carries a failure or an error: the
counter does not look inside a testcase. -/
theorem clean_counts_hide_nothing_iff (root : Element) (counts : JUnitCounts)
    (counting : countTestcases root = some counts) (failures : counts.failures = 0)
    (errors : counts.errors = 0) :
    ((∀ testcase ∈ iter root, isTestcase testcase = true → failedCase testcase = false) ∧
      ∀ (parseXml : Text → Option Element) (text testid : Text), parseXml text = some root →
        canaryCaseFailed parseXml text testid = false) ↔
    ∀ outer ∈ iter root, isTestcase outer = true → ∀ inner ∈ iterIn outer.children,
      isTestcase inner = true → failedCase inner = false := by
  constructor
  · intro clean outer member named inner below
    exact clean.1 inner (iter_below outer inner below root member)
  · intro nested
    have clean : ∀ testcase ∈ iter root, isTestcase testcase = true →
        failedCase testcase = false := by
      intro testcase member named
      cases iter_reached testcase named root member with
      | inl reached =>
        exact count_testcases_clean root counts counting failures errors testcase reached
      | inr inside =>
        obtain ⟨outer, listed, below⟩ := inside
        have held := counted_iter outer root listed
        exact nested outer held.1 held.2 testcase below named
    constructor
    · exact clean
    · intro parseXml text testid parsed
      exact canary_case_passed parseXml text testid root parsed clean

def passingCase (name : String) : Element :=
  .mk "testcase" [("name", name.toList)] []

def suiteOf (children : List Element) : Element := .mk "testsuite" [] children

/-- A suite in a suite, and a testcase that passes below one that does. -/
def passedInside : Element :=
  suiteOf [passingCase "test_add", suiteOf [.mk "testcase" [] [passingCase "test_inner"]]]

theorem nested_suites_hide_nothing :
    (∀ testcase ∈ iter passedInside, isTestcase testcase = true → failedCase testcase = false) ∧
      ∀ (parseXml : Text → Option Element) (text testid : Text),
        parseXml text = some passedInside → canaryCaseFailed parseXml text testid = false :=
  (clean_counts_hide_nothing_iff passedInside ⟨2, 2, 0, 0, rfl⟩ rfl rfl rfl).mpr
    (by decide +kernel)

def failedInside : Element :=
  suiteOf [.mk "testcase" [("name", "test_add")]
    [.mk "testcase" [("name", "test_inner")]
      [.mk "failure" [] []]]]

def failedInsideText : Text :=
  ("<testsuite><testcase name='test_add'><testcase name='test_inner'><failure/></testcase>" ++
    "</testcase></testsuite>").toList

/-- One testcase is counted and passes; the scan finds the failure below it. -/
theorem nested_failure_not_counted :
    countTestcases failedInside = some ⟨1, 1, 0, 0, rfl⟩ ∧
      (∃ testcase ∈ iter failedInside, isTestcase testcase = true ∧
        failedCase testcase = true) ∧
      canaryCaseFailed (fun text => if text = failedInsideText then some failedInside else none)
        failedInsideText "test_inner" = true := by
  constructor
  · rfl
  constructor
  · exact ⟨.mk "testcase" [("name", "test_inner")]
      [.mk "failure" [] []], by simp [failedInside, suiteOf, iter, iterIn], by decide,
      by decide +kernel⟩
  · decide +kernel

/-! The canary behind a graded suite -/

section

variable (parseXml : Text → Option Element) (lowerName : Text → Text)

/-- A completed suite after the continuity checks: the canary scan, then the grade. `none` when
the scan ends the run as tampered. -/
def gradedAfterSuite (requireAssertLiveness : Bool) (completed : CompletedRun)
    (strictHarness : Bool) : Option RepoPhaseResult :=
  if requireAssertLiveness &&
      canaryCaseFailed parseXml (completed.report.getD []) canaryTestid then none
  else some (interpretRepoSuite parseXml lowerName completed strictHarness)

/-- The testcases behind the counts of one report text. -/
def reportCases (text : Text) : List Element :=
  if (parseJunitXml parseXml text).isSome then ((parseXml text).map counted).getD [] else []

/-- The testcases behind the counts a suite is graded on: of its own report, or of the report
directory read in its place. -/
def gradedCases (completed : CompletedRun) : List Element :=
  if (parseJunitXml parseXml (completed.report.getD [])).isSome then
    reportCases parseXml (completed.report.getD [])
  else if (parseJunitDirWithDigest parseXml lowerName completed.reportDirectory).isSome then
    ((completed.reportDirectory.getD []).filter fun entry =>
      Text.endsWith (lowerName entry.name) ".xml").flatMap fun entry =>
        reportCases parseXml (entry.text.getD [])
  else []

theorem parse_junit_counted (text : Text) (counts : JUnitCounts)
    (parsed : parseJunitXml parseXml text = some counts) :
    ∃ root, parseXml text = some root ∧ countTestcases root = some counts := by
  rw [parseJunitXml] at parsed
  split_ifs at parsed
  rw [Option.bind_eq_some_iff] at parsed
  exact parsed

theorem report_cases_clean (text : Text) (counts : JUnitCounts)
    (parsed : parseJunitXml parseXml text = some counts) (failures : counts.failures = 0)
    (errors : counts.errors = 0) :
    ∀ testcase ∈ reportCases parseXml text, failedCase testcase = false := by
  obtain ⟨root, read, counting⟩ := parse_junit_counted parseXml text counts parsed
  rw [reportCases, parsed, read]
  exact count_testcases_clean root counts counting failures errors

theorem add_report_parsed (set next : ReportSet) (entry : ReportEntry)
    (added : addReport parseXml set entry = some next) :
    ∃ counts, parseJunitXml parseXml (entry.text.getD []) = some counts ∧
      next.counts.failures = set.counts.failures + counts.failures ∧
      next.counts.errors = set.counts.errors + counts.errors := by
  rw [addReport] at added
  split at added
  · next size text sized read =>
      split_ifs at added
      rw [Option.map_eq_some_iff] at added
      obtain ⟨counts, parsed, same⟩ := added
      subst same
      rw [read]
      exact ⟨counts, parsed, rfl, rfl⟩
  · cases added

-- The counters only grow, so a clean set was clean after every file.
theorem add_reports_clean (entries : List ReportEntry) :
    ∀ set final : ReportSet, addReports parseXml set entries = some final →
      final.counts.failures = 0 → final.counts.errors = 0 →
      (set.counts.failures = 0 ∧ set.counts.errors = 0) ∧
        ∀ entry ∈ entries, ∀ testcase ∈ reportCases parseXml (entry.text.getD []),
          failedCase testcase = false := by
  induction entries with
  | nil =>
    intro set final added failures errors
    rw [addReports] at added
    cases added
    exact ⟨⟨failures, errors⟩, by simp⟩
  | cons entry rest later =>
    intro set final added failures errors
    rw [addReports] at added
    cases one : addReport parseXml set entry with
    | none => simp [one] at added
    | some next =>
      simp only [one] at added
      obtain ⟨zero, clean⟩ := later next final added failures errors
      obtain ⟨counts, parsed, grownFailures, grownErrors⟩ :=
        add_report_parsed parseXml set next entry one
      constructor
      · omega
      · intro member listed
        rw [List.mem_cons] at listed
        cases listed with
        | inl same =>
          rw [same]
          exact report_cases_clean parseXml _ counts parsed (by omega) (by omega)
        | inr after => exact clean member after

theorem directory_cases_clean (entries : List ReportEntry) (counts : JUnitCounts) (digest : Text)
    (merged : parseJunitDirWithDigest parseXml lowerName (some entries) = some (counts, digest))
    (failures : counts.failures = 0) (errors : counts.errors = 0) :
    ∀ entry ∈ entries.filter (fun entry => Text.endsWith (lowerName entry.name) ".xml"),
      ∀ testcase ∈ reportCases parseXml (entry.text.getD []), failedCase testcase = false := by
  simp only [parseJunitDirWithDigest] at merged
  cases added : addReports parseXml emptyReportSet (entries.filter fun entry =>
      Text.endsWith (lowerName entry.name) ".xml") with
  | none =>
    simp only [added] at merged
    cases merged
  | some final =>
    simp only [added] at merged
    split_ifs at merged
    cases merged
    exact (add_reports_clean parseXml _ emptyReportSet final added failures errors).2

theorem passed_counts_clean (evidence : CompletedRunEvidence) (strictHarness : Bool)
    (passed : (evaluateRepoPhase evidence strictHarness).passed = true) (counts : JUnitCounts)
    (read : evidence.junit = some counts) : counts.failures = 0 ∧ counts.errors = 0 := by
  rw [repo_phase_passed] at passed
  simp only [cleanPass, exitOnlyPass, read, Option.isNone_some, Bool.false_and, Bool.or_false,
    Bool.and_eq_true, beq_iff_eq] at passed
  exact ⟨passed.1.2, passed.2⟩

theorem passed_cases_clean (completed : CompletedRun) (strictHarness : Bool)
    (passed : (interpretRepoSuite parseXml lowerName completed strictHarness).passed = true) :
    ∀ testcase ∈ gradedCases parseXml lowerName completed, failedCase testcase = false := by
  have graded := passed_counts_clean (suiteEvidence parseXml lowerName completed) strictHarness
    passed
  rw [gradedCases]
  cases direct : parseJunitXml parseXml (completed.report.getD []) with
  | some counts =>
    have clean := graded counts (by simp [suiteEvidence, direct])
    rw [if_pos Option.isSome_some]
    exact report_cases_clean parseXml _ counts direct clean.1 clean.2
  | none =>
    rw [if_neg (by simp)]
    cases merged : parseJunitDirWithDigest parseXml lowerName completed.reportDirectory with
    | none => simp
    | some found =>
      have clean := graded found.1 (by simp [suiteEvidence, direct, merged])
      rw [if_pos Option.isSome_some]
      cases directory : completed.reportDirectory with
      | none => simp [directory, parseJunitDirWithDigest] at merged
      | some entries =>
        rw [directory] at merged
        intro testcase member
        rw [List.mem_flatMap] at member
        obtain ⟨entry, listed, inside⟩ := member
        exact directory_cases_clean parseXml lowerName entries found.1 found.2 merged
          clean.1 clean.2 entry listed testcase inside

end

/-- A suite that passes with the canary required rests on a live canary exactly when a counted
testcase of that name is there and is not skipped; nothing asks for its presence. -/
theorem required_canary_live_iff (parseXml : Text → Option Element) (lowerName : Text → Text)
    (completed : CompletedRun) (strictHarness : Bool) (repo : RepoPhaseResult)
    (graded : gradedAfterSuite parseXml lowerName true completed strictHarness = some repo)
    (passed : repo.passed = true) :
    (∃ testcase ∈ gradedCases parseXml lowerName completed,
      isNamed canaryTestid testcase = true ∧ hasState "failure" testcase = false ∧
        hasState "error" testcase = false ∧ hasState "skipped" testcase = false) ↔
    ∃ testcase ∈ gradedCases parseXml lowerName completed,
      isNamed canaryTestid testcase = true ∧ hasState "skipped" testcase = false := by
  rw [gradedAfterSuite] at graded
  split_ifs at graded with canary
  cases graded
  have clean := passed_cases_clean parseXml lowerName completed strictHarness passed
  constructor
  · intro live
    obtain ⟨testcase, member, named, unfailed, unerred, unskipped⟩ := live
    exact ⟨testcase, member, named, unskipped⟩
  · intro present
    obtain ⟨testcase, member, named, unskipped⟩ := present
    have states := clean testcase member
    rw [failedCase, List.any_eq_false] at states
    have unfailed : hasState "failure" testcase = false := by
      rw [hasState, List.any_eq_false]
      intro child below failure
      exact states child below (by rw [failure, Bool.true_or])
    have unerred : hasState "error" testcase = false := by
      rw [hasState, List.any_eq_false]
      intro child below error
      exact states child below (by rw [error, Bool.or_true])
    exact ⟨testcase, member, named, unfailed, unerred, unskipped⟩

def greenTree (name : Text) : Element :=
  suiteOf [.mk "testcase" [("name", name)] []]

def greenReport (name : Text) : Text :=
  "<testsuite><testcase name='" ++ name ++ "'/></testsuite>"

def readGreen (name text : Text) : Option Element :=
  if text = greenReport name then some (greenTree name) else none

def greenRun (name : Text) : CompletedRun where
  returncode := 0
  reportExpected := true
  report := some (greenReport name)

def gradedGreen (name : Text) : RepoPhaseResult :=
  interpretRepoSuite (readGreen name) id (greenRun name) true

theorem green_cases (name : Text)
    (parsed : (parseJunitXml (readGreen name) (greenReport name)).isSome = true) :
    gradedCases (readGreen name) id (greenRun name) =
      [.mk "testcase" [("name", name)] []] := by
  have counting : counted (greenTree name) =
      [.mk "testcase" [("name", name)] []] := rfl
  have own : (greenRun name).report.getD [] = greenReport name := rfl
  rw [gradedCases, own, if_pos parsed, reportCases, if_pos parsed, readGreen, if_pos rfl]
  exact counting

theorem live_canary_behind_pass :
    ∃ testcase ∈ gradedCases (readGreen canaryTestid) id (greenRun canaryTestid),
      isNamed canaryTestid testcase = true ∧ hasState "failure" testcase = false ∧
        hasState "error" testcase = false ∧ hasState "skipped" testcase = false := by
  have graded : gradedAfterSuite (readGreen canaryTestid) id true (greenRun canaryTestid) true =
      some (gradedGreen canaryTestid) := if_neg (by decide)
  apply (required_canary_live_iff (readGreen canaryTestid) id (greenRun canaryTestid) true
    (gradedGreen canaryTestid) graded (by decide)).mpr
  rw [green_cases canaryTestid (by decide)]
  exact ⟨_, List.mem_singleton_self _, by decide, by decide⟩

/-- The suite ran without the canary and passes, even in strict mode. -/
theorem missing_canary_passes :
    ∃ repo, gradedAfterSuite (readGreen "test_add") id true
        (greenRun "test_add") true = some repo ∧ repo.passed = true ∧
      ¬ ∃ testcase ∈ gradedCases (readGreen "test_add") id
          (greenRun "test_add"), isNamed canaryTestid testcase = true ∧
        hasState "failure" testcase = false ∧ hasState "error" testcase = false ∧
          hasState "skipped" testcase = false := by
  refine ⟨gradedGreen "test_add", if_neg (by decide), by decide, ?_⟩
  rw [green_cases "test_add" (by decide)]
  intro live
  obtain ⟨testcase, member, named, states⟩ := live
  rw [List.mem_singleton] at member
  subst member
  exact absurd named (by decide)

end EvoomGuard.Verifiers
