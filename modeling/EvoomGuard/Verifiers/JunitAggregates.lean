import EvoomGuard.Verifiers.JunitCases

/-!
Declared aggregates beside the counts of `_count_testcases`. They may refuse a report; where every
suite holds a case, they never move the counts.
-/

namespace EvoomGuard.Verifiers

open Lib Domain

/-- A list of cases as the counter adds it up. -/
def tally (cases : List Element) : RawCounts where
  tests := cases.length
  failures := cases.countP (hasState "failure")
  errors := cases.countP (hasState "error")
  skipped := cases.countP (hasState "skipped")

theorem tally_append (first second : List Element) :
    tally (first ++ second) = (tally first).add (tally second) := by
  simp [tally, RawCounts.add]

theorem raw_add_assoc (first second third : RawCounts) :
    (first.add second).add third = first.add (second.add third) := by
  simp only [RawCounts.add, Nat.add_assoc]

theorem raw_zero_add (counts : RawCounts) : RawCounts.zero.add counts = counts := by
  simp [RawCounts.add, RawCounts.zero]

def caseStates (testcase : Element) : List Text :=
  (testcase.children.map fun child => localName child.tag).filter fun name =>
    name == "failure" || name == "error" || name == "skipped"

variable (testcase : Element)

theorem has_state_iff (state : String) :
    hasState state testcase = true ↔
      state.toList ∈ testcase.children.map fun child => localName child.tag := by
  simp only [hasState, List.any_eq_true, beq_iff_eq, List.mem_map]

theorem has_state_listed (state : String)
    (terminal : state = "failure" ∨ state = "error" ∨ state = "skipped") :
    hasState state testcase = true ↔ state.toList ∈ (caseStates testcase).dedup := by
  rw [has_state_iff, List.mem_dedup, caseStates, List.mem_filter]
  constructor
  · intro listed
    constructor
    · exact listed
    · rcases terminal with rfl | rfl | rfl <;> decide
  · intro listed
    exact listed.1

theorem counted_if (present : Bool) (state found : Text)
    (exact : present = true ↔ state ∈ [found]) :
    (if found == state then 1 else 0) = (if present = true then 1 else 0) := by
  rw [List.mem_singleton] at exact
  by_cases same : found = state
  · rw [if_pos (beq_iff_eq.mpr same), if_pos (exact.mpr same.symm)]
  · rw [if_neg (fun equal => same (beq_iff_eq.mp equal)),
      if_neg (fun held => same (exact.mp held).symm)]

theorem testcase_counts_states :
    testcaseCounts testcase =
      match (caseStates testcase).dedup with
      | [] => some ⟨1, 0, 0, 0⟩
      | [state] =>
        some ⟨1, if state == "failure" then 1 else 0,
          if state == "error" then 1 else 0, if state == "skipped" then 1 else 0⟩
      | _ => none := rfl

theorem testcase_counts_tally (own : RawCounts)
    (counts : testcaseCounts testcase = some own) : own = tally [testcase] := by
  have failure := has_state_listed testcase "failure" (Or.inl rfl)
  have error := has_state_listed testcase "error" (Or.inr (Or.inl rfl))
  have skipped := has_state_listed testcase "skipped" (Or.inr (Or.inr rfl))
  rw [testcase_counts_states] at counts
  split at counts
  · next empty =>
      rw [empty] at failure error skipped
      cases counts
      simp only [List.not_mem_nil, iff_false, Bool.not_eq_true] at failure error skipped
      simp [tally, failure, error, skipped]
  · next state single =>
      rw [single] at failure error skipped
      cases counts
      rw [counted_if _ _ _ failure, counted_if _ _ _ error, counted_if _ _ _ skipped]
      simp only [tally, List.length_singleton, List.countP_singleton]
  · cases counts

/-- Every suite of the tree has a case among the elements the counter reaches below it. -/
def SuitesHaveCases (root : Element) : Prop :=
  ∀ suite ∈ iter root, localName suite.tag = "testsuite" → countedIn suite.children ≠ []

instance (root : Element) : Decidable (SuitesHaveCases root) :=
  decidable_of_iff ((iter root).all fun suite =>
      localName suite.tag != "testsuite" || !(countedIn suite.children).isEmpty) (by
    simp [SuitesHaveCases, List.all_eq_true, imp_iff_not_or])

theorem suites_have_cases_child {tag : Text} {attributes : List (Text × Text)}
    {children : List Element} (covered : SuitesHaveCases (.mk tag attributes children)) :
    ∀ suite ∈ iterIn children, localName suite.tag = "testsuite" →
      countedIn suite.children ≠ [] := by
  intro suite inside
  apply covered suite
  rw [iter]
  exact List.mem_cons_of_mem _ inside

/-- What a finished count says about the cases it went through. -/
structure Adds (counts : RawCounts) (before : Bool) (raw : RawCounts) (seen : Bool)
    (reached : List Element) : Prop where
  added : raw = counts.add (tally reached)
  seen : seen = (before || !reached.isEmpty)
  counted : ∀ testcase ∈ reached, (testcaseCounts testcase).isSome = true

theorem adds_first {counts raw : RawCounts} {before seen : Bool} {first rest : List Element}
    (met : first ≠ []) (each : ∀ testcase ∈ first, (testcaseCounts testcase).isSome = true)
    (onward : Adds (counts.add (tally first)) true raw seen rest) :
    Adds counts before raw seen (first ++ rest) := by
  constructor
  · rw [tally_append, ← raw_add_assoc]
    exact onward.added
  · have reached : (first ++ rest).isEmpty = false := by simp [met]
    rw [reached, onward.seen]
    simp
  · intro testcase inside
    rw [List.mem_append] at inside
    cases inside with
    | inl here => exact each testcase here
    | inr later => exact onward.counted testcase later

mutual

theorem element_counts_tally (depth : Nat) (raw : RawCounts) (seen : Bool) :
    ∀ element : Element, SuitesHaveCases element →
      elementCounts depth element = some (raw, seen) →
        Adds RawCounts.zero false raw seen (countedIn element.children)
  | .mk tag attributes children => by
      intro covered counting
      have below := suites_have_cases_child covered
      cases element_counts_cases depth _ raw seen counting with
      | inl same => exact child_counts_tally depth raw seen children RawCounts.zero false below same
      | inr declared =>
        obtain ⟨inner, unseen, _, suite⟩ := declared
        have counts := child_counts_tally depth inner false children RawCounts.zero false below
          unseen
        have own : Element.mk tag attributes children ∈
            iter (Element.mk tag attributes children) := by
          rw [iter]
          exact List.mem_cons_self
        have met := covered _ own suite
        have empty : countedIn children = [] := by simpa using counts.seen
        exact absurd empty met

theorem child_counts_tally (depth : Nat) (raw : RawCounts) (seen : Bool) :
    ∀ (children : List Element) (counts : RawCounts) (before : Bool),
      (∀ suite ∈ iterIn children, localName suite.tag = "testsuite" →
        countedIn suite.children ≠ []) →
      childCounts depth counts before children = some (raw, seen) →
        Adds counts before raw seen (countedIn children)
  | [], counts, before => by
      intro _ counting
      rw [childCounts] at counting
      cases counting
      constructor
      · rfl
      · simp [countedIn]
      · simp [countedIn]
  | child :: rest, counts, before => by
      intro covered counting
      rw [iterIn] at covered
      have first : SuitesHaveCases child := fun suite inside =>
        covered suite (List.mem_append_left _ inside)
      have others := fun suite (inside : suite ∈ iterIn rest) =>
        covered suite (List.mem_append_right _ inside)
      rw [countedIn]
      cases child_counts_cons depth counts before child rest (raw, seen) counting with
      | inl reached =>
        obtain ⟨testcase, own, states, onward⟩ := reached
        have later := child_counts_tally depth raw seen rest (counts.add own) true others onward
        rw [counted_testcase child testcase]
        rw [testcase_counts_tally child own states] at later
        apply adds_first (by simp) _ later
        intro other single
        rw [List.mem_singleton.mp single, states]
        rfl
      | inr beyond =>
        cases beyond with
        | inl grouped =>
          obtain ⟨other, own, inside, onward⟩ := grouped
          have later := child_counts_tally depth raw seen rest (counts.add own) true others
            onward
          have below := element_counts_tally (depth + 1) own true child first inside
          rw [below.added, raw_zero_add] at later
          rw [counted_other child other]
          have met : countedIn child.children ≠ [] := by simpa using below.seen
          exact adds_first met below.counted later
        | inr empty =>
          obtain ⟨other, hollow, onward⟩ := empty
          have none : counted child = [] := by
            rw [counted_other child other]
            cases hollow with
            | inl unseen =>
              obtain ⟨own, inside⟩ := unseen
              have below := element_counts_tally (depth + 1) own false child first inside
              simpa using below.seen
            | inr leaf =>
              rw [leaf]
              rfl
          rw [none, List.nil_append]
          exact child_counts_tally depth raw seen rest counts before others onward

end

/-- A case that is neither failed, nor in error, nor skipped. -/
def passedCase (testcase : Element) : Bool :=
  !hasState "failure" testcase && !hasState "error" testcase && !hasState "skipped" testcase

theorem countP_single (test : Element → Bool) (testcase : Element) :
    [testcase].countP test = if test testcase = true then 1 else 0 := by
  rw [List.countP_singleton]

theorem counted_case_cases (testcase : Element)
    (counts : (testcaseCounts testcase).isSome = true) :
    (caseStates testcase).dedup = [] ∨ (caseStates testcase).dedup = ["failure".toList] ∨
      (caseStates testcase).dedup = ["error".toList] ∨
        (caseStates testcase).dedup = ["skipped".toList] := by
  obtain ⟨own, found⟩ := Option.isSome_iff_exists.mp counts
  rw [testcase_counts_states] at found
  split at found
  · next empty => exact Or.inl empty
  · next state single =>
      have member : state ∈ (caseStates testcase).dedup := by
        rw [single]
        exact List.mem_singleton_self state
      rw [List.mem_dedup, caseStates, List.mem_filter] at member
      simp only [Bool.or_eq_true, beq_iff_eq] at member
      rcases member.2 with (failure | error) | skipped
      · exact Or.inr (Or.inl (failure ▸ single))
      · exact Or.inr (Or.inr (Or.inl (error ▸ single)))
      · exact Or.inr (Or.inr (Or.inr (skipped ▸ single)))
  · cases found

theorem single_state (testcase : Element) (counts : (testcaseCounts testcase).isSome = true) :
    [testcase].countP passedCase + (tally [testcase]).failures + (tally [testcase]).errors +
      (tally [testcase]).skipped = 1 := by
  have failure := has_state_listed testcase "failure" (Or.inl rfl)
  have error := has_state_listed testcase "error" (Or.inr (Or.inl rfl))
  have skipped := has_state_listed testcase "skipped" (Or.inr (Or.inr rfl))
  simp only [tally, countP_single, passedCase]
  rcases counted_case_cases testcase counts with listed | listed | listed | listed
  all_goals
    rw [listed] at failure error skipped
    simp at failure error skipped
    simp [failure, error, skipped]

theorem states_balance (cases : List Element)
    (counted : ∀ testcase ∈ cases, (testcaseCounts testcase).isSome = true) :
    cases.countP passedCase + (tally cases).failures + (tally cases).errors +
      (tally cases).skipped = (tally cases).tests := by
  induction cases with
  | nil => rfl
  | cons testcase rest ih =>
    have first := single_state testcase (counted testcase List.mem_cons_self)
    have later := ih fun other inside => counted other (List.mem_cons_of_mem _ inside)
    have split : tally (testcase :: rest) = (tally [testcase]).add (tally rest) :=
      tally_append [testcase] rest
    have passed : (testcase :: rest).countP passedCase =
        [testcase].countP passedCase + rest.countP passedCase := by
      rw [← List.countP_append]
      rfl
    have tests : (tally [testcase]).tests = 1 := rfl
    rw [split, passed]
    simp only [RawCounts.add]
    omega

theorem unskipped_count (cases : List Element) :
    (cases.countP fun testcase => !hasState "skipped" testcase) + (tally cases).skipped =
      (tally cases).tests := by
  have whole := List.length_eq_countP_add_countP (hasState "skipped") (l := cases)
  simp only [Bool.not_eq_true] at whole
  simp only [tally]
  rw [whole, Nat.add_comm]
  congr 1
  apply List.countP_congr
  intro testcase _
  simp

structure CountsCases (root : Element) (counts : JUnitCounts) : Prop where
  passed : counts.passed = (counted root).countP passedCase
  total : counts.total = (counted root).countP fun testcase => !hasState "skipped" testcase
  failures : counts.failures = (counted root).countP (hasState "failure")
  errors : counts.errors = (counted root).countP (hasState "error")

theorem counted_suite (root : Element) (suite : isSuiteName (localName root.tag) = true) :
    counted root = countedIn root.children := by
  apply counted_other
  simp only [isSuiteName, Bool.or_eq_true, beq_iff_eq] at suite
  cases suite with
  | inl one =>
    rw [isTestcase, one]
    decide
  | inr many =>
    rw [isTestcase, many]
    decide

theorem count_testcases_cases (root : Element) (covered : SuitesHaveCases root)
    (counts : JUnitCounts) (counting : countTestcases root = some counts) :
    CountsCases root counts := by
  rw [countTestcases] at counting
  by_cases suite : isSuiteName (localName root.tag) = true
  · rw [if_pos suite] at counting
    cases found : elementCounts 0 root with
    | none => simp [found] at counting
    | some result =>
      obtain ⟨raw, seen⟩ := result
      cases seen with
      | false => simp [found] at counting
      | true =>
        have reached := element_counts_tally 0 raw true root covered found
        have added := reached.added
        rw [raw_zero_add, ← counted_suite root suite] at added
        have accepted : ∀ testcase ∈ counted root, (testcaseCounts testcase).isSome = true := by
          rw [counted_suite root suite]
          exact reached.counted
        have balance := states_balance (counted root) accepted
        have unskipped := unskipped_count (counted root)
        simp only [found, balancedCounts] at counting
        split_ifs at counting with enough
        rw [Option.some.injEq] at counting
        subst counting
        subst added
        constructor
        · dsimp only
          omega
        · dsimp only
          omega
        · rfl
        · rfl
  · rw [if_neg suite] at counting
    cases counting

def junitCounters : List Text :=
  ["tests", "failures", "errors", "skipped"]

def dropAggregates (tag : Text) (attributes : List (Text × Text)) : List (Text × Text) :=
  if isSuiteName (localName tag) then
    attributes.filter fun pair => !junitCounters.contains pair.1
  else attributes

mutual

def withoutAggregates : Element → Element
  | .mk tag attributes children =>
    .mk tag (dropAggregates tag attributes) (withoutAggregatesIn children)

def withoutAggregatesIn : List Element → List Element
  | [] => []
  | child :: rest => withoutAggregates child :: withoutAggregatesIn rest

end

theorem without_aggregates_tag (element : Element) :
    (withoutAggregates element).tag = element.tag := by
  cases element
  rw [withoutAggregates]
  rfl

theorem without_aggregates_children (element : Element) :
    (withoutAggregates element).children = withoutAggregatesIn element.children := by
  cases element
  rw [withoutAggregates]
  rfl

theorem has_state_without_aggregates (state : String) (testcase : Element) :
    hasState state (withoutAggregates testcase) = hasState state testcase := by
  rw [hasState, hasState, without_aggregates_children]
  induction testcase.children with
  | nil => rfl
  | cons child rest ih =>
    rw [withoutAggregatesIn, List.any_cons, List.any_cons, without_aggregates_tag, ih]

mutual

theorem counted_without_aggregates :
    ∀ element : Element,
      counted (withoutAggregates element) = (counted element).map withoutAggregates
  | .mk tag attributes children => by
      rw [withoutAggregates, counted, counted]
      split_ifs
      · rw [List.map_singleton, withoutAggregates]
      · exact counted_in_without_aggregates children

theorem counted_in_without_aggregates :
    ∀ children : List Element,
      countedIn (withoutAggregatesIn children) = (countedIn children).map withoutAggregates
  | [] => rfl
  | child :: rest => by
      rw [withoutAggregatesIn, countedIn, countedIn, List.map_append,
        counted_without_aggregates child, counted_in_without_aggregates rest]

end

theorem count_without_aggregates (test : Element → Bool) (root : Element)
    (blind : ∀ testcase, test (withoutAggregates testcase) = test testcase) :
    (counted (withoutAggregates root)).countP test = (counted root).countP test := by
  rw [counted_without_aggregates, List.countP_map]
  apply List.countP_congr
  intro testcase _
  simp [blind]

theorem counts_cases_without_aggregates (root : Element) (counts : JUnitCounts) :
    CountsCases (withoutAggregates root) counts ↔ CountsCases root counts := by
  have passed := count_without_aggregates passedCase root fun testcase => by
    simp only [passedCase, has_state_without_aggregates]
  have total := count_without_aggregates (fun testcase => !hasState "skipped" testcase) root
    fun testcase => by simp only [has_state_without_aggregates]
  have failures := count_without_aggregates (hasState "failure") root
    (has_state_without_aggregates "failure")
  have errors := count_without_aggregates (hasState "error") root
    (has_state_without_aggregates "error")
  constructor
  · intro counts
    exact ⟨passed ▸ counts.passed, total ▸ counts.total, failures ▸ counts.failures,
      errors ▸ counts.errors⟩
  · intro counts
    exact ⟨passed ▸ counts.passed, total ▸ counts.total, failures ▸ counts.failures,
      errors ▸ counts.errors⟩

theorem counts_cases_unique (root : Element) (first second : JUnitCounts)
    (left : CountsCases root first) (right : CountsCases root second) : first = second := by
  cases first
  cases second
  have passed := left.passed.trans right.passed.symm
  have total := left.total.trans right.total.symm
  have failures := left.failures.trans right.failures.symm
  have errors := left.errors.trans right.errors.symm
  simp only at passed total failures errors
  subst passed total failures errors
  rfl

theorem aggregates_never_move_counts (first second : Element) (counts other : JUnitCounts)
    (alike : withoutAggregates first = withoutAggregates second)
    (covered : SuitesHaveCases first) (coveredToo : SuitesHaveCases second)
    (counting : countTestcases first = some counts)
    (countingToo : countTestcases second = some other) :
    counts = other ∧ CountsCases first counts ∧
      counts.total = counts.passed + counts.failures + counts.errors := by
  have own := count_testcases_cases first covered counts counting
  have same : CountsCases first other := by
    rw [← counts_cases_without_aggregates, alike, counts_cases_without_aggregates]
    exact count_testcases_cases second coveredToo other countingToo
  constructor
  · exact counts_cases_unique first counts other own same
  constructor
  · exact own
  · exact counts.balanced.symm

/-- A suite with one passed, one failed and one skipped case. -/
def declaredSuite (aggregates : List (Text × Text)) : Element :=
  .mk "testsuites" [] [.mk "testsuite" aggregates
    [.mk "testcase" [] [],
      .mk "testcase" [] [.mk "failure" [] []],
      .mk "testcase" [] [.mk "skipped" [] []]]]

/-- The surplus of passed subtests that pytest declares leaves the counts alone. -/
theorem surplus_never_moves_counts :
    (⟨1, 2, 1, 0, rfl⟩ : JUnitCounts) = ⟨1, 2, 1, 0, rfl⟩ ∧
      CountsCases (declaredSuite []) ⟨1, 2, 1, 0, rfl⟩ ∧ 2 = 1 + 1 + 0 :=
  aggregates_never_move_counts (declaredSuite []) (declaredSuite
      [("tests", ['9']), ("failures", ['1']), ("errors", ['0']),
        ("skipped", ['1'])])
    ⟨1, 2, 1, 0, rfl⟩ ⟨1, 2, 1, 0, rfl⟩ (by rfl)
    (by decide) (by decide) (by rfl) (by rfl)

end EvoomGuard.Verifiers
