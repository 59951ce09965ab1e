import EvoomGuard.Evidence.NewContent
import EvoomGuard.Lib.Difflib
import EvoomGuard.Lib.Lines
import EvoomGuard.Lib.Order
import EvoomGuard.RecordVerifier.CoverageTypes

/-!
`collect_diff_coverage` of `evidence.py`, from the changed lines and the report of the run under
coverage to the recorded measurement. What the run does in its workspace stays outside; here it
ends with a report or with the note that says why there is none.
-/

namespace EvoomGuard.Evidence.DiffCoverage

open Lib Lib.Difflib Verifiers

/-- What the collector raises. -/
inductive CoverageError where
  | undecodable
  | indexError
  | tokenizer
  | typeError
  | containerFull
  | tooLarge
  deriving DecidableEq

/-! Source lines -/

structure Position where
  line : Nat
  column : Nat
  deriving DecidableEq

/-- The order of the pairs. -/
def Position.atMost (first second : Position) : Bool :=
  first.line < second.line || first.line = second.line && first.column ≤ second.column

inductive TokenKind where
  | comment
  | dedent
  | endmarker
  | indent
  | newline
  | nl
  | op
  | other
  deriving DecidableEq

structure Token where
  kind : TokenKind
  text : Text
  start : Position
  stop : Position

inductive Tokens where
  | complete (tokens : List Token)
  | unfinished
  | raised

/-- What `ast` and `tokenize` make of a source: the docstrings of the bodies, with columns in
bytes, and the tokens. Their rows may be any numbers: a lone carriage return ends a line for `ast`
and none for `tokenize`. -/
structure PythonReader where
  docstrings : Text → List (Position × Position)
  tokens : Text → Tokens

/-- How many characters of a line end within its first bytes. -/
def characterColumn : Text → Nat → Nat
  | [], _ => 0
  | character :: rest, bytes =>
    if character.utf8Size ≤ bytes then characterColumn rest (bytes - character.utf8Size) + 1
    else 0

def characterPosition (sourceLines : List Text) (position : Position) :
    Except CoverageError Position :=
  match sourceLines[position.line - 1]? with
  | none => .error .indexError
  | some line => .ok ⟨position.line, characterColumn line position.column⟩

def docstringSpans (sourceLines : List Text) :
    List (Position × Position) → Except CoverageError (List (Position × Position))
  | [] => .ok []
  | (first, last) :: rest =>
    match characterPosition sourceLines first, characterPosition sourceLines last with
    | .ok start, .ok stop =>
      match docstringSpans sourceLines rest with
      | .error problem => .error problem
      | .ok spans => .ok ((start, stop) :: spans)
    | _, _ => .error .indexError

def isCodeToken (spans : List (Position × Position)) (token : Token) : Bool :=
  !([.comment, .dedent, .endmarker, .indent, .newline, .nl] : List TokenKind).contains token.kind &&
    !(token.kind = .op && token.text = [';']) &&
    !spans.any fun span => span.1.atMost token.start && token.stop.atMost span.2

/-- `range(first, last + 1)`. -/
def linesBetween (first last : Nat) : List Nat := List.range' first (last + 1 - first)

def sourceCodeLines (reader : PythonReader) (source : Text) : Except CoverageError (List Nat) :=
  let sourceLines := Text.splitlines source
  match docstringSpans sourceLines (reader.docstrings source) with
  | .error problem => .error problem
  | .ok spans =>
    match reader.tokens source with
    | .raised => .error .tokenizer
    | .unfinished => .ok (linesBetween 1 sourceLines.length)
    | .complete tokens =>
      .ok ((tokens.filter (isCodeToken spans)).flatMap fun token =>
        linesBetween token.start.line token.stop.line)

/-! Classification -/

/-- `set(value)` of a decoded value. -/
def setOf : Json → Except CoverageError (List Json)
  | .array items =>
    if items.any fun item => item matches .array _ | .object _ then .error .typeError
    else .ok items
  | .string letters => .ok (letters.map fun letter => .string [letter])
  | .object fields => .ok (fields.map fun field => .string field.1)
  | _ => .error .typeError

/-- Equality with an integer, which a boolean or a float can have. -/
def equalsLine (line : Nat) : Json → Bool
  | .bool value => decide ((if value then 1 else 0) = line)
  | .int value => decide (value = line)
  | .float value => decide (value = line)
  | _ => false

/-- The most a list or a dictionary holds, `sys.maxsize`; adding to it then raises. -/
def maxsize : Nat := 2 ^ 63 - 1

def held {Item : Type} (items : List Item) : Except CoverageError (List Item) :=
  if items.length ≤ maxsize then .ok items else .error .containerFull

structure Classified where
  executed : List Nat
  missed : List Nat
  sourceExclusionSeen : Bool

def classifyLines (excludedKnown executedKnown : List Json) : List Nat → Classified
  | [] => ⟨[], [], false⟩
  | line :: rest =>
    let later := classifyLines excludedKnown executedKnown rest
    if excludedKnown.any (equalsLine line) then
      ⟨later.executed, line :: later.missed, true⟩
    else if executedKnown.any (equalsLine line) then
      { later with executed := line :: later.executed }
    else { later with missed := line :: later.missed }

def sortedNumbers (lines : List Nat) : List Nat := lines.dedup.insertionSort (· ≤ ·)

/-- The lines that count as code, all that were touched where the source is not known. -/
def codeLinesOf (reader : PythonReader) (source : Option Text) (touched : List Nat) :
    Except CoverageError (List Nat) :=
  match source with
  | none => .ok touched
  | some source => sourceCodeLines reader source

def classifyTouchedLines (reader : PythonReader) (source : Option Text) (touched : List Nat)
    (entry : List (Text × Json)) : Except CoverageError Classified :=
  match setOf ((Json.field? entry "executed_lines").getD (.array [])),
      setOf ((Json.field? entry "excluded_lines").getD (.array [])) with
  | .ok executedKnown, .ok excludedKnown =>
    match codeLinesOf reader source touched with
    | .error problem => .error problem
    | .ok codeLines =>
      let classified := classifyLines excludedKnown executedKnown
        (sortedNumbers (touched.filter codeLines.contains))
      match held classified.executed, held classified.missed with
      | .ok _, .ok _ => .ok classified
      | _, _ => .error .containerFull
  | _, _ => .error .typeError

/-! Changed lines -/

def opcodeLines (code : Opcode) : List Nat :=
  if code.tag = .replace ∨ code.tag = .insert then linesBetween (code.j1 + 1) code.j2 else []

def touchedLines (old new : List Text) : List Nat := (unfilteredOpcodes old new).flatMap opcodeLines

section Collector

/-- What the collector reads beside the candidate. -/
structure CoverageHost where
  mapping : CaseMapping
  opened : Text → Except OpenError Text
  reader : PythonReader
  isabs : Text → Bool
  relpath : Text → Option Text
  /-- The files of the report, or the note that says why there is none. -/
  report : Except {note : Text // note ≠ []} (List (Text × Json))

variable (host : CoverageHost)

def oldLines (path : Text) : Except CoverageError (List Text) :=
  match host.opened path with
  | .ok text => .ok (Text.splitlines text)
  | .error .osError => .ok []
  | .error .undecodable => .error .undecodable

def changedLines : List (Text × Option Text) → Except CoverageError (List (Text × List Nat))
  | [] => .ok []
  | (_, none) :: rest => changedLines rest
  | (path, some new) :: rest =>
    if isSafeRelpath host.mapping path then
      match oldLines host path with
      | .error problem => .error problem
      | .ok old =>
        match changedLines rest with
        | .error problem => .error problem
        | .ok out =>
          let touched := touchedLines old (Text.splitlines new)
          .ok (if touched = [] then out else (path, touched) :: out)
    else changedLines rest

def contentMap (candidate : Text) (fileBlocks : Option (Dict Text Text)) :
    Except CoverageError Contents :=
  match fileBlocks with
  | some blocks => .ok (givenContents blocks)
  | none =>
    match newContentMap host.opened candidate with
    | .ok contents => .ok contents
    | .error _ => .error .undecodable

def normalizeCoverageReportPath (measuredPath : Text) : Option Text :=
  match (if host.isabs measuredPath then host.relpath measuredPath else some measuredPath) with
  | none => none
  | some relative =>
    let normalized := relative.map fun character => if character = '\\' then '/' else character
    if isSafeRelpath host.mapping normalized then some normalized else none

/-- The entry the report has for a path; of several the last. -/
def reportedEntry (report : List (Text × Json)) (path : Text) : Option (List (Text × Json)) :=
  (report.filterMap fun item =>
    match item.2 with
    | .object entry =>
      if normalizeCoverageReportPath host item.1 = some path then some entry else none
    | _ => none).getLast?

def executedIsNotAsserted : Text :=
  "executed is not asserted, and same-process coverage data is " ++
    "candidate-writable: candidate code can stop or mutate the collector. " ++
    "This is a quality/scrutiny signal for non-hostile code, not adversarial " ++
    "integrity evidence or proof of correctness"

def isPython (path : Text) : Bool := Text.endsWith path ".py"

/-- The number of the executed lines, of all of them, and the detail that is recorded. -/
structure FileCoverage where
  path : Text
  classified : Classified
  note : Option String

def measureFile (contents : Contents) (report : List (Text × Json)) (path : Text)
    (touched : List Nat) : Except CoverageError FileCoverage :=
  let source := (contents.entries.lookup path).join
  match reportedEntry host report path with
  | none =>
    match classifyTouchedLines host.reader source touched [] with
    | .error problem => .error problem
    | .ok classified => .ok ⟨path, classified,
        some "file never imported by the suite (executable changed lines shown)"⟩
  | some entry =>
    match classifyTouchedLines host.reader source touched entry with
    | .error problem => .error problem
    | .ok classified => .ok ⟨path, classified,
        if classified.sourceExclusionSeen then
          some "changed statements excluded by source pragmas are counted as missed"
        else none⟩

def measureFiles (contents : Contents) (report : List (Text × Json)) :
    List (Text × List Nat) → Except CoverageError (List FileCoverage)
  | [] => .ok []
  | (path, touched) :: rest =>
    match measureFile host contents report path touched with
    | .error problem => .error problem
    | .ok file =>
      match measureFiles contents report rest with
      | .error problem => .error problem
      | .ok files => .ok (file :: files)

def linesJson (lines : List Nat) : Json := .array (lines.map fun line : Nat => Json.int line)

def noteField : Option String → List (Text × Json)
  | none => []
  | some note => [("note", .string note.toList)]

def FileCoverage.detail (file : FileCoverage) : Json :=
  .object ([("executed".toList, linesJson file.classified.executed),
    ("missed", linesJson file.classified.missed)] ++ noteField file.note)

def executedTotal (files : List FileCoverage) : Nat :=
  (files.map fun file => file.classified.executed.length).sum

def measurableTotal (files : List FileCoverage) : Nat :=
  (files.map fun file => file.classified.executed.length + file.classified.missed.length).sum

/-- The percentage, to one decimal. No quotient of two counts is infinite. -/
def measuredPercent (executed measurable : Nat) : Except CoverageError Rat :=
  if measurable = 0 then .ok 100
  else
    match Binary64.ratioPercent executed measurable with
    | .ok (some percent) => .ok percent
    | _ => .error .tooLarge

def unmeasured (note : Text) (nonPython : List Text) : List (Text × Json) :=
  [("measured", .bool false), ("note", .string note),
    ("unmeasured_files", .array (nonPython.map .string)),
    ("caveat", .string executedIsNotAsserted)]

def measured (percent : Rat) (files : List FileCoverage) (nonPython : List Text) :
    List (Text × Json) :=
  [("measured", .bool true), ("percent", .float percent),
    ("executed", .int (executedTotal files)),
    ("total", .int (measurableTotal files)),
    ("files", .object (files.map fun file => (file.path, file.detail))),
    ("unmeasured_files", .array (nonPython.map .string)),
    ("caveat", .string executedIsNotAsserted)]

def collectDiffCoverage (candidate : Text) (fileBlocks : Option (Dict Text Text)) :
    Except CoverageError (List (Text × Json)) :=
  match contentMap host candidate fileBlocks with
  | .error problem => .error problem
  | .ok contents =>
    match changedLines host contents.entries with
    | .error problem => .error problem
    | .ok changed =>
      let linesMap := changed.filter fun item => isPython item.1
      let nonPython := Text.sorted ((changed.map Prod.fst).filter fun path => !isPython path)
      if linesMap = [] then .ok (unmeasured "no changed Python lines to measure" nonPython)
      else
        match host.report with
        | .error note => .ok (unmeasured note nonPython)
        | .ok report =>
          match measureFiles host contents report (sortOn Text.le Prod.fst linesMap) with
          | .error problem => .error problem
          | .ok files =>
            match held files with
            | .error problem => .error problem
            | .ok _ =>
              match measuredPercent (executedTotal files) (measurableTotal files) with
              | .error problem => .error problem
              | .ok percent => .ok (measured percent files nonPython)

end Collector

/-! What is recorded of a file -/

section

open RecordVerifier RecordVerifier.CoverageTypes

structure LineNumbers (lines : List Nat) : Prop where
  ascending : lines.Pairwise (· < ·)
  positive : ∀ line ∈ lines, 0 < line

theorem LineNumbers.sublist {lines fewer : List Nat} (numbers : LineNumbers lines)
    (part : fewer.Sublist lines) : LineNumbers fewer where
  ascending := numbers.ascending.sublist part
  positive := fun line member => numbers.positive line (part.subset member)

theorem sorted_numbers (lines : List Nat) (positive : ∀ line ∈ lines, 0 < line) :
    LineNumbers (sortedNumbers lines) where
  ascending := by
    have distinct := (List.perm_insertionSort (· ≤ ·) lines.dedup).nodup_iff.2 lines.nodup_dedup
    have sorted := List.pairwise_insertionSort (· ≤ ·) lines.dedup
    exact (sorted.and distinct).imp fun pair => lt_of_le_of_ne pair.1 pair.2
  positive := by
    intro line member
    rw [sortedNumbers, List.mem_insertionSort, List.mem_dedup] at member
    exact positive line member

theorem classify_lines_sublist (excluded executed : List Json) (lines : List Nat) :
    (classifyLines excluded executed lines).executed.Sublist lines ∧
      (classifyLines excluded executed lines).missed.Sublist lines := by
  induction lines with
  | nil => exact ⟨List.Sublist.refl _, List.Sublist.refl _⟩
  | cons line rest ih =>
    obtain ⟨executes, misses⟩ := ih
    rw [classifyLines]
    split_ifs
    · exact ⟨executes.cons _, misses.cons_cons _⟩
    · exact ⟨executes.cons_cons _, misses.cons _⟩
    · exact ⟨executes.cons _, misses.cons_cons _⟩

theorem mem_classify_lines {excluded executed : List Json} {lines : List Nat} {line : Nat} :
    (line ∈ (classifyLines excluded executed lines).executed →
      (!excluded.any (equalsLine line) && executed.any (equalsLine line)) = true) ∧
    (line ∈ (classifyLines excluded executed lines).missed →
      (!excluded.any (equalsLine line) && executed.any (equalsLine line)) = false) := by
  induction lines with
  | nil => exact ⟨(nomatch ·), (nomatch ·)⟩
  | cons first rest ih =>
    rw [classifyLines]
    split_ifs with out known
    · refine ⟨ih.1, fun member => ?_⟩
      rcases List.mem_cons.1 member with rfl | later
      · rw [out]
        rfl
      · exact ih.2 later
    · refine ⟨fun member => ?_, ih.2⟩
      rcases List.mem_cons.1 member with rfl | later
      · rw [known, eq_false_of_ne_true out]
        rfl
      · exact ih.1 later
    · refine ⟨ih.1, fun member => ?_⟩
      rcases List.mem_cons.1 member with rfl | later
      · rw [eq_false_of_ne_true known, Bool.and_false]
      · exact ih.2 later

/-- What classification yields, whatever the report says. -/
structure Classified.Sound (classified : Classified) : Prop where
  executed : LineNumbers classified.executed
  missed : LineNumbers classified.missed
  apart : ∀ line ∈ classified.executed, line ∉ classified.missed
  executedHeld : classified.executed.length ≤ maxsize
  missedHeld : classified.missed.length ≤ maxsize

theorem classify_touched_lines_sound {reader : PythonReader} {source : Option Text}
    {touched : List Nat} {entry : List (Text × Json)} {classified : Classified}
    (positive : ∀ line ∈ touched, 0 < line)
    (found : classifyTouchedLines reader source touched entry = .ok classified) :
    classified.Sound := by
  unfold classifyTouchedLines at found
  split at found
  next executed excluded _ _ =>
    split at found
    next => cases found
    next codeLines _ =>
      dsimp only at found
      split at found
      next first second executedHeld missedHeld =>
        cases found
        have numbers := sorted_numbers (touched.filter codeLines.contains) fun line member =>
          positive line (List.mem_of_mem_filter member)
        obtain ⟨executes, misses⟩ := classify_lines_sublist excluded executed
          (sortedNumbers (touched.filter codeLines.contains))
        refine ⟨numbers.sublist executes, numbers.sublist misses, ?_, ?_, ?_⟩
        · intro line inside other
          have left := mem_classify_lines.1 inside
          rw [mem_classify_lines.2 other] at left
          cases left
        · by_contra beyond
          rw [held, if_neg beyond] at executedHeld
          cases executedHeld
        · by_contra beyond
          rw [held, if_neg beyond] at missedHeld
          cases missedHeld
      next => cases found
  next => cases found

theorem touched_lines_positive (old new : List Text) : ∀ line ∈ touchedLines old new, 0 < line := by
  intro line member
  obtain ⟨code, -, inside⟩ := List.mem_flatMap.1 member
  rw [opcodeLines] at inside
  split_ifs at inside
  · have first := (List.mem_range'_1.1 inside).1
    omega
  · cases inside

theorem measure_file_sound {host : CoverageHost} {contents : Contents}
    {report : List (Text × Json)} {path : Text} {touched : List Nat} {file : FileCoverage}
    (positive : ∀ line ∈ touched, 0 < line)
    (measured : measureFile host contents report path touched = .ok file) :
    file.path = path ∧ file.classified.Sound ∧ ∀ note ∈ file.note, note.toList ≠ [] := by
  unfold measureFile at measured
  dsimp only at measured
  split at measured
  next =>
    split at measured
    next => cases measured
    next classified found =>
      cases measured
      refine ⟨rfl, classify_touched_lines_sound positive found, ?_⟩
      intro note given
      cases given
      simp
  next entry _ =>
    split at measured
    next => cases measured
    next classified found =>
      cases measured
      refine ⟨rfl, classify_touched_lines_sound positive found, ?_⟩
      intro note given
      dsimp only at given
      split_ifs at given
      · cases given
        simp
      · cases given

theorem measure_files_sound {host : CoverageHost} {contents : Contents}
    {report : List (Text × Json)} {lines : List (Text × List Nat)} {files : List FileCoverage}
    (positive : ∀ item ∈ lines, ∀ line ∈ item.2, 0 < line)
    (measured : measureFiles host contents report lines = .ok files) :
    files.map FileCoverage.path = lines.map Prod.fst ∧ ∀ file ∈ files,
      file.classified.Sound ∧ ∀ note ∈ file.note, note.toList ≠ [] := by
  induction lines generalizing files with
  | nil =>
    cases measured
    exact ⟨rfl, List.forall_mem_nil _⟩
  | cons item rest ih =>
    obtain ⟨path, touched⟩ := item
    rw [measureFiles] at measured
    split at measured
    next => cases measured
    next first found =>
      split at measured
      next => cases measured
      next others later =>
        cases measured
        obtain ⟨named, sound⟩ := measure_file_sound (positive _ List.mem_cons_self) found
        obtain ⟨names, each⟩ := ih (fun item member => positive item
          (List.mem_cons_of_mem _ member)) later
        refine ⟨?_, List.forall_mem_cons.2 ⟨sound, each⟩⟩
        rw [List.map_cons, List.map_cons, named, names]

/-! The checks on a file -/

theorem sorted_lines_ascending {lines : List Nat} (ascending : lines.Pairwise (· < ·)) :
    sortedLines (lines.map Int.ofNat) = lines.map Int.ofNat := by
  have ordered : (lines.map Int.ofNat).Pairwise (· < ·) := by
    rw [List.pairwise_map]
    exact ascending.imp fun below => Int.ofNat_lt.2 below
  rw [sortedLines, List.dedup_eq_self.2 (ordered.imp fun below => below.ne)]
  exact (ordered.imp fun below => below.le).insertionSort_eq

theorem positive_lines_json {lines : List Nat} (numbers : LineNumbers lines) :
    positiveLines? (some (linesJson lines)) = some (lines.map Int.ofNat) := by
  have read : (lines.map fun line : Nat => Json.int line).mapM (asInt? ∘ some) =
      some (lines.map Int.ofNat) := by
    induction lines with
    | nil => rfl
    | cons line rest ih =>
      rw [List.map_cons, List.mapM_cons, ih (numbers.sublist (List.sublist_cons_self _ _))]
      rfl
  have above : ((lines.map Int.ofNat).all fun line => decide (0 < line)) = true := by
    rw [List.all_eq_true]
    intro line member
    obtain ⟨number, inside, rfl⟩ := List.mem_map.1 member
    exact decide_eq_true (Int.natCast_pos.2 (numbers.positive number inside))
  rw [linesJson, positiveLines?, read]
  exact if_pos ⟨above, (sorted_lines_ascending numbers.ascending).symm⟩

theorem detail_fields (executed missed : Json) (rest : List (Text × Json)) :
    Json.field? ([("executed".toList, executed), ("missed".toList, missed)] ++ rest)
        "executed" = some executed ∧
      Json.field? ([("executed".toList, executed), ("missed".toList, missed)] ++ rest)
        "missed" = some missed ∧
      Json.field? ([("executed".toList, executed), ("missed".toList, missed)] ++ rest)
        "note" = Json.field? rest "note" := by
  constructor
  · rfl
  constructor
  · rfl
  · rfl

theorem apart_in_json {classified : Classified} (sound : classified.Sound) :
    ((classified.executed.map Int.ofNat).all fun line =>
      !(classified.missed.map Int.ofNat).contains line) = true := by
  rw [List.all_eq_true]
  intro line member
  obtain ⟨number, inside, rfl⟩ := List.mem_map.1 member
  rw [Bool.not_eq_true', List.contains_eq_mem, decide_eq_false_iff_not]
  intro other
  obtain ⟨same, outside, equal⟩ := List.mem_map.1 other
  cases Int.ofNat.inj equal
  exact sound.apart _ inside outside

theorem detail_projection {shown : Shown} {file : FileCoverage}
    (safe : coveragePath file.path true = true) (sound : file.classified.Sound)
    (noted : ∀ note ∈ file.note, note.toList ≠ []) :
    fileDetailProjection shown file.path file.detail =
      ([], file.classified.executed.length,
        file.classified.executed.length + file.classified.missed.length) := by
  have executed := positive_lines_json sound.executed
  have missed := positive_lines_json sound.missed
  have apart := apart_in_json sound
  obtain ⟨ofExecuted, ofMissed, ofNote⟩ := detail_fields (linesJson file.classified.executed)
    (linesJson file.classified.missed) (noteField file.note)
  rw [FileCoverage.detail, fileDetailProjection, safe, if_neg (by simp)]
  dsimp only
  rw [ofExecuted, ofMissed, ofNote, executed, missed]
  dsimp only
  rw [apart, List.length_map, List.length_map]
  cases given : file.note with
  | none => rfl
  | some note =>
    have some : (!note.toList.isEmpty) = true := by simpa using noted note given
    have present : nonEmptyString (Json.field?
        [("note", Json.string note.toList)] "note") = true := some
    rw [noteField, present, Bool.or_true]
    rfl

/-! The checks on the whole -/

theorem coverage_path_of_safe {mapping : CaseMapping} {path : Text}
    (safe : isSafeRelpath mapping path = true) :
    coveragePath path (isPython path) = true := by
  rw [isSafeRelpath, Domain.Harness.isPortableRepoPath] at safe
  split_ifs at safe with absolute
  rw [List.all_eq_true] at safe
  have plain : ¬ (path.isEmpty || path.contains '\\' || Text.startsWith path ['/']) = true := by
    intro refused
    apply absolute
    rw [Bool.or_eq_true] at refused ⊢
    exact refused.imp_right fun rooted => by rw [Domain.Harness.isAbsolute, rooted, Bool.true_or]
  have undotted : ¬ ((Text.split '/' path).any Domain.Harness.isDotSegment) = true := by
    rw [List.any_eq_true]
    rintro ⟨part, member, dots⟩
    have passed := (Bool.and_eq_true_iff.1 (safe part member)).1
    rw [dots] at passed
    cases passed
  rw [coveragePath, if_neg plain, if_neg undotted]
  cases python : isPython path with
  | true => exact python
  | false =>
    rw [if_neg Bool.false_ne_true, Bool.not_eq_true']
    exact python

theorem file_projection {shown : Shown} {files : List FileCoverage}
    (safe : ∀ file ∈ files, coveragePath file.path true = true)
    (sound : ∀ file ∈ files, file.classified.Sound ∧ ∀ note ∈ file.note, note.toList ≠ []) :
    measuredFileProjection shown
        (some (.object (files.map fun file => (file.path, file.detail)))) =
      ([], executedTotal files, measurableTotal files) := by
  have each : ∀ file ∈ files, fileDetailProjection shown file.path file.detail =
      ([], file.classified.executed.length,
        file.classified.executed.length + file.classified.missed.length) :=
    fun file member => detail_projection (safe file member) (sound file member).1
      (sound file member).2
  have projected : (files.map fun file => (file.path, file.detail)).map
        (fun file => fileDetailProjection shown file.1 file.2) =
      files.map fun file => ([], file.classified.executed.length,
        file.classified.executed.length + file.classified.missed.length) := by
    rw [List.map_map]
    exact List.map_congr_left each
  rw [measuredFileProjection, projected, List.map_map, List.map_map, executedTotal, measurableTotal]
  refine Prod.ext ?_ rfl
  rw [List.flatMap_eq_nil_iff]
  intro part member
  obtain ⟨file, -, rfl⟩ := List.mem_map.1 member
  rfl

theorem string_list_json (paths : List Text) :
    stringList? (some (.array (paths.map .string))) = some paths := by
  rw [stringList?]
  induction paths with
  | nil => rfl
  | cons path rest ih =>
    rw [List.map_cons, List.mapM_cons, ih]
    rfl

theorem changed_lines_paths {host : CoverageHost} {entries : List (Text × Option Text)}
    {changed : List (Text × List Nat)} (found : changedLines host entries = .ok changed) :
    (changed.map Prod.fst).Sublist (entries.map Prod.fst) ∧ ∀ item ∈ changed,
      isSafeRelpath host.mapping item.1 = true ∧ ∀ line ∈ item.2, 0 < line := by
  induction entries generalizing changed with
  | nil =>
    cases found
    exact ⟨List.Sublist.refl _, List.forall_mem_nil _⟩
  | cons entry rest ih =>
    obtain ⟨path, content⟩ := entry
    cases content with
    | none =>
      obtain ⟨part, each⟩ := ih found
      exact ⟨part.cons _, each⟩
    | some new =>
      rw [changedLines] at found
      split_ifs at found with safe
      · split at found
        next => cases found
        next old _ =>
          split at found
          next => cases found
          next out later =>
            obtain ⟨part, each⟩ := ih later
            dsimp only at found
            split_ifs at found
            · cases found
              exact ⟨part.cons _, each⟩
            · cases found
              refine ⟨part.cons_cons _, List.forall_mem_cons.2 ⟨⟨safe, ?_⟩, each⟩⟩
              exact touched_lines_positive old (Text.splitlines new)
      · obtain ⟨part, each⟩ := ih found
        exact ⟨part.cons _, each⟩

theorem held_length {Item : Type} {items kept : List Item} (fits : held items = .ok kept) :
    items.length ≤ maxsize := by
  by_contra beyond
  rw [held, if_neg beyond] at fits
  cases fits

theorem executed_le_measurable (files : List FileCoverage) :
    executedTotal files ≤ measurableTotal files := by
  apply List.sum_le_sum
  intro file _
  exact Nat.le_add_right _ _

theorem measurable_total_le {files : List FileCoverage} (few : files.length ≤ maxsize)
    (sound : ∀ file ∈ files, file.classified.Sound) : measurableTotal files ≤ 2 ^ 127 := by
  have bounded : measurableTotal files ≤ (files.map fun _ => maxsize + maxsize).sum := by
    apply List.sum_le_sum
    intro file member
    exact Nat.add_le_add (sound file member).executedHeld (sound file member).missedHeld
  rw [List.map_const', List.sum_replicate, nsmul_eq_mul, Nat.cast_id] at bounded
  have product := Nat.mul_le_mul_right (maxsize + maxsize) few
  have room : maxsize * (maxsize + maxsize) ≤ 2 ^ 127 := by norm_num [maxsize]
  omega

theorem measured_percent_agrees {executed measurable : Nat} (part : executed ≤ measurable)
    (sized : measurable ≤ 2 ^ 127) :
    ∃ percent, measuredPercent executed measurable = .ok percent ∧ 0 ≤ percent ∧
      percent ≤ 100 ∧ calculatedPercent executed measurable = .ok (some percent) := by
  by_cases none : measurable = 0
  · refine ⟨100, by rw [measuredPercent, if_pos none], by norm_num, by norm_num, ?_⟩
    rw [calculatedPercent, if_pos (by exact_mod_cast none)]
  · obtain ⟨percent, computed, low, high⟩ :=
      Binary64.ratio_percent_bounded (Nat.pos_of_ne_zero none) part sized
    refine ⟨percent, by rw [measuredPercent, if_neg none, computed], low, high, ?_⟩
    rw [calculatedPercent, if_neg (by exact_mod_cast none), computed]

theorem sorted_paths_set {paths : List Text} (distinct : paths.Nodup) :
    Text.sorted paths = Text.sortedSet (Text.sorted paths) := by
  have sorted := (Text.sorted_perm paths).nodup_iff.2 distinct
  have again := (Text.sorted_set_eq_iff paths (Text.sorted paths)).2
    fun text => Text.mem_sorted.symm
  rw [← again, Text.sortedSet, List.dedup_eq_self.2 distinct]

theorem caveat_given : (!executedIsNotAsserted.isEmpty) = true := by
  have some : "integrity evidence or proof of correctness".toList ≠ [] := by simp
  rw [Bool.not_eq_true', List.isEmpty_eq_false_iff]
  exact List.append_ne_nil_of_right_ne_nil _ some

theorem path_and_caveat_accepted {mapping : CaseMapping} {changed : List (Text × List Nat)}
    (distinct : (changed.map Prod.fst).Nodup)
    (safe : ∀ item ∈ changed, isSafeRelpath mapping item.1 = true) (percent : Rat)
    (files : List FileCoverage) :
    measuredPathAndCaveatErrors (measured percent files
      (Text.sorted ((changed.map Prod.fst).filter fun path => !isPython path))) = [] := by
  generalize same : (changed.map Prod.fst).filter (fun path => !isPython path) = paths
  have once : paths.Nodup := same ▸ distinct.filter _
  have each : ((Text.sorted paths).all fun path => coveragePath path false) = true := by
    rw [List.all_eq_true]
    intro path member
    rw [Text.mem_sorted, ← same, List.mem_filter, Bool.not_eq_true'] at member
    obtain ⟨item, inside, rfl⟩ := List.mem_map.1 member.1
    rw [← member.2]
    exact coverage_path_of_safe (safe item inside)
  have listed : Json.field? (measured percent files (Text.sorted paths))
      "unmeasured_files" = some (.array ((Text.sorted paths).map .string)) := rfl
  have caveat : nonEmptyString (Json.field? (measured percent files (Text.sorted paths))
      "caveat") = !executedIsNotAsserted.isEmpty := rfl
  rw [measuredPathAndCaveatErrors, listed, string_list_json, caveat, caveat_given,
    Option.any_some, each, Bool.and_true, decide_eq_true (sorted_paths_set once)]
  rfl

theorem measured_accepted {shown : Shown} {percent : Rat} {files : List FileCoverage}
    {nonPython : List Text} (low : 0 ≤ percent) (high : percent ≤ 100)
    (calculated : calculatedPercent (executedTotal files) (measurableTotal files) =
      .ok (some percent))
    (projected : measuredFileProjection shown
        (some (.object (files.map fun file => (file.path, file.detail)))) =
      ([], executedTotal files, measurableTotal files))
    (paths : measuredPathAndCaveatErrors (measured percent files nonPython) = []) :
    projectDiffCoverageTypeErrors shown (measured percent files nonPython) = .ok [] := by
  have ofPercent : asNumber? (Json.field? (measured percent files nonPython) "percent") =
      some percent := rfl
  have ofExecuted : asInt? (Json.field? (measured percent files nonPython) "executed") =
      some (executedTotal files : Int) := rfl
  have ofTotal : asInt? (Json.field? (measured percent files nonPython) "total") =
      some (measurableTotal files : Int) := rfl
  have ofFiles : Json.field? (measured percent files nonPython) "files" =
      some (.object (files.map fun file => (file.path, file.detail))) := rfl
  have keys : sameKeys (measured percent files nonPython) measuredCoverageKeys = true := rfl
  have isMeasured : Json.field? (measured percent files nonPython) "measured" =
      some (.bool true) := rfl
  have part := executed_le_measurable files
  have scalars : measuredScalarErrors (measured percent files nonPython) = [] := by
    rw [measuredScalarErrors, ofPercent, ofExecuted, ofTotal]
    simp [check, low, high, part]
  have consistent : measuredConsistencyErrors shown (measured percent files nonPython)
      (executedTotal files) (measurableTotal files) = .ok [] := by
    rw [measuredConsistencyErrors, ofPercent, ofExecuted, ofTotal]
    simp [calculated, check]
  rw [projectDiffCoverageTypeErrors, isMeasured]
  dsimp only
  rw [measuredErrors, ofFiles, projected]
  dsimp only
  rw [consistent, keys, scalars, paths]
  rfl

theorem unmeasured_accepted {shown : Shown} {note : Text} {paths : List Text}
    (noted : note ≠ []) (sorted : paths = Text.sortedSet paths)
    (named : ∀ path ∈ paths, path ≠ []) :
    projectDiffCoverageTypeErrors shown (unmeasured note paths) = .ok [] := by
  have isMeasured : Json.field? (unmeasured note paths) "measured" =
      some (.bool false) := rfl
  have ofNote : nonEmptyString (Json.field? (unmeasured note paths) "note") =
      !note.isEmpty := rfl
  have listed : Json.field? (unmeasured note paths) "unmeasured_files" =
      some (.array (paths.map .string)) := rfl
  have caveat : nonEmptyString (Json.field? (unmeasured note paths) "caveat") =
      !executedIsNotAsserted.isEmpty := rfl
  have keys : sameKeys (unmeasured note paths) unmeasuredCoverageDetailKeys = true := rfl
  have each : (paths.all fun path => !path.isEmpty) = true := by
    rw [List.all_eq_true]
    intro path member
    simpa using named path member
  have some : (!note.isEmpty) = true := by simpa using noted
  rw [projectDiffCoverageTypeErrors, isMeasured]
  dsimp only
  rw [unmeasuredErrors, keys, ofNote, some, if_pos rfl, caveat, caveat_given, listed,
    string_list_json, Option.any_some, each, Bool.and_true, decide_eq_true sorted, Bool.or_true]
  rfl

theorem safe_path_named {mapping : CaseMapping} {path : Text}
    (safe : isSafeRelpath mapping path = true) : path ≠ [] := by
  rintro rfl
  cases safe

theorem report_accepted {shown : Shown} {host : CoverageHost} {contents : Contents}
    {report : List (Text × Json)} {changed : List (Text × List Nat)}
    (distinct : (changed.map Prod.fst).Nodup)
    (each : ∀ item ∈ changed, isSafeRelpath host.mapping item.1 = true ∧ ∀ line ∈ item.2, 0 < line)
    {files : List FileCoverage}
    (found : measureFiles host contents report
      (sortOn Text.le Prod.fst (changed.filter fun item => isPython item.1)) = .ok files)
    (few : files.length ≤ maxsize) :
    ∃ percent, measuredPercent (executedTotal files) (measurableTotal files) = .ok percent ∧
      projectDiffCoverageTypeErrors shown (measured percent files
        (Text.sorted ((changed.map Prod.fst).filter fun path => !isPython path))) = .ok [] := by
  have chosen (item : Text × List Nat)
      (member : item ∈ sortOn Text.le Prod.fst (changed.filter fun item => isPython item.1)) :
      item ∈ changed ∧ isPython item.1 = true :=
    List.mem_filter.1 ((sort_on_perm Text.le Prod.fst _).subset member)
  obtain ⟨named, sound⟩ := measure_files_sound
    (fun item member => (each item (chosen item member).1).2) found
  have safe (file : FileCoverage) (member : file ∈ files) :
      coveragePath file.path true = true := by
    have inside : file.path ∈ files.map FileCoverage.path := List.mem_map_of_mem member
    rw [named] at inside
    obtain ⟨item, listed, same⟩ := List.mem_map.1 inside
    obtain ⟨original, python⟩ := chosen item listed
    have accepted := coverage_path_of_safe (each item original).1
    rwa [python, same] at accepted
  have sized := measurable_total_le few fun file member => (sound file member).1
  obtain ⟨percent, computed, low, high, calculated⟩ :=
    measured_percent_agrees (executed_le_measurable files) sized
  refine ⟨percent, computed, measured_accepted low high calculated
    (file_projection safe sound) ?_⟩
  exact path_and_caveat_accepted distinct (fun item member => (each item member).1) percent files

/-- Whatever the collector returns, measured or not, has no error. -/
theorem collected_coverage_accepted (shown : Shown) (host : CoverageHost) (candidate : Text)
    (fileBlocks : Option (Dict Text Text)) :
    match collectDiffCoverage host candidate fileBlocks with
    | .ok coverage => projectDiffCoverageTypeErrors shown coverage = .ok []
    | .error _ => True := by
  unfold collectDiffCoverage
  cases contentMap host candidate fileBlocks with
  | error problem => exact trivial
  | ok contents =>
    dsimp only
    cases found : changedLines host contents.entries with
    | error problem => exact trivial
    | ok changed =>
      dsimp only
      obtain ⟨part, each⟩ := changed_lines_paths found
      have distinct := contents.nodup.sublist part
      have sorted := sorted_paths_set (distinct.filter fun path => !isPython path)
      have named (path : Text) (member : path ∈
          Text.sorted ((changed.map Prod.fst).filter fun path => !isPython path)) :
          path ≠ [] := by
        rw [Text.mem_sorted] at member
        obtain ⟨item, inside, rfl⟩ := List.mem_map.1 (List.mem_of_mem_filter member)
        exact safe_path_named (each item inside).1
      split_ifs
      · exact unmeasured_accepted (by simp) sorted named
      · cases host.report with
        | error note => exact unmeasured_accepted note.2 sorted named
        | ok report =>
          dsimp only
          cases measured : measureFiles host contents report
              (sortOn Text.le Prod.fst (changed.filter fun item => isPython item.1)) with
          | error problem => exact trivial
          | ok files =>
            dsimp only
            cases fits : held files with
            | error problem => exact trivial
            | ok kept =>
              obtain ⟨percent, computed, accepted⟩ :=
                report_accepted distinct each measured (held_length fits)
              dsimp only
              rw [computed]
              exact accepted

/-- Two lines behind an old one, of which the suite ran the first. -/
def changedHost : CoverageHost where
  mapping := asciiCase
  opened path := if path = "app.py".toList then .ok "x\n" else .error .osError
  reader := ⟨fun _ => [], fun source =>
    .complete ((linesBetween 1 (Text.splitlines source).length).map fun line =>
      ⟨.other, "x", ⟨line, 0⟩, ⟨line, 1⟩⟩)⟩
  isabs _ := false
  relpath := some
  report := .ok [("app.py", .object [("executed_lines", .array [.int 1, .int 2])])]

def changedBlocks : Dict Text Text := ⟨[("app.py", "x\ny\nz\n")], by decide⟩

theorem half_measured_accepted :
    ∃ coverage, collectDiffCoverage changedHost [] (some changedBlocks) = .ok coverage ∧
      Json.field? coverage "percent" = some (.float 50) ∧
      ∀ shown : Shown, projectDiffCoverageTypeErrors shown coverage = .ok [] := by
  have half : (collectDiffCoverage changedHost [] (some changedBlocks)).toOption.map
      (Json.field? · "percent") = some (some (.float 50)) := by decide +kernel
  cases ended : collectDiffCoverage changedHost [] (some changedBlocks) with
  | error problem =>
    rw [ended] at half
    cases half
  | ok coverage =>
    rw [ended] at half
    refine ⟨coverage, rfl, Option.some.inj half, fun shown => ?_⟩
    have accepted := collected_coverage_accepted shown changedHost [] (some changedBlocks)
    rwa [ended] at accepted

end

end EvoomGuard.Evidence.DiffCoverage
