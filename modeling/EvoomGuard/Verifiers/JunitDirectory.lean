import EvoomGuard.Lib.Framing
import EvoomGuard.Verifiers.JunitOracle

/-!
`parse_junit_dir_with_digest` of `verifiers/junit_oracle.py` on a directory as the file system
gives it: names that need not be UTF-8, entries that need not be files, and files of any bytes.
-/

namespace EvoomGuard.Verifiers

open Lib Lib.Framing Domain

/-- A letter of a name in a listing: a character, or a byte that is no part of a UTF-8 text and
stands as a surrogate. -/
inductive NameLetter where
  | scalar (character : Char)
  | escaped (byte : UInt8)
  deriving DecidableEq

abbrev NameLetters := List NameLetter

def NameLetter.code : NameLetter → Nat
  | .scalar character => character.toNat
  | .escaped byte => 0xDC00 + byte.toNat

/-- `fn.encode("utf-8")`, as the text that is encoded. -/
def encodable : NameLetters → Option Text
  | [] => some []
  | .scalar character :: rest => (encodable rest).map (character :: ·)
  | .escaped _ :: _ => none

inductive DirectoryContent where
  | regular (data : Bytes)
  /-- a regular file that does not open -/
  | unreadable (size : Nat)
  /-- a symbolic link, a directory, a special file -/
  | irregular
  /-- `os.lstat` raises -/
  | lost

/-- No file system has names of more letters. -/
structure DirectoryEntry where
  name : NameLetters
  content : DirectoryContent
  short : name.length ≤ 255

def DirectoryContent.size : DirectoryContent → Option Nat
  | .regular data => some data.length
  | .unreadable size => some size
  | _ => none

section Directory

variable (parseXml : Text → Option Element) (decode : Bytes → Text)
  (lowerName : NameLetters → NameLetters)

def readTextOrNone : DirectoryContent → Option Text
  | .regular data =>
    if maxReportBytes < data.length then none
    else
      let raw := data.take (maxReportBytes + 1)
      if maxReportBytes < raw.length then none else some (decode raw)
  | _ => none

/-- One turn of the loop for a report: its name is encoded last. -/
def addDirectoryEntry (set : ReportSet) (entry : DirectoryEntry) : Option ReportSet :=
  match addReport parseXml set ⟨(encodable entry.name).getD [], entry.content.size,
      readTextOrNone decode entry.content⟩ with
  | none => none
  | some next => if (encodable entry.name).isSome then some next else none

def isReport (entry : DirectoryEntry) : Bool :=
  (".xml".toList.map NameLetter.scalar).isSuffixOf (lowerName entry.name)

def nameLe (left right : NameLetters) : Bool :=
  lexLe (fun first second => decide (first ≤ second)) (left.map NameLetter.code)
    (right.map NameLetter.code)

def reportsOf (entries : List DirectoryEntry) : List DirectoryEntry :=
  (entries.insertionSort fun left right => nameLe left.name right.name = true).filter
    (isReport lowerName)

def readReports (entries : List DirectoryEntry) : Option ReportSet :=
  (reportsOf lowerName entries).foldlM (addDirectoryEntry parseXml decode) emptyReportSet

/-- `none` stands for a directory that is absent or cannot be listed. -/
def parseDirectoryWithDigest (directory : Option (List DirectoryEntry)) :
    Option (JUnitCounts × Text) :=
  match directory with
  | none => none
  | some entries =>
    match readReports parseXml decode lowerName entries with
    | none => none
    | some set =>
      if set.files = 0 then none else some (set.counts, Sha256.hexdigestBytes set.digested)

/-- A report as the oracle of a directory with UTF-8 names sees it. -/
def textEntry (entry : DirectoryEntry) : ReportEntry :=
  ⟨(encodable entry.name).getD [], entry.content.size, readTextOrNone decode entry.content⟩

theorem parse_directory_of_texts (lowerText : Text → Text) (entries : List DirectoryEntry)
    (named : ∀ entry ∈ entries, (encodable entry.name).isSome = true)
    (lowered : ∀ entry ∈ entries, isReport lowerName entry =
      Text.endsWith (lowerText (textEntry decode entry).name) ".xml") :
    parseDirectoryWithDigest parseXml decode lowerName (some entries) =
      parseJunitDirWithDigest parseXml lowerText (some
        ((entries.insertionSort fun left right => nameLe left.name right.name = true).map
          (textEntry decode))) := by
  have read : ∀ (reports : List DirectoryEntry) (set : ReportSet),
      (∀ entry ∈ reports, (encodable entry.name).isSome = true) →
        reports.foldlM (addDirectoryEntry parseXml decode) set =
          addReports parseXml set (reports.map (textEntry decode)) := by
    intro reports
    induction reports with
    | nil => exact fun set _ => rfl
    | cons entry rest ih =>
      intro set each
      rw [List.forall_mem_cons] at each
      rw [List.foldlM_cons, List.map_cons, addReports, addDirectoryEntry, textEntry]
      cases addReport parseXml set ⟨(encodable entry.name).getD [], entry.content.size,
          readTextOrNone decode entry.content⟩ with
      | none => rfl
      | some next =>
        simp only [each.1, if_true]
        exact ih next each.2
  have filtered : (reportsOf lowerName entries).map (textEntry decode) =
      ((entries.insertionSort fun left right => nameLe left.name right.name = true).map
        (textEntry decode)).filter fun entry =>
          Text.endsWith (lowerText entry.name) ".xml" := by
    rw [List.filter_map, reportsOf]
    congr 1
    exact List.filter_congr fun entry inside => lowered entry ((List.mem_insertionSort _).1 inside)
  have reports := read (reportsOf lowerName entries) emptyReportSet fun entry inside =>
    named entry ((List.mem_insertionSort _).1 (List.mem_filter.1 inside).1)
  rw [filtered] at reports
  unfold parseDirectoryWithDigest parseJunitDirWithDigest readReports
  cases answer : (reportsOf lowerName entries).foldlM (addDirectoryEntry parseXml decode)
      emptyReportSet with
  | none | some set => simp only [← reports, answer]

def reportRecord (pair : Text × Text) : Bytes := blob (utf8 pair.1) ++ blob (utf8 pair.2)

def ReportSet.grow (set : ReportSet) (name text : Text) (size : Nat) (counts : JUnitCounts) :
    ReportSet where
  counts := ⟨set.counts.passed + counts.passed, set.counts.total + counts.total,
    set.counts.failures + counts.failures, set.counts.errors + counts.errors, set.balanced counts⟩
  digested := set.digested ++ reportRecord (name, text)
  files := set.files + 1
  bytes := set.bytes + size

theorem size_field_eq (value : Nat) : sizeField value = u64 value := by
  simp [sizeField, Sha256.lengthBytes, u64, bigEndian, List.range_succ, Nat.div_div_eq_div_mul]

theorem to_list_loop (data : ByteArray) (index : Nat) (read : Bytes) :
    ByteArray.toList.loop data index read = read.reverse ++ data.data.toList.drop index := by
  fun_induction ByteArray.toList.loop data index read with
  | case1 index read inside ih =>
    have here : index < data.data.toList.length := by simpa using inside
    have byte : data.get! index = data.data.toList[index] := by
      have inbounds : index < data.data.size := inside
      change data.data[index]! = _
      rw [getElem!_pos data.data index inbounds]
      rfl
    rw [ih, List.reverse_cons, List.append_assoc, List.drop_eq_getElem_cons here, byte]
    rfl
  | case2 index read outside =>
    have none : data.data.toList.drop index = [] := by
      apply List.drop_eq_nil_of_le
      simpa using Nat.le_of_not_lt outside
    rw [none, List.append_nil]

theorem utf8_bytes_eq (text : Text) : Sha256.utf8Bytes text = utf8 text := by
  have encoded : (String.ofList text).toUTF8 = (utf8 text).toByteArray := by
    rw [String.toUTF8, String.toByteArray_ofList]
    rfl
  rw [Sha256.utf8Bytes, encoded, ByteArray.toList, to_list_loop, List.toList_data_toByteArray]
  rfl

theorem add_report_grows (set : ReportSet) (name text : Text) (size : Nat) :
    addReport parseXml set ⟨name, some size, some text⟩ =
      if maxReportFiles < set.files + 1 || maxReportBytes < size ||
          maxReportSetBytes < set.bytes + size then none
      else (parseJunitXml parseXml text).map (set.grow name text size) := by
  have framed : sizeField (Sha256.utf8Bytes name).length ++ Sha256.utf8Bytes name ++
      sizeField (Sha256.utf8Bytes text).length ++ Sha256.utf8Bytes text =
        reportRecord (name, text) := by
    simp only [size_field_eq, utf8_bytes_eq, reportRecord, blob, List.append_assoc]
  rw [addReport]
  simp only [framed]
  rfl

/-- The limits that are accumulated along the loop. -/
def Fits (set : ReportSet) (count size : Nat) : Prop :=
  set.files + count ≤ maxReportFiles ∧ set.bytes + size ≤ maxReportSetBytes

theorem read_text_some {content : DirectoryContent} {text : Text}
    (read : readTextOrNone decode content = some text) :
    ∃ data, content = .regular data ∧ data.length ≤ maxReportBytes ∧ decode data = text := by
  cases content with
  | regular data =>
    simp only [readTextOrNone] at read
    split_ifs at read with large longer
    rw [Option.some.injEq, List.take_of_length_le (by omega)] at read
    exact ⟨data, rfl, Nat.le_of_not_lt large, read⟩
  | _ => cases read

theorem read_text_regular {data : Bytes} (small : data.length ≤ maxReportBytes) :
    readTextOrNone decode (.regular data) = some (decode data) := by
  have whole : data.take (maxReportBytes + 1) = data := List.take_of_length_le (by omega)
  simp only [readTextOrNone, whole]
  rw [if_neg (Nat.not_lt.2 small), if_neg (Nat.not_lt.2 small)]

def reportName (entry : DirectoryEntry) : Text := (encodable entry.name).getD []

def reportSize (entry : DirectoryEntry) : Nat := entry.content.size.getD 0

def reportText (entry : DirectoryEntry) : Text := (readTextOrNone decode entry.content).getD []

def reportCounts (entry : DirectoryEntry) : JUnitCounts :=
  (parseJunitXml parseXml (reportText decode entry)).getD ⟨0, 0, 0, 0, Nat.add_zero _⟩

/-- A report that can count: a regular file with a UTF-8 name, of an admitted size, with a text
that the parser accepts. -/
structure Admitted (entry : DirectoryEntry) : Prop where
  named : (encodable entry.name).isSome = true
  file : ∃ data, entry.content = .regular data ∧ data.length ≤ maxReportBytes ∧
    (parseJunitXml parseXml (decode data)).isSome = true

def grown (set : ReportSet) (entry : DirectoryEntry) : ReportSet :=
  set.grow (reportName entry) (reportText decode entry) (reportSize entry)
    (reportCounts parseXml decode entry)

theorem add_directory_entry_iff (set next : ReportSet) (entry : DirectoryEntry) :
    addDirectoryEntry parseXml decode set entry = some next ↔
      Admitted parseXml decode entry ∧ Fits set 1 (reportSize entry) ∧
        next = grown parseXml decode set entry := by
  constructor
  · intro added
    unfold addDirectoryEntry at added
    cases read : readTextOrNone decode entry.content with
    | none => simp [read, addReport] at added
    | some text =>
      obtain ⟨data, content, small, decoded⟩ := read_text_some decode read
      have sized : reportSize entry = data.length := by rw [reportSize, content]; rfl
      rw [read, content, DirectoryContent.size, add_report_grows] at added
      cases named : encodable entry.name with
      | none =>
        rw [named] at added
        split at added <;> cases added
      | some name =>
        simp only [named, Option.getD_some, Option.isSome_some, if_true] at added
        split_ifs at added with limits
        cases parsed : parseJunitXml parseXml text with
        | none =>
          rw [parsed] at added
          cases added
        | some counts =>
          rw [parsed, Option.map_some, Option.some.injEq] at added
          simp only [Bool.or_eq_true, decide_eq_true_eq, not_or, Nat.not_lt] at limits
          refine ⟨⟨by rw [named]; rfl, data, content, small, ?_⟩,
            ⟨limits.1.1, sized ▸ limits.2⟩, ?_⟩
          · rw [decoded, parsed]
            rfl
          · rw [← added, grown, reportCounts, reportText, read, reportName, named, sized,
              Option.getD_some, Option.getD_some, parsed, Option.getD_some]
  · rintro ⟨admitted, fits, rfl⟩
    obtain ⟨data, content, small, parses⟩ := admitted.file
    obtain ⟨name, named⟩ := Option.isSome_iff_exists.1 admitted.named
    obtain ⟨counts, parsed⟩ := Option.isSome_iff_exists.1 parses
    have sized : reportSize entry = data.length := by rw [reportSize, content]; rfl
    rw [sized] at fits
    have limits : ¬(decide (maxReportFiles < set.files + 1) ||
        decide (maxReportBytes < data.length) ||
        decide (maxReportSetBytes < set.bytes + data.length)) = true := by
      simp only [Bool.or_eq_true, decide_eq_true_eq, not_or, Nat.not_lt]
      exact ⟨⟨fits.1, small⟩, fits.2⟩
    have read := read_text_regular decode small
    unfold addDirectoryEntry
    rw [grown, reportCounts, reportText, content, read, reportName, named, sized,
      DirectoryContent.size, Option.getD_some, Option.getD_some, add_report_grows,
      if_neg limits, parsed]
    rfl

variable (reports : List DirectoryEntry)

theorem read_reports_iff :
    ∀ set final : ReportSet, Fits set 0 0 →
      (reports.foldlM (addDirectoryEntry parseXml decode) set = some final ↔
        (∀ entry ∈ reports, Admitted parseXml decode entry) ∧
          Fits set reports.length (reports.map reportSize).sum ∧
            final = reports.foldl (grown parseXml decode) set) := by
  induction reports with
  | nil =>
    intro set final within
    rw [List.foldlM_nil]
    constructor
    · intro same
      exact ⟨fun _ inside => absurd inside List.not_mem_nil, within,
        (Option.some.inj same).symm⟩
    · rintro ⟨-, -, rfl⟩
      rfl
  | cons entry rest ih =>
    intro set final within
    rw [List.foldlM_cons]
    constructor
    · intro ran
      obtain ⟨next, added, later⟩ := Option.bind_eq_some_iff.1 ran
      obtain ⟨admitted, fits, rfl⟩ := (add_directory_entry_iff parseXml decode _ _ _).1 added
      obtain ⟨others, all, total⟩ := (ih _ final fits).1 later
      refine ⟨List.forall_mem_cons.2 ⟨admitted, others⟩, ?_, total⟩
      simp only [Fits, grown, ReportSet.grow, List.length_cons, List.map_cons,
        List.sum_cons] at all ⊢
      omega
    · rintro ⟨admitted, fits, rfl⟩
      rw [List.forall_mem_cons] at admitted
      simp only [Fits, List.length_cons, List.map_cons, List.sum_cons] at fits
      have here : Fits set 1 (reportSize entry) := by
        unfold Fits
        omega
      refine Option.bind_eq_some_iff.2 ⟨_, (add_directory_entry_iff parseXml decode _ _ _).2
        ⟨admitted.1, here, rfl⟩, (ih _ _ here).2 ⟨admitted.2, ?_, rfl⟩⟩
      simp only [Fits, grown, ReportSet.grow]
      omega

def reportPair (entry : DirectoryEntry) : Text × Text := (reportName entry, reportText decode entry)

theorem grown_digested : ∀ set : ReportSet,
    (reports.foldl (grown parseXml decode) set).digested =
      set.digested ++ records reportRecord (reports.map (reportPair decode)) := by
  induction reports with
  | nil => exact fun set => (List.append_nil _).symm
  | cons entry rest ih =>
    intro set
    rw [List.foldl_cons, ih, grown, ReportSet.grow, List.append_assoc]
    rfl

theorem grown_files : ∀ set : ReportSet,
    (reports.foldl (grown parseXml decode) set).files = set.files + reports.length := by
  induction reports with
  | nil => exact fun set => rfl
  | cons entry rest ih =>
    intro set
    rw [List.foldl_cons, ih, List.length_cons]
    simp only [grown, ReportSet.grow]
    omega

theorem grown_counter (counter : JUnitCounts → Nat)
    (adds : ∀ (set : ReportSet) (entry : DirectoryEntry),
      counter (grown parseXml decode set entry).counts =
        counter set.counts + counter (reportCounts parseXml decode entry))
    (reports : List DirectoryEntry) : ∀ set : ReportSet,
    counter (reports.foldl (grown parseXml decode) set).counts = counter set.counts +
      (reports.map fun entry => counter (reportCounts parseXml decode entry)).sum := by
  induction reports with
  | nil => exact fun set => rfl
  | cons entry rest ih =>
    intro set
    rw [List.foldl_cons, ih, adds, List.map_cons, List.sum_cons, Nat.add_assoc]

/-- What the source promises of a directory that it grades. -/
structure Gradable (entries : List DirectoryEntry) : Prop where
  reported : ∃ entry ∈ entries, isReport lowerName entry = true
  admitted : ∀ entry ∈ entries, isReport lowerName entry = true → Admitted parseXml decode entry
  few : (entries.filter (isReport lowerName)).length ≤ maxReportFiles
  small : ((entries.filter (isReport lowerName)).map reportSize).sum ≤ maxReportSetBytes

structure Sums (entries : List DirectoryEntry) (counts : JUnitCounts) : Prop where
  passed : counts.passed = ((entries.filter (isReport lowerName)).map fun entry =>
    (reportCounts parseXml decode entry).passed).sum
  total : counts.total = ((entries.filter (isReport lowerName)).map fun entry =>
    (reportCounts parseXml decode entry).total).sum
  failures : counts.failures = ((entries.filter (isReport lowerName)).map fun entry =>
    (reportCounts parseXml decode entry).failures).sum
  errors : counts.errors = ((entries.filter (isReport lowerName)).map fun entry =>
    (reportCounts parseXml decode entry).errors).sum

variable (entries : List DirectoryEntry)

theorem reports_of_perm :
    (reportsOf lowerName entries).Perm (entries.filter (isReport lowerName)) :=
  (List.perm_insertionSort _ entries).filter _

theorem read_reports_some_iff (final : ReportSet) :
    readReports parseXml decode lowerName entries = some final ↔
      (∀ entry ∈ entries, isReport lowerName entry = true → Admitted parseXml decode entry) ∧
        (entries.filter (isReport lowerName)).length ≤ maxReportFiles ∧
          ((entries.filter (isReport lowerName)).map reportSize).sum ≤ maxReportSetBytes ∧
            final = (reportsOf lowerName entries).foldl (grown parseXml decode) emptyReportSet := by
  have perm := reports_of_perm lowerName entries
  have within : Fits emptyReportSet 0 0 := ⟨Nat.zero_le _, Nat.zero_le _⟩
  rw [readReports, read_reports_iff parseXml decode _ _ _ within, Fits, perm.length_eq,
    (perm.map reportSize).sum_nat]
  simp only [perm.mem_iff, List.mem_filter, and_imp, emptyReportSet, Nat.zero_add, and_assoc]

theorem sums_of_read {entries : List DirectoryEntry} {final : ReportSet}
    (read : readReports parseXml decode lowerName entries = some final) :
    Sums parseXml decode lowerName entries final.counts := by
  obtain ⟨-, -, -, rfl⟩ := (read_reports_some_iff parseXml decode lowerName entries final).1 read
  have perm := reports_of_perm lowerName entries
  have sums (counter : JUnitCounts → Nat) (zero : counter ⟨0, 0, 0, 0, rfl⟩ = 0)
      (adds : ∀ (set : ReportSet) (entry : DirectoryEntry),
        counter (grown parseXml decode set entry).counts =
          counter set.counts + counter (reportCounts parseXml decode entry)) :
      counter ((reportsOf lowerName entries).foldl (grown parseXml decode) emptyReportSet).counts =
        ((entries.filter (isReport lowerName)).map fun entry =>
          counter (reportCounts parseXml decode entry)).sum := by
    rw [grown_counter parseXml decode counter adds, ← (perm.map _).sum_nat]
    simp only [emptyReportSet, zero, Nat.zero_add]
  exact ⟨sums _ rfl fun _ _ => rfl, sums _ rfl fun _ _ => rfl, sums _ rfl fun _ _ => rfl,
    sums _ rfl fun _ _ => rfl⟩

theorem parse_directory_some_iff :
    (parseDirectoryWithDigest parseXml decode lowerName (some entries)).isSome = true ↔
      Gradable parseXml decode lowerName entries := by
  have reported : 0 < (entries.filter (isReport lowerName)).length ↔
      ∃ entry ∈ entries, isReport lowerName entry = true := by
    rw [List.length_pos_iff_exists_mem]
    simp only [List.mem_filter]
  have files : ∀ final, readReports parseXml decode lowerName entries = some final →
      final.files = (entries.filter (isReport lowerName)).length := by
    intro final read
    obtain ⟨-, -, -, rfl⟩ := (read_reports_some_iff parseXml decode lowerName entries final).1 read
    rw [grown_files, (reports_of_perm lowerName entries).length_eq]
    exact Nat.zero_add _
  unfold parseDirectoryWithDigest
  constructor
  · intro graded
    cases read : readReports parseXml decode lowerName entries with
    | none => simp [read] at graded
    | some final =>
      have facts := (read_reports_some_iff parseXml decode lowerName entries final).1 read
      simp only [read] at graded
      split_ifs at graded with empty
      · cases graded
      · rw [files final read] at empty
        exact ⟨reported.1 (Nat.pos_of_ne_zero empty), facts.1, facts.2.1, facts.2.2.1⟩
  · intro gradable
    have read := (read_reports_some_iff parseXml decode lowerName entries _).2
      ⟨gradable.admitted, gradable.few, gradable.small, rfl⟩
    have present := reported.2 gradable.reported
    rw [← files _ read] at present
    simp only [read]
    rw [if_neg (Nat.ne_of_gt present)]
    rfl

theorem report_record_delimits : SelfDelimiting
    (fun pair : Text × Text => (utf8 pair.1).length < 2 ^ 64 ∧ (utf8 pair.2).length < 2 ^ 64)
    reportRecord :=
  comap_delimits (pair_delimits blob_delimits blob_delimits)
    (fun pair : Text × Text => (utf8 pair.1, utf8 pair.2))
    fun _ _ same => Prod.ext (utf8_injective (Prod.mk.inj same).1)
      (utf8_injective (Prod.mk.inj same).2)

theorem report_record_present (pair : Text × Text) : reportRecord pair ≠ [] := by
  intro empty
  have sized : (u64 (utf8 pair.1).length).length = 8 := big_endian_length 8 _
  rw [reportRecord, blob, List.append_assoc, List.append_eq_nil_iff] at empty
  rw [empty.1] at sized
  cases sized

theorem encodable_length : ∀ {letters : NameLetters} {name : Text},
    encodable letters = some name → name.length = letters.length
  | [], name, named => by
      cases named
      rfl
  | .scalar character :: rest, name, named => by
      obtain ⟨others, read, rfl⟩ := Option.map_eq_some_iff.1 named
      rw [List.length_cons, List.length_cons, encodable_length read]
  | .escaped _ :: _, _, named => nomatch named

theorem report_pair_fits {entry : DirectoryEntry} (admitted : Admitted parseXml decode entry) :
    (utf8 (reportPair decode entry).1).length < 2 ^ 64 ∧
      (utf8 (reportPair decode entry).2).length < 2 ^ 64 := by
  obtain ⟨name, named⟩ := Option.isSome_iff_exists.1 admitted.named
  obtain ⟨data, content, small, parses⟩ := admitted.file
  have text : reportText decode entry = decode data := by
    rw [reportText, content, read_text_regular decode small, Option.getD_some]
  have letters : (decode data).length ≤ maxReportBytes := by
    unfold parseJunitXml at parses
    split at parses
    · cases parses
    · next refused =>
        simp only [Bool.or_eq_true, decide_eq_true_eq, not_or, Nat.not_lt] at refused
        exact refused.1.1.2
  have short := entry.short
  rw [← encodable_length named] at short
  have nameBytes := utf8_length name
  have textBytes := utf8_length (decode data)
  unfold maxReportBytes at letters
  rw [reportPair, reportName, named, Option.getD_some, text]
  dsimp only
  omega

theorem pairs_of_digested {left right : List DirectoryEntry} {leftSet rightSet : ReportSet}
    (leftRead : readReports parseXml decode lowerName left = some leftSet)
    (rightRead : readReports parseXml decode lowerName right = some rightSet)
    (same : leftSet.digested = rightSet.digested) (pair : Text × Text) :
    pair ∈ (left.filter (isReport lowerName)).map (reportPair decode) ↔
      pair ∈ (right.filter (isReport lowerName)).map (reportPair decode) := by
  obtain ⟨leftAdmitted, -, -, rfl⟩ := (read_reports_some_iff parseXml decode lowerName _ _).1
    leftRead
  obtain ⟨rightAdmitted, -, -, rfl⟩ := (read_reports_some_iff parseXml decode lowerName _ _).1
    rightRead
  have fits : ∀ entries : List DirectoryEntry, (∀ entry ∈ entries,
      isReport lowerName entry = true → Admitted parseXml decode entry) →
      ∀ found ∈ (reportsOf lowerName entries).map (reportPair decode),
        (utf8 found.1).length < 2 ^ 64 ∧ (utf8 found.2).length < 2 ^ 64 := by
    intro entries admitted found inside
    obtain ⟨entry, listed, rfl⟩ := List.mem_map.1 inside
    have among := List.mem_filter.1 ((reports_of_perm lowerName entries).mem_iff.1 listed)
    exact report_pair_fits parseXml decode (admitted entry among.1 among.2)
  rw [grown_digested, grown_digested] at same
  have lists := records_faithful report_record_delimits report_record_present _ _
    (fits left leftAdmitted) (fits right rightAdmitted) (List.append_cancel_left same)
  rw [← ((reports_of_perm lowerName left).map _).mem_iff, lists,
    ((reports_of_perm lowerName right).map _).mem_iff]

/-- A directory is graded as a whole: counts are returned exactly for a gradable directory, they
are the sums over all its reports, and the preimage of the digest determines the reports. -/
theorem report_directory_all_or_nothing :
    (∀ entries, (parseDirectoryWithDigest parseXml decode lowerName (some entries)).isSome = true ↔
      Gradable parseXml decode lowerName entries) ∧
    (∀ entries counts digest,
      parseDirectoryWithDigest parseXml decode lowerName (some entries) = some (counts, digest) →
        Sums parseXml decode lowerName entries counts ∧
          ∃ set, readReports parseXml decode lowerName entries = some set ∧
            digest = Sha256.hexdigestBytes set.digested) ∧
    ∀ left right leftSet rightSet,
      readReports parseXml decode lowerName left = some leftSet →
      readReports parseXml decode lowerName right = some rightSet →
      leftSet.digested = rightSet.digested → ∀ pair,
        (pair ∈ (left.filter (isReport lowerName)).map (reportPair decode) ↔
          pair ∈ (right.filter (isReport lowerName)).map (reportPair decode)) := by
  refine ⟨parse_directory_some_iff parseXml decode lowerName, ?_, fun _ _ _ _ first second =>
    pairs_of_digested parseXml decode lowerName first second⟩
  intro entries counts digest parsed
  unfold parseDirectoryWithDigest at parsed
  cases read : readReports parseXml decode lowerName entries with
  | none => simp [read] at parsed
  | some set =>
    simp only [read] at parsed
    split_ifs at parsed
    cases parsed
    exact ⟨sums_of_read parseXml decode lowerName read, set, rfl, rfl⟩

end Directory

def passedReport : DirectoryEntry :=
  ⟨"a.XML".toList.map .scalar, .regular [60, 112, 47, 62], by decide⟩

def failedReport : DirectoryEntry :=
  ⟨"b.xml".toList.map .scalar, .regular [60, 102, 47, 62], by decide⟩

/-- A parser of two documents. -/
def parsePassedFailed (text : Text) : Option Element :=
  if text = "<p/>" then some (.mk "testsuite" [] [.mk "testcase" [] []])
  else if text = "<f/>" then
    some (.mk "testsuite" [] [.mk "testcase" [] [.mk "failure" [] []]])
  else none

def asciiBytes (bytes : Bytes) : Text := bytes.map fun byte => Char.ofNat byte.toNat

def asciiLetter : NameLetter → NameLetter
  | .scalar character => .scalar character.toLower
  | .escaped byte => .escaped byte

theorem report_directory_two_reports :
    ∃ counts digest, parseDirectoryWithDigest parsePassedFailed asciiBytes (List.map asciiLetter)
      (some [failedReport, passedReport]) = some (counts, digest) ∧
      Sums parsePassedFailed asciiBytes (List.map asciiLetter) [failedReport, passedReport]
        counts := by
  have directory := report_directory_all_or_nothing parsePassedFailed asciiBytes
    (List.map asciiLetter)
  have graded := (directory.1 [failedReport, passedReport]).2
    ⟨⟨failedReport, List.mem_cons_self, by decide⟩, ?_, by decide, by decide⟩
  · obtain ⟨⟨counts, digest⟩, parsed⟩ := Option.isSome_iff_exists.1 graded
    exact ⟨counts, digest, parsed, (directory.2.1 _ _ _ parsed).1⟩
  · intro entry inside _
    rcases List.mem_pair.1 inside with rfl | rfl
    · exact ⟨by decide, _, rfl, by decide, by decide⟩
    · exact ⟨by decide, _, rfl, by decide, by decide⟩

end EvoomGuard.Verifiers
