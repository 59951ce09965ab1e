import EvoomGuard.Candidate.Patch
import EvoomGuard.Lib.Lookup
import EvoomGuard.Verifiers.MaterializedContent

/-!
`_new_content_map` of `evidence.py`, the contents a coverage diff is taken against, beside the
contents the verifier materializes. The map opens a base file in text mode, so carriage returns
are translated away before a patch is applied; the verifier decodes the bytes as they are.
-/

namespace EvoomGuard.Evidence

open Lib Candidate Workspace Verifiers

/-- What a text file opened with the default `newline` gives for its letters. -/
def universalNewlines : Text → Text
  | [] => []
  | '\r' :: '\n' :: rest => '\n' :: universalNewlines rest
  | '\r' :: rest => '\n' :: universalNewlines rest
  | character :: rest => character :: universalNewlines rest

theorem no_return_translated (text : Text) : '\r' ∉ universalNewlines text := by
  fun_induction universalNewlines text with
  | case1 => simp
  | case2 rest ih => simpa using ih
  | case3 rest _ ih => simpa using ih
  | case4 character rest _ other ih =>
    rw [List.mem_cons, not_or]
    exact ⟨Ne.symm other, ih⟩

theorem universal_newlines_plain (text : Text) (plain : '\r' ∉ text) :
    universalNewlines text = text := by
  fun_induction universalNewlines text with
  | case1 => rfl
  | case2 rest ih => simp at plain
  | case3 rest _ ih => simp at plain
  | case4 character rest _ _ ih => rw [ih (fun inside => plain (List.mem_cons_of_mem _ inside))]

/-- What `open` or `read` raises. -/
inductive OpenError where
  | osError
  | undecodable
  deriving DecidableEq

/-- The bytes behind a joined path. What is no regular file below real directories (a link, a
special file, nothing at all) answers as the host has it. -/
def openBytes (elsewhere : Text → Option ByteArray) (tree : Tree) (root : Path) (path : Text) :
    Option ByteArray :=
  match tree.fileAt (locate root path) with
  | some (.file _ data) => some data
  | _ => elsewhere path

def openText (elsewhere : Text → Option ByteArray) (tree : Tree) (root : Path) (path : Text) :
    Except OpenError Text :=
  match openBytes elsewhere tree root path with
  | none => .error .osError
  | some data =>
    match decodeUtf8 data with
    | none => .error .undecodable
    | some text => .ok (universalNewlines text)

theorem open_text_of_holds {tree : Tree} {root : Path} {path text : Text}
    (elsewhere : Text → Option ByteArray) (held : Holds root tree path text) :
    openText elsewhere tree root path = .ok (universalNewlines text) := by
  obtain ⟨_, mode, data, found, decoded⟩ := (holds_iff root tree path text).mp held
  simp only [openText, openBytes, found, decoded]

/-- `apply_patch` with its default count, and the message the verifier reports. -/
def patchText (source search replace : Text) : Except Text Text :=
  match applyPatch source search replace 1 with
  | .ok patched => .ok patched
  | .error problem => .error (problem.name ++ ": " ++ problem.text)

/-- The content of each changed path, and none where a patch did not apply. -/
abbrev Contents := Dict Text (Option Text)

def givenContents (fileBlocks : Dict Text Text) : Contents where
  entries := fileBlocks.entries.map fun block => (block.1, some block.2)
  nodup := by
    rw [List.map_map]
    exact fileBlocks.nodup

section Map

variable (opened : Text → Except OpenError Text)

/-- The text a patch is applied to: what the map has, or the base file. -/
def patchBase (out : Contents) (path : Text) : Except OpenError (Option Text) :=
  match out.entries.lookup path with
  | some (some base) => .ok (some base)
  | _ =>
    match opened path with
    | .ok base => .ok (some base)
    | .error .osError => .ok none
    | .error .undecodable => .error .undecodable

def patchOn (block : PatchBlock) : Option Text → Option Text
  | none => none
  | some base => (patchText base block.search block.replace).toOption

def applyPatchesTo : Contents → List PatchBlock → Except OpenError Contents
  | out, [] => .ok out
  | out, block :: rest =>
    match patchBase opened out block.path with
    | .error problem => .error problem
    | .ok base => applyPatchesTo (out.insert block.path (patchOn block base)) rest

/-- `_new_content_map`. A base file that is not UTF-8 raises. -/
def newContentMap (candidate : Text) : Except OpenError Contents :=
  applyPatchesTo opened (givenContents (parseFileBlocks candidate)) (parsePatchBlocks candidate)

theorem lookup_insert (out : Contents) (path : Text) (content : Option Text) (other : Text) :
    (out.insert path content).entries.lookup other =
      if other = path then some content else out.entries.lookup other :=
  Dict.lookup_assign path content out.entries other

variable (blocks : List PatchBlock)

theorem content_kept :
    ∀ out map, applyPatchesTo opened out blocks = .ok map → ∀ path text final,
      out.entries.lookup path = some (some text) →
        applyInOrder patchText text (patchesOf path blocks) = .ok final →
          map.entries.lookup path = some (some final) := by
  induction blocks with
  | nil =>
    intro out map ran path text final held applied
    cases ran
    cases applied
    exact held
  | cons block rest ih =>
    intro out map ran path text final held applied
    rw [applyPatchesTo] at ran
    rw [patches_of_cons] at applied
    split at ran
    · cases ran
    · rename_i base based
      by_cases own : block.path = path
      · subst own
        rw [if_pos rfl, applyInOrder] at applied
        split at applied
        · cases applied
        · rename_i patched done
          have read : base = some text := by
            rw [patchBase, held] at based
            cases based
            rfl
          apply ih _ map ran block.path patched final _ applied
          rw [lookup_insert, if_pos rfl, read, patchOn, done]
          rfl
      · rw [if_neg own] at applied
        apply ih _ map ran path text final _ applied
        rw [lookup_insert, if_neg (Ne.symm own)]
        exact held

theorem content_opened :
    ∀ out map, applyPatchesTo opened out blocks = .ok map → ∀ path text final,
      out.entries.lookup path = none → opened path = .ok text → patchesOf path blocks ≠ [] →
        applyInOrder patchText text (patchesOf path blocks) = .ok final →
          map.entries.lookup path = some (some final) := by
  induction blocks with
  | nil => exact fun _ _ _ _ _ _ _ _ some => absurd rfl some
  | cons block rest ih =>
    intro out map ran path text final missing base some applied
    rw [applyPatchesTo] at ran
    rw [patches_of_cons] at applied some
    split at ran
    · cases ran
    · rename_i found based
      by_cases own : block.path = path
      · subst own
        rw [if_pos rfl, applyInOrder] at applied
        split at applied
        · cases applied
        · rename_i patched done
          have read : found = .some text := by
            rw [patchBase, missing] at based
            simp only [base, Except.ok.injEq] at based
            exact based.symm
          apply content_kept opened rest _ map ran block.path patched final _ applied
          rw [lookup_insert, if_pos rfl, read, patchOn, done]
          rfl
      · rw [if_neg own] at applied some
        apply ih _ map ran path text final _ base some applied
        rw [lookup_insert, if_neg (Ne.symm own)]
        exact missing

def MapStarts (out : Contents) (path text : Text) : Prop :=
  out.entries.lookup path = some (some text) ∨
    (out.entries.lookup path = none ∧ opened path = .ok text)

theorem patch_base_of_starts {out : Contents} {path text : Text}
    (starts : MapStarts opened out path text) : patchBase opened out path = .ok (some text) := by
  rcases starts with held | ⟨missing, base⟩
  · rw [patchBase, held]
  · rw [patchBase, missing]
    simp only [base]

theorem patches_run :
    ∀ out, (∀ block ∈ blocks, ∃ text final, MapStarts opened out block.path text ∧
      applyInOrder patchText text (patchesOf block.path blocks) = .ok final) →
        ∃ map, applyPatchesTo opened out blocks = .ok map := by
  induction blocks with
  | nil => exact fun out _ => ⟨out, rfl⟩
  | cons block rest ih =>
    intro out apply_all
    obtain ⟨text, final, starts, applied⟩ := apply_all block List.mem_cons_self
    rw [patches_of_cons, if_pos rfl, applyInOrder] at applied
    split at applied
    · cases applied
    · rename_i patched done
      rw [applyPatchesTo, patch_base_of_starts opened starts]
      apply ih
      intro other inside
      by_cases same : other.path = block.path
      · rw [same]
        refine ⟨patched, final, Or.inl ?_, applied⟩
        rw [lookup_insert, if_pos rfl, patchOn, done]
        rfl
      · obtain ⟨own, last, begun, later⟩ := apply_all other (List.mem_cons_of_mem _ inside)
        rw [patches_of_cons, if_neg (Ne.symm same)] at later
        refine ⟨own, last, ?_, later⟩
        unfold MapStarts
        rw [lookup_insert, if_neg same]
        exact begun

end Map

theorem patched_count (letter : Char) {source search replace patched : Text}
    (done : patchText source search replace = .ok patched) :
    patched.count letter + search.count letter = source.count letter + replace.count letter := by
  unfold patchText at done
  split at done
  · rename_i result found
    cases done
    obtain ⟨before, after, cut, made⟩ := apply_patch_pieces found
    rw [cut, made]
    simp only [List.count_append]
    omega
  · cases done

theorem apply_in_order_count (letter : Char) (blocks : List PatchBlock) :
    ∀ one other oneFinal otherFinal,
      applyInOrder patchText one blocks = .ok oneFinal →
        applyInOrder patchText other blocks = .ok otherFinal →
          oneFinal.count letter + other.count letter =
            otherFinal.count letter + one.count letter := by
  induction blocks with
  | nil =>
    intro one other oneFinal otherFinal first second
    cases first
    cases second
    exact Nat.add_comm _ _
  | cons block rest ih =>
    intro one other oneFinal otherFinal first second
    rw [applyInOrder] at first second
    split at first
    · cases first
    · split at second
      · cases second
      · rename_i onePatched oneDone _ otherPatched otherDone
        have later := ih onePatched otherPatched oneFinal otherFinal first second
        have oneTraded := patched_count letter oneDone
        have otherTraded := patched_count letter otherDone
        omega

/-- How many of a letter the patches bring along. -/
def broughtBy (letter : Char) (blocks : List PatchBlock) : Nat :=
  (blocks.map fun block => block.replace.count letter).sum

theorem brought_by_cons (letter : Char) (block : PatchBlock) (rest : List PatchBlock) :
    broughtBy letter (block :: rest) = block.replace.count letter + broughtBy letter rest := rfl

theorem apply_in_order_brings (letter : Char) (blocks : List PatchBlock) :
    ∀ text final, applyInOrder patchText text blocks = .ok final →
      (∀ block ∈ blocks, letter ∉ block.search) →
        final.count letter = text.count letter + broughtBy letter blocks := by
  induction blocks with
  | nil =>
    intro text final applied _
    cases applied
    rfl
  | cons block rest ih =>
    intro text final applied unsearched
    rw [applyInOrder] at applied
    split at applied
    · cases applied
    · rename_i patched done
      have later := ih patched final applied fun other inside =>
        unsearched other (List.mem_cons_of_mem _ inside)
      have absent := List.count_eq_zero_of_not_mem (unsearched block List.mem_cons_self)
      have traded := patched_count letter done
      rw [brought_by_cons]
      omega

/-- However often the map opens the base again, it has no more of a letter than the patches
bring, when the opened text has none. -/
theorem map_brings (opened : Text → Except OpenError Text) (letter : Char) (path base : Text)
    (reads : opened path = .ok base) (clean : letter ∉ base) (blocks : List PatchBlock) :
    ∀ out map bound, applyPatchesTo opened out blocks = .ok map →
      (∀ text, out.entries.lookup path = some (some text) → text.count letter ≤ bound) →
        ∀ final, map.entries.lookup path = some (some final) →
          final.count letter ≤ bound + broughtBy letter (patchesOf path blocks) := by
  induction blocks with
  | nil =>
    intro out map bound ran few final found
    cases ran
    exact few final found
  | cons block rest ih =>
    intro out map bound ran few final found
    rw [applyPatchesTo] at ran
    rw [patches_of_cons]
    split at ran
    · cases ran
    · rename_i start based
      by_cases own : block.path = path
      · subst own
        have begun : ∀ text, start = some text → text.count letter ≤ bound := by
          intro text same
          unfold patchBase at based
          split at based
          · rename_i held there
            cases based
            cases same
            exact few _ there
          · rw [reads] at based
            simp only [Except.ok.injEq] at based
            rw [← based, Option.some.injEq] at same
            rw [← same, List.count_eq_zero_of_not_mem clean]
            exact Nat.zero_le _
        rw [if_pos rfl, brought_by_cons, ← Nat.add_assoc]
        apply ih _ map _ ran _ final found
        intro text held
        rw [lookup_insert, if_pos rfl, Option.some.injEq] at held
        cases start with
        | none => cases held
        | some source =>
          have few := begun source rfl
          rw [patchOn] at held
          cases done : patchText source block.search block.replace with
          | error message =>
            rw [done] at held
            cases held
          | ok patched =>
            rw [done] at held
            cases held
            have traded := patched_count letter done
            omega
      · rw [if_neg own]
        apply ih _ map _ ran _ final found
        intro text held
        rw [lookup_insert, if_neg (Ne.symm own)] at held
        exact few text held

theorem given_lookup {fileBlocks : Dict Text Text} {path text : Text}
    (listed : (path, text) ∈ fileBlocks.entries) :
    (givenContents fileBlocks).entries.lookup path = some (some text) := by
  apply lookup_of_mem _ (givenContents fileBlocks).nodup
  exact List.mem_map_of_mem (f := fun block => (block.1, some block.2)) listed

theorem given_missing {fileBlocks : Dict Text Text} {path : Text}
    (missing : path ∉ fileBlocks.keys) :
    (givenContents fileBlocks).entries.lookup path = none := by
  rw [List.lookup_eq_none_iff]
  intro entry listed
  obtain ⟨block, inside, rfl⟩ := List.mem_map.mp listed
  rw [bne_iff_ne]
  intro same
  apply missing
  rw [same]
  exact List.mem_map_of_mem inside

section Agreement

variable (newFileMode : Nat) (root : Path) (restorePackageJson : Option Text → Text → Text)
  (elsewhere : Text → Option ByteArray) (tree written : Tree) (candidate : Text)

/-- The map has, for each changed path, the text that stands there before the manifests are
restored, which is also what stands there afterwards unless the path is a manifest. -/
def SeesMaterialized : Prop :=
  ∃ map, newContentMap (openText elsewhere tree root) candidate = .ok map ∧
    ∀ path ∈ editedPaths (parseFileBlocks candidate) (parsePatchBlocks candidate), ∃ text,
      map.entries.lookup path = some (some text) ∧
      Holds root (patchedTree newFileMode root patchText tree (parseFileBlocks candidate)
        (parsePatchBlocks candidate)) path text ∧
      (isPackageManifest path = false → Holds root written path text)

/-- A base file that is patched and that no FILE block replaces. -/
structure PatchedBase (path text : Text) : Prop where
  ungiven : path ∉ (parseFileBlocks candidate).keys
  patched : ∃ block ∈ parsePatchBlocks candidate, block.path = path
  held : Holds root tree path text

variable {newFileMode root restorePackageJson tree written candidate}

section

variable (ok : materializeCandidateEdits newFileMode root patchText restorePackageJson tree
  (parseFileBlocks candidate) (parsePatchBlocks candidate) = (written, none))
include ok

theorem sees_materialized_of_plain
    (plain : ∀ path text, PatchedBase root tree candidate path text → '\r' ∉ text) :
    SeesMaterialized newFileMode root elsewhere tree written candidate := by
  have starts : ∀ path text, StartsFrom root tree (parseFileBlocks candidate) path text →
      path ∈ editedPaths (parseFileBlocks candidate) (parsePatchBlocks candidate) →
        MapStarts (openText elsewhere tree root) (givenContents (parseFileBlocks candidate))
          path text := by
    intro path text begun edited
    rcases begun with given | ⟨ungiven, held⟩
    · exact Or.inl (given_lookup given)
    · have patched := (mem_edited_paths.mp edited).resolve_left ungiven
      have clean := universal_newlines_plain text (plain path text ⟨ungiven, patched, held⟩)
      have base := open_text_of_holds elsewhere held
      rw [clean] at base
      exact Or.inr ⟨given_missing ungiven, base⟩
  obtain ⟨map, ran⟩ := patches_run (openText elsewhere tree root) (parsePatchBlocks candidate)
    (givenContents (parseFileBlocks candidate)) (by
      intro block inside
      have edited : block.path ∈
          editedPaths (parseFileBlocks candidate) (parsePatchBlocks candidate) :=
        mem_edited_paths.mpr (Or.inr ⟨block, inside, rfl⟩)
      obtain ⟨text, final, begun, applied, _⟩ :=
        materialized_content newFileMode root patchText restorePackageJson ok edited
      exact ⟨text, final, starts block.path text begun edited, applied⟩)
  refine ⟨map, ran, ?_⟩
  intro path edited
  obtain ⟨text, final, begun, applied, held, after⟩ :=
    materialized_content newFileMode root patchText restorePackageJson ok edited
  refine ⟨final, ?_, held, after⟩
  rcases starts path text begun edited with given | ⟨missing, base⟩
  · exact content_kept _ _ _ map ran path text final given applied
  · have patched : patchesOf path (parsePatchBlocks candidate) ≠ [] := by
      rw [patches_of_ne_nil]
      apply (mem_edited_paths.mp edited).resolve_left
      intro listed
      obtain ⟨entry, inside, rfl⟩ := List.mem_map.mp listed
      have given : (givenContents (parseFileBlocks candidate)).entries.lookup entry.1 =
          some (some entry.2) := given_lookup inside
      rw [missing] at given
      cases given
    exact content_opened _ _ _ map ran path text final missing base patched applied

theorem patched_base_seen
    (sees : SeesMaterialized newFileMode root elsewhere tree written candidate)
    {path text : Text} (base : PatchedBase root tree candidate path text) :
    ∃ map final, newContentMap (openText elsewhere tree root) candidate = .ok map ∧
      map.entries.lookup path = some (some final) ∧
      applyInOrder patchText text (patchesOf path (parsePatchBlocks candidate)) = .ok final := by
  obtain ⟨map, ran, every⟩ := sees
  have edited : path ∈ editedPaths (parseFileBlocks candidate) (parsePatchBlocks candidate) :=
    mem_edited_paths.mpr (Or.inr base.patched)
  obtain ⟨content, found, held, _⟩ := every path edited
  obtain ⟨source, last, begun, exactly, after, _⟩ :=
    materialized_content newFileMode root patchText restorePackageJson ok edited
  have read : source = text := by
    rcases begun with given | ⟨_, here⟩
    · exact absurd (List.mem_map_of_mem (f := Prod.fst) given) base.ungiven
    · exact holds_unique here base.held
  rw [holds_unique held after] at found
  exact ⟨map, last, ran, found, read ▸ exactly⟩

theorem return_seen (sees : SeesMaterialized newFileMode root elsewhere tree written candidate)
    {path text final : Text} (base : PatchedBase root tree candidate path text)
    (applied : applyInOrder patchText (universalNewlines text)
      (patchesOf path (parsePatchBlocks candidate)) = .ok final) : '\r' ∉ text := by
  obtain ⟨map, last, ran, found, exactly⟩ := patched_base_seen elsewhere ok sees base
  have mapped := content_opened _ _ _ map ran path _ final (given_missing base.ungiven)
    (open_text_of_holds elsewhere base.held) (patches_of_ne_nil.mpr base.patched) applied
  rw [found, Option.some.injEq, Option.some.injEq] at mapped
  have count := apply_in_order_count '\r' _ text (universalNewlines text) last final exactly applied
  rw [List.count_eq_zero_of_not_mem (no_return_translated text), ← mapped] at count
  rw [← List.count_eq_zero]
  omega

theorem return_unsearched
    (sees : SeesMaterialized newFileMode root elsewhere tree written candidate)
    {path text : Text} (base : PatchedBase root tree candidate path text)
    (unsearched : ∀ block ∈ patchesOf path (parsePatchBlocks candidate), '\r' ∉ block.search) :
    '\r' ∉ text := by
  obtain ⟨map, last, ran, found, exactly⟩ := patched_base_seen elsewhere ok sees base
  have all := apply_in_order_brings '\r' _ text last exactly unsearched
  have few := map_brings _ '\r' path _ (open_text_of_holds elsewhere base.held)
    (no_return_translated text) _ _ map 0 ran (by
      rw [given_missing base.ungiven]
      exact fun _ impossible => nomatch impossible) last found
  rw [← List.count_eq_zero]
  omega

/-- The map shows what is materialized when no patched base file has a carriage return. Where one
has, the map shows something else, unless a patch of that file searches for a carriage return and
the patches do not apply to the translated text. -/
theorem new_content_map_exact :
    ((∀ path text, PatchedBase root tree candidate path text → '\r' ∉ text) →
        SeesMaterialized newFileMode root elsewhere tree written candidate) ∧
      (SeesMaterialized newFileMode root elsewhere tree written candidate →
        ∀ path text, PatchedBase root tree candidate path text → '\r' ∈ text →
          (∃ block ∈ patchesOf path (parsePatchBlocks candidate), '\r' ∈ block.search) ∧
            ∀ final, applyInOrder patchText (universalNewlines text)
              (patchesOf path (parsePatchBlocks candidate)) ≠ .ok final) := by
  constructor
  · exact sees_materialized_of_plain elsewhere ok
  · intro sees path text base returned
    constructor
    · by_contra unsearched
      push Not at unsearched
      exact return_unsearched elsewhere ok sees base unsearched returned
    · intro final applied
      exact return_seen elsewhere ok sees base applied returned

end

end Agreement

def soleFile (content : Text) : Tree :=
  Tree.bare.add [] "f.py" (.file 420 (encodeUtf8 content))

def renamePatch : Text :=
  "<<<PATCH: f.py>>>\n<<<SEARCH>>>\nb\n<<<REPLACE>>>\nc\n<<<END PATCH>>>"

def renamed (content : Text) : Tree × Option MaterializationError :=
  materializeCandidateEdits 420 [] patchText (fun _ manifest => manifest) (soleFile content)
    (parseFileBlocks renamePatch) (parsePatchBlocks renamePatch)

theorem rename_base {content path text : Text}
    (read : (readTextWithinRoot (soleFile content) [] "f.py").toOption = some content)
    (base : PatchedBase [] (soleFile content) renamePatch path text) : text = content := by
  have blocks : parsePatchBlocks renamePatch = [⟨"f.py", ['b'], ['c']⟩] := by decide
  obtain ⟨block, inside, same⟩ := base.patched
  rw [blocks, List.mem_singleton] at inside
  have held := base.held
  rw [← same, inside] at held
  unfold Holds at held
  rw [held, Except.toOption, Option.some.injEq] at read
  exact read

theorem new_content_map_plain : SeesMaterialized 420 [] (fun _ => none)
    (soleFile "a\nb\n") (renamed "a\nb\n").1 renamePatch := by
  have done : (renamed "a\nb\n").2 = none :=
    Option.isNone_iff_eq_none.mp (by decide)
  have ok : renamed "a\nb\n" = ((renamed "a\nb\n").1, none) := Prod.ext rfl done
  apply (new_content_map_exact (fun _ => none) ok).1
  intro path text base
  rw [rename_base (by decide) base]
  decide

/-- A base file with carriage returns is patched as it is, and shown without them. -/
theorem returns_translated : ¬∀ (newFileMode : Nat) (root : Path)
    (restorePackageJson : Option Text → Text → Text) (elsewhere : Text → Option ByteArray)
    (tree written : Tree) (candidate : Text),
    materializeCandidateEdits newFileMode root patchText restorePackageJson tree
      (parseFileBlocks candidate) (parsePatchBlocks candidate) = (written, none) →
        SeesMaterialized newFileMode root elsewhere tree written candidate := by
  intro every
  have done : (renamed "a\r\nb\r\n").2 = none :=
    Option.isNone_iff_eq_none.mp (by decide)
  have ok : renamed "a\r\nb\r\n" = ((renamed "a\r\nb\r\n").1, none) :=
    Prod.ext rfl done
  have sees := every 420 [] (fun _ manifest => manifest) (fun _ => none)
    (soleFile "a\r\nb\r\n") (renamed "a\r\nb\r\n").1 renamePatch ok
  have read : (readTextWithinRoot (soleFile "a\r\nb\r\n") [] "f.py").toOption =
      some "a\r\nb\r\n".toList := by decide
  have base : PatchedBase [] (soleFile "a\r\nb\r\n".toList) renamePatch "f.py".toList
      "a\r\nb\r\n".toList := by
    constructor
    · decide
    · decide
    · unfold Holds
      cases found : readTextWithinRoot (soleFile "a\r\nb\r\n".toList) [] "f.py".toList with
      | error problem =>
        rw [found] at read
        cases read
      | ok text =>
        rw [found, Except.toOption, Option.some.injEq] at read
        rw [read]
  exact absurd (return_unsearched (fun _ => none) ok sees base (by decide)) (by decide)

end EvoomGuard.Evidence
