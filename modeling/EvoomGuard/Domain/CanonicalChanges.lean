import EvoomGuard.Domain.BlastRadius

/-!
The canonical form of a change set: which values make reading one raise something else than a
contract error, that a set read back from its own dict is the same, and that the bytes say which
changes there are, not in which order they came.
-/

namespace EvoomGuard.Domain.BlastRadius

open Lib Lib.Checks Lib.Framing Lib.JsonGrammar

/-! Code points -/

theorem scalar_text_code_points (text : Text) : scalarText (codePoints text) = some text := by
  induction text with
  | nil => rfl
  | cons character rest ih =>
    have valid : character.toNat.isValidChar := character.valid
    rw [codePoints, List.map_cons, scalarText, if_pos valid]
    rw [codePoints] at ih
    rw [ih, Option.map_some, Char.ofNat_toNat]

theorem code_points_of_scalar_text (codes : Letters) (text : Text)
    (scalar : scalarText codes = some text) : codes = codePoints text := by
  induction codes generalizing text with
  | nil =>
    cases scalar
    rfl
  | cons code rest ih =>
    rw [scalarText] at scalar
    split at scalar
    · next valid =>
        rw [Option.map_eq_some_iff] at scalar
        rcases scalar with ⟨tail, read, whole⟩
        subst whole
        have back : (Char.ofNat code).toNat = code := by
          rw [Char.ofNat, dif_pos valid]
          rfl
        rw [ih tail read, codePoints, codePoints, List.map_cons, back]
    · cases scalar

theorem scalar_text_none_iff (codes : Letters) :
    scalarText codes = none ↔ ∃ code ∈ codes, ¬code.isValidChar := by
  induction codes with
  | nil => simp [scalarText]
  | cons code rest ih =>
    rw [scalarText, List.exists_mem_cons_iff]
    by_cases valid : code.isValidChar
    · rw [if_pos valid, Option.map_eq_none_iff, ih, or_iff_right (not_not.mpr valid)]
    · rw [if_neg valid]
      exact iff_of_true rfl (Or.inl valid)

theorem code_points_injective : Function.Injective codePoints := by
  intro left right same
  have read := scalar_text_code_points left
  rw [same, scalar_text_code_points right] at read
  exact (Option.some.inj read).symm

/-! Which errors are raised -/

def IsContract (problem : Raised) : Prop := ∃ message, problem = .contract message

theorem contract_error_is_contract (message : Text) : IsContract (contractError message) :=
  ⟨_, rfl⟩

/-- A string with a lone surrogate: one of its code points is no Unicode scalar value. -/
def HasSurrogate : Value → Prop
  | .string codes => ∃ code ∈ codes, ¬code.isValidChar
  | _ => False

theorem counter_raises (value : Value) (field : String) :
    Raises IsContract (validateCounter value field) := by
  unfold validateCounter
  split
  · split
    · exact raises_error (contract_error_is_contract _)
    · exact raises_ok _
  · exact raises_error (contract_error_is_contract _)

theorem binary_raises (value : Value) : Raises IsContract (validateBinary value) := by
  unfold validateBinary
  split
  · exact raises_ok _
  · exact raises_error (contract_error_is_contract _)

theorem semantics_raise (change : Change) : Raises IsContract (validateChangeSemantics change) := by
  have known (bad : Prop) [Decidable bad] (message : Text) :
      Raises IsContract (refuse bad (contractError message)) :=
    raises_refuse (contract_error_is_contract message)
  unfold validateChangeSemantics
  apply raises_bind
  · unfold validateOperation
    cases change.operation with
    | add | delete | rename => exact known _ _
    | modify | copy | mode => exact raises_bind (known _ _) fun _ => known _ _
  · intro _
    exact known _ _

section Host

variable (host : UnicodeHost)

theorem check_path_raises (field : String) (path : Text) :
    Raises IsContract (checkPath host field path) := by
  have known (bad : Prop) [Decidable bad] (message : Text) :
      Raises IsContract (refuse bad (contractError message)) :=
    raises_refuse (contract_error_is_contract message)
  unfold checkPath
  exact raises_bind (known _ _) fun _ => raises_bind (known _ _) fun _ =>
    raises_bind (known _ _) fun _ => raises_bind (known _ _) fun _ => known _ _

theorem path_raises (value : Value) (field : String) (encodable : ¬HasSurrogate value) :
    Raises IsContract (validatePath host value field) := by
  unfold validatePath
  split
  · exact raises_ok _
  · next codes =>
      split
      · next surrogate => exact absurd ((scalar_text_none_iff codes).mp surrogate) encodable
      · exact raises_bind (check_path_raises host field _) fun _ => raises_pure _
  · exact raises_error (contract_error_is_contract _)

theorem path_escapes (value : Value) (field : String) (surrogate : HasSurrogate value) :
    validatePath host value field = .error .unicodeEncode := by
  cases value with
  | string codes =>
    have missing : scalarText codes = none := (scalar_text_none_iff codes).mpr surrogate
    simp only [validatePath, missing]
  | null | bool flag | number value | array items | object members => exact absurd surrogate id

/-- A path that the checks accept: null, or a string that passes them all. -/
def PathAccepted (value : Value) (field : String) : Prop :=
  ∃ path, validatePath host value field = .ok path

/-- An entry with the six keys whose checking ends in another error: `repr` of an operation that
is not supported, or the encoding of a path, reached after the checks before it. -/
def EscapesEntry : Value → Prop
  | .object raw =>
    hasKeys raw changeKeys = true ∧
      (operationOf (member raw "operation") = none ∧
          host.repr (member raw "operation") = none ∨
        operationOf (member raw "operation") ≠ none ∧
          (HasSurrogate (member raw "old_path") ∨
            PathAccepted host (member raw "old_path") "old_path" ∧
              HasSurrogate (member raw "new_path")))
  | _ => False

theorem operation_name_raises (value : Value)
    (shown : operationOf value = none → host.repr value ≠ none) :
    Raises IsContract (validateOperationName host value) := by
  unfold validateOperationName
  split
  · exact raises_ok _
  · next unsupported =>
      split
      · exact raises_error (contract_error_is_contract _)
      · next hidden => exact absurd hidden (shown unsupported)

theorem entry_raises (item : Value) (safe : ¬EscapesEntry host item) :
    Raises IsContract (Change.fromDict host item) := by
  unfold Change.fromDict
  split
  · next raw =>
      apply raises_bind_of_ok (raises_refuse (contract_error_is_contract _))
      intro _ keyed
      rw [refuse_ok, Bool.not_eq_false] at keyed
      apply raises_bind_of_ok
      · apply operation_name_raises
        intro unsupported hidden
        exact safe ⟨keyed, Or.inl ⟨unsupported, hidden⟩⟩
      · intro operation named
        have supported : operationOf (member raw "operation") ≠ none := by
          intro unsupported
          unfold validateOperationName at named
          rw [unsupported] at named
          split at named
          · next absent => cases absent
          · split at named <;> cases named
        apply raises_bind_of_ok
        · apply path_raises
          intro surrogate
          exact safe ⟨keyed, Or.inr ⟨supported, Or.inl surrogate⟩⟩
        · intro oldPath accepted
          apply raises_bind
          · apply path_raises
            intro surrogate
            exact safe ⟨keyed, Or.inr ⟨supported, Or.inr ⟨⟨oldPath, accepted⟩, surrogate⟩⟩⟩
          · intro newPath
            apply raises_bind (counter_raises _ _)
            intro linesAdded
            apply raises_bind (counter_raises _ _)
            intro linesRemoved
            apply raises_bind (binary_raises _)
            intro binary
            exact raises_bind (semantics_raise _) fun _ => raises_pure _
  · exact raises_error (contract_error_is_contract _)

theorem entry_escapes (item : Value) (escapes : EscapesEntry host item) :
    ∃ problem, Change.fromDict host item = .error problem ∧ ¬IsContract problem := by
  have encode : ¬IsContract .unicodeEncode := by
    intro contract
    rcases contract with ⟨message, impossible⟩
    cases impossible
  have shown : ¬IsContract .repr := by
    intro contract
    rcases contract with ⟨message, impossible⟩
    cases impossible
  cases item with
  | object raw =>
    rcases escapes with ⟨keyed, ⟨unsupported, hidden⟩ | ⟨supported, surrogate⟩⟩
    · exists .repr
      apply And.intro _ shown
      unfold Change.fromDict validateOperationName
      simp only [keyed, unsupported, hidden]
      rfl
    · exists .unicodeEncode
      apply And.intro _ encode
      rcases Option.ne_none_iff_exists'.mp supported with ⟨operation, named⟩
      rcases surrogate with old | ⟨⟨path, accepted⟩, new⟩
      · unfold Change.fromDict validateOperationName
        simp only [keyed, named, path_escapes host _ _ old]
        rfl
      · unfold Change.fromDict validateOperationName
        simp only [keyed, named, accepted, path_escapes host _ _ new]
        rfl
  | null | bool flag | number value | string codes | array items => exact absurd escapes id

/-- The entry that escapes is reached when every entry before it is accepted. -/
def ReachesEscape (items : List Value) : Prop :=
  ∃ front item back, items = front ++ item :: back ∧
    (∀ earlier ∈ front, ∃ change, Change.fromDict host earlier = .ok change) ∧
      EscapesEntry host item

theorem items_raise (items : List Value) (safe : ¬ReachesEscape host items) :
    Raises IsContract (changesFromList host items) := by
  induction items with
  | nil => exact raises_ok _
  | cons item rest ih =>
    rw [changesFromList]
    apply raises_bind_of_ok
    · apply entry_raises
      intro escapes
      exact safe ⟨[], item, rest, rfl, by simp, escapes⟩
    · intro change accepted
      refine raises_bind (ih ?_) fun _ => raises_pure _
      intro later
      rcases later with ⟨front, found, back, whole, before, escapes⟩
      apply safe
      refine ⟨item :: front, found, back, by rw [whole, List.cons_append], ?_, escapes⟩
      intro earlier inside
      rcases List.mem_cons.mp inside with here | there
      · rw [here]
        exact ⟨change, accepted⟩
      · exact before earlier there

theorem items_escape (items : List Value) (reached : ReachesEscape host items) :
    ∃ problem, changesFromList host items = .error problem ∧ ¬IsContract problem := by
  rcases reached with ⟨front, item, back, whole, before, escapes⟩
  subst whole
  induction front with
  | nil =>
    rcases entry_escapes host item escapes with ⟨problem, raised, other⟩
    exact ⟨problem, by rw [List.nil_append, changesFromList, raised]; rfl, other⟩
  | cons first rest ih =>
    rcases before first List.mem_cons_self with ⟨change, accepted⟩
    rcases ih fun earlier inside => before earlier (List.mem_cons_of_mem _ inside) with
      ⟨problem, raised, other⟩
    exact ⟨problem, by rw [List.cons_append, changesFromList, accepted, raised]; rfl, other⟩

theorem make_raises (changes : List Change) : Raises IsContract (ChangeSet.make host changes) := by
  have known (bad : Prop) [Decidable bad] (message : Text) :
      Raises IsContract (refuse bad (contractError message)) :=
    raises_refuse (contract_error_is_contract message)
  unfold ChangeSet.make
  exact raises_bind (known _ _) fun _ => raises_bind (known _ _) fun _ =>
    raises_bind (known _ _) fun _ => raises_bind (known _ _) fun _ => raises_pure _

/-- A document with the right keys and format, one of whose entries escapes. -/
def Escapes : Value → Prop
  | .object raw =>
    hasKeys raw rootKeys = true ∧ isFormat (member raw "format") = true ∧
      ∃ items, member raw "changes" = .array items ∧ ReachesEscape host items
  | _ => False

theorem set_raises (value : Value) (safe : ¬Escapes host value) :
    Raises IsContract (ChangeSet.fromDict host value) := by
  unfold ChangeSet.fromDict
  split
  · next raw =>
      apply raises_bind_of_ok (raises_refuse (contract_error_is_contract _))
      intro _ keyed
      rw [refuse_ok, Bool.not_eq_false] at keyed
      apply raises_bind_of_ok (raises_refuse (contract_error_is_contract _))
      intro _ formatted
      rw [refuse_ok, Bool.not_eq_false] at formatted
      split
      · next items listed =>
          apply raises_bind _ fun changes => make_raises host changes
          apply items_raise
          intro reached
          exact safe ⟨keyed, formatted, items, listed, reached⟩
      · exact raises_error (contract_error_is_contract _)
  · exact raises_error (contract_error_is_contract _)

theorem set_escapes (value : Value) (escapes : Escapes host value) :
    ∃ problem, ChangeSet.fromDict host value = .error problem ∧ ¬IsContract problem := by
  cases value with
  | object raw =>
    rcases escapes with ⟨keyed, formatted, items, listed, reached⟩
    rcases items_escape host items reached with ⟨problem, raised, other⟩
    exists problem
    apply And.intro _ other
    simp only [ChangeSet.fromDict, keyed, formatted, listed, raised]
    rfl
  | null | bool flag | number value | string codes | array items => exact absurd escapes id

theorem contract_errors_only_iff (value : Value) :
    Raises IsContract (ChangeSet.fromDict host value) ↔ ¬Escapes host value := by
  constructor
  · intro closed escapes
    rcases set_escapes host value escapes with ⟨problem, raised, other⟩
    exact other (closed problem raised)
  · exact set_raises host value

/-! Dicts -/

end Host

/-- Equality of two dicts: under every key the same value, or none in either. -/
def SameDict : Value → Value → Prop
  | .object left, .object right => ∀ key, left.lookup key = right.lookup key
  | _, _ => False

theorem SameDict.symm {left right : Value} (same : SameDict left right) : SameDict right left := by
  cases left <;> cases right <;> try exact same
  intro key
  exact (same key).symm

theorem SameDict.trans {first second third : Value} (left : SameDict first second)
    (right : SameDict second third) : SameDict first third := by
  cases first <;> cases second <;> try exact absurd left id
  cases third <;> try exact absurd right id
  intro key
  exact (left key).trans (right key)

theorem lookup_some_iff (members : List (Letters × Value)) (key : Letters) :
    (members.lookup key).isSome = true ↔ key ∈ members.map Prod.fst := by
  rw [List.lookup_isSome_iff, List.mem_map]
  constructor
  · intro found
    rcases found with ⟨member, inside, same⟩
    exact ⟨member, inside, (beq_iff_eq.mp same).symm⟩
  · intro found
    rcases found with ⟨member, inside, same⟩
    exact ⟨member, inside, beq_iff_eq.mpr same.symm⟩

theorem has_keys_iff (members : List (Letters × Value)) (keys : List String) :
    hasKeys members keys = true ↔
      ∀ key, (members.lookup key).isSome = true ↔ key ∈ keys.map letters := by
  simp only [hasKeys, Bool.and_eq_true, List.all_eq_true, List.contains_iff_mem]
  constructor
  · intro both key
    rw [lookup_some_iff]
    constructor
    · intro inside
      rcases List.mem_map.mp inside with ⟨member, listed, same⟩
      rw [← same]
      exact both.1 member listed
    · intro inside
      rcases List.mem_map.mp inside with ⟨name, listed, same⟩
      rw [← same]
      exact both.2 name listed
  · intro agree
    constructor
    · intro member listed
      exact (agree member.1).mp ((lookup_some_iff members _).mpr (List.mem_map_of_mem listed))
    · intro name listed
      exact (lookup_some_iff members _).mp ((agree _).mpr (List.mem_map_of_mem listed))

theorem lookup_of_keys {members : List (Letters × Value)} {keys : List String} {key : String}
    (keyed : hasKeys members keys = true) (listed : key ∈ keys) :
    members.lookup (letters key) = some (member members key) := by
  have present := ((has_keys_iff members keys).mp keyed (letters key)).mpr
    (List.mem_map_of_mem listed)
  rcases Option.isSome_iff_exists.mp present with ⟨value, found⟩
  rw [member, found, Option.getD_some]

theorem same_dict_of_members {left right : List (Letters × Value)} (keys : List String)
    (leftKeyed : hasKeys left keys = true) (rightKeyed : hasKeys right keys = true)
    (same : ∀ key ∈ keys, member left key = member right key) :
    SameDict (.object left) (.object right) := by
  intro key
  by_cases listed : key ∈ keys.map letters
  · rcases List.mem_map.mp listed with ⟨name, known, spelled⟩
    subst spelled
    rw [lookup_of_keys leftKeyed known, lookup_of_keys rightKeyed known, same name known]
  · have missing {members : List (Letters × Value)} (keyed : hasKeys members keys = true) :
        members.lookup key = none := by
      rw [← Option.not_isSome_iff_eq_none, (has_keys_iff members keys).mp keyed key]
      exact listed
    rw [missing leftKeyed, missing rightKeyed]

section Host

variable (host : UnicodeHost)

theorem from_dict_congr (left right : Value) (same : SameDict left right) :
    Change.fromDict host left = Change.fromDict host right := by
  cases left <;> cases right <;> try exact absurd same id
  next left right =>
    have keys : hasKeys left changeKeys = hasKeys right changeKeys := by
      rw [Bool.eq_iff_iff, has_keys_iff, has_keys_iff]
      simp only [same _]
    have members (key : String) : member left key = member right key := by
      rw [member, member, same]
    simp only [Change.fromDict, keys, members]

theorem operation_of_name {value : Value} {operation : Operation}
    (named : validateOperationName host value = .ok operation) :
    value = .string (letters operation.name) := by
  unfold validateOperationName at named
  split at named
  · next found known =>
      cases named
      unfold operationOf at known
      split at known
      · next codes =>
          have same := List.find?_some known
          rw [of_decide_eq_true same]
      · cases known
  · split at named <;> cases named

theorem path_of_ok {value : Value} {field : String} {path : Option Text}
    (accepted : validatePath host value field = .ok path) : value = valueOf (pathJson path) := by
  unfold validatePath at accepted
  split at accepted
  · cases accepted
    rfl
  · next codes =>
      split at accepted
      · cases accepted
      · next text scalar =>
          simp only [bind_ok, pure_ok] at accepted
          rcases accepted with ⟨_, _, same⟩
          subst same
          rw [code_points_of_scalar_text codes text scalar]
          rfl
  · cases accepted

theorem counter_of_ok {value : Value} {field : String} {counter : Nat}
    (accepted : validateCounter value field = .ok counter) :
    value = .number (.int counter) := by
  unfold validateCounter at accepted
  split at accepted
  · next number =>
      split at accepted
      · cases accepted
      · next inside =>
          cases accepted
          rw [Int.toNat_of_nonneg (by omega)]
  · cases accepted

theorem binary_of_ok {value : Value} {binary : Bool}
    (accepted : validateBinary value = .ok binary) : value = .bool binary := by
  unfold validateBinary at accepted
  split at accepted
  · cases accepted
    rfl
  · cases accepted

theorem change_of_ok {item : Value} {change : Change}
    (accepted : Change.fromDict host item = .ok change) :
    SameDict item (valueOf change.asDict) ∧ validateChangeSemantics change = .ok () := by
  unfold Change.fromDict at accepted
  split at accepted
  · next raw =>
      simp only [bind_ok, refuse_ok, pure_ok, Bool.not_eq_false] at accepted
      rcases accepted with ⟨_, keyed, operation, named, oldPath, old, newPath, new, added,
        addedCounted, removed, removedCounted, binary, flag, _, valid, whole⟩
      subst whole
      apply And.intro _ valid
      apply same_dict_of_members changeKeys keyed rfl
      intro key listed
      simp only [changeKeys, List.mem_cons, List.not_mem_nil, or_false] at listed
      rcases listed with here | here | here | here | here | here
      · subst here
        exact operation_of_name host named
      · subst here
        exact path_of_ok host old
      · subst here
        exact path_of_ok host new
      · subst here
        exact counter_of_ok addedCounted
      · subst here
        exact counter_of_ok removedCounted
      · subst here
        exact binary_of_ok flag
  · cases accepted

theorem entry_restored {item : Value} {change : Change}
    (accepted : Change.fromDict host item = .ok change) :
    Change.fromDict host (valueOf change.asDict) = .ok change := by
  rw [← from_dict_congr host _ _ (change_of_ok host accepted).1]
  exact accepted

def Accepts (item : Value) (change : Change) : Prop := Change.fromDict host item = .ok change

theorem changes_ok_iff (items : List Value) (changes : List Change) :
    changesFromList host items = .ok changes ↔ List.Forall₂ (Accepts host) items changes := by
  induction items generalizing changes with
  | nil =>
    rw [changesFromList, List.forall₂_nil_left_iff]
    constructor
    · intro same
      cases same
      rfl
    · intro same
      rw [same]
  | cons item rest ih =>
    rw [changesFromList, List.forall₂_cons_left_iff]
    simp only [bind_ok, pure_ok, ih]
    constructor
    · intro read
      rcases read with ⟨change, accepted, later, listed, whole⟩
      exact ⟨change, later, accepted, listed, whole.symm⟩
    · intro read
      rcases read with ⟨change, later, accepted, listed, whole⟩
      exact ⟨change, accepted, later, listed, whole.symm⟩

theorem values_of_eq (items : List Json) : valuesOf items = items.map valueOf := by
  induction items with
  | nil => rfl
  | cons item rest ih => rw [valuesOf, ih, List.map_cons]

theorem changes_restored {items : List Value} {changes : List Change}
    (accepted : changesFromList host items = .ok changes) (others : List Change)
    (among : ∀ change ∈ others, change ∈ changes) :
    changesFromList host (valuesOf (others.map Change.asDict)) = .ok others := by
  rw [changes_ok_iff] at accepted
  rw [changes_ok_iff, values_of_eq, List.map_map, List.forall₂_map_left_iff, List.forall₂_same]
  intro change inside
  have listed := among change inside
  rcases List.mem_iff_getElem.mp listed with ⟨index, bound, found⟩
  have item := accepted.get (by rw [accepted.length_eq]; exact bound) bound
  rw [List.get_eq_getElem, List.get_eq_getElem, found] at item
  exact entry_restored host item

/-! The ascending order of the changes -/

theorem make_ok_iff (changes : List Change) (set : ChangeSet) :
    ChangeSet.make host changes = .ok set ↔
      changes.length ≤ maxMaterializedChanges ∧
        set.changes = sortOn keyLe (changeSortKey host) changes ∧
          (foldedPaths host set.changes).Nodup ∧
            (set.changes.map Change.linesAdded).sum ≤ maxMaterializedCounter ∧
              (set.changes.map Change.linesRemoved).sum ≤ maxMaterializedCounter := by
  have unique (paths : List Text) : paths.dedup.length = paths.length ↔ paths.Nodup := by
    rw [← List.dedup_eq_self]
    constructor
    · exact (List.dedup_sublist paths).eq_of_length
    · intro same
      rw [same]
  simp only [ChangeSet.make, bind_ok, refuse_ok, pure_ok, not_lt, ne_eq, not_not, unique]
  constructor
  · intro made
    rcases made with ⟨_, few, _, distinct, _, added, _, removed, whole⟩
    subst whole
    exact ⟨few, rfl, distinct, added, removed⟩
  · intro made
    rcases made with ⟨few, sorted, distinct, added, removed⟩
    rw [sorted] at distinct added removed
    cases set
    cases sorted
    exact ⟨(), few, (), distinct, (), added, (), removed, rfl⟩

theorem key_order : TotalOrder keyLe := lex_order (lex_order nat_order)

theorem affected_paths_proper (change : Change) (valid : validateChangeSemantics change = .ok ()) :
    ∃ path rest, change.affectedPaths = path :: rest := by
  rcases change with ⟨operation, oldPath, newPath, linesAdded, linesRemoved, binary⟩
  simp only [validateChangeSemantics, bind_ok, refuse_ok] at valid
  rcases valid with ⟨_, checked, _⟩
  cases operation
  all_goals
    simp only [validateOperation, validateAdd, validateModify, validateDelete, validateRename,
      validateCopy, validateMode, validateSamePath, validateDistinctPaths, bind_ok, refuse_ok,
      not_or] at checked
    cases oldPath <;> cases newPath <;> simp_all [Change.affectedPaths]

theorem sort_keys_distinct (changes : List Change)
    (proper : ∀ change ∈ changes, ∃ path rest, change.affectedPaths = path :: rest)
    (distinct : (foldedPaths host changes).Nodup) :
    (changes.map (changeSortKey host)).Nodup := by
  induction changes with
  | nil => exact List.nodup_nil
  | cons change others ih =>
    rw [foldedPaths, List.flatMap_cons, List.map_append, List.nodup_append] at distinct
    rcases distinct with ⟨_, later, apart⟩
    rw [List.map_cons, List.nodup_cons]
    apply And.intro _
      (ih (fun other inside => proper other (List.mem_cons_of_mem _ inside)) later)
    intro repeated
    rcases List.mem_map.mp repeated with ⟨other, inside, same⟩
    rcases proper change List.mem_cons_self with ⟨path, rest, affected⟩
    rcases proper other (List.mem_cons_of_mem _ inside) with
      ⟨otherPath, otherRest, otherAffected⟩
    have folded : host.mapping.casefold otherPath = host.mapping.casefold path := by
      have heads := (List.cons.inj same).1
      rw [affected, otherAffected] at heads
      exact code_points_injective heads
    apply apart (host.mapping.casefold path) _ (host.mapping.casefold otherPath) _ folded.symm
    · rw [affected]
      exact List.mem_map_of_mem List.mem_cons_self
    · apply List.mem_map_of_mem
      rw [List.mem_flatMap]
      exact ⟨other, inside, by rw [otherAffected]; exact List.mem_cons_self⟩

structure MadeFrom (items : List Value) (set : ChangeSet) (changes : List Change) : Prop where
  accepted : changesFromList host items = .ok changes
  made : ChangeSet.make host changes = .ok set

namespace MadeFrom

variable {host} {items : List Value} {set : ChangeSet} {changes : List Change}

section

variable (made : MadeFrom host items set changes)
include made

theorem sorted :
    set.changes = sortOn keyLe (changeSortKey host) changes :=
  ((make_ok_iff host changes set).mp made.made).2.1

theorem perm : set.changes.Perm changes := by
  rw [made.sorted]
  exact sort_on_perm _ _ changes

theorem valid :
    ∀ change ∈ changes, validateChangeSemantics change = .ok () := by
  intro change listed
  have accepted := (changes_ok_iff host items changes).mp made.accepted
  rcases List.mem_iff_getElem.mp listed with ⟨index, bound, found⟩
  have item := accepted.get (by rw [accepted.length_eq]; exact bound) bound
  rw [List.get_eq_getElem, List.get_eq_getElem, found] at item
  exact (change_of_ok host item).2

theorem distinct :
    (changes.map (changeSortKey host)).Nodup := by
  rw [← ((made.perm).map _).nodup_iff]
  apply sort_keys_distinct
  · intro change inside
    exact affected_paths_proper change (made.valid change (made.perm.mem_iff.mp inside))
  · exact ((make_ok_iff host changes set).mp made.made).2.2.1

end

theorem eq_iff_perm {otherItems : List Value} {otherSet : ChangeSet} {others : List Change}
    (made : MadeFrom host items set changes) (other : MadeFrom host otherItems otherSet others) :
    set = otherSet ↔ changes.Perm others := by
  constructor
  · intro same
    subst same
    exact made.perm.symm.trans other.perm
  · intro permuted
    have same : set.changes = otherSet.changes := by
      rw [made.sorted, other.sorted]
      exact sort_on_eq_of_perm key_order _ _ _ permuted made.distinct
    cases set
    cases otherSet
    cases same
    rfl

end MadeFrom

theorem set_of_ok {value : Value} {set : ChangeSet}
    (accepted : ChangeSet.fromDict host value = .ok set) :
    ∃ raw items changes, value = .object raw ∧ member raw "changes" = .array items ∧
      MadeFrom host items set changes := by
  unfold ChangeSet.fromDict at accepted
  split at accepted
  · next raw =>
      simp only [bind_ok, refuse_ok] at accepted
      rcases accepted with ⟨_, _, _, _, accepted⟩
      split at accepted
      · next items listed =>
          rw [bind_ok] at accepted
          rcases accepted with ⟨changes, read, made⟩
          exact ⟨raw, items, changes, rfl, listed, read, made⟩
      · cases accepted
  · cases accepted

theorem make_restored {items : List Value} {set : ChangeSet} {changes : List Change}
    (made : MadeFrom host items set changes) : ChangeSet.make host set.changes = .ok set := by
  have facts := (make_ok_iff host changes set).mp made.made
  rw [make_ok_iff]
  refine ⟨by rw [made.perm.length_eq]; exact facts.1, ?_, facts.2.2⟩
  rw [sort_on_eq_of_perm key_order _ _ _ made.perm ((made.perm.map _).nodup_iff.mpr made.distinct)]
  exact made.sorted

theorem from_dict_of_items (items : List Value) :
    ChangeSet.fromDict host (.object [(letters "format", .string (letters formatName)),
      (letters "changes", .array items)]) =
        changesFromList host items >>= ChangeSet.make host :=
  rfl

theorem set_restored {value : Value} {set : ChangeSet}
    (accepted : ChangeSet.fromDict host value = .ok set) :
    ChangeSet.fromDict host (valueOf set.asDict) = .ok set := by
  rcases set_of_ok host accepted with ⟨_, items, changes, _, _, made⟩
  have entries := changes_restored host made.accepted set.changes fun change inside =>
    made.perm.mem_iff.mp inside
  have whole : valueOf set.asDict = .object [(letters "format", .string (letters formatName)),
      (letters "changes", .array (valuesOf (set.changes.map Change.asDict)))] := rfl
  rw [whole, from_dict_of_items, entries]
  exact make_restored host made

end Host

/-! The bytes -/

theorem change_sorted (change : Change) :
    JsonCodec.sortKeys change.asDict = .object [("binary", .bool change.binary),
      ("lines_added", .int change.linesAdded),
      ("lines_removed", .int change.linesRemoved),
      ("new_path", pathJson change.newPath), ("old_path", pathJson change.oldPath),
      ("operation", .string change.operation.name.toList)] := by
  rcases change with ⟨operation, oldPath, newPath, linesAdded, linesRemoved, binary⟩
  cases oldPath <;> cases newPath <;> rfl

theorem path_json_injective : Function.Injective pathJson := by
  intro left right same
  cases left <;> cases right
  · rfl
  · cases same
  · cases same
  · cases same
    rfl

theorem operation_name_injective (left right : Operation)
    (same : left.name.toList = right.name.toList) : left = right := by
  rw [String.toList_inj] at same
  cases left <;> cases right <;> simp_all [Operation.name]

theorem change_sorted_injective (left right : Change)
    (same : JsonCodec.sortKeys left.asDict = JsonCodec.sortKeys right.asDict) : left = right := by
  rw [change_sorted, change_sorted] at same
  simp only [Json.object.injEq, List.cons.injEq, Prod.mk.injEq, Json.bool.injEq, Json.int.injEq,
    Json.string.injEq, Int.ofNat_inj, true_and, and_true] at same
  rcases same with ⟨binary, added, removed, new, old, name⟩
  rcases left with ⟨operation, oldPath, newPath, linesAdded, linesRemoved, isBinary⟩
  simp only at binary added removed new old name
  rw [path_json_injective old, path_json_injective new, operation_name_injective _ _ name, binary,
    added, removed]

theorem sort_items_eq (items : List Json) :
    JsonCodec.sortItems items = items.map JsonCodec.sortKeys := by
  induction items with
  | nil => rfl
  | cons item rest ih => rw [JsonCodec.sortItems, ih, List.map_cons]

theorem set_sorted (set : ChangeSet) :
    JsonCodec.sortKeys set.asDict = .object [
      ("changes", .array (set.changes.map fun change => JsonCodec.sortKeys change.asDict)),
      ("format", .string formatName.toList)] := by
  have sorted : JsonCodec.sortKeys set.asDict = .object [
      ("changes", .array (JsonCodec.sortItems (set.changes.map Change.asDict))),
      ("format", .string formatName.toList)] := rfl
  rw [sorted, sort_items_eq, List.map_map]
  rfl

theorem set_sorted_injective (left right : ChangeSet)
    (same : JsonCodec.sortKeys left.asDict = JsonCodec.sortKeys right.asDict) : left = right := by
  rw [set_sorted, set_sorted] at same
  simp only [Json.object.injEq, List.cons.injEq, Prod.mk.injEq, Json.array.injEq, true_and,
    and_true] at same
  have changes := List.map_injective_iff.mpr change_sorted_injective same
  cases left
  cases right
  cases changes
  rfl

theorem set_plain (set : ChangeSet) :
    JsonCodec.plain (fun _ => true) (JsonCodec.sortKeys set.asDict) = true := by
  have entries (changes : List Change) : JsonCodec.plainItems (fun _ => true)
      (changes.map fun change => JsonCodec.sortKeys change.asDict) = true := by
    induction changes with
    | nil => rfl
    | cons change rest ih =>
      rw [List.map_cons, JsonCodec.plainItems, ih, Bool.and_true, change_sorted]
      rcases change with ⟨operation, oldPath, newPath, linesAdded, linesRemoved, binary⟩
      cases oldPath <;> cases newPath <;> rfl
  rw [set_sorted, JsonCodec.plain, JsonCodec.plainFields, JsonCodec.plain, entries]
  rfl

/-- Hooks that read every integer. -/
def plainHooks : JsonCodec.NumberHooks where
  parseInt := fun text => .ok (JsonCodec.intValue text)
  parseFloat := fun _ => .ok 0

theorem dumps_injective (floatText : Rat → Text) (left right : ChangeSet)
    (same : JsonCodec.dumps false floatText left.asDict =
      JsonCodec.dumps false floatText right.asDict) : left = right := by
  have numbers : ∀ value : Int, true = true →
      plainHooks.parseInt (JsonCodec.intText value) = .ok value := by
    intro value _
    exact congrArg Except.ok (JsonCodec.int_value_text value)
  have read (set : ChangeSet) : JsonCodec.loads plainHooks
      (JsonCodec.dumps false floatText set.asDict) = .ok (JsonCodec.sortKeys set.asDict) := by
    have loaded := @JsonCodec.loads_encode false floatText plainHooks _ numbers _
      (set_plain set) [] rfl
    rw [List.append_nil] at loaded
    exact loaded
  apply set_sorted_injective
  have both := read left
  rw [same, read right] at both
  exact (Except.ok.inj both).symm

section Host

variable (host : UnicodeHost) (floatText : Rat → Text)

theorem canonical_bytes_of_ok {value : Value} {set : ChangeSet}
    (accepted : ChangeSet.fromDict host value = .ok set) :
    canonicalBytes host floatText value =
      .ok (utf8 (JsonCodec.dumps false floatText set.asDict)) := by
  rw [canonicalBytes, accepted]
  rfl

theorem canonical_bytes_eq_iff {value other : Value} {set otherSet : ChangeSet}
    (accepted : ChangeSet.fromDict host value = .ok set)
    (otherAccepted : ChangeSet.fromDict host other = .ok otherSet) :
    canonicalBytes host floatText value = canonicalBytes host floatText other ↔
      set = otherSet := by
  rw [canonical_bytes_of_ok host floatText accepted,
    canonical_bytes_of_ok host floatText otherAccepted]
  constructor
  · intro same
    exact dumps_injective floatText _ _ (utf8_injective (Except.ok.inj same))
  · intro same
    rw [same]

end Host

/-- The entries of a document. -/
def rawChanges : Value → List Value
  | .object raw =>
    match member raw "changes" with
    | .array items => items
    | _ => []
  | _ => []

def PermutedDicts (left right : List Value) : Prop :=
  ∃ middle, left.Perm middle ∧ List.Forall₂ SameDict middle right

section Host

variable (host : UnicodeHost)

theorem same_change_iff {left right : Value} {change other : Change}
    (accepted : Accepts host left change) (otherAccepted : Accepts host right other) :
    SameDict left right ↔ change = other := by
  constructor
  · intro same
    rw [Accepts, from_dict_congr host left right same, otherAccepted] at accepted
    exact (Except.ok.inj accepted).symm
  · intro same
    subst same
    exact (change_of_ok host accepted).1.trans (change_of_ok host otherAccepted).1.symm

theorem same_changes_iff {left right : List Value} {changes others : List Change}
    (accepted : List.Forall₂ (Accepts host) left changes)
    (otherAccepted : List.Forall₂ (Accepts host) right others) :
    List.Forall₂ SameDict left right ↔ changes = others := by
  induction accepted generalizing right others with
  | nil =>
    rw [List.forall₂_nil_left_iff]
    cases otherAccepted with
    | nil => exact iff_of_true rfl rfl
    | cons _ _ => simp
  | cons head _ ih =>
    cases otherAccepted with
    | nil => simp
    | cons otherHead otherTail =>
      rw [List.forall₂_cons, List.cons.injEq, same_change_iff host head otherHead, ih otherTail]

theorem permuted_dicts_iff {items others : List Value} {changes otherChanges : List Change}
    (accepted : List.Forall₂ (Accepts host) items changes)
    (otherAccepted : List.Forall₂ (Accepts host) others otherChanges) :
    PermutedDicts items others ↔ changes.Perm otherChanges := by
  constructor
  · intro permuted
    rcases permuted with ⟨middle, moved, same⟩
    -- The entries in their new order are read as the same changes in that order.
    rcases List.perm_comp_forall₂ moved.symm accepted with ⟨inOrder, read, back⟩
    rw [← (same_changes_iff host read otherAccepted).mp same]
    exact back.symm
  · intro permuted
    have turned : Relation.Comp (List.Forall₂ (Accepts host)) List.Perm items otherChanges :=
      ⟨changes, accepted, permuted⟩
    rw [List.forall₂_comp_perm_eq_perm_comp_forall₂] at turned
    rcases turned with ⟨middle, moved, read⟩
    exact ⟨middle, moved, (same_changes_iff host read otherAccepted).mpr rfl⟩

variable (floatText : Rat → Text)

theorem bytes_eq_iff_permuted {value other : Value} {set otherSet : ChangeSet}
    (accepted : ChangeSet.fromDict host value = .ok set)
    (otherAccepted : ChangeSet.fromDict host other = .ok otherSet) :
    canonicalBytes host floatText value = canonicalBytes host floatText other ↔
      PermutedDicts (rawChanges value) (rawChanges other) := by
  rcases set_of_ok host accepted with ⟨raw, items, changes, whole, listed, made⟩
  rcases set_of_ok host otherAccepted with
    ⟨otherRaw, others, otherChanges, otherWhole, otherListed, otherMade⟩
  have entries : rawChanges value = items := by
    rw [whole, rawChanges, listed]
  have otherEntries : rawChanges other = others := by
    rw [otherWhole, rawChanges, otherListed]
  rw [canonical_bytes_eq_iff host floatText accepted otherAccepted, made.eq_iff_perm otherMade,
    entries, otherEntries, permuted_dicts_iff host ((changes_ok_iff host _ _).mp made.accepted)
      ((changes_ok_iff host _ _).mp otherMade.accepted)]

/-- The canonical form: only contract errors are raised, an accepted set is read back from its own
dict, and its bytes are those of the accepted values with the same changes and of no others. -/
structure CanonicalForm (value : Value) : Prop where
  closed : ∀ problem, ChangeSet.fromDict host value = .error problem → IsContract problem
  restored : ∀ set, ChangeSet.fromDict host value = .ok set →
    ChangeSet.fromDict host (valueOf set.asDict) = .ok set
  faithful : ∀ other set otherSet, ChangeSet.fromDict host value = .ok set →
    ChangeSet.fromDict host other = .ok otherSet →
      (canonicalBytes host floatText value = canonicalBytes host floatText other ↔
        PermutedDicts (rawChanges value) (rawChanges other))

theorem canonical_form_iff (value : Value) :
    CanonicalForm host floatText value ↔ ¬Escapes host value := by
  constructor
  · intro form
    exact (contract_errors_only_iff host value).mp form.closed
  · intro safe
    exact {
      closed := (contract_errors_only_iff host value).mpr safe
      restored := fun set accepted => set_restored host accepted
      faithful := fun other set otherSet accepted otherAccepted =>
        bytes_eq_iff_permuted host floatText accepted otherAccepted }

end Host

/-! A lone surrogate -/

def asciiHost : UnicodeHost where
  mapping := asciiCase
  normalizeNfc := id
  category := fun _ => "Lo"
  repr := fun _ => some []

def surrogatePath : Value :=
  .object [(letters "format", .string (letters formatName)),
    (letters "changes", .array [.object [(letters "operation", .string (letters "add")),
      (letters "old_path", .null), (letters "new_path", .string [0xd800]),
      (letters "lines_added", .number (.int 0)), (letters "lines_removed", .number (.int 0)),
      (letters "binary", .bool false)]])]

theorem surrogate_path_escapes :
    ChangeSet.fromDict asciiHost surrogatePath = .error .unicodeEncode ∧
      ¬CanonicalForm asciiHost (fun _ => []) surrogatePath := by
  have raised : ChangeSet.fromDict asciiHost surrogatePath = .error .unicodeEncode := rfl
  apply And.intro raised
  intro form
  rcases form.closed _ raised with ⟨message, impossible⟩
  cases impossible

end EvoomGuard.Domain.BlastRadius
