import EvoomGuard.Lib.Framing
import EvoomGuard.Lib.Listing

/-!
The runtime tree of `runtime_identity.py` and the containment check of its symbolic links, beside
path resolution as POSIX defines it. Names and targets are byte strings, which `os.fsencode` and
`os.fsdecode` translate without loss. The tree does not change while it is read.
-/

namespace EvoomGuard.Runtime

open Lib Lib.Framing

inductive RuntimeObject where
  | directory (permissions : Nat)
  | file (permissions : Nat) (data : ByteArray)
  | link (permissions : Nat) (target : Bytes)
  | special
  deriving DecidableEq

def RuntimeObject.isDirectory : RuntimeObject → Bool
  | .directory _ => true
  | _ => false

def slash : UInt8 := 47

def dot : Bytes := [46]

def dotDot : Bytes := [46, 46]

def isEntryName (name : Bytes) : Bool :=
  name != [] && name != dot && name != dotDot && !name.contains slash

structure RuntimeTree where
  listing : Listing Bytes RuntimeObject.isDirectory
  named : ∀ path name, (listing.entry (path ++ [name])).isSome = true → isEntryName name = true

def RuntimeTree.ofEntries (entries : List (List Bytes × RuntimeObject))
    (distinct : (entries.map Prod.fst).Nodup)
    (root : (Listing.entryIn entries []).any RuntimeObject.isDirectory = true)
    (parent : ∀ item ∈ entries, item.1 ≠ [] →
      (Listing.entryIn entries item.1.dropLast).any RuntimeObject.isDirectory = true)
    (named : ∀ item ∈ entries, ∀ name ∈ item.1, isEntryName name = true) : RuntimeTree where
  listing := Listing.ofEntries entries distinct root parent
  named := by
    intro path name present
    have inside := (Listing.entry_in_is_some entries _).mp present
    rcases List.mem_map.mp inside with ⟨item, found, same⟩
    exact named item found name (by simp [same])

def components (path : Bytes) : List Bytes := path.splitOn slash

def isAbsolute (target : Bytes) : Bool := target.head? == some slash

inductive SymlinkError where
  | absolute
  | escapes
  | dangling
  | limit
  deriving DecidableEq

/-- The components of a target put after `merged` one by one, dots taken as text. -/
def mergeComponents : List Bytes → List Bytes → Except SymlinkError (List Bytes)
  | merged, [] => .ok merged
  | merged, component :: rest =>
    if component = [] ∨ component = dot then mergeComponents merged rest
    else if component = dotDot then
      if merged = [] then .error .escapes else mergeComponents merged.dropLast rest
    else mergeComponents (merged ++ [component]) rest

def mergeRelativeTarget (base : List Bytes) (target : Bytes) (tail : List Bytes) :
    Except SymlinkError (List Bytes) :=
  if isAbsolute target then .error .absolute
  else
    match mergeComponents base (components target) with
    | .error problem => .error problem
    | .ok merged => .ok (merged ++ tail)

section Check

variable (tree : RuntimeTree)

/-- Walks the pending components below the directory `resolved`; `follow` goes on behind a
link. -/
def resolveWith (follow : List Bytes → Bytes → List Bytes → Except SymlinkError Unit) :
    List Bytes → List Bytes → Except SymlinkError Unit
  | _, [] => .ok ()
  | resolved, component :: rest =>
    match tree.listing.entry (resolved ++ [component]) with
    | none => .error .dangling
    | some (.link _ target) => follow resolved target rest
    | some object =>
      if rest = [] then .ok ()
      else if object.isDirectory then resolveWith follow (resolved ++ [component]) rest
      else .error .dangling

/-- A link starts the walk again at the root, `budget` times at most. -/
def resolvePending : Nat → List Bytes → List Bytes → Except SymlinkError Unit
  | 0 => resolveWith tree fun _ _ _ => .error .limit
  | budget + 1 =>
    resolveWith tree fun resolved target rest =>
      match mergeRelativeTarget resolved target rest with
      | .error problem => .error problem
      | .ok pending => resolvePending budget [] pending

def followLimit : Nat := 40

/-- The check of a link that stands in the directory `parent`. -/
def validateContainedSymlinkAt (parent : List Bytes) (target : Bytes) : Except SymlinkError Unit :=
  match mergeRelativeTarget parent target [] with
  | .error problem => .error problem
  | .ok pending => resolvePending tree followLimit [] pending

end Check

inductive Outcome where
  | found (path : List Bytes)
  | escaped
  | failed
  | looped
  deriving DecidableEq

section Posix

variable (tree : RuntimeTree)

/-- Follows components from the directory `current`. The parent of the root and an absolute link
lead out of the tree; `expand` goes on with the target of a link in front of what is left. -/
def posixWith (expand : List Bytes → List Bytes → Outcome) : List Bytes → List Bytes → Outcome
  | current, [] => .found current
  | current, component :: rest =>
    if component = [] ∨ component = dot then posixWith expand current rest
    else if component = dotDot then
      if current = [] then .escaped else posixWith expand current.dropLast rest
    else
      match tree.listing.entry (current ++ [component]) with
      | none => .failed
      | some (.link _ target) =>
        if isAbsolute target then .escaped else expand current (components target ++ rest)
      | some (.directory _) => posixWith expand (current ++ [component]) rest
      | some _ => if rest = [] then .found (current ++ [component]) else .failed

def posixWalk : Nat → List Bytes → List Bytes → Outcome
  | 0 => posixWith tree fun _ _ => .looped
  | budget + 1 => posixWith tree (posixWalk budget)

end Posix

section

variable (tree : RuntimeTree)

/-- Wherever a target goes up, and where it ends in a slash or a dot, its components so far name
a real directory. -/
def PlainTarget (tail : List Bytes) : List Bytes → List Bytes → Prop
  | _, [] => True
  | merged, component :: rest =>
    if component = [] ∨ component = dot then
      (rest = [] → tail = [] → tree.listing.isDirectory merged = true) ∧
        PlainTarget tail merged rest
    else if component = dotDot then
      tree.listing.isDirectory merged = true ∧ PlainTarget tail merged.dropLast rest
    else PlainTarget tail (merged ++ [component]) rest

/-- The targets of the links met on the way are plain. -/
def plainWith (follow : List Bytes → Bytes → List Bytes → Prop) :
    List Bytes → List Bytes → Prop
  | _, [] => True
  | resolved, component :: rest =>
    match tree.listing.entry (resolved ++ [component]) with
    | none => True
    | some (.link _ target) => follow resolved target rest
    | some _ => plainWith follow (resolved ++ [component]) rest

def PlainPending : Nat → List Bytes → List Bytes → Prop
  | 0 => plainWith tree fun _ _ _ => True
  | budget + 1 =>
    plainWith tree fun resolved target rest =>
      PlainTarget tree rest resolved (components target) ∧
        ∀ pending, mergeRelativeTarget resolved target rest = .ok pending →
          PlainPending budget [] pending

/-- A link and every link its resolution meets have plain targets. -/
def PlainSymlink (parent : List Bytes) (target : Bytes) : Prop :=
  PlainTarget tree [] parent (components target) ∧
    ∀ pending, mergeRelativeTarget parent target [] = .ok pending →
      PlainPending tree followLimit [] pending

end

section Agreement

variable (tree : RuntimeTree)

theorem present_name_is_not_dots (path : List Bytes) (name : Bytes)
    (present : (tree.listing.entry (path ++ [name])).isSome = true) :
    ¬(name = [] ∨ name = dot) ∧ name ≠ dotDot := by
  have proper := tree.named path name present
  simp only [isEntryName, Bool.and_eq_true, bne_iff_ne, ne_eq] at proper
  constructor
  · intro dots
    cases dots with
    | inl empty => exact proper.1.1.1 empty
    | inr single => exact proper.1.1.2 single
  · exact proper.1.2

variable (expand : List Bytes → List Bytes → Outcome)

theorem posix_with_directory (between current rest : List Bytes)
    (arrived : tree.listing.isDirectory (current ++ between) = true) :
    posixWith tree expand current (between ++ rest) =
      posixWith tree expand (current ++ between) rest := by
  induction between generalizing current with
  | nil => simp
  | cons name between ih =>
    have split : current ++ name :: between = current ++ [name] ++ between := by simp
    rw [split] at arrived ⊢
    have here : tree.listing.isDirectory (current ++ [name]) = true := by
      by_cases last : between = []
      · simpa [last] using arrived
      · exact tree.listing.is_directory_of_below _ between last
          (tree.listing.is_some_of_directory _ arrived)
    have proper := present_name_is_not_dots tree current name
      (tree.listing.is_some_of_directory _ here)
    rw [← ih (current ++ [name]) arrived, List.cons_append, posixWith, if_neg proper.1,
      if_neg proper.2]
    unfold Listing.isDirectory at here
    cases found : tree.listing.entry (current ++ [name]) with
    | none => simp [found] at here
    | some object =>
      cases object with
      | directory permissions => rfl
      | file permissions data | link permissions target | special =>
        simp [found, RuntimeObject.isDirectory] at here

theorem posix_walk_directory (budget : Nat) (current rest : List Bytes)
    (arrived : tree.listing.isDirectory current = true) :
    posixWalk tree budget [] (current ++ rest) = posixWalk tree budget current rest := by
  cases budget with
  | zero | succ budget => exact posix_with_directory tree _ current [] rest arrived

theorem posix_with_drop_dot (single : Bytes) (dots : single = [] ∨ single = dot)
    (rest : List Bytes) (more : rest ≠ [])
    (behind : ∀ current before,
      expand current (before ++ single :: rest) = expand current (before ++ rest))
    (before current : List Bytes) :
    posixWith tree expand current (before ++ single :: rest) =
      posixWith tree expand current (before ++ rest) := by
  induction before generalizing current with
  | nil => rw [List.nil_append, List.nil_append, posixWith, if_pos dots]
  | cons name before ih =>
    have left : before ++ single :: rest ≠ [] := by simp
    have right : before ++ rest ≠ [] := by simp [more]
    simp only [List.cons_append, posixWith, ih, if_neg left, if_neg right, ← List.append_assoc,
      behind]

theorem posix_walk_drop_dot (single : Bytes) (dots : single = [] ∨ single = dot)
    (rest : List Bytes) (more : rest ≠ []) (budget : Nat) (before current : List Bytes) :
    posixWalk tree budget current (before ++ single :: rest) =
      posixWalk tree budget current (before ++ rest) := by
  induction budget generalizing before current with
  | zero =>
    apply posix_with_drop_dot tree _ single dots rest more
    intro current before
    rfl
  | succ budget ih =>
    apply posix_with_drop_dot tree _ single dots rest more
    intro current before
    exact ih before current

theorem posix_walk_merged (budget : Nat) (tail : List Bytes) (targets : List Bytes)
    (base merged : List Bytes)
    (accepted : mergeComponents base targets = .ok merged)
    (plain : PlainTarget tree tail base targets) :
    posixWalk tree budget [] (base ++ (targets ++ tail)) =
      posixWalk tree budget [] (merged ++ tail) := by
  induction targets generalizing base with
  | nil =>
    simp only [mergeComponents, Except.ok.injEq] at accepted
    rw [accepted, List.nil_append]
  | cons component rest ih =>
    rw [mergeComponents] at accepted
    rw [PlainTarget] at plain
    by_cases dots : component = [] ∨ component = dot
    · rw [if_pos dots] at accepted plain
      rw [← ih base accepted plain.2, List.cons_append]
      by_cases last : rest ++ tail = []
      · have ended := List.append_eq_nil_iff.mp last
        have arrived := plain.1 ended.1 ended.2
        rw [last, posix_walk_directory tree budget base _ arrived,
          posix_walk_directory tree budget base _ arrived]
        cases budget with
        | zero | succ budget => simp [posixWalk, posixWith, dots]
      · exact posix_walk_drop_dot tree component dots _ last budget base []
    · rw [if_neg dots] at accepted plain
      by_cases up : component = dotDot
      · rw [if_pos up] at accepted plain
        by_cases top : base = []
        · simp [top] at accepted
        · rw [if_neg top] at accepted
          have above : tree.listing.isDirectory base.dropLast = true := by
            apply tree.listing.is_directory_of_below base.dropLast [base.getLast top] (by simp)
            rw [List.dropLast_append_getLast top]
            exact tree.listing.is_some_of_directory _ plain.1
          rw [← ih base.dropLast accepted plain.2,
            posix_walk_directory tree budget base _ plain.1,
            posix_walk_directory tree budget base.dropLast _ above, List.cons_append, up]
          have dotted : ¬(dotDot = [] ∨ dotDot = dot) := by decide
          cases budget with
          | zero | succ budget => rw [posixWalk, posixWith, if_neg dotted, if_pos rfl, if_neg top]
      · rw [if_neg up] at accepted plain
        rw [← ih (base ++ [component]) accepted plain]
        simp

theorem merge_relative_target_ok (base : List Bytes) (target : Bytes) (tail pending : List Bytes)
    (accepted : mergeRelativeTarget base target tail = .ok pending) :
    isAbsolute target = false ∧ ∃ merged,
      mergeComponents base (components target) = .ok merged ∧ pending = merged ++ tail := by
  unfold mergeRelativeTarget at accepted
  split at accepted
  · cases accepted
  · next relative =>
      constructor
      · simpa using relative
      · cases merging : mergeComponents base (components target) with
        | error problem => simp [merging] at accepted
        | ok merged =>
          rw [merging] at accepted
          cases accepted
          exact ⟨merged, rfl, rfl⟩

theorem posix_walk_target (budget : Nat) (base : List Bytes) (target : Bytes)
    (tail pending : List Bytes) (standing : tree.listing.isDirectory base = true)
    (accepted : mergeRelativeTarget base target tail = .ok pending)
    (plain : PlainTarget tree tail base (components target)) :
    posixWalk tree budget base (components target ++ tail) =
      posixWalk tree budget [] pending := by
  rcases merge_relative_target_ok base target tail pending accepted with
    ⟨-, merged, merging, joined⟩
  rw [joined, ← posix_walk_directory tree budget base _ standing]
  exact posix_walk_merged tree budget tail _ base merged merging plain

theorem resolve_with_arrives (follow : List Bytes → Bytes → List Bytes → Except SymlinkError Unit)
    (fair : List Bytes → Bytes → List Bytes → Prop)
    (behind : ∀ resolved target rest, tree.listing.isDirectory resolved = true →
      follow resolved target rest = .ok () → fair resolved target rest →
        isAbsolute target = false ∧ ∃ path, expand resolved (components target ++ rest) =
          .found path ∧ (tree.listing.entry path).isSome = true)
    (pending resolved : List Bytes) (standing : tree.listing.isDirectory resolved = true)
    (accepted : resolveWith tree follow resolved pending = .ok ())
    (plain : plainWith tree fair resolved pending) :
    ∃ path, posixWith tree expand resolved pending = .found path ∧
      (tree.listing.entry path).isSome = true := by
  induction pending generalizing resolved with
  | nil => exact ⟨resolved, rfl, tree.listing.is_some_of_directory _ standing⟩
  | cons component rest ih =>
    rw [resolveWith] at accepted
    rw [plainWith] at plain
    cases found : tree.listing.entry (resolved ++ [component]) with
    | none => simp [found] at accepted
    | some object =>
      have present : (tree.listing.entry (resolved ++ [component])).isSome = true := by
        rw [found]
        rfl
      have proper := present_name_is_not_dots tree resolved component present
      rw [posixWith, if_neg proper.1, if_neg proper.2]
      rw [found] at accepted plain ⊢
      cases object with
      | link permissions target =>
        rcases behind resolved target rest standing accepted plain with
          ⟨relative, path, arrived, exists_⟩
        simp only [relative, Bool.false_eq_true, if_false]
        exact ⟨path, arrived, exists_⟩
      | directory permissions =>
        have below : tree.listing.isDirectory (resolved ++ [component]) = true := by
          rw [Listing.isDirectory, found]
          rfl
        apply ih (resolved ++ [component]) below _ plain
        by_cases last : rest = []
        · rw [last]
          rfl
        · simpa [last, RuntimeObject.isDirectory] using accepted
      | file permissions data | special =>
        by_cases last : rest = []
        · exact ⟨resolved ++ [component], by simp [last], present⟩
        · simp [last, RuntimeObject.isDirectory] at accepted

theorem resolve_pending_arrives (budget : Nat) (pending resolved : List Bytes)
    (standing : tree.listing.isDirectory resolved = true)
    (accepted : resolvePending tree budget resolved pending = .ok ())
    (plain : PlainPending tree budget resolved pending) :
    ∃ path, posixWalk tree budget resolved pending = .found path ∧
      (tree.listing.entry path).isSome = true := by
  induction budget generalizing pending resolved with
  | zero =>
    apply resolve_with_arrives tree _ _ _ _ pending resolved standing accepted plain
    intro resolved target rest standing refused
    cases refused
  | succ budget ih =>
    apply resolve_with_arrives tree _ _ _ _ pending resolved standing accepted plain
    intro resolved target rest standing followed fair
    cases merging : mergeRelativeTarget resolved target rest with
    | error problem => simp [merging] at followed
    | ok next =>
      rw [merging] at followed
      constructor
      · exact (merge_relative_target_ok resolved target rest next merging).1
      · rw [posix_walk_target tree budget resolved target rest next standing merging fair.1]
        exact ih next [] tree.listing.root followed (fair.2 next merging)

end Agreement

/-- An absolute target is refused. Where the link and every link its resolution meets are plain, an
accepted link leads by the POSIX rules to an object of the tree, through at most `followLimit`
further links. -/
theorem accepted_symlink_is_contained (tree : RuntimeTree) (parent : List Bytes) (name : Bytes)
    (permissions : Nat) (target : Bytes)
    (stands : tree.listing.entry (parent ++ [name]) = some (.link permissions target)) :
    (isAbsolute target = true →
      validateContainedSymlinkAt tree parent target = .error .absolute) ∧
    (PlainSymlink tree parent target → validateContainedSymlinkAt tree parent target = .ok () →
      ∃ path, posixWalk tree followLimit parent (components target) = .found path ∧
        (tree.listing.entry path).isSome = true) := by
  have standing : tree.listing.isDirectory parent = true := by
    apply tree.listing.parent parent name
    rw [stands]
    rfl
  constructor
  · intro absolute
    simp [validateContainedSymlinkAt, mergeRelativeTarget, absolute]
  · intro plain accepted
    unfold validateContainedSymlinkAt at accepted
    cases merging : mergeRelativeTarget parent target [] with
    | error problem => simp [merging] at accepted
    | ok pending =>
      rw [merging] at accepted
      have same := posix_walk_target tree followLimit parent target [] pending standing merging
        plain.1
      rw [List.append_nil] at same
      rw [same]
      exact resolve_pending_arrives tree followLimit pending [] tree.listing.root accepted
        (plain.2 pending merging)

/-- A file `x` beside a directory `d` with a link `d/l` to `../x`. -/
def plainLinkTree : RuntimeTree :=
  .ofEntries
    [([], .directory 493), ([[100]], .directory 493), ([[100], [108]], .link 511 [46, 46, 47, 120]),
      ([[120]], .file 420 ⟨#[1]⟩)]
    (by decide) (by decide) (by decide) (by decide)

theorem plain_link_is_plain : PlainSymlink plainLinkTree [[100]] [46, 46, 47, 120] := by
  constructor
  · exact ⟨by decide, trivial⟩
  · intro pending merging
    have joined : mergeRelativeTarget [[100]] [46, 46, 47, 120] [] = .ok [[120]] := by
      decide
    rw [joined] at merging
    cases merging
    exact trivial

theorem plain_link_is_contained :
    validateContainedSymlinkAt plainLinkTree [[100]] [46, 46, 47, 120] = .ok () ∧
      ∃ path, posixWalk plainLinkTree followLimit [[100]] (components [46, 46, 47, 120]) =
        .found path ∧ (plainLinkTree.listing.entry path).isSome = true := by
  have accepted : validateContainedSymlinkAt plainLinkTree [[100]] [46, 46, 47, 120] = .ok () := by
    decide
  exact ⟨accepted, (accepted_symlink_is_contained plainLinkTree [[100]] [108] 511 _ rfl).2
    plain_link_is_plain accepted⟩

/-- A link `l` to `.`, a link `s` to `l/../x` and a file `x`, all in the root. -/
def parentOfLinkTree : RuntimeTree :=
  .ofEntries
    [([], .directory 493), ([[108]], .link 511 [46]), ([[115]], .link 511 [108, 47, 46, 46, 47, 120]),
      ([[120]], .file 420 ⟨#[1]⟩)]
    (by decide) (by decide) (by decide) (by decide)

/-- The merge by text reads `l/../x` as `x`; POSIX goes from the root to its parent. -/
theorem accepted_symlink_escapes :
    parentOfLinkTree.listing.entry [[115]] = some (.link 511 [108, 47, 46, 46, 47, 120]) ∧
    validateContainedSymlinkAt parentOfLinkTree [] [108, 47, 46, 46, 47, 120] = .ok () ∧
    posixWalk parentOfLinkTree followLimit [] (components [108, 47, 46, 46, 47, 120]) =
      .escaped := by
  constructor
  · decide
  · constructor
    · decide
    · decide

end EvoomGuard.Runtime
