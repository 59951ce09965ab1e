import EvoomGuard.Lib.Checks
import EvoomGuard.Lib.PosixPath
import EvoomGuard.Lib.Sha256

/-!
The signing-key check of `github_attestation.py` before a provider is launched under a lowered
identity, on the file system it inspects. `realpath`, `repr` and the texts of operating-system
errors are answers of the host.
-/

namespace EvoomGuard.GithubAttestation

open Lib Lib.Checks Lib.Posix

structure ProviderIsolation where
  executablePath : Text
  executableSha256 : Text
  uid : Int
  gid : Int

structure ProviderHost where
  posix : Bool
  effectiveUid : Nat
  effectiveGid : Nat
  realpath : Text → Text
  quoted : Text → Text
  lstatError : Text → Text

def identityInRange (value : Int) : Bool := decide (1 ≤ value) && decide (value ≤ 2147483647)

def providerIsolation (isolation : ProviderIsolation) : Except Text Unit :=
  if isolation.executablePath.isEmpty || decide (4096 < isolation.executablePath.length) ||
      !isabs isolation.executablePath then
    .error "isolated GitHub CLI executable must be an absolute path"
  else if normpath isolation.executablePath ≠ isolation.executablePath then
    .error "isolated GitHub CLI executable path must be canonical"
  else if !Sha256.isHex64 isolation.executableSha256 then
    .error "isolated GitHub CLI executable SHA-256 must be lowercase 64-hex"
  else if !identityInRange isolation.uid then
    .error ("isolated GitHub CLI UID must be a non-root integer from 1 through " ++
      "2147483647").toList
  else if !identityInRange isolation.gid then
    .error ("isolated GitHub CLI GID must be a non-root integer from 1 through " ++
      "2147483647").toList
  else .ok ()

-- The configured executable is the isolation's own here, so it never conflicts.
def validateProviderIsolation (host : ProviderHost) (isolation : ProviderIsolation) :
    Except Text Unit := do
  providerIsolation isolation
  if !host.posix then
    .error "isolated GitHub provider execution requires POSIX UID/GID support"
  else if host.effectiveUid ≠ 0 then
    .error "isolated GitHub provider execution must start with effective UID 0"
  else if isolation.uid = host.effectiveUid ∨ isolation.gid = host.effectiveGid then
    .error ("isolated GitHub provider UID and GID must both differ from the caller " ++
      "identity").toList
  else .ok ()

def lstat (fs : FileSystem) (parts : List Text) : Option Inode :=
  (fs.resolve fs.root parts).bind fs.node

def signingKeyMode : Nat := 0o600

def checkSigningKey (host : ProviderHost) (fs : FileSystem) (path : Text) : Except Text Unit :=
  match lstat fs (components path) with
  | none =>
    .error ("cannot inspect isolated provider signing key " ++ host.quoted path ++
      ": " ++ host.lstatError path)
  | some node =>
    if !node.kind.isFile then
      .error "isolated provider signing key must be a regular non-symlink file"
    else if node.uid ≠ 0 ∧ node.uid ≠ host.effectiveUid then
      .error "isolated provider signing key must be owned by root/the caller"
    else if node.mode ≠ signingKeyMode then
      .error "isolated provider signing key mode must be exactly 0600"
    else .ok ()

/-- `S_IWUSR`, `S_IWGRP` or `S_IWOTH`, by the class the provider falls into. -/
def providerWritable (isolation : ProviderIsolation) (node : Inode) : Bool :=
  if (node.uid : Int) = isolation.uid then node.mode.testBit 7
  else if (node.gid : Int) = isolation.gid then node.mode.testBit 4
  else node.mode.testBit 1

def shownParent (path : Text) (above : List Text) : Text :=
  (splitroot path).1 ++ Text.join ['/'] above

/-- The parents of a canonical path, from the nearest up to the root. -/
def parentsOf (parts : List Text) : List (List Text) :=
  (List.range parts.length).reverse.map fun count => parts.take count

def checkParents (host : ProviderHost) (fs : FileSystem) (isolation : ProviderIsolation)
    (path : Text) : List (List Text) → Except Text Unit
  | [] => .ok ()
  | above :: rest =>
    match lstat fs above with
    | none =>
      .error ("cannot inspect signing-key parent " ++
        host.quoted (shownParent path above) ++ ": " ++
        host.lstatError (shownParent path above))
    | some node =>
      if !node.kind.isDirectory then
        .error ("every isolated provider signing-key parent must be a non-symlink " ++
          "directory").toList
      else if providerWritable isolation node then
        .error ("isolated provider signing-key parent is writable by the lowered identity: " ++
          shownParent path above)
      else checkParents host fs isolation path rest

def validateProviderIsolatedSigningKeyPath (host : ProviderHost) (fs : FileSystem) (path : Text)
    (isolation : ProviderIsolation) : Except Text Text := do
  validateProviderIsolation host isolation
  if !isabs path then .error "isolated provider signing-key path must be absolute"
  else if normpath path ≠ path ∨ host.realpath path ≠ path then
    .error ("isolated provider signing-key path must be canonical and must not traverse " ++
      "symlinks").toList
  else do
    checkSigningKey host fs path
    checkParents host fs isolation path (parentsOf (components path))
    .ok path

def provider (isolation : ProviderIsolation) : Credentials :=
  ⟨isolation.uid.toNat, isolation.gid.toNat⟩

/-- The file system as an accepted path was checked. -/
structure Checked (fs : FileSystem) (who : Credentials) (parts : List Text) : Prop where
  valid : ∀ name ∈ parts, validName name = true
  key : ∃ node, lstat fs parts = some node ∧ node.kind.isFile = true ∧ node.uid ≠ who.uid ∧
    node.mode = signingKeyMode
  parents : ∀ above rest, parts = above ++ rest → rest ≠ [] →
    ∃ node, lstat fs above = some node ∧ node.kind.isDirectory = true ∧
      node.allows who .write = false

theorem provider_writable_eq (isolation : ProviderIsolation)
    (uid : 1 ≤ isolation.uid) (gid : 1 ≤ isolation.gid) (node : Inode) :
    providerWritable isolation node = node.allows (provider isolation) .write := by
  have uids : ((node.uid : Int) = isolation.uid) = (node.uid = (provider isolation).uid) := by
    simp only [provider, eq_iff_iff]
    omega
  have gids : ((node.gid : Int) = isolation.gid) = (node.gid = (provider isolation).gid) := by
    simp only [provider, eq_iff_iff]
    omega
  rw [providerWritable, Inode.allows]
  simp only [uids, gids, Access.bit]

variable (host : ProviderHost) (fs : FileSystem)

theorem check_parents_ok (isolation : ProviderIsolation)
    (path : Text) (lists : List (List Text))
    (checked : checkParents host fs isolation path lists = .ok ()) :
    ∀ above ∈ lists, ∃ node, lstat fs above = some node ∧ node.kind.isDirectory = true ∧
      providerWritable isolation node = false := by
  induction lists with
  | nil =>
    intro above member
    cases member
  | cons first rest later =>
    rw [checkParents] at checked
    cases found : lstat fs first with
    | none => simp [found] at checked
    | some node =>
      simp only [found] at checked
      split_ifs at checked with directory writable
      intro above member
      rw [List.mem_cons] at member
      cases member with
      | inl same =>
        rw [same]
        exact ⟨node, found, by simpa using directory, by simpa using writable⟩
      | inr below => exact later checked above below

theorem isolation_ok (host : ProviderHost) (isolation : ProviderIsolation)
    (ok : validateProviderIsolation host isolation = .ok ()) :
    host.effectiveUid = 0 ∧ 1 ≤ isolation.uid ∧ 1 ≤ isolation.gid := by
  simp only [validateProviderIsolation, bind_ok] at ok
  obtain ⟨done, scalar, caller⟩ := ok
  unfold providerIsolation identityInRange at scalar
  split_ifs at scalar caller with a b c d e f g h
  simp only [Bool.not_eq_true, Bool.not_eq_false', Bool.and_eq_true, decide_eq_true_eq] at d e
  exact ⟨by simpa using g, d.1, e.1⟩

theorem signing_key_ok (path : Text)
    (ok : checkSigningKey host fs path = .ok ()) :
    ∃ node, lstat fs (components path) = some node ∧ node.kind.isFile = true ∧
      (node.uid = 0 ∨ node.uid = host.effectiveUid) ∧ node.mode = signingKeyMode := by
  rw [checkSigningKey] at ok
  cases found : lstat fs (components path) with
  | none => simp [found] at ok
  | some node =>
    simp only [found] at ok
    split_ifs at ok with regular owner mode
    refine ⟨node, rfl, by simpa using regular, ?_, by simpa using mode⟩
    by_contra other
    rw [not_or] at other
    exact owner other

theorem accepted_checked (path accepted : Text)
    (isolation : ProviderIsolation)
    (ok : validateProviderIsolatedSigningKeyPath host fs path isolation = .ok accepted) :
    Checked fs (provider isolation) (components path) := by
  simp only [validateProviderIsolatedSigningKeyPath, bind_ok] at ok
  obtain ⟨isolated, first, rest⟩ := ok
  obtain ⟨root, uid, gid⟩ := isolation_ok host isolation first
  split_ifs at rest with relative canonical
  simp only [bind_ok] at rest
  obtain ⟨inspected, key, climbed, above, same⟩ := rest
  rw [not_or, not_not, not_not] at canonical
  constructor
  · exact normal_components_valid path (by simpa using relative) canonical.1
  · obtain ⟨node, found, regular, owner, mode⟩ := signing_key_ok host fs path key
    refine ⟨node, found, regular, ?_, mode⟩
    simp only [provider]
    omega
  · intro up down joined proper
    have member : up ∈ parentsOf (components path) := by
      have longer := List.length_pos_of_ne_nil proper
      rw [parentsOf, List.mem_map]
      refine ⟨up.length, ?_, ?_⟩
      · rw [List.mem_reverse, List.mem_range, joined, List.length_append]
        omega
      · rw [joined, List.take_left]
    obtain ⟨node, found, directory, writable⟩ :=
      check_parents_ok host fs isolation path _ above up member
    rw [provider_writable_eq isolation uid gid] at writable
    exact ⟨node, found, directory, writable⟩

/-- Whatever the process does, it never reads the key, its content stays, and the path names no
other file. -/
def OutOfReach (who : Credentials) (fs : FileSystem) (parts : List Text) : Prop :=
  ∀ key, fs.resolve fs.root parts = some key →
    ∀ actions after, run who fs actions = some after →
      (∀ path, (step who after (.read path)).isSome = true →
        after.walk who after.root path ≠ some key) ∧
      (after.node key).map Inode.kind = (fs.node key).map Inode.kind ∧
      ∀ other, after.resolve after.root parts = some other → other = key

/-- No directory of the path that the process can walk to is its own. -/
def NoOwnParent (who : Credentials) (fs : FileSystem) (parts : List Text) : Prop :=
  ∀ above rest id, parts = above ++ rest → rest ≠ [] → fs.walk who fs.root above = some id →
    fs.owns who id = false

section Reach

variable {who : Credentials} {fs : FileSystem} {parts : List Text}

theorem lstat_resolve {above : List Text} {node : Inode} (found : lstat fs above = some node) :
    ∃ id, fs.resolve fs.root above = some id ∧ fs.node id = some node :=
  Option.bind_eq_some_iff.mp found

theorem key_refuses {node : Inode} (unowned : node.uid ≠ who.uid)
    (mode : node.mode = signingKeyMode) :
    node.allows who .write = false ∧ node.allows who .read = false := by
  have bits : ∀ bit < 6, signingKeyMode.testBit bit = false := by decide
  rw [Inode.allows, Inode.allows, if_neg unowned, if_neg unowned, mode]
  constructor
  · split_ifs
    · exact bits 4 (by decide)
    · exact bits 1 (by decide)
  · split_ifs
    · exact bits 5 (by decide)
    · exact bits 2 (by decide)

def OnPath (fs : FileSystem) (parts : List Text) (id : Nat) : Prop :=
  ∃ above rest, parts = above ++ rest ∧ fs.resolve fs.root above = some id

/-- A directory of the path that no walk of the process gets to. -/
def CutOff (who : Credentials) (fs : FileSystem) (parts : List Text) (id : Nat) : Prop :=
  (∃ above rest, parts = above ++ rest ∧ rest ≠ [] ∧ fs.resolve fs.root above = some id) ∧
    ∀ path, fs.walk who fs.root path ≠ some id

theorem parent_directory (checked : Checked fs who parts) {above rest : List Text} {id : Nat}
    (joined : parts = above ++ rest) (proper : rest ≠ [])
    (resolved : fs.resolve fs.root above = some id) :
    ∃ node, fs.node id = some node ∧ node.kind.isDirectory = true ∧
      node.allows who .write = false := by
  obtain ⟨node, found, facts⟩ := checked.parents above rest joined proper
  obtain ⟨other, again, present⟩ := lstat_resolve found
  cases again.symm.trans resolved
  exact ⟨node, present, facts⟩

theorem path_sealed (tree : fs.Tree) (checked : Checked fs who parts)
    (unowned : NoOwnParent who fs parts) : Sealed who fs (OnPath fs parts) (CutOff who fs parts) := by
  have directories : ∀ id, CutOff who fs parts id → fs.isDirectory id = true := by
    intro id cut
    obtain ⟨⟨above, rest, joined, proper, resolved⟩, unwalked⟩ := cut
    obtain ⟨node, present, directory, refused⟩ := parent_directory checked joined proper resolved
    rw [FileSystem.isDirectory, present]
    exact directory
  constructor
  · intro id on
    obtain ⟨above, rest, joined, resolved⟩ := on
    by_cases last : rest = []
    · rw [last, List.append_nil] at joined
      obtain ⟨node, found, regular, foreign, mode⟩ := checked.key
      obtain ⟨key, again, present⟩ := lstat_resolve found
      rw [joined] at again
      cases again.symm.trans resolved
      exact ⟨node, present, Or.inr ⟨foreign, (key_refuses foreign mode).1⟩⟩
    · obtain ⟨node, present, directory, refused⟩ := parent_directory checked joined last resolved
      refine ⟨node, present, ?_⟩
      by_cases walkable : ∃ path, fs.walk who fs.root path = some id
      · obtain ⟨path, walked⟩ := walkable
        have isDirectory : fs.isDirectory id = true := by
          rw [FileSystem.isDirectory, present]
          exact directory
        have along := fs.walk_of_resolve who tree above id path isDirectory resolved walked
        have foreign := unowned above rest id joined last along
        rw [FileSystem.owns, present] at foreign
        exact Or.inr ⟨by simpa using foreign, refused⟩
      · rw [not_exists] at walkable
        exact Or.inl ⟨⟨above, rest, joined, last, resolved⟩, walkable⟩
  · intro id cut
    obtain ⟨⟨above, rest, joined, proper, resolved⟩, unwalked⟩ := cut
    exact ⟨⟨above, rest, joined, resolved⟩,
      directories id ⟨⟨above, rest, joined, proper, resolved⟩, unwalked⟩⟩
  · intro cut
    exact cut.2 [] rfl
  · intro id directory name cut member
    have isDirectory := directories id cut
    obtain ⟨⟨above, rest, joined, proper, resolved⟩, unwalked⟩ := cut
    cases above using List.reverseRecOn with
    | nil =>
      cases resolved
      exact absurd rfl (unwalked [])
    | append_singleton up last =>
      obtain ⟨parent, ahead, named⟩ := (fs.resolve_concat fs.root id up last).mp resolved
      have same : directory = parent :=
        tree.one_parent directory parent name last id isDirectory member (mem_of_child named)
      subst same
      have longer : parts = up ++ ([last] ++ rest) := by rw [joined, List.append_assoc]
      refine ⟨⟨up, [last] ++ rest, longer, ahead⟩, ?_⟩
      by_cases walkable : ∃ path, fs.walk who fs.root path = some directory
      · obtain ⟨path, walked⟩ := walkable
        refine Or.inr ?_
        rw [Bool.eq_false_iff]
        intro searched
        exact unwalked (path ++ [last])
          ((fs.walk_concat who fs.root id path last).mpr ⟨directory, walked, searched, named⟩)
      · rw [not_exists] at walkable
        exact Or.inl ⟨⟨up, [last] ++ rest, longer, by simp, ahead⟩, walkable⟩

theorem out_of_reach_of_unowned (tree : fs.Tree) (checked : Checked fs who parts)
    (unowned : NoOwnParent who fs parts) : OutOfReach who fs parts := by
  intro key named actions after ran
  obtain ⟨closed, same⟩ := run_sealed actions fs (path_sealed tree checked unowned) ran
  obtain ⟨node, found, regular, foreign, mode⟩ := checked.key
  obtain ⟨target, resolved, present⟩ := lstat_resolve found
  cases resolved.symm.trans named
  have keyKept : after.node key = fs.node key := same key ⟨parts, [], by simp, named⟩
  refine ⟨?_, by rw [keyKept], ?_⟩
  · intro path readable walked
    have reachedKey : reached who after path = some (key, node) := by
      rw [reached, walked, Option.bind_some, keyKept, present]
      rfl
    rw [step, reachedKey] at readable
    simp [(key_refuses foreign mode).2] at readable
  · intro other resolvedAfter
    have rootSame : after.root = fs.root := run_root actions fs ran
    have again : after.resolve fs.root parts = fs.resolve fs.root parts := by
      apply fs.resolve_congr after parts fs.root
      intro directory member
      obtain ⟨up, down, joined, proper, resolvedUp⟩ :=
        fs.passed_resolve parts fs.root directory member
      exact same directory ⟨up, down, joined, resolvedUp⟩
    rw [rootSame, again, named] at resolvedAfter
    exact (Option.some.inj resolvedAfter).symm

theorem unowned_of_out_of_reach (checked : Checked fs who parts)
    (safe : OutOfReach who fs parts) : NoOwnParent who fs parts := by
  intro above
  induction size : above.length using Nat.strong_induction_on generalizing above with
  | _ bound shorter =>
    intro rest id joined proper walked
    rw [Bool.eq_false_iff]
    intro owned
    have resolved := fs.resolve_of_walk who above fs.root id walked
    obtain ⟨node, present, directory, refused⟩ := parent_directory checked joined proper resolved
    have unpassed : id ∉ fs.passed fs.root above := by
      intro member
      obtain ⟨up, down, split, further, resolvedUp⟩ :=
        fs.passed_resolve above fs.root id member
      rw [split, fs.walk_append, Option.bind_eq_some_iff] at walked
      obtain ⟨middle, walkedUp, onward⟩ := walked
      cases (fs.resolve_of_walk who up fs.root middle walkedUp).symm.trans resolvedUp
      have smaller : up.length < bound := by
        have longer := List.length_pos_of_ne_nil further
        rw [← size, split, List.length_append]
        omega
      have foreign := shorter up.length smaller up rfl (down ++ rest) id
        (by rw [joined, split, List.append_assoc]) (by simp [further]) walkedUp
      rw [owned] at foreign
      cases foreign
    cases rest with
    | nil => exact proper rfl
    | cons name later =>
      have uid : node.uid = who.uid := by
        rw [FileSystem.owns, present] at owned
        simpa using owned
      have valid : ∀ part ∈ name :: later, validName part = true := by
        intro part member
        apply checked.valid
        rw [joined]
        exact List.mem_append_right _ member
      obtain ⟨actions, after, made, ran, renamed, fresh⟩ :=
        owner_takes_over walked unpassed present directory uid name later valid
      obtain ⟨keyNode, found, facts⟩ := checked.key
      obtain ⟨key, named, stored⟩ := lstat_resolve found
      have below := fs.present_below key keyNode stored
      rw [← joined] at renamed
      have same := (safe key named actions after ran).2.2 made renamed
      omega

end Reach

/-- An accepted signing key stays out of the provider's reach exactly when no directory on its
path that the provider can walk to belongs to the provider: the owner of a directory may change
its mode. -/
theorem signing_key_out_of_reach_iff (host : ProviderHost) (fs : FileSystem) (tree : fs.Tree)
    (path accepted : Text) (isolation : ProviderIsolation)
    (ok : validateProviderIsolatedSigningKeyPath host fs path isolation = .ok accepted) :
    OutOfReach (provider isolation) fs (components path) ↔
      NoOwnParent (provider isolation) fs (components path) := by
  have checked := accepted_checked host fs path accepted isolation ok
  constructor
  · exact unowned_of_out_of_reach checked
  · exact out_of_reach_of_unowned tree checked

def sampleIsolation : ProviderIsolation where
  executablePath := "/usr/bin/gh"
  executableSha256 := List.replicate 64 'a'
  uid := 1000
  gid := 1000

def rootHost : ProviderHost where
  posix := true
  effectiveUid := 0
  effectiveGid := 0
  realpath := id
  quoted := id
  lstatError := id

def keyPath : Text := "/keys/signing.pem"

def keyNodes (owner mode : Nat) : List Inode :=
  [⟨.directory [("keys", 1)], 0, 0, 0o755⟩,
    ⟨.directory [("signing.pem", 2)], owner, 0, mode⟩,
    ⟨.file [7, 7], 0, 0, 0o600⟩]

def keySystem (owner mode : Nat) : FileSystem where
  node id := (keyNodes owner mode)[id]?
  root := 0
  next := 3
  unused := by
    intro id beyond
    exact List.getElem?_eq_none beyond

theorem key_system_tree (owner mode : Nat) : (keySystem owner mode).Tree := by
  have listed : ∀ directory entry, entry ∈ (keySystem owner mode).entries directory →
      entry.2 = directory + 1 := by
    intro directory entry member
    match directory with
    | 0 => simp_all [FileSystem.entries, keySystem, keyNodes, Kind.entries]
    | 1 => simp_all [FileSystem.entries, keySystem, keyNodes, Kind.entries]
    | 2 => simp_all [FileSystem.entries, keySystem, keyNodes, Kind.entries]
    | far + 3 => simp_all [FileSystem.entries, keySystem, keyNodes]
  constructor
  · intro directory name member
    have above := listed directory _ member
    cases above
  · intro first second name other id isDirectory inFirst inSecond
    have one := listed first _ inFirst
    have two := listed second _ inSecond
    dsimp only at one two
    omega

theorem caller_key_out_of_reach :
    OutOfReach (provider sampleIsolation) (keySystem 0 0o755) (components keyPath) := by
  have ok : validateProviderIsolatedSigningKeyPath rootHost (keySystem 0 0o755) keyPath
      sampleIsolation = .ok keyPath := by decide
  apply (signing_key_out_of_reach_iff rootHost (keySystem 0 0o755) (key_system_tree 0 0o755)
    keyPath keyPath sampleIsolation ok).mpr
  intro above rest id joined proper walked
  match id with
  | 0 => rfl
  | 1 => rfl
  | 2 => rfl
  | far + 3 => rfl

/-- The provider owns the directory, which it may not write: it opens it, moves the key away and
puts a file of its own in its place. -/
def replacingKey : List Action :=
  [.chmod ["keys"] 0o700,
    .rename ["keys"] "signing.pem" ["keys"] "old",
    .create ["keys"] "signing.pem" (.file [6, 6]) 0o600]

theorem own_directory_gives_key_away :
    validateProviderIsolatedSigningKeyPath rootHost (keySystem 1000 0o555) keyPath
        sampleIsolation = .ok keyPath ∧
      ¬ OutOfReach (provider sampleIsolation) (keySystem 1000 0o555) (components keyPath) := by
  constructor
  · decide
  · intro safe
    obtain ⟨after, ran, renamed⟩ : ∃ after,
        run (provider sampleIsolation) (keySystem 1000 0o555) replacingKey = some after ∧
          after.resolve after.root (components keyPath) = some 3 := by
      have found : (run (provider sampleIsolation) (keySystem 1000 0o555) replacingKey).any
          (fun after => after.resolve after.root (components keyPath) == some 3) = true := by
        decide
      rw [Option.any_eq_true] at found
      obtain ⟨after, ran, last⟩ := found
      exact ⟨after, ran, by simpa using last⟩
    have named : (keySystem 1000 0o555).resolve 0 (components keyPath) = some 2 := by
      decide
    have same := (safe 2 named replacingKey after ran).2.2 3 renamed
    cases same

end EvoomGuard.GithubAttestation
