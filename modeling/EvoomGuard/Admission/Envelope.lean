import EvoomGuard.EvidenceBundle.Signing
import EvoomGuard.GithubAttestation.Receipt

/-!
What the signed envelopes of the release chain have in common: descriptors of retained bytes, the
pinned tools and the authentication block. An error is the text that is raised; `owner`
is the envelope it names.
-/

namespace EvoomGuard.Admission

open EvidenceBundle GithubAttestation Lib Lib.Checks Lib.Framing

section

variable (host : EvidenceHost)

def validateSection {Key Value : Type} (schema : Schema Key) (label : Text)
    (check : (Key → Json) → Except Text Value) (value : Json) : Except Text Value := do
  let fields ← objectOf (label ++ " must be an object") value
  schema.validate host.shownList label check fields

section

variable {Key Value : Type} (schema : Schema Key) (label : Text)
  (check : (Key → Json) → Except Text Value)

theorem validate_section_ok (value : Json) (found : Value) :
    validateSection host schema label check value = .ok found ↔
      ∃ fields, value = .object fields ∧ schema.closed fields = true ∧
        check (schema.get fields) = .ok found := by
  simp only [validateSection, bind_ok, object_of_ok, schema.validate_ok]

theorem validate_section_object (reading : Key → Json) :
    validateSection host schema label check (.object (schema.object reading)) = check reading := by
  have opened : objectOf (label ++ " must be an object") (.object (schema.object reading)) =
      .ok (schema.object reading) := (object_of_ok _ _ _).mpr rfl
  rw [validateSection, opened]
  exact schema.validate_object reading

end

end

inductive DescriptorKey where
  | path
  | sha256
  | size
  deriving DecidableEq

def DescriptorKey.text : DescriptorKey → Text
  | .path => "path"
  | .sha256 => "sha256"
  | .size => "size"

def descriptorSchema : Schema DescriptorKey where
  keys := [.path, .sha256, .size]
  name := DescriptorKey.text

/-- A retained member: where the archive keeps it, how a text names it, and its size. -/
structure Material where
  label : Text
  path : Text
  least : Nat
  most : Nat

/-- `_descriptor`. -/
def Material.value (material : Material) (digest : Digest) : DescriptorKey → Json
  | .path => .string material.path
  | .sha256 => .string digest.sha256
  | .size => .int digest.size

def Material.descriptor (material : Material) (digest : Digest) : Json :=
  .object (descriptorSchema.object (material.value digest))

def Material.check (material : Material) (host : EvidenceHost) (get : DescriptorKey → Json) :
    Except Text Digest := do
  exactText material.path (material.label ++ ".path must be " ++ host.quoted material.path)
    (get .path)
  let sha256 ← textThat Sha256.isHex64
    (material.label ++ ".sha256 must be a lowercase SHA-256 digest") (get .sha256)
  let size ← intWithin material.least material.most
    (material.label ++ ".size is outside the permitted range") (get .size)
  pure ⟨sha256, size⟩

/-- `_validate_descriptor`. -/
def Material.validate (material : Material) (host : EvidenceHost) (value : Json) :
    Except Text Digest :=
  validateSection host descriptorSchema material.label (material.check host) value

structure Material.Fits (material : Material) (digest : Digest) : Prop where
  sha256 : Sha256.isHex64 digest.sha256 = true
  least : (material.least : Int) ≤ digest.size
  most : digest.size ≤ material.most

theorem Material.check_ok (material : Material) (host : EvidenceHost) (get : DescriptorKey → Json)
    (digest : Digest) :
    material.check host get = .ok digest ↔ get = material.value digest ∧ material.Fits digest := by
  simp only [Material.check, bind_ok, exact_text_ok, text_that_ok, int_within_ok, pure_ok]
  constructor
  · intro found
    obtain ⟨_, path, sha256, hex, size, range, same⟩ := found
    subst same
    refine ⟨?_, ⟨hex.2, range.2.1, range.2.2⟩⟩
    funext key
    cases key
    · exact path
    · exact hex.1
    · exact range.1
  · intro found
    obtain ⟨same, fits⟩ := found
    subst same
    exact ⟨(), rfl, _, ⟨rfl, fits.sha256⟩, _, ⟨rfl, fits.least, fits.most⟩, rfl⟩

theorem Material.validate_descriptor (material : Material) (host : EvidenceHost)
    (written found : Digest) :
    material.validate host (material.descriptor written) = .ok found ↔
      found = written ∧ material.Fits written := by
  rw [Material.validate, Material.descriptor, validate_section_object, material.check_ok]
  constructor
  · intro both
    have same : written = found := by
      have sha256 := Json.string.inj (congrFun both.1 .sha256)
      have size := Json.int.inj (congrFun both.1 .size)
      cases written
      cases found
      exact Digest.mk.injEq .. ▸ ⟨sha256, size⟩
    exact ⟨same.symm, same ▸ both.2⟩
  · intro both
    rw [both.1]
    exact ⟨rfl, both.2⟩

/-- `_verify_material_descriptor`. -/
def verifyDescriptor (label : String) (descriptor : Digest) (data : Bytes) : Except Text Unit :=
  refuse (descriptor ≠ digestOf data)
    (label.toList ++ " bytes do not match their signed descriptor")

def signerIdProblem : Text := " must be sha256:<lowercase DER-SPKI digest>"

def signerId (label : Text) : Json → Except Text Text := textThat isKeyId (label ++ signerIdProblem)

def distinctProblem (owner : Text) : Text :=
  owner ++ " trust domains must use mutually distinct keys"

structure Toolchain where
  git : Text
  githubCli : Text
  uid : Int
  gid : Int
  deriving DecidableEq

inductive ToolKey where
  | sha256
  deriving DecidableEq

def toolSchema : Schema ToolKey where
  keys := [.sha256]
  name := fun _ => "sha256"

inductive IsolationKey where
  | platform
  | uid
  | gid
  deriving DecidableEq

def IsolationKey.text : IsolationKey → Text
  | .platform => "platform"
  | .uid => "uid"
  | .gid => "gid"

def isolationSchema : Schema IsolationKey where
  keys := [.platform, .uid, .gid]
  name := IsolationKey.text

inductive ToolchainKey where
  | git
  | githubCli
  | providerIsolation
  deriving DecidableEq

def ToolchainKey.text : ToolchainKey → Text
  | .git => "git"
  | .githubCli => "github_cli"
  | .providerIsolation => "provider_isolation"

def toolchainSchema : Schema ToolchainKey where
  keys := [.git, .githubCli, .providerIsolation]
  name := ToolchainKey.text

def toolValue (sha256 : Text) : ToolKey → Json
  | .sha256 => .string sha256

def isolationValue (uid gid : Int) : IsolationKey → Json
  | .platform => .string "posix"
  | .uid => .int uid
  | .gid => .int gid

def Toolchain.value (toolchain : Toolchain) : ToolchainKey → Json
  | .git => .object (toolSchema.object (toolValue toolchain.git))
  | .githubCli => .object (toolSchema.object (toolValue toolchain.githubCli))
  | .providerIsolation =>
    .object (isolationSchema.object (isolationValue toolchain.uid toolchain.gid))

def Toolchain.asDict (toolchain : Toolchain) : List (Text × Json) :=
  toolchainSchema.object toolchain.value

def maxProviderId : Int := 2147483647

section Toolchain

variable (host : EvidenceHost) (owner digestProblem : Text)

def validateTool (name : ToolchainKey) (value : Json) : Except Text Text :=
  let label := owner ++ " toolchain." ++ name.text
  validateSection host toolSchema label
    (fun get => textThat Sha256.isHex64 (label ++ ".sha256 must be " ++ digestProblem)
      (get .sha256)) value

def checkIsolation (get : IsolationKey → Json) : Except Text (Int × Int) := do
  exactText "posix" (owner ++ " provider isolation platform must be 'posix'")
    (get .platform)
  let uid ← intWithin 1 maxProviderId (owner ++ " provider isolation UID is invalid")
    (get .uid)
  let gid ← intWithin 1 maxProviderId (owner ++ " provider isolation GID is invalid")
    (get .gid)
  pure (uid, gid)

def checkToolchain (get : ToolchainKey → Json) : Except Text Toolchain := do
  let git ← validateTool host owner digestProblem .git (get .git)
  let githubCli ← validateTool host owner digestProblem .githubCli (get .githubCli)
  let (uid, gid) ← validateSection host isolationSchema
    (owner ++ " toolchain.provider_isolation") (checkIsolation owner)
    (get .providerIsolation)
  pure ⟨git, githubCli, uid, gid⟩

def validateToolchain (value : Json) : Except Text Toolchain :=
  validateSection host toolchainSchema (owner ++ " toolchain")
    (checkToolchain host owner digestProblem) value

def expectedToolchain (gitSha256 githubCliSha256 : Text) (uid gid : Int) : Except Text Toolchain :=
  validateToolchain host owner digestProblem
    (.object (Toolchain.asDict ⟨gitSha256, githubCliSha256, uid, gid⟩))

end Toolchain

structure Toolchain.Valid (toolchain : Toolchain) : Prop where
  git : Sha256.isHex64 toolchain.git = true
  githubCli : Sha256.isHex64 toolchain.githubCli = true
  uid : 1 ≤ toolchain.uid ∧ toolchain.uid ≤ maxProviderId
  gid : 1 ≤ toolchain.gid ∧ toolchain.gid ≤ maxProviderId

section ToolchainFacts

variable {host : EvidenceHost} {owner digestProblem : Text}

theorem validate_tool_ok (name : ToolchainKey) (value : Json) (sha256 : Text)
    (ok : validateTool host owner digestProblem name value = .ok sha256) :
    Sha256.isHex64 sha256 = true := by
  rw [validateTool, validate_section_ok] at ok
  obtain ⟨fields, _, _, checked⟩ := ok
  rw [text_that_ok] at checked
  exact checked.2

theorem validate_tool_written (name : ToolchainKey) (sha256 found : Text) :
    validateTool host owner digestProblem name
        (.object (toolSchema.object (toolValue sha256))) = .ok found ↔
      found = sha256 ∧ Sha256.isHex64 sha256 = true := by
  rw [validateTool, validate_section_object, text_that_ok, toolValue, Json.string.injEq]
  constructor
  · intro both
    exact ⟨both.1.symm, both.1.symm ▸ both.2⟩
  · intro both
    exact ⟨both.1.symm, both.1 ▸ both.2⟩

theorem check_isolation_ok (get : IsolationKey → Json) (uid gid : Int) :
    checkIsolation owner get = .ok (uid, gid) ↔
      get = isolationValue uid gid ∧ (1 ≤ uid ∧ uid ≤ maxProviderId) ∧
        (1 ≤ gid ∧ gid ≤ maxProviderId) := by
  simp only [checkIsolation, bind_ok, exact_text_ok, int_within_ok, pure_ok]
  constructor
  · intro found
    obtain ⟨_, platform, left, l, right, r, same⟩ := found
    cases same
    refine ⟨?_, l.2, r.2⟩
    funext key
    cases key
    · exact platform
    · exact l.1
    · exact r.1
  · intro found
    obtain ⟨same, l, r⟩ := found
    subst same
    exact ⟨(), rfl, _, ⟨rfl, l⟩, _, ⟨rfl, r⟩, rfl⟩

theorem validate_toolchain_valid (value : Json) (toolchain : Toolchain)
    (ok : validateToolchain host owner digestProblem value = .ok toolchain) : toolchain.Valid := by
  rw [validateToolchain, validate_section_ok] at ok
  obtain ⟨fields, _, _, checked⟩ := ok
  simp only [checkToolchain, bind_ok, pure_ok] at checked
  obtain ⟨git, g, cli, c, ⟨uid, gid⟩, isolated, same⟩ := checked
  subst same
  rw [validate_section_ok] at isolated
  obtain ⟨inner, _, _, ids⟩ := isolated
  rw [check_isolation_ok] at ids
  exact ⟨validate_tool_ok _ _ _ g, validate_tool_ok _ _ _ c, ids.2.1, ids.2.2⟩

theorem expected_toolchain_ok (git githubCli : Text) (uid gid : Int) (toolchain : Toolchain) :
    expectedToolchain host owner digestProblem git githubCli uid gid = .ok toolchain ↔
      toolchain = ⟨git, githubCli, uid, gid⟩ ∧ toolchain.Valid := by
  rw [expectedToolchain, validateToolchain, Toolchain.asDict, validate_section_object]
  simp only [checkToolchain, bind_ok, pure_ok, Toolchain.value, validate_tool_written,
    validate_section_object]
  constructor
  · intro found
    obtain ⟨_, ⟨rfl, g⟩, _, ⟨rfl, c⟩, ⟨left, right⟩, ids, same⟩ := found
    rw [check_isolation_ok] at ids
    have sameUid := Json.int.inj (congrFun ids.1 .uid)
    have sameGid := Json.int.inj (congrFun ids.1 .gid)
    subst same sameUid sameGid
    exact ⟨rfl, g, c, ids.2.1, ids.2.2⟩
  · intro found
    obtain ⟨same, valid⟩ := found
    subst same
    exact ⟨_, ⟨rfl, valid.git⟩, _, ⟨rfl, valid.githubCli⟩, (uid, gid),
      (check_isolation_ok _ _ _).mpr ⟨rfl, valid.uid, valid.gid⟩, rfl⟩

end ToolchainFacts

/-- A policy whose texts its own validator accepts and leaves as they are. -/
def Canonical (policy : GitHubAttestationPolicy) : Prop :=
  githubAttestationPolicy (.string policy.repository) (.string policy.signerWorkflow)
    (.string policy.sourceDigest) (.string policy.signerDigest) (.string policy.sourceRef)
    (.string policy.certOidcIssuer) = .ok policy

/-- The policy `pins` describe, which must be the one `get` reads. -/
def canonicalPolicy (problem : Text) (pins get : PolicyKey → Json) :
    Except Text GitHubAttestationPolicy := do
  let checked ← githubAttestationPolicy (pins .repository) (pins .signerWorkflow)
    (pins .sourceDigest) (pins .signerDigest) (pins .sourceRef) (pins .certOidcIssuer)
  refuse ((policySchema.keys.all fun key => (checked.value key).alike (get key)) = false) problem
  pure checked

theorem canonical_policy_canonical {problem : Text} {pins get : PolicyKey → Json}
    {policy : GitHubAttestationPolicy}
    (texts : ∀ key text, get key = .string text → pins key = .string text)
    (ok : canonicalPolicy problem pins get = .ok policy) : Canonical policy := by
  simp only [canonicalPolicy, bind_ok, refuse_ok, pure_ok, Bool.not_eq_false] at ok
  obtain ⟨checked, read, _, alike, same⟩ := ok
  subst same
  rw [List.all_eq_true] at alike
  have pinned : ∀ key text, checked.value key = .string text → pins key = .string text := by
    intro key text written
    have equal := alike key (policySchema.complete key)
    rw [written, Json.alike_of_string] at equal
    exact texts key text equal
  rw [pinned .repository _ rfl, pinned .signerWorkflow _ rfl, pinned .sourceDigest _ rfl,
    pinned .signerDigest _ rfl, pinned .sourceRef _ rfl, pinned .certOidcIssuer _ rfl] at read
  exact read

theorem Canonical.canonicalPolicy {problem : Text} {policy : GitHubAttestationPolicy}
    (canonical : Canonical policy) :
    canonicalPolicy problem policy.value policy.value = .ok policy := by
  have itself : ∀ key, (policy.value key).alike (policy.value key) = true := by
    intro key
    cases key with
    | denySelfHostedRunners => rfl
    | attestationLimit => exact Json.alike_int_self 1
    | _ => exact (Json.alike_of_string _ _).mpr rfl
  simp only [Admission.canonicalPolicy, bind_ok, refuse_ok, pure_ok, Bool.not_eq_false]
  exact ⟨policy, canonical, (), List.all_eq_true.mpr fun key _ => itself key, rfl⟩

structure SigningDomain where
  owner : Text
  purpose : Text
  keyDomain : Text
  signaturePath : Text
  separator : Bytes

inductive AuthenticationKey where
  | algorithm
  | keyId
  | purpose
  | keyDomain
  | signaturePath
  deriving DecidableEq

def AuthenticationKey.text : AuthenticationKey → Text
  | .algorithm => "algorithm"
  | .keyId => "key_id"
  | .purpose => "purpose"
  | .keyDomain => "key_domain"
  | .signaturePath => "signature_path"

def authenticationSchema : Schema AuthenticationKey where
  keys := [.algorithm, .keyId, .purpose, .keyDomain, .signaturePath]
  name := AuthenticationKey.text

/-- An authentication block is the identity of the signing key. -/
def SigningDomain.value (domain : SigningDomain) (keyId : Text) : AuthenticationKey → Json
  | .algorithm => .string "Ed25519"
  | .keyId => .string keyId
  | .purpose => .string domain.purpose
  | .keyDomain => .string domain.keyDomain
  | .signaturePath => .string domain.signaturePath

def SigningDomain.wrong (domain : SigningDomain) : Text :=
  domain.owner ++ " authentication has the wrong algorithm, purpose, domain, or path"

def SigningDomain.check (domain : SigningDomain) (get : AuthenticationKey → Json) :
    Except Text Text := do
  exactText "Ed25519" domain.wrong (get .algorithm)
  exactText domain.purpose domain.wrong (get .purpose)
  exactText domain.keyDomain domain.wrong (get .keyDomain)
  exactText domain.signaturePath domain.wrong (get .signaturePath)
  signerId (domain.owner ++ " key_id") (get .keyId)

/-- `_validate_authentication`. -/
def SigningDomain.validate (domain : SigningDomain) (host : EvidenceHost) (value : Json) :
    Except Text Text :=
  validateSection host authenticationSchema (domain.owner ++ " authentication") domain.check
    value

def SigningDomain.block (domain : SigningDomain) (keyId : Text) : Json :=
  .object (authenticationSchema.object (domain.value keyId))

theorem SigningDomain.check_ok (domain : SigningDomain) (get : AuthenticationKey → Json)
    (keyId : Text) :
    domain.check get = .ok keyId ↔ get = domain.value keyId ∧ isKeyId keyId = true := by
  simp only [SigningDomain.check, bind_ok, exact_text_ok, signerId, text_that_ok]
  constructor
  · intro found
    obtain ⟨_, algorithm, _, purpose, _, keyDomain, _, path, identity⟩ := found
    refine ⟨?_, identity.2⟩
    funext key
    cases key
    · exact algorithm
    · exact identity.1
    · exact purpose
    · exact keyDomain
    · exact path
  · intro found
    obtain ⟨same, identity⟩ := found
    subst same
    exact ⟨(), rfl, (), rfl, (), rfl, (), rfl, rfl, identity⟩

theorem SigningDomain.validate_block (domain : SigningDomain) (host : EvidenceHost)
    (written found : Text) :
    domain.validate host (domain.block written) = .ok found ↔
      found = written ∧ isKeyId written = true := by
  rw [SigningDomain.validate, SigningDomain.block, validate_section_object, domain.check_ok]
  constructor
  · intro both
    have same : written = found := Json.string.inj (congrFun both.1 .keyId)
    exact ⟨same.symm, same ▸ both.2⟩
  · intro both
    rw [both.1]
    exact ⟨rfl, both.2⟩

end EvoomGuard.Admission
