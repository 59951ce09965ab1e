import EvoomGuard.Verifiers.RecordPolicy
import EvoomGuard.Verifiers.RepoContinuity

/-!
`application/request_preparation.py`: the checks a request passes before it is judged, and the
policy it is judged under. What the request only carries along (the repository, the candidate, the
source identities and the compatibility view of all of it) is left out.
-/

namespace EvoomGuard.Application.RequestPreparation

open Lib Domain.Harness Domain.Policy Policy Verifiers Verifiers.RecordPolicy

structure GuardRequestPreparationInput where
  testCommand : Option (List Text)
  setupCommand : Option (List Text)
  trustSetupOnHost : Bool
  setupOutputGlobs : List Text
  protectedGlobs : List Text
  allow : List Text
  allowNewTests : Bool
  timeout : Int
  memLimitMb : Int
  isolation : Text
  dockerImage : Option Text
  dockerNetwork : Text
  verifierPackPath : Option Text
  expectVerifierPackSha256 : Option Text
  collectDiffCoverage : Bool
  minDiffCoverage : Option Rat
  blackbox : Bool
  blackboxOnly : Bool
  requireReportIntegrity : Option Text
  requireCandidateIsolation : Option Text
  policyId : Option Text
  policyVersion : Option Text
  baselineEvidence : Bool
  requireDemonstratedFix : Bool
  strictHarness : Bool
  operatingProfile : Option Text
  harnessInputs : List Text

inductive PreparationError where
  | timeout
  | memLimit
  | harnessInputs (problem : HarnessInputPolicyError)
  | excludedHarness (paths : List Text)
  | isolation (value : Text)
  | minDiffCoverage
  | blackboxOnly
  | packDigest
  | packMissing
  | profile (profile : Option Text) (violations : List Text)
  deriving DecidableEq

structure PreparedGuardRequest where
  policy : EffectivePolicy
  collectDiffCoverage : Bool
  effectivePolicy : PolicyPayload

def profileSettings (raw : GuardRequestPreparationInput) : ProfileSettings where
  isolation := raw.isolation
  dockerImagePresent := givenText raw.dockerImage
  dockerNetwork := raw.dockerNetwork
  setupCommandPresent := (givenCommand raw.setupCommand).isSome
  trustSetupOnHost := raw.trustSetupOnHost
  memLimitMb := raw.memLimitMb
  verifierPackRequired := givenText raw.verifierPackPath
  expectVerifierPackSha256 := raw.expectVerifierPackSha256
  blackbox := raw.blackbox
  blackboxOnly := raw.blackboxOnly
  requireReportIntegrity := raw.requireReportIntegrity
  requireCandidateIsolation := raw.requireCandidateIsolation

def profileViolations (raw : GuardRequestPreparationInput) : List Text :=
  operatingProfileViolations raw.operatingProfile (profileSettings raw)

def policyOptions (raw : GuardRequestPreparationInput) (harnessInputs : List Text) :
    PolicyOptions where
  mode := if raw.blackbox then "blackbox" else "repo"
  isolation := raw.isolation
  dockerImage := raw.dockerImage
  dockerNetwork := raw.dockerNetwork
  testCommand := raw.testCommand
  setupCommand := raw.setupCommand
  trustSetupOnHost := raw.trustSetupOnHost
  setupOutputGlobs := raw.setupOutputGlobs
  protectedGlobs := raw.protectedGlobs
  allow := raw.allow
  allowNewTests := raw.allowNewTests
  timeout := raw.timeout
  memLimitMb := raw.memLimitMb
  verifierPack := raw.verifierPackPath
  expectVerifierPackSha256 := raw.expectVerifierPackSha256
  blackbox := raw.blackbox
  blackboxOnly := raw.blackboxOnly
  requireReportIntegrity := raw.requireReportIntegrity
  requireCandidateIsolation := raw.requireCandidateIsolation
  minDiffCoverage := raw.minDiffCoverage
  baselineEvidence := raw.baselineEvidence
  requireDemonstratedFix := raw.requireDemonstratedFix
  strictHarness := raw.strictHarness
  policyId := raw.policyId
  policyVersion := raw.policyVersion
  operatingProfile := raw.operatingProfile
  harnessInputs := harnessInputs

/-- The scalar checks that do not depend on the profile, in the order of the source. -/
def checkScalars (raw : GuardRequestPreparationInput) : Except PreparationError Unit :=
  if !supportedIsolationModes.contains raw.isolation then .error (.isolation raw.isolation)
  else if raw.minDiffCoverage.any (fun floor => !decide (0 ≤ floor ∧ floor ≤ 100)) then
    .error .minDiffCoverage
  else if raw.blackboxOnly && !raw.blackbox then .error .blackboxOnly
  else if raw.expectVerifierPackSha256.any (!isVerifierPackSha256 ·) then .error .packDigest
  else if raw.expectVerifierPackSha256.isSome && !givenText raw.verifierPackPath then
    .error .packMissing
  else .ok ()

def prepareGuardRequest (mapping : CaseMapping) (raw : GuardRequestPreparationInput) :
    Except PreparationError PreparedGuardRequest :=
  if raw.timeout < 1 then .error .timeout
  else if raw.memLimitMb < 0 then .error .memLimit
  else
    match normalizeHarnessInputs mapping raw.harnessInputs with
    | .error problem => .error (.harnessInputs problem)
    | .ok harnessInputs =>
      if setupOutputHarnessConflicts mapping harnessInputs raw.setupOutputGlobs ≠ [] then
        .error (.excludedHarness
          (setupOutputHarnessConflicts mapping harnessInputs raw.setupOutputGlobs))
      else
        match checkScalars raw with
        | .error problem => .error problem
        | .ok () =>
          if profileViolations raw ≠ [] then
            .error (.profile raw.operatingProfile (profileViolations raw))
          else
            match buildEffectivePolicy mapping (policyOptions raw harnessInputs) with
            | .error problem => .error (.harnessInputs problem)
            | .ok policy => .ok
                { policy := policy
                  collectDiffCoverage :=
                    raw.collectDiffCoverage || raw.minDiffCoverage.isSome
                  effectivePolicy := effectivePolicyPayload policy }

theorem scalars_checked (raw : GuardRequestPreparationInput) (checked : checkScalars raw = .ok ()) :
    ∀ pin, raw.expectVerifierPackSha256 = some pin → isVerifierPackSha256 pin = true := by
  intro pin given
  unfold checkScalars at checked
  split at checked
  · cases checked
  · split at checked
    · cases checked
    · split at checked
      · cases checked
      · split at checked
        · cases checked
        · next valid =>
            simpa [given] using valid

section Readings

variable (policy : EffectivePolicy)

theorem setup_command_reading :
    isNull (field (effectivePolicyPayload policy) .setupCommand) =
      !(givenCommand policy.setupCommand).isSome := by
  unfold effectivePolicyPayload
  cases givenCommand policy.setupCommand with
  | none => rfl
  | some command => rfl

theorem pack_digest_reading :
    isDigest (field (effectivePolicyPayload policy) .expectVerifierPackSha256) =
      policy.expectVerifierPackSha256.any Sha256.isHex64 := by
  change isDigest (textOrNull policy.expectVerifierPackSha256) = _
  cases policy.expectVerifierPackSha256 with
  | none => rfl
  | some pin => rfl

theorem text_reading (expected : Text) (value : Option Text) :
    isText expected (textOrNull value) = (value == some expected) := by
  cases value with
  | none => rfl
  | some text => rfl

theorem docker_image_reading :
    isGivenText (field (effectivePolicyPayload policy) .dockerImage) =
      givenText policy.dockerImage := by
  change isGivenText (textOrNull policy.dockerImage) = _
  cases policy.dockerImage with
  | none => rfl
  | some image => rfl

theorem isolation_floor_reading (floor : Option Text) (isolation : Text) :
    sameScalar (textOrNull floor) (.string isolation) = (floor == some isolation) := by
  cases floor with
  | none => rfl
  | some text => rfl

theorem profile_reading :
    field (effectivePolicyPayload policy) .operatingProfile = textOrNull policy.operatingProfile := by
  unfold field effectivePolicyPayload
  cases policy.operatingProfile with
  | none =>
    cases policy.harnessInputs with
    | nil => rfl
    | cons first rest => rfl
  | some profile => rfl

end Readings

theorem given_command_idem (command : Option (List Text)) :
    givenCommand (givenCommand command) = givenCommand command := by
  cases command with
  | none => rfl
  | some words =>
    cases words with
    | nil => rfl
    | cons word rest => rfl

theorem bool_reading (value : Bool) : isBool true (.bool value) = value := by
  cases value <;> rfl

theorem negated_reading (value : Bool) : isBool false (.bool value) = !value := by
  cases value <;> rfl

theorem pin_reading (mapping : CaseMapping) (pin : Option Text)
    (valid : ∀ text, pin = some text → isVerifierPackSha256 text = true) :
    ((pin.filter (!·.isEmpty)).map mapping.lower).any Sha256.isHex64 =
      pin.any isVerifierPackSha256 := by
  cases pin with
  | none => rfl
  | some text =>
    have hex := valid text rfl
    have full : text.isEmpty = false := by
      cases text with
      | nil => cases hex
      | cons first rest => rfl
    rw [Option.filter_some_pos (by rw [full]; rfl), Option.map_some, Option.any_some,
      Option.any_some, hex, lower_pin_is_hex mapping text hex]

/-- What either rule list asks of a request. -/
structure ProfileFacts where
  blackbox : Bool
  blackboxOnly : Bool
  noSetup : Bool
  noHostTrust : Bool
  pack : Bool
  pin : Bool
  report : Bool
  network : Bool
  image : Bool
  container : Bool
  floorMatches : Bool
  gvisor : Bool
  gvisorFloor : Bool
  memory : Bool

def requirementsOf (profile : Text) (facts : ProfileFacts) : List Text :=
  if profile = localProfile then []
  else
    requirement facts.blackbox "requires blackbox=true" ++
    requirement facts.blackboxOnly "requires blackbox_only=true" ++
    requirement facts.noSetup "forbids setup_command in black-box-only mode" ++
    requirement facts.noHostTrust "requires trust_setup_on_host=false" ++
    requirement facts.pack "requires a verifier_pack" ++
    requirement facts.pin "requires expect_verifier_pack_sha256" ++
    requirement facts.report "requires require_report_integrity='external_process_isolated'" ++
    requirement facts.network "requires docker_network='none'" ++
    requirement facts.image "requires docker_image" ++
    (if profile = protectedProfile then
      requirement facts.container "requires isolation='docker' or 'gvisor'" ++
      requirement facts.floorMatches "requires require_candidate_isolation to match isolation"
    else
      requirement facts.gvisor "requires isolation='gvisor'" ++
      requirement facts.gvisorFloor "requires require_candidate_isolation='gvisor'" ++
      requirement facts.memory "requires a non-zero mem_limit")

def settingsFacts (settings : ProfileSettings) : ProfileFacts where
  blackbox := settings.blackbox
  blackboxOnly := settings.blackboxOnly
  noSetup := !settings.setupCommandPresent
  noHostTrust := !settings.trustSetupOnHost
  pack := settings.verifierPackRequired
  pin := settings.expectVerifierPackSha256.any isVerifierPackSha256
  report := settings.requireReportIntegrity == some externalReport
  network := settings.dockerNetwork == noNetwork
  image := settings.dockerImagePresent
  container := [dockerIsolation, gvisorIsolation].contains settings.isolation
  floorMatches := settings.requireCandidateIsolation == some settings.isolation
  gvisor := settings.isolation == gvisorIsolation
  gvisorFloor := settings.requireCandidateIsolation == some gvisorIsolation
  memory := decide (0 < settings.memLimitMb)

def payloadFacts (policy : PolicyPayload) : ProfileFacts where
  blackbox := isBool true (field policy .blackbox)
  blackboxOnly := isBool true (field policy .blackboxOnly)
  noSetup := isNull (field policy .setupCommand)
  noHostTrust := isBool false (field policy .trustSetupOnHost)
  pack := isBool true (field policy .verifierPackRequired)
  pin := isDigest (field policy .expectVerifierPackSha256)
  report := isText externalReport (field policy .requireReportIntegrity)
  network := isText noNetwork (field policy .dockerNetwork)
  image := isGivenText (field policy .dockerImage)
  container := isText dockerIsolation (field policy .isolation) ||
    isText gvisorIsolation (field policy .isolation)
  floorMatches := sameScalar (field policy .requireCandidateIsolation) (field policy .isolation)
  gvisor := isText gvisorIsolation (field policy .isolation)
  gvisorFloor := isText gvisorIsolation (field policy .requireCandidateIsolation)
  memory := isPositiveInt (field policy .memLimitMb)

theorem violations_of_settings (profile : Text) (settings : ProfileSettings)
    (known : operatingProfiles.contains profile = true) :
    operatingProfileViolations (some profile) settings =
      requirementsOf profile (settingsFacts settings) := by
  unfold operatingProfileViolations
  simp only [known, Bool.not_true, Bool.false_eq_true, if_false]
  rfl

theorem errors_of_payload (profile : Text) (policy : PolicyPayload)
    (known : operatingProfiles.contains profile = true)
    (selected : field policy .operatingProfile = .string profile) :
    checkOperatingProfile policy = requirementsOf profile (payloadFacts policy) := by
  unfold checkOperatingProfile
  rw [selected]
  simp only [known, Bool.not_true, Bool.false_eq_true, if_false]
  rfl

variable (mapping : CaseMapping) (raw : GuardRequestPreparationInput)

theorem facts_agree (harnessInputs : List Text) (policy : EffectivePolicy)
    (checked : checkScalars raw = .ok ())
    (built : buildEffectivePolicy mapping (policyOptions raw harnessInputs) = .ok policy) :
    payloadFacts (effectivePolicyPayload policy) = settingsFacts (profileSettings raw) := by
  have pins := pin_reading mapping raw.expectVerifierPackSha256 (scalars_checked raw checked)
  unfold buildEffectivePolicy at built
  split at built
  · cases built
  · cases built
    unfold payloadFacts settingsFacts
    congr 1
    · exact bool_reading raw.blackbox
    · exact bool_reading raw.blackboxOnly
    · rw [setup_command_reading]
      exact congrArg (!Option.isSome ·) (given_command_idem raw.setupCommand)
    · exact negated_reading raw.trustSetupOnHost
    · exact bool_reading _
    · rw [pack_digest_reading]
      exact pins
    · exact text_reading externalReport raw.requireReportIntegrity
    · exact docker_image_reading _
    · change (raw.isolation == dockerIsolation || raw.isolation == gvisorIsolation) =
        [dockerIsolation, gvisorIsolation].contains raw.isolation
      simp only [List.contains_cons, List.contains_nil, Bool.or_false]
    · exact isolation_floor_reading raw.requireCandidateIsolation raw.isolation
    · exact text_reading gvisorIsolation raw.requireCandidateIsolation

theorem violations_eq_errors (harnessInputs : List Text) (policy : EffectivePolicy) (profile : Text)
    (checked : checkScalars raw = .ok ()) (selected : raw.operatingProfile = some profile)
    (known : profile ∈ operatingProfiles)
    (built : buildEffectivePolicy mapping (policyOptions raw harnessInputs) = .ok policy) :
    profileViolations raw = checkOperatingProfile (effectivePolicyPayload policy) := by
  have inside : operatingProfiles.contains profile = true := by
    rw [List.contains_eq_mem]
    exact decide_eq_true known
  have written : policy.operatingProfile = some profile := by
    unfold buildEffectivePolicy at built
    split at built
    · cases built
    · cases built
      exact selected
  have read : field (effectivePolicyPayload policy) .operatingProfile = .string profile := by
    rw [profile_reading, written]
    rfl
  rw [profileViolations, selected, violations_of_settings profile _ inside,
    errors_of_payload profile _ inside read,
    facts_agree mapping raw harnessInputs policy checked built]

theorem prepared_ok (prepared : PreparedGuardRequest)
    (accepted : prepareGuardRequest mapping raw = .ok prepared) :
    checkScalars raw = .ok () ∧ profileViolations raw = [] ∧
      ∃ harnessInputs policy, normalizeHarnessInputs mapping raw.harnessInputs = .ok harnessInputs ∧
        buildEffectivePolicy mapping (policyOptions raw harnessInputs) = .ok policy ∧
        prepared.policy = policy ∧ prepared.effectivePolicy = effectivePolicyPayload policy := by
  unfold prepareGuardRequest at accepted
  split at accepted
  · cases accepted
  · split at accepted
    · cases accepted
    · split at accepted
      · cases accepted
      · next harnessInputs normal =>
          split at accepted
          · cases accepted
          · split at accepted
            · cases accepted
            · next checked =>
                split at accepted
                · cases accepted
                · next none =>
                    split at accepted
                    · cases accepted
                    · next policy built =>
                        cases accepted
                        exact ⟨checked, not_not.mp none, harnessInputs, policy, normal, built, rfl,
                          rfl⟩

theorem profile_known (profile : Text) (settings : ProfileSettings)
    (none : operatingProfileViolations (some profile) settings = []) :
    profile ∈ operatingProfiles := by
  by_contra unknown
  have outside : operatingProfiles.contains profile = false := by
    rw [List.contains_eq_mem]
    exact decide_eq_false unknown
  unfold operatingProfileViolations at none
  simp only [outside, Bool.not_false, if_true] at none
  cases none

/-- A prepared request has no violations exactly when the record verifier finds no error in its
payload; and on every request with a known profile that gets as far as the profile check, both
report the same texts. -/
theorem operating_profile_checks_agree (profile : Text)
    (selected : raw.operatingProfile = some profile) :
    (∀ prepared, prepareGuardRequest mapping raw = .ok prepared →
      (profileViolations raw = [] ↔ checkOperatingProfile prepared.effectivePolicy = [])) ∧
    (∀ harnessInputs policy, profile ∈ operatingProfiles → checkScalars raw = .ok () →
      buildEffectivePolicy mapping (policyOptions raw harnessInputs) = .ok policy →
      profileViolations raw = checkOperatingProfile (effectivePolicyPayload policy)) := by
  constructor
  · intro prepared accepted
    rcases prepared_ok mapping raw prepared accepted with
      ⟨checked, none, harnessInputs, policy, -, built, -, payload⟩
    have known : profile ∈ operatingProfiles := by
      rw [profileViolations, selected] at none
      exact profile_known profile (profileSettings raw) none
    rw [payload, ← violations_eq_errors mapping raw harnessInputs policy profile checked selected
      known built]
  · intro harnessInputs policy known checked built
    exact violations_eq_errors mapping raw harnessInputs policy profile checked selected known built

/-- A request that meets the hostile profile, with the pin in upper case. -/
def hostileRequest : GuardRequestPreparationInput where
  testCommand := none
  setupCommand := some []
  trustSetupOnHost := false
  setupOutputGlobs := []
  protectedGlobs := []
  allow := []
  allowNewTests := false
  timeout := 120
  memLimitMb := 512
  isolation := gvisorIsolation
  dockerImage := some "python:3.12"
  dockerNetwork := noNetwork
  verifierPackPath := some "pack"
  expectVerifierPackSha256 := some (List.replicate 64 'A')
  collectDiffCoverage := false
  minDiffCoverage := none
  blackbox := true
  blackboxOnly := true
  requireReportIntegrity := some externalReport
  requireCandidateIsolation := some gvisorIsolation
  policyId := none
  policyVersion := none
  baselineEvidence := false
  requireDemonstratedFix := false
  strictHarness := false
  operatingProfile := some hostileProfile
  harnessInputs := []

theorem hostile_request_agrees : ∃ prepared,
    prepareGuardRequest asciiCase hostileRequest = .ok prepared ∧
      (profileViolations hostileRequest = [] ↔
        checkOperatingProfile prepared.effectivePolicy = []) := by
  have ok : (prepareGuardRequest asciiCase hostileRequest).isOk = true := by decide
  cases accepted : prepareGuardRequest asciiCase hostileRequest with
  | error problem =>
    rw [accepted] at ok
    cases ok
  | ok prepared =>
    exact ⟨prepared, rfl, (operating_profile_checks_agree asciiCase hostileRequest hostileProfile
      rfl).1 prepared accepted⟩

end EvoomGuard.Application.RequestPreparation
