import EvoomGuard.Domain.Harness
import EvoomGuard.Domain.Policy
import EvoomGuard.Lib.Json

/-!
`policy/effective.py`: the effective policy of a judgment, its ordered payload and its fingerprint.
-/

namespace EvoomGuard.Policy

open Lib Domain.Harness

structure EffectivePolicy where
  mode : Text
  isolation : Text
  dockerImage : Option Text
  dockerNetwork : Text
  testCommand : Option (List Text)
  setupCommand : Option (List Text)
  trustSetupOnHost : Bool
  setupOutputGlobs : List Text
  protectedGlobs : List Text
  allow : List Text
  allowNewTests : Bool
  timeout : Int
  memLimitMb : Int
  verifierPackRequired : Bool
  expectVerifierPackSha256 : Option Text
  blackbox : Bool
  blackboxOnly : Bool
  requireReportIntegrity : Option Text
  requireCandidateIsolation : Option Text
  minDiffCoverage : Option Rat
  baselineEvidence : Bool
  requireDemonstratedFix : Bool
  strictHarness : Bool
  policyId : Option Text
  policyVersion : Option Text
  operatingProfile : Option Text
  harnessInputs : List Text
  deriving DecidableEq

/-- The keyword arguments of `build_effective_policy`. -/
structure PolicyOptions where
  mode : Text
  isolation : Text
  dockerImage : Option Text
  dockerNetwork : Text
  testCommand : Option (List Text)
  setupCommand : Option (List Text)
  trustSetupOnHost : Bool
  setupOutputGlobs : List Text
  protectedGlobs : List Text
  allow : List Text
  allowNewTests : Bool
  timeout : Int
  memLimitMb : Int
  verifierPack : Option Text
  expectVerifierPackSha256 : Option Text
  blackbox : Bool
  blackboxOnly : Bool
  requireReportIntegrity : Option Text
  requireCandidateIsolation : Option Text
  minDiffCoverage : Option Rat
  baselineEvidence : Bool
  requireDemonstratedFix : Bool
  strictHarness : Bool
  policyId : Option Text
  policyVersion : Option Text
  operatingProfile : Option Text
  harnessInputs : List Text

/-- `bool(value)` of an optional string. -/
def givenText (value : Option Text) : Bool := value.any (!·.isEmpty)

/-- `tuple(command) if command else None`. -/
def givenCommand (command : Option (List Text)) : Option (List Text) :=
  command.filter (!·.isEmpty)

def buildEffectivePolicy (mapping : CaseMapping) (options : PolicyOptions) :
    Except HarnessInputPolicyError EffectivePolicy :=
  match normalizeHarnessInputs mapping options.harnessInputs with
  | .error problem => .error problem
  | .ok harnessInputs => .ok
      { mode := options.mode
        isolation := options.isolation
        dockerImage := options.dockerImage
        dockerNetwork := options.dockerNetwork
        testCommand := givenCommand options.testCommand
        setupCommand := givenCommand options.setupCommand
        trustSetupOnHost := options.trustSetupOnHost
        setupOutputGlobs := Text.sorted options.setupOutputGlobs
        protectedGlobs := Text.sorted options.protectedGlobs
        allow := Text.sorted options.allow
        allowNewTests := options.allowNewTests
        timeout := options.timeout
        memLimitMb := options.memLimitMb
        verifierPackRequired := givenText options.verifierPack
        expectVerifierPackSha256 :=
          (options.expectVerifierPackSha256.filter (!·.isEmpty)).map mapping.lower
        blackbox := options.blackbox
        blackboxOnly := options.blackboxOnly
        requireReportIntegrity := options.requireReportIntegrity
        requireCandidateIsolation := options.requireCandidateIsolation
        minDiffCoverage := options.minDiffCoverage
        baselineEvidence := options.baselineEvidence
        requireDemonstratedFix := options.requireDemonstratedFix
        strictHarness := options.strictHarness
        policyId := options.policyId
        policyVersion := options.policyVersion
        operatingProfile := options.operatingProfile
        harnessInputs := harnessInputs }

inductive PolicyKey where
  | mode
  | isolation
  | dockerImage
  | dockerNetwork
  | testCommand
  | setupCommand
  | trustSetupOnHost
  | setupOutputGlobs
  | protectedGlobs
  | allow
  | allowNewTests
  | timeout
  | memLimitMb
  | verifierPackRequired
  | expectVerifierPackSha256
  | blackbox
  | blackboxOnly
  | requireReportIntegrity
  | requireCandidateIsolation
  | minDiffCoverage
  | baselineEvidence
  | requireDemonstratedFix
  | strictHarness
  | policyId
  | policyVersion
  | operatingProfile
  | harnessInputs
  deriving DecidableEq

def PolicyKey.text : PolicyKey → Text
  | .mode => "mode"
  | .isolation => "isolation"
  | .dockerImage => "docker_image"
  | .dockerNetwork => "docker_network"
  | .testCommand => "test_command"
  | .setupCommand => "setup_command"
  | .trustSetupOnHost => "trust_setup_on_host"
  | .setupOutputGlobs => "setup_output_globs"
  | .protectedGlobs => "protected"
  | .allow => "allow"
  | .allowNewTests => "allow_new_tests"
  | .timeout => "timeout"
  | .memLimitMb => "mem_limit_mb"
  | .verifierPackRequired => "verifier_pack_required"
  | .expectVerifierPackSha256 => "expect_verifier_pack_sha256"
  | .blackbox => "blackbox"
  | .blackboxOnly => "blackbox_only"
  | .requireReportIntegrity => "require_report_integrity"
  | .requireCandidateIsolation => "require_candidate_isolation"
  | .minDiffCoverage => "min_diff_coverage"
  | .baselineEvidence => "baseline_evidence"
  | .requireDemonstratedFix => "require_demonstrated_fix"
  | .strictHarness => "strict_harness"
  | .policyId => "policy_id"
  | .policyVersion => "policy_version"
  | .operatingProfile => "operating_profile"
  | .harnessInputs => "harness_inputs"

abbrev PolicyPayload := List (PolicyKey × Json)

def defaultTestCommandMarker : Text := "default:python -m pytest"

def textOrNull : Option Text → Json
  | none => .null
  | some text => .string text

def texts (values : List Text) : Json := .array (values.map Json.string)

def effectivePolicyPayload (policy : EffectivePolicy) : PolicyPayload :=
  [(.mode, .string policy.mode),
    (.isolation, .string policy.isolation),
    (.dockerImage, textOrNull policy.dockerImage),
    (.dockerNetwork, .string policy.dockerNetwork),
    (.testCommand, match givenCommand policy.testCommand with
      | some command => texts command
      | none => .string defaultTestCommandMarker),
    (.setupCommand, match givenCommand policy.setupCommand with
      | some command => texts command
      | none => .null),
    (.trustSetupOnHost, .bool policy.trustSetupOnHost),
    (.setupOutputGlobs, texts policy.setupOutputGlobs),
    (.protectedGlobs, texts policy.protectedGlobs),
    (.allow, texts policy.allow),
    (.allowNewTests, .bool policy.allowNewTests),
    (.timeout, .int policy.timeout),
    (.memLimitMb, .int policy.memLimitMb),
    (.verifierPackRequired, .bool policy.verifierPackRequired),
    (.expectVerifierPackSha256, textOrNull policy.expectVerifierPackSha256),
    (.blackbox, .bool policy.blackbox),
    (.blackboxOnly, .bool policy.blackboxOnly),
    (.requireReportIntegrity, textOrNull policy.requireReportIntegrity),
    (.requireCandidateIsolation, textOrNull policy.requireCandidateIsolation),
    (.minDiffCoverage, match policy.minDiffCoverage with
      | none => .null
      | some floor => .float floor),
    (.baselineEvidence, .bool policy.baselineEvidence),
    (.requireDemonstratedFix, .bool policy.requireDemonstratedFix),
    (.strictHarness, .bool policy.strictHarness),
    (.policyId, textOrNull policy.policyId),
    (.policyVersion, textOrNull policy.policyVersion)] ++
  (match policy.operatingProfile with
    | none => []
    | some profile => [(.operatingProfile, .string profile)]) ++
  (if policy.harnessInputs = [] then [] else [(.harnessInputs, texts policy.harnessInputs)])

/-- `dumps` is `json.dumps` with sorted keys. -/
def effectivePolicySha256 (dumps : Json → Text) (payload : PolicyPayload) : Text :=
  Sha256.hexdigest (dumps (.object (payload.map fun field => (field.1.text, field.2))))

end EvoomGuard.Policy
