import EvoomGuard.Policy.Effective
import EvoomGuard.Verifiers.RepoContinuity

/-!
`policy/config.py`: the fail-closed reader of `.evoguard.json`. The document comes decoded, or with
the text of what went wrong; the accepted policy is the list of its validated fields.
-/

namespace EvoomGuard.Policy

open Lib Domain.Harness Domain.Policy Verifiers

inductive ConfigKey where
  | testCommand
  | setupCommand
  | protectedGlobs
  | allow
  | timeout
  | memLimit
  | allowNewTests
  | trustSetupOnHost
  | setupOutputGlobs
  | strictHarness
  | harnessInputs
  | operatingProfile
  | isolation
  | dockerImage
  | dockerNetwork
  | blackbox
  | blackboxOnly
  | diffCoverage
  | baselineEvidence
  | requireDemonstratedFix
  | verifierPack
  | expectVerifierPackSha256
  | requireReportIntegrity
  | requireCandidateIsolation
  | minDiffCoverage
  | policyId
  | policyVersion
  deriving DecidableEq

def ConfigKey.text : ConfigKey → Text
  | .testCommand => "test_command"
  | .setupCommand => "setup_command"
  | .protectedGlobs => "protected"
  | .allow => "allow"
  | .timeout => "timeout"
  | .memLimit => "mem_limit"
  | .allowNewTests => "allow_new_tests"
  | .trustSetupOnHost => "trust_setup_on_host"
  | .setupOutputGlobs => "setup_output_globs"
  | .strictHarness => "strict_harness"
  | .harnessInputs => "harness_inputs"
  | .operatingProfile => "operating_profile"
  | .isolation => "isolation"
  | .dockerImage => "docker_image"
  | .dockerNetwork => "docker_network"
  | .blackbox => "blackbox"
  | .blackboxOnly => "blackbox_only"
  | .diffCoverage => "diff_coverage"
  | .baselineEvidence => "baseline_evidence"
  | .requireDemonstratedFix => "require_demonstrated_fix"
  | .verifierPack => "verifier_pack"
  | .expectVerifierPackSha256 => "expect_verifier_pack_sha256"
  | .requireReportIntegrity => "require_report_integrity"
  | .requireCandidateIsolation => "require_candidate_isolation"
  | .minDiffCoverage => "min_diff_coverage"
  | .policyId => "policy_id"
  | .policyVersion => "policy_version"

/-- The commands and the path policy, in the order they are validated. -/
def pathKeys : List ConfigKey :=
  [.testCommand, .setupCommand, .protectedGlobs, .allow, .setupOutputGlobs, .harnessInputs]

def scalarKeys : List ConfigKey :=
  [.timeout, .memLimit, .allowNewTests, .trustSetupOnHost, .strictHarness, .blackbox,
    .blackboxOnly, .diffCoverage, .baselineEvidence, .requireDemonstratedFix]

def judgeKeys : List ConfigKey :=
  [.isolation, .operatingProfile, .dockerImage, .dockerNetwork, .verifierPack,
    .expectVerifierPackSha256, .requireReportIntegrity, .requireCandidateIsolation,
    .minDiffCoverage, .policyId, .policyVersion]

def configKeys : List Text := (pathKeys ++ scalarKeys ++ judgeKeys).map ConfigKey.text

inductive ConfigError where
  | missing
  | unreadable (problem : Text)
  | notObject (typeName : Text)
  | unknownKeys (keys : List Text)
  | invalid (key : ConfigKey) (reason : Text)

/-- The text of the exception; `quote` is `repr`. -/
def ConfigError.text (quote : Text → Text) (path : Text) : ConfigError → Text
  | .missing => "trusted policy file does not exist: " ++ path
  | .unreadable problem => path ++ " is not readable JSON (" ++ problem ++ [')']
  | .notObject typeName => path ++ ": expected a JSON object, got " ++ typeName
  | .unknownKeys keys =>
    path ++ ": unknown key(s) " ++ Text.join ", " keys ++
      (" — a misspelled policy key must not be silently ignored; " ++
        "the accepted keys are: ").toList ++ Text.join ", " (Text.sorted configKeys)
  | .invalid key reason =>
    path ++ ": invalid " ++ quote key.text ++ " — " ++ reason

abbrev Config := List (ConfigKey × Json)

def Config.get (config : Config) (key : ConfigKey) : Option Json := config.lookup key

def strings? (items : List Json) : Option (List Text) := items.mapM Json.asString?

def stringList (reason : String) : Json → Except Text Json
  | .array items =>
    match strings? items with
    | some _ => .ok (.array items)
    | none => .error reason.toList
  | _ => .error reason.toList

def integer (minimum : Int) (reason : String) : Json → Except Text Json
  | .int value => if value < minimum then .error reason.toList else .ok (.int value)
  | _ => .error "expected an integer"

def boolean : Json → Except Text Json
  | .bool value => .ok (.bool value)
  | _ => .error "expected true or false"

def oneOf (values : List Text) (reason : String) : Json → Except Text Json
  | .string value => if values.contains value then .ok (.string value) else .error reason.toList
  | _ => .error reason.toList

/-- A string with something in it besides white space, and nothing that is forbidden. -/
def filledText (forbidden : List Char) (reason : String) : Json → Except Text Json
  | .string value =>
    if (Text.strip value).isEmpty || value.any forbidden.contains then .error reason.toList
    else .ok (.string value)
  | _ => .error reason.toList

def reportIntegrityValues : List Text :=
  ["same_process_candidate_writable", "external_process_isolated"]

def isolationReason : String := "expected one of ['subprocess', 'docker', 'gvisor']"

def inPercent (value : Rat) : Bool := decide (0 ≤ value ∧ value ≤ 100)

def validateValue (mapping : CaseMapping) : ConfigKey → Json → Except Text Json
  | .testCommand, .string command => .ok (.string command)
  | .testCommand, value => stringList "expected a string or a list of strings" value
  | .setupCommand, value =>
    stringList ("expected a list of strings (never a shell string — splitting on " ++
      "spaces is unsafe for paths)") value
  | .protectedGlobs, value => stringList "expected a list of glob strings" value
  | .allow, value => stringList "expected a list of glob strings" value
  | .setupOutputGlobs, value => stringList "expected a list of glob strings" value
  | .harnessInputs, .array items =>
    match strings? items with
    | none => .error "expected a list of exact repository-relative file paths"
    | some paths =>
      match normalizeHarnessInputs mapping paths with
      | .error problem => .error problem.message.toList
      | .ok normalized => .ok (texts normalized)
  | .harnessInputs, _ => .error "expected a list of exact repository-relative file paths"
  | .timeout, value => integer 1 "expected a positive integer" value
  | .memLimit, value => integer 0 "expected a non-negative integer" value
  | .allowNewTests, value => boolean value
  | .trustSetupOnHost, value => boolean value
  | .strictHarness, value => boolean value
  | .blackbox, value => boolean value
  | .blackboxOnly, value => boolean value
  | .diffCoverage, value => boolean value
  | .baselineEvidence, value => boolean value
  | .requireDemonstratedFix, value => boolean value
  | .isolation, value => oneOf supportedIsolationModes isolationReason value
  | .operatingProfile, value =>
    oneOf operatingProfiles "expected one of ['local', 'protected', 'hostile']" value
  | .dockerImage, value => filledText ['\x00'] "expected a non-empty string without NUL" value
  | .dockerNetwork, value => filledText ['\x00'] "expected a non-empty string without NUL" value
  | .verifierPack, value => filledText [] "expected a non-empty path string" value
  | .expectVerifierPackSha256, .string value =>
    if isVerifierPackSha256 value then .ok (.string (mapping.lower value))
    else .error "expected exactly 64 hexadecimal SHA-256 characters"
  | .expectVerifierPackSha256, _ =>
    .error "expected exactly 64 hexadecimal SHA-256 characters"
  | .requireReportIntegrity, value =>
    oneOf reportIntegrityValues
      "expected one of ['same_process_candidate_writable', 'external_process_isolated']" value
  | .requireCandidateIsolation, value => oneOf supportedIsolationModes isolationReason value
  | .minDiffCoverage, .int value =>
    if inPercent value then .ok (.float value)
    else .error "expected a number between 0 and 100"
  | .minDiffCoverage, .float value =>
    if inPercent value then .ok (.float value)
    else .error "expected a number between 0 and 100"
  | .minDiffCoverage, _ => .error "expected a number between 0 and 100"
  | .policyId, value => filledText [] "expected a non-empty string" value
  | .policyVersion, value => filledText [] "expected a non-empty string" value

def loadKeys (mapping : CaseMapping) (data : List (Text × Json)) :
    List ConfigKey → Except ConfigError Config
  | [] => .ok []
  | key :: rest =>
    match Json.field? data key.text with
    | none => loadKeys mapping data rest
    | some value =>
      match validateValue mapping key value with
      | .error reason => .error (.invalid key reason)
      | .ok valid =>
        match loadKeys mapping data rest with
        | .error problem => .error problem
        | .ok config => .ok ((key, valid) :: config)

def textOf : Option Json → Option Text
  | some (.string value) => some value
  | _ => none

def isTrue : Option Json → Bool
  | some (.bool true) => true
  | _ => false

/-- The value if it is a boolean, else false. -/
def boolOf : Option Json → Bool
  | some (.bool value) => value
  | _ => false

/-- `type(value) is int`. -/
def intOf : Option Json → Option Int
  | some (.int value) => some value
  | _ => none

/-- `isinstance(value, int)`, which holds of a boolean too. -/
def intLike : Option Json → Option Int
  | some (.int value) => some value
  | some (.bool value) => some (if value then 1 else 0)
  | _ => none

def floatOf : Option Json → Option Rat
  | some (.float value) => some value
  | _ => none

/-- The items of a list as strings; `shown` is `str` on what is no string. -/
def listOf (shown : Json → Text) : Option Json → Option (List Text)
  | some (.array items) => some (items.map fun item => item.asString?.getD (shown item))
  | _ => none

def configConflicts (mapping : CaseMapping) (config : Config) : List Text :=
  match listOf (fun _ => []) (config.get .harnessInputs),
      listOf (fun _ => []) (config.get .setupOutputGlobs) with
  | some inputs, some globs => setupOutputHarnessConflicts mapping inputs globs
  | _, _ => []

def configProfileSettings (config : Config) : ProfileSettings where
  isolation := (textOf (config.get .isolation)).getD subprocessIsolation
  dockerImagePresent := (textOf (config.get .dockerImage)).isSome
  dockerNetwork := (textOf (config.get .dockerNetwork)).getD noNetwork
  setupCommandPresent := (config.get .setupCommand).isSome
  trustSetupOnHost := isTrue (config.get .trustSetupOnHost)
  memLimitMb := (intOf (config.get .memLimit)).getD 1024
  verifierPackRequired := (textOf (config.get .verifierPack)).isSome
  expectVerifierPackSha256 := textOf (config.get .expectVerifierPackSha256)
  blackbox := isTrue (config.get .blackbox)
  blackboxOnly := isTrue (config.get .blackboxOnly)
  requireReportIntegrity := textOf (config.get .requireReportIntegrity)
  requireCandidateIsolation := textOf (config.get .requireCandidateIsolation)

def loadObject (mapping : CaseMapping) (quote : Text → Text) (data : List (Text × Json)) :
    Except ConfigError Config :=
  match Text.sorted ((data.map Prod.fst).filter (!configKeys.contains ·)) with
  | [] =>
    match loadKeys mapping data pathKeys with
    | .error problem => .error problem
    | .ok paths =>
      if configConflicts mapping paths ≠ [] then
        .error (.invalid .setupOutputGlobs ("cannot exclude harness_inputs: " ++
          Text.join ", " (configConflicts mapping paths)))
      else
        match loadKeys mapping data scalarKeys with
        | .error problem => .error problem
        | .ok scalars =>
          if isTrue (Json.field? data ConfigKey.blackboxOnly.text) &&
              !isTrue (Json.field? data ConfigKey.blackbox.text) then
            .error (.invalid .blackboxOnly "requires blackbox: true")
          else
            match loadKeys mapping data judgeKeys with
            | .error problem => .error problem
            | .ok judges =>
              let config := paths ++ scalars ++ judges
              match textOf (config.get .operatingProfile) with
              | none => .ok config
              | some profile =>
                match operatingProfileViolations (some profile)
                  (configProfileSettings config) with
                | [] => .ok config
                | violations =>
                  .error (.invalid .operatingProfile (quote profile ++ [' '] ++
                    Text.join "; " violations))
  | unknown => .error (.unknownKeys unknown)

/-- `none` is a path that does not exist. -/
def loadConfig (mapping : CaseMapping) (quote : Text → Text) (required : Bool)
    (document : Option (Except Text Json)) : Except ConfigError Config :=
  match document with
  | none => if required then .error .missing else .ok []
  | some (.error problem) => .error (.unreadable problem)
  | some (.ok (.object data)) => loadObject mapping quote data
  | some (.ok value) => .error (.notObject value.typeName)

section

variable (mapping : CaseMapping) (quote : Text → Text)

theorem load_keys_valid (data : List (Text × Json)) (keys : List ConfigKey) (config : Config)
    (loaded : loadKeys mapping data keys = .ok config) :
    ∀ item ∈ config, ∃ raw, validateValue mapping item.1 raw = .ok item.2 := by
  induction keys generalizing config with
  | nil =>
    simp only [loadKeys, Except.ok.injEq] at loaded
    simp [← loaded]
  | cons key rest ih =>
    rw [loadKeys] at loaded
    split at loaded
    · exact ih config loaded
    · next value _ =>
        split at loaded
        · cases loaded
        · next valid checked =>
            split at loaded
            · cases loaded
            · next later laterLoaded =>
                cases loaded
                intro item inside
                rcases List.mem_cons.mp inside with first | behind
                · rw [first]
                  exact ⟨value, checked⟩
                · exact ih later laterLoaded item behind

theorem load_object_valid (data : List (Text × Json)) (config : Config)
    (loaded : loadObject mapping quote data = .ok config) :
    ∀ item ∈ config, ∃ raw, validateValue mapping item.1 raw = .ok item.2 := by
  unfold loadObject at loaded
  split at loaded
  · split at loaded
    · cases loaded
    · next paths pathsLoaded =>
        split at loaded
        · cases loaded
        · split at loaded
          · cases loaded
          · next scalars scalarsLoaded =>
              split at loaded
              · cases loaded
              · split at loaded
                · cases loaded
                · next judges judgesLoaded =>
                    have all : config = paths ++ scalars ++ judges := by
                      simp only at loaded
                      split at loaded
                      · cases loaded
                        rfl
                      · split at loaded
                        · cases loaded
                          rfl
                        · cases loaded
                    intro item inside
                    rw [all, List.mem_append, List.mem_append] at inside
                    rcases inside with (first | second) | third
                    · exact load_keys_valid mapping data pathKeys paths pathsLoaded item first
                    · exact load_keys_valid mapping data scalarKeys scalars scalarsLoaded item second
                    · exact load_keys_valid mapping data judgeKeys judges judgesLoaded item third
  · cases loaded

theorem load_config_valid (required : Bool) (document : Option (Except Text Json))
    (config : Config) (loaded : loadConfig mapping quote required document = .ok config)
    (key : ConfigKey) (value : Json) (found : config.get key = some value) :
    ∃ raw, validateValue mapping key raw = .ok value := by
  have inside := mem_of_lookup_eq config key value found
  unfold loadConfig at loaded
  split at loaded
  · split at loaded
    · cases loaded
    · cases loaded
      cases inside
  · cases loaded
  · next data => exact load_object_valid mapping quote data config loaded _ inside
  · cases loaded

end

end EvoomGuard.Policy
