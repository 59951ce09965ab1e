import EvoomGuard.Cli.GuardCommand
import EvoomGuard.Lib.Framing

/-!
The effective policy the trusted finalizer derives from the raw `.evoguard.json` of the base,
beside the one the runner enforces. They differ in one setting at most: the memory limit of a Node
project whose `package.json` the runner finds behind a link.
-/

namespace EvoomGuard.Finalizer

open Lib Lib.Framing Domain.Harness Domain.Policy Policy Application.RequestPreparation Workspace
open Workspace.CandidateTree Cli.GuardCommand

def maxPolicyBytes : Nat := 1 * 1024 * 1024

/-- `value or default` of an optional string. -/
def textOr (fallback : Text) (value : Option Text) : Text := (value.filter (!·.isEmpty)).getD fallback

/-- `value or default` of an optional number. -/
def intOr (fallback : Int) (value : Option Int) : Int := (value.filter (· != 0)).getD fallback

def finalizerOptions (shown : Json → Text) (config : Config) : PolicyOptions where
  mode := if boolOf (config.get .blackbox) then "blackbox" else "repo"
  isolation := textOr subprocessIsolation (textOf (config.get .isolation))
  dockerImage := textOf (config.get .dockerImage)
  dockerNetwork := textOr noNetwork (textOf (config.get .dockerNetwork))
  testCommand := testCommandOf shown (config.get .testCommand)
  setupCommand := listOf shown (config.get .setupCommand)
  trustSetupOnHost := boolOf (config.get .trustSetupOnHost)
  setupOutputGlobs := (listOf shown (config.get .setupOutputGlobs)).getD []
  protectedGlobs := (listOf shown (config.get .protectedGlobs)).getD []
  allow := (listOf shown (config.get .allow)).getD []
  allowNewTests := boolOf (config.get .allowNewTests)
  timeout := intOr 120 (intOf (config.get .timeout))
  memLimitMb := (intOf (config.get .memLimit)).getD 1024
  verifierPack := textOf (config.get .verifierPack)
  expectVerifierPackSha256 := textOf (config.get .expectVerifierPackSha256)
  blackbox := boolOf (config.get .blackbox)
  blackboxOnly := boolOf (config.get .blackboxOnly)
  requireReportIntegrity := textOf (config.get .requireReportIntegrity)
  requireCandidateIsolation := textOf (config.get .requireCandidateIsolation)
  minDiffCoverage := floatOf (config.get .minDiffCoverage)
  baselineEvidence := boolOf (config.get .baselineEvidence)
  requireDemonstratedFix := boolOf (config.get .requireDemonstratedFix)
  strictHarness := boolOf (config.get .strictHarness)
  policyId := textOf (config.get .policyId)
  policyVersion := textOf (config.get .policyVersion)
  operatingProfile := textOf (config.get .operatingProfile)
  harnessInputs := (listOf shown (config.get .harnessInputs)).getD []

/-- `decode` reads a policy file: its text as UTF-8 and the text as strict JSON. -/
def effectivePolicyFromRawConfig (mapping : CaseMapping) (shown : Json → Text)
    (quote : Text → Text) (decode : Bytes → Except Text Json) (path : Text) (policyBytes : Bytes)
    (headHasPackageJson : Bool) : Except Text (PolicyPayload × Option Text × Option Text) :=
  if maxPolicyBytes < policyBytes.length then
    .error "base .evoguard.json exceeds the finalizer limit"
  else if (decodeUtf8 ⟨policyBytes.toArray⟩).isNone then
    .error "base .evoguard.json is not UTF-8"
  else
    match loadConfig mapping quote true (some (decode policyBytes)) with
    | .error problem =>
      .error ("base .evoguard.json is invalid: " ++ problem.text quote path)
    | .ok config =>
      let options := finalizerOptions shown config
      if options.memLimitMb = 1024 ∧ headHasPackageJson = true ∧
          (config.get .memLimit).isNone = true then
        .error ("trusted finalizer requires an explicit base-policy mem_limit for a Node " ++
          "project").toList
      else if (options.isolation = dockerIsolation ∨ options.isolation = gvisorIsolation) ∧
          givenText options.dockerImage = false then
        .error ("base policy " ++ quote options.isolation ++
          " requires docker_image")
      else
        match buildEffectivePolicy mapping options with
        | .error problem => .error problem.message.toList
        | .ok policy =>
          .ok (effectivePolicyPayload policy, options.verifierPack,
            options.expectVerifierPackSha256)

/-- The head tree of the finalizer: a `package.json` counts when it is a regular file. -/
def headHasPackageJson (head : ProjectCheckout) : Bool :=
  (head.tree.listing.entry packageJson).any TreeEntry.isRegular

section

variable (mapping : CaseMapping) (config : Config)

/-- The values an accepted policy can have under a key. -/
def Validated : Prop :=
  ∀ key value, config.get key = some value → ∃ raw, validateValue mapping key raw = .ok value

theorem timeout_reading (valid : Validated mapping config) :
    intOr 120 (intOf (config.get .timeout)) = (intLike (config.get .timeout)).getD 120 := by
  cases found : config.get .timeout with
  | none => rfl
  | some value =>
    rcases valid .timeout value found with ⟨raw, checked⟩
    rw [validateValue] at checked
    unfold integer at checked
    split at checked
    · next number =>
        split at checked
        · cases checked
        · next positive =>
            cases checked
            have nonzero : (number != 0) = true := by
              rw [bne_iff_ne]
              omega
            rw [intOf, intLike, intOr, Option.filter_some, if_pos nonzero]
    · cases checked

theorem mem_limit_reading (valid : Validated mapping config) :
    intLike (config.get .memLimit) = intOf (config.get .memLimit) ∧
      ((config.get .memLimit).isNone = true ↔ intOf (config.get .memLimit) = none) := by
  cases found : config.get .memLimit with
  | none => simp [intLike, intOf]
  | some value =>
    rcases valid .memLimit value found with ⟨raw, checked⟩
    rw [validateValue] at checked
    unfold integer at checked
    split at checked
    · split at checked
      · cases checked
      · cases checked
        simp [intLike, intOf]
    · cases checked

theorem given_is_full (text : Text) (given : text ≠ []) : (!text.isEmpty) = true := by
  cases text with
  | nil => exact absurd rfl given
  | cons first rest => rfl

theorem keep_given (text : Text) (given : text ≠ []) :
    (some text).filter (!·.isEmpty) = some text := by
  rw [Option.filter_some, if_pos (given_is_full text given)]

theorem text_or_given (fallback text : Text) (given : text ≠ []) :
    textOr fallback (some text) = text := by
  rw [textOr, keep_given text given]
  rfl

theorem isolation_reading (valid : Validated mapping config) :
    textOr subprocessIsolation (textOf (config.get .isolation)) =
      (textOf (config.get .isolation)).getD subprocessIsolation := by
  cases found : config.get .isolation with
  | none => rfl
  | some value =>
    rcases valid .isolation value found with ⟨raw, checked⟩
    rw [validateValue] at checked
    unfold oneOf at checked
    split at checked
    · next text =>
        split at checked
        · next known =>
            cases checked
            apply text_or_given
            intro empty
            subst empty
            exact absurd known (by decide)
        · cases checked
    · cases checked

theorem filled_text_given (forbidden : List Char) (reason : String) (raw : Json) (text : Text)
    (checked : filledText forbidden reason raw = .ok (.string text)) : text ≠ [] := by
  unfold filledText at checked
  split at checked
  · split at checked
    · cases checked
    · next filled =>
        cases checked
        intro empty
        subst empty
        exact filled rfl
  · cases checked

theorem filled_text_is_text (forbidden : List Char) (reason : String) (raw value : Json)
    (checked : filledText forbidden reason raw = .ok value) : ∃ text, value = .string text := by
  unfold filledText at checked
  split at checked
  · split at checked
    · cases checked
    · cases checked
      exact ⟨_, rfl⟩
  · cases checked

theorem docker_network_reading (valid : Validated mapping config) :
    textOr noNetwork (textOf (config.get .dockerNetwork)) =
      (textOf (config.get .dockerNetwork)).getD noNetwork := by
  cases found : config.get .dockerNetwork with
  | none => rfl
  | some value =>
    rcases valid .dockerNetwork value found with ⟨raw, checked⟩
    rw [validateValue] at checked
    rcases filled_text_is_text _ _ raw value checked with ⟨text, same⟩
    subst same
    exact text_or_given noNetwork text (filled_text_given _ _ raw text checked)

theorem pack_required_reading (services : PathServices) (valid : Validated mapping config) :
    givenText ((textOf (config.get .verifierPack)).map services.packPath) =
      givenText (textOf (config.get .verifierPack)) := by
  cases found : config.get .verifierPack with
  | none => rfl
  | some value =>
    rcases valid .verifierPack value found with ⟨raw, checked⟩
    rw [validateValue] at checked
    rcases filled_text_is_text _ _ raw value checked with ⟨text, same⟩
    subst same
    have given := filled_text_given _ _ raw text checked
    have placed := services.packPath_given text given
    rw [textOf, givenText, givenText, Option.map_some, Option.any_some, Option.any_some,
      given_is_full text given, given_is_full _ placed]

theorem lower_hex (pin : Text) (valid : isVerifierPackSha256 pin = true) :
    mapping.lower (mapping.lower pin) = mapping.lower pin ∧ mapping.lower pin ≠ [] := by
  simp only [isVerifierPackSha256, Bool.and_eq_true, beq_iff_eq, List.all_eq_true] at valid
  have bounded : ∀ character ∈ pin, character.toNat < 128 := fun character inside =>
    hex_digit_bounded character (valid.2 character inside)
  have idempotent : ∀ code < 128,
      (Char.ofNat code).toLower.toLower = (Char.ofNat code).toLower ∧
        (Char.ofNat code).toLower.toNat < 128 := by
    decide
  have lowered : ∀ character ∈ pin,
      character.toLower.toLower = character.toLower ∧ character.toLower.toNat < 128 := by
    intro character inside
    have small := idempotent character.toNat (bounded character inside)
    rwa [Char.ofNat_toNat] at small
  have ascii : ∀ character ∈ pin.map Char.toLower, character.toNat < 128 := by
    intro character inside
    rcases List.mem_map.mp inside with ⟨original, found, same⟩
    rw [← same]
    exact (lowered original found).2
  rw [mapping.lower_ascii pin bounded]
  constructor
  · rw [mapping.lower_ascii _ ascii, List.map_map]
    apply List.map_congr_left
    intro character inside
    exact (lowered character inside).1
  · intro empty
    have length := congrArg List.length empty
    rw [List.length_map, valid.1] at length
    cases length

theorem pin_twice (valid : Validated mapping config) :
    ((((textOf (config.get .expectVerifierPackSha256)).map mapping.lower).filter
        (!·.isEmpty)).map mapping.lower) =
      ((textOf (config.get .expectVerifierPackSha256)).filter (!·.isEmpty)).map mapping.lower := by
  cases found : config.get .expectVerifierPackSha256 with
  | none => rfl
  | some value =>
    rcases valid .expectVerifierPackSha256 value found with ⟨raw, checked⟩
    cases raw with
    | string text =>
      rw [validateValue] at checked
      split at checked
      · next hex =>
          cases checked
          have lowered := lower_hex mapping text hex
          rw [textOf, Option.map_some, lowered.1]
      · cases checked
    | null | bool value | int value | float value | array items | object fields => cases checked

end

section

variable (mapping : CaseMapping) (shown : Json → Text) (quote : Text → Text)
  (services : PathServices) (head : ProjectCheckout)

theorem load_config_required (required : Bool) (document : Except Text Json) :
    loadConfig mapping quote required (some document) =
      loadConfig mapping quote true (some document) := by
  cases document with
  | error problem => rfl
  | ok value =>
    cases value with
    | object data | null | bool value | int value | float value | string value | array items => rfl

theorem guarded_call (path : Text) (args : GuardArgs) (document : Option (Except Text Json))
    (base : ProjectCheckout) (call : GuardRequestPreparationInput)
    (reached : executeGuardCommand mapping shown quote services path args document base head =
      .guarded call) :
    ∃ config, loadConfig mapping quote false document = .ok config ∧
      call = resolvedCall mapping shown services args config head := by
  unfold executeGuardCommand at reached
  split at reached
  · cases reached
  · split at reached
    · cases reached
    · split at reached
      · cases reached
      · next config loaded =>
          simp only at reached
          split at reached
          · cases reached
          · split at reached
            · cases reached
            · split at reached
              · cases reached
              · split at reached
                · cases reached
                · cases reached
                  exact ⟨config, loaded, rfl⟩

theorem derived_policy (decode : Bytes → Except Text Json) (path : Text) (policyBytes : Bytes)
    (hasPackageJson : Bool) (payload : PolicyPayload) (pack pin : Option Text)
    (derived : effectivePolicyFromRawConfig mapping shown quote decode path policyBytes
      hasPackageJson = .ok (payload, pack, pin)) :
    ∃ config policy, loadConfig mapping quote true (some (decode policyBytes)) = .ok config ∧
      buildEffectivePolicy mapping (finalizerOptions shown config) = .ok policy ∧
      payload = effectivePolicyPayload policy ∧
      ¬((intOf (config.get .memLimit)).getD 1024 = 1024 ∧ hasPackageJson = true ∧
        (config.get .memLimit).isNone = true) := by
  unfold effectivePolicyFromRawConfig at derived
  split at derived
  · cases derived
  · split at derived
    · cases derived
    · split at derived
      · cases derived
      · next config loaded =>
          simp only at derived
          split at derived
          · cases derived
          · next explicit =>
              split at derived
              · cases derived
              · split at derived
                · cases derived
                · next policy built =>
                    cases derived
                    exact ⟨config, policy, loaded, built, rfl, explicit⟩

theorem built_policy (options : PolicyOptions) (policy : EffectivePolicy)
    (built : buildEffectivePolicy mapping options = .ok policy) :
    ∃ normalized, normalizeHarnessInputs mapping options.harnessInputs = .ok normalized ∧
      policy.harnessInputs = normalized ∧ policy.memLimitMb = options.memLimitMb := by
  unfold buildEffectivePolicy at built
  split at built
  · cases built
  · next normalized accepted =>
      cases built
      exact ⟨normalized, accepted, rfl, rfl⟩

theorem normalized_again (inputs normalized again : List Text)
    (accepted : normalizeHarnessInputs mapping inputs = .ok normalized)
    (repeated : normalizeHarnessInputs mapping normalized = .ok again) : again = normalized := by
  have first := (normalize_harness_inputs_ok mapping inputs normalized).mp accepted
  have second := (normalize_harness_inputs_ok mapping normalized again).mp repeated
  rw [second.2.2.2]
  conv_rhs => rw [first.2.2.2]
  rw [Text.sorted_eq_sort_on, Text.sorted_eq_sort_on]
  apply sort_on_eq_of_perm Text.order id
  · rw [first.2.2.2]
    exact Text.sorted_perm inputs
  · rw [List.map_id]
    exact second.2.1

theorem policies_differ_in_memory (config : Config) (normalized : List Text)
    (enforced derived : EffectivePolicy) (valid : Validated mapping config)
    (accepted : normalizeHarnessInputs mapping
      (resolvedCall mapping shown services {} config head).harnessInputs = .ok normalized)
    (runner : buildEffectivePolicy mapping
      (policyOptions (resolvedCall mapping shown services {} config head) normalized) =
        .ok enforced)
    (finalizer : buildEffectivePolicy mapping (finalizerOptions shown config) = .ok derived) :
    enforced = { derived with memLimitMb := resolvedMemLimit {} config head } := by
  unfold buildEffectivePolicy at runner finalizer
  split at runner
  · cases runner
  · next again repeated =>
      split at finalizer
      · cases finalizer
      · next once single =>
          have same : once = normalized := by
            have both := accepted.symm.trans single
            cases both
            rfl
          have twice := normalized_again mapping _ normalized again accepted repeated
          cases runner
          cases finalizer
          rw [EffectivePolicy.mk.injEq]
          refine ⟨rfl, (isolation_reading mapping config valid).symm, rfl,
            (docker_network_reading mapping config valid).symm, rfl, rfl, rfl, rfl, rfl, rfl, rfl,
            (timeout_reading mapping config valid).symm, rfl,
            pack_required_reading mapping config services valid,
            pin_twice mapping config valid, rfl, rfl, rfl, rfl, rfl, rfl, rfl, rfl, rfl, rfl, rfl,
            twice.trans same.symm⟩

end

/-- No limit is set, the profile is not hostile, and the head has a `package.json` that is a link
to a file. -/
def LinkedNodeProject (config : Config) (head : ProjectCheckout) : Prop :=
  config.get .memLimit = none ∧ textOf (config.get .operatingProfile) ≠ some hostileProfile ∧
    head.isFile packageJson = true ∧ headHasPackageJson head = false

theorem payload_eq_iff_memory (enforced derived : EffectivePolicy)
    (same : enforced = { derived with memLimitMb := enforced.memLimitMb }) :
    effectivePolicyPayload enforced = effectivePolicyPayload derived ↔
      enforced.memLimitMb = derived.memLimitMb := by
  constructor
  · intro equal
    have read := congrArg (List.lookup PolicyKey.memLimitMb) equal
    change some (Json.int enforced.memLimitMb) = some (Json.int derived.memLimitMb) at read
    injection read with value
    injection value
  · intro equal
    rw [same, equal]

theorem memory_eq_iff (mapping : CaseMapping) (config : Config) (head : ProjectCheckout)
    (valid : Validated mapping config)
    (explicit : ¬((intOf (config.get .memLimit)).getD 1024 = 1024 ∧
      headHasPackageJson head = true ∧ (config.get .memLimit).isNone = true)) :
    resolvedMemLimit {} config head = (intOf (config.get .memLimit)).getD 1024 ↔
      ¬LinkedNodeProject config head := by
  have reading := mem_limit_reading mapping config valid
  have configured : configuredMemLimit {} config = (intOf (config.get .memLimit)).getD 1024 := by
    rw [configuredMemLimit, reading.1]
    rfl
  have profile : resolvedProfile {} config = textOf (config.get .operatingProfile) := rfl
  have given : memLimitIsExplicit {} config = (intOf (config.get .memLimit)).isSome := rfl
  unfold resolvedMemLimit LinkedNodeProject
  rw [configured, profile, given]
  cases found : config.get .memLimit with
  | some value =>
    have number : (intOf (some value)).isSome = true := by
      rw [found] at reading
      by_contra missing
      have absent := reading.2.mpr (by simpa using missing)
      cases absent
    rw [number]
    simp
  | none =>
    simp only [found, intOf, Option.getD_none, Option.isNone_none, and_true, true_and] at explicit
    have notRegular : headHasPackageJson head = false := by simpa using explicit
    simp [intOf, notRegular]

/-- The runner and the finalizer bind the same policy exactly when the head is no linked Node
project. -/
theorem policy_derivations_agree_iff (mapping : CaseMapping) (shown : Json → Text)
    (quote : Text → Text) (dumps : Json → Text) (services : PathServices)
    (decode : Bytes → Except Text Json) (path temporary : Text) (policyBytes : Bytes)
    (base head : ProjectCheckout) (config : Config) (call : GuardRequestPreparationInput)
    (prepared : PreparedGuardRequest) (payload : PolicyPayload) (pack pin : Option Text)
    (loaded : loadConfig mapping quote true (some (decode policyBytes)) = .ok config)
    (reached : executeGuardCommand mapping shown quote services path {} (some (decode policyBytes))
      base head = .guarded call)
    (accepted : prepareGuardRequest mapping call = .ok prepared)
    (derived : effectivePolicyFromRawConfig mapping shown quote decode temporary policyBytes
      (headHasPackageJson head) = .ok (payload, pack, pin)) :
    (prepared.effectivePolicy = payload ∧
      effectivePolicySha256 dumps prepared.effectivePolicy = effectivePolicySha256 dumps payload) ↔
      ¬LinkedNodeProject config head := by
  rcases guarded_call mapping shown quote services head path {} _ base call reached with
    ⟨runnerConfig, runnerLoaded, resolved⟩
  rcases derived_policy mapping shown quote decode temporary policyBytes _ payload pack pin derived
    with ⟨finalizerConfig, policy, finalizerLoaded, built, written, explicit⟩
  rcases prepared_ok mapping call prepared accepted with
    ⟨-, -, normalized, enforced, normal, runner, -, enforcedWritten⟩
  rw [load_config_required mapping quote false, loaded] at runnerLoaded
  rw [loaded] at finalizerLoaded
  cases runnerLoaded
  cases finalizerLoaded
  subst resolved
  have valid : Validated mapping config := load_config_valid mapping quote true _ config loaded
  have differ := policies_differ_in_memory mapping shown services head config normalized enforced
    policy valid normal runner built
  have enforcedMemory : enforced.memLimitMb = resolvedMemLimit {} config head := by rw [differ]
  have derivedMemory : policy.memLimitMb = (intOf (config.get .memLimit)).getD 1024 := by
    rcases built_policy mapping _ policy built with ⟨_, _, _, memory⟩
    exact memory
  have agree : prepared.effectivePolicy = payload ↔ ¬LinkedNodeProject config head := by
    rw [enforcedWritten, written, payload_eq_iff_memory enforced policy (by
      rw [enforcedMemory]
      exact differ), enforcedMemory, derivedMemory]
    exact memory_eq_iff mapping config head valid explicit
  rw [← agree]
  constructor
  · intro both
    exact both.1
  · intro same
    exact ⟨same, by rw [same]⟩

def plainServices : PathServices where
  packPath := fun pack => "/base/" ++ pack
  packPath_given := by
    intro pack _
    simp
  verifierPackTrustError := fun _ _ => none

def emptyPolicy : Bytes := utf8 ['\x7b', '\x7d']

/-- What strict JSON reads in an empty object. -/
def emptyObject (_ : Bytes) : Except Text Json := .ok (.object [])

def memoryIn (payload : PolicyPayload) : Option Int := intOf (payload.lookup .memLimitMb)

/-- The memory limits the runner enforces and the finalizer derives, where both get that far. -/
def memoryLimits (decode : Bytes → Except Text Json) (policyBytes : Bytes)
    (base head : ProjectCheckout) :
    Option (Option Int × Option Int) :=
  match executeGuardCommand asciiCase (fun _ => []) id plainServices [] {}
      (some (decode policyBytes)) base head with
  | .guarded call =>
    match prepareGuardRequest asciiCase call,
        effectivePolicyFromRawConfig asciiCase (fun _ => []) id decode [] policyBytes
          (headHasPackageJson head) with
    | .ok prepared, .ok derived =>
      some (memoryIn prepared.effectivePolicy, memoryIn derived.1)
    | _, _ => none
  | _ => none

theorem memory_limits_read (decode : Bytes → Except Text Json) (policyBytes : Bytes)
    (base head : ProjectCheckout) (limits : Option Int × Option Int)
    (read : memoryLimits decode policyBytes base head = some limits) :
    ∃ call prepared payload pack pin,
      executeGuardCommand asciiCase (fun _ => []) id plainServices [] {}
        (some (decode policyBytes)) base head = .guarded call ∧
      prepareGuardRequest asciiCase call = .ok prepared ∧
      effectivePolicyFromRawConfig asciiCase (fun _ => []) id decode [] policyBytes
        (headHasPackageJson head) = .ok (payload, pack, pin) ∧
      limits = (memoryIn prepared.effectivePolicy, memoryIn payload) := by
  unfold memoryLimits at read
  split at read
  · next call reached =>
      split at read
      · next prepared derived accepted found =>
          cases read
          exact ⟨call, prepared, derived.1, derived.2.1, derived.2.2, reached, accepted, found, rfl⟩
      · cases read
  · cases read

/-- A checkout whose `package.json` is a link to `real.json`. -/
def linkedCheckout : ProjectCheckout where
  tree := WorkTree.ofEntries
    [([], .directory 0o755), (packageJson, .symlink 0o777 "real.json"),
      (["real.json"], .regular 0o644 ByteArray.empty)]
    (by decide) (by decide) (by decide) (by decide)
  linkedFile := fun path => path = packageJson

/-- The runner lifts the memory limit, the finalizer keeps the default. -/
theorem linked_package_policies_differ : ∃ call prepared payload pack pin,
    executeGuardCommand asciiCase (fun _ => []) id plainServices [] {}
      (some (emptyObject emptyPolicy)) linkedCheckout linkedCheckout = .guarded call ∧
    prepareGuardRequest asciiCase call = .ok prepared ∧
    effectivePolicyFromRawConfig asciiCase (fun _ => []) id emptyObject [] emptyPolicy
      (headHasPackageJson linkedCheckout) = .ok (payload, pack, pin) ∧
    prepared.effectivePolicy ≠ payload := by
  have read : memoryLimits emptyObject emptyPolicy linkedCheckout linkedCheckout =
      some (some 0, some 1024) := by
    decide
  rcases memory_limits_read emptyObject emptyPolicy linkedCheckout linkedCheckout _ read with
    ⟨call, prepared, payload, pack, pin, reached, accepted, derived, limits⟩
  refine ⟨call, prepared, payload, pack, pin, reached, accepted, derived, ?_⟩
  intro same
  rw [same] at limits
  simp only [Prod.mk.injEq] at limits
  have clash := limits.1.trans limits.2.symm
  cases clash

def limitedPolicy : Bytes := utf8 "\x7b\"mem_limit\": 512\x7d"

/-- What strict JSON reads in the policy that sets a limit. -/
def limitedObject (_ : Bytes) : Except Text Json :=
  .ok (.object [(ConfigKey.memLimit.text, .int 512)])

/-- With a limit in the policy the link does no harm. -/
theorem limited_policies_agree : ∃ call prepared payload pack pin,
    executeGuardCommand asciiCase (fun _ => []) id plainServices [] {}
      (some (limitedObject limitedPolicy)) linkedCheckout linkedCheckout = .guarded call ∧
    prepareGuardRequest asciiCase call = .ok prepared ∧
    effectivePolicyFromRawConfig asciiCase (fun _ => []) id limitedObject [] limitedPolicy
      (headHasPackageJson linkedCheckout) = .ok (payload, pack, pin) ∧
    prepared.effectivePolicy = payload := by
  have read : memoryLimits limitedObject limitedPolicy linkedCheckout linkedCheckout =
      some (some 512, some 512) := by
    decide
  rcases memory_limits_read limitedObject limitedPolicy linkedCheckout linkedCheckout _ read with
    ⟨call, prepared, payload, pack, pin, reached, accepted, derived, -⟩
  have loaded : loadConfig asciiCase id true (some (limitedObject limitedPolicy)) =
      .ok [(.memLimit, .int 512)] := by
    rfl
  have agree := (policy_derivations_agree_iff asciiCase (fun _ => []) id (fun _ => [])
    plainServices limitedObject [] [] limitedPolicy linkedCheckout linkedCheckout
    [(.memLimit, .int 512)] call prepared payload pack pin loaded reached accepted derived).mpr (by
      intro linked
      cases linked.1)
  exact ⟨call, prepared, payload, pack, pin, reached, accepted, derived, agree.1⟩

end EvoomGuard.Finalizer
