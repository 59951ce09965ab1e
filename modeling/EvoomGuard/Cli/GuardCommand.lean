import EvoomGuard.Application.RequestPreparation
import EvoomGuard.Policy.Config
import EvoomGuard.Workspace.CandidateTree

/-!
`cli/guard_command.py` in its `--base`/`--head` form, up to the call of `guard`: a flag wins over
the trusted policy of the base, and that over the built-in default. The services the command gets
injected are those that read paths; the rest of a run is elsewhere.
-/

namespace EvoomGuard.Cli.GuardCommand

open Lib Domain.Policy Policy Application.RequestPreparation Workspace.CandidateTree

structure GuardArgs where
  signKey : Bool := false
  jsonOut : Bool := false
  acknowledgeLocalKeyExposure : Bool := false
  operatingProfile : Option Text := none
  blackbox : Option Bool := none
  blackboxOnly : Option Bool := none
  diffCoverage : Option Bool := none
  baselineEvidence : Option Bool := none
  requireDemonstratedFix : Option Bool := none
  strictHarness : Option Bool := none
  testCommand : Option Text := none
  trustSetupOnHost : Option Bool := none
  verifierPack : Option Text := none
  expectVerifierPackSha256 : Option Text := none
  protectedGlobs : Option (List Text) := none
  allow : Option (List Text) := none
  timeout : Option Int := none
  memLimit : Option Int := none
  allowNewTests : Option Bool := none
  requireReportIntegrity : Option Text := none
  requireCandidateIsolation : Option Text := none
  minDiffCoverage : Option Rat := none
  isolation : Option Text := none
  dockerImage : Option Text := none
  dockerNetwork : Option Text := none

/-- `packPath` puts a pack of the policy beside the policy file, as an absolute path. -/
structure PathServices where
  packPath : Text → Text
  packPath_given : ∀ pack, pack ≠ [] → packPath pack ≠ []
  verifierPackTrustError : Option Text → Option Text → Option Text

structure ProjectCheckout where
  tree : WorkTree
  linkedFile : List Text → Bool

/-- `os.path.isfile`, which follows links. -/
def ProjectCheckout.isFile (checkout : ProjectCheckout) (path : List Text) : Bool :=
  match checkout.tree.listing.entry path with
  | some (.regular _ _) => true
  | some (.symlink _ _) => checkout.linkedFile path
  | _ => false

def packageJson : List Text := ["package.json"]

def shellOperators : List Text :=
  ["&&", "||", ";", "|", ">", "<", "$(",
    "\x60"]

def holds (needle text : Text) : Bool := text.tails.any needle.isPrefixOf

/-- `str.split()`: the words between white space; `word` is what is read of one so far. -/
def wordsFrom (word : Text) : Text → List Text
  | [] => if word = [] then [] else [word]
  | character :: rest =>
    if Text.isSpace character then
      if word = [] then wordsFrom [] rest else word :: wordsFrom [] rest
    else wordsFrom (word ++ [character]) rest

/-- A string with shell operators goes to a shell, any other is split at white space. -/
def commandOf (command : Text) : List Text :=
  if shellOperators.any (holds · command) then ["sh", "-c", command]
  else wordsFrom [] command

def testCommandOf (shown : Json → Text) : Option Json → Option (List Text)
  | some (.string command) => some (commandOf command)
  | value => listOf shown value

section

variable (mapping : CaseMapping) (shown : Json → Text) (services : PathServices)
  (args : GuardArgs) (config : Config)

def resolvedProfile : Option Text :=
  args.operatingProfile.or (textOf (config.get .operatingProfile))

def resolvedPin : Option Text :=
  args.expectVerifierPackSha256.or (textOf (config.get .expectVerifierPackSha256))

def resolvedPack : Option Text :=
  args.verifierPack.or ((textOf (config.get .verifierPack)).map services.packPath)

def configuredMemLimit : Int := args.memLimit.getD ((intLike (config.get .memLimit)).getD 1024)

def memLimitIsExplicit : Bool := args.memLimit.isSome || (intOf (config.get .memLimit)).isSome

/-- The implicit limit is lifted for a Node project, unless the profile is hostile. -/
def resolvedMemLimit (head : ProjectCheckout) : Int :=
  if configuredMemLimit args config = 1024 ∧ memLimitIsExplicit args config = false ∧
      resolvedProfile args config ≠ some hostileProfile ∧ head.isFile packageJson = true then 0
  else configuredMemLimit args config

def resolvedCall (head : ProjectCheckout) : GuardRequestPreparationInput where
  testCommand := testCommandOf shown
    ((args.testCommand.map Json.string).or (config.get .testCommand))
  setupCommand := listOf shown (config.get .setupCommand)
  trustSetupOnHost := args.trustSetupOnHost.getD (boolOf (config.get .trustSetupOnHost))
  setupOutputGlobs := (listOf shown (config.get .setupOutputGlobs)).getD []
  protectedGlobs := args.protectedGlobs.getD ((listOf shown (config.get .protectedGlobs)).getD [])
  allow := args.allow.getD ((listOf shown (config.get .allow)).getD [])
  allowNewTests := args.allowNewTests.getD (boolOf (config.get .allowNewTests))
  timeout := args.timeout.getD ((intLike (config.get .timeout)).getD 120)
  memLimitMb := resolvedMemLimit args config head
  isolation := args.isolation.getD ((textOf (config.get .isolation)).getD subprocessIsolation)
  dockerImage := args.dockerImage.or (textOf (config.get .dockerImage))
  dockerNetwork := args.dockerNetwork.getD ((textOf (config.get .dockerNetwork)).getD noNetwork)
  verifierPackPath := resolvedPack services args config
  expectVerifierPackSha256 := (resolvedPin args config).map mapping.lower
  collectDiffCoverage := args.diffCoverage.getD (boolOf (config.get .diffCoverage)) ||
    (args.minDiffCoverage.or (floatOf (config.get .minDiffCoverage))).isSome
  minDiffCoverage := args.minDiffCoverage.or (floatOf (config.get .minDiffCoverage))
  blackbox := args.blackbox.getD (boolOf (config.get .blackbox))
  blackboxOnly := args.blackboxOnly.getD (boolOf (config.get .blackboxOnly))
  requireReportIntegrity :=
    args.requireReportIntegrity.or (textOf (config.get .requireReportIntegrity))
  requireCandidateIsolation :=
    args.requireCandidateIsolation.or (textOf (config.get .requireCandidateIsolation))
  policyId := textOf (config.get .policyId)
  policyVersion := textOf (config.get .policyVersion)
  baselineEvidence := args.baselineEvidence.getD (boolOf (config.get .baselineEvidence))
  requireDemonstratedFix :=
    args.requireDemonstratedFix.getD (boolOf (config.get .requireDemonstratedFix))
  strictHarness := args.strictHarness.getD (boolOf (config.get .strictHarness))
  operatingProfile := resolvedProfile args config
  harnessInputs := (listOf shown (config.get .harnessInputs)).getD []

end

inductive GuardCommandOutcome where
  | usage (message : Text)
  | inputError (problem : Text)
  | guarded (call : GuardRequestPreparationInput)

/-- The usage errors of a resolved call, in the order of the source. -/
def usageProblem (quote : Text → Text) (args : GuardArgs) (config : Config)
    (call : GuardRequestPreparationInput) : Option Text :=
  if call.blackboxOnly && !call.blackbox then
    some "usage: --blackbox-only requires --blackbox"
  else if (resolvedPin args config).any (!isVerifierPackSha256 ·) then
    some "usage: --expect-verifier-pack-sha256 must be exactly 64 hex characters"
  else if (resolvedPin args config).isSome && !givenText call.verifierPackPath then
    some "usage: --expect-verifier-pack-sha256 requires --verifier-pack"
  else if call.timeout < 1 then some "usage: --timeout must be a positive integer"
  else if configuredMemLimit args config < 0 then
    some "usage: --mem-limit must be a non-negative integer"
  else if call.minDiffCoverage.any (!inPercent ·) then
    some "usage: --min-diff-coverage must be a finite number between 0 and 100"
  else if profileViolations call ≠ [] then
    some ("usage: operating profile " ++ (match call.operatingProfile with
        | none => "None"
        | some profile => quote profile) ++ " is not satisfied: " ++
      Text.join "; " (profileViolations call))
  else if (call.isolation = dockerIsolation ∨ call.isolation = gvisorIsolation) ∧
      givenText call.dockerImage = false then
    some ("usage: --isolation " ++ call.isolation ++
      (" requires --docker-image <image> " ++
        "(an image carrying the repo's test runner, e.g. node:22-slim)").toList)
  else none

def executeGuardCommand (mapping : CaseMapping) (shown : Json → Text) (quote : Text → Text)
    (services : PathServices) (path : Text) (args : GuardArgs)
    (document : Option (Except Text Json)) (base head : ProjectCheckout) : GuardCommandOutcome :=
  if args.signKey && !args.jsonOut then
    .usage "--sign-key needs --json: the signature covers the JSON verdict file"
  else if args.signKey && !args.acknowledgeLocalKeyExposure then
    .usage ("refusing direct --sign-key: guard executes candidate-controlled code " ++
      "before signing under the same OS identity. Use Trusted Finalizer for " ++
      "untrusted candidates, or pass --acknowledge-local-key-exposure only " ++
      "for trusted local inputs.").toList
  else
    match loadConfig mapping quote false document with
    | .error problem =>
      .usage ("config error (fail-closed): " ++ problem.text quote path)
    | .ok config =>
      let profile := resolvedProfile args config
      if args.signKey && (profile == some protectedProfile || profile == some hostileProfile) then
        .usage ("refusing direct --sign-key under operating profile " ++
          quote (profile.getD []) ++ (": candidate execution and key custody must be " ++
            "separated; use Trusted Finalizer").toList)
      else
        let call := resolvedCall mapping shown services args config head
        match usageProblem quote args config call with
        | some message => .usage message
        | none =>
          match services.verifierPackTrustError call.verifierPackPath
            call.expectVerifierPackSha256 with
          | some problem => .inputError problem
          | none =>
            match blocksFromDirs 1000000 (.ok base.tree) (.ok head.tree) with
            | .error problems =>
              .inputError (("the base/head input includes changed path(s) Guard cannot " ++
                "safely verify: ").toList ++ unverifiableChangedPaths problems)
            | .ok _ => .guarded call

end EvoomGuard.Cli.GuardCommand
