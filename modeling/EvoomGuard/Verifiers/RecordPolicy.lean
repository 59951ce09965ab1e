import EvoomGuard.Policy.Effective

/-!
`verifiers/record_policy.py`: the record verifier's own reading of the operating profiles, from the
payload of a policy. A missing field reads as null. The schema admits no containers where two
fields are compared.
-/

namespace EvoomGuard.Verifiers.RecordPolicy

open Lib Domain.Policy Policy

def field (policy : PolicyPayload) (key : PolicyKey) : Json := (policy.lookup key).getD .null

def isBool (expected : Bool) : Json → Bool
  | .bool value => value == expected
  | _ => false

def isNull : Json → Bool
  | .null => true
  | _ => false

def isText (expected : Text) : Json → Bool
  | .string value => value == expected
  | _ => false

def isDigest : Json → Bool
  | .string value => Sha256.isHex64 value
  | _ => false

def isGivenText : Json → Bool
  | .string value => !value.isEmpty
  | _ => false

def isPositiveInt : Json → Bool
  | .int value => decide (0 < value)
  | _ => false

def number? : Json → Option Rat
  | .bool value => some (if value then 1 else 0)
  | .int value => some value
  | .float value => some value
  | _ => none

def sameScalar : Json → Json → Bool
  | .null, .null => true
  | .string left, .string right => left == right
  | left, right =>
    match number? left, number? right with
    | some left, some right => left == right
    | _, _ => false

def checkOperatingProfile (policy : PolicyPayload) : List Text :=
  match field policy .operatingProfile with
  | .string profile =>
    if !operatingProfiles.contains profile then []
    else if profile = localProfile then []
    else
      requirement (isBool true (field policy .blackbox)) "requires blackbox=true" ++
      requirement (isBool true (field policy .blackboxOnly)) "requires blackbox_only=true" ++
      requirement (isNull (field policy .setupCommand))
        "forbids setup_command in black-box-only mode" ++
      requirement (isBool false (field policy .trustSetupOnHost))
        "requires trust_setup_on_host=false" ++
      requirement (isBool true (field policy .verifierPackRequired)) "requires a verifier_pack" ++
      requirement (isDigest (field policy .expectVerifierPackSha256))
        "requires expect_verifier_pack_sha256" ++
      requirement (isText externalReport (field policy .requireReportIntegrity))
        "requires require_report_integrity='external_process_isolated'" ++
      requirement (isText noNetwork (field policy .dockerNetwork))
        "requires docker_network='none'" ++
      requirement (isGivenText (field policy .dockerImage)) "requires docker_image" ++
      (if profile = protectedProfile then
        requirement (isText dockerIsolation (field policy .isolation) ||
            isText gvisorIsolation (field policy .isolation))
          "requires isolation='docker' or 'gvisor'" ++
        requirement (sameScalar (field policy .requireCandidateIsolation)
            (field policy .isolation))
          "requires require_candidate_isolation to match isolation"
      else
        requirement (isText gvisorIsolation (field policy .isolation))
          "requires isolation='gvisor'" ++
        requirement (isText gvisorIsolation (field policy .requireCandidateIsolation))
          "requires require_candidate_isolation='gvisor'" ++
        requirement (isPositiveInt (field policy .memLimitMb)) "requires a non-zero mem_limit")
  | _ => []

end EvoomGuard.Verifiers.RecordPolicy
