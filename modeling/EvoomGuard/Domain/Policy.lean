import EvoomGuard.Lib.Sha256

/-!
The operating profiles of `domain/policy.py`: what a selected profile asks of the raw settings of
a request.
-/

namespace EvoomGuard.Domain.Policy

open Lib

def localProfile : Text := "local"

def protectedProfile : Text := "protected"

def hostileProfile : Text := "hostile"

def operatingProfiles : List Text := [localProfile, protectedProfile, hostileProfile]

def subprocessIsolation : Text := "subprocess"

def dockerIsolation : Text := "docker"

def gvisorIsolation : Text := "gvisor"

def supportedIsolationModes : List Text := [subprocessIsolation, dockerIsolation, gvisorIsolation]

def externalReport : Text := "external_process_isolated"

def noNetwork : Text := "none"

def isHexDigit (character : Char) : Bool :=
  Sha256.hexDigits.contains character || ['A', 'B', 'C', 'D', 'E', 'F'].contains character

/-- One complete hexadecimal SHA-256 pin, in either case. -/
def isVerifierPackSha256 (value : Text) : Bool := value.length == 64 && value.all isHexDigit

def requirement (met : Bool) (message : String) : List Text := if met then [] else [message.toList]

structure ProfileSettings where
  isolation : Text
  dockerImagePresent : Bool
  dockerNetwork : Text
  setupCommandPresent : Bool
  trustSetupOnHost : Bool
  memLimitMb : Int
  verifierPackRequired : Bool
  expectVerifierPackSha256 : Option Text
  blackbox : Bool
  blackboxOnly : Bool
  requireReportIntegrity : Option Text
  requireCandidateIsolation : Option Text

def operatingProfileViolations (operatingProfile : Option Text) (settings : ProfileSettings) :
    List Text :=
  match operatingProfile with
  | none => []
  | some profile =>
    if !operatingProfiles.contains profile then
      ["operating_profile must be one of 'local', 'protected', 'hostile'"]
    else if profile = localProfile then []
    else
      requirement settings.blackbox "requires blackbox=true" ++
      requirement settings.blackboxOnly "requires blackbox_only=true" ++
      requirement (!settings.setupCommandPresent)
        "forbids setup_command in black-box-only mode" ++
      requirement (!settings.trustSetupOnHost) "requires trust_setup_on_host=false" ++
      requirement settings.verifierPackRequired "requires a verifier_pack" ++
      requirement (settings.expectVerifierPackSha256.any isVerifierPackSha256)
        "requires expect_verifier_pack_sha256" ++
      requirement (settings.requireReportIntegrity == some externalReport)
        "requires require_report_integrity='external_process_isolated'" ++
      requirement (settings.dockerNetwork == noNetwork) "requires docker_network='none'" ++
      requirement settings.dockerImagePresent "requires docker_image" ++
      (if profile = protectedProfile then
        requirement ([dockerIsolation, gvisorIsolation].contains settings.isolation)
          "requires isolation='docker' or 'gvisor'" ++
        requirement (settings.requireCandidateIsolation == some settings.isolation)
          "requires require_candidate_isolation to match isolation"
      else
        requirement (settings.isolation == gvisorIsolation) "requires isolation='gvisor'" ++
        requirement (settings.requireCandidateIsolation == some gvisorIsolation)
          "requires require_candidate_isolation='gvisor'" ++
        requirement (decide (0 < settings.memLimitMb)) "requires a non-zero mem_limit")

theorem hex_digit_ascii : ∀ code < 128, isHexDigit (Char.ofNat code) = true →
    Sha256.hexDigits.contains (Char.ofNat code).toLower = true := by
  decide

theorem hex_digit_bounded (character : Char) (digit : isHexDigit character = true) :
    character.toNat < 128 := by
  simp only [isHexDigit, Sha256.hexDigits, Bool.or_eq_true, List.contains_eq_mem, List.mem_cons,
    List.not_mem_nil, or_false, decide_eq_true_eq] at digit
  rcases digit with (h | h | h | h | h | h | h | h | h | h | h | h | h | h | h | h) |
    (h | h | h | h | h | h) <;> subst h <;> decide

theorem lower_pin_is_hex (mapping : CaseMapping) (pin : Text)
    (valid : isVerifierPackSha256 pin = true) : Sha256.isHex64 (mapping.lower pin) = true := by
  simp only [isVerifierPackSha256, Bool.and_eq_true, beq_iff_eq, List.all_eq_true] at valid
  have bounded : ∀ character ∈ pin, character.toNat < 128 := fun character inside =>
    hex_digit_bounded character (valid.2 character inside)
  rw [mapping.lower_ascii pin bounded, Sha256.isHex64, List.length_map, valid.1]
  simp only [beq_self_eq_true, Bool.true_and, List.all_map, List.all_eq_true, Function.comp_apply]
  intro character inside
  have small := hex_digit_ascii character.toNat (bounded character inside)
  rw [Char.ofNat_toNat] at small
  exact small (valid.2 character inside)

end EvoomGuard.Domain.Policy
