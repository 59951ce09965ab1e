import EvoomGuard.Policy.Effective

/-!
`application/attestation.py`: the part of an attestation that binds a record to its inputs. What
the run itself reports is attested beside it from the evidence.
-/

namespace EvoomGuard.Application

open Lib Policy

/-- The digest of a verifier pack and its manifest, if it has one. -/
abbrev PackIdentity := Text × Option (List (Text × Json))

/-- The revisions a caller names; none is required. -/
structure NamedRevisions where
  baseSha : Option Text := none
  headSha : Option Text := none
  baseTreeSha : Option Text := none
  headTreeSha : Option Text := none

structure RecordAttestation where
  candidateSha256 : Text
  deletedPaths : List Text
  policySha256 : Text
  effectivePolicy : PolicyPayload
  verifierPackSha256 : Option Text
  verifierPackManifest : Option (List (Text × Json))
  baseSha : Option Text
  headSha : Option Text
  baseTreeSha : Option Text
  headTreeSha : Option Text

def buildAttestation (dumps : Json → Text) (candidate : Text) (safeDeleted : List Text)
    (effectivePolicy : PolicyPayload) (pack : Option PackIdentity) (revisions : NamedRevisions) :
    RecordAttestation where
  candidateSha256 := Sha256.hexdigest candidate
  deletedPaths := safeDeleted
  policySha256 := effectivePolicySha256 dumps effectivePolicy
  effectivePolicy := effectivePolicy
  verifierPackSha256 := pack.map Prod.fst
  verifierPackManifest := pack.bind Prod.snd
  baseSha := revisions.baseSha
  headSha := revisions.headSha
  baseTreeSha := revisions.baseTreeSha
  headTreeSha := revisions.headTreeSha

end EvoomGuard.Application
