import EvoomGuard.EvidenceBundle.Primitives

/-!
Signing and verifying exact bytes. The library behind it is a parameter; a key is named by the
digest of its public half.
-/

namespace EvoomGuard.EvidenceBundle

open Lib Lib.Checks Lib.Framing

/-- The Ed25519 library over PEM files, each given by one stable read. -/
structure SigningHost where
  PrivateKey : Type
  PublicKey : Type
  loadPrivate : Text → FileAnswer → Except Text PrivateKey
  loadPublic : Text → FileAnswer → Except Text PublicKey
  publicKey : PrivateKey → PublicKey
  publicDer : PublicKey → Bytes
  sign : PrivateKey → Bytes → Bytes
  verifies : PublicKey → Bytes → Bytes → Bool

section Signer

variable (signing : SigningHost)

def SigningHost.keyId (key : signing.PublicKey) : Text :=
  keyIdPrefix ++ sha256Bytes (signing.publicDer key)

structure SigningKeySnapshot where
  key : signing.PrivateKey
  keyId : Text

def loadSigningKeySnapshot (path : Text) (found : FileAnswer) :
    Except Text (SigningKeySnapshot signing) := do
  let key ← signing.loadPrivate path found
  pure ⟨key, signing.keyId (signing.publicKey key)⟩

def signBytesWithSnapshot (payload : Bytes) (snapshot : SigningKeySnapshot signing) :
    Bytes × Text :=
  (signing.sign snapshot.key payload, snapshot.keyId)

def verifyBytesWithKeyId (payload signature : Bytes) (path : Text) (found : FileAnswer) :
    Except Text (Bool × Text) := do
  let key ← signing.loadPublic path found
  if signature.length ≠ 64 then pure (false, signing.keyId key)
  else pure (signing.verifies key signature payload, signing.keyId key)

theorem verify_bytes_ok (payload signature : Bytes) (path : Text) (found : FileAnswer)
    (verified : Bool) (keyId : Text) :
    verifyBytesWithKeyId signing payload signature path found = .ok (verified, keyId) ↔
      ∃ key, signing.loadPublic path found = .ok key ∧ signing.keyId key = keyId ∧
        (decide (signature.length = 64) && signing.verifies key signature payload) = verified := by
  rw [verifyBytesWithKeyId, bind_ok]
  constructor
  · intro answered
    obtain ⟨key, loaded, rest⟩ := answered
    by_cases length : signature.length = 64
    · simp only [length, ne_eq, not_true_eq_false, if_false, pure_ok, Prod.mk.injEq] at rest
      exact ⟨key, loaded, rest.2, by rw [decide_eq_true length, Bool.true_and]; exact rest.1⟩
    · simp only [length, ne_eq, not_false_eq_true, if_true, pure_ok, Prod.mk.injEq] at rest
      exact ⟨key, loaded, rest.2, by rw [decide_eq_false length, Bool.false_and]; exact rest.1⟩
  · intro answered
    obtain ⟨key, loaded, identity, answer⟩ := answered
    refine ⟨key, loaded, ?_⟩
    by_cases length : signature.length = 64
    · rw [decide_eq_true length, Bool.true_and] at answer
      simp only [length, ne_eq, not_true_eq_false, if_false, pure_ok, Prod.mk.injEq]
      exact ⟨answer, identity⟩
    · rw [decide_eq_false length, Bool.false_and] at answer
      simp only [length, ne_eq, not_false_eq_true, if_true, pure_ok, Prod.mk.injEq]
      exact ⟨answer, identity⟩

end Signer

end EvoomGuard.EvidenceBundle
