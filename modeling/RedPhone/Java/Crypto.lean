import Mathlib.Tactic.Ring
import RedPhone.Util.Base64

/-!
# The Cryptographic Providers

The primitives the handshake takes from the JCE providers, as a parameter of
everything built on them. Nothing is assumed about the functions beyond what
their interfaces promise: digests and codes of a fixed length, a stream cipher
that keeps lengths and undoes itself, public values that fit the fields they
are sent in.

Key agreement may refuse a public value, and the calculators turn a refusal
into an unchecked exception, so the two agreement functions return `Except`.

## Main definitions

* `Crypto`: The primitives and what their interfaces promise.
* `mac`: A keyed code, which the key specification refuses on an empty key.

## Theorems

* `mac_ok`: A code under a key that is not empty.
-/

namespace RedPhone

/-- The primitives the handshake is parametric in. -/
structure Crypto where
  sha256 : Bytes → Bytes
  hmacSha256 : Bytes → Bytes → Bytes
  aesCfbEncrypt : Bytes → Bytes → Bytes → Bytes
  aesCfbDecrypt : Bytes → Bytes → Bytes → Bytes
  dhPublic : Nat → Nat
  dhAgree : Nat → Nat → Except Unchecked Bytes
  ecPublic : Nat → Nat × Nat
  ecAgree : Nat → Nat × Nat → Except Unchecked Bytes
  sha256_length : ∀ m, (sha256 m).length = 32
  hmacSha256_length : ∀ k m, (hmacSha256 k m).length = 32
  aesCfbEncrypt_length : ∀ k iv m, (aesCfbEncrypt k iv m).length = m.length
  aesCfbDecrypt_length : ∀ k iv m, (aesCfbDecrypt k iv m).length = m.length
  aesCfb_inverse : ∀ k iv m, aesCfbDecrypt k iv (aesCfbEncrypt k iv m) = m
  dhPublic_lt : ∀ x, dhPublic x < 256 ^ 384
  ecPublic_lt : ∀ x, (ecPublic x).1 < 256 ^ 32 ∧ (ecPublic x).2 < 256 ^ 32

namespace Crypto

/-- `Mac.doFinal` under a `SecretKeySpec`, which has no empty keys. -/
def mac (C : Crypto) (key data : Bytes) : Java Bytes :=
  if key = [] then Java.raise .illegalArgument else .ok (C.hmacSha256 key data)

theorem mac_ok (C : Crypto) (key data digest : Bytes) :
    C.mac key data = .ok digest ↔ key ≠ [] ∧ C.hmacSha256 key data = digest := by
  unfold mac
  by_cases h : key = []
  · rw [if_pos h]
    simp only [Java.raise, reduceCtorEq, false_iff, not_and]
    exact fun hne => absurd h hne
  · rw [if_neg h]
    simp only [Except.ok.injEq, ne_eq, h, not_false_eq_true, true_and]

end Crypto

/-- The US-ASCII bytes of a string literal. -/
def ascii (s : String) : Bytes := s.toList.map (fun c => UInt8.ofNat c.toNat)

end RedPhone
