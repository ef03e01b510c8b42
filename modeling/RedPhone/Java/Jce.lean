import RedPhone.Java.Crypto
import RedPhone.Lib.BlockCipher
import RedPhone.Lib.Sha

/-!
# The Primitives as They Are

What the providers compute: SHA-256, HMAC-SHA256 and AES in cipher feedback
mode, Diffie-Hellman modulo the prime of the sockets, and Diffie-Hellman on
the curve secp256r1. The handshake is proved for any primitives; these show
that there are some, and that a run can be exhibited with them.

Points of the curve are pairs of elements of its field, with `none` for the
point at infinity.

## Main definitions

* `PRIME`, `GENERATOR`: The group of the 3072-bit key agreement.
* `Secp256r1.multiply`: A multiple of a point.
* `jce`: The primitives.

## Theorems

* `jce_dh_commute`: The 3072-bit key agreement commutes.
-/

namespace RedPhone

/-- `ZRTPSocket.PRIME`, in twelve words. -/
def PRIME : Nat :=
  [0xffffffffffffffffc90fdaa22168c234c4c6628b80dc1cd129024e088a67cc74,
   0x020bbea63b139b22514a08798e3404ddef9519b3cd3a431b302b0a6df25f1437,
   0x4fe1356d6d51c245e485b576625e7ec6f44c42e9a637ed6b0bff5cb6f406b7ed,
   0xee386bfb5a899fa5ae9f24117c4b1fe649286651ece45b3dc2007cb8a163bf05,
   0x98da48361c55d39a69163fa8fd24cf5f83655d23dca3ad961c62f356208552bb,
   0x9ed529077096966d670c354e4abc9804f1746c08ca18217c32905e462e36ce3b,
   0xe39e772c180e86039b2783a2ec07a28fb5c55df06f4c52c9de2bcbf695581718,
   0x3995497cea956ae515d2261898fa051015728e5a8aaac42dad33170d04507a33,
   0xa85521abdf1cba64ecfb850458dbef0a8aea71575d060c7db3970f85a6e1e4c7,
   0xabf5ae8cdb0933d71e8c94e04a25619dcee3d2261ad2ee6bf12ffa06d98a0864,
   0xd87602733ec86a64521f2b18177b200cbbe117577a615d6c770988c0bad946e2,
   0x08e24fa074e5ab3143db5bfce0fd108e4b82d120a93ad2caffffffffffffffff].foldl
   (fun n word => n * 2 ^ 256 + word) 0

/-- `ZRTPSocket.GENERATOR`. -/
def GENERATOR : Nat := 2

namespace Secp256r1

/-- The prime of the field. -/
def p : Nat := 0xffffffff00000001000000000000000000000000ffffffffffffffffffffffff

instance : NeZero p := ⟨by decide⟩

/-- A point, by its coordinates. -/
abbrev Point := Fin p × Fin p

/-- The generator. -/
def G : Point :=
  (0x6b17d1f2e12c4247f8bce6e563a440f277037d812deb33a0f4a13945d898c296,
   0x4fe342e2fe1a7f9b8ee7eb4a7c0f9e162bce33576b315ececbb6406837bf51f5)

/-- A power in the field, by the low `n` bits of the exponent. -/
def power : Nat → Fin p → Nat → Fin p
  | 0, _, _ => 1
  | n + 1, x, e => power n (x * x) (e / 2) * (if e % 2 = 1 then x else 1)

/-- The inverse of an element, by Fermat's theorem. -/
def inverse (x : Fin p) : Fin p := power 256 x (p - 2)

/-- The third point on the line of slope `m` through two points, reflected. -/
def third (m : Fin p) (P Q : Point) : Point :=
  let x := m * m - P.1 - Q.1
  (x, m * (P.1 - x) - P.2)

def add : Option Point → Option Point → Option Point
  | none, Q => Q
  | P, none => P
  | some P, some Q =>
    if P.1 ≠ Q.1 then some (third ((Q.2 - P.2) * inverse (Q.1 - P.1)) P Q)
    else if P.2 = Q.2 ∧ P.2 ≠ 0 then
      some (third ((3 * P.1 * P.1 - 3) * inverse (2 * P.2)) P Q)
    else none

/-- A multiple of a point, by the low `n` bits of the scalar. -/
def multiplyBits : Nat → Nat → Point → Option Point
  | 0, _, _ => none
  | n + 1, k, P =>
    if k = 0 then none
    else
      let half := multiplyBits n (k / 2) P
      add (add half half) (if k % 2 = 1 then some P else none)

def multiply (k : Nat) (P : Point) : Option Point := multiplyBits 256 k P

/-- Three times the generator. -/
example : multiply 3 G =
    some (0x5ecbe4d1a6330a44c8f7ef951d4bf165e6c6b721efada985fb41661bc6e7fd6c,
      0x8734640c4998ff7e374b06ce1a64a2ecd82ab036384fb83d9a79b127a27d5032) := by
  decide +kernel

end Secp256r1

/-- The primitives of the providers. A key agreement refuses coordinates that
    are not in the field, and the point at infinity. -/
def jce : Crypto where
  sha256 := Sha.Sha256.sha256
  hmacSha256 := Sha.hmac Sha.Sha256.sha256
  aesCfbEncrypt key := BlockCipher.cfbEncrypt (BlockCipher.Aes.encrypt key)
  aesCfbDecrypt key := BlockCipher.cfbDecrypt (BlockCipher.Aes.encrypt key)
  dhPublic x := GENERATOR ^ x % PRIME
  dhAgree x y := .ok (Endian.toBE 384 (y ^ x % PRIME))
  ecPublic k := ((Secp256r1.multiply k Secp256r1.G).elim (0, 0) fun P => (P.1.val, P.2.val))
  ecAgree k Q :=
    if h : Q.1 < Secp256r1.p ∧ Q.2 < Secp256r1.p then
      match Secp256r1.multiply k (⟨Q.1, h.1⟩, ⟨Q.2, h.2⟩) with
      | some P => .ok (Endian.toBE 32 P.1.val)
      | none => .error .nullPointer
    else .error .illegalArgument
  sha256_length := Sha.Sha256.length_sha256
  hmacSha256_length _ _ := Sha.Sha256.length_sha256 _
  aesCfbEncrypt_length key := BlockCipher.length_cfbEncrypt (BlockCipher.Aes.length_encrypt key)
  aesCfbDecrypt_length key := BlockCipher.length_cfbDecrypt (BlockCipher.Aes.length_encrypt key)
  aesCfb_inverse key := BlockCipher.cfbDecrypt_cfbEncrypt (BlockCipher.Aes.length_encrypt key)
  dhPublic_lt x := Nat.lt_trans (Nat.mod_lt _ (by decide)) (by decide +kernel)
  ecPublic_lt k := by
    have hp : Secp256r1.p < 256 ^ 32 := by decide
    cases Secp256r1.multiply k Secp256r1.G with
    | none => decide
    | some P => exact ⟨Nat.lt_trans P.1.isLt hp, Nat.lt_trans P.2.isLt hp⟩

/-- The 3072-bit key agreement commutes on all keys. -/
theorem jce_dh_commute (a b : Nat) :
    jce.dhAgree a (jce.dhPublic b) = jce.dhAgree b (jce.dhPublic a) := by
  simp only [jce]
  rw [← Nat.pow_mod, ← Nat.pow_mod, ← pow_mul, ← pow_mul, Nat.mul_comm]

end RedPhone
