import RedPhone.Util.BigIntegers
import RedPhone.Zrtp.Pairing

/-!
# Public Values on the Way

A public value is an integer, two for a point, and goes out in a field of a
fixed width. The field is filled by `bigIntegerToByteArray` and read by
`byteArrayToBigInteger`, and whether the two are inverse depends only on the
width: they are for every one up to `2 ^ 28` and for none above.

The handshake is modelled with the big-endian bytes of these integers. That
the loops write and read just those is what connects the two.

## Main definitions

* `Inverse`: The conversions undo each other at a width.
* `getPublicDH3kKey`, `getPublicEC25Key`: The fields a party sends.
* `publicDH3k`, `publicEC25`: The values its peer takes out of them.

## Theorems

* `inverse_iff`: The widths at which they do.
* `getPublicKey_eq`, `calculateKeyAgreement_eq`: The handshake's own bytes.
* `publicKeys_survive_iff`: Widths and public values together.
-/

namespace RedPhone

open Conversions Endian

/-- `Conversions` undoes itself on arrays of `n` bytes, in both directions. -/
structure Inverse (n : Nat) : Prop where
  /-- What is written reads as the value, up to the width. -/
  value : ∀ (bytes : Bytes) (v : Nat), bytes.length = n →
    byteArrayToBigInteger (bigIntegerToByteArray bytes v) = .ok ((v % 256 ^ n : Nat) : Int)
  /-- What is read is written as the same bytes, into whatever array. -/
  array : ∀ bytes target : Bytes, bytes.length = n → target.length = n →
    ∃ v, byteArrayToBigInteger bytes = .ok v ∧ bigIntegerToByteArray target v = bytes

theorem ne_nil_of_length {n : Nat} (hn : 1 ≤ n) (bytes : Bytes) (h : bytes.length = n) :
    bytes ≠ [] := by
  rw [← List.length_pos_iff]
  omega

/-- The conversions are inverse up to the width at which a shift distance
    leaves the `int`s. -/
theorem inverse_iff (n : Nat) (hn : 1 ≤ n) : Inverse n ↔ n ≤ 2 ^ 28 := by
  constructor
  · intro h
    by_contra hlong
    -- The number that a longer array does not take.
    rcases bigIntegerToByteArray_ne (List.replicate n 0)
      (by rw [List.length_replicate]; omega) with ⟨v, hv, hne⟩
    rw [List.length_replicate] at hv hne
    have hlen : (bigIntegerToByteArray (List.replicate n 0) v).length = n := by
      rw [length_bigIntegerToByteArray, List.length_replicate]
    -- Reading what was written would give the number back, so the bytes would be
    -- its own.
    have hread := h.value (List.replicate n 0) v List.length_replicate
    rw [byteArrayToBigInteger_eq _ (ne_nil_of_length hn _ hlen), Nat.mod_eq_of_lt hv,
      Except.ok.injEq, Int.natCast_inj] at hread
    have hbytes := toBE_of_ofBE _ _ hread
    rw [hlen] at hbytes
    exact hne hbytes
  · intro h
    constructor
    · intro bytes v hlen
      have hwritten := bigIntegerToByteArray_eq bytes v (by omega)
      rw [hwritten, hlen, byteArrayToBigInteger_eq _ (ne_nil_of_length hn _ (length_toBE n v)),
        ofBE_toBE]
    -- Every byte of the target is written, whatever it held.
    · intro bytes target hlen htarget
      refine ⟨ofBE bytes, byteArrayToBigInteger_eq bytes (ne_nil_of_length hn bytes hlen), ?_⟩
      rw [bigIntegerToByteArray_eq target (ofBE bytes) (by omega), htarget, ← hlen, toBE_ofBE]

namespace KeyPairs

/-- `ZRTPSocket.getPublicDH3kKey`. -/
def getPublicDH3kKey (C : Crypto) (keys : KeyPairs) : Bytes :=
  bigIntegerToByteArray (List.replicate 384 0) (C.dhPublic keys.dh3k)

/-- `ZRTPSocket.getPublicEC25Key`. -/
def getPublicEC25Key (C : Crypto) (keys : KeyPairs) : Bytes :=
  bigIntegerToByteArray (List.replicate 32 0) (C.ecPublic keys.ec25).1 ++
    bigIntegerToByteArray (List.replicate 32 0) (C.ecPublic keys.ec25).2

/-- The loops fill in the bytes the handshake is modelled with. -/
theorem getPublicKey_eq (C : Crypto) (keys : KeyPairs) (t : AgreementType) :
    keys.getPublicKey C t = match t with
      | .dh3k => keys.getPublicDH3kKey C
      | .ec25 => keys.getPublicEC25Key C := by
  cases t with
  | dh3k =>
      simp only [getPublicKey, getPublicDH3kKey]
      rw [bigIntegerToByteArray_eq _ _ (by rw [List.length_replicate]; decide),
        List.length_replicate]
  | ec25 =>
      simp only [getPublicKey, getPublicEC25Key]
      rw [bigIntegerToByteArray_eq _ _ (by rw [List.length_replicate]; decide),
        bigIntegerToByteArray_eq _ _ (by rw [List.length_replicate]; decide),
        List.length_replicate]

end KeyPairs

namespace SecretCalculator

/-- The public value `DH3KSecretCalculator` takes out of a field. -/
def publicDH3k (publicKeyBytes : Bytes) : Java Int := byteArrayToBigInteger publicKeyBytes

/-- The two coordinates `EC25SecretCalculator` takes out of one. -/
def publicEC25 (publicKeyBytes : Bytes) : Java (Int × Int) := do
  let x ← Java.arraycopy publicKeyBytes 0 32
  let y ← Java.arraycopy publicKeyBytes 32 32
  let x ← byteArrayToBigInteger x
  let y ← byteArrayToBigInteger y
  .ok (x, y)

/-- A coordinate is never read from an empty array. -/
theorem byteArrayToBigInteger_arraycopy (data : Bytes) (off : Nat) (field : Bytes)
    (h : Java.arraycopy data off 32 = .ok field) :
    byteArrayToBigInteger field = .ok (ofBE field : Int) := by
  rw [Java.arraycopy, Java.region_ok] at h
  rcases h with ⟨hle, hfield⟩
  have hlen : field.length = 32 := by rw [← hfield, Slice.length_slice off 32 data hle]
  exact byteArrayToBigInteger_eq field (ne_nil_of_length (by omega) field hlen)

/-- The key agreements are those of the handshake, with the values the loops
    read. -/
theorem calculateKeyAgreement_eq (C : Crypto) (keys : KeyPairs) (t : AgreementType)
    (publicKeyBytes : Bytes) (h : publicKeyBytes ≠ []) :
    calculateKeyAgreement C keys t publicKeyBytes = match t with
      | .dh3k => publicDH3k publicKeyBytes >>= fun y =>
        (C.dhAgree keys.dh3k y.toNat).mapError .unchecked
      | .ec25 => publicEC25 publicKeyBytes >>= fun q =>
        (C.ecAgree keys.ec25 (q.1.toNat, q.2.toNat)).mapError .unchecked := by
  cases t with
  | dh3k =>
      simp only [calculateKeyAgreement, publicDH3k]
      rw [byteArrayToBigInteger_eq publicKeyBytes h, Java.ok_bind, Int.toNat_natCast]
  | ec25 =>
      simp only [calculateKeyAgreement, publicEC25]
      -- Both sides stop at the same copy when the field is too short.
      cases hx : Java.arraycopy publicKeyBytes 0 32 with
      | error e => rfl
      | ok x =>
          cases hy : Java.arraycopy publicKeyBytes 32 32 with
          | error e => rfl
          | ok y =>
              simp only [Java.ok_bind, byteArrayToBigInteger_arraycopy _ _ _ hx,
                byteArrayToBigInteger_arraycopy _ _ _ hy, Int.toNat_natCast]

/-- The peer takes out of the field the value that was put in. -/
theorem publicDH3k_getPublicDH3kKey (C : Crypto) (keys : KeyPairs) :
    publicDH3k (keys.getPublicDH3kKey C) = .ok (C.dhPublic keys.dh3k : Int) := by
  have hwidth : Inverse 384 := (inverse_iff 384 (by decide)).mpr (by decide)
  -- A public value is below the modulus, which takes 384 bytes, so nothing is
  -- cut off.
  rw [publicDH3k, KeyPairs.getPublicDH3kKey, hwidth.value _ _ List.length_replicate,
    Nat.mod_eq_of_lt (C.dhPublic_lt keys.dh3k)]

/-- So it does with the two coordinates of a point. -/
theorem publicEC25_getPublicEC25Key (C : Crypto) (keys : KeyPairs) :
    publicEC25 (keys.getPublicEC25Key C)
      = .ok (((C.ecPublic keys.ec25).1 : Int), ((C.ecPublic keys.ec25).2 : Int)) := by
  have hwidth : Inverse 32 := (inverse_iff 32 (by decide)).mpr (by decide)
  rcases C.ecPublic_lt keys.ec25 with ⟨hx, hy⟩
  have hlen : ∀ v : Int, (bigIntegerToByteArray (List.replicate 32 0) v).length = 32 := by
    intro v
    rw [length_bigIntegerToByteArray, List.length_replicate]
  -- The point is two fields of one width, which come apart where they were
  -- joined.
  have hreadx := Java.arraycopy_left
    (bigIntegerToByteArray (List.replicate 32 0) (C.ecPublic keys.ec25).1)
    (bigIntegerToByteArray (List.replicate 32 0) (C.ecPublic keys.ec25).2)
  have hready := Java.arraycopy_right
    (bigIntegerToByteArray (List.replicate 32 0) (C.ecPublic keys.ec25).1)
    (bigIntegerToByteArray (List.replicate 32 0) (C.ecPublic keys.ec25).2)
  rw [hlen] at hreadx
  rw [hlen, hlen] at hready
  rw [publicEC25, KeyPairs.getPublicEC25Key, hreadx, hready, Java.ok_bind, Java.ok_bind,
    hwidth.value _ _ List.length_replicate, hwidth.value _ _ List.length_replicate, Java.ok_bind,
    Java.ok_bind, Nat.mod_eq_of_lt hx, Nat.mod_eq_of_lt hy]

end SecretCalculator

/-- The conversions are inverse exactly up to arrays of `2 ^ 28` bytes, and no
    public value is changed on its way to the peer, whatever its first byte. -/
theorem publicKeys_survive_iff (n : Nat) (hn : 1 ≤ n) :
    (Inverse n ↔ n ≤ 2 ^ 28) ∧
      ∀ (C : Crypto) (keys : KeyPairs),
        SecretCalculator.publicDH3k (keys.getPublicDH3kKey C)
          = .ok (C.dhPublic keys.dh3k : Int) ∧
        SecretCalculator.publicEC25 (keys.getPublicEC25Key C)
          = .ok (((C.ecPublic keys.ec25).1 : Int), ((C.ecPublic keys.ec25).2 : Int)) := by
  refine ⟨inverse_iff n hn, ?_⟩
  intro C keys
  exact ⟨SecretCalculator.publicDH3k_getPublicDH3kKey C keys,
    SecretCalculator.publicEC25_getPublicEC25Key C keys⟩

/-- At the width of a coordinate. -/
theorem publicKeys_survive_coordinate : (1 ≤ 32 ∧ 32 ≤ 2 ^ 28) ∧ Inverse 32 :=
  ⟨by decide, (publicKeys_survive_iff 32 (by decide)).1.mpr (by decide)⟩

/-- In an array of `2 ^ 29 + 1` bytes a one is written at both ends, since the
    distance to the first byte is `2 ^ 32` bits and as an `int` none. -/
theorem one_written_twice :
    byteArrayToBigInteger (bigIntegerToByteArray (List.replicate (2 ^ 29 + 1) 0) 1)
      ≠ .ok ((1 % 256 ^ (2 ^ 29 + 1) : Nat) : Int) := by
  -- The length is made a variable, so that no array of that size is evaluated.
  rcases (⟨2 ^ 29 + 1, rfl⟩ : ∃ n, n = 2 ^ 29 + 1) with ⟨n, hn⟩
  rw [← hn]
  intro hread
  have hlen : (bigIntegerToByteArray (List.replicate n 0) ((1 : Nat) : Int)).length = n := by
    rw [length_bigIntegerToByteArray, List.length_replicate]
  have hlt : 1 < 256 ^ n := Nat.one_lt_pow (by omega) (by decide)
  have hcast : (1 : Int) = ((1 : Nat) : Int) := rfl
  rw [hcast, byteArrayToBigInteger_eq _ (ne_nil_of_length (by omega) _ hlen), Nat.mod_eq_of_lt hlt,
    Except.ok.injEq, Int.natCast_inj] at hread
  have hbytes := toBE_of_ofBE _ _ hread
  rw [hlen] at hbytes
  -- The first byte tells the two apart: the loop writes a one, and it should be
  -- nought.
  have hfirst := congrArg (·[0]?) hbytes
  have hdistance : shiftDistance n 0 = ((8 * 0 : Nat) : Int) := by
    rw [shiftDistance_eq, hn]
    decide
  have hzero : 1 / 256 ^ (n - 1 - 0) = 0 :=
    Nat.div_eq_of_lt (Nat.one_lt_pow (by omega) (by decide))
  simp only [getElem?_bigIntegerToByteArray (List.replicate n 0) _ 0
    (by rw [List.length_replicate]; omega), List.length_replicate, hdistance, lowByte_shiftRight,
    getElem?_toBE n 1 0 (by omega), hzero] at hfirst
  exact absurd hfirst (by decide)

end RedPhone
