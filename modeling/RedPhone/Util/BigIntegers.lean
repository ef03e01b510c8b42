import Mathlib.Data.Int.Bitwise
import RedPhone.Util.Conversions

/-!
# Integers of Any Size in Arrays

`Conversions` writes a `BigInteger` into an array of bytes from the last byte
to the first, each byte the value shifted to the right and cut to eight bits,
and reads it back by shifting to the left. A byte of the runtime is signed, so
the reader cuts each to eight bits as well before it is taken in.

A `BigInteger` is an integer. A distance of its shifts is an `int`, in which
the eight times a place is computed too, and a negative distance shifts the
other way. So the writer takes the bytes of the value only from places up to
`2 ^ 28`, and the arrays of a handshake have 32 and 384 bytes.

## Main definitions

* `shiftDistance`: How far the value is shifted for a place.
* `bigIntegerToByteArray`, `byteArrayToBigInteger`: The two loops.

## Theorems

* `getElem?_bigIntegerToByteArray`: What is at a place of a written array.
* `byteArrayToBigInteger_eq`: A reading is the big-endian number.
* `bigIntegerToByteArray_eq`: What is written is the big-endian bytes.
* `bigIntegerToByteArray_ne`: In a longer array it is not.
-/

namespace RedPhone

namespace Conversions

open Endian

/-- `(byte) value.and(mask).intValue()`. -/
def lowByte (value : Int) : UInt8 :=
  (Int.land value 0xff).toInt32.toInt8.toUInt8

/-- `BigInteger.valueOf(bytes[i]).and(BigInteger.valueOf(0xFF))`. -/
def unsignedByte (b : UInt8) : Int := Int.land b.toInt8.toInt 0xff

/-- `(bytes.length-1-i) * 8`, an `int`. -/
def shiftDistance (length i : Nat) : Int :=
  (Int32.ofNat (length - 1 - i) * 8).toInt

/-- The loop that writes, with `i` places to go. -/
def writeFrom (value : Int) : Nat → Bytes → Bytes
  | 0, bytes => bytes
  | i + 1, bytes =>
    writeFrom value i (bytes.set i (lowByte (value >>> shiftDistance bytes.length i)))

/-- `Conversions.bigIntegerToByteArray`: the array afterwards. -/
def bigIntegerToByteArray (bytes : Bytes) (value : Int) : Bytes :=
  writeFrom value bytes.length bytes

/-- The loop that reads, from the second byte on. -/
def readFrom (value : Int) (bytes : Bytes) : Int :=
  bytes.foldl (fun value b => Int.lor (value <<< (8 : Int)) (unsignedByte b)) value

def byteArrayToBigInteger : Bytes → Java Int
  | [] => Java.raise .arrayIndexOutOfBounds
  | b :: bytes => .ok (readFrom (unsignedByte b) bytes)

/-! ## Bytes -/

/-- The mask keeps the remainder, of a negative number too. -/
theorem land_mask (v : Int) : Int.land v 0xff = v % 256 := by
  cases v with
  | ofNat n =>
      have hmask : n &&& 0xff = n % 256 := Nat.and_two_pow_sub_one_eq_mod n 8
      exact congrArg Int.ofNat hmask
  | negSucc n =>
      -- In two's complement the bits of a negative number are those of its
      -- complement turned over.
      have hbits : Nat.ldiff 0xff n = 2 ^ 8 - (n % 2 ^ 8 + 1) := by
        apply Nat.eq_of_testBit_eq
        intro i
        have hlt : n % 2 ^ 8 < 2 ^ 8 := Nat.mod_lt _ (by decide)
        have hmask : Nat.testBit 0xff i = decide (i < 8) := Nat.testBit_two_pow_sub_one 8 i
        rw [Nat.testBit_ldiff, Nat.testBit_two_pow_sub_succ hlt, Nat.testBit_mod_two_pow, hmask]
        cases decide (i < 8) with
        | false => rfl
        | true => rfl
      have hland : Int.land (Int.negSucc n) 0xff = (Nat.ldiff 0xff n : Int) := rfl
      rw [hland, hbits, Int.negSucc_eq]
      omega

/-- A signed byte stands for its eight bits. -/
theorem unsignedByte_eq (b : UInt8) : unsignedByte b = b.toNat := by
  have hall : ∀ n : Fin 256, (UInt8.ofFin n).toInt8.toInt % 256 = ((n : Nat) : Int) := by
    decide +kernel
  rw [unsignedByte, land_mask]
  exact hall b.toFin

/-- The cast of a masked integer keeps its last eight bits. -/
theorem lowByte_eq (n : Nat) : lowByte n = UInt8.ofNat n := by
  have hall : ∀ r : Fin 256, (((r : Nat) : Int)).toInt32.toInt8.toUInt8 = UInt8.ofNat r := by
    decide +kernel
  have hcast : (n : Int) % 256 = ((n % 256 : Nat) : Int) := by omega
  have hlow : ((n % 256 : Nat) : Int).toInt32.toInt8.toUInt8 = UInt8.ofNat (n % 256) :=
    hall ⟨n % 256, Nat.mod_lt _ (by decide)⟩
  rw [lowByte, land_mask, hcast, hlow]
  apply UInt8.toNat.inj
  rw [UInt8.toNat_ofNat', UInt8.toNat_ofNat']
  omega

/-- Taking in a byte below the ones read so far. -/
theorem lor_byte (n : Nat) (b : UInt8) :
    Int.lor ((n : Int) <<< (8 : Int)) (unsignedByte b) = ((n * 256 + b.toNat : Nat) : Int) := by
  have hshift : (n : Int) <<< (8 : Int) = ((n <<< 8 : Nat) : Int) := Int.shiftLeft_natCast n 8
  have hor : n <<< 8 ||| b.toNat = n <<< 8 + b.toNat :=
    (Nat.shiftLeft_add_eq_or_of_lt (b := b.toNat) b.toNat_lt n).symm
  have hlor : Int.lor ((n <<< 8 : Nat) : Int) (b.toNat : Int)
      = ((n <<< 8 ||| b.toNat : Nat) : Int) := rfl
  rw [unsignedByte_eq, hshift, hlor, hor, Nat.shiftLeft_eq]

/-! ## Reading -/

theorem readFrom_eq (n : Nat) (bytes : Bytes) :
    readFrom n bytes = ((bytes.foldl (fun acc b => acc * 256 + b.toNat) n : Nat) : Int) := by
  induction bytes generalizing n with
  | nil => rfl
  | cons b bytes ih =>
      rw [List.foldl_cons, ← ih]
      unfold readFrom
      rw [List.foldl_cons, lor_byte]

/-- Reading takes the bytes for a big-endian number. -/
theorem byteArrayToBigInteger_eq (bytes : Bytes) (h : bytes ≠ []) :
    byteArrayToBigInteger bytes = .ok (ofBE bytes : Int) := by
  cases bytes with
  | nil => exact absurd rfl h
  | cons b bytes =>
      rw [byteArrayToBigInteger, unsignedByte_eq, readFrom_eq]
      unfold ofBE
      rw [List.foldl_cons, Nat.zero_mul, Nat.zero_add]

/-! ## Writing -/

theorem length_writeFrom (value : Int) (i : Nat) (bytes : Bytes) :
    (writeFrom value i bytes).length = bytes.length := by
  induction i generalizing bytes with
  | zero => rfl
  | succ i ih => rw [writeFrom, ih, List.length_set]

/-- What is at a place when the places below `i` have been written. -/
theorem getElem?_writeFrom (value : Int) (i j : Nat) (bytes : Bytes) (hi : i ≤ bytes.length) :
    (writeFrom value i bytes)[j]?
      = if j < i then some (lowByte (value >>> shiftDistance bytes.length j)) else bytes[j]? := by
  induction i generalizing bytes with
  | zero => rw [writeFrom, if_neg (Nat.not_lt_zero j)]
  | succ i ih =>
      rw [writeFrom, ih _ (by rw [List.length_set]; omega), List.length_set]
      rcases Nat.lt_trichotomy j i with hj | hj | hj
      · rw [if_pos hj, if_pos (by omega)]
      · rw [if_neg (by omega), if_pos (by omega), hj, List.getElem?_set_self hi]
      · rw [if_neg (by omega), if_neg (by omega), List.getElem?_set_ne (by omega)]

theorem length_bigIntegerToByteArray (bytes : Bytes) (value : Int) :
    (bigIntegerToByteArray bytes value).length = bytes.length :=
  length_writeFrom value bytes.length bytes

/-- What the array held before is gone. -/
theorem getElem?_bigIntegerToByteArray (bytes : Bytes) (value : Int) (j : Nat)
    (hj : j < bytes.length) :
    (bigIntegerToByteArray bytes value)[j]?
      = some (lowByte (value >>> shiftDistance bytes.length j)) := by
  rw [bigIntegerToByteArray, getElem?_writeFrom value bytes.length j bytes (Nat.le_refl _),
    if_pos hj]

/-- The distance to a place is eight times the places behind it, as a number of
    32 bits. -/
theorem shiftDistance_eq (length i : Nat) :
    shiftDistance length i = (8 * ((length - 1 - i : Nat) : Int)).bmod (2 ^ 32) := by
  have height : (8 : Int32).toInt = 8 := by decide
  rw [shiftDistance, Int32.toInt_mul, Int32.toInt_ofNat', height, Int.bmod_mul_bmod, Int.mul_comm]
  rfl

/-- Near the end of an array the distance is what it should be. -/
theorem shiftDistance_of_lt (length i : Nat) (h : length - 1 - i < 2 ^ 28) :
    shiftDistance length i = ((8 * (length - 1 - i) : Nat) : Int) := by
  rw [shiftDistance_eq]
  have hcast : 8 * ((length - 1 - i : Nat) : Int) = ((8 * (length - 1 - i) : Nat) : Int) := by
    rw [Nat.cast_mul]
    rfl
  rw [hcast]
  exact Int.bmod_eq_of_le (by omega) (by omega)

/-- A number shifted to the right by whole bytes. -/
theorem lowByte_shiftRight (v k : Nat) :
    lowByte ((v : Int) >>> ((8 * k : Nat) : Int)) = UInt8.ofNat (v / 256 ^ k) := by
  have hpow : 2 ^ (8 * k) = 256 ^ k := pow_mul 2 8 k
  rw [Int.shiftRight_natCast, lowByte_eq, Nat.shiftRight_eq_div_pow, hpow]

/-- A number shifted to the left by a byte or more has nothing in its last. -/
theorem lowByte_shiftLeft (v m : Nat) : lowByte ((v : Int) >>> (-((8 + m : Nat) : Int))) = 0 := by
  rw [Int.shiftRight_neg, Int.shiftLeft_natCast, lowByte_eq, Nat.shiftLeft_eq, pow_add]
  apply UInt8.toNat.inj
  rw [UInt8.toNat_ofNat']
  have hdvd : 2 ^ 8 ∣ v * (2 ^ 8 * 2 ^ m) := ⟨v * 2 ^ m, by ring⟩
  exact Nat.mod_eq_zero_of_dvd hdvd

/-- In an array whose bits an `int` can count, the writer fills in the
    big-endian bytes. -/
theorem bigIntegerToByteArray_eq (bytes : Bytes) (v : Nat) (h : bytes.length ≤ 2 ^ 28) :
    bigIntegerToByteArray bytes v = toBE bytes.length v := by
  apply List.ext_getElem?
  intro j
  by_cases hj : j < bytes.length
  · rw [getElem?_bigIntegerToByteArray bytes v j hj, getElem?_toBE bytes.length v j hj,
      shiftDistance_of_lt bytes.length j (by omega), lowByte_shiftRight]
  · rw [List.getElem?_eq_none (by rw [length_bigIntegerToByteArray]; omega),
      List.getElem?_eq_none (by rw [length_toBE]; omega)]

/-- In a longer one there is a number it does not write, the one whose only
    bit stands at the place where the distance turns negative. -/
theorem bigIntegerToByteArray_ne (bytes : Bytes) (h : 2 ^ 28 < bytes.length) :
    ∃ v, v < 256 ^ bytes.length ∧
      bigIntegerToByteArray bytes ((v : Nat) : Int) ≠ toBE bytes.length v := by
  rcases (⟨2 ^ 28, rfl⟩ : ∃ k, k = 2 ^ 28) with ⟨k, hk⟩
  have hj : bytes.length - 1 - k < bytes.length := by omega
  have hplace : bytes.length - 1 - (bytes.length - 1 - k) = k := by omega
  -- Eight times the place is the least `int`, so the shift goes the other way.
  have hdistance : ∃ m : Nat,
      shiftDistance bytes.length (bytes.length - 1 - k) = -((8 + m : Nat) : Int) := by
    refine ⟨2 ^ 31 - 8, ?_⟩
    rw [shiftDistance_eq, hplace, hk]
    decide
  rcases hdistance with ⟨m, hm⟩
  refine ⟨256 ^ k, Nat.pow_lt_pow_right (by omega) (by omega), ?_⟩
  intro heq
  have hbyte := congrArg (·[bytes.length - 1 - k]?) heq
  have hone : 256 ^ k / 256 ^ k = 1 := Nat.div_self (Nat.pow_pos (by omega))
  simp only [getElem?_bigIntegerToByteArray bytes _ _ hj, getElem?_toBE bytes.length _ _ hj, hm,
    lowByte_shiftLeft, hplace, hone] at hbyte
  exact absurd hbyte (by decide)

end Conversions

end RedPhone
