import Mathlib.Logic.Function.Iterate
import RedPhone.Lib.BlockCipher

/-!
# The Counter Blocks of Counter Mode

Counter mode encrypts one block after another by what the cipher makes of a
counter, which starts from a first block and is one number of sixteen bytes.
Byte `j` of a text meets byte `j % 16` of counter block `j / 16`, so two bytes
meet the same byte of key stream only if both the counter block and the place
in it are the same.

A first block is a front with zeros behind it. As long as the counter stays
inside the zeros it does not touch the front, and the front and the count can
be told from the block. First blocks with different fronts then lead to
different counter blocks throughout, which is what keeps key streams apart.

## Main definitions

* `counterBlock`: A counter block, by its place.
* `counterBlocks`: Those a text of a given length is encrypted by.
* `place`: The counter block and the byte of it that a byte of text meets.
* `keyByte`: What the cipher makes of a place.

## Theorems

* `getElem?_ctr`: A byte of text under its byte of key stream.
* `ofBE_counterBlock`: Counter blocks as numbers.
* `counterBlock_injective`: The front and the count can be told from a block.
-/

namespace BlockCipher

/-- The counter block `i` places behind the first. -/
def counterBlock (iv : List UInt8) (i : Nat) : List UInt8 := increment^[i] iv

/-- The counter blocks a text of `len` bytes is encrypted by. -/
def counterBlocks (iv : List UInt8) (len : Nat) : List (List UInt8) :=
  (List.range ((len + 15) / 16)).map (counterBlock iv)

/-- The counter block that byte `j` of a text meets, and the byte of it. -/
def place (iv : List UInt8) (j : Nat) : List UInt8 × Nat := (counterBlock iv (j / 16), j % 16)

/-- The byte of key stream at a place. -/
def keyByte (E : List UInt8 → List UInt8) (p : List UInt8 × Nat) : UInt8 := (E p.1).getD p.2 0

section Modes

variable {E : List UInt8 → List UInt8} (hE : ∀ b, (E b).length = 16)
include hE

theorem getElem?_keyStream (n : Nat) (iv : List UInt8) (j : Nat) (hj : j < 16 * n) :
    (keyStream E n iv)[j]? = some (keyByte E (place iv j)) := by
  induction n generalizing iv j with
  | zero => exact absurd hj (Nat.not_lt_zero _)
  | succ n ih =>
      rw [keyStream]
      by_cases hfirst : j < 16
      · -- The first block, before any counting.
        have hblock : place iv j = (iv, j) := by
          unfold place
          rw [Nat.div_eq_of_lt hfirst, Nat.mod_eq_of_lt hfirst]
          rfl
        rw [List.getElem?_append_left (by rw [hE]; exact hfirst), hblock, keyByte,
          List.getD_eq_getElem?_getD, List.getElem?_eq_getElem (by rw [hE]; exact hfirst)]
        rfl
      · -- The rest is the key stream of the next counter block.
        have hrest : place (increment iv) (j - 16) = place iv j := by
          have hsucc : j / 16 = (j - 16) / 16 + 1 := by omega
          have hmod : (j - 16) % 16 = j % 16 := by omega
          unfold place
          rw [hsucc, hmod]
          rfl
        rw [List.getElem?_append_right (by rw [hE]; omega), hE, ih _ _ (by omega), hrest]

/-- A byte of text under its byte of key stream. -/
theorem getElem?_ctr (iv m : List UInt8) (j : Nat) :
    (ctr E iv m)[j]? = m[j]?.map (· ^^^ keyByte E (place iv j)) := by
  unfold ctr xor
  rw [List.getElem?_zipWith]
  by_cases hj : j < m.length
  · rw [List.getElem?_eq_getElem hj, getElem?_keyStream hE _ _ _ (by omega)]
    rfl
  · rw [List.getElem?_eq_none (Nat.le_of_not_lt hj)]
    rfl

end Modes

/-- Counter blocks as numbers. -/
theorem ofBE_counterBlock (iv : List UInt8) (hiv : iv.length = 16) (i : Nat) :
    Endian.ofBE (counterBlock iv i) = (Endian.ofBE iv + i) % 256 ^ 16 := by
  induction i with
  | zero =>
      have hlt := Endian.ofBE_lt iv
      rw [hiv] at hlt
      exact (Nat.mod_eq_of_lt hlt).symm
  | succ i ih =>
      unfold counterBlock at ih ⊢
      rw [Function.iterate_succ_apply', increment, Endian.ofBE_toBE, ih]
      omega

/-- While the count stays in the bytes behind the front, it leaves the front
    alone. -/
theorem ofBE_counterBlock_front (front : List UInt8) (k : Nat) (hlen : front.length + k = 16)
    (i : Nat) (hi : i < 256 ^ k) :
    Endian.ofBE (counterBlock (front ++ List.replicate k 0) i)
      = Endian.ofBE front * 256 ^ k + i := by
  have hiv : (front ++ List.replicate k (0 : UInt8)).length = 16 := by
    rw [List.length_append, List.length_replicate, hlen]
  -- There is no carry, so nothing comes out of the sixteen bytes either.
  have hfits : Endian.ofBE front * 256 ^ k + i < 256 ^ 16 := by
    have hfront : Endian.ofBE front + 1 ≤ 256 ^ front.length := Endian.ofBE_lt front
    calc Endian.ofBE front * 256 ^ k + i
        < (Endian.ofBE front + 1) * 256 ^ k := by rw [Nat.add_mul, Nat.one_mul]; omega
      _ ≤ 256 ^ front.length * 256 ^ k := Nat.mul_le_mul_right _ hfront
      _ = 256 ^ 16 := by rw [← pow_add, hlen]
  rw [ofBE_counterBlock _ hiv, Endian.ofBE_append, Endian.ofBE_replicate_zero,
    List.length_replicate, Nat.add_zero]
  exact Nat.mod_eq_of_lt hfits

/-- The front and the count can be told from a counter block. -/
theorem counterBlock_injective (a b : List UInt8) (k : Nat) (ha : a.length + k = 16)
    (hb : b.length + k = 16) (i j : Nat) (hi : i < 256 ^ k) (hj : j < 256 ^ k)
    (h : counterBlock (a ++ List.replicate k 0) i = counterBlock (b ++ List.replicate k 0) j) :
    a = b ∧ i = j := by
  have hnum : Endian.ofBE a * 256 ^ k + i = Endian.ofBE b * 256 ^ k + j := by
    rw [← ofBE_counterBlock_front a k ha i hi, ← ofBE_counterBlock_front b k hb j hj, h]
  -- The count is the remainder, and the front the quotient.
  have hcount : i = j := by
    have hmod := congrArg (· % 256 ^ k) hnum
    simp only [Nat.mul_add_mod'] at hmod
    rwa [Nat.mod_eq_of_lt hi, Nat.mod_eq_of_lt hj] at hmod
  refine ⟨Endian.ofBE_injective a b (by omega) ?_, hcount⟩
  rw [hcount] at hnum
  exact Nat.eq_of_mul_eq_mul_right (Nat.pow_pos (by omega)) (Nat.add_right_cancel hnum)

end BlockCipher
