import Mathlib.Tactic.Common
import Mathlib.Data.List.Induction
import Mathlib.Tactic.Ring

/-!
# Big-Endian Numbers of a Fixed Width

Writing a natural number into a given number of bytes, most significant byte
first, and reading it back. The width is a parameter of the writer and the
length of the list for the reader, so the two compose without a third number
to keep in step.

Writing truncates: only the value modulo `256 ^ n` reaches the bytes, which is
`ofBE_toBE`. Reading loses nothing, which is `toBE_ofBE`, and a reader is
therefore injective on lists of one length.

## Main definitions

* `toBE`: A number in `n` bytes, most significant first.
* `ofBE`: The number a list of bytes stands for.

## Theorems

* `length_toBE`: The writer fills its width.
* `ofBE_append`: A reading of two parts.
* `ofBE_toBE`: Reading back what was written, up to the width.
* `ofBE_lt`: A reading is below the power its length gives.
* `toBE_ofBE`: Writing back what was read.
* `ofBE_injective`: Readings of one length are equal only on equal bytes.
* `getElem?_toBE`: One byte of a written number.
* `toBE_of_ofBE`: The bytes of one length that read as a number.
-/

namespace Endian

/-- The low `n` bytes of a number, most significant first. -/
def toBE : Nat → Nat → List UInt8
  | 0, _ => []
  | n + 1, v => toBE n (v / 256) ++ [UInt8.ofNat v]

/-- The number a list of bytes stands for, most significant first. -/
def ofBE (bs : List UInt8) : Nat :=
  bs.foldl (fun acc b => acc * 256 + b.toNat) 0

@[simp] theorem length_toBE (n v : Nat) : (toBE n v).length = n := by
  induction n generalizing v with
  | zero => rfl
  | succ n ih => rw [toBE, List.length_append, ih, List.length_singleton]

theorem ofBE_concat (bs : List UInt8) (b : UInt8) :
    ofBE (bs ++ [b]) = ofBE bs * 256 + b.toNat := by
  unfold ofBE
  rw [List.foldl_append, List.foldl_cons, List.foldl_nil]

theorem ofBE_append (a b : List UInt8) : ofBE (a ++ b) = ofBE a * 256 ^ b.length + ofBE b := by
  induction b using List.reverseRecOn with
  | nil =>
      rw [List.append_nil, List.length_nil, pow_zero, Nat.mul_one]
      rfl
  | append_singleton b x ih =>
      rw [← List.append_assoc, ofBE_concat, ofBE_concat, ih, List.length_append,
        List.length_singleton]
      ring

theorem ofBE_replicate_zero (n : Nat) : ofBE (List.replicate n 0) = 0 := by
  induction n with
  | zero => rfl
  | succ n ih =>
      rw [List.replicate_succ', ofBE_concat, ih]
      rfl

/-- Reading back what was written gives the value modulo the width. -/
theorem ofBE_toBE (n v : Nat) : ofBE (toBE n v) = v % 256 ^ n := by
  induction n generalizing v with
  | zero => rw [toBE, pow_zero, Nat.mod_one]; rfl
  | succ n ih =>
      have hpow : 256 ^ (n + 1) = 256 * 256 ^ n := by ring
      rw [toBE, ofBE_concat, ih, UInt8.toNat_ofNat', hpow, Nat.mod_mul]
      omega

theorem ofBE_lt (bs : List UInt8) : ofBE bs < 256 ^ bs.length := by
  induction bs using List.reverseRecOn with
  | nil => decide
  | append_singleton bs b ih =>
      rw [ofBE_concat, List.length_append, List.length_singleton, pow_succ]
      have hb : b.toNat < 256 := b.toNat_lt
      omega

/-- Writing back what was read gives the bytes. -/
theorem toBE_ofBE (bs : List UInt8) : toBE bs.length (ofBE bs) = bs := by
  induction bs using List.reverseRecOn with
  | nil => rfl
  | append_singleton bs b ih =>
      have hb : b.toNat < 256 := b.toNat_lt
      have hdiv : (ofBE bs * 256 + b.toNat) / 256 = ofBE bs := by omega
      have hlow : UInt8.ofNat (ofBE bs * 256 + b.toNat) = b := by
        apply UInt8.toNat.inj
        rw [UInt8.toNat_ofNat']
        omega
      rw [ofBE_concat, List.length_append, List.length_singleton, toBE, hdiv, hlow, ih]

/-- A reading of a given length determines its bytes. -/
theorem ofBE_injective (a b : List UInt8) (hlen : a.length = b.length)
    (h : ofBE a = ofBE b) : a = b := by
  rw [← toBE_ofBE a, ← toBE_ofBE b, hlen, h]

/-- A place of a written number holds the value shifted to the right by the
    bytes behind it. -/
theorem getElem?_toBE (n v j : Nat) (hj : j < n) :
    (toBE n v)[j]? = some (UInt8.ofNat (v / 256 ^ (n - 1 - j))) := by
  induction n generalizing v with
  | zero => exact absurd hj (Nat.not_lt_zero j)
  | succ n ih =>
      rw [toBE]
      by_cases hlast : j < n
      · have hpow : 256 * 256 ^ (n - 1 - j) = 256 ^ (n + 1 - 1 - j) := by
          rw [← Nat.pow_succ']
          exact congrArg (256 ^ ·) (by omega)
        rw [List.getElem?_append_left (by rw [length_toBE]; exact hlast), ih _ hlast,
          Nat.div_div_eq_div_mul, hpow]
      · have hj : j = n := by omega
        rw [List.getElem?_append_right (by rw [length_toBE]; omega), length_toBE, hj, Nat.sub_self,
          Nat.add_sub_cancel, Nat.sub_self, pow_zero, Nat.div_one, List.getElem?_cons_zero]

/-- Only the written bytes of a number read as that number. -/
theorem toBE_of_ofBE (bs : List UInt8) (v : Nat) (h : ofBE bs = v) : bs = toBE bs.length v := by
  rw [← h, toBE_ofBE]

end Endian
