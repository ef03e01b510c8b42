import RedPhone.Java.Exception
import RedPhone.Lib.Endian
import RedPhone.Lib.Slice
import RedPhone.Util.Base64

/-!
# Reading Arrays

Every field of a packet is read by one of a few library calls, each of which
throws when the field is not wholly inside the array. They differ only in what
they throw, so there is one definition, `region`, with the exception as a
parameter, and one lemma that says when it returns.

## Main definitions

* `region`: The bytes of a field, or an exception.
* `arraycopy`: The same, with the exception `System.arraycopy` throws.
* `byteAt`: One byte, or an exception.
* `byteArrayToShort`, `byteArray4ToLong`: The integers of `Conversions`.

## Theorems

* `region_ok`: A read returns exactly when its field is in the array.
* `region_of_le`: A field that is in the array is returned.
* `arraycopy_left`, `arraycopy_right`: Two arrays come apart again.
-/

namespace RedPhone

namespace Java

open Slice

/-- Read `len` bytes at `off`. -/
def region (e : Unchecked) (data : Bytes) (off len : Nat) : Java Bytes :=
  if off + len ≤ data.length then .ok (slice off len data) else raise e

theorem region_ok (e : Unchecked) (data : Bytes) (off len : Nat) (field : Bytes) :
    region e data off len = .ok field ↔ off + len ≤ data.length ∧ slice off len data = field := by
  unfold region
  by_cases h : off + len ≤ data.length
  · rw [if_pos h]
    simp only [Except.ok.injEq, h, true_and]
  · rw [if_neg h]
    simp only [raise, reduceCtorEq, h, false_and]

theorem region_of_le (e : Unchecked) (data : Bytes) (off len : Nat)
    (h : off + len ≤ data.length) : region e data off len = .ok (slice off len data) :=
  (region_ok e data off len _).mpr ⟨h, rfl⟩

def arraycopy (data : Bytes) (off len : Nat) : Java Bytes :=
  region .arrayIndexOutOfBounds data off len

/-- The first of two arrays put together. -/
theorem arraycopy_left (a b : Bytes) : arraycopy (a ++ b) 0 a.length = .ok a := by
  rw [arraycopy, region_ok, slice_append_left 0 a.length a b (by omega), slice_full]
  refine ⟨?_, rfl⟩
  rw [List.length_append]
  omega

/-- The second. -/
theorem arraycopy_right (a b : Bytes) : arraycopy (a ++ b) a.length b.length = .ok b := by
  rw [arraycopy, region_ok, slice_append_right a.length b.length a b (Nat.le_refl _), Nat.sub_self,
    slice_full]
  exact ⟨Nat.le_of_eq List.length_append.symm, rfl⟩

/-- Read one byte. -/
def byteAt (data : Bytes) (i : Nat) : Java UInt8 :=
  match data[i]? with
  | some x => .ok x
  | none => raise .arrayIndexOutOfBounds

theorem byteAt_ok (data : Bytes) (i : Nat) (x : UInt8) :
    byteAt data i = .ok x ↔ data[i]? = some x := by
  unfold byteAt
  cases data[i]? with
  | none => simp only [raise, reduceCtorEq]
  | some y => simp only [Except.ok.injEq, Option.some.injEq]

end Java

namespace Conversions

open Endian

/-- The value of two bytes as a signed `short`. -/
def toShort (bytes : Bytes) : Int :=
  if ofBE bytes < 32768 then ofBE bytes else (ofBE bytes : Int) - 65536

def byteArrayToShort (bytes : Bytes) (offset : Nat) : Java Int := do
  let field ← Java.arraycopy bytes offset 2
  .ok (toShort field)

def byteArray4ToLong (bytes : Bytes) (offset : Nat) : Java Nat := do
  let field ← Java.arraycopy bytes offset 4
  .ok (ofBE field)

def shortToByteArray (value : Nat) : Bytes := toBE 2 value

def longTo4ByteArray (value : Nat) : Bytes := toBE 4 value

def intToByteArray (value : Nat) : Bytes := toBE 4 value

/-- A length a `short` can carry reads back as itself. -/
theorem toShort_shortToByteArray (n : Nat) (h : n < 32768) :
    toShort (shortToByteArray n) = n := by
  unfold toShort shortToByteArray
  rw [ofBE_toBE, Nat.mod_eq_of_lt (by omega), if_pos h]

theorem length_shortToByteArray (n : Nat) : (shortToByteArray n).length = 2 :=
  length_toBE 2 n

theorem length_longTo4ByteArray (n : Nat) : (longTo4ByteArray n).length = 4 :=
  length_toBE 4 n

end Conversions

end RedPhone
