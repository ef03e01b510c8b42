import RedPhone.Lib.Run
import RedPhone.Lib.Slice
import RedPhone.Lib.Endian
import RedPhone.Util.Base64

/-!
# C++ Memory and Machine Integers

What the native code can do instead of returning. A read or a write that
leaves its block, and a signed sum that leaves its type, are undefined, and a
computation that comes to one stops there.

Offsets and lengths are integers here, because the code computes them in
signed types and they can be negative when a block is reached. Conversions
between the integer types do not fail, so they are functions of their own.

## Main definitions

* `Fault`: What is undefined.
* `Cpp`: A computation that returns a value or runs into a fault.
* `int32`, `uint32`: Conversions to the types of thirty-two bits.
* `read`, `write`: Accesses to a block of memory.

## Theorems

* `int32_of_lt`, `uint32_of_lt`: Conversions of what fits.
* `read_ok`, `le_of_read`: A read returns when it is inside its block.
* `write_ok`: A write inside its block.
-/

namespace RedPhone

/-- Behaviour the language leaves undefined. -/
inductive Fault
  | outOfBounds
  | signedOverflow
  deriving DecidableEq, Repr

/-- A computation that returns a value or runs into a fault. -/
abbrev Cpp (α : Type) := Except Fault α

namespace Cpp

open Slice

/-- The conversion to `int`. -/
def int32 (x : Int) : Int := Int.bmod x 4294967296

/-- The conversion to `uint32_t`. -/
def uint32 (x : Int) : Int := x % 4294967296

/-- The values of `int64_t`. -/
def IsInt64 (x : Int) : Prop := -9223372036854775808 ≤ x ∧ x < 9223372036854775808

instance (x : Int) : Decidable (IsInt64 x) := inferInstanceAs (Decidable (_ ∧ _))

/-- The `len` bytes at `offset` of a block. -/
def read (block : Bytes) (offset len : Int) : Cpp Bytes :=
  if 0 ≤ offset ∧ 0 ≤ len ∧ offset + len ≤ block.length then
    .ok (slice offset.toNat len.toNat block)
  else .error .outOfBounds

/-- The block with `src` written at `offset`. -/
def write (block : Bytes) (offset : Int) (src : Bytes) : Cpp Bytes :=
  if 0 ≤ offset ∧ offset + src.length ≤ block.length then .ok (blit offset.toNat src block)
  else .error .outOfBounds

theorem int32_of_lt (x : Int) (hlo : -2147483648 ≤ x) (hhi : x < 2147483648) : int32 x = x := by
  unfold int32
  exact Int.bmod_eq_of_le (by omega) (by omega)

theorem uint32_of_lt (x : Int) (hlo : 0 ≤ x) (hhi : x < 4294967296) : uint32 x = x :=
  Int.emod_eq_of_lt hlo hhi

/-- A read inside its block. -/
theorem read_ok (block : Bytes) (offset len : Nat) (h : offset + len ≤ block.length) :
    read block offset len = .ok (slice offset len block) := by
  unfold read
  rw [if_pos (by omega), Int.toNat_natCast, Int.toNat_natCast]

/-- A read that returned was inside its block. -/
theorem le_of_read (block : Bytes) (offset len : Int) (bytes : Bytes)
    (h : read block offset len = .ok bytes) : offset + len ≤ block.length := by
  unfold read at h
  by_cases hinside : 0 ≤ offset ∧ 0 ≤ len ∧ offset + len ≤ block.length
  · exact hinside.2.2
  · rw [if_neg hinside] at h
    exact nomatch h

/-- A write inside its block. -/
theorem write_ok (block : Bytes) (offset : Nat) (src : Bytes)
    (h : offset + src.length ≤ block.length) :
    write block offset src = .ok (blit offset src block) := by
  unfold write
  rw [if_pos (by omega), Int.toNat_natCast]

end Cpp

end RedPhone
