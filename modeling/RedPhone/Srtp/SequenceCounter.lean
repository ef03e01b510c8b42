import RedPhone.Lib.Window
import RedPhone.Srtp.Memory

/-!
# Sequence Numbers from Their Low Bits

An RTP header has room for sixteen bits of a sequence number. `SequenceCounter`
keeps the last number it was led to and takes the next one to be near it: the
difference of the low bits, brought into the range of a signed short, is added
to the last number.

The two numbers the counter keeps are one. The short one is the low bits of
the long one, which is a field of the structure, and makes `convertNext` the
recovery of `Window`.

## Main definitions

* `SequenceCounter`: The last number, with its low bits.
* `delta`: The difference of two short numbers, as a signed short.
* `convertNext`: The number a short one stands for.

## Theorems

* `delta_eq`: The difference is the balanced one.
* `next_prevLongId`: The next number is the nearest with the low bits received.
* `convertNext_ok`: A conversion that returned.
-/

namespace RedPhone

def INT16_MAX : Int := 0x7fff
def INT16_MIN : Int := -INT16_MAX - 1
def ShortRange : Int := 65536

/-- The last number the counter was led to. -/
structure SequenceCounter where
  prevShortId : UInt16
  prevLongId : Int
  prevShortId_eq : prevLongId % 65536 = prevShortId.toNat

namespace SequenceCounter

/-- The counter of a new stream. -/
def start : SequenceCounter := ⟨0, 0, rfl⟩

/-- The step between two short numbers. -/
def delta (nextShortId prevShortId : UInt16) : Int :=
  let delta : Int := (nextShortId.toNat : Int) - prevShortId.toNat
  let delta := if delta > INT16_MAX then delta - ShortRange else delta
  if delta < INT16_MIN then delta + ShortRange else delta

/-- The step is the balanced difference. -/
theorem delta_eq (nextShortId prevShortId : UInt16) :
    delta nextShortId prevShortId
      = Int.bmod ((nextShortId.toNat : Int) - prevShortId.toNat) 65536 := by
  have hnext : nextShortId.toNat < 65536 := nextShortId.toNat_lt
  have hprev : prevShortId.toNat < 65536 := prevShortId.toNat_lt
  simp only [delta, INT16_MAX, INT16_MIN, ShortRange, Int.bmod]
  omega

theorem delta_emod (s : SequenceCounter) (nextShortId : UInt16) :
    (s.prevLongId + delta nextShortId s.prevShortId) % 65536 = nextShortId.toNat := by
  have hnext : nextShortId.toNat < 65536 := nextShortId.toNat_lt
  have hshort := s.prevShortId_eq
  rw [delta_eq]
  simp only [Int.bmod]
  omega

/-- The counter led on by a short number. -/
def next (s : SequenceCounter) (nextShortId : UInt16) : SequenceCounter :=
  ⟨nextShortId, s.prevLongId + delta nextShortId s.prevShortId, delta_emod s nextShortId⟩

/-- The number a short one stands for, which the counter keeps. -/
def convertNext (s : SequenceCounter) (nextShortId : UInt16) : Cpp (Int × SequenceCounter) :=
  let s' := s.next nextShortId
  if Cpp.IsInt64 s'.prevLongId then .ok (s'.prevLongId, s') else .error .signedOverflow

/-- The next number is the nearest with the low bits received. -/
theorem next_prevLongId (s : SequenceCounter) (nextShortId : UInt16) :
    (s.next nextShortId).prevLongId
      = Window.nearest 65536 s.prevLongId nextShortId.toNat := by
  simp only [next, Window.nearest]
  rw [delta_eq, ← s.prevShortId_eq]
  exact congrArg _ (Int.sub_emod_bmod _ _)

/-- A conversion that returned. -/
theorem convertNext_ok (s : SequenceCounter) (nextShortId : UInt16) (longId : Int)
    (s' : SequenceCounter) :
    s.convertNext nextShortId = .ok (longId, s')
      ↔ s' = s.next nextShortId ∧ longId = s'.prevLongId ∧ Cpp.IsInt64 s'.prevLongId := by
  unfold convertNext
  by_cases hrange : Cpp.IsInt64 (s.next nextShortId).prevLongId
  · rw [if_pos hrange, Except.ok.injEq, Prod.mk.injEq]
    constructor
    · rintro ⟨hlong, rfl⟩
      exact ⟨rfl, hlong.symm, hrange⟩
    · rintro ⟨rfl, hlong, _⟩
      exact ⟨hlong.symm, rfl⟩
  · -- Out of range the sum is undefined, and nothing is returned.
    rw [if_neg hrange]
    constructor
    · intro h
      exact nomatch h
    · rintro ⟨rfl, _, h⟩
      exact absurd h hrange

/-- Back through zero, and forward again. -/
example : ((start.next 65535).next 3).prevLongId = 3 := by
  rfl

end SequenceCounter

end RedPhone
