import RedPhone.Java.Utf8
import RedPhone.Lib.Sha
import RedPhone.Util.Conversions

/-!
# The Directory

The directory is a filter of bits, with a number of hashes that an entity in it
has set. It comes in the response to a directory request: the hashes are a
header of it that is read as a number, and the filter is its body, whatever
that is.

A hash is the code of the entity under its own index, of which four bytes are
taken as a number and reduced to a bit of the filter. How many bits the filter
has is computed from its bytes as an `int`. That goes wrong at both ends. A
filter without bytes has no bit to reduce to, and reducing divides by zero. A
filter of 2^28 bytes has more bits than an `int` can count, and what is
computed is negative, too small, or zero again. In between the filter does what
it says, and with no hashes at all it never gets to reduce anything.

## Main definitions

* `BloomFilter`: A filter, with its number of hashes.
* `bitCount`, `isBitSet`, `contains`: The methods.
* `getNumberFilter`: What a response carries.
* `position`, `HasBit`: The bits of an entity, by what they stand for.
* `LooksUp`: A lookup that does what it is for.

## Theorems

* `isBitSet_eq`: The sign of a byte makes no difference to its bits.
* `contains_eq`: What a lookup returns when the bits can be counted.
* `lookup_iff`: A lookup is right when they can, or nothing is looked up.
-/

namespace RedPhone

open Slice

/-- A filter, with the number of hashes that were set for an entity. -/
structure BloomFilter where
  byteArray : Bytes
  hashCount : Int
  deriving DecidableEq

/-- `SignalResponse`. -/
structure SignalResponse where
  statusCode : Int
  headers : List (List Nat × List Nat)
  body : Bytes
  deriving DecidableEq, Repr

/-- The directory a successful response carries, and nothing for any other. -/
def getNumberFilter (response : SignalResponse) : Option BloomFilter :=
  if response.statusCode = 200 then
    match response.headers.lookup (Text.ofString "X-Hash-Count") with
    | none => none
    | some hashCount => (Text.parseInt hashCount).map (BloomFilter.mk response.body)
  else none

namespace BloomFilter

/-- `byteArray.length * 8`, which is an `int`. -/
def bitCount (f : BloomFilter) : Int := Int.bmod (f.byteArray.length * 8) 4294967296

/-- The byte is extended to an `int` with its sign. -/
def isBitSet (f : BloomFilter) (bitIndex : Nat) : Java Bool := do
  let byte ← Java.byteAt f.byteArray (bitIndex / 8)
  let byteInQuestion : BitVec 32 := byte.toBitVec.signExtend 32
  let bitOffset : BitVec 32 := 1#32 <<< (bitIndex % 8)
  .ok (decide (0 < (byteInQuestion &&& bitOffset).toInt))

/-- The code of an entity under an index. -/
def hashValue (entity : JavaString) (i : Nat) : Bytes :=
  Sha.hmac Sha.Sha1.sha1 (ascii (toString i)) entity.getBytes

/-- The bit of a hash. The remainder has the sign of the hash, which is none. -/
def bitIndex (f : BloomFilter) (hashValue : Bytes) : Java Nat := do
  let value ← Conversions.byteArray4ToLong hashValue 0
  -- `%` by a length of nought throws.
  if f.bitCount = 0 then Java.raise .arithmetic
  else .ok (Int.tmod value f.bitCount).toNat

/-- The loop over the indices from `i` on, `n` of them. -/
def containsFrom (f : BloomFilter) (entity : JavaString) : Nat → Nat → Java Bool
  | _, 0 => .ok true
  | i, n + 1 => do
    let bitIndex ← f.bitIndex (hashValue entity i)
    let bitSet ← f.isBitSet bitIndex
    if bitSet then containsFrom f entity (i + 1) n else .ok false

def contains (f : BloomFilter) (entity : JavaString) : Java Bool :=
  f.containsFrom entity 0 f.hashCount.toNat

/-! ## What a lookup is for -/

/-- The bit of an entity under an index, among all bits of the filter. -/
def position (f : BloomFilter) (entity : JavaString) (i : Nat) : Nat :=
  Endian.ofBE (slice 0 4 (hashValue entity i)) % (8 * f.byteArray.length)

/-- A bit of the filter that is set. -/
def HasBit (f : BloomFilter) (p : Nat) : Prop :=
  ∃ byte, f.byteArray[p / 8]? = some byte ∧ byte.toNat.testBit (p % 8) = true

/-- A lookup returns, the bits are counted right if they are counted, and the
    answer is whether the filter has all bits of the entity. -/
structure LooksUp (f : BloomFilter) (entity : JavaString) : Prop where
  returns : ∃ found, f.contains entity = .ok found
  counts : 0 < f.hashCount → f.bitCount = f.byteArray.length * 8
  found : f.contains entity = .ok true
    ↔ ∀ i < f.hashCount.toNat, f.HasBit (f.position entity i)
  complete : (∀ i < f.hashCount.toNat, f.HasBit (f.position entity i)) →
    f.contains entity ≠ .ok false

/-- The bits of the filter can be counted, or nothing is looked up. -/
def Countable (f : BloomFilter) : Prop :=
  f.hashCount ≤ 0 ∨ 0 < f.byteArray.length ∧ f.byteArray.length < 2 ^ 28

/-- One bit of a byte that is extended with its sign is positive where it is
    set, because the bit is not the one for the sign. -/
theorem and_bitOffset (b : UInt8) (k : Nat) (hk : k < 8) :
    0 < (b.toBitVec.signExtend 32 &&& 1#32 <<< k).toInt ↔ b.toNat.testBit k = true := by
  -- The extension with the sign leaves the eight low bits as they are.
  have hbit : (b.toBitVec.signExtend 32).getLsbD k = b.toNat.testBit k := by
    rw [BitVec.getLsbD_signExtend, decide_eq_true (by omega), if_pos hk, Bool.true_and]
    rfl
  rw [← BitVec.twoPow_eq, BitVec.and_twoPow, hbit]
  cases b.toNat.testBit k with
  | false => exact iff_of_false (Int.lt_irrefl 0) Bool.false_ne_true
  | true =>
      -- The bit is one of the eight lowest, so its power of two is positive as an
      -- `int`.
      rw [if_pos rfl, BitVec.toInt_twoPow, if_neg (by omega), if_neg (by omega)]
      exact iff_of_true (Int.pow_pos (by omega)) rfl

/-- A bit inside the filter is looked at as it is. -/
theorem isBitSet_eq (f : BloomFilter) (p : Nat) (hp : p < 8 * f.byteArray.length) :
    ∃ bitSet, f.isBitSet p = .ok bitSet ∧ (bitSet = true ↔ f.HasBit p) := by
  have hinside : p / 8 < f.byteArray.length := by omega
  have hbyte : f.byteArray[p / 8]? = some f.byteArray[p / 8] :=
    List.getElem?_eq_getElem hinside
  have hread := (Java.byteAt_ok f.byteArray (p / 8) _).mpr hbyte
  refine ⟨_, (Java.bind_ok _ _ _).mpr ⟨_, hread, rfl⟩, ?_⟩
  rw [decide_eq_true_iff, and_bitOffset _ _ (Nat.mod_lt _ (by omega))]
  unfold HasBit
  rw [hbyte]
  simp only [Option.some.injEq, exists_eq_left']

/-- What is counted is right below 2^28 bytes. -/
theorem bitCount_eq (f : BloomFilter) (h : f.byteArray.length < 2 ^ 28) :
    f.bitCount = f.byteArray.length * 8 :=
  Int.bmod_eq_of_le (by omega) (by omega)

/-- And wrong from there on. -/
theorem bitCount_lt (f : BloomFilter) : f.bitCount < 2147483648 := by
  have h := Int.bmod_lt (x := (f.byteArray.length * 8 : Int)) (m := 4294967296) (by omega)
  unfold bitCount
  omega

theorem length_hashValue (entity : JavaString) (i : Nat) : (hashValue entity i).length = 20 :=
  Sha.Sha1.length_sha1 _

/-- A hash is reduced to its bit. -/
theorem bitIndex_eq (f : BloomFilter) (entity : JavaString) (i : Nat)
    (hpos : 0 < f.byteArray.length) (hlt : f.byteArray.length < 2 ^ 28) :
    f.bitIndex (hashValue entity i) = .ok (f.position entity i) := by
  -- A hash has twenty bytes, so its first four are always there.
  have hfield : Conversions.byteArray4ToLong (hashValue entity i) 0
      = .ok (Endian.ofBE (slice 0 4 (hashValue entity i))) := by
    unfold Conversions.byteArray4ToLong Java.arraycopy
    rw [Java.region_of_le _ _ _ _ (by rw [length_hashValue]; omega), Java.ok_bind]
  have hcount : f.bitCount = ((8 * f.byteArray.length : Nat) : Int) := by
    rw [bitCount_eq f hlt]
    omega
  unfold bitIndex position
  rw [hfield, Java.ok_bind, hcount, if_neg (by omega)]
  exact congrArg Except.ok (Int.toNat_natCast _)

/-- The loop asks for one bit after another, until one is missing. -/
theorem containsFrom_eq (f : BloomFilter) (entity : JavaString) (hpos : 0 < f.byteArray.length)
    (hlt : f.byteArray.length < 2 ^ 28) (i n : Nat) :
    ∃ found, f.containsFrom entity i n = .ok found ∧
      (found = true ↔ ∀ k < n, f.HasBit (f.position entity (i + k))) := by
  -- On the hashes that remain, since the index moves on with each.
  induction n generalizing i with
  | zero => exact ⟨true, rfl, iff_of_true rfl fun k hk => absurd hk (Nat.not_lt_zero k)⟩
  | succ n ih =>
      have hinside : f.position entity i < 8 * f.byteArray.length := Nat.mod_lt _ (by omega)
      rcases isBitSet_eq f _ hinside with ⟨bitSet, hset, hbit⟩
      have hstep : f.containsFrom entity i (n + 1)
          = if bitSet then f.containsFrom entity (i + 1) n else .ok false := by
        rw [containsFrom, bitIndex_eq f entity i hpos hlt, Java.ok_bind, hset, Java.ok_bind]
      -- The first bit is the one of this index, the others those behind it.
      have hsplit : (∀ k < n + 1, f.HasBit (f.position entity (i + k)))
          ↔ f.HasBit (f.position entity i) ∧
            ∀ k < n, f.HasBit (f.position entity (i + 1 + k)) := by
        constructor
        · intro h
          refine ⟨h 0 (by omega), fun k hk => ?_⟩
          rw [Nat.add_assoc, Nat.add_comm 1]
          exact h (k + 1) (by omega)
        · rintro ⟨h0, h⟩ k hk
          cases k with
          | zero => exact h0
          | succ k =>
              rw [Nat.add_comm k, ← Nat.add_assoc]
              exact h k (by omega)
      rw [hstep, hsplit, ← hbit]
      cases bitSet with
      | false =>
          exact ⟨false, rfl, iff_of_false Bool.false_ne_true fun h => Bool.false_ne_true h.1⟩
      | true =>
          rcases ih (i + 1) with ⟨found, hfound, hall⟩
          exact ⟨found, hfound, hall.trans ⟨fun h => ⟨rfl, h⟩, fun h => h.2⟩⟩

/-- What a lookup returns when the bits can be counted. -/
theorem contains_eq (f : BloomFilter) (entity : JavaString) (h : f.Countable) :
    ∃ found, f.contains entity = .ok found ∧
      (found = true ↔ ∀ i < f.hashCount.toNat, f.HasBit (f.position entity i)) := by
  rcases h with hnone | ⟨hpos, hlt⟩
  · -- Nothing is looked up.
    have hzero : f.hashCount.toNat = 0 := by omega
    unfold contains
    rw [hzero]
    exact ⟨true, rfl, iff_of_true rfl fun k hk => absurd hk (Nat.not_lt_zero k)⟩
  · rcases containsFrom_eq f entity hpos hlt 0 f.hashCount.toNat with ⟨found, hfound, hall⟩
    simp only [Nat.zero_add] at hall
    exact ⟨found, hfound, hall⟩

/-- Without a byte in the filter the first hash divides by zero. -/
theorem contains_empty (f : BloomFilter) (entity : JavaString) (hempty : f.byteArray.length = 0)
    (hcount : 0 < f.hashCount) : f.contains entity = .error (.unchecked .arithmetic) := by
  have hzero : f.bitCount = 0 := by
    unfold bitCount
    rw [hempty]
    rfl
  have hsucc : f.hashCount.toNat = f.hashCount.toNat - 1 + 1 := by omega
  unfold contains
  rw [hsucc, containsFrom, bitIndex, Conversions.byteArray4ToLong, Java.arraycopy,
    Java.region_of_le _ _ _ _ (by rw [length_hashValue]; omega), Java.ok_bind, Java.ok_bind,
    if_pos hzero]
  rfl

/-- For every filter, every number of hashes and every entity, a lookup is right
    exactly when the bits of the filter can be counted, or there is nothing to
    look up. -/
theorem lookup_iff (f : BloomFilter) (entity : JavaString) : f.LooksUp entity ↔ f.Countable := by
  constructor
  · intro h
    by_cases hcount : f.hashCount ≤ 0
    · exact Or.inl hcount
    -- The count is below 2^31 whatever the length, so a right one bounds the
    -- length.
    · have hright := h.counts (by omega)
      have hlt := bitCount_lt f
      refine Or.inr ⟨?_, by omega⟩
      rcases Nat.eq_zero_or_pos f.byteArray.length with hempty | hpos
      · rcases h.returns with ⟨found, hfound⟩
        rw [contains_empty f entity hempty (by omega)] at hfound
        exact nomatch hfound
      · exact hpos
  · intro h
    rcases contains_eq f entity h with ⟨found, hfound, hall⟩
    refine ⟨⟨found, hfound⟩, fun hcount => ?_, ?_, fun hbits => ?_⟩
    · rcases h with hnone | ⟨_, hlt⟩
      · omega
      · exact bitCount_eq f hlt
    · rw [hfound, Except.ok.injEq]
      exact hall
    · rw [hfound, hall.mpr hbits]
      exact fun h => nomatch h

/-- A response without a body, which is what one without a length has. -/
def emptyDirectory : SignalResponse :=
  ⟨200, [(Text.ofString "X-Hash-Count", Text.ofString "1")], []⟩

/-- Looking anyone up in it divides by zero. -/
theorem lookup_fails :
    ∃ f, getNumberFilter emptyDirectory = some f ∧
      f.contains (.ofString "+14155550101") = .error (.unchecked .arithmetic) :=
  ⟨⟨[], 1⟩, by decide +kernel, contains_empty _ _ rfl (by decide)⟩

end BloomFilter

end RedPhone
