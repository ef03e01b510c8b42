import RedPhone.Java.Text

/-!
# Strings and Their Bytes

A string of the runtime is a list of units of sixteen bits, and that is what
`length` counts. What goes over a connection are the bytes of its characters in
UTF-8. A character above the units is a pair of surrogates, and a surrogate
without its other half is no character: it is written as a question mark.

So a string has as many bytes as units only if each of its characters has as
many, which is the case for ASCII and for such question marks. Every other
character has more bytes than units.

## Main definitions

* `JavaString`: A string, by its units.
* `codePoints`: The characters of a string.
* `encodeUtf8`: The bytes of a character.
* `getBytes`: The bytes of a string.
* `IsScalar`: A code point that is no surrogate.
* `OneByte`: A character that has as many bytes as units.

## Theorems

* `decodeUtf8_encodeUtf8`: A character comes back from its bytes.
* `decodeUtf8_flatMap`: So does a list of characters.
* `length_getBytes`: A string has no more units than bytes, and when it has as
  many.
-/

namespace RedPhone

/-- A string, by its units of sixteen bits. -/
abbrev JavaString := List UInt16

-- What holds of everything in a string is decided along the string, not over
-- all the units there are.
instance decidableForallMem {α : Type} (s : List α) (p : α → Prop) [DecidablePred p] :
    Decidable (∀ u ∈ s, p u) :=
  List.decidableBAll p s

namespace JavaString

/-- The first half of a pair of surrogates. -/
def isHighSurrogate (u : UInt16) : Bool := 0xd800 ≤ u.toNat ∧ u.toNat < 0xdc00

/-- The second half. -/
def isLowSurrogate (u : UInt16) : Bool := 0xdc00 ≤ u.toNat ∧ u.toNat < 0xe000

/-- The character of a pair of surrogates. -/
def toCodePoint (high low : UInt16) : Nat :=
  (high.toNat - 0xd800) * 1024 + (low.toNat - 0xdc00) + 0x10000

/-- The characters of a string, with a surrogate that is alone for itself. -/
def codePoints : JavaString → List Nat
  | [] => []
  | [u] => [u.toNat]
  | u :: v :: s =>
    if isHighSurrogate u && isLowSurrogate v then toCodePoint u v :: codePoints s
    else u.toNat :: codePoints (v :: s)

/-- The bytes of a character. A surrogate is written as a question mark. -/
def encodeUtf8 (c : Nat) : Bytes :=
  if c < 0x80 then [UInt8.ofNat c]
  else if c < 0x800 then [UInt8.ofNat (0xc0 + c / 64), UInt8.ofNat (0x80 + c % 64)]
  else if 0xd800 ≤ c ∧ c < 0xe000 then [0x3f]
  else if c < 0x10000 then
    [UInt8.ofNat (0xe0 + c / 4096), UInt8.ofNat (0x80 + c / 64 % 64), UInt8.ofNat (0x80 + c % 64)]
  else
    [UInt8.ofNat (0xf0 + c / 262144), UInt8.ofNat (0x80 + c / 4096 % 64),
      UInt8.ofNat (0x80 + c / 64 % 64), UInt8.ofNat (0x80 + c % 64)]

/-- `s.getBytes()`. -/
def getBytes (s : JavaString) : Bytes := (codePoints s).flatMap encodeUtf8

/-- The string of a literal in ASCII. -/
def ofString (s : String) : JavaString := s.toList.map fun c => UInt16.ofNat c.toNat

/-- A code point that is no surrogate. -/
def IsScalar (c : Nat) : Prop := c < 0xd800 ∨ 0xe000 ≤ c ∧ c < 0x110000

instance (c : Nat) : Decidable (IsScalar c) := inferInstanceAs (Decidable (_ ∨ _))

/-- A character that has as many bytes as units: ASCII, or a surrogate. -/
def OneByte (c : Nat) : Prop := c < 0x80 ∨ 0xd800 ≤ c ∧ c < 0xe000

instance (c : Nat) : Decidable (OneByte c) := inferInstanceAs (Decidable (_ ∨ _))

/-! ## The characters of a string -/

theorem codePoints_pair {u v : UInt16} {s : JavaString}
    (h : isHighSurrogate u && isLowSurrogate v) :
    codePoints (u :: v :: s) = toCodePoint u v :: codePoints s := by
  rw [codePoints, if_pos h]

theorem codePoints_single {u v : UInt16} {s : JavaString}
    (h : ¬ (isHighSurrogate u && isLowSurrogate v)) :
    codePoints (u :: v :: s) = u.toNat :: codePoints (v :: s) := by
  rw [codePoints, if_neg h]

/-- A pair of surrogates stands for a character above the units. -/
theorem toCodePoint_bounds {u v : UInt16} (h : isHighSurrogate u && isLowSurrogate v) :
    0x10000 ≤ toCodePoint u v ∧ toCodePoint u v < 0x110000 := by
  simp only [isHighSurrogate, isLowSurrogate, Bool.and_eq_true, decide_eq_true_eq] at h
  unfold toCodePoint
  omega

/-- A unit that is no surrogate is a character by itself. -/
theorem codePoints_cons {u : UInt16} (hu : u.toNat < 0xd800) (s : JavaString) :
    codePoints (u :: s) = u.toNat :: codePoints s := by
  cases s with
  | nil => rfl
  | cons v s =>
      refine codePoints_single ?_
      simp only [isHighSurrogate, Bool.and_eq_true, decide_eq_true_eq]
      omega

/-! ## Bytes -/

theorem continuation_ofNat (n : Nat) (h : n < 64) :
    Text.continuation (UInt8.ofNat (0x80 + n)) = some n := by
  have hvalue : (UInt8.ofNat (0x80 + n)).toNat = 0x80 + n := by
    rw [UInt8.toNat_ofNat']
    omega
  unfold Text.continuation
  rw [hvalue, if_pos (by omega)]
  exact congrArg some (by omega)

/-- A character comes back from its bytes. -/
theorem decodeUtf8_encodeUtf8 (c : Nat) (h : IsScalar c) (rest : Bytes) :
    Text.decodeUtf8 (encodeUtf8 c ++ rest) = c :: Text.decodeUtf8 rest := by
  have hlead : ∀ n, n < 256 → (UInt8.ofNat n).toNat = n := by
    intro n hn
    rw [UInt8.toNat_ofNat']
    omega
  unfold encodeUtf8
  by_cases h1 : c < 0x80
  · rw [if_pos h1, List.singleton_append, Text.decodeUtf8.eq_def]
    simp only []
    rw [hlead c (by omega), if_pos h1]
  rw [if_neg h1]
  by_cases h2 : c < 0x800
  · rw [if_pos h2, List.cons_append, List.singleton_append, Text.decodeUtf8,
      hlead _ (by omega), if_neg (by omega)]
    simp only []
    rw [continuation_ofNat _ (Nat.mod_lt _ (by omega))]
    simp only []
    rw [if_pos (by omega)]
    exact congrArg (· :: _) (by omega)
  rw [if_neg h2]
  by_cases h3 : 0xd800 ≤ c ∧ c < 0xe000
  · -- A surrogate is the one thing that does not come back.
    unfold IsScalar at h
    omega
  rw [if_neg h3]
  by_cases h4 : c < 0x10000
  · rw [if_pos h4, List.cons_append, List.cons_append, List.singleton_append, Text.decodeUtf8,
      hlead _ (by omega), if_neg (by omega)]
    simp only []
    rw [continuation_ofNat _ (Nat.mod_lt _ (by omega))]
    simp only []
    rw [if_neg (by omega), continuation_ofNat _ (Nat.mod_lt _ (by omega))]
    simp only []
    rw [if_pos (by omega)]
    exact congrArg (· :: _) (by omega)
  · rw [if_neg h4, List.cons_append, List.cons_append, List.cons_append, List.singleton_append,
      Text.decodeUtf8, hlead _ (by unfold IsScalar at h; omega), if_neg (by omega)]
    simp only []
    rw [continuation_ofNat _ (Nat.mod_lt _ (by omega))]
    simp only []
    rw [if_neg (by omega), continuation_ofNat _ (Nat.mod_lt _ (by omega))]
    simp only []
    rw [if_neg (by omega), continuation_ofNat _ (Nat.mod_lt _ (by omega))]
    simp only []
    unfold IsScalar at h
    rw [if_pos (by omega)]
    exact congrArg (· :: _) (by omega)

/-- A list of characters comes back from its bytes. -/
theorem decodeUtf8_flatMap (cs : List Nat) (h : ∀ c ∈ cs, IsScalar c) :
    Text.decodeUtf8 (cs.flatMap encodeUtf8) = cs := by
  induction cs with
  | nil => rw [List.flatMap_nil, Text.decodeUtf8]
  | cons c cs ih =>
      rw [List.flatMap_cons, decodeUtf8_encodeUtf8 c (h c List.mem_cons_self),
        ih (fun d hd => h d (List.mem_cons_of_mem c hd))]

theorem length_encodeUtf8_pos (c : Nat) : 0 < (encodeUtf8 c).length := by
  unfold encodeUtf8
  split_ifs <;> exact Nat.succ_pos _

/-- A unit has as many bytes only where it is one byte. -/
theorem length_encodeUtf8_eq_one (c : Nat) : (encodeUtf8 c).length = 1 ↔ OneByte c := by
  unfold encodeUtf8 OneByte
  split_ifs <;> simp only [List.length_cons, List.length_nil, true_iff, Nat.reduceAdd,
    Nat.reduceEqDiff, false_iff] <;> omega

/-- A pair of surrogates has more. -/
theorem two_lt_length_encodeUtf8 {u v : UInt16} (h : isHighSurrogate u && isLowSurrogate v) :
    2 < (encodeUtf8 (toCodePoint u v)).length := by
  have hbounds := toCodePoint_bounds h
  unfold encodeUtf8
  rw [if_neg (by omega), if_neg (by omega), if_neg (by omega), if_neg (by omega)]
  change 2 < 4
  omega

/-- A string has no more units than bytes, and as many only if each of its
    characters has. -/
theorem length_getBytes (s : JavaString) :
    s.length ≤ (getBytes s).length ∧
      ((getBytes s).length = s.length ↔ ∀ c ∈ codePoints s, OneByte c) := by
  unfold getBytes
  induction s using codePoints.induct with
  | case1 => simp [codePoints]
  | case2 u =>
      have hpos := length_encodeUtf8_pos u.toNat
      have hone := length_encodeUtf8_eq_one u.toNat
      simp only [codePoints, List.flatMap_cons, List.flatMap_nil, List.append_nil,
        List.length_singleton, List.forall_mem_singleton]
      exact ⟨hpos, hone⟩
  | case3 u v s hpair ih =>
      rw [codePoints_pair hpair, List.flatMap_cons, List.length_append]
      -- A character of two units has four bytes.
      have hlong := two_lt_length_encodeUtf8 hpair
      have hbounds := toCodePoint_bounds hpair
      simp only [List.length_cons]
      refine ⟨by omega, ?_⟩
      constructor
      · intro h
        omega
      · intro h
        have hone := h _ List.mem_cons_self
        unfold OneByte at hone
        omega
  | case4 u v s hpair ih =>
      rw [codePoints_single hpair, List.flatMap_cons, List.length_append]
      have hpos := length_encodeUtf8_pos u.toNat
      have hone := length_encodeUtf8_eq_one u.toNat
      simp only [List.length_cons, List.forall_mem_cons] at ih ⊢
      refine ⟨by omega, ?_⟩
      rw [← ih.2, ← hone]
      omega

end JavaString

end RedPhone
