import RedPhone.Java.Utf8

/-!
# Words and Numbers Written Out

What is put together with separators comes apart at them. Splitting drops empty
parts only at the end, so as long as the last part is not empty every part
comes back, the empty ones too. A number written in decimal is read as itself.

## Main definitions

* `written`: What a character is on the wire.

## Theorems

* `partsAt_append`, `split_three`: Words between spaces.
* `splitAt_two`: A name and a value.
* `parseInt_decimal`: A number that is written out.
* `decodeUtf8_written`: What is read of any string.
* `mem_encodeUtf8`: Where a byte of ASCII comes from.
-/

namespace RedPhone

namespace Text

/-! ## Words -/

/-- The first part is what stands before the first separator. -/
theorem partsAt_append (separator : Nat) (a s : List Nat) (ha : separator ∉ a) :
    partsAt separator (a ++ separator :: s) = a :: partsAt separator s := by
  induction a with
  | nil => rw [List.nil_append, partsAt, if_pos rfl]
  | cons c a ih =>
      rw [List.mem_cons, not_or] at ha
      rw [List.cons_append, partsAt, if_neg (fun h => ha.1 h.symm), ih ha.2]

theorem partsAt_last (separator : Nat) (a : List Nat) (ha : separator ∉ a) :
    partsAt separator a = [a] := by
  induction a with
  | nil => rfl
  | cons c a ih =>
      rw [List.mem_cons, not_or] at ha
      rw [partsAt, if_neg (fun h => ha.1 h.symm), ih ha.2]

/-- Splitting at spaces is splitting at a separator. -/
theorem split_eq_splitAt (s : List Nat) : split s = splitAt 0x20 s := by
  have hparts : ∀ s, parts s = partsAt 0x20 s := by
    intro s
    induction s with
    | nil => rfl
    | cons c s ih => rw [parts, partsAt, ih]
  unfold split splitAt
  rw [hparts]

/-- Nothing is dropped from parts that end with one that is not empty. -/
theorem dropEmpty_concat (ps : List (List Nat)) (last : List Nat) (hlast : last ≠ []) :
    ((ps ++ [last]).reverse.dropWhile List.isEmpty).reverse = ps ++ [last] := by
  have hfull : last.isEmpty = false := by
    rw [List.isEmpty_eq_false_iff]
    exact hlast
  rw [List.reverse_append, List.reverse_singleton, List.singleton_append, List.dropWhile_cons,
    hfull]
  simp only [Bool.false_eq_true, if_false, List.reverse_cons, List.reverse_reverse]

/-- A name and a value. -/
theorem splitAt_two (separator : Nat) (a b : List Nat) (ha : separator ∉ a) (hb : separator ∉ b)
    (hne : b ≠ []) : splitAt separator (a ++ separator :: b) = [a, b] := by
  unfold splitAt
  rw [if_pos (List.mem_append_right a List.mem_cons_self), partsAt_append separator a b ha,
    partsAt_last separator b hb]
  exact dropEmpty_concat [a] b hne

/-- Three words. -/
theorem split_three (a b c : List Nat) (ha : 0x20 ∉ a) (hb : 0x20 ∉ b) (hc : 0x20 ∉ c)
    (hne : c ≠ []) : split (a ++ 0x20 :: (b ++ 0x20 :: c)) = [a, b, c] := by
  rw [split_eq_splitAt]
  unfold splitAt
  rw [if_pos (List.mem_append_right a List.mem_cons_self), partsAt_append _ a _ ha,
    partsAt_append _ b _ hb, partsAt_last _ c hc]
  exact dropEmpty_concat [a, b] c hne

/-- Nothing is trimmed of a text of visible characters. -/
theorem trim_visible (s : List Nat) (h : ∀ c ∈ s, 0x20 < c) : trim s = s := by
  have hkeep : ∀ s : List Nat, (∀ c ∈ s, 0x20 < c) → s.dropWhile (· ≤ 0x20) = s := by
    intro s h
    cases s with
    | nil => rfl
    | cons c s =>
        have hc := h c List.mem_cons_self
        rw [List.dropWhile_cons, if_neg (by simpa using hc)]
  unfold trim
  rw [hkeep s h, hkeep s.reverse (fun c hc => h c (List.mem_reverse.mp hc)), List.reverse_reverse]

/-- A space in front is trimmed. -/
theorem trim_space (s : List Nat) : trim (0x20 :: s) = trim s := rfl

/-! ## Numbers -/

/-- The characters of a number. -/
def decimal (n : Nat) : List Nat := (Nat.toDigits 10 n).map Char.toNat

theorem decimal_of_lt {n : Nat} (h : n < 10) : decimal n = [0x30 + n] := by
  have hdigit : ∀ d : Fin 10, (Nat.digitChar d).toNat = 0x30 + d := by decide
  unfold decimal
  rw [Nat.toDigits_of_lt_base h, List.map_singleton]
  exact congrArg (fun c => [c]) (hdigit ⟨n, h⟩)

theorem decimal_of_le {n : Nat} (h : 10 ≤ n) :
    decimal n = decimal (n / 10) ++ [0x30 + n % 10] := by
  unfold decimal
  rw [Nat.toDigits_of_base_le (by omega) h, List.map_append, List.map_singleton]
  have hdigit : ∀ d : Fin 10, (Nat.digitChar d).toNat = 0x30 + d := by decide
  exact congrArg (fun c => _ ++ [c]) (hdigit ⟨n % 10, Nat.mod_lt _ (by omega)⟩)

theorem digit_decimal (d : Nat) (h : d < 10) : digit (0x30 + d) = some d := by
  have hdigit : ∀ d : Fin 10, digit (0x30 + d) = some (d : Nat) := by decide
  exact hdigit ⟨d, h⟩

/-- Digits are visible characters. -/
theorem mem_decimal (n : Nat) : ∀ c ∈ decimal n, 0x30 ≤ c ∧ c < 0x3a := by
  induction n using Nat.strongRecOn with
  | ind n ih =>
      by_cases h : n < 10
      · rw [decimal_of_lt h]
        intro c hc
        rw [List.mem_singleton] at hc
        omega
      · rw [decimal_of_le (by omega)]
        intro c hc
        rcases List.mem_append.mp hc with hc | hc
        · exact ih (n / 10) (by omega) c hc
        · rw [List.mem_singleton] at hc
          omega

theorem decimal_ne_nil (n : Nat) : decimal n ≠ [] := by
  unfold decimal
  rw [ne_eq, List.map_eq_nil_iff]
  exact Nat.toDigits_ne_nil

/-- The digits of a number add up to it. -/
theorem digits_decimal (n : Nat) : digits (decimal n) = some n := by
  unfold digits
  rw [if_neg (decimal_ne_nil n)]
  induction n using Nat.strongRecOn with
  | ind n ih =>
      by_cases h : n < 10
      · rw [decimal_of_lt h, List.foldl_cons, List.foldl_nil, digit_decimal n h]
        simp only [Option.bind_some, Option.map_some, Nat.zero_mul, Nat.zero_add]
      · rw [decimal_of_le (by omega), List.foldl_append, ih (n / 10) (by omega), List.foldl_cons,
          List.foldl_nil, digit_decimal _ (Nat.mod_lt _ (by omega))]
        simp only [Option.bind_some, Option.map_some, Option.some.injEq]
        omega

/-- A number that is written out is read as itself. -/
theorem parseInt_decimal (n : Nat) (h : n < 2147483648) :
    parseInt (decimal n) = some (n : Int) := by
  have hdigits := digits_decimal n
  have hmem := mem_decimal n
  generalize decimal n = s at hdigits hmem
  unfold parseInt
  split
  · exact absurd (hmem 0x2d List.mem_cons_self) (by decide)
  · exact absurd (hmem 0x2b List.mem_cons_self) (by decide)
  · rw [hdigits, Option.bind_some, if_pos h]

end Text

/-! ## Characters on the wire -/

namespace JavaString

/-- What is read of a character: a surrogate comes back as a question mark. -/
def written (c : Nat) : Nat := if 0xd800 ≤ c ∧ c < 0xe000 then 0x3f else c

theorem encodeUtf8_written (c : Nat) : encodeUtf8 (written c) = encodeUtf8 c := by
  unfold written
  by_cases h : 0xd800 ≤ c ∧ c < 0xe000
  · rw [if_pos h]
    unfold encodeUtf8
    rw [if_pos (by omega), if_neg (by omega), if_neg (by omega), if_pos h]
    rfl
  · rw [if_neg h]

theorem isScalar_written (c : Nat) (h : c < 0x110000) : IsScalar (written c) := by
  unfold written IsScalar
  split_ifs <;> omega

theorem written_eq_iff (c : Nat) (h : c < 0x110000) : written c = c ↔ IsScalar c := by
  unfold written IsScalar
  split_ifs <;> omega

/-- Every character of a string is a code point. -/
theorem codePoints_lt (s : JavaString) : ∀ c ∈ codePoints s, c < 0x110000 := by
  have hunit : ∀ u : UInt16, u.toNat < 0x110000 := by
    intro u
    have h := u.toNat_lt
    omega
  induction s using codePoints.induct with
  | case1 => exact fun c hc => absurd hc List.not_mem_nil
  | case2 u =>
      intro c hc
      rw [List.mem_singleton.mp hc]
      exact hunit u
  | case3 u v s hpair ih =>
      rw [codePoints_pair hpair]
      exact List.forall_mem_cons.mpr ⟨(toCodePoint_bounds hpair).2, ih⟩
  | case4 u v s hpair ih =>
      rw [codePoints_single hpair]
      exact List.forall_mem_cons.mpr ⟨hunit u, ih⟩

/-- What is read of any list of characters. -/
theorem decodeUtf8_written (cs : List Nat) (h : ∀ c ∈ cs, c < 0x110000) :
    Text.decodeUtf8 (cs.flatMap encodeUtf8) = cs.map written := by
  have hbytes : cs.flatMap encodeUtf8 = (cs.map written).flatMap encodeUtf8 := by
    rw [List.flatMap_map]
    simp only [encodeUtf8_written]
  rw [hbytes]
  refine decodeUtf8_flatMap _ (fun c hc => ?_)
  rcases List.mem_map.mp hc with ⟨d, hd, rfl⟩
  exact isScalar_written d (h d hd)

/-- A character that is no surrogate keeps what stands around it apart. -/
theorem codePoints_append_cons (s t : JavaString) (u : UInt16) (hu : u.toNat < 0xd800) :
    codePoints (s ++ u :: t) = codePoints s ++ u.toNat :: codePoints t := by
  have hlow : isLowSurrogate u = false := by
    unfold isLowSurrogate
    rw [decide_eq_false_iff_not]
    omega
  induction s using codePoints.induct with
  | case1 => exact codePoints_cons hu t
  | case2 v =>
      have hsingle : ¬ (isHighSurrogate v && isLowSurrogate u) = true := by
        rw [hlow, Bool.and_false]
        exact Bool.false_ne_true
      rw [List.singleton_append, codePoints_single hsingle, codePoints_cons hu]
      rfl
  | case3 v w s hpair ih =>
      rw [List.cons_append, List.cons_append, codePoints_pair hpair, codePoints_pair hpair, ih]
      rfl
  | case4 v w s hpair ih =>
      rw [List.cons_append] at ih
      rw [List.cons_append, List.cons_append, codePoints_single hpair, codePoints_single hpair, ih]
      rfl

/-- A byte below 0x80 is a character by itself, wherever it stands. -/
theorem mem_encodeUtf8 (c : Nat) (h : c < 0x110000) (b : UInt8) (hb : b ∈ encodeUtf8 c)
    (hascii : b.toNat < 0x80) : b.toNat = written c := by
  rw [← encodeUtf8_written] at hb
  have hscalar := isScalar_written c h
  generalize written c = d at hb hscalar
  have hlead : ∀ n, n < 256 → (UInt8.ofNat n).toNat = n := by
    intro n hn
    rw [UInt8.toNat_ofNat']
    omega
  unfold encodeUtf8 at hb
  unfold IsScalar at hscalar
  split_ifs at hb with h1 h2 h3 h4
  · rw [List.mem_singleton] at hb
    rw [hb, hlead d (by omega)]
  · simp only [List.mem_cons, List.not_mem_nil, or_false] at hb
    rcases hb with rfl | rfl <;> rw [hlead _ (by omega)] at hascii <;> omega
  · omega
  · simp only [List.mem_cons, List.not_mem_nil, or_false] at hb
    rcases hb with rfl | rfl | rfl <;> rw [hlead _ (by omega)] at hascii <;> omega
  · simp only [List.mem_cons, List.not_mem_nil, or_false] at hb
    rcases hb with rfl | rfl | rfl | rfl <;> rw [hlead _ (by omega)] at hascii <;> omega

end JavaString

end RedPhone
