import Mathlib.Data.List.Induction
import RedPhone.Java.Exception

/-!
# Base64 Columns

The encoding under which the retained-secret cache stores ZIDs and secrets.
A column's text is kept here as its US-ASCII bytes, which is what `decode`
starts from.

Decoding is more than the inverse of encoding. It skips white space, stops at
padding, and inflates whatever it decoded if that happens to begin with the
gzip magic. A retained secret is a key-derivation output and can begin with
any two bytes, so what the cache hands back for a stored secret is
`inflate` of it rather than the secret itself. `decode_encodeBytes` is that
statement, and since it never fails, a column this module wrote never takes
the `IOException` path of its reader.

Text from elsewhere can do worse than that. It can be too short for a single
group, and the table of characters ends one short of the last one.

## Main definitions

* `encode3to4`: Up to three bytes as four characters.
* `encodeBytes`: A byte array as Base64 text.
* `decode4to3`: Four characters as up to three bytes.
* `decodeLoop`: The decoder's loop over its input.
* `decodeBytes`: Base64 text as a byte array, without the gzip check.
* `inflate`: The gzip check that ends `decode`.
* `decode`: Base64 text as a byte array.
* `Undecodable`: The text for which it throws what it does not declare.

## Theorems

* `decodeLoop_quartet`: The loop consumes one encoded group.
* `decodeLoop_encodeBytes`: The loop undoes the encoder.
* `mem_encodeBytes`: The characters of the text.
* `decode_encodeBytes`: Decoding what was encoded never fails.
* `decodeLoop_unchecked`: Where the loop reads outside its table.
* `decode_ends`: How decoding ends, for any text.
-/

namespace RedPhone

abbrev Bytes := List UInt8

namespace Base64

def EQUALS_SIGN : UInt8 := 61
def WHITE_SPACE_ENC : Int := -5
def EQUALS_SIGN_ENC : Int := -1

def STANDARD_ALPHABET : List UInt8 :=
  [65, 66, 67, 68, 69, 70, 71, 72, 73, 74, 75, 76, 77, 78, 79, 80, 81, 82, 83, 84, 85, 86, 87,
   88, 89, 90, 97, 98, 99, 100, 101, 102, 103, 104, 105, 106, 107, 108, 109, 110, 111, 112, 113,
   114, 115, 116, 117, 118, 119, 120, 121, 122, 48, 49, 50, 51, 52, 53, 54, 55, 56, 57, 43, 47]

def STANDARD_DECODABET : List Int :=
  [-9, -9, -9, -9, -9, -9, -9, -9, -9, -5, -5, -9, -9, -5,
   -9, -9, -9, -9, -9, -9, -9, -9, -9, -9, -9, -9, -9, -9, -9, -9, -9, -9, -5,
   -9, -9, -9, -9, -9, -9, -9, -9, -9, -9, 62, -9, -9, -9, 63,
   52, 53, 54, 55, 56, 57, 58, 59, 60, 61, -9, -9, -9, -1, -9, -9, -9,
   0, 1, 2, 3, 4, 5, 6, 7, 8, 9, 10, 11, 12, 13, 14, 15, 16, 17, 18, 19, 20, 21, 22, 23, 24, 25,
   -9, -9, -9, -9, -9, -9,
   26, 27, 28, 29, 30, 31, 32, 33, 34, 35, 36, 37, 38, 39, 40, 41, 42, 43, 44, 45, 46, 47, 48, 49,
   50, 51, -9, -9, -9, -9]

/-- `ALPHABET[v]`. -/
def alphabet (v : Nat) : UInt8 :=
  STANDARD_ALPHABET.getD v 0

/-- `DECODABET[c] & 0xFF`. -/
def decodabet (c : UInt8) : Nat :=
  (STANDARD_DECODABET.getD c.toNat 0 % 256).toNat

/-- Up to three bytes as four characters, padded with equals signs. -/
def encode3to4 : Bytes → Bytes
  | [a, b, c] =>
    let inBuff := a.toNat * 65536 + b.toNat * 256 + c.toNat
    [alphabet (inBuff / 262144), alphabet (inBuff / 4096 % 64), alphabet (inBuff / 64 % 64),
      alphabet (inBuff % 64)]
  | [a, b] =>
    let inBuff := a.toNat * 65536 + b.toNat * 256
    [alphabet (inBuff / 262144), alphabet (inBuff / 4096 % 64), alphabet (inBuff / 64 % 64),
      EQUALS_SIGN]
  | [a] =>
    let inBuff := a.toNat * 65536
    [alphabet (inBuff / 262144), alphabet (inBuff / 4096 % 64), EQUALS_SIGN, EQUALS_SIGN]
  | _ => []

/-- The encoder's loop: whole groups of three, then the remainder. -/
def encodeBytes : Bytes → Bytes
  | a :: b :: c :: source => encode3to4 [a, b, c] ++ encodeBytes source
  | source => encode3to4 source

/-- Four characters as the one, two or three bytes they stand for. -/
def decode4to3 (b4 : Bytes) : Bytes :=
  let d := fun i => decodabet (b4.getD i 0)
  -- Padding in the third place leaves one byte, and in the fourth two.
  if b4.getD 2 0 = EQUALS_SIGN then
    [UInt8.ofNat ((d 0 * 262144 ||| d 1 * 4096) / 65536)]
  else if b4.getD 3 0 = EQUALS_SIGN then
    let outBuff := d 0 * 262144 ||| d 1 * 4096 ||| d 2 * 64
    [UInt8.ofNat (outBuff / 65536), UInt8.ofNat (outBuff / 256)]
  else
    let outBuff := d 0 * 262144 ||| d 1 * 4096 ||| d 2 * 64 ||| d 3
    [UInt8.ofNat (outBuff / 65536), UInt8.ofNat (outBuff / 256), UInt8.ofNat outBuff]

/-- The message for a character that is not in the alphabet. -/
def badCharacter (c : UInt8) (i : Nat) : String :=
  "Bad Base64 input character '" ++ String.singleton (Char.ofNat c.toNat) ++
    "' in array position " ++ toString i

/-- The decoder's loop over so many characters, with its four-character buffer
    and its output. The characters are those of a string in ASCII, so each is
    one that `%c` can show. -/
def decodeLoop (len : Nat) : Bytes → Bytes → Bytes → Java Bytes
  | [], _, out => .ok out
  | c :: source, b4, out =>
    -- The top bit is dropped before the table is asked.
    let sbiCrop := c &&& 0x7f
    match STANDARD_DECODABET[sbiCrop.toNat]? with
    | none => Java.raise .arrayIndexOutOfBounds
    | some sbiDecode =>
      if WHITE_SPACE_ENC ≤ sbiDecode then
        if EQUALS_SIGN_ENC ≤ sbiDecode then
          if 3 < (b4 ++ [sbiCrop]).length then
            -- A quartet is complete; padding in its last place ends the input.
            if sbiCrop = EQUALS_SIGN then .ok (out ++ decode4to3 (b4 ++ [sbiCrop]))
            else decodeLoop len source [] (out ++ decode4to3 (b4 ++ [sbiCrop]))
          else decodeLoop len source (b4 ++ [sbiCrop]) out
        else decodeLoop len source b4 out
      else .error (.io (badCharacter c (len - (c :: source).length)))

def decodeBytes (source : Bytes) : Java Bytes :=
  if source.length = 0 then .ok []
  else if source.length < 4 then Java.raise .illegalArgument
  else decodeLoop source.length source [] []

/-- The gzip check: bytes that begin with the magic number are inflated, and
    kept as they are when that fails. -/
def inflate (gunzip : Bytes → Option Bytes) (bytes : Bytes) : Bytes :=
  if 4 ≤ bytes.length ∧ bytes.take 2 = [0x1f, 0x8b] then (gunzip bytes).getD bytes else bytes

def decode (gunzip : Bytes → Option Bytes) (s : Bytes) : Java Bytes := do
  let bytes ← decodeBytes s
  .ok (inflate gunzip bytes)

/-- A character the loop keeps: seven bits, in the alphabet or padding. -/
def Kept (c : UInt8) : Prop :=
  c &&& 0x7f = c ∧ ∃ d, STANDARD_DECODABET[c.toNat]? = some d ∧ EQUALS_SIGN_ENC ≤ d

theorem kept_alphabet (v : Nat) (hv : v < 64) : Kept (alphabet v) := by
  -- Sixty-four cases, each a look at the two tables.
  have h : ∀ w : Fin 64, alphabet w &&& 0x7f = alphabet w ∧
      STANDARD_DECODABET[(alphabet w).toNat]? = some (w : Int) := by decide
  refine ⟨(h ⟨v, hv⟩).1, v, (h ⟨v, hv⟩).2, ?_⟩
  unfold EQUALS_SIGN_ENC
  omega

theorem kept_equals : Kept EQUALS_SIGN :=
  ⟨by decide, -1, by decide, by decide⟩

theorem decodabet_alphabet (v : Nat) (hv : v < 64) : decodabet (alphabet v) = v := by
  have h : ∀ w : Fin 64, decodabet (alphabet w) = w := by decide
  exact h ⟨v, hv⟩

theorem alphabet_ne_equals (v : Nat) (hv : v < 64) : alphabet v ≠ EQUALS_SIGN := by
  have h : ∀ w : Fin 64, alphabet w ≠ EQUALS_SIGN := by decide
  exact h ⟨v, hv⟩

variable {len : Nat}

/-- A kept character that does not fill the buffer is buffered. -/
theorem decodeLoop_buffer (c : UInt8) (source b4 out : Bytes) (hc : Kept c)
    (hb : b4.length < 3) :
    decodeLoop len (c :: source) b4 out = decodeLoop len source (b4 ++ [c]) out := by
  rcases hc with ⟨hmask, d, hd, hle⟩
  -- What may be part of a group is also above the mark for white space.
  have hws : WHITE_SPACE_ENC ≤ d := by
    unfold WHITE_SPACE_ENC
    unfold EQUALS_SIGN_ENC at hle
    omega
  have hlen : ¬ 3 < (b4 ++ [c]).length := by
    rw [List.length_append, List.length_singleton]
    omega
  simp only [decodeLoop, hmask, hd, if_pos hws, if_pos hle, if_neg hlen]

/-- A kept character that fills the buffer flushes it. -/
theorem decodeLoop_flush (c : UInt8) (source b4 out : Bytes) (hc : Kept c)
    (hb : b4.length = 3) :
    decodeLoop len (c :: source) b4 out
      = if c = EQUALS_SIGN then .ok (out ++ decode4to3 (b4 ++ [c]))
        else decodeLoop len source [] (out ++ decode4to3 (b4 ++ [c])) := by
  rcases hc with ⟨hmask, d, hd, hle⟩
  have hws : WHITE_SPACE_ENC ≤ d := by
    unfold WHITE_SPACE_ENC
    unfold EQUALS_SIGN_ENC at hle
    omega
  have hlen : 3 < (b4 ++ [c]).length := by
    rw [List.length_append, List.length_singleton]
    omega
  simp only [decodeLoop, hmask, hd, if_pos hws, if_pos hle, if_pos hlen]

/-- The loop consumes one encoded group. -/
theorem decodeLoop_quartet (c0 c1 c2 c3 : UInt8) (source out : Bytes)
    (h0 : Kept c0) (h1 : Kept c1) (h2 : Kept c2) (h3 : Kept c3) :
    decodeLoop len (c0 :: c1 :: c2 :: c3 :: source) [] out
      = if c3 = EQUALS_SIGN then .ok (out ++ decode4to3 [c0, c1, c2, c3])
        else decodeLoop len source [] (out ++ decode4to3 [c0, c1, c2, c3]) := by
  have hlen0 : ([] : Bytes).length < 3 := Nat.succ_pos 2
  have hlen1 : [c0].length < 3 := Nat.succ_lt_succ (Nat.succ_pos 1)
  have hlen2 : [c0, c1].length < 3 := Nat.lt_succ_self 2
  rw [decodeLoop_buffer c0 _ _ _ h0 hlen0, List.nil_append, decodeLoop_buffer c1 _ _ _ h1 hlen1,
    List.singleton_append, decodeLoop_buffer c2 _ _ _ h2 hlen2, decodeLoop_flush c3 _ _ _ h3 rfl]
  rfl

/-- Sextets laid side by side add up. -/
theorem sextets_or (d0 d1 d2 d3 : Nat) (h1 : d1 < 64) (h2 : d2 < 64) (h3 : d3 < 64) :
    d0 * 262144 ||| d1 * 4096 ||| d2 * 64 ||| d3
      = d0 * 262144 + d1 * 4096 + d2 * 64 + d3 := by
  -- Each sextet lies below the lowest bit of those before it.
  have e1 := Nat.two_pow_add_eq_or_of_lt (show d1 * 4096 < 2 ^ 18 by omega) d0
  have e2 := Nat.two_pow_add_eq_or_of_lt (show d2 * 64 < 2 ^ 12 by omega) (d0 * 64 + d1)
  have e3 := Nat.two_pow_add_eq_or_of_lt (show d3 < 2 ^ 6 by omega) (d0 * 4096 + d1 * 64 + d2)
  rw [show d0 * 262144 = 2 ^ 18 * d0 by omega, ← e1,
    show 2 ^ 18 * d0 + d1 * 4096 = 2 ^ 12 * (d0 * 64 + d1) by omega, ← e2,
    show 2 ^ 12 * (d0 * 64 + d1) + d2 * 64 = 2 ^ 6 * (d0 * 4096 + d1 * 64 + d2) by omega, ← e3]

/-- A byte is recovered from any number congruent to it. -/
theorem ofNat_eq_of_mod (n : Nat) (b : UInt8) (h : n % 256 = b.toNat) : UInt8.ofNat n = b := by
  apply UInt8.toNat.inj
  rw [UInt8.toNat_ofNat']
  exact h

theorem decodeLoop_encode3to4 (a b c : UInt8) (source out : Bytes) :
    decodeLoop len (encode3to4 [a, b, c] ++ source) [] out
      = decodeLoop len source [] (out ++ [a, b, c]) := by
  have ha := a.toNat_lt
  have hb := b.toNat_lt
  have hc := c.toNat_lt
  simp only [encode3to4, List.cons_append, List.nil_append]
  -- The group as one number of 24 bits, of which each character takes six.
  generalize hin : a.toNat * 65536 + b.toNat * 256 + c.toNat = inBuff
  have hd0 : inBuff / 262144 < 64 := by omega
  have hd1 : inBuff / 4096 % 64 < 64 := by omega
  have hd2 : inBuff / 64 % 64 < 64 := by omega
  have hd3 : inBuff % 64 < 64 := by omega
  rw [decodeLoop_quartet _ _ _ _ _ _ (kept_alphabet _ hd0) (kept_alphabet _ hd1)
    (kept_alphabet _ hd2) (kept_alphabet _ hd3), if_neg (alphabet_ne_equals _ hd3)]
  have hgroup : decode4to3 [alphabet (inBuff / 262144), alphabet (inBuff / 4096 % 64),
      alphabet (inBuff / 64 % 64), alphabet (inBuff % 64)] = [a, b, c] := by
    simp only [decode4to3, List.getD_cons_zero, List.getD_cons_succ,
      if_neg (alphabet_ne_equals _ hd2), if_neg (alphabet_ne_equals _ hd3),
      decodabet_alphabet _ hd0, decodabet_alphabet _ hd1, decodabet_alphabet _ hd2,
      decodabet_alphabet _ hd3, sextets_or _ _ _ _ hd1 hd2 hd3]
    rw [ofNat_eq_of_mod _ a (by omega), ofNat_eq_of_mod _ b (by omega),
      ofNat_eq_of_mod _ c (by omega)]
  rw [hgroup]

theorem decodeLoop_encode_two (a b : UInt8) (out : Bytes) :
    decodeLoop len (encode3to4 [a, b]) [] out = .ok (out ++ [a, b]) := by
  have ha := a.toNat_lt
  have hb := b.toNat_lt
  simp only [encode3to4]
  generalize hin : a.toNat * 65536 + b.toNat * 256 = inBuff
  have hd0 : inBuff / 262144 < 64 := by omega
  have hd1 : inBuff / 4096 % 64 < 64 := by omega
  have hd2 : inBuff / 64 % 64 < 64 := by omega
  rw [decodeLoop_quartet _ _ _ _ _ _ (kept_alphabet _ hd0) (kept_alphabet _ hd1)
    (kept_alphabet _ hd2) kept_equals, if_pos rfl]
  -- The last sextet is missing, which is the same as nought.
  have hor := sextets_or (inBuff / 262144) (inBuff / 4096 % 64) (inBuff / 64 % 64) 0 hd1 hd2
    (by omega)
  rw [Nat.or_zero] at hor
  have hgroup : decode4to3 [alphabet (inBuff / 262144), alphabet (inBuff / 4096 % 64),
      alphabet (inBuff / 64 % 64), EQUALS_SIGN] = [a, b] := by
    simp only [decode4to3, List.getD_cons_zero, List.getD_cons_succ,
      if_neg (alphabet_ne_equals _ hd2), if_true, decodabet_alphabet _ hd0,
      decodabet_alphabet _ hd1, decodabet_alphabet _ hd2, hor]
    rw [ofNat_eq_of_mod _ a (by omega), ofNat_eq_of_mod _ b (by omega)]
  rw [hgroup]

theorem decodeLoop_encode_one (a : UInt8) (out : Bytes) :
    decodeLoop len (encode3to4 [a]) [] out = .ok (out ++ [a]) := by
  have ha := a.toNat_lt
  simp only [encode3to4]
  generalize hin : a.toNat * 65536 = inBuff
  have hd0 : inBuff / 262144 < 64 := by omega
  have hd1 : inBuff / 4096 % 64 < 64 := by omega
  rw [decodeLoop_quartet _ _ _ _ _ _ (kept_alphabet _ hd0) (kept_alphabet _ hd1) kept_equals
    kept_equals, if_pos rfl]
  -- Here two are missing.
  have hor := sextets_or (inBuff / 262144) (inBuff / 4096 % 64) 0 0 hd1 (by omega) (by omega)
  rw [Nat.or_zero, Nat.zero_mul, Nat.or_zero] at hor
  have hgroup : decode4to3 [alphabet (inBuff / 262144), alphabet (inBuff / 4096 % 64),
      EQUALS_SIGN, EQUALS_SIGN] = [a] := by
    simp only [decode4to3, List.getD_cons_zero, List.getD_cons_succ, if_true,
      decodabet_alphabet _ hd0, decodabet_alphabet _ hd1, hor]
    rw [ofNat_eq_of_mod _ a (by omega)]
  rw [hgroup]

/-- The loop undoes the encoder, by the encoder's own recursion. -/
theorem decodeLoop_encodeBytes (bytes out : Bytes) :
    decodeLoop len (encodeBytes bytes) [] out = .ok (out ++ bytes) := by
  induction bytes using encodeBytes.induct generalizing out with
  | case1 a b c source ih =>
      rw [encodeBytes, decodeLoop_encode3to4, ih, List.append_assoc]
      rfl
  -- Fewer than three bytes are left, and padding ends the loop.
  | case2 source hshort =>
      match source, hshort with
      | [], _ =>
          simp only [encodeBytes, encode3to4, decodeLoop, List.append_nil]
      | [a], _ => exact decodeLoop_encode_one a out
      | [a, b], _ => exact decodeLoop_encode_two a b out
      | a :: b :: c :: rest, h => exact absurd rfl (h a b c rest)

theorem alphabet_mem (v : Nat) (hv : v < 64) : alphabet v ∈ STANDARD_ALPHABET := by
  have h : ∀ w : Fin 64, alphabet w ∈ STANDARD_ALPHABET := by decide
  exact h ⟨v, hv⟩

/-- A group has characters of the alphabet and padding only. -/
theorem mem_encode3to4 (source : Bytes) :
    ∀ c ∈ encode3to4 source, c ∈ EQUALS_SIGN :: STANDARD_ALPHABET := by
  have hpad : EQUALS_SIGN ∈ EQUALS_SIGN :: STANDARD_ALPHABET := List.mem_cons_self
  have halpha : ∀ v, v < 64 → alphabet v ∈ EQUALS_SIGN :: STANDARD_ALPHABET :=
    fun v hv => List.mem_cons_of_mem _ (alphabet_mem v hv)
  unfold encode3to4
  split
  · rename_i a b c
    have ha := a.toNat_lt
    have hb := b.toNat_lt
    have hc := c.toNat_lt
    simp only [List.forall_mem_cons, List.not_mem_nil, false_implies, implies_true, and_true]
    exact ⟨halpha _ (by omega), halpha _ (by omega), halpha _ (by omega), halpha _ (by omega)⟩
  · rename_i a b
    have ha := a.toNat_lt
    have hb := b.toNat_lt
    simp only [List.forall_mem_cons, List.not_mem_nil, false_implies, implies_true, and_true]
    exact ⟨halpha _ (by omega), halpha _ (by omega), halpha _ (by omega), hpad⟩
  · rename_i a
    have ha := a.toNat_lt
    simp only [List.forall_mem_cons, List.not_mem_nil, false_implies, implies_true, and_true]
    exact ⟨halpha _ (by omega), halpha _ (by omega), hpad, hpad⟩
  · exact fun _ hc => absurd hc List.not_mem_nil

theorem mem_encodeBytes (source : Bytes) :
    ∀ c ∈ encodeBytes source, c ∈ EQUALS_SIGN :: STANDARD_ALPHABET := by
  induction source using encodeBytes.induct with
  | case1 a b c source ih =>
      rw [encodeBytes]
      intro x hx
      rcases List.mem_append.mp hx with hx | hx
      · exact mem_encode3to4 _ x hx
      · exact ih x hx
  | case2 source hshort =>
      rw [encodeBytes]
      · exact mem_encode3to4 source
      · exact hshort

theorem length_encodeBytes (bytes : Bytes) : bytes = [] ∨ 4 ≤ (encodeBytes bytes).length := by
  match bytes with
  | [] => exact Or.inl rfl
  | [_] => exact Or.inr (Nat.le_refl _)
  | [_, _] => exact Or.inr (Nat.le_refl _)
  | _ :: _ :: _ :: _ =>
      right
      simp only [encodeBytes, encode3to4, List.length_append, List.length_cons, List.length_nil]
      omega

/-- Decoding what was encoded returns it, inflated if it looks compressed. -/
theorem decode_encodeBytes (gunzip : Bytes → Option Bytes) (bytes : Bytes) :
    decode gunzip (encodeBytes bytes) = .ok (inflate gunzip bytes) := by
  have hloop : decodeLoop (encodeBytes bytes).length (encodeBytes bytes) [] [] = .ok bytes :=
    decodeLoop_encodeBytes bytes []
  have hbytes : decodeBytes (encodeBytes bytes) = .ok bytes := by
    unfold decodeBytes
    -- An encoding is empty or has a group, so it is never refused as too short.
    rcases length_encodeBytes bytes with h0 | h4
    · rw [h0]
      rfl
    · rw [if_neg (by omega), if_neg (by omega), hloop]
  unfold decode
  rw [hbytes, Java.ok_bind]

/-! ## Text that is not an encoding -/

/-- A character that is part of a group. -/
def InGroup (c : UInt8) : Prop :=
  ∃ d ∈ STANDARD_DECODABET[(c &&& 0x7f).toNat]?, EQUALS_SIGN_ENC ≤ d

/-- A character that is part of a group, or white space. -/
def Legal (c : UInt8) : Prop :=
  ∃ d ∈ STANDARD_DECODABET[(c &&& 0x7f).toNat]?, WHITE_SPACE_ENC ≤ d

instance (c : UInt8) : Decidable (InGroup c) := inferInstanceAs (Decidable (∃ _ ∈ _, _))

instance (c : UInt8) : Decidable (Legal c) := inferInstanceAs (Decidable (∃ _ ∈ _, _))

/-- Characters that do not end the input, with `n` of a group before them: none
    is padding in the last place of a group. -/
def Continues (n : Nat) (source : Bytes) : Prop :=
  ∀ a e b, source = a ++ e :: b → e &&& 0x7f = EQUALS_SIGN → (n + a.countP InGroup) % 4 ≠ 3

/-- The decoder gets to a delete character, for which its table has no entry. -/
def MeetsDelete (n : Nat) (source : Bytes) : Prop :=
  ∃ before c after, source = before ++ c :: after ∧ c &&& 0x7f = 0x7f ∧
    (∀ b ∈ before, Legal b) ∧ Continues n before

theorem continues_cons (n : Nat) (c : UInt8) (source : Bytes) : Continues n (c :: source) ↔
    (c &&& 0x7f = EQUALS_SIGN → n % 4 ≠ 3) ∧
      Continues (n + if InGroup c then 1 else 0) source := by
  have hcount : ∀ a, n + (c :: a).countP (fun c => decide (InGroup c))
      = (n + if InGroup c then 1 else 0) + a.countP (fun c => decide (InGroup c)) := by
    intro a
    rw [List.countP_cons]
    by_cases hc : InGroup c
    · simp only [hc, decide_true, if_true]
      omega
    · simp only [hc, decide_false, Bool.false_eq_true, if_false]
      omega
  constructor
  · intro h
    refine ⟨fun hequals => h [] c source rfl hequals, fun a e b hsource hequals => ?_⟩
    rw [← hcount]
    exact h (c :: a) e b (by rw [hsource]; rfl) hequals
  · rintro ⟨hfirst, hrest⟩ a e b hsource hequals
    -- Either the first character is the one, or it is behind it.
    cases a with
    | nil =>
        rw [List.nil_append, List.cons.injEq] at hsource
        rw [← hsource.1] at hequals
        exact hfirst hequals
    | cons c' a =>
        rw [List.cons_append, List.cons.injEq] at hsource
        rw [← hsource.1, hcount]
        exact hrest a e b hsource.2 hequals

theorem meetsDelete_nil (n : Nat) : ¬ MeetsDelete n [] := by
  rintro ⟨before, c, after, hsource, _⟩
  exact absurd hsource (List.append_ne_nil_of_right_ne_nil _ (List.cons_ne_nil _ _)).symm

theorem meetsDelete_cons (n : Nat) (c : UInt8) (source : Bytes) : MeetsDelete n (c :: source) ↔
    c &&& 0x7f = 0x7f ∨ Legal c ∧ (c &&& 0x7f = EQUALS_SIGN → n % 4 ≠ 3) ∧
      MeetsDelete (n + if InGroup c then 1 else 0) source := by
  constructor
  · rintro ⟨before, d, after, hsource, hdelete, hlegal, hcontinues⟩
    -- The character that is met is the first one, or the first one let the loop go
    -- on.
    cases before with
    | nil =>
        rw [List.nil_append, List.cons.injEq] at hsource
        exact Or.inl (hsource.1 ▸ hdelete)
    | cons c' before =>
        rw [List.cons_append, List.cons.injEq] at hsource
        rw [← hsource.1, continues_cons] at hcontinues
        rw [← hsource.1, List.forall_mem_cons] at hlegal
        exact Or.inr ⟨hlegal.1, hcontinues.1, before, d, after, hsource.2, hdelete, hlegal.2,
          hcontinues.2⟩
  · rintro (hdelete | ⟨hlegal, hequals, before, d, after, rfl, hdelete, hbefore, hcontinues⟩)
    · refine ⟨[], c, source, rfl, hdelete, nofun, fun a e b hnil => ?_⟩
      exact absurd hnil (List.append_ne_nil_of_right_ne_nil _ (List.cons_ne_nil _ _)).symm
    · exact ⟨c :: before, d, after, rfl, hdelete, List.forall_mem_cons.mpr ⟨hlegal, hbefore⟩,
        (continues_cons n c before).mpr ⟨hequals, hcontinues⟩⟩

/-- The table ends one entry short of the delete character. -/
theorem decodabet_none (c : UInt8) :
    STANDARD_DECODABET[(c &&& 0x7f).toNat]? = none ↔ c &&& 0x7f = 0x7f := by
  have hbound : (c &&& 0x7f).toNat ≤ 127 := by
    rw [UInt8.toNat_and]
    exact Nat.and_le_right
  have hlength : STANDARD_DECODABET.length = 127 := rfl
  rw [List.getElem?_eq_none_iff, hlength, ← UInt8.toNat_inj]
  have hseven : (0x7f : UInt8).toNat = 127 := rfl
  omega

/-- The loop reads outside its table exactly if it meets a delete character. -/
theorem decodeLoop_unchecked (source b4 out : Bytes) (n : Nat) (hn : n % 4 = b4.length)
    (e : Unchecked) : decodeLoop len source b4 out = Java.raise e ↔
      e = .arrayIndexOutOfBounds ∧ MeetsDelete n source := by
  -- On the characters that are left; of the buffer only its length matters,
  -- which `n` counts.
  induction source generalizing b4 out n with
  | nil => exact iff_of_false nofun (fun h => meetsDelete_nil _ h.2)
  | cons c source ih =>
      rw [decodeLoop, meetsDelete_cons]
      cases hd : STANDARD_DECODABET[(c &&& 0x7f).toNat]? with
      | none =>
          have hdelete := (decodabet_none c).mp hd
          simp only [hdelete, true_or, and_true]
          constructor
          · intro h
            exact (JavaException.unchecked.inj (Except.error.inj h)).symm
          · rintro rfl
            rfl
      | some d =>
          have hdelete : c &&& 0x7f ≠ 0x7f := by
            intro hdelete
            rw [(decodabet_none c).mpr hdelete] at hd
            exact nomatch hd
          have hlegal : Legal c ↔ WHITE_SPACE_ENC ≤ d := by
            unfold Legal
            rw [hd]
            simp only [Option.mem_def, Option.some.injEq, exists_eq_left']
          have hgroup : InGroup c ↔ EQUALS_SIGN_ENC ≤ d := by
            unfold InGroup
            rw [hd]
            simp only [Option.mem_def, Option.some.injEq, exists_eq_left']
          simp only [hdelete, false_or, hlegal, hgroup]
          by_cases hws : WHITE_SPACE_ENC ≤ d
          · by_cases heq : EQUALS_SIGN_ENC ≤ d
            · have hlength : (b4 ++ [c &&& 0x7f]).length = b4.length + 1 := List.length_append
              simp only [heq, hws, if_true, true_and]
              -- A full buffer is flushed, and the next group starts with none.
              by_cases hfull : 3 < (b4 ++ [c &&& 0x7f]).length
              · rw [if_pos hfull]
                by_cases hequals : c &&& 0x7f = EQUALS_SIGN
                · -- Padding in the last place ends the input.
                  rw [if_pos hequals]
                  exact iff_of_false nofun (fun h => h.2.1 hequals (by omega))
                · rw [if_neg hequals, ih [] _ (n + 1) (by rw [List.length_nil]; omega)]
                  simp only [hequals, false_implies, true_and]
              · have hnotLast : n % 4 ≠ 3 := by omega
                rw [if_neg hfull, ih _ _ (n + 1) (by omega)]
                simp only [hnotLast, not_false_eq_true, implies_true, ne_eq, true_and]
            · -- White space is skipped, and is no padding.
              have hequals : c &&& 0x7f ≠ EQUALS_SIGN := by
                intro hequals
                rw [hequals] at hd
                exact heq (by rw [← Option.some.inj hd]; decide)
              simp only [heq, hws, if_true, if_false, true_and, hequals, false_implies,
                Nat.add_zero]
              exact ih b4 out n hn
          -- Any other character throws what is declared.
          · simp only [hws, if_false, false_and, and_false, iff_false]
            exact nofun

/-- Text that raises an unchecked exception: it is too short for a group, or
    has a delete character where it is decoded. -/
def Undecodable (s : Bytes) : Prop :=
  (0 < s.length ∧ s.length < 4) ∨ MeetsDelete 0 s

theorem decodeBytes_unchecked (s : Bytes) :
    (∃ e, decodeBytes s = Java.raise e) ↔ Undecodable s := by
  unfold decodeBytes Undecodable
  by_cases hempty : s.length = 0
  · rw [if_pos hempty, List.length_eq_zero_iff.mp hempty]
    refine iff_of_false (fun ⟨e, h⟩ => nomatch h) ?_
    rintro (h | h)
    · exact absurd h.1 (Nat.lt_irrefl 0)
    · exact meetsDelete_nil 0 h
  · rw [if_neg hempty]
    by_cases hshort : s.length < 4
    · rw [if_pos hshort]
      exact iff_of_true ⟨_, rfl⟩ (Or.inl ⟨Nat.pos_of_ne_zero hempty, hshort⟩)
    · rw [if_neg hshort]
      simp only [decodeLoop_unchecked s [] [] 0 rfl, hshort, and_false, false_or,
        exists_eq_left]

/-- Any other exception is that for a character. -/
theorem decodeLoop_error (source b4 out : Bytes) (e : JavaException)
    (h : decodeLoop len source b4 out = .error e) :
    (∃ message, e = .io message) ∨ ∃ u, e = .unchecked u := by
  induction source generalizing b4 out with
  | nil => exact nomatch h
  | cons c source ih =>
      rw [decodeLoop] at h
      cases hd : STANDARD_DECODABET[(c &&& 0x7f).toNat]? with
      | none =>
          simp only [hd] at h
          exact Or.inr ⟨_, (Except.error.inj h).symm⟩
      | some d =>
          simp only [hd] at h
          -- Only the character outside the alphabet throws here; the other ways go on.
          split_ifs at h
          · exact ih _ _ h
          · exact ih _ _ h
          · exact ih _ _ h
          · exact Or.inl ⟨_, (Except.error.inj h).symm⟩

/-- Decoding returns, or throws an `IOException`, exactly if the text raises
    no unchecked exception. -/
theorem decode_ends (gunzip : Bytes → Option Bytes) (s : Bytes) :
    ¬ Undecodable s ∧ (∃ bytes, decode gunzip s = .ok bytes) ∨
      ¬ Undecodable s ∧ (∃ message, decode gunzip s = .error (.io message)) ∨
      Undecodable s ∧ ∃ u, decode gunzip s = Java.raise u := by
  rw [← decodeBytes_unchecked]
  unfold decode
  cases hbytes : decodeBytes s with
  | ok bytes => exact Or.inl ⟨fun ⟨e, h⟩ => (nomatch h), _, rfl⟩
  | error e =>
      right
      -- A text that is too short throws before the loop, which throws the rest.
      have hkind : (∃ message, e = .io message) ∨ ∃ u, e = .unchecked u := by
        unfold decodeBytes at hbytes
        split_ifs at hbytes
        · exact Or.inr ⟨_, (Except.error.inj hbytes).symm⟩
        · exact decodeLoop_error s [] [] e hbytes
      rcases hkind with ⟨message, rfl⟩ | ⟨u, rfl⟩
      · exact Or.inl ⟨fun ⟨u, h⟩ => (nomatch Except.error.inj h), _, rfl⟩
      · exact Or.inr ⟨⟨u, rfl⟩, u, rfl⟩

end Base64

end RedPhone
