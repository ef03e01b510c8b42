import RedPhone.Lib.Endian

/-!
# AES and the Modes That Make It a Stream Cipher

The block cipher of FIPS 197 with a key of sixteen bytes, on lists of bytes,
and the two modes of SP 800-38A in which only its forward direction is used:
cipher feedback on whole blocks, and counter mode. In both, the text is xored
with what the cipher makes of something both sides know, the last block with
as much of it as there is text.

The modes are over any function that makes blocks. What is needed of it is the
length of its blocks, and for the inverse not even that.

## Main definitions

* `xor`: Text under a key stream.
* `Aes.encrypt`: The block cipher.
* `cfbEncrypt`, `cfbDecrypt`: Cipher feedback.
* `ctr`: Counter mode, in either direction.

## Theorems

* `xor_xor`: A key stream as long as the text undoes itself.
* `xor_left_cancel`: The key stream can be told from a text and its ciphertext.
* `Aes.length_encrypt`: A block has sixteen bytes.
* `length_cfbEncrypt`, `length_cfbDecrypt`: Cipher feedback keeps lengths.
* `cfbDecrypt_cfbEncrypt`: Decrypting undoes encrypting.
* `ctr_ctr`: Counter mode undoes itself.
-/

namespace BlockCipher

/-- Text under a key stream, as far as both go. -/
def xor (text stream : List UInt8) : List UInt8 :=
  List.zipWith (· ^^^ ·) text stream

theorem length_xor (text stream : List UInt8) :
    (xor text stream).length = min text.length stream.length :=
  List.length_zipWith

/-- A key stream as long as the text undoes itself. -/
theorem xor_xor (text stream : List UInt8) (h : text.length ≤ stream.length) :
    xor (xor text stream) stream = text := by
  induction text generalizing stream with
  | nil => rfl
  | cons t text ih =>
      cases stream with
      | nil => exact absurd h (Nat.not_succ_le_zero _)
      | cons k stream =>
          have hcancel : t ^^^ k ^^^ k = t := by
            rw [UInt8.xor_assoc, UInt8.xor_self, UInt8.xor_zero]
          change (t ^^^ k ^^^ k) :: xor (xor text stream) stream = t :: text
          rw [hcancel, ih stream (Nat.le_of_succ_le_succ h)]

theorem xor_comm (text stream : List UInt8) : xor text stream = xor stream text := by
  unfold xor
  rw [List.zipWith_comm]
  simp only [UInt8.xor_comm]

/-- What a text is xored with can be told from what comes out. -/
theorem xor_left_cancel (text a b : List UInt8) (ha : a.length ≤ text.length)
    (hb : b.length ≤ text.length) (h : xor text a = xor text b) : a = b := by
  rw [← xor_xor a text ha, xor_comm a, h, ← xor_comm b, xor_xor b text hb]

/-! ## The block cipher -/

namespace Aes

/-- Doubling in the field of the cipher. -/
def xtime (b : UInt8) : UInt8 := b <<< 1 ^^^ (if b < 0x80 then 0 else 0x1b)

/-- The substitution box, sixteen bytes a row. -/
def sboxRows : List Nat :=
  [0x637c777bf26b6fc53001672bfed7ab76, 0xca82c97dfa5947f0add4a2af9ca472c0,
   0xb7fd9326363ff7cc34a5e5f171d83115, 0x04c723c31896059a071280e2eb27b275,
   0x09832c1a1b6e5aa0523bd6b329e32f84, 0x53d100ed20fcb15b6acbbe394a4c58cf,
   0xd0efaafb434d338545f9027f503c9fa8, 0x51a3408f929d38f5bcb6da2110fff3d2,
   0xcd0c13ec5f974417c4a77e3d645d1973, 0x60814fdc222a908846eeb814de5e0bdb,
   0xe0323a0a4906245cc2d3ac629195e479, 0xe7c8376d8dd54ea96c56f4ea657aae08,
   0xba78252e1ca6b4c6e8dd741f4bbd8b8a, 0x703eb5664803f60e613557b986c11d9e,
   0xe1f8981169d98e949b1e87e9ce5528df, 0x8ca1890dbfe6426841992d0fb054bb16]

def sbox (b : UInt8) : UInt8 :=
  UInt8.ofNat (sboxRows.getD (b.toNat / 16) 0 >>> (8 * (15 - b.toNat % 16)))

/-- Sixteen bytes, by position. The state is stored by columns. -/
def build (f : Nat → UInt8) : List UInt8 := (List.range 16).map f

def shiftRows (s : List UInt8) : List UInt8 :=
  build fun i => s.getD ((i + 4 * (i % 4)) % 16) 0

def mixColumns (s : List UInt8) : List UInt8 :=
  build fun i =>
    let byte := fun k => s.getD (4 * (i / 4) + (i + k) % 4) 0
    xtime (byte 0) ^^^ xtime (byte 1) ^^^ byte 1 ^^^ byte 2 ^^^ byte 3

/-- The round key after `key`, with the constant of the round. -/
def nextKey (key : List UInt8) (constant : UInt8) : List UInt8 :=
  let byte := fun i => key.getD i 0
  let w0 := [byte 0 ^^^ sbox (byte 13) ^^^ constant, byte 1 ^^^ sbox (byte 14),
    byte 2 ^^^ sbox (byte 15), byte 3 ^^^ sbox (byte 12)]
  let w1 := xor ((key.drop 4).take 4) w0
  let w2 := xor ((key.drop 8).take 4) w1
  w0 ++ w1 ++ w2 ++ xor ((key.drop 12).take 4) w2

/-- The rounds that mix columns, on the state and the round key. -/
def round (s : List UInt8 × List UInt8) (constant : UInt8) : List UInt8 × List UInt8 :=
  let key := nextKey s.2 constant
  (xor (mixColumns (shiftRows (s.1.map sbox))) key, key)

/-- The cipher under a key of sixteen bytes. -/
def encrypt (key block : List UInt8) : List UInt8 :=
  let (s, k) := [1, 2, 4, 8, 0x10, 0x20, 0x40, 0x80, 0x1b].foldl round (xor block key, key)
  let last := xor (shiftRows (s.map sbox)) (nextKey k 0x36)
  build fun i => last.getD i 0

theorem length_encrypt (key block : List UInt8) : (encrypt key block).length = 16 := by
  unfold encrypt build
  rw [List.length_map, List.length_range]

/-- The example of the standard. -/
example : encrypt (Endian.toBE 16 0x000102030405060708090a0b0c0d0e0f)
    (Endian.toBE 16 0x00112233445566778899aabbccddeeff)
      = Endian.toBE 16 0x69c4e0d86a7b0430d8cdb78070b4c55a := by
  decide +kernel

end Aes

/-! ## Cipher feedback -/

/-- Cipher feedback, at most `n` blocks of it. -/
def cfbEncryptBlocks (E : List UInt8 → List UInt8) : Nat → List UInt8 → List UInt8 → List UInt8
  | 0, _, _ => []
  | n + 1, iv, m =>
    let c := xor (m.take 16) (E iv)
    c ++ cfbEncryptBlocks E n c (m.drop 16)

def cfbDecryptBlocks (E : List UInt8 → List UInt8) : Nat → List UInt8 → List UInt8 → List UInt8
  | 0, _, _ => []
  | n + 1, iv, m => xor (m.take 16) (E iv) ++ cfbDecryptBlocks E n (m.take 16) (m.drop 16)

def cfbEncrypt (E : List UInt8 → List UInt8) (iv m : List UInt8) : List UInt8 :=
  cfbEncryptBlocks E ((m.length + 15) / 16) iv m

def cfbDecrypt (E : List UInt8 → List UInt8) (iv m : List UInt8) : List UInt8 :=
  cfbDecryptBlocks E ((m.length + 15) / 16) iv m

section Modes

variable {E : List UInt8 → List UInt8} (hE : ∀ b, (E b).length = 16)
include hE

theorem length_cfbEncryptBlocks (n : Nat) (iv m : List UInt8) (h : m.length ≤ 16 * n) :
    (cfbEncryptBlocks E n iv m).length = m.length := by
  induction n generalizing iv m with
  | zero => rw [cfbEncryptBlocks, List.length_nil]; omega
  | succ n ih =>
      have hdrop : (m.drop 16).length = m.length - 16 := List.length_drop
      rw [cfbEncryptBlocks, List.length_append, ih _ _ (by omega), length_xor, hE, List.length_take,
        hdrop]
      omega

theorem length_cfbDecryptBlocks (n : Nat) (iv m : List UInt8) (h : m.length ≤ 16 * n) :
    (cfbDecryptBlocks E n iv m).length = m.length := by
  induction n generalizing iv m with
  | zero => rw [cfbDecryptBlocks, List.length_nil]; omega
  | succ n ih =>
      have hdrop : (m.drop 16).length = m.length - 16 := List.length_drop
      rw [cfbDecryptBlocks, List.length_append, ih _ _ (by omega), length_xor, hE, List.length_take,
        hdrop]
      omega

theorem length_cfbEncrypt (iv m : List UInt8) : (cfbEncrypt E iv m).length = m.length :=
  length_cfbEncryptBlocks hE _ iv m (by omega)

theorem length_cfbDecrypt (iv m : List UInt8) : (cfbDecrypt E iv m).length = m.length :=
  length_cfbDecryptBlocks hE _ iv m (by omega)

/-- A block of text is followed by nothing but whole blocks, so the ciphertext
    splits where the text does. -/
theorem cfbDecryptBlocks_cfbEncryptBlocks (n : Nat) (iv m : List UInt8) (h : m.length ≤ 16 * n) :
    cfbDecryptBlocks E n iv (cfbEncryptBlocks E n iv m) = m := by
  induction n generalizing iv m with
  | zero =>
      exact (List.length_eq_zero_iff.mp (Nat.le_zero.mp h)).symm
  | succ n ih =>
      have htake : (m.take 16).length = min 16 m.length := List.length_take
      have hdrop : (m.drop 16).length = m.length - 16 := List.length_drop
      -- The key stream of this block is the same on both sides, and cancels.
      have hxor : xor (xor (m.take 16) (E iv)) (E iv) = m.take 16 :=
        xor_xor _ _ (by rw [hE, htake]; omega)
      rw [cfbEncryptBlocks, cfbDecryptBlocks]
      generalize hc : xor (m.take 16) (E iv) = c at hxor
      have hlen : c.length = min 16 m.length := by
        rw [← hc, length_xor, hE, htake]
        omega
      by_cases hm : 16 ≤ m.length
      · -- A whole block, which the next one is chained to.
        rw [List.take_append_of_le_length (by omega), List.take_of_length_le (by omega),
          List.drop_append_of_le_length (by omega), List.drop_of_length_le (by omega),
          List.nil_append, ih _ _ (by omega), hxor, List.take_append_drop]
      · -- The text ends in this block, and nothing follows it.
        have hnil : m.drop 16 = [] := List.drop_of_length_le (by omega)
        have hrest : cfbEncryptBlocks E n c [] = [] := by
          rw [← List.length_eq_zero_iff, length_cfbEncryptBlocks hE n c [] (Nat.zero_le _)]
          rfl
        rw [hnil, hrest, List.append_nil, List.take_of_length_le (by omega),
          List.drop_of_length_le (by omega), hxor]
        have hrest' : cfbDecryptBlocks E n c [] = [] := by
          rw [← List.length_eq_zero_iff, length_cfbDecryptBlocks hE n c [] (Nat.zero_le _)]
          rfl
        rw [hrest', List.append_nil, List.take_of_length_le (by omega)]

/-- Decrypting undoes encrypting. -/
theorem cfbDecrypt_cfbEncrypt (iv m : List UInt8) : cfbDecrypt E iv (cfbEncrypt E iv m) = m := by
  unfold cfbDecrypt
  rw [length_cfbEncrypt hE]
  exact cfbDecryptBlocks_cfbEncryptBlocks hE _ iv m (by omega)

end Modes

/-! ## Counter mode -/

/-- The counter block after `iv`, as one number of sixteen bytes. -/
def increment (iv : List UInt8) : List UInt8 :=
  Endian.toBE 16 (Endian.ofBE iv + 1)

/-- The key stream of `n` blocks. -/
def keyStream (E : List UInt8 → List UInt8) : Nat → List UInt8 → List UInt8
  | 0, _ => []
  | n + 1, iv => E iv ++ keyStream E n (increment iv)

/-- Counter mode, in either direction. -/
def ctr (E : List UInt8 → List UInt8) (iv m : List UInt8) : List UInt8 :=
  xor m (keyStream E ((m.length + 15) / 16) iv)

section Modes

variable {E : List UInt8 → List UInt8} (hE : ∀ b, (E b).length = 16)
include hE

theorem length_keyStream (n : Nat) (iv : List UInt8) : (keyStream E n iv).length = 16 * n := by
  induction n generalizing iv with
  | zero => rfl
  | succ n ih =>
      rw [keyStream, List.length_append, hE, ih]
      omega

theorem length_ctr (iv m : List UInt8) : (ctr E iv m).length = m.length := by
  rw [ctr, length_xor, length_keyStream hE]
  omega

/-- Counter mode undoes itself. -/
theorem ctr_ctr (iv m : List UInt8) : ctr E iv (ctr E iv m) = m := by
  have hlen := length_ctr hE iv m
  unfold ctr at hlen ⊢
  rw [hlen]
  exact xor_xor _ _ (by rw [length_keyStream hE]; omega)

end Modes

end BlockCipher
