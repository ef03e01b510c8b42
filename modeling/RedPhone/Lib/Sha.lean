import RedPhone.Lib.Endian

/-!
# Digests and the Keyed Code

SHA-1 and SHA-256 of FIPS 180-4 on lists of bytes, and the keyed code RFC 2104
builds from either. The words of a chaining state are the fields of a
structure, so a digest has its length whatever was hashed.

The message schedule is a window of the last sixteen words, which each round
shifts by one: no round needs an earlier one. Padding, words and blocks are
those of both digests.

## Main definitions

* `pad`: A message in whole blocks.
* `chain`: The state after the blocks of a message.
* `Sha1.sha1`, `Sha256.sha256`: The digests.
* `hmac`: The keyed code under a digest.

## Theorems

* `Sha1.length_sha1`, `Sha256.length_sha256`: The digests have their lengths.
-/

namespace Sha

def rotl (n x : UInt32) : UInt32 := x <<< n ||| x >>> (32 - n)

def rotr (n x : UInt32) : UInt32 := x >>> n ||| x <<< (32 - n)

/-- The sixteen words of a block. -/
def words (block : List UInt8) : List UInt32 :=
  (List.range 16).map fun i => UInt32.ofNat (Endian.ofBE ((block.drop (4 * i)).take 4))

/-- The message, a one bit, zeros, and its length in bits. -/
def pad (m : List UInt8) : List UInt8 :=
  m ++ 0x80 :: List.replicate ((119 - m.length % 64) % 64) 0 ++ Endian.toBE 8 (8 * m.length)

/-- The state after `n` blocks. -/
def blocks {σ : Type} (compress : σ → List UInt8 → σ) : Nat → σ → List UInt8 → σ
  | 0, v, _ => v
  | n + 1, v, m => blocks compress n (compress v (m.take 64)) (m.drop 64)

/-- The state after a whole message. -/
def chain {σ : Type} (compress : σ → List UInt8 → σ) (initial : σ) (m : List UInt8) : σ :=
  blocks compress ((m.length + 72) / 64) initial (pad m)

def ch (x y z : UInt32) : UInt32 := (x &&& y) ^^^ (~~~x &&& z)

def maj (x y z : UInt32) : UInt32 := (x &&& y) ^^^ (x &&& z) ^^^ (y &&& z)

/-- The keyed code: a key longer than a block is hashed first. -/
def hmac (hash : List UInt8 → List UInt8) (key m : List UInt8) : List UInt8 :=
  let key := if 64 < key.length then hash key else key
  let pads := fun x => key.map (· ^^^ x) ++ List.replicate (64 - key.length) x
  hash (pads 0x5c ++ hash (pads 0x36 ++ m))

/-! ## SHA-1 -/

namespace Sha1

/-- The chaining state. -/
structure Words where
  a : UInt32
  b : UInt32
  c : UInt32
  d : UInt32
  e : UInt32

/-- The first chaining state. -/
def initial : Words := ⟨0x67452301, 0xefcdab89, 0x98badcfe, 0x10325476, 0xc3d2e1f0⟩

/-- One round, with the function of its twenty, on the state and the window. -/
def round (f : UInt32 → UInt32 → UInt32 → UInt32) (k : UInt32) (s : Words × List UInt32) :
    Words × List UInt32 :=
  let (v, window) := s
  let word := fun i => window.getD i 0
  (⟨rotl 5 v.a + f v.b v.c v.d + v.e + k + word 0, v.a, rotl 30 v.b, v.c, v.d⟩,
    window.tail ++ [rotl 1 (word 13 ^^^ word 8 ^^^ word 2 ^^^ word 0)])

def rounds : List (Words × List UInt32 → Words × List UInt32) :=
  let parity := fun x y z => x ^^^ y ^^^ z
  List.replicate 20 (round ch 0x5a827999) ++ List.replicate 20 (round parity 0x6ed9eba1) ++
    List.replicate 20 (round maj 0x8f1bbcdc) ++ List.replicate 20 (round parity 0xca62c1d6)

def compress (v : Words) (block : List UInt8) : Words :=
  let w := (rounds.foldl (fun s r => r s) (v, words block)).1
  ⟨v.a + w.a, v.b + w.b, v.c + w.c, v.d + w.d, v.e + w.e⟩

def sha1 (m : List UInt8) : List UInt8 :=
  let v := chain compress initial m
  [v.a, v.b, v.c, v.d, v.e].flatMap fun w => Endian.toBE 4 w.toNat

theorem length_sha1 (m : List UInt8) : (sha1 m).length = 20 := by
  simp only [sha1, List.flatMap_cons, List.flatMap_nil, List.length_append, Endian.length_toBE,
    List.length_nil]

/-- The example of the standard. -/
example : sha1 [0x61, 0x62, 0x63]
    = Endian.toBE 20 0xa9993e364706816aba3e25717850c26c9cd0d89d := by
  decide +kernel

end Sha1

/-! ## SHA-256 -/

namespace Sha256

/-- The chaining state. -/
structure Words where
  a : UInt32
  b : UInt32
  c : UInt32
  d : UInt32
  e : UInt32
  f : UInt32
  g : UInt32
  h : UInt32

/-- The round constants. -/
def constants : List UInt32 :=
  [0x428a2f98, 0x71374491, 0xb5c0fbcf, 0xe9b5dba5, 0x3956c25b, 0x59f111f1, 0x923f82a4, 0xab1c5ed5,
   0xd807aa98, 0x12835b01, 0x243185be, 0x550c7dc3, 0x72be5d74, 0x80deb1fe, 0x9bdc06a7, 0xc19bf174,
   0xe49b69c1, 0xefbe4786, 0x0fc19dc6, 0x240ca1cc, 0x2de92c6f, 0x4a7484aa, 0x5cb0a9dc, 0x76f988da,
   0x983e5152, 0xa831c66d, 0xb00327c8, 0xbf597fc7, 0xc6e00bf3, 0xd5a79147, 0x06ca6351, 0x14292967,
   0x27b70a85, 0x2e1b2138, 0x4d2c6dfc, 0x53380d13, 0x650a7354, 0x766a0abb, 0x81c2c92e, 0x92722c85,
   0xa2bfe8a1, 0xa81a664b, 0xc24b8b70, 0xc76c51a3, 0xd192e819, 0xd6990624, 0xf40e3585, 0x106aa070,
   0x19a4c116, 0x1e376c08, 0x2748774c, 0x34b0bcb5, 0x391c0cb3, 0x4ed8aa4a, 0x5b9cca4f, 0x682e6ff3,
   0x748f82ee, 0x78a5636f, 0x84c87814, 0x8cc70208, 0x90befffa, 0xa4506ceb, 0xbef9a3f7, 0xc67178f2]

/-- The first chaining state. -/
def initial : Words :=
  ⟨0x6a09e667, 0xbb67ae85, 0x3c6ef372, 0xa54ff53a, 0x510e527f, 0x9b05688c, 0x1f83d9ab, 0x5be0cd19⟩

def bigSigma0 (x : UInt32) : UInt32 := rotr 2 x ^^^ rotr 13 x ^^^ rotr 22 x

def bigSigma1 (x : UInt32) : UInt32 := rotr 6 x ^^^ rotr 11 x ^^^ rotr 25 x

def sigma0 (x : UInt32) : UInt32 := rotr 7 x ^^^ rotr 18 x ^^^ x >>> 3

def sigma1 (x : UInt32) : UInt32 := rotr 17 x ^^^ rotr 19 x ^^^ x >>> 10

/-- One round: the first word of the window goes in, and the sixteenth after
    it joins the window. -/
def round (s : Words × List UInt32) (k : UInt32) : Words × List UInt32 :=
  let (v, window) := s
  let word := fun i => window.getD i 0
  let t1 := v.h + bigSigma1 v.e + ch v.e v.f v.g + k + word 0
  let t2 := bigSigma0 v.a + maj v.a v.b v.c
  (⟨t1 + t2, v.a, v.b, v.c, v.d + t1, v.e, v.f, v.g⟩,
    window.tail ++ [sigma1 (word 14) + word 9 + sigma0 (word 1) + word 0])

def compress (v : Words) (block : List UInt8) : Words :=
  let w := (constants.foldl round (v, words block)).1
  ⟨v.a + w.a, v.b + w.b, v.c + w.c, v.d + w.d, v.e + w.e, v.f + w.f, v.g + w.g, v.h + w.h⟩

def sha256 (m : List UInt8) : List UInt8 :=
  let v := chain compress initial m
  [v.a, v.b, v.c, v.d, v.e, v.f, v.g, v.h].flatMap fun w => Endian.toBE 4 w.toNat

theorem length_sha256 (m : List UInt8) : (sha256 m).length = 32 := by
  simp only [sha256, List.flatMap_cons, List.flatMap_nil, List.length_append, Endian.length_toBE,
    List.length_nil]

/-- The example of the standard. -/
example : sha256 [0x61, 0x62, 0x63] = Endian.toBE 32
    0xba7816bf8f01cfea414140de5dae2223b00361a396177a9cb410ff61f20015ad := by
  decide +kernel

end Sha256

end Sha
