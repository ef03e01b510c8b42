import RedPhone.Java.Crypto

/-!
# Strings from Packets

The few string operations the handshake applies to bytes a peer chose. The
client id of a Hello is decoded, split at its spaces and its second part read
as a decimal integer; every step is total here as it is there, since malformed
input becomes a replacement character and an unreadable number an exception
the caller catches.

A string is its list of code points. No operation distinguishes a supplementary
character from the two units the runtime stores it as.

## Main definitions

* `decodeUtf8`: The constructor that decodes bytes.
* `split`: Splitting at spaces, with trailing empty parts dropped.
* `trim`: Dropping spaces and controls from both ends.
* `parseInt`: A decimal integer of 32 bits, or nothing.
* `splitAt`: Splitting at another separator.
* `parseLong`: A decimal integer of 64 bits, or nothing.
* `ofString`: The text of a literal.
-/

namespace RedPhone

namespace Text

/-- What stands for a malformed sequence. -/
def REPLACEMENT : Nat := 0xfffd

/-- The payload of a continuation byte. -/
def continuation (b : UInt8) : Option Nat :=
  if b.toNat / 64 = 2 then some (b.toNat % 64) else none

/-- Decode UTF-8, one replacement for each byte that cannot be. -/
def decodeUtf8 : Bytes → List Nat
  | [] => []
  | b0 :: rest =>
    let n := b0.toNat
    if n < 0x80 then n :: decodeUtf8 rest
    else
      match rest with
      | [] => [REPLACEMENT]
      | b1 :: rest1 =>
        match continuation b1 with
        | none => REPLACEMENT :: decodeUtf8 (b1 :: rest1)
        | some c1 =>
          if 0xc2 ≤ n ∧ n < 0xe0 then ((n - 0xc0) * 64 + c1) :: decodeUtf8 rest1
          else
            match rest1 with
            | [] => REPLACEMENT :: decodeUtf8 [b1]
            | b2 :: rest2 =>
              match continuation b2 with
              | none => REPLACEMENT :: decodeUtf8 (b1 :: b2 :: rest2)
              | some c2 =>
                let three := (n - 0xe0) * 4096 + c1 * 64 + c2
                if 0xe0 ≤ n ∧ n < 0xf0 ∧ 0x800 ≤ three ∧ ¬ (0xd800 ≤ three ∧ three < 0xe000) then
                  three :: decodeUtf8 rest2
                else
                  match rest2 with
                  | [] => REPLACEMENT :: decodeUtf8 [b1, b2]
                  | b3 :: rest3 =>
                    let four := (n - 0xf0) * 262144 + c1 * 4096 + c2 * 64
                    match continuation b3 with
                    | none => REPLACEMENT :: decodeUtf8 (b1 :: b2 :: b3 :: rest3)
                    | some c3 =>
                      if 0xf0 ≤ n ∧ 0x10000 ≤ four + c3 ∧ four + c3 < 0x110000 then
                        (four + c3) :: decodeUtf8 rest3
                      else REPLACEMENT :: decodeUtf8 (b1 :: b2 :: b3 :: rest3)

/-- The parts between spaces, all of them. -/
def parts : List Nat → List (List Nat)
  | [] => [[]]
  | c :: s =>
    if c = 0x20 then [] :: parts s
    else
      match parts s with
      | [] => [[c]]
      | p :: ps => (c :: p) :: ps

/-- `s.split(" ")`: a string without a space is its own only part, and
    otherwise trailing empty parts are dropped. -/
def split (s : List Nat) : List (List Nat) :=
  if 0x20 ∈ s then ((parts s).reverse.dropWhile List.isEmpty).reverse else [s]

/-- `s.trim()`. -/
def trim (s : List Nat) : List Nat :=
  ((s.dropWhile (· ≤ 0x20)).reverse.dropWhile (· ≤ 0x20)).reverse

/-- The zeros of the decimal digits the runtime knows, ten to each. -/
def ZEROS : List Nat :=
  [0x30, 0x660, 0x6f0, 0x7c0, 0x966, 0x9e6, 0xa66, 0xae6, 0xb66, 0xbe6, 0xc66, 0xce6, 0xd66, 0xe50,
    0xed0, 0xf20, 0x1040, 0x1090, 0x17e0, 0x1810, 0x1946, 0x19d0, 0x1a80, 0x1a90, 0x1b50, 0x1bb0,
    0x1c40, 0x1c50, 0xa620, 0xa8d0, 0xa900, 0xa9d0, 0xaa50, 0xabf0, 0xff10]

/-- `Character.digit(c, 10)`. -/
def digit (c : Nat) : Option Nat :=
  (ZEROS.find? (fun z => z ≤ c ∧ c < z + 10)).map (fun z => c - z)

/-- The value of a nonempty list of digits. -/
def digits (s : List Nat) : Option Nat :=
  if s = [] then none
  else s.foldl (fun acc c => acc.bind (fun v => (digit c).map (fun d => v * 10 + d))) (some 0)

/-- `Integer.parseInt`: a sign and digits, in the range of an `int`. -/
def parseInt (s : List Nat) : Option Int :=
  match s with
  | 0x2d :: s => (digits s).bind (fun v => if v ≤ 2147483648 then some (-(v : Int)) else none)
  | 0x2b :: s => (digits s).bind (fun v => if v < 2147483648 then some (v : Int) else none)
  | s => (digits s).bind (fun v => if v < 2147483648 then some (v : Int) else none)

/-- The parts between separators, all of them. -/
def partsAt (separator : Nat) : List Nat → List (List Nat)
  | [] => [[]]
  | c :: s =>
    if c = separator then [] :: partsAt separator s
    else
      match partsAt separator s with
      | [] => [[c]]
      | p :: ps => (c :: p) :: ps

/-- `s.split(...)` at a single character. -/
def splitAt (separator : Nat) (s : List Nat) : List (List Nat) :=
  if separator ∈ s then ((partsAt separator s).reverse.dropWhile List.isEmpty).reverse else [s]

/-- `Long.parseLong`: a sign and digits, in the range of a `long`. -/
def parseLong (s : List Nat) : Option Int :=
  match s with
  | 0x2d :: s =>
    (digits s).bind (fun v => if v ≤ 9223372036854775808 then some (-(v : Int)) else none)
  | 0x2b :: s => (digits s).bind (fun v => if v < 9223372036854775808 then some (v : Int) else none)
  | s => (digits s).bind (fun v => if v < 9223372036854775808 then some (v : Int) else none)

/-- The text of a literal. -/
def ofString (s : String) : List Nat := s.toList.map Char.toNat

end Text

end RedPhone
