import RedPhone.Java.Crypto

/-!
# The Packet Checksum

`java.util.zip.CRC32`: the reflected polynomial, one bit at a time.

The handshake only ever compares two of these values, so nothing is proved
about the polynomial here.

## Main definitions

* `crc32`: The checksum of a byte string.
-/

namespace RedPhone

namespace Crc32

/-- One bit: shift, and subtract the polynomial if a one came out. -/
def bit (crc : UInt32) : UInt32 :=
  if crc &&& 1 = 1 then (crc >>> 1) ^^^ 0xedb88320 else crc >>> 1

/-- One byte: its eight bits, lowest first. -/
def byte (crc : UInt32) (b : UInt8) : UInt32 :=
  bit (bit (bit (bit (bit (bit (bit (bit (crc ^^^ b.toUInt32))))))))

/-- The checksum of a byte string. -/
def crc32 (bytes : Bytes) : UInt32 :=
  bytes.foldl byte 0xffffffff ^^^ 0xffffffff

example : crc32 (ascii "123456789") = 0xcbf43926 := by decide +kernel

end Crc32

end RedPhone
