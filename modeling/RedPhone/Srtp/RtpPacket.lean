import RedPhone.Srtp.Memory

/-!
# RTP Packets

A packet is a block of memory with a header of twelve bytes, and a length that
says how much of what follows the header is payload. The block of a received
packet is what was received. The block of a packet to be sent has room behind
its payload for the authentication code, which is not payload until
`SrtpStream::encrypt` says so.

The length is an `int` that the accessors hand out as unsigned, and the header
is read wherever it should be, whether or not the block reaches that far.

## Main definitions

* `RtpPacket`: A block and the length of the payload in it.
* `ofReceived`, `ofPayload`: The two constructors.
* `header`: The twelve bytes before a payload.
* `payload`: The bytes of the payload.

## Theorems

* `getPayloadLen_ofReceived`, `getSerializedPacketLen_ofReceived`: The lengths
  of a datagram that has a header.
* `getSequenceNumber_ok`, `getSsrc_ok`: Fields of a block that has a header.
* `getSequenceNumber_header`, `getTimestamp_header`, `getSsrc_header`: Fields of
  a constructed header.
-/

namespace RedPhone

open Slice

def RTP_HEADER_SIZE : Nat := 12
def SRTP_MAC_SIZE : Nat := 20

/-- A block and the length of the payload in it. -/
structure RtpPacket where
  packet : Bytes
  payloadLen : Int
  deriving DecidableEq

namespace RtpPacket

/-- A packet around what was received. -/
def ofReceived (packetBuf : Bytes) : RtpPacket :=
  -- A datagram shorter than a header has a payload of negative length.
  ⟨packetBuf, Cpp.int32 ((packetBuf.length : Int) - RTP_HEADER_SIZE)⟩

/-- The header of a packet to be sent: the flags, the low bits of the number,
    the time, and no source. -/
def header (sequenceNumber timestamp : UInt32) : Bytes :=
  Endian.toBE 2 32768 ++ Endian.toBE 2 sequenceNumber.toNat ++ Endian.toBE 4 timestamp.toNat
    ++ Endian.toBE 4 0

/-- A packet to be sent, with room for the authentication code. -/
def ofPayload (payload : Bytes) (sequenceNumber timestamp : UInt32) : RtpPacket :=
  ⟨header sequenceNumber timestamp ++ payload ++ List.replicate SRTP_MAC_SIZE 0, payload.length⟩

def getSequenceNumber (p : RtpPacket) : Cpp UInt16 := do
  let field ← Cpp.read p.packet 2 2
  .ok (UInt16.ofNat (Endian.ofBE field))

/-- The low bits of the flags, a word of the machine with its low byte first. -/
def getPayloadType (p : RtpPacket) : Cpp Nat := do
  let field ← Cpp.read p.packet 0 2
  .ok (Endian.ofBE field.reverse % 128)

def getTimestamp (p : RtpPacket) : Cpp UInt32 := do
  let field ← Cpp.read p.packet 4 4
  .ok (UInt32.ofNat (Endian.ofBE field))

def getSsrc (p : RtpPacket) : Cpp UInt32 := do
  let field ← Cpp.read p.packet 8 4
  .ok (UInt32.ofNat (Endian.ofBE field))

def getPayloadLen (p : RtpPacket) : Int := Cpp.uint32 p.payloadLen

def setPayloadLen (p : RtpPacket) (len : Int) : RtpPacket :=
  { p with payloadLen := Cpp.int32 len }

def getSerializedPacketLen (p : RtpPacket) : Int :=
  Cpp.int32 (RTP_HEADER_SIZE + p.payloadLen)

/-- The bytes of the payload. -/
def payload (p : RtpPacket) : Bytes :=
  slice RTP_HEADER_SIZE p.payloadLen.toNat p.packet

@[simp] theorem length_header (sequenceNumber timestamp : UInt32) :
    (header sequenceNumber timestamp).length = RTP_HEADER_SIZE := by
  simp only [header, List.length_append, Endian.length_toBE]
  rfl

/-- What follows the header of a datagram that has one. -/
theorem payloadLen_ofReceived (d : Bytes) (hmin : RTP_HEADER_SIZE ≤ d.length)
    (hmax : d.length < 2147483648) :
    (ofReceived d).payloadLen = ((d.length - RTP_HEADER_SIZE : Nat) : Int) := by
  have hleft : (d.length : Int) - RTP_HEADER_SIZE = ((d.length - RTP_HEADER_SIZE : Nat) : Int) := by
    omega
  -- The difference is a natural number below 2^31, which the conversion keeps.
  change Cpp.int32 ((d.length : Int) - RTP_HEADER_SIZE) = _
  rw [hleft]
  exact Cpp.int32_of_lt _ (by omega) (by omega)

/-- The accessor hands it out as it is. -/
theorem getPayloadLen_ofReceived (d : Bytes) (hmin : RTP_HEADER_SIZE ≤ d.length)
    (hmax : d.length < 2147483648) :
    (ofReceived d).getPayloadLen = ((d.length - RTP_HEADER_SIZE : Nat) : Int) := by
  unfold getPayloadLen
  rw [payloadLen_ofReceived d hmin hmax]
  exact Cpp.uint32_of_lt _ (by omega) (by omega)

/-- A datagram with a header is serialized to its own length. -/
theorem getSerializedPacketLen_ofReceived (d : Bytes) (hmin : RTP_HEADER_SIZE ≤ d.length)
    (hmax : d.length < 2147483648) : (ofReceived d).getSerializedPacketLen = (d.length : Int) := by
  have hsum : (RTP_HEADER_SIZE : Int) + ((d.length - RTP_HEADER_SIZE : Nat) : Int) = d.length := by
    omega
  unfold getSerializedPacketLen
  rw [payloadLen_ofReceived d hmin hmax, hsum]
  exact Cpp.int32_of_lt _ (by omega) (by omega)

theorem getSequenceNumber_ok (p : RtpPacket) (h : RTP_HEADER_SIZE ≤ p.packet.length) :
    p.getSequenceNumber = .ok (UInt16.ofNat (Endian.ofBE (slice 2 2 p.packet))) := by
  have hread := Cpp.read_ok p.packet 2 2 (by unfold RTP_HEADER_SIZE at h; omega)
  unfold getSequenceNumber
  erw [hread]
  rfl

theorem getSsrc_ok (p : RtpPacket) (h : RTP_HEADER_SIZE ≤ p.packet.length) :
    p.getSsrc = .ok (UInt32.ofNat (Endian.ofBE (slice 8 4 p.packet))) := by
  have hread := Cpp.read_ok p.packet 8 4 (by unfold RTP_HEADER_SIZE at h; omega)
  unfold getSsrc
  erw [hread]
  rfl

/-- The number in a header is the low bits of the one it was made with. -/
theorem getSequenceNumber_header (sequenceNumber timestamp : UInt32) (rest : Bytes) (len : Int) :
    (RtpPacket.mk (header sequenceNumber timestamp ++ rest) len).getSequenceNumber
      = .ok (UInt16.ofNat sequenceNumber.toNat) := by
  have hlen : RTP_HEADER_SIZE ≤ (header sequenceNumber timestamp ++ rest).length := by
    rw [List.length_append, length_header]
    omega
  have hfield : slice 2 2 (header sequenceNumber timestamp ++ rest)
      = Endian.toBE 2 sequenceNumber.toNat := by
    rfl
  rw [getSequenceNumber_ok _ hlen, Except.ok.injEq]
  simp only [hfield, Endian.ofBE_toBE]
  -- Both sides are the number modulo 2^16.
  apply UInt16.toNat.inj
  rw [UInt16.toNat_ofNat', UInt16.toNat_ofNat']
  omega

/-- The time in a header is the one it was made with. -/
theorem getTimestamp_header (sequenceNumber timestamp : UInt32) (rest : Bytes) (len : Int) :
    (RtpPacket.mk (header sequenceNumber timestamp ++ rest) len).getTimestamp
      = .ok timestamp := by
  have hlen : RTP_HEADER_SIZE ≤ (header sequenceNumber timestamp ++ rest).length := by
    rw [List.length_append, length_header]
    omega
  have hfield : slice 4 4 (header sequenceNumber timestamp ++ rest)
      = Endian.toBE 4 timestamp.toNat := by
    rfl
  -- Four bytes hold the whole of a 32-bit time.
  have htime : timestamp.toNat < 4294967296 := timestamp.toNat_lt
  have hread := Cpp.read_ok (header sequenceNumber timestamp ++ rest) 4 4
    (by unfold RTP_HEADER_SIZE at hlen; omega)
  unfold getTimestamp
  erw [hread]
  refine congrArg Except.ok ?_
  rw [hfield, Endian.ofBE_toBE, Nat.mod_eq_of_lt (by omega)]
  exact UInt32.ofNat_toNat

/-- A header that was made has no source. -/
theorem getSsrc_header (sequenceNumber timestamp : UInt32) (rest : Bytes) (len : Int) :
    (RtpPacket.mk (header sequenceNumber timestamp ++ rest) len).getSsrc = .ok 0 := by
  have hlen : RTP_HEADER_SIZE ≤ (header sequenceNumber timestamp ++ rest).length := by
    rw [List.length_append, length_header]
    omega
  rw [getSsrc_ok _ hlen]
  rfl

end RtpPacket

end RedPhone
