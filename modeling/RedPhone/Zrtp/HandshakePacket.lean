import RedPhone.Util.Conversions
import RedPhone.Util.Crc32

/-!
# Handshake Packets

The header every handshake packet shares, and what is read and written through
it: the message bytes, their code, the type and the checksum.

A packet with the legacy header has twelve bytes more in front of its message,
and says so in its first byte. The source adds the twelve to each of its
offsets when a packet is constructed; nothing writes the first byte of a packet
that owns its bytes afterwards, so here the offset is recomputed from it.

What a packet means lies in its message. Sending one writes only the sequence
number in front of the message and the checksum behind it, and `SameMessage`
is what that leaves: packets that agree everywhere else. Every getter gives the
same on both, which is what lets a packet be compared with the copy its peer
received.

## Main definitions

* `HandshakePacket`: Bytes, and how many of them are the packet.
* `headerBugOffset`: How far the legacy header moves the message.
* `copyOf`, `create`: The copying constructor and the one for a new packet.
* `getMessageBytes`, `verifyMac`, `getType`, `verifyCRC`: What is read.
* `setMac`, `setSequenceNumber`, `setCRC`: What is written.
* `wire`: A packet as it is sent.
* `SameMessage`: Equal but for sequence number and checksum.
* `HasHeader`: What the constructor of a new packet leaves in it.

## Theorems

* `getMessageBytes_ok`: When the message is in the packet, and what it is.
* `verifyMac_ok`: What a verified code says.
* `wire_sameMessage`: Sending a packet keeps its message.
* `verifyCRC_wire`: A packet as sent passes the checksum.
* `getSequenceNumber_wire`: What is left of its number.
* `create_header`, `slice_create`: The header of a new packet, and its zeros.
-/

namespace RedPhone

open Slice Endian

/-- The bytes of a packet, and the length it was received or made with. -/
structure HandshakePacket where
  data : Bytes
  packetLength : Nat
  deriving DecidableEq

namespace HandshakePacket

/-- `RtpPacket.HEADER_LENGTH`. -/
def HEADER_LENGTH : Nat := 12

def MESSAGE_BASE : Nat := 12

def PREFIX_VALUE : UInt8 := 0x10

def LEGACY_HEADER_BUG_PREFIX_VALUE : UInt8 := 0x20

def MAGIC_VALUE : Nat := 0x505a

def COOKIE_VALUE : Nat := 0x5a525450

/-- `ConfAckPacket.TYPE`, which `getType` also reports for media. -/
def CONF_ACK_TYPE : Bytes := ascii "Conf2Ack"

theorem length_CONF_ACK_TYPE : CONF_ACK_TYPE.length = 8 := by decide +kernel

def isLegacyHeaderBugPresent (p : HandshakePacket) : Bool :=
  p.data.head? == some LEGACY_HEADER_BUG_PREFIX_VALUE

def headerBugOffset (p : HandshakePacket) : Nat :=
  if p.isLegacyHeaderBugPresent then HEADER_LENGTH else 0

/-- The constructor that copies, which reads the first byte of its copy. -/
def copyOf (p : HandshakePacket) : Java HandshakePacket :=
  if p.packetLength = 0 then Java.raise .arrayIndexOutOfBounds
  else .ok ⟨p.data.take p.packetLength, p.packetLength⟩

/-- Write a field. -/
def put (off : Nat) (src : Bytes) (p : HandshakePacket) : HandshakePacket :=
  { p with data := blit off src p.data }

/-- Write fields one after the other, each at its offset. -/
def puts (fields : List (Nat × Bytes)) (p : HandshakePacket) : HandshakePacket :=
  fields.foldl (fun p field => p.put field.1 field.2) p

/-- The constructor of a new packet, for a message of `length` bytes. -/
def create (type : Bytes) (length : Nat) (includeLegacyHeaderBug : Bool) : HandshakePacket :=
  let b := if includeLegacyHeaderBug then HEADER_LENGTH else 0
  let n := HEADER_LENGTH + length + 4 + b
  (⟨List.replicate n 0, n⟩ : HandshakePacket)
    |>.put 0 [if includeLegacyHeaderBug then LEGACY_HEADER_BUG_PREFIX_VALUE else PREFIX_VALUE]
    |>.put 4 (Conversions.longTo4ByteArray COOKIE_VALUE)
    |>.put (MESSAGE_BASE + b) (Conversions.shortToByteArray MAGIC_VALUE)
    |>.put (MESSAGE_BASE + 2 + b) (Conversions.shortToByteArray length)
    |>.put (MESSAGE_BASE + 4 + b) type

/-- The length field, a signed `short`. -/
def getLength (p : HandshakePacket) : Java Int :=
  Conversions.byteArrayToShort p.data (MESSAGE_BASE + 2 + p.headerBugOffset)

def getMessageBytes (p : HandshakePacket) : Java Bytes := do
  Java.throwIf (p.packetLength < MESSAGE_BASE + 2 + p.headerBugOffset + 3)
    (.invalidPacket "Packet length shorter than length header.")
  let messagePacketLength ← p.getLength
  Java.throwIf (messagePacketLength + 4 > p.packetLength)
    (.invalidPacket "Encoded packet length longer than length of packet.")
  -- The array is allocated before anything is copied into it.
  if messagePacketLength < 0 then Java.raise .negativeArraySize
  else Java.arraycopy p.data (p.headerBugOffset + MESSAGE_BASE) messagePacketLength.toNat

/-- The code over the first bytes of the message. The keys are hashes and
    hash images, so none of them is empty. -/
def calculateMac (C : Crypto) (key : Bytes) (messageLength : Nat) (p : HandshakePacket) :
    Java Bytes := do
  let message ← Java.region .illegalArgument p.data (p.headerBugOffset + MESSAGE_BASE) messageLength
  .ok (C.hmacSha256 key message)

/-- Write the code of a packet whose message is inside it. -/
def setMac (C : Crypto) (key : Bytes) (macOffset messageLength : Nat) (p : HandshakePacket) :
    HandshakePacket :=
  let message := slice (p.headerBugOffset + MESSAGE_BASE) messageLength p.data
  p.put macOffset ((C.hmacSha256 key message).take 8)

def verifyMac (C : Crypto) (key : Bytes) (macOffset messageLength : Nat) (subhash : Bytes)
    (p : HandshakePacket) : Java Unit := do
  -- The code is compared before the key is held against the hash.
  let digest ← p.calculateMac C key messageLength
  let messageDigest ← Java.arraycopy p.data macOffset 8
  Java.throwIf (digest.take 8 ≠ messageDigest) (.invalidPacket "Bad MAC!")
  Java.throwIf (C.sha256 key ≠ subhash)
    (.invalidPacket "MAC key is not preimage of hash included in message!")

def calculateCRC (data : Bytes) (packetLength : Nat) : Java Nat :=
  if packetLength < 4 then Java.raise .arrayIndexOutOfBounds
  else do
    let covered ← Java.arraycopy data 0 (packetLength - 4)
    .ok (Crc32.crc32 covered).toNat

def verifyCRC (p : HandshakePacket) : Java Bool := do
  -- Both reads throw on a datagram of fewer than four bytes.
  let myCRC ← calculateCRC p.data p.packetLength
  let theirCRC ← Conversions.byteArray4ToLong p.data (p.packetLength - 4)
  .ok (myCRC == theirCRC)

/-- Write the checksum of a packet of at least four bytes. -/
def setCRC (p : HandshakePacket) : HandshakePacket :=
  p.put (p.packetLength - 4) (Conversions.longTo4ByteArray
    (Crc32.crc32 (slice 0 (p.packetLength - 4) p.data)).toNat)

def setSequenceNumber (seqNum : Nat) (p : HandshakePacket) : HandshakePacket :=
  p.put 2 (Conversions.shortToByteArray seqNum)

/-- The number, read as a signed `short`. -/
def getSequenceNumber (p : HandshakePacket) : Java Int :=
  Conversions.byteArrayToShort p.data 2

/-- The type field, except that what is neither kind of handshake packet
    counts as the acknowledgement of a Confirm2. The text is only compared
    with the types, which are ASCII, so its bytes are enough. -/
def getType (p : HandshakePacket) : Java Bytes :=
  match p.data with
  | [] => Java.raise .arrayIndexOutOfBounds
  | first :: _ =>
    if first ≠ PREFIX_VALUE ∧ first ≠ LEGACY_HEADER_BUG_PREFIX_VALUE then .ok CONF_ACK_TYPE
    else Java.region .stringIndexOutOfBounds p.data (MESSAGE_BASE + 4 + p.headerBugOffset) 8

/-- A packet as `sendPacket` and the socket below it send it. -/
def wire (sequence : Nat) (p : HandshakePacket) : HandshakePacket :=
  (p.setSequenceNumber sequence).setCRC

/-! ## Reading -/

theorem headerBugOffset_cases (p : HandshakePacket) :
    p.headerBugOffset = 0 ∨ p.headerBugOffset = 12 := by
  unfold headerBugOffset HEADER_LENGTH
  split_ifs
  · exact Or.inr rfl
  · exact Or.inl rfl

theorem headerBugOffset_le (p : HandshakePacket) : p.headerBugOffset ≤ 12 := by
  rcases headerBugOffset_cases p with h | h <;> omega

theorem headerBugOffset_congr (p q : HandshakePacket) (h : p.data.head? = q.data.head?) :
    p.headerBugOffset = q.headerBugOffset := by
  unfold headerBugOffset isLegacyHeaderBugPresent
  rw [h]

theorem copyOf_ok (p q : HandshakePacket) :
    p.copyOf = .ok q ↔ p.packetLength ≠ 0 ∧ q = ⟨p.data.take p.packetLength, p.packetLength⟩ := by
  unfold copyOf
  by_cases h : p.packetLength = 0
  · rw [if_pos h]
    simp only [Java.raise, reduceCtorEq, ne_eq, h, not_true_eq_false, false_and]
  · rw [if_neg h]
    simp only [Except.ok.injEq, ne_eq, h, not_false_eq_true, true_and, eq_comm]

theorem getLength_ok (p : HandshakePacket) (l : Int) :
    p.getLength = .ok l ↔ 14 + p.headerBugOffset + 2 ≤ p.data.length ∧
      Conversions.toShort (slice (14 + p.headerBugOffset) 2 p.data) = l := by
  simp only [getLength, Conversions.byteArrayToShort, Java.bind_ok, Java.arraycopy, Java.region_ok,
    MESSAGE_BASE, Except.ok.injEq, and_assoc, exists_and_left, exists_eq_left']

/-- The message: as many bytes as the length field says, all in the packet. -/
theorem getMessageBytes_ok (p : HandshakePacket) (m : Bytes) :
    p.getMessageBytes = .ok m ↔ ∃ l : Nat,
      p.getLength = .ok (l : Int) ∧ 17 + p.headerBugOffset ≤ p.packetLength ∧
      l + 4 ≤ p.packetLength ∧ 12 + p.headerBugOffset + l ≤ p.data.length ∧
      m = slice (12 + p.headerBugOffset) l p.data := by
  simp only [getMessageBytes, Java.bind_ok, Java.throwIf_ok, exists_and_left, exists_const,
    decide_eq_false_iff_not, not_lt]
  constructor
  · rintro ⟨hlen, l, hl, hfit, hm⟩
    -- A negative length passes both tests and throws when the array is made.
    by_cases hneg : l < 0
    · rw [if_pos hneg] at hm
      simp only [Java.raise, reduceCtorEq] at hm
    · rw [if_neg hneg, Java.arraycopy, Java.region_ok] at hm
      unfold MESSAGE_BASE at hlen hm
      refine ⟨l.toNat, ?_, by omega, by omega, by omega, ?_⟩
      · rw [Int.toNat_of_nonneg (by omega)]
        exact hl
      · rw [Nat.add_comm 12]
        exact hm.2.symm
  · rintro ⟨l, hl, hlen, hfit, hin, hm⟩
    refine ⟨by unfold MESSAGE_BASE; omega, l, hl, by omega, ?_⟩
    rw [if_neg (by omega), Java.arraycopy, Java.region_ok, Int.toNat_natCast]
    unfold MESSAGE_BASE
    exact ⟨by omega, by rw [Nat.add_comm, hm]⟩

/-- A verified code is that of the message, under a key whose hash is the one
    given. -/
theorem verifyMac_ok (C : Crypto) (key : Bytes) (macOffset messageLength : Nat) (subhash : Bytes)
    (p : HandshakePacket) (u : Unit) :
    p.verifyMac C key macOffset messageLength subhash = .ok u ↔
      p.headerBugOffset + 12 + messageLength ≤ p.data.length ∧
      macOffset + 8 ≤ p.data.length ∧
      (C.hmacSha256 key (slice (p.headerBugOffset + 12) messageLength p.data)).take 8
        = slice macOffset 8 p.data ∧
      C.sha256 key = subhash := by
  simp only [verifyMac, calculateMac, Java.bind_ok, Java.region_ok, Java.arraycopy,
    Java.throwIf_ok, decide_eq_false_iff_not, ne_eq, not_not, MESSAGE_BASE, Except.ok.injEq,
    and_assoc, exists_and_left, exists_eq_left', exists_const]

theorem verifyCRC_ok (p : HandshakePacket) (r : Bool) :
    p.verifyCRC = .ok r ↔ 4 ≤ p.packetLength ∧ p.packetLength ≤ p.data.length ∧
      r = ((Crc32.crc32 (slice 0 (p.packetLength - 4) p.data)).toNat
        == ofBE (slice (p.packetLength - 4) 4 p.data)) := by
  unfold verifyCRC calculateCRC
  -- The checksum's own place would start before the packet.
  by_cases h : p.packetLength < 4
  · rw [if_pos h]
    simp only [Java.bind_ok, Java.raise, reduceCtorEq, false_and, exists_false, false_iff, not_and]
    omega
  · rw [if_neg h]
    simp only [Java.bind_ok, Java.arraycopy, Java.region_ok, Conversions.byteArray4ToLong,
      Except.ok.injEq, and_assoc, exists_and_left, exists_eq_left']
    constructor
    · rintro ⟨_, hlen, hr⟩
      exact ⟨by omega, by omega, hr.symm⟩
    · rintro ⟨_, hlen, hr⟩
      exact ⟨by omega, by omega, hr.symm⟩

/-! ## Sending -/

/-- All of its bytes, with room for a header, a type and a checksum. -/
def Whole (p : HandshakePacket) : Prop :=
  p.data.length = p.packetLength ∧ 28 + p.headerBugOffset ≤ p.packetLength

/-- Equal but for the sequence number and the checksum. -/
structure SameMessage (p q : HandshakePacket) : Prop where
  packetLength_eq : q.packetLength = p.packetLength
  length_eq : q.data.length = p.data.length
  front_eq : slice 0 2 q.data = slice 0 2 p.data
  body_eq : slice 4 (p.packetLength - 8) q.data = slice 4 (p.packetLength - 8) p.data

namespace SameMessage

theorem refl (p : HandshakePacket) : SameMessage p p :=
  ⟨rfl, rfl, rfl, rfl⟩

theorem trans (p q r : HandshakePacket) (h : SameMessage p q) (h' : SameMessage q r) :
    SameMessage p r :=
  -- The bodies are cut by the length of the first packet, which is that of the
  -- second.
  ⟨h'.packetLength_eq.trans h.packetLength_eq, h'.length_eq.trans h.length_eq,
    h'.front_eq.trans h.front_eq, by
      have := h'.body_eq
      rw [h.packetLength_eq] at this
      exact this.trans h.body_eq⟩

/-- A field between the sequence number and the checksum. -/
theorem slice_eq (p q : HandshakePacket) (h : SameMessage p q) (off len : Nat) (hoff : 4 ≤ off)
    (hlen : off + len + 4 ≤ p.packetLength) : slice off len q.data = slice off len p.data :=
  slice_eq_of_slice_eq 4 (p.packetLength - 8) off len _ _ h.body_eq hoff (by omega)

theorem head_eq (p q : HandshakePacket) (h : SameMessage p q) : q.data.head? = p.data.head? := by
  have := getElem?_eq_of_slice_eq 0 0 2 _ _ h.front_eq 0 (by omega)
  rw [Nat.zero_add] at this
  rw [List.head?_eq_getElem?, List.head?_eq_getElem?, this]

theorem headerBugOffset_eq (p q : HandshakePacket) (h : SameMessage p q) :
    q.headerBugOffset = p.headerBugOffset :=
  headerBugOffset_congr q p (head_eq p q h)

theorem whole (p q : HandshakePacket) (h : SameMessage p q) (hp : Whole p) : Whole q := by
  refine ⟨?_, ?_⟩
  · rw [h.length_eq, h.packetLength_eq]
    exact hp.1
  · rw [h.packetLength_eq, headerBugOffset_eq p q h]
    exact hp.2

/-- The message of a packet that has room for its checksum behind it. -/
theorem getMessageBytes_eq (p q : HandshakePacket) (h : SameMessage p q) (hp : Whole p)
    (m : Bytes) (hm : p.getMessageBytes = .ok m)
    (hroom : 16 + p.headerBugOffset + m.length ≤ p.packetLength) :
    q.getMessageBytes = .ok m := by
  have hwhole := hp.2
  rcases (getMessageBytes_ok p m).mp hm with ⟨l, hl, hlen, hfit, hin, rfl⟩
  rw [length_slice _ _ _ hin] at hroom
  rw [getMessageBytes_ok, headerBugOffset_eq p q h, h.packetLength_eq, h.length_eq]
  rw [getLength_ok] at hl
  refine ⟨l, ?_, hlen, hfit, hin, ?_⟩
  · rw [getLength_ok, headerBugOffset_eq p q h, h.length_eq,
      slice_eq p q h _ 2 (by omega) (by omega)]
    exact hl
  · rw [slice_eq p q h _ l (by omega) (by omega)]

theorem getType_eq (p q : HandshakePacket) (h : SameMessage p q) (hp : Whole p) :
    q.getType = p.getType := by
  have hwhole := hp.2
  have hhead := head_eq p q h
  have hbug := headerBugOffset_eq p q h
  unfold getType
  cases hp : p.data with
  | nil =>
      rw [hp, List.head?_nil, List.head?_eq_none_iff] at hhead
      rw [hhead]
  | cons x xs =>
      rw [hp, List.head?_cons] at hhead
      rcases List.head?_eq_some_iff.mp hhead with ⟨ys, hq⟩
      rw [hq]
      simp only []
      rw [← hq, ← hp, hbug]
      unfold Java.region MESSAGE_BASE
      rw [h.length_eq, slice_eq p q h _ 8 (by omega) (by omega)]

end SameMessage

theorem length_setSequenceNumber (seqNum : Nat) (p : HandshakePacket)
    (h : 4 ≤ p.data.length) : (p.setSequenceNumber seqNum).data.length = p.data.length := by
  unfold setSequenceNumber put
  rw [length_blit _ _ _ (by rw [Conversions.length_shortToByteArray]; omega)]

/-- Sending a packet keeps its message. -/
theorem wire_sameMessage (sequence : Nat) (p : HandshakePacket) (hp : Whole p) :
    SameMessage p (p.wire sequence) := by
  rcases hp with ⟨hlen, h28⟩
  have h1 := length_setSequenceNumber sequence p (by omega)
  have h2 := Conversions.length_shortToByteArray sequence
  unfold wire setCRC
  -- The number is in front of the message and the checksum behind it.
  refine ⟨rfl, ?_, ?_, ?_⟩
  · unfold put
    rw [length_blit _ _ _ (by
      rw [Conversions.length_longTo4ByteArray, h1]
      simp only [setSequenceNumber, put]
      omega), h1]
  · unfold put
    rw [slice_blit_of_disjoint _ _ _ _ _ (by
      rw [h1]
      simp only [setSequenceNumber, put]
      omega) (Or.inl (by simp only [setSequenceNumber, put]; omega))]
    unfold setSequenceNumber put
    rw [slice_blit_of_disjoint _ _ _ _ _ (by omega) (Or.inl (by omega))]
  · unfold put
    rw [slice_blit_of_disjoint _ _ _ _ _ (by
      rw [h1]
      simp only [setSequenceNumber, put]
      omega) (Or.inl (by simp only [setSequenceNumber, put]; omega))]
    unfold setSequenceNumber put
    rw [slice_blit_of_disjoint _ _ _ _ _ (by omega) (Or.inr (by omega))]

/-- A packet as sent passes the checksum. -/
theorem verifyCRC_wire (sequence : Nat) (p : HandshakePacket) (hp : Whole p) :
    (p.wire sequence).verifyCRC = .ok true := by
  have hwhole := SameMessage.whole p _ (wire_sameMessage sequence p hp) hp
  rcases hp with ⟨hlen, h28⟩
  have hn : (p.wire sequence).packetLength = p.packetLength := rfl
  rw [verifyCRC_ok, hwhole.1, hn]
  refine ⟨by omega, Nat.le_refl _, ?_⟩
  have h1 := length_setSequenceNumber sequence p (by omega)
  unfold wire setCRC put
  rw [show (p.setSequenceNumber sequence).packetLength = p.packetLength from rfl,
    slice_blit_of_disjoint _ _ _ _ _ (by omega) (Or.inl (by omega)),
    slice_blit_self _ _ _ _ (by omega) (Conversions.length_longTo4ByteArray _)]
  unfold Conversions.longTo4ByteArray
  rw [ofBE_toBE, Nat.mod_eq_of_lt (by exact UInt32.toNat_lt _), beq_self_eq_true]

/-- The number in a packet as sent is what sixteen bits leave of it. -/
theorem getSequenceNumber_wire (sequence : Nat) (p : HandshakePacket) (hp : Whole p) :
    (p.wire sequence).getSequenceNumber
      = .ok (Conversions.toShort (Conversions.shortToByteArray sequence)) := by
  have hwhole := SameMessage.whole p _ (wire_sameMessage sequence p hp) hp
  have hroom := hwhole.2
  have hlen := hwhole.1
  rcases hp with ⟨hdata, h28⟩
  have h1 := length_setSequenceNumber sequence p (by omega)
  have hfield : slice 2 2 (p.wire sequence).data = Conversions.shortToByteArray sequence := by
    -- The checksum is written behind it.
    unfold wire setCRC put
    rw [show (p.setSequenceNumber sequence).packetLength = p.packetLength from rfl,
      slice_blit_of_disjoint _ _ _ _ _ (by omega) (Or.inl (by omega))]
    unfold setSequenceNumber put
    exact slice_blit_self _ _ _ _ (by omega) (Conversions.length_shortToByteArray sequence)
  unfold getSequenceNumber Conversions.byteArrayToShort
  rw [Java.arraycopy, Java.region_of_le _ _ _ _ (by omega), Java.ok_bind, hfield]

/-! ## New packets -/

/-- The bytes the legacy header adds. -/
def legacyOffset (includeLegacyHeaderBug : Bool) : Nat :=
  if includeLegacyHeaderBug then 12 else 0

theorem legacyOffset_le (legacy : Bool) : legacyOffset legacy ≤ 12 := by
  cases legacy with
  | false => decide
  | true => decide

/-- The header of a new packet, which no field written later touches. -/
structure HasHeader (type : Bytes) (length : Nat) (legacy : Bool) (p : HandshakePacket) : Prop where
  packetLength_eq : p.packetLength = 16 + length + legacyOffset legacy
  data_length : p.data.length = 16 + length + legacyOffset legacy
  head_eq : p.data.head? = some (if legacy then LEGACY_HEADER_BUG_PREFIX_VALUE else PREFIX_VALUE)
  length_eq : slice (14 + legacyOffset legacy) 2 p.data = Conversions.shortToByteArray length
  type_eq : slice (16 + legacyOffset legacy) 8 p.data = type

/-- A field of a packet that has room for it. -/
theorem slice_put_self (off : Nat) (src : Bytes) (p : HandshakePacket)
    (h : off + src.length ≤ p.data.length) : slice off src.length (p.put off src).data = src :=
  slice_blit_self off src.length src p.data (by omega) rfl

theorem slice_put_of_disjoint (off o len : Nat) (src : Bytes) (p : HandshakePacket)
    (h : off + src.length ≤ p.data.length) (hd : o + len ≤ off ∨ off + src.length ≤ o) :
    slice o len (p.put off src).data = slice o len p.data :=
  slice_blit_of_disjoint off len o src p.data (by omega) hd

theorem length_put (off : Nat) (src : Bytes) (p : HandshakePacket)
    (h : off + src.length ≤ p.data.length) : (p.put off src).data.length = p.data.length :=
  length_blit off src p.data h

theorem head_put (off : Nat) (src : Bytes) (p : HandshakePacket)
    (h : off + src.length ≤ p.data.length) (hoff : 0 < off) :
    (p.put off src).data.head? = p.data.head? := by
  unfold put
  rw [List.head?_eq_getElem?, List.head?_eq_getElem?, getElem?_blit _ _ _ _ (by omega),
    if_pos hoff]

namespace HasHeader

variable {type : Bytes} {length : Nat} {legacy : Bool} {p : HandshakePacket}

theorem put (h : HasHeader type length legacy p) (off : Nat) (src : Bytes)
    (hoff : 24 + legacyOffset legacy ≤ off)
    (hfit : off + src.length ≤ 16 + length + legacyOffset legacy) :
    HasHeader type length legacy (p.put off src) := by
  have hin : off + src.length ≤ p.data.length := by
    rw [h.data_length]
    exact hfit
  refine ⟨h.packetLength_eq, ?_, ?_, ?_, ?_⟩
  · rw [length_put off src p hin, h.data_length]
  · rw [head_put off src p hin (by omega), h.head_eq]
  · rw [slice_put_of_disjoint off _ _ src p hin (Or.inl (by omega)), h.length_eq]
  · rw [slice_put_of_disjoint off _ _ src p hin (Or.inl (by omega)), h.type_eq]

theorem headerBugOffset_eq (h : HasHeader type length legacy p) :
    p.headerBugOffset = legacyOffset legacy := by
  unfold headerBugOffset isLegacyHeaderBugPresent legacyOffset HEADER_LENGTH
  rw [h.head_eq]
  cases legacy with
  | false => rfl
  | true => rfl

theorem isLegacyHeaderBugPresent_eq (h : HasHeader type length legacy p) :
    p.isLegacyHeaderBugPresent = legacy := by
  unfold isLegacyHeaderBugPresent
  rw [h.head_eq]
  cases legacy with
  | false => rfl
  | true => rfl

theorem whole (h : HasHeader type length legacy p) (hlen : 12 ≤ length) : Whole p := by
  refine ⟨by rw [h.data_length, h.packetLength_eq], ?_⟩
  rw [h.headerBugOffset_eq, h.packetLength_eq]
  omega

/-- The message of a new packet is all of it behind the header. -/
theorem getMessageBytes_eq (h : HasHeader type length legacy p) (hlen : 12 ≤ length)
    (hshort : length < 32768) :
    p.getMessageBytes = .ok (slice (12 + legacyOffset legacy) length p.data) := by
  rw [getMessageBytes_ok, h.headerBugOffset_eq, h.packetLength_eq, h.data_length]
  refine ⟨length, ?_, by omega, by omega, by omega, rfl⟩
  rw [getLength_ok, h.headerBugOffset_eq, h.data_length, h.length_eq]
  exact ⟨by omega, Conversions.toShort_shortToByteArray length hshort⟩

theorem getType_eq (h : HasHeader type length legacy p) (hlen : 12 ≤ length) :
    p.getType = .ok type := by
  rcases List.head?_eq_some_iff.mp h.head_eq with ⟨xs, hp⟩
  have hread : Java.region .stringIndexOutOfBounds p.data (MESSAGE_BASE + 4 + p.headerBugOffset) 8
      = .ok type := by
    rw [Java.region_ok, h.headerBugOffset_eq, h.data_length]
    unfold MESSAGE_BASE
    exact ⟨by omega, h.type_eq⟩
  unfold getType
  rw [hp]
  simp only []
  rw [← hp, hread, if_neg]
  cases legacy with
  | false => decide
  | true => decide

/-- Two fields do not overlap. -/
def Apart (v w : Nat × Bytes) : Prop :=
  v.1 + v.2.length ≤ w.1 ∨ w.1 + w.2.length ≤ v.1

/-- Fields behind the header that do not overlap can all be read back, and
    what lies outside them is left alone. -/
theorem puts (fields : List (Nat × Bytes)) :
    ∀ p : HandshakePacket, HasHeader type length legacy p →
    (∀ w ∈ fields, 24 + legacyOffset legacy ≤ w.1 ∧
      w.1 + w.2.length ≤ 16 + length + legacyOffset legacy) →
    fields.Pairwise Apart →
    HasHeader type length legacy (p.puts fields) ∧
      (∀ w ∈ fields, slice w.1 w.2.length (p.puts fields).data = w.2) ∧
      ∀ o n, (∀ w ∈ fields, o + n ≤ w.1 ∨ w.1 + w.2.length ≤ o) →
        slice o n (p.puts fields).data = slice o n p.data := by
  induction fields with
  | nil =>
      intro p h _ _
      exact ⟨h, fun w hw => absurd hw List.not_mem_nil, fun _ _ _ => rfl⟩
  | cons v fields ih =>
      intro p h hin hapart
      rcases List.pairwise_cons.mp hapart with ⟨hv, hrest⟩
      rcases hin v List.mem_cons_self with ⟨hoff, hfit⟩
      have hlen := h.data_length
      rcases ih (p.put v.1 v.2) (h.put v.1 v.2 hoff hfit)
        (fun w hw => hin w (List.mem_cons_of_mem v hw)) hrest with ⟨hheader, hself, hother⟩
      refine ⟨hheader, fun w hw => ?_, fun o n ho => ?_⟩
      · rcases List.mem_cons.mp hw with rfl | hw
        · -- The first field is read past the later ones.
          refine (hother _ _ (fun u hu => hv u hu)).trans ?_
          exact slice_put_self w.1 w.2 p (by omega)
        · exact hself w hw
      · refine (hother o n (fun w hw => ho w (List.mem_cons_of_mem v hw))).trans ?_
        exact slice_put_of_disjoint v.1 o n v.2 p (by omega) (ho v List.mem_cons_self)

/-- Writing the code keeps the header and everything before the code. -/
theorem setMac (h : HasHeader type length legacy p) (C : Crypto) (key : Bytes)
    (macOffset messageLength : Nat) (hmac : 24 + legacyOffset legacy ≤ macOffset)
    (hfit : macOffset + 8 ≤ 16 + length + legacyOffset legacy)
    (hcover : 12 + legacyOffset legacy + messageLength ≤ macOffset) :
    HasHeader type length legacy (p.setMac C key macOffset messageLength) ∧
      (∀ o n, o + n ≤ macOffset →
        slice o n (p.setMac C key macOffset messageLength).data = slice o n p.data) ∧
      slice macOffset 8 (p.setMac C key macOffset messageLength).data
        = (C.hmacSha256 key (slice (12 + legacyOffset legacy) messageLength
          (p.setMac C key macOffset messageLength).data)).take 8 := by
  have hdigest : ∀ m, ((C.hmacSha256 key m).take 8).length = 8 := by
    intro m
    rw [List.length_take, C.hmacSha256_length]
    rfl
  have hbefore : ∀ o n, o + n ≤ macOffset →
      slice o n (p.setMac C key macOffset messageLength).data = slice o n p.data := by
    intro o n ho
    exact slice_put_of_disjoint _ _ _ _ _ (by rw [hdigest, h.data_length]; omega) (Or.inl ho)
  refine ⟨h.put macOffset _ hmac (by rw [hdigest]; omega), hbefore, ?_⟩
  rw [hbefore _ _ hcover, HandshakePacket.setMac, h.headerBugOffset_eq, MESSAGE_BASE,
    Nat.add_comm (legacyOffset legacy) 12]
  exact slice_blit_self _ _ _ _ (by rw [h.data_length]; omega) (hdigest _)

end HasHeader

/-- A new packet has its header and nothing behind it yet. -/
theorem create_spec (type : Bytes) (length : Nat) (legacy : Bool) (htype : type.length = 8)
    (hlen : 12 ≤ length) :
    HasHeader type length legacy (create type length legacy) ∧
      ∀ off len, 24 + legacyOffset legacy ≤ off → off + len ≤ 16 + length + legacyOffset legacy →
        slice off len (create type length legacy).data = List.replicate len 0 := by
  have hcookie := Conversions.length_longTo4ByteArray COOKIE_VALUE
  have hmagic := Conversions.length_shortToByteArray MAGIC_VALUE
  have hlength := Conversions.length_shortToByteArray length
  unfold create
  simp only [show (if legacy then HEADER_LENGTH else 0) = legacyOffset legacy from rfl]
  generalize hp0 : (⟨List.replicate (HEADER_LENGTH + length + 4 + legacyOffset legacy) 0,
    HEADER_LENGTH + length + 4 + legacyOffset legacy⟩ : HandshakePacket) = p0
  generalize hfirst : (if legacy then LEGACY_HEADER_BUG_PREFIX_VALUE else PREFIX_VALUE) = first
  have h0 : p0.data.length = 16 + length + legacyOffset legacy := by
    rw [← hp0, List.length_replicate]
    unfold HEADER_LENGTH
    omega
  -- Each field is in range, so each packet on the way is as long as the first.
  have h1 := length_put 0 [first] p0 (by rw [List.length_singleton]; omega)
  generalize hp1 : p0.put 0 [first] = p1 at h1 ⊢
  have h2 := length_put 4 (Conversions.longTo4ByteArray COOKIE_VALUE) p1 (by omega)
  generalize hp2 : p1.put 4 (Conversions.longTo4ByteArray COOKIE_VALUE) = p2 at h2 ⊢
  unfold MESSAGE_BASE
  have h3 := length_put (12 + legacyOffset legacy) (Conversions.shortToByteArray MAGIC_VALUE) p2
    (by omega)
  generalize hp3 : p2.put (12 + legacyOffset legacy) (Conversions.shortToByteArray MAGIC_VALUE) = p3
    at h3 ⊢
  have h4 := length_put (12 + 2 + legacyOffset legacy) (Conversions.shortToByteArray length) p3
    (by omega)
  generalize hp4 : p3.put (12 + 2 + legacyOffset legacy) (Conversions.shortToByteArray length) = p4
    at h4 ⊢
  have h5 := length_put (12 + 4 + legacyOffset legacy) type p4 (by omega)
  refine ⟨⟨?_, by omega, ?_, ?_, ?_⟩, ?_⟩
  · rw [← hp4, ← hp3, ← hp2, ← hp1, ← hp0]
    simp only [put, HEADER_LENGTH]
    omega
  · rw [head_put _ _ _ (by omega) (by omega), ← hp4, head_put _ _ _ (by omega) (by omega), ← hp3,
      head_put _ _ _ (by omega) (by omega), ← hp2, head_put _ _ _ (by omega) (by omega), ← hp1,
      hfirst]
    rfl
  · rw [slice_put_of_disjoint _ _ _ _ _ (by omega) (Or.inl (by omega)), ← hp4,
      show 14 + legacyOffset legacy = 12 + 2 + legacyOffset legacy from rfl, ← hlength,
      slice_put_self _ _ _ (by omega)]
  · rw [show 16 + legacyOffset legacy = 12 + 4 + legacyOffset legacy from rfl, ← htype,
      slice_put_self _ _ _ (by omega)]
  · intro off len hoff hfit
    rw [slice_put_of_disjoint _ _ _ _ _ (by omega) (Or.inr (by omega)), ← hp4,
      slice_put_of_disjoint _ _ _ _ _ (by omega) (Or.inr (by omega)), ← hp3,
      slice_put_of_disjoint _ _ _ _ _ (by omega) (Or.inr (by omega)), ← hp2,
      slice_put_of_disjoint _ _ _ _ _ (by omega) (Or.inr (by omega)), ← hp1,
      slice_put_of_disjoint _ _ _ _ _ (by rw [List.length_singleton]; omega)
        (Or.inr (by rw [List.length_singleton]; omega)), ← hp0]
    unfold slice HEADER_LENGTH
    rw [List.drop_replicate, List.take_replicate, Nat.min_eq_left (by omega)]

theorem create_header (type : Bytes) (length : Nat) (legacy : Bool) (htype : type.length = 8)
    (hlen : 12 ≤ length) : HasHeader type length legacy (create type length legacy) :=
  (create_spec type length legacy htype hlen).1

/-- Behind the type a new packet is still empty. -/
theorem slice_create (type : Bytes) (length : Nat) (legacy : Bool) (htype : type.length = 8)
    (hlen : 12 ≤ length) (off len : Nat) (hoff : 24 + legacyOffset legacy ≤ off)
    (hfit : off + len ≤ 16 + length + legacyOffset legacy) :
    slice off len (create type length legacy).data = List.replicate len 0 :=
  (create_spec type length legacy htype hlen).2 off len hoff hfit

end HandshakePacket

end RedPhone
