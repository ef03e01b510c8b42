import RedPhone.Zrtp.HandshakePacket

/-!
# The Bounds of a Message

`getMessageBytes` compares the length field with the length of the packet
before it copies the message, and refuses the packet if the field is too large.
The comparison leaves room for the checksum, but not for the twelve bytes in
front of the message, nor for the twelve more of the legacy layout. And the
field is read as a signed number, so one with its top bit set is not too large
for any packet.

What a length field can lead to is therefore one of five things, in the order in
which the code comes to them: `getMessageBytes_eq`. In two of them the message
is not inside the packet, and nothing says so.

## Main definitions

* `messageLength`: The length field, read as it is meant.
* `Exact`: The message is returned from inside the packet, or refused.
* `Bounded`: The lengths for which that is so.

## Theorems

* `getMessageBytes_eq`: What reading a message comes to.
* `exact_iff`: When it is returned from inside the packet, or refused.
* `exact_fails`: A negative length, and messages that run past their packet.
-/

namespace RedPhone

open Slice Endian

namespace HandshakePacket

/-- The length field, as a number of bytes. -/
def messageLength (p : HandshakePacket) : Nat :=
  ofBE (slice (14 + p.headerBugOffset) 2 p.data)

/-- The message is returned, all of it from inside the packet, or the packet is
    refused as invalid. -/
def Exact (p : HandshakePacket) : Prop :=
  (p.getMessageBytes = .ok (slice (12 + p.headerBugOffset) p.messageLength p.data) ∧
    12 + p.headerBugOffset + p.messageLength ≤ p.packetLength) ∨
  ∃ message, p.getMessageBytes = .error (.invalidPacket message)

/-- The packet is too short to be read, or its length field does not have its
    top bit set and is either too large for the comparison or small enough for
    the message to be inside. -/
def Bounded (p : HandshakePacket) : Prop :=
  p.packetLength < 17 + p.headerBugOffset ∨
    p.messageLength < 32768 ∧ (p.packetLength < p.messageLength + 4 ∨
      12 + p.headerBugOffset + p.messageLength ≤ p.packetLength)

instance (p : HandshakePacket) : Decidable p.Bounded := inferInstanceAs (Decidable (_ ∨ _))

/-- The field has two bytes. -/
theorem messageLength_lt (p : HandshakePacket) : p.messageLength < 65536 := by
  have hbound := ofBE_lt (slice (14 + p.headerBugOffset) 2 p.data)
  have hlen : (slice (14 + p.headerBugOffset) 2 p.data).length ≤ 2 := by
    unfold slice
    exact List.length_take_le _ _
  have hpow : 256 ^ (slice (14 + p.headerBugOffset) 2 p.data).length ≤ 256 ^ 2 :=
    Nat.pow_le_pow_right (by omega) hlen
  unfold messageLength
  omega

/-- What reading a message comes to. -/
theorem getMessageBytes_eq (p : HandshakePacket) (hdata : p.packetLength ≤ p.data.length) :
    p.getMessageBytes =
      if p.packetLength < 17 + p.headerBugOffset then
        .error (.invalidPacket "Packet length shorter than length header.")
      else if 32768 ≤ p.messageLength then Java.raise .negativeArraySize
      else if p.packetLength < p.messageLength + 4 then
        .error (.invalidPacket "Encoded packet length longer than length of packet.")
      else if 12 + p.headerBugOffset + p.messageLength ≤ p.data.length then
        .ok (slice (12 + p.headerBugOffset) p.messageLength p.data)
      else Java.raise .arrayIndexOutOfBounds := by
  have hbound := p.messageLength_lt
  unfold getMessageBytes MESSAGE_BASE
  by_cases hlong : p.packetLength < 17 + p.headerBugOffset
  · have hguard : decide (p.packetLength < 12 + 2 + p.headerBugOffset + 3) = true :=
      decide_eq_true (by omega)
    rw [if_pos hlong, hguard]
    rfl
  · have hguard : decide (p.packetLength < 12 + 2 + p.headerBugOffset + 3) = false :=
      decide_eq_false (by omega)
    have hlength := (getLength_ok p _).mpr ⟨by omega, rfl⟩
    rw [if_neg hlong, hguard, Java.throwIf, if_neg Bool.false_ne_true, Java.ok_bind, hlength,
      Java.ok_bind]
    by_cases htop : 32768 ≤ p.messageLength
    · -- The sign makes the field pass the comparison.
      have hneg : Conversions.toShort (slice (14 + p.headerBugOffset) 2 p.data)
          = (p.messageLength : Int) - 65536 :=
        if_neg (Nat.not_lt.mpr htop)
      have hfits : decide ((p.messageLength : Int) - 65536 + 4 > p.packetLength) = false :=
        decide_eq_false (by omega)
      rw [if_pos htop, hneg, hfits, Java.throwIf, if_neg Bool.false_ne_true, Java.ok_bind,
        if_pos (by omega)]
    · have hpos : Conversions.toShort (slice (14 + p.headerBugOffset) 2 p.data)
          = (p.messageLength : Int) :=
        if_pos (Nat.not_le.mp htop)
      rw [if_neg htop, hpos]
      by_cases hlarge : p.packetLength < p.messageLength + 4
      · have hrefuse : decide ((p.messageLength : Int) + 4 > p.packetLength) = true :=
          decide_eq_true (by omega)
        rw [if_pos hlarge, hrefuse]
        rfl
      · have hpass : decide ((p.messageLength : Int) + 4 > p.packetLength) = false :=
          decide_eq_false (by omega)
        rw [if_neg hlarge, hpass, Java.throwIf, if_neg Bool.false_ne_true, Java.ok_bind,
          if_neg (by omega), Int.toNat_natCast, Java.arraycopy, Java.region,
          Nat.add_comm p.headerBugOffset]

/-- The message is returned from inside the packet, or refused, exactly when the
    length field is bounded: not one that is read as a negative number, and not
    one that the test against the length of the packet lets pass though the
    message would end behind it. -/
theorem exact_iff (p : HandshakePacket) (hdata : p.packetLength ≤ p.data.length) :
    p.Exact ↔ p.Bounded := by
  unfold Exact Bounded
  rw [getMessageBytes_eq p hdata]
  by_cases hlong : p.packetLength < 17 + p.headerBugOffset
  · rw [if_pos hlong]
    exact ⟨fun _ => Or.inl hlong, fun _ => Or.inr ⟨_, rfl⟩⟩
  · rw [if_neg hlong]
    by_cases htop : 32768 ≤ p.messageLength
    · rw [if_pos htop]
      constructor
      · rintro (⟨hbytes, _⟩ | ⟨message, herror⟩)
        · exact nomatch hbytes
        · exact nomatch herror
      · intro hbounded
        omega
    · rw [if_neg htop]
      by_cases hlarge : p.packetLength < p.messageLength + 4
      · rw [if_pos hlarge]
        exact ⟨fun _ => Or.inr ⟨by omega, Or.inl hlarge⟩, fun _ => Or.inr ⟨_, rfl⟩⟩
      · rw [if_neg hlarge]
        constructor
        · rintro (⟨_, hinside⟩ | ⟨message, herror⟩)
          · exact Or.inr ⟨by omega, Or.inr hinside⟩
          · -- What is returned or raised here is not a refusal.
            by_cases hin : 12 + p.headerBugOffset + p.messageLength ≤ p.data.length
            · rw [if_pos hin] at herror
              exact nomatch herror
            · rw [if_neg hin] at herror
              exact nomatch herror
        · intro hbounded
          have hinside : 12 + p.headerBugOffset + p.messageLength ≤ p.packetLength := by omega
          rw [if_pos (by omega)]
          exact Or.inl ⟨rfl, hinside⟩

/-- Twenty bytes with a length field, and nothing else in them. -/
def framed (length : Nat) : Bytes :=
  PREFIX_VALUE :: List.replicate 13 0 ++ toBE 2 length ++ List.replicate 4 0

/-- A message of four bytes in a packet of twenty. -/
theorem exact_framed : (HandshakePacket.mk (framed 4) 20).Exact :=
  (exact_iff ⟨framed 4, 20⟩ (by decide +kernel)).mpr (by decide +kernel)

/-- A length with its top bit set asks for an array that cannot be allocated. A
    message of sixteen bytes would need twenty-eight and passes for one that
    fits in twenty: what follows the packet in its buffer is returned with it,
    and if nothing does, the copy fails. -/
theorem exact_fails :
    (HandshakePacket.mk (framed 32768) 20).getMessageBytes
      = .error (.unchecked .negativeArraySize) ∧
    (HandshakePacket.mk (framed 16) 20).getMessageBytes
      = .error (.unchecked .arrayIndexOutOfBounds) ∧
    (HandshakePacket.mk (framed 16 ++ List.replicate 8 255) 20).getMessageBytes
      = .ok (List.replicate 2 0 ++ toBE 2 16 ++ List.replicate 4 0 ++ List.replicate 8 255) ∧
    ¬ (HandshakePacket.mk (framed 32768) 20).Exact := by
  have hraise : (HandshakePacket.mk (framed 32768) 20).getMessageBytes
      = .error (.unchecked .negativeArraySize) := by decide +kernel
  refine ⟨hraise, by decide +kernel, by decide +kernel, ?_⟩
  intro hexact
  rcases hexact with ⟨hbytes, _⟩ | ⟨message, herror⟩
  · rw [hraise] at hbytes
    exact nomatch hbytes
  · rw [hraise] at herror
    exact nomatch herror

end HandshakePacket

end RedPhone
