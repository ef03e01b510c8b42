import RedPhone.Srtp.RtpAudio

/-!
# Packets That Come Back

What `encrypt` makes of a packet is a datagram that `decrypt` makes the packet
of again, under the same keys and the same number. The payload comes back, and
so does what the header says: the low bits of the number the packet was made
with, its time, and a source that is zero on every packet of the sender.

The other half is about datagrams that are not what was sent. `decrypt` looks
at nothing but the code: it fails exactly when the last twenty bytes are not
the code of all bytes before them. The code and what it covers make up the
whole datagram, so a change that is in one of them only is noticed as soon as
it makes a difference to the code. The number under which the packet is
decrypted has no part in it.

## Main definitions

* `covered`, `tag`: What the code of a datagram covers, and the code.

## Theorems

* `decrypt_none_iff`: When a datagram is turned away.
* `srtp_round_trip`: What is sent comes back, and what is changed does not.
-/

namespace RedPhone

open Slice

namespace SrtpStream

/-- The header and the ciphertext of a datagram. -/
def covered (d : Bytes) : Bytes := d.take (d.length - SRTP_MAC_SIZE)

/-- The code at the end of a datagram. -/
def tag (d : Bytes) : Bytes := d.drop (d.length - SRTP_MAC_SIZE)

variable (O : OpenSsl) (params : SrtpStreamParameters)

/-- A datagram is turned away when it is too short, or its code is wrong. -/
theorem decrypt_none_iff (d : Bytes) (hmin : RTP_HEADER_SIZE ≤ d.length)
    (hmax : d.length < 2147483648) (logicalSequence : Int) :
    decrypt O params (.ofReceived d) logicalSequence = .ok none
      ↔ d.length ≤ RTP_HEADER_SIZE + SRTP_MAC_SIZE ∨
        O.hmacSha1 params.macKey (covered d) ≠ tag d := by
  have hssrc := RtpPacket.getSsrc_ok (.ofReceived d) hmin
  have hiff : Verifies O params d ↔ ¬ (d.length ≤ RTP_HEADER_SIZE + SRTP_MAC_SIZE ∨
      O.hmacSha1 params.macKey (covered d) ≠ tag d) := by
    unfold Verifies covered tag
    rw [not_or, not_le, not_not]
  rw [decrypt_ofReceived O params d hmin hmax logicalSequence _ hssrc, Except.ok.injEq]
  by_cases hverifies : Verifies O params d
  · rw [if_pos hverifies]
    constructor
    · intro h
      exact nomatch h
    · intro h
      exact absurd h (hiff.mp hverifies)
  · rw [if_neg hverifies]
    exact iff_of_true rfl (not_not.mp fun h => hverifies (hiff.mpr h))

/-- The code of what is sent is the code of what it covers. -/
theorem tag_protect (logicalSequence : Int) (header payload : Bytes) :
    tag (protect O params logicalSequence header payload)
      = O.hmacSha1 params.macKey (covered (protect O params logicalSequence header payload)) := by
  have hcut : (protect O params logicalSequence header payload).length - SRTP_MAC_SIZE
      = (header ++ cipher O params logicalSequence 0 payload).length := by
    rw [length_protect, List.length_append, length_cipher]
    omega
  unfold tag covered
  rw [hcut, protect, List.drop_left, List.take_left]

/-- For every payload and all numbers, what is sent of the encrypted packet is
    decrypted under the same number to a packet with the same payload and the
    header fields it was made with. A datagram that differs from what was sent
    is turned away if its code stayed while that of the bytes it covers
    changed, and if nothing but its code changed. A datagram with a header is
    turned away exactly if it has no room for a code and a payload, or another
    code than that of the bytes before it. -/
theorem srtp_round_trip (payload : Bytes) (hne : payload ≠ [])
    (hfits : payload.length < 2147483616) (sequenceNumber timestamp : UInt32)
    (logicalSequence : Int) :
    ∃ packet sent received,
      encrypt O params (.ofPayload payload sequenceNumber timestamp) logicalSequence
        = .ok packet ∧
      Cpp.read packet.packet 0 packet.getSerializedPacketLen = .ok sent ∧
      decrypt O params (.ofReceived sent) logicalSequence = .ok (some received) ∧
      received.payload = payload ∧
      received.getPayloadLen = payload.length ∧
      received.getSequenceNumber = .ok (UInt16.ofNat sequenceNumber.toNat) ∧
      received.getTimestamp = .ok timestamp ∧
      received.getSsrc = .ok 0 ∧
      ∀ (changed : Bytes) (number : Int),
        RTP_HEADER_SIZE ≤ changed.length → changed.length < 2147483648 →
        (tag changed = tag sent → O.hmacSha1 params.macKey (covered changed)
            ≠ O.hmacSha1 params.macKey (covered sent) →
          decrypt O params (.ofReceived changed) number = .ok none) ∧
        (covered changed = covered sent → tag changed ≠ tag sent →
          decrypt O params (.ofReceived changed) number = .ok none) ∧
        (decrypt O params (.ofReceived changed) number = .ok none
          ↔ changed.length ≤ RTP_HEADER_SIZE + SRTP_MAC_SIZE ∨
            O.hmacSha1 params.macKey (covered changed) ≠ tag changed) := by
  have hencrypt := encrypt_ofPayload O params payload sequenceNumber timestamp hfits
    logicalSequence
  have hread := read_protect O params logicalSequence sequenceNumber timestamp payload hfits
  rcases decrypt_protect_eq O params logicalSequence logicalSequence sequenceNumber timestamp
    payload hne hfits with ⟨mac, hdecrypt⟩
  -- The two key streams are one, and cancel.
  rw [cipher_cipher] at hdecrypt
  have htag := tag_protect O params logicalSequence
    (RtpPacket.header sequenceNumber timestamp) payload
  have hmiddle := slice_append_mid (RtpPacket.header sequenceNumber timestamp) payload mac
  rw [RtpPacket.length_header] at hmiddle
  rw [List.append_assoc] at hdecrypt
  refine ⟨_, _, _, hencrypt, hread, hdecrypt, ?_, ?_,
    RtpPacket.getSequenceNumber_header _ _ _ _, RtpPacket.getTimestamp_header _ _ _ _,
    RtpPacket.getSsrc_header _ _ _ _, ?_⟩
  · unfold RtpPacket.payload
    rw [Int.toNat_natCast, ← List.append_assoc]
    exact hmiddle
  · exact Cpp.uint32_of_lt _ (Int.natCast_nonneg _) (by
      change (payload.length : Int) < 4294967296
      omega)
  · intro changed number hmin hmax
    have hiff := decrypt_none_iff O params changed hmin hmax number
    refine ⟨?_, ?_, hiff⟩
    · -- The code is still that of the bytes that were sent.
      intro hsame hother
      refine hiff.mpr (Or.inr ?_)
      rw [hsame, htag]
      exact hother
    · intro hsame hother
      refine hiff.mpr (Or.inr ?_)
      rw [hsame, ← htag]
      exact fun h => hother h.symm

/-- Three bytes under a number beyond the first rollover. -/
theorem srtp_round_trip_rollover :
    ∃ packet sent received,
      encrypt openSsl silentKeys (.ofPayload [1, 2, 3] 70000 5) 70000 = .ok packet ∧
      Cpp.read packet.packet 0 packet.getSerializedPacketLen = .ok sent ∧
      decrypt openSsl silentKeys (.ofReceived sent) 70000 = .ok (some received) ∧
      received.payload = [1, 2, 3] ∧ received.getSequenceNumber = .ok 4464 := by
  rcases srtp_round_trip openSsl silentKeys [1, 2, 3] (List.cons_ne_nil _ _) (by decide) 70000 5
    70000 with ⟨packet, sent, received, hencrypt, hread, hdecrypt, hpayload, _, hnumber, _⟩
  exact ⟨packet, sent, received, hencrypt, hread, hdecrypt, hpayload, hnumber⟩

end SrtpStream

end RedPhone
