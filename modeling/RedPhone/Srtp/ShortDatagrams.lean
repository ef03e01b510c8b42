import RedPhone.Srtp.RtpAudio

/-!
# Short Datagrams

A datagram can be shorter than what `SrtpStream::decrypt` takes for granted. It
compares the length of the payload with that of the code before it goes on,
which turns away a header with too little behind it. The length is handed out
as an unsigned number, though, and a datagram that does not even hold a header
has a payload of negative length, which compares as a very large one.

So there are two kinds of short datagrams. From twelve bytes on everything that
is computed stays inside the packet, and there is a packet to return only when
a code and a byte of payload fit. Below that the test lets everything pass: the
code is looked for in front of the block, and the header behind it.

## Main definitions

* `macOffset`, `stripMac`: What `decrypt` computes on its way.
* `lengths`: Every length and offset, as far as `decrypt` gets.
* `Contained`: A datagram is handled inside its own bytes.

## Theorems

* `decrypt_eq`: `decrypt`, in terms of these.
* `lengths_ofReceived`: What they are for a datagram that has a header.
* `contained_iff`: The datagrams with a header are the ones handled so.
* `contained_fails`: The empty datagram.
-/

namespace RedPhone

namespace SrtpStream

/-- How much the code covers, which is also where it is. -/
def macOffset (packet : RtpPacket) : Int := packet.getSerializedPacketLen - SRTP_MAC_SIZE

/-- The packet, with the code taken off its payload. -/
def stripMac (packet : RtpPacket) : RtpPacket :=
  packet.setPayloadLen (Cpp.uint32 (packet.getPayloadLen - SRTP_MAC_SIZE))

/-- The lengths and offsets `decrypt` computes for a packet: the payload, and
    past the first test the bytes covered, both ends of the code, the payload
    that is left, and both ends of what is decrypted. -/
def lengths (packet : RtpPacket) : List Int :=
  packet.payloadLen :: packet.getPayloadLen ::
    if packet.getPayloadLen < SRTP_MAC_SIZE + 1 then []
    else
      [macOffset packet, macOffset packet + SRTP_MAC_SIZE, (stripMac packet).payloadLen,
        (stripMac packet).getPayloadLen, RTP_HEADER_SIZE,
        RTP_HEADER_SIZE + (stripMac packet).getPayloadLen]

variable (O : OpenSsl) (params : SrtpStreamParameters)

/-- The packet a datagram is made into is handled without a fault, it is only
    returned if the datagram holds a header, a code and a byte, and nothing
    that is computed points outside of it. -/
structure Contained (logicalSequence : Int) (d : Bytes) : Prop where
  returns : ∃ result, decrypt O params (.ofReceived d) logicalSequence = .ok result
  short : d.length < RTP_HEADER_SIZE + SRTP_MAC_SIZE + 1 →
    decrypt O params (.ofReceived d) logicalSequence = .ok none
  inside : ∀ n ∈ lengths (.ofReceived d), 0 ≤ n ∧ n ≤ (d.length : Int)

/-- `decrypt`, in terms of what it computes. -/
theorem decrypt_eq (packet : RtpPacket) (logicalSequence : Int) :
    decrypt O params packet logicalSequence = (do
      let ssrc ← packet.getSsrc
      if packet.getPayloadLen < SRTP_MAC_SIZE + 1 then
        .ok none
      else
        let covered ← Cpp.read packet.packet 0 (macOffset packet)
        let theirMac ← Cpp.read packet.packet (macOffset packet) SRTP_MAC_SIZE
        if O.hmacSha1 params.macKey covered ≠ theirMac then
          .ok none
        else
          let payload ← Cpp.read (stripMac packet).packet RTP_HEADER_SIZE
            (stripMac packet).getPayloadLen
          let block ← Cpp.write (stripMac packet).packet RTP_HEADER_SIZE
            (cipher O params logicalSequence ssrc payload)
          .ok (some { stripMac packet with packet := block })) := by
  rfl

/-- The payload that is left of a datagram, as both conversions hand it on. -/
theorem stripMac_ofReceived (d : Bytes) (hmin : RTP_HEADER_SIZE + SRTP_MAC_SIZE ≤ d.length)
    (hmax : d.length < 2147483648) :
    stripMac (.ofReceived d) = ⟨d, (d.length - (RTP_HEADER_SIZE + SRTP_MAC_SIZE) : Nat)⟩ := by
  have hget := RtpPacket.getPayloadLen_ofReceived d (by omega) hmax
  have hleft : ((d.length - RTP_HEADER_SIZE : Nat) : Int) - SRTP_MAC_SIZE
      = ((d.length - (RTP_HEADER_SIZE + SRTP_MAC_SIZE) : Nat) : Int) := by
    omega
  unfold stripMac RtpPacket.setPayloadLen
  rw [hget, hleft, Cpp.uint32_of_lt _ (by omega) (by omega),
    Cpp.int32_of_lt _ (by omega) (by omega)]
  rfl

/-- What `decrypt` computes for a datagram that has a header. -/
theorem lengths_ofReceived (d : Bytes) (hmin : RTP_HEADER_SIZE ≤ d.length)
    (hmax : d.length < 2147483648) :
    lengths (.ofReceived d) =
      ((d.length - RTP_HEADER_SIZE : Nat) : Int) :: ((d.length - RTP_HEADER_SIZE : Nat) : Int) ::
        if d.length < RTP_HEADER_SIZE + SRTP_MAC_SIZE + 1 then []
        else
          [((d.length - SRTP_MAC_SIZE : Nat) : Int), (d.length : Int),
            ((d.length - (RTP_HEADER_SIZE + SRTP_MAC_SIZE) : Nat) : Int),
            ((d.length - (RTP_HEADER_SIZE + SRTP_MAC_SIZE) : Nat) : Int),
            (RTP_HEADER_SIZE : Int), ((d.length - SRTP_MAC_SIZE : Nat) : Int)] := by
  have hget := RtpPacket.getPayloadLen_ofReceived d hmin hmax
  unfold lengths
  rw [RtpPacket.payloadLen_ofReceived d hmin hmax, hget]
  by_cases hshort : d.length < RTP_HEADER_SIZE + SRTP_MAC_SIZE + 1
  · rw [if_pos hshort, if_pos (by omega)]
  · rw [if_neg hshort, if_neg (by omega)]
    have hmac : macOffset (.ofReceived d) = ((d.length - SRTP_MAC_SIZE : Nat) : Int) := by
      unfold macOffset
      rw [RtpPacket.getSerializedPacketLen_ofReceived d hmin hmax]
      omega
    -- The second conversion takes what the first one has left.
    have hleft : RtpPacket.getPayloadLen
        ⟨d, ((d.length - (RTP_HEADER_SIZE + SRTP_MAC_SIZE) : Nat) : Int)⟩
          = ((d.length - (RTP_HEADER_SIZE + SRTP_MAC_SIZE) : Nat) : Int) :=
      Cpp.uint32_of_lt _ (Int.natCast_nonneg _) (by
        change ((d.length - (RTP_HEADER_SIZE + SRTP_MAC_SIZE) : Nat) : Int) < _
        omega)
    have hend : ((d.length - SRTP_MAC_SIZE : Nat) : Int) + SRTP_MAC_SIZE = (d.length : Int) := by
      omega
    have hplain : (RTP_HEADER_SIZE : Int)
        + ((d.length - (RTP_HEADER_SIZE + SRTP_MAC_SIZE) : Nat) : Int)
          = ((d.length - SRTP_MAC_SIZE : Nat) : Int) := by
      omega
    rw [stripMac_ofReceived d (by omega) hmax, hmac, hleft, hend, hplain]

/-- A datagram is handled inside its own bytes exactly when it has a header: the
    source is read from the header before any length is tested, and behind a
    header every length that is computed is a difference that does not run out.
    -/
theorem contained_iff (logicalSequence : Int) (d : Bytes) (hmax : d.length ≤ RECEIVE_BUFFER_SIZE) :
    Contained O params logicalSequence d ↔ RTP_HEADER_SIZE ≤ d.length := by
  have hfits : d.length < 2147483648 := by
    unfold RECEIVE_BUFFER_SIZE at hmax
    omega
  constructor
  · -- The source is read from the header before anything is tested.
    intro hcontained
    rcases hcontained.returns with ⟨result, hresult⟩
    exact le_of_decrypt O params _ _ _ hresult
  · intro hmin
    have hdecrypt := decrypt_ofReceived O params d hmin hfits logicalSequence _
      (RtpPacket.getSsrc_ok (.ofReceived d) hmin)
    refine ⟨⟨_, hdecrypt⟩, ?_, ?_⟩
    · intro hshort
      -- What is too short for a code is given up before one is looked for.
      have hget := RtpPacket.getPayloadLen_ofReceived d hmin hfits
      rw [decrypt_eq, RtpPacket.getSsrc_ok (.ofReceived d) hmin]
      refine if_pos ?_
      rw [hget]
      omega
    · intro n hn
      -- Every length is a difference that does not run out.
      rw [lengths_ofReceived d hmin hfits] at hn
      by_cases hshort : d.length < RTP_HEADER_SIZE + SRTP_MAC_SIZE + 1
      · rw [if_pos hshort] at hn
        simp only [List.mem_cons, List.not_mem_nil, or_false] at hn
        omega
      · rw [if_neg hshort] at hn
        simp only [List.mem_cons, List.not_mem_nil, or_false] at hn
        omega

/-- A header without a payload is handled inside its own bytes. -/
theorem contained_header :
    Contained openSsl silentKeys 0 (List.replicate RTP_HEADER_SIZE 0) :=
  (contained_iff openSsl silentKeys 0 (List.replicate RTP_HEADER_SIZE 0) (by decide)).mpr
    (by decide)

/-- The empty datagram passes for one with four billion bytes of payload, and
    its code is looked for twenty bytes in front of it. -/
theorem contained_fails :
    (RtpPacket.ofReceived []).getPayloadLen = 4294967284 ∧
    ¬ ((RtpPacket.ofReceived []).getPayloadLen < SRTP_MAC_SIZE + 1) ∧
    macOffset (.ofReceived []) = -20 ∧
    decrypt openSsl silentKeys (.ofReceived []) 0 = .error .outOfBounds ∧
    ¬ Contained openSsl silentKeys 0 [] := by
  refine ⟨by decide, by decide, by decide, by decide, ?_⟩
  intro hcontained
  rcases hcontained.returns with ⟨result, hresult⟩
  exact absurd (le_of_decrypt openSsl silentKeys _ _ _ hresult) (by decide)

end SrtpStream

end RedPhone
