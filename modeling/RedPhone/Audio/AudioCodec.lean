import RedPhone.Srtp.RtpAudio

/-!
# Decoding Audio

The payload of a packet goes from the receiver to the jitter buffer, which cuts
a long one into chunks, and each chunk goes to the codec. The codec is a loop:
it has Speex decode one frame after the other, until that fails. Every frame is
written behind the last one, into a buffer for as many samples as the longest
packet of any codec has, and nothing looks at where that buffer ends.

How many frames there are is up to the sender. A frame of the null mode takes
five bits, so nineteen of them, one more than there is room for, are in twelve
bytes. Packets are cut where they would have 320 bytes, which is far too late.

Speex is a parameter here. What is assumed of it is that a frame takes at least
five bits and one of the null mode no more, and that decoding fails only when
fewer than five bits are left, or on a mode that is none.

## Main definitions

* `Speex`: The decoder.
* `AudioCodec.decode`: The loop of the codec.
* `Decodes`: A number of frames can be decoded.
* `PayloadSplitter.splitBySamples`: The chunks of a payload.
* `WebRtcJitterBuffer.addAudio`: What of a packet is to be decoded.
* `Within`: No chunk is decoded to more than there is room for.

## Theorems

* `decodes_iff`: The frames of a chunk are counted by what is written.
* `length_of_decodes`, `decodes_null`: Where there are too many frames.
* `receive_length`: The payloads a receiver returns.
* `within_iff`: The payloads that are decoded within the buffer.
* `within_fails`: Twelve zero bytes.
-/

namespace RedPhone

open Slice

/-! ## The codec -/

/-- The bits of some bytes, the high ones first. -/
def bitsOf (bytes : Bytes) : List Bool :=
  bytes.flatMap fun b => (List.range 8).map fun i => b.toNat.testBit (7 - i)

/-- What a frame begins with: a flag for another layer, and the mode. -/
def frameHeader (bits : List Bool) : Nat :=
  (bits.take 5).foldl (fun n b => 2 * n + b.toNat) 0

/-- The decoder, by what it makes of its state and the bits that are left. Modes
    above 8 are none, or requests, and above them is the flag. -/
structure Speex (σ : Type) where
  init : σ
  decodeInt : σ → List Bool → σ × Option (List Bool)
  consumes : ∀ dec bits dec' left, decodeInt dec bits = (dec', some left) →
    left.length + 5 ≤ bits.length
  null : ∀ dec rest dec' left,
    decodeInt dec (List.replicate 5 false ++ rest) = (dec', some left) → left = rest
  fails : ∀ dec bits dec', decodeInt dec bits = (dec', none) →
    bits.length < 5 ∨ 9 ≤ frameHeader bits

/-- The samples of a frame. -/
def SPEEX_FRAME_SIZE : Nat := 160

/-- The samples there is room for. -/
def kMaxFrameSize : Nat := 2880

namespace AudioCodec

variable {σ : Type} (speex : Speex σ)

/-- The loop: frame after frame, until one fails. What it returns is where the
    next one would be written. -/
def decodeFrom (dec : σ) (bits : List Bool) (rawDataOffset : Nat) : σ × Nat :=
  match _h : speex.decodeInt dec bits with
  | (dec', none) => (dec', rawDataOffset)
  | (dec', some left) => decodeFrom dec' left (rawDataOffset + SPEEX_FRAME_SIZE)
termination_by bits.length
decreasing_by
  have hconsumes := speex.consumes _ _ _ _ ‹_›
  omega

def decode (dec : σ) (encodedData : Bytes) : σ × Nat :=
  decodeFrom speex dec (bitsOf encodedData) 0

/-- A number of frames can be decoded one after the other. -/
def Decodes : Nat → σ → List Bool → Prop
  | 0, _, _ => True
  | n + 1, dec, bits => ∃ dec' left, speex.decodeInt dec bits = (dec', some left) ∧
      Decodes n dec' left

theorem decodeFrom_eq (dec : σ) (bits : List Bool) (rawDataOffset : Nat) :
    decodeFrom speex dec bits rawDataOffset = match speex.decodeInt dec bits with
      | (dec', none) => (dec', rawDataOffset)
      | (dec', some left) => decodeFrom speex dec' left (rawDataOffset + SPEEX_FRAME_SIZE) := by
  rw [decodeFrom]
  split
  · rename_i h
    rw [h]
  · rename_i h
    rw [h]

/-- What is written are whole frames, and as many of them as can be decoded. -/
theorem decodes_iff (dec : σ) (bits : List Bool) (rawDataOffset n : Nat) :
    Decodes speex n dec bits ↔
      rawDataOffset + 160 * n < (decodeFrom speex dec bits rawDataOffset).2 + 160 := by
  induction hlength : bits.length using Nat.strongRecOn generalizing dec bits rawDataOffset n with
  | ind k ih =>
      rw [decodeFrom_eq]
      cases hframe : speex.decodeInt dec bits with
      | mk dec' found =>
          -- A frame that is found takes bits, so what is left is shorter.
          cases found with
          | none =>
              simp only []
              cases n with
              | zero => exact iff_of_true trivial (by omega)
              | succ n =>
                  refine iff_of_false ?_ (by omega)
                  rintro ⟨_, left, hdecodes, _⟩
                  rw [hframe] at hdecodes
                  exact nomatch hdecodes
          | some left =>
              have hshorter := speex.consumes dec bits dec' left hframe
              have hrest := fun n => ih left.length (by omega) dec' left
                (rawDataOffset + SPEEX_FRAME_SIZE) n rfl
              simp only []
              unfold SPEEX_FRAME_SIZE at hrest ⊢
              cases n with
              | zero =>
                  have hstart := (hrest 0).mp trivial
                  exact iff_of_true trivial (by omega)
              | succ n =>
                  -- The decoder does not choose: what it does with the first
                  -- frame is done.
                  have hiff : Decodes speex (n + 1) dec bits ↔ Decodes speex n dec' left := by
                    constructor
                    · rintro ⟨dec'', left', hdecodes, hleft⟩
                      rw [hframe, Prod.mk.injEq, Option.some.injEq] at hdecodes
                      rw [hdecodes.1, hdecodes.2]
                      exact hleft
                    · exact fun hleft => ⟨dec', left, hframe, hleft⟩
                  rw [hiff, hrest n]
                  have hcount : rawDataOffset + 160 + 160 * n = rawDataOffset + 160 * (n + 1) := by
                    omega
                  rw [hcount]

/-- The buffer is overrun by the nineteenth frame. -/
theorem decode_le_iff (dec : σ) (encodedData : Bytes) :
    (decode speex dec encodedData).2 ≤ kMaxFrameSize ↔
      ¬ Decodes speex 19 dec (bitsOf encodedData) := by
  rw [decodes_iff speex dec (bitsOf encodedData) 0 19]
  unfold decode kMaxFrameSize
  omega

/-- Frames take five bits each. -/
theorem length_of_decodes {n : Nat} {dec : σ} {bits : List Bool} (h : Decodes speex n dec bits) :
    5 * n ≤ bits.length := by
  induction n generalizing dec bits with
  | zero => exact Nat.zero_le _
  | succ n ih =>
      rcases h with ⟨dec', left, hframe, hleft⟩
      have hconsumes := speex.consumes dec bits dec' left hframe
      have hrest := ih hleft
      omega

/-- Frames of the null mode take no more. -/
theorem decodes_null (n : Nat) (dec : σ) (rest : List Bool) :
    Decodes speex n dec (List.replicate (5 * n) false ++ rest) := by
  induction n generalizing dec with
  | zero => trivial
  | succ n ih =>
      have hbits : List.replicate (5 * (n + 1)) false ++ rest
          = List.replicate 5 false ++ (List.replicate (5 * n) false ++ rest) := by
        rw [← List.append_assoc, List.replicate_append_replicate, Nat.mul_succ, Nat.add_comm]
      rw [hbits]
      cases hframe : speex.decodeInt dec
          (List.replicate 5 false ++ (List.replicate (5 * n) false ++ rest)) with
      | mk dec' found =>
          cases found with
          | none =>
              -- Five bits are there, and the mode is one.
              rcases speex.fails _ _ _ hframe with hshort | hmode
              · rw [List.length_append, List.length_replicate] at hshort
                omega
              · exact absurd hmode (by
                  unfold frameHeader
                  rw [List.take_left' (List.length_replicate)]
                  decide)
          | some left =>
              refine ⟨dec', left, hframe, ?_⟩
              rw [speex.null _ _ _ _ hframe]
              exact ih dec'

theorem length_bitsOf (bytes : Bytes) : (bitsOf bytes).length = 8 * bytes.length := by
  unfold bitsOf
  induction bytes with
  | nil => rfl
  | cons b bytes ih =>
      rw [List.flatMap_cons, List.length_append, ih, List.length_map, List.length_range,
        List.length_cons]
      omega

/-- A chunk of at most eleven bytes has no more than eighteen frames. -/
theorem not_decodes_of_short (dec : σ) (encodedData : Bytes) (h : encodedData.length ≤ 11) :
    ¬ Decodes speex 19 dec (bitsOf encodedData) := by
  intro hdecodes
  have hlength := length_of_decodes speex hdecodes
  rw [length_bitsOf] at hlength
  omega

/-- A chunk of twelve zero bytes and more has nineteen. -/
theorem decodes_of_zeros (dec : σ) (n : Nat) (h : 12 ≤ n) :
    Decodes speex 19 dec (bitsOf (List.replicate n 0)) := by
  have hbits : ∀ n, bitsOf (List.replicate n 0) = List.replicate (8 * n) false := by
    intro n
    induction n with
    | zero => rfl
    | succ n ih =>
        have hzero : (List.range 8).map (fun i => (0 : UInt8).toNat.testBit (7 - i))
            = List.replicate 8 false := by
          decide
        unfold bitsOf at ih ⊢
        rw [List.replicate_succ, List.flatMap_cons, ih, hzero, List.replicate_append_replicate,
          Nat.mul_succ, Nat.add_comm]
  have hsplit : List.replicate (8 * n) false
      = List.replicate (5 * 19) false ++ List.replicate (8 * n - 95) false := by
    rw [List.replicate_append_replicate]
    congr 1
    omega
  rw [hbits, hsplit]
  exact decodes_null speex 19 dec _

end AudioCodec

/-! ## The chunks of a payload -/

namespace PayloadSplitter

/-- Twenty milliseconds, at eight bytes each. -/
def minChunkSize : Nat := 8 * 20

/-- The size of a chunk: halves, as long as one is no smaller than that. -/
def splitSizeBytes (len : Nat) : Nat :=
  if 2 * minChunkSize ≤ len then splitSizeBytes (len / 2) else len
termination_by len
decreasing_by
  unfold minChunkSize at *
  omega

/-- Chunks of one size, and the last one of less than twice that. -/
def splitInto (size : Nat) (payload : Bytes) : List Bytes :=
  if 0 < size ∧ 2 * size ≤ payload.length then
    payload.take size :: splitInto size (payload.drop size)
  else if 0 < payload.length then [payload] else []
termination_by payload.length
decreasing_by
  rw [List.length_drop]
  omega

/-- The chunks of a payload. One without bytes is never split: its chunks would
    have no size, and the loop no end. -/
def splitBySamples (payload : Bytes) : List Bytes :=
  splitInto (splitSizeBytes payload.length) payload

/-- A chunk is not smaller than the least size, unless the payload is. -/
theorem le_splitSizeBytes (len : Nat) : min minChunkSize len ≤ splitSizeBytes len := by
  induction len using splitSizeBytes.induct with
  | case1 len hlong ih =>
      rw [splitSizeBytes, if_pos hlong]
      unfold minChunkSize at *
      omega
  | case2 len hshort =>
      rw [splitSizeBytes, if_neg hshort]
      exact Nat.min_le_right _ _

/-- A short payload is one chunk. -/
theorem splitBySamples_short (payload : Bytes) (hne : payload ≠ [])
    (h : payload.length < 2 * minChunkSize) : splitBySamples payload = [payload] := by
  have hpos : 0 < payload.length := List.length_pos_iff.mpr hne
  unfold splitBySamples
  rw [splitSizeBytes, if_neg (by omega), splitInto, if_neg (by omega), if_pos hpos]

/-- The first chunk is the beginning of the payload, and all of a short one. -/
theorem first_chunk (payload : Bytes) (hne : payload ≠ []) :
    ∃ n, payload.take n ∈ splitBySamples payload ∧ min minChunkSize payload.length ≤ n := by
  have hpos : 0 < payload.length := List.length_pos_iff.mpr hne
  have hle := le_splitSizeBytes payload.length
  unfold splitBySamples
  rw [splitInto]
  split_ifs
  · exact ⟨_, List.mem_cons_self, hle⟩
  · refine ⟨payload.length, ?_, Nat.min_le_right _ _⟩
    rw [List.take_length]
    exact List.mem_singleton_self _

end PayloadSplitter

/-- `NetEqImpl::InsertPacket`: what it hands on of a payload. One codec is
    registered, under the type 0, as one whose payloads are split by samples. -/
def NetEqImpl.insertPacket (payloadType : Nat) (payload : Bytes) : List Bytes :=
  if payloadType = 0 then PayloadSplitter.splitBySamples payload else []

/-- The chunks of a packet that can come to be decoded. -/
def WebRtcJitterBuffer.addAudio (packet : RtpPacket) : Cpp (List Bytes) := do
  let payloadType ← packet.getPayloadType
  let payload ← Cpp.read packet.packet RTP_HEADER_SIZE packet.getPayloadLen
  .ok (NetEqImpl.insertPacket payloadType payload)

/-- No chunk is decoded to more samples than there is room for, in any state of
    the decoder. -/
def Within {σ : Type} (speex : Speex σ) (chunks : List Bytes) : Prop :=
  ∀ chunk ∈ chunks, ∀ dec, (AudioCodec.decode speex dec chunk).2 ≤ kMaxFrameSize

/-! ## The payloads of a receiver -/

section Receive

variable (O : OpenSsl) (params : SrtpStreamParameters)

/-- A packet that is returned has a payload that fits the buffer, and its block
    has all of it. -/
theorem receive_length {s s' : RtpAudioReceiver} {d : Bytes} {p : RtpPacket}
    (h : s.receive O params RECEIVE_BUFFER_SIZE (some d) = .ok (some p, s')) :
    ∃ n : Nat, p.payloadLen = n ∧ 1 ≤ n ∧ n ≤ 4064 ∧
      RTP_HEADER_SIZE + n ≤ p.packet.length := by
  rcases (RtpAudioReceiver.receive_ok O params s d (some p) s').mp h with ⟨hmin, _, _, hdecrypt⟩
  have htake : (d.take RECEIVE_BUFFER_SIZE).length = min RECEIVE_BUFFER_SIZE d.length :=
    List.length_take
  have hle : RTP_HEADER_SIZE ≤ (d.take RECEIVE_BUFFER_SIZE).length :=
    SrtpStream.le_of_decrypt O params _ _ _ hdecrypt
  unfold RECEIVE_BUFFER_SIZE at *
  generalize d.take 4096 = received at *
  rw [SrtpStream.decrypt_ofReceived O params received hle (by omega) _ _
    (RtpPacket.getSsrc_ok (.ofReceived received) hle), Except.ok.injEq] at hdecrypt
  by_cases hverifies : SrtpStream.Verifies O params received
  · rw [if_pos hverifies, Option.some.injEq] at hdecrypt
    have hlong := hverifies.1
    rw [← hdecrypt]
    unfold RTP_HEADER_SIZE SRTP_MAC_SIZE at *
    refine ⟨received.length - (12 + 20), rfl, by omega, by omega, ?_⟩
    have hpart := length_slice 12 (received.length - (12 + 20)) received (by omega)
    rw [length_blit _ _ _ (by rw [SrtpStream.length_cipher, hpart]; omega)]
    omega
  · rw [if_neg hverifies] at hdecrypt
    exact nomatch hdecrypt

/-- The jitter buffer takes it as it is. -/
theorem addAudio_eq {p : RtpPacket} {n : Nat} (hlen : p.payloadLen = n) (hn : n ≤ 4064)
    (hblock : RTP_HEADER_SIZE + n ≤ p.packet.length) :
    WebRtcJitterBuffer.addAudio p
      = .ok (NetEqImpl.insertPacket (Endian.ofBE (slice 0 2 p.packet).reverse % 128)
          p.payload) := by
  have hget : p.getPayloadLen = (n : Int) := by
    unfold RtpPacket.getPayloadLen
    rw [hlen]
    exact Cpp.uint32_of_lt _ (by omega) (by omega)
  have htype := Cpp.read_ok p.packet 0 2 (by unfold RTP_HEADER_SIZE at hblock; omega)
  have hpayload := Cpp.read_ok p.packet RTP_HEADER_SIZE n hblock
  unfold WebRtcJitterBuffer.addAudio RtpPacket.getPayloadType
  rw [hget]
  erw [htype, hpayload]
  unfold RtpPacket.payload
  rw [hlen]
  rfl

/-- Any payload that fits can be sent to a receiver. -/
theorem receive_payload (payload : Bytes) (hne : payload ≠ []) (hmax : payload.length ≤ 4064) :
    ∃ d p s', RtpAudioReceiver.start.receive O params RECEIVE_BUFFER_SIZE (some d)
        = .ok (some p, s') ∧ p.payload = payload ∧
      WebRtcJitterBuffer.addAudio p = .ok (PayloadSplitter.splitBySamples payload) := by
  have hlen := SrtpStream.length_protect O params 0 (RtpPacket.header 0 0) payload
  rw [RtpPacket.length_header] at hlen
  have hfield : slice 2 2 (SrtpStream.protect O params 0 (RtpPacket.header 0 0) payload)
      = [0, 0] := by
    unfold SrtpStream.protect
    rw [List.append_assoc]
    rfl
  -- The first packet of a call has the number zero on both sides.
  have hnumber : (SequenceCounter.start.next (UInt16.ofNat (Endian.ofBE [0, 0]))).prevLongId
      = 0 := by
    decide
  have htake : (SrtpStream.protect O params 0 (RtpPacket.header 0 0) payload).take
      RECEIVE_BUFFER_SIZE = SrtpStream.protect O params 0 (RtpPacket.header 0 0) payload := by
    refine List.take_of_length_le ?_
    rw [hlen]
    unfold RECEIVE_BUFFER_SIZE RTP_HEADER_SIZE SRTP_MAC_SIZE
    omega
  rcases SrtpStream.decrypt_protect_eq O params 0 0 0 0 payload hne (by omega) with
    ⟨mac, hdecrypt⟩
  rw [SrtpStream.cipher_cipher] at hdecrypt
  have hmiddle := slice_append_mid (RtpPacket.header 0 0) payload mac
  rw [RtpPacket.length_header] at hmiddle
  have hblock : RTP_HEADER_SIZE + payload.length
      ≤ (RtpPacket.header 0 0 ++ payload ++ mac).length := by
    rw [List.length_append, List.length_append, RtpPacket.length_header]
    omega
  have hflags : slice 0 2 (RtpPacket.header 0 0 ++ payload ++ mac) = Endian.toBE 2 32768 := by
    rw [List.append_assoc]
    rfl
  have hreceive := (RtpAudioReceiver.receive_ok O params .start
    (SrtpStream.protect O params 0 (RtpPacket.header 0 0) payload)
    (some ⟨RtpPacket.header 0 0 ++ payload ++ mac, payload.length⟩)
    ⟨SequenceCounter.start.next (UInt16.ofNat (Endian.ofBE [0, 0]))⟩).mpr
      ⟨by rw [hlen, Nat.add_assoc]; exact Nat.le_add_right _ _, by rw [hfield]; rfl,
        by rw [hnumber]; decide, by rw [htake, hnumber]; exact hdecrypt⟩
  refine ⟨_, _, _, hreceive, ?_, ?_⟩
  · unfold RtpPacket.payload
    rw [Int.toNat_natCast]
    exact hmiddle
  · rw [addAudio_eq rfl hmax hblock, hflags, NetEqImpl.insertPacket, if_pos (by decide)]
    unfold RtpPacket.payload
    rw [Int.toNat_natCast, hmiddle]

/-- For every packet that is received, no chunk is decoded beyond the buffer
    exactly if none begins with nineteen frames. The payloads of a length are
    all decoded within the buffer exactly if that is at most eleven. -/
theorem within_iff {σ : Type} (speex : Speex σ) :
    (∀ s d p s', RtpAudioReceiver.receive O params s RECEIVE_BUFFER_SIZE (some d)
        = .ok (some p, s') →
      ∃ chunks, WebRtcJitterBuffer.addAudio p = .ok chunks ∧
        (Within speex chunks ↔
          ∀ chunk ∈ chunks, ∀ dec, ¬ AudioCodec.Decodes speex 19 dec (bitsOf chunk))) ∧
    ∀ n, 1 ≤ n → n ≤ 4064 →
      ((∀ s d p s' chunks, RtpAudioReceiver.receive O params s RECEIVE_BUFFER_SIZE (some d)
          = .ok (some p, s') → p.payload.length = n →
        WebRtcJitterBuffer.addAudio p = .ok chunks → Within speex chunks) ↔ n ≤ 11) := by
  constructor
  · intro s d p s' hreceive
    rcases receive_length O params hreceive with ⟨n, hlen, _, hmax, hblock⟩
    refine ⟨_, addAudio_eq hlen hmax hblock, ?_⟩
    exact forall₂_congr fun chunk _ => forall_congr' fun dec =>
      AudioCodec.decode_le_iff speex dec chunk
  · intro n hpos hmax
    constructor
    · intro hwithin
      have hne : List.replicate n (0 : UInt8) ≠ [] := by
        rw [ne_eq, List.replicate_eq_nil_iff]
        omega
      rcases receive_payload O params (List.replicate n 0) hne
        (by rw [List.length_replicate]; exact hmax) with ⟨d, p, s', hreceive, hpayload, haudio⟩
      rcases PayloadSplitter.first_chunk (List.replicate n 0) hne with ⟨k, hchunk, hk⟩
      have hsafe := hwithin _ d p s' _ hreceive (by rw [hpayload, List.length_replicate]) haudio
        _ hchunk speex.init
      rw [List.take_replicate, AudioCodec.decode_le_iff] at hsafe
      rw [List.length_replicate] at hk
      unfold PayloadSplitter.minChunkSize at hk
      -- Twelve zero bytes at the front of a chunk are too many.
      by_contra hlong
      exact hsafe (AudioCodec.decodes_of_zeros speex _ _ (by omega))
    · intro hshort s d p s' chunks hreceive hlength haudio chunk hchunk dec
      rcases receive_length O params hreceive with ⟨k, hlen, _, hk, hblock⟩
      rw [addAudio_eq hlen hk hblock, Except.ok.injEq, NetEqImpl.insertPacket] at haudio
      have hne : p.payload ≠ [] := by
        rw [← List.length_pos_iff, hlength]
        exact hpos
      have hsplit := PayloadSplitter.splitBySamples_short p.payload hne (by
        unfold PayloadSplitter.minChunkSize
        omega)
      rw [hsplit] at haudio
      rw [← haudio] at hchunk
      -- It is the payload, if its type is that of the codec at all.
      split_ifs at hchunk
      · rw [List.mem_singleton.mp hchunk, AudioCodec.decode_le_iff]
        exact AudioCodec.not_decodes_of_short speex dec p.payload (by omega)
      · exact absurd hchunk List.not_mem_nil

end Receive

/-! ## A payload that is not -/

/-- The bits of a frame, by its mode. -/
def MODE_BITS : List Nat := [5, 43, 119, 160, 220, 300, 364, 492, 79]

/-- The decoder on frames without another layer and without requests. Bits that
    are missing from the last frame are read as zeros. -/
def narrowband : Speex Unit where
  init := ()
  decodeInt _ bits := ((), if bits.length < 5 then none
    else (MODE_BITS[frameHeader bits]?).map bits.drop)
  consumes := by
    intro dec bits dec' left h
    have hsizes : ∀ size ∈ MODE_BITS, 5 ≤ size := by decide
    rw [Prod.mk.injEq, Option.ite_none_left_eq_some, Option.map_eq_some_iff] at h
    rcases h with ⟨_, hlong, size, hsize, rfl⟩
    have hfive := hsizes size (List.mem_of_getElem? hsize)
    rw [List.length_drop]
    omega
  null := by
    intro dec rest dec' left h
    have hheader : frameHeader (List.replicate 5 false ++ rest) = 0 := rfl
    rw [Prod.mk.injEq, Option.ite_none_left_eq_some, hheader] at h
    exact (Option.some.inj h.2.2).symm
  fails := by
    intro dec bits dec' h
    by_cases hshort : bits.length < 5
    · exact Or.inl hshort
    · rw [if_neg hshort, Prod.mk.injEq, Option.map_eq_none_iff, List.getElem?_eq_none_iff] at h
      exact Or.inr h.2

/-- Twelve zero bytes under keys that are zero are received, are one chunk, and
    are decoded to more samples than the buffer has. -/
theorem within_fails :
    ∃ d p s', RtpAudioReceiver.receive openSsl silentKeys .start RECEIVE_BUFFER_SIZE (some d)
        = .ok (some p, s') ∧ p.payload = List.replicate 12 0 ∧
      WebRtcJitterBuffer.addAudio p = .ok [List.replicate 12 0] ∧
      kMaxFrameSize < (AudioCodec.decode narrowband () (List.replicate 12 0)).2 := by
  have hne : List.replicate 12 (0 : UInt8) ≠ [] := by decide
  rcases receive_payload openSsl silentKeys (List.replicate 12 0) hne (by decide) with
    ⟨d, p, s', hreceive, hpayload, haudio⟩
  rw [PayloadSplitter.splitBySamples_short _ hne (by decide)] at haudio
  refine ⟨d, p, s', hreceive, hpayload, haudio, Nat.lt_of_not_le fun hle => ?_⟩
  exact (AudioCodec.decode_le_iff narrowband () _).mp hle
    (AudioCodec.decodes_of_zeros narrowband () 12 (Nat.le_refl 12))

/-- Eleven bytes, whatever they are. -/
theorem within_iff_narrowband :
    ∀ s d p s' chunks, RtpAudioReceiver.receive openSsl silentKeys s RECEIVE_BUFFER_SIZE (some d)
        = .ok (some p, s') → p.payload.length = 11 →
      WebRtcJitterBuffer.addAudio p = .ok chunks → Within narrowband chunks :=
  ((within_iff openSsl silentKeys narrowband).2 11 (by decide) (by decide)).mpr (by decide)

end RedPhone
