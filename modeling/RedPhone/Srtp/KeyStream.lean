import RedPhone.Lib.CounterMode
import RedPhone.Srtp.RtpAudio

/-!
# Key Streams That Do Not Meet

Two payloads under one key must not meet the same key stream. The first
counter block of a packet has its number in the six bytes before the last two,
xored with the salt, and the last two are zeros of the salt that the counter
goes up in. There are 2^16 counts before it would leave them, which is more
than a packet has blocks for, so the number of the packet can be told from any
of its counter blocks. The source is xored into other bytes, and is the same
for all packets of one sender.

The number is the long one. Its low sixteen bits are all that is sent, and
they come around every 2^16 packets; the counter block has forty-eight bits of
it, and those do not.

## Main definitions

* `ivFront`: The bytes of a first counter block that are not counted in.
* `bytePlace`: The byte of key stream that a byte of a payload meets.

## Theorems

* `setIv_eq`: A first counter block is a front with two zeros.
* `ivFront_injective`: The number can be told from the front.
* `getElem?_cipher`: A byte under its byte of key stream.
* `keyStream_never_reused`: No two bytes meet the same one.
-/

namespace RedPhone

open Slice

namespace SrtpStream

open BlockCipher

/-- The bytes of a first counter block in which nothing is counted. -/
def ivFront (logicalSequence : Int) (ssrc : UInt32) (salt : Bytes) : Bytes :=
  xor salt (List.replicate 6 0 ++ Endian.toBE 2 ssrc.toNat
    ++ Endian.toBE 6 (logicalSequence % 281474976710656).toNat)

/-- The counter block, and the byte of it, for a byte of a payload. -/
def bytePlace (params : SrtpStreamParameters) (logicalSequence : Int) (ssrc : UInt32) (j : Nat) :
    Bytes × Nat :=
  place (setIv logicalSequence ssrc params.salt) j

theorem length_ivFront (logicalSequence : Int) (ssrc : UInt32) (salt : Bytes)
    (hsalt : salt.length = SRTP_SALT_SIZE) :
    (ivFront logicalSequence ssrc salt).length = 14 := by
  unfold ivFront
  rw [length_xor, hsalt, List.length_append, List.length_append, List.length_replicate,
    Endian.length_toBE, Endian.length_toBE]
  rfl

/-- A first counter block is a front with two zeros behind it. -/
theorem setIv_eq (logicalSequence : Int) (ssrc : UInt32) (salt : Bytes)
    (hsalt : salt.length = SRTP_SALT_SIZE) :
    setIv logicalSequence ssrc salt
      = ivFront logicalSequence ssrc salt ++ List.replicate 2 0 := by
  have hlen : salt.length = (List.replicate 6 (0 : UInt8) ++ Endian.toBE 2 ssrc.toNat
      ++ Endian.toBE 6 (logicalSequence % 281474976710656).toNat).length := by
    rw [hsalt, List.length_append, List.length_append, List.length_replicate, Endian.length_toBE,
      Endian.length_toBE]
    rfl
  unfold setIv ivFront BlockCipher.xor
  rw [List.zipWith_append hlen]
  rfl

/-- A number of forty-eight bits can be told from the front. -/
theorem ivFront_injective (m n : Int) (ssrc : UInt32) (salt : Bytes)
    (hsalt : salt.length = SRTP_SALT_SIZE) (hm : 0 ≤ m ∧ m < 2 ^ 48) (hn : 0 ≤ n ∧ n < 2 ^ 48)
    (h : ivFront m ssrc salt = ivFront n ssrc salt) : m = n := by
  have hlen : ∀ k : Int, (List.replicate 6 (0 : UInt8) ++ Endian.toBE 2 ssrc.toNat
      ++ Endian.toBE 6 (k % 281474976710656).toNat).length ≤ salt.length := by
    intro k
    rw [hsalt, List.length_append, List.length_append, List.length_replicate, Endian.length_toBE,
      Endian.length_toBE]
    exact Nat.le_refl _
  -- The salt and the source cancel, and six bytes hold the number.
  have hbytes := List.append_cancel_left (xor_left_cancel salt _ _ (hlen m) (hlen n) h)
  have hnumber := congrArg Endian.ofBE hbytes
  rw [Endian.ofBE_toBE, Endian.ofBE_toBE] at hnumber
  omega

/-- Packets and places that share a counter block are the same. -/
theorem counterBlock_setIv_injective (m n : Int) (ssrc : UInt32) (salt : Bytes)
    (hsalt : salt.length = SRTP_SALT_SIZE) (hm : 0 ≤ m ∧ m < 2 ^ 48) (hn : 0 ≤ n ∧ n < 2 ^ 48)
    (i j : Nat) (hi : i < 65536) (hj : j < 65536)
    (h : counterBlock (setIv m ssrc salt) i = counterBlock (setIv n ssrc salt) j) :
    m = n ∧ i = j := by
  rw [setIv_eq m ssrc salt hsalt, setIv_eq n ssrc salt hsalt] at h
  have hm' : (ivFront m ssrc salt).length + 2 = 16 := by rw [length_ivFront m ssrc salt hsalt]
  have hn' : (ivFront n ssrc salt).length + 2 = 16 := by rw [length_ivFront n ssrc salt hsalt]
  rcases counterBlock_injective _ _ 2 hm' hn' i j (by omega) (by omega) h with ⟨hfront, hcount⟩
  exact ⟨ivFront_injective m n ssrc salt hsalt hm hn hfront, hcount⟩

variable (O : OpenSsl) (params : SrtpStreamParameters)

/-- A byte under its byte of key stream. -/
theorem getElem?_cipher (logicalSequence : Int) (ssrc : UInt32) (text : Bytes) (j : Nat) :
    (cipher O params logicalSequence ssrc text)[j]?
      = text[j]?.map (· ^^^ keyByte (O.aesEncrypt params.cipherKey)
          (bytePlace params logicalSequence ssrc j)) :=
  getElem?_ctr (O.aesEncrypt_length _) _ _ _

/-- What is sent has the ciphertext behind its header. -/
theorem getElem?_protect (logicalSequence : Int) (header payload : Bytes)
    (hheader : header.length = RTP_HEADER_SIZE) (j : Nat) (hj : j < payload.length) :
    (protect O params logicalSequence header payload)[RTP_HEADER_SIZE + j]?
      = some (payload[j]
          ^^^ keyByte (O.aesEncrypt params.cipherKey) (bytePlace params logicalSequence 0 j)) := by
  have hcipher : j < (cipher O params logicalSequence 0 payload).length := by
    rw [length_cipher]
    exact hj
  unfold protect
  rw [List.append_assoc, List.getElem?_append_right (by omega), hheader, Nat.add_sub_cancel_left,
    List.getElem?_append_left hcipher, getElem?_cipher, List.getElem?_eq_getElem hj]
  rfl

/-- The counter blocks of two packets with different numbers are disjoint, and
    they are what the payloads of these packets are xored with. So no two bytes
    that a sender encrypts in a run meet the same byte of key stream. -/
theorem keyStream_never_reused :
    (∀ (ssrc : UInt32) (m n : Int) (a b : Bytes), 0 ≤ m ∧ m < 2 ^ 48 → 0 ≤ n ∧ n < 2 ^ 48 →
      m ≠ n → a.length ≤ 2 ^ 16 * AES_BLOCK_SIZE → b.length ≤ 2 ^ 16 * AES_BLOCK_SIZE →
      List.Disjoint (counterBlocks (setIv m ssrc params.salt) a.length)
        (counterBlocks (setIv n ssrc params.salt) b.length)) ∧
    (∀ (ssrc : UInt32) (n : Int) (text : Bytes) (j : Nat) (hj : j < text.length),
      (bytePlace params n ssrc j).1 ∈ counterBlocks (setIv n ssrc params.salt) text.length ∧
      (cipher O params n ssrc text)[j]? = some (text[j]
        ^^^ keyByte (O.aesEncrypt params.cipherKey) (bytePlace params n ssrc j))) ∧
    ∀ frames : List Frame, frames.length < 2 ^ 32 →
      ∃ sent, RtpAudioSender.sendAll O params .start frames = .ok sent ∧
        (∀ (p : Nat) frame (j : Nat), frames[p]? = some frame → ∀ hj : j < frame.encodedData.length,
          ∃ d, sent[p]? = some d ∧ d[RTP_HEADER_SIZE + j]? = some (frame.encodedData[j]
            ^^^ keyByte (O.aesEncrypt params.cipherKey) (bytePlace params p 0 j))) ∧
        ∀ (p q : Nat) frame frame' (j k : Nat), frames[p]? = some frame → frames[q]? = some frame' →
          j < frame.encodedData.length → k < frame'.encodedData.length →
          bytePlace params p 0 j = bytePlace params q 0 k → p = q ∧ j = k := by
  refine ⟨?_, ?_, ?_⟩
  · intro ssrc m n a b hm hn hne ha hb block hblock hblock'
    rcases List.mem_map.mp hblock with ⟨i, hi, hi'⟩
    rcases List.mem_map.mp hblock' with ⟨j, hj, hj'⟩
    rw [List.mem_range] at hi hj
    unfold AES_BLOCK_SIZE at ha hb
    exact hne (counterBlock_setIv_injective m n ssrc params.salt params.salt_length hm hn i j
      (by omega) (by omega) (hi'.trans hj'.symm)).1
  · intro ssrc n text j hj
    refine ⟨List.mem_map.mpr ⟨j / 16, List.mem_range.mpr (by omega), rfl⟩, ?_⟩
    rw [getElem?_cipher, List.getElem?_eq_getElem hj]
    rfl
  · intro frames hfew
    have hsent := RtpAudioSender.sendAll_ok O params frames 0 (by omega)
    refine ⟨_, hsent, ?_, ?_⟩
    · intro p frame j hframe hj
      refine ⟨RtpAudioSender.datagram O params p frame, ?_,
        getElem?_protect O params p _ _ (RtpPacket.length_header _ _) j hj⟩
      rw [List.getElem?_mapIdx, hframe, Nat.zero_add]
      rfl
    · intro p q frame frame' j k hp hq hj hk hplace
      have hframe := frame.length_le
      have hframe' := frame'.length_le
      unfold ENCODED_AUDIO_SIZE at hframe hframe'
      -- The packets are numbered by their place in the run.
      have hlen : p < frames.length := (List.getElem?_eq_some_iff.mp hp).1
      have hlen' : q < frames.length := (List.getElem?_eq_some_iff.mp hq).1
      rcases Prod.mk.inj hplace with ⟨hblock, hoffset⟩
      rcases counterBlock_setIv_injective p q 0 params.salt params.salt_length
        (by omega) (by omega) _ _ (by omega) (by omega) hblock with ⟨hnumber, hcount⟩
      exact ⟨by omega, by omega⟩

/-- Two packets a rollover apart have the same low bits, and no counter block in
    common. -/
theorem keyStream_never_reused_rollover :
    List.Disjoint (counterBlocks (setIv 5 0 silentKeys.salt) 33)
      (counterBlocks (setIv 65541 0 silentKeys.salt) 33) :=
  (keyStream_never_reused openSsl silentKeys).1 0 5 65541 (List.replicate 33 0)
    (List.replicate 33 0) (by decide) (by decide) (by decide) (by decide) (by decide)

end SrtpStream

end RedPhone
