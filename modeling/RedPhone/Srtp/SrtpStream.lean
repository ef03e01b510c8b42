import RedPhone.Lib.BlockCipher
import RedPhone.Lib.Sha
import RedPhone.Srtp.RtpPacket

/-!
# Encrypted Streams

`SrtpStream` encrypts the payload of a packet in counter mode, starting from a
block that has the number of the packet in it, and appends a code over the
header and the ciphertext. The receiving side checks the code and decrypts.

The number that goes into the block is not the one in the header but the long
one of which the header has the low bits. The code does not cover the rest of
it, so a receiver that goes by another number finds nothing wrong, and returns
what the key stream of that number makes of the ciphertext.

## Main definitions

* `OpenSsl`: The block cipher and the code, with their lengths.
* `SrtpStreamParameters`: The keys of one direction.
* `setIv`: The first counter block of a packet.
* `encrypt`, `decrypt`: The two sides.
* `protect`: What is sent for a payload.
* `Verifies`: A datagram whose code is right.

## Theorems

* `encrypt_ofPayload`: Encrypting a constructed packet.
* `decrypt_ofReceived`: What decrypting a datagram returns.
* `verifies_protect`: The code of what is sent is right.
* `decrypt_protect_eq`, `decrypt_protect`: What comes back is the payload under
  both key streams.
* `read_protect`: What is sent of an encrypted packet.
-/

namespace RedPhone

open Slice

/-- The primitives of the library the stream is built on. -/
structure OpenSsl where
  aesEncrypt : Bytes → Bytes → Bytes
  hmacSha1 : Bytes → Bytes → Bytes
  aesEncrypt_length : ∀ k b, (aesEncrypt k b).length = 16
  hmacSha1_length : ∀ k m, (hmacSha1 k m).length = SRTP_MAC_SIZE

/-- The library itself. -/
def openSsl : OpenSsl where
  aesEncrypt := BlockCipher.Aes.encrypt
  hmacSha1 := Sha.hmac Sha.Sha1.sha1
  aesEncrypt_length := BlockCipher.Aes.length_encrypt
  hmacSha1_length _ _ := Sha.Sha1.length_sha1 _

def SRTP_AES_KEY_SIZE : Nat := 16
def SRTP_SALT_SIZE : Nat := 14
def SRTP_MAC_KEY_SIZE : Nat := 20
def AES_BLOCK_SIZE : Nat := 16

/-- The keys of one direction. -/
structure SrtpStreamParameters where
  cipherKey : Bytes
  macKey : Bytes
  salt : Bytes
  cipherKey_length : cipherKey.length = SRTP_AES_KEY_SIZE
  macKey_length : macKey.length = SRTP_MAC_KEY_SIZE
  salt_length : salt.length = SRTP_SALT_SIZE

namespace SrtpStream

variable (O : OpenSsl) (params : SrtpStreamParameters)

/-- The first counter block: the salt, with sixteen bits of the source and
    forty-eight of the number in the middle of it. -/
def setIv (logicalSequence : Int) (ssrc : UInt32) (salt : Bytes) : Bytes :=
  BlockCipher.xor (salt ++ List.replicate (AES_BLOCK_SIZE - SRTP_SALT_SIZE) 0)
    (List.replicate 6 0 ++ Endian.toBE 2 ssrc.toNat
      ++ Endian.toBE 6 (logicalSequence % 281474976710656).toNat ++ List.replicate 2 0)

/-- The key stream of a number, applied to a text. -/
def cipher (logicalSequence : Int) (ssrc : UInt32) (text : Bytes) : Bytes :=
  BlockCipher.ctr (O.aesEncrypt params.cipherKey) (setIv logicalSequence ssrc params.salt) text

/-- Check the code and decrypt, or fail. -/
def decrypt (packet : RtpPacket) (logicalSequence : Int) : Cpp (Option RtpPacket) := do
  let ssrc ← packet.getSsrc
  if packet.getPayloadLen < SRTP_MAC_SIZE + 1 then
    .ok none
  else
    let covered ← Cpp.read packet.packet 0 (packet.getSerializedPacketLen - SRTP_MAC_SIZE)
    let theirMac ← Cpp.read packet.packet (packet.getSerializedPacketLen - SRTP_MAC_SIZE)
      SRTP_MAC_SIZE
    if O.hmacSha1 params.macKey covered ≠ theirMac then
      .ok none
    else
      let packet := packet.setPayloadLen (Cpp.uint32 (packet.getPayloadLen - SRTP_MAC_SIZE))
      let payload ← Cpp.read packet.packet RTP_HEADER_SIZE packet.getPayloadLen
      let block ← Cpp.write packet.packet RTP_HEADER_SIZE
        (cipher O params logicalSequence ssrc payload)
      .ok (some { packet with packet := block })

/-- Encrypt and append the code. -/
def encrypt (packet : RtpPacket) (logicalSequence : Int) : Cpp RtpPacket := do
  let ssrc ← packet.getSsrc
  let payload ← Cpp.read packet.packet RTP_HEADER_SIZE packet.getPayloadLen
  let block ← Cpp.write packet.packet RTP_HEADER_SIZE
    (cipher O params logicalSequence ssrc payload)
  let covered ← Cpp.read block 0 packet.getSerializedPacketLen
  let block ← Cpp.write block packet.getSerializedPacketLen (O.hmacSha1 params.macKey covered)
  .ok ({ packet with packet := block }.setPayloadLen
    (Cpp.uint32 (packet.getPayloadLen + SRTP_MAC_SIZE)))

/-- What is sent for a payload: the header, the ciphertext, and their code. -/
def protect (logicalSequence : Int) (header payload : Bytes) : Bytes :=
  let covered := header ++ cipher O params logicalSequence 0 payload
  covered ++ O.hmacSha1 params.macKey covered

/-- A datagram with a payload whose code is right. -/
def Verifies (d : Bytes) : Prop :=
  RTP_HEADER_SIZE + SRTP_MAC_SIZE < d.length ∧
    O.hmacSha1 params.macKey (d.take (d.length - SRTP_MAC_SIZE)) = d.drop (d.length - SRTP_MAC_SIZE)

instance (d : Bytes) : Decidable (Verifies O params d) := inferInstanceAs (Decidable (_ ∧ _))

theorem length_cipher (logicalSequence : Int) (ssrc : UInt32) (text : Bytes) :
    (cipher O params logicalSequence ssrc text).length = text.length :=
  BlockCipher.length_ctr (O.aesEncrypt_length _) _ _

/-- The key stream of a number undoes itself. -/
theorem cipher_cipher (logicalSequence : Int) (ssrc : UInt32) (text : Bytes) :
    cipher O params logicalSequence ssrc (cipher O params logicalSequence ssrc text) = text :=
  BlockCipher.ctr_ctr (O.aesEncrypt_length _) _ _

theorem length_protect (logicalSequence : Int) (header payload : Bytes) :
    (protect O params logicalSequence header payload).length
      = header.length + payload.length + SRTP_MAC_SIZE := by
  simp only [protect, List.length_append, length_cipher, O.hmacSha1_length]

/-- Decrypting reads the header, whether there is one or not. -/
theorem le_of_decrypt (packet : RtpPacket) (logicalSequence : Int) (result : Option RtpPacket)
    (h : decrypt O params packet logicalSequence = .ok result) :
    RTP_HEADER_SIZE ≤ packet.packet.length := by
  rcases (Run.bind_ok _ _ _).mp h with ⟨ssrc, hssrc, _⟩
  rcases (Run.bind_ok _ _ _).mp hssrc with ⟨field, hread, _⟩
  have hle := Cpp.le_of_read _ _ _ _ hread
  unfold RTP_HEADER_SIZE
  omega

/-- What decrypting a datagram returns: nothing, unless its code is right. -/
theorem decrypt_ofReceived (d : Bytes) (hmin : RTP_HEADER_SIZE ≤ d.length)
    (hmax : d.length < 2147483648) (logicalSequence : Int) (ssrc : UInt32)
    (hssrc : (RtpPacket.ofReceived d).getSsrc = .ok ssrc) :
    decrypt O params (.ofReceived d) logicalSequence =
      .ok (if Verifies O params d then
        some ⟨blit RTP_HEADER_SIZE (cipher O params logicalSequence ssrc
            (slice RTP_HEADER_SIZE (d.length - (RTP_HEADER_SIZE + SRTP_MAC_SIZE)) d)) d,
          (d.length - (RTP_HEADER_SIZE + SRTP_MAC_SIZE) : Nat)⟩
      else none) := by
  have hget := RtpPacket.getPayloadLen_ofReceived d hmin hmax
  have hserialized := RtpPacket.getSerializedPacketLen_ofReceived d hmin hmax
  unfold RTP_HEADER_SIZE at hmin hget
  unfold decrypt
  rw [hssrc]
  simp only [bind, Except.bind, hget, hserialized, SRTP_MAC_SIZE, RTP_HEADER_SIZE]
  by_cases hshort : d.length < 33
  · rw [if_pos (by omega), if_neg (by unfold Verifies RTP_HEADER_SIZE SRTP_MAC_SIZE; omega)]
  · -- Long enough for a code: every access stays inside the datagram.
    have hcut : (d.length : Int) - ((20 : Nat) : Int) = ((d.length - 20 : Nat) : Int) := by omega
    -- What the code covers, and the code itself.
    have hcovered := Cpp.read_ok d 0 (d.length - 20) (by omega)
    have hmac := Cpp.read_ok d (d.length - 20) 20 (by omega)
    have htake : slice 0 (d.length - 20) d = d.take (d.length - 20) := rfl
    have hdrop : slice (d.length - 20) 20 d = d.drop (d.length - 20) := by
      unfold slice
      exact List.take_of_length_le (by rw [List.length_drop]; omega)
    rw [htake] at hcovered
    rw [hdrop] at hmac
    rw [if_neg (by omega), hcut]
    erw [hcovered, hmac]
    simp only []
    by_cases hverified : O.hmacSha1 params.macKey (d.take (d.length - 20)) = d.drop (d.length - 20)
    · rw [if_neg (fun h => h hverified),
        if_pos (show Verifies O params d from
          ⟨by unfold RTP_HEADER_SIZE SRTP_MAC_SIZE; omega, hverified⟩)]
      -- The payload that is left, as the two conversions hand it on.
      have hleft : ((d.length - 12 : Nat) : Int) - ((20 : Nat) : Int)
          = ((d.length - 32 : Nat) : Int) := by
        omega
      have hstrip : Cpp.uint32 (((d.length - 12 : Nat) : Int) - ((20 : Nat) : Int))
          = ((d.length - 32 : Nat) : Int) := by
        rw [hleft]
        exact Cpp.uint32_of_lt _ (by omega) (by omega)
      have hset : (RtpPacket.ofReceived d).setPayloadLen ((d.length - 32 : Nat) : Int)
          = ⟨d, ((d.length - 32 : Nat) : Int)⟩ := by
        unfold RtpPacket.setPayloadLen
        rw [Cpp.int32_of_lt _ (by omega) (by omega)]
        rfl
      have hlen : (RtpPacket.mk d ((d.length - 32 : Nat) : Int)).getPayloadLen
          = ((d.length - 32 : Nat) : Int) := by
        change Cpp.uint32 ((d.length - 32 : Nat) : Int) = _
        exact Cpp.uint32_of_lt _ (by omega) (by omega)
      have hpart : (slice 12 (d.length - 32) d).length = d.length - 32 :=
        length_slice _ _ _ (by omega)
      -- The payload is deciphered in its place.
      have hread := Cpp.read_ok d 12 (d.length - 32) (by omega)
      have hwrite := Cpp.write_ok d 12
        (cipher O params logicalSequence ssrc (slice 12 (d.length - 32) d))
        (by rw [length_cipher, hpart]; omega)
      rw [hstrip, hset, hlen]
      erw [hread]
      simp only []
      erw [hwrite]
    · rw [if_pos hverified, if_neg (fun h : Verifies O params d => hverified h.2)]

/-- Encrypting a constructed packet leaves what is to be sent in its block. -/
theorem encrypt_ofPayload (payload : Bytes) (sequenceNumber timestamp : UInt32)
    (hmax : payload.length < 2147483616) (logicalSequence : Int) :
    encrypt O params (.ofPayload payload sequenceNumber timestamp) logicalSequence
      = .ok ⟨protect O params logicalSequence (RtpPacket.header sequenceNumber timestamp) payload,
        (payload.length + SRTP_MAC_SIZE : Nat)⟩ := by
  generalize hh : RtpPacket.header sequenceNumber timestamp = h
  have hheader : h.length = 12 := by
    rw [← hh]
    exact RtpPacket.length_header sequenceNumber timestamp
  have hssrc : (RtpPacket.ofPayload payload sequenceNumber timestamp).getSsrc = .ok 0 := by
    unfold RtpPacket.ofPayload
    rw [List.append_assoc]
    exact RtpPacket.getSsrc_header sequenceNumber timestamp _ _
  have hget : (RtpPacket.ofPayload payload sequenceNumber timestamp).getPayloadLen
      = (payload.length : Int) :=
    Cpp.uint32_of_lt _ (Int.natCast_nonneg _) (by
      change (payload.length : Int) < 4294967296
      omega)
  have hserialized : (RtpPacket.ofPayload payload sequenceNumber timestamp).getSerializedPacketLen
      = ((12 + payload.length : Nat) : Int) := by
    change Cpp.int32 ((12 : Nat) + (payload.length : Int)) = _
    rw [← Int.natCast_add]
    exact Cpp.int32_of_lt _ (by omega) (by omega)
  have hblock : (RtpPacket.ofPayload payload sequenceNumber timestamp).packet
      = h ++ payload ++ List.replicate SRTP_MAC_SIZE 0 := by
    rw [← hh]
    rfl
  -- Each access hits one of the pieces of the block.
  have hroom : (List.replicate SRTP_MAC_SIZE (0 : UInt8)).length = SRTP_MAC_SIZE :=
    List.length_replicate
  have hread : Cpp.read (h ++ payload ++ List.replicate SRTP_MAC_SIZE 0) RTP_HEADER_SIZE
      payload.length = .ok payload := by
    rw [Cpp.read_ok _ _ _ (by simp only [List.length_append, hheader, RTP_HEADER_SIZE]; omega)]
    unfold RTP_HEADER_SIZE
    rw [← hheader, slice_append_mid]
  have hwrite : Cpp.write (h ++ payload ++ List.replicate SRTP_MAC_SIZE 0) RTP_HEADER_SIZE
      (cipher O params logicalSequence 0 payload)
        = .ok (h ++ cipher O params logicalSequence 0 payload
          ++ List.replicate SRTP_MAC_SIZE 0) := by
    rw [Cpp.write_ok _ _ _ (by
      simp only [List.length_append, hheader, RTP_HEADER_SIZE, length_cipher]; omega)]
    unfold RTP_HEADER_SIZE
    rw [← hheader, blit_append_mid _ _ _ _ (length_cipher O params _ _ _)]
  have hlength : (h ++ cipher O params logicalSequence 0 payload).length = 12 + payload.length := by
    rw [List.length_append, hheader, length_cipher]
  have hcovered : Cpp.read (h ++ cipher O params logicalSequence 0 payload
      ++ List.replicate SRTP_MAC_SIZE 0) 0 ((12 + payload.length : Nat) : Int)
        = .ok (h ++ cipher O params logicalSequence 0 payload) := by
    rw [← hlength]
    erw [Cpp.read_ok _ 0 _ (by simp only [List.length_append]; omega)]
    rw [slice, List.drop_zero, List.take_left]
  -- The code goes into the room that is left for it.
  have happend : ∀ mac : Bytes, mac.length = SRTP_MAC_SIZE →
      Cpp.write (h ++ cipher O params logicalSequence 0 payload ++ List.replicate SRTP_MAC_SIZE 0)
        ((12 + payload.length : Nat) : Int) mac
        = .ok (h ++ cipher O params logicalSequence 0 payload ++ mac) := by
    intro mac hmac
    rw [← hlength, Cpp.write_ok _ _ _ (by simp only [List.length_append, hroom, hmac]; omega)]
    have hmid := blit_append_mid (h ++ cipher O params logicalSequence 0 payload)
      (List.replicate SRTP_MAC_SIZE 0) [] mac (by rw [hmac, hroom])
    rw [List.append_nil, List.append_nil] at hmid
    rw [hmid]
  have hsum : Cpp.uint32 ((payload.length : Int) + SRTP_MAC_SIZE)
      = ((payload.length + SRTP_MAC_SIZE : Nat) : Int) := by
    rw [← Int.natCast_add]
    exact Cpp.uint32_of_lt _ (Int.natCast_nonneg _) (by unfold SRTP_MAC_SIZE; omega)
  have hset : Cpp.int32 ((payload.length + SRTP_MAC_SIZE : Nat) : Int)
      = ((payload.length + SRTP_MAC_SIZE : Nat) : Int) :=
    Cpp.int32_of_lt _ (by omega) (by unfold SRTP_MAC_SIZE; omega)
  unfold encrypt
  rw [hget, hserialized, hblock]
  refine (Run.bind_ok _ _ _).mpr ⟨0, hssrc, ?_⟩
  refine (Run.bind_ok _ _ _).mpr ⟨_, hread, ?_⟩
  refine (Run.bind_ok _ _ _).mpr ⟨_, hwrite, ?_⟩
  refine (Run.bind_ok _ _ _).mpr ⟨_, hcovered, ?_⟩
  refine (Run.bind_ok _ _ _).mpr ⟨_, happend _ (O.hmacSha1_length _ _), ?_⟩
  rw [Except.ok.injEq, RtpPacket.setPayloadLen, hsum, hset]
  rfl

/-- The code of what is sent is right, if there is a payload. -/
theorem verifies_protect (logicalSequence : Int) (header payload : Bytes)
    (hheader : header.length = RTP_HEADER_SIZE) :
    Verifies O params (protect O params logicalSequence header payload) ↔ payload ≠ [] := by
  have hlen := length_protect O params logicalSequence header payload
  have hcut : (protect O params logicalSequence header payload).length - SRTP_MAC_SIZE
      = (header ++ cipher O params logicalSequence 0 payload).length := by
    rw [hlen, List.length_append, length_cipher]
    omega
  unfold Verifies
  rw [hcut, hlen, hheader, protect, List.take_left, List.drop_left]
  constructor
  · rintro ⟨hlong, _⟩ rfl
    exact absurd hlong (by rw [List.length_nil]; omega)
  · intro hne
    have hpos : 0 < payload.length := List.length_pos_iff.mpr hne
    exact ⟨by omega, rfl⟩

/-- The header of what is sent names no source. -/
theorem getSsrc_protect (logicalSequence : Int) (sequenceNumber timestamp : UInt32)
    (payload : Bytes) :
    (RtpPacket.ofReceived (protect O params logicalSequence
      (RtpPacket.header sequenceNumber timestamp) payload)).getSsrc = .ok 0 := by
  unfold RtpPacket.ofReceived protect
  rw [List.append_assoc]
  exact RtpPacket.getSsrc_header sequenceNumber timestamp _ _

/-- A packet without a payload is dropped. -/
theorem decrypt_protect_nil (logicalSequence received : Int) (sequenceNumber timestamp : UInt32) :
    decrypt O params (.ofReceived (protect O params logicalSequence
      (RtpPacket.header sequenceNumber timestamp) [])) received = .ok none := by
  have hheader := RtpPacket.length_header sequenceNumber timestamp
  have hlen := length_protect O params logicalSequence
    (RtpPacket.header sequenceNumber timestamp) []
  rw [hheader, List.length_nil] at hlen
  rw [decrypt_ofReceived O params _ (by rw [hlen]; omega)
    (by rw [hlen]; unfold RTP_HEADER_SIZE SRTP_MAC_SIZE; omega) received 0
    (getSsrc_protect O params _ _ _ _),
    if_neg (fun h => (verifies_protect O params _ _ _ hheader).mp h rfl)]

/-- The receiver makes a packet of what was sent, with the same header and code
    around what the two key streams make of the payload. -/
theorem decrypt_protect_eq (logicalSequence received : Int) (sequenceNumber timestamp : UInt32)
    (payload : Bytes) (hne : payload ≠ []) (hmax : payload.length < 2147483616) :
    ∃ mac, decrypt O params (.ofReceived (protect O params logicalSequence
        (RtpPacket.header sequenceNumber timestamp) payload)) received
      = .ok (some ⟨RtpPacket.header sequenceNumber timestamp
          ++ cipher O params received 0 (cipher O params logicalSequence 0 payload) ++ mac,
        payload.length⟩) := by
  have hssrc := getSsrc_protect O params logicalSequence sequenceNumber timestamp payload
  have hheader := RtpPacket.length_header sequenceNumber timestamp
  generalize RtpPacket.header sequenceNumber timestamp = h at hssrc hheader ⊢
  have hlen := length_protect O params logicalSequence h payload
  have hverifies := (verifies_protect O params logicalSequence h payload hheader).mpr hne
  -- The receiver finds the length of the payload again.
  have hsize : (protect O params logicalSequence h payload).length
      - (RTP_HEADER_SIZE + SRTP_MAC_SIZE) = payload.length := by
    rw [hlen, hheader]
    omega
  rw [decrypt_ofReceived O params _ (by rw [hlen]; omega)
    (by rw [hlen, hheader]; unfold RTP_HEADER_SIZE SRTP_MAC_SIZE; omega) received 0 hssrc,
    if_pos hverifies, hsize]
  -- The ciphertext is the middle of the datagram, on both sides.
  have hcipher := length_cipher O params logicalSequence 0 payload
  have hmiddle : slice RTP_HEADER_SIZE payload.length (protect O params logicalSequence h payload)
      = cipher O params logicalSequence 0 payload := by
    rw [← hheader, ← hcipher]
    exact slice_append_mid _ _ _
  refine ⟨O.hmacSha1 params.macKey (h ++ cipher O params logicalSequence 0 payload), ?_⟩
  rw [hmiddle, protect, ← hheader, blit_append_mid _ _ _ _ (length_cipher O params _ _ _)]

/-- A receiver that goes by a number of its own returns what the two key
    streams make of the payload, and the code does not tell. -/
theorem decrypt_protect (logicalSequence received : Int) (sequenceNumber timestamp : UInt32)
    (payload : Bytes) (hne : payload ≠ []) (hmax : payload.length < 2147483616) :
    ∃ packet, decrypt O params (.ofReceived (protect O params logicalSequence
        (RtpPacket.header sequenceNumber timestamp) payload)) received = .ok (some packet) ∧
      packet.payload
        = cipher O params received 0 (cipher O params logicalSequence 0 payload) := by
  rcases decrypt_protect_eq O params logicalSequence received sequenceNumber timestamp payload hne
    hmax with ⟨mac, hdecrypt⟩
  refine ⟨_, hdecrypt, ?_⟩
  -- What is deciphered stands between the same header and code.
  have hback := slice_append_mid (RtpPacket.header sequenceNumber timestamp)
    (cipher O params received 0 (cipher O params logicalSequence 0 payload)) mac
  rw [length_cipher, length_cipher, RtpPacket.length_header] at hback
  unfold RtpPacket.payload
  rw [Int.toNat_natCast]
  exact hback

/-- All of the block of an encrypted packet is sent. -/
theorem read_protect (logicalSequence : Int) (sequenceNumber timestamp : UInt32) (payload : Bytes)
    (hmax : payload.length < 2147483616) :
    Cpp.read (protect O params logicalSequence (RtpPacket.header sequenceNumber timestamp) payload)
        0 (RtpPacket.mk (protect O params logicalSequence
            (RtpPacket.header sequenceNumber timestamp) payload)
          (payload.length + SRTP_MAC_SIZE : Nat)).getSerializedPacketLen
      = .ok (protect O params logicalSequence (RtpPacket.header sequenceNumber timestamp)
          payload) := by
  have hlen := length_protect O params logicalSequence
    (RtpPacket.header sequenceNumber timestamp) payload
  rw [RtpPacket.length_header] at hlen
  generalize protect O params logicalSequence (RtpPacket.header sequenceNumber timestamp) payload
    = d at hlen ⊢
  -- The length is computed from the payload field, which counts the code too.
  have hserialized : Cpp.int32 ((RTP_HEADER_SIZE : Nat)
      + ((payload.length + SRTP_MAC_SIZE : Nat) : Int)) = (d.length : Int) := by
    rw [hlen]
    unfold RTP_HEADER_SIZE SRTP_MAC_SIZE
    rw [Cpp.int32_of_lt _ (by omega) (by omega)]
    omega
  unfold RtpPacket.getSerializedPacketLen
  rw [hserialized]
  refine (Cpp.read_ok d 0 _ (Nat.le_of_eq (Nat.zero_add _))).trans ?_
  rw [slice_full]

end SrtpStream

end RedPhone
