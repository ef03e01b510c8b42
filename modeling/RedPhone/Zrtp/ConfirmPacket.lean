import RedPhone.Zrtp.MasterSecret

/-!
# Confirm Packets and the Receive Buffer

The packets that end a handshake: the preimage of the hash chain and a cache
interval, encrypted and under a code of the new keys.

A received Confirm packet is the one kind that is not copied when it is
stored. It stays in the socket's receive buffer, together with whatever is
received there afterwards, and decrypting it decrypts the buffer in place.
So a stored Confirm packet is here only an offset and a length, and each of
its methods takes the buffer as it is at the time of the call.

## Main definitions

* `ReceiveBuffer`: The 4096 bytes a socket receives into.
* `ConfirmPacket.create`: The Confirm packet of a party.
* `ConfirmPacket`: A received one, in the buffer.
* `verifyMac`, `decrypt`, `getPreimage`, `getCacheTime`: What is done with it.

## Theorems

* `ReceiveBuffer.slice_receive`: What is in the buffer after a receive.
* `verifyMac_ok`, `decrypt_ok`: What checking and decrypting say.
* `create_made`: The fields of a new Confirm packet.
-/

namespace RedPhone

open Slice HandshakePacket

/-- `RtpSocket.buf`. -/
structure ReceiveBuffer where
  bytes : Bytes
  length_eq : bytes.length = 4096

namespace ReceiveBuffer

def empty : ReceiveBuffer := ⟨List.replicate 4096 0, List.length_replicate⟩

/-- What `DatagramSocket.receive` leaves: as much of the datagram as there is
    room for, over what was there before. -/
def receive (buf : ReceiveBuffer) (datagram : Bytes) : ReceiveBuffer :=
  ⟨overwrite (datagram.take 4096) buf.bytes, by
    rw [length_overwrite _ _ (by rw [List.length_take, buf.length_eq]; omega), buf.length_eq]⟩

/-- Write into the buffer, inside its bounds. -/
def put (buf : ReceiveBuffer) (off : Nat) (src : Bytes) : ReceiveBuffer :=
  if h : off + src.length ≤ 4096 then
    ⟨blit off src buf.bytes, by
      rw [length_blit _ _ _ (by rw [buf.length_eq]; exact h), buf.length_eq]⟩
  else buf

/-- Inside the datagram the buffer is the datagram. -/
theorem slice_receive (buf : ReceiveBuffer) (datagram : Bytes) (off len : Nat)
    (h : off + len ≤ datagram.length) (hfit : off + len ≤ 4096) :
    slice off len (buf.receive datagram).bytes = slice off len datagram := by
  unfold receive
  -- The datagram is cut to the buffer, and the slice lies inside both.
  rw [slice_overwrite_inside _ _ _ _ (by rw [List.length_take]; omega), slice_take _ _ _ _ hfit]

/-- Behind the datagram the buffer is as it was. -/
theorem slice_receive_of_le (buf : ReceiveBuffer) (datagram : Bytes) (off len : Nat)
    (h : datagram.length ≤ off) :
    slice off len (buf.receive datagram).bytes = slice off len buf.bytes := by
  unfold receive
  rw [slice_overwrite_of_le _ _ _ _ (by rw [List.length_take]; omega)]

theorem head_receive (buf : ReceiveBuffer) (datagram : Bytes) (h : datagram ≠ []) :
    (buf.receive datagram).bytes.head? = datagram.head? := by
  cases datagram with
  | nil => exact absurd rfl h
  | cons x xs => rfl

theorem put_bytes (buf : ReceiveBuffer) (off : Nat) (src : Bytes) (h : off + src.length ≤ 4096) :
    (buf.put off src).bytes = blit off src buf.bytes := by
  unfold put
  rw [dif_pos h]

end ReceiveBuffer

/-- A stored Confirm packet: the offset its fields were given when it was
    constructed, and its length. Its bytes are the buffer's. -/
structure ConfirmPacket where
  bugOffset : Nat
  packetLength : Nat

namespace ConfirmPacket

/-- `ConfirmOnePacket.TYPE`. -/
def TYPE_ONE : Bytes := ascii "Confirm1"

/-- `ConfirmTwoPacket.TYPE`. -/
def TYPE_TWO : Bytes := ascii "Confirm2"

theorem length_TYPE_ONE : TYPE_ONE.length = 8 := by decide +kernel

theorem length_TYPE_TWO : TYPE_TWO.length = 8 := by decide +kernel

def CONFIRM_LENGTH : Nat := 76

def ENCRYPTED_LENGTH : Nat := 40

/-- The cache interval this code asks its peer for. -/
def CACHE_TIME : Nat := 0xffffffff

/-- The initialization vector is zero for old peers, and random otherwise. -/
def iv (includeLegacyConfirmPacketBug : Bool) (random : Bytes) : Bytes :=
  if includeLegacyConfirmPacketBug then List.replicate 16 0 else random

/-- The fields are written, encrypted where they are, and then signed. -/
def create (C : Crypto) (type macKey cipherKey : Bytes) (hashChain : HashChain) (iv : Bytes)
    (includeLegacyHeaderBug : Bool) : HandshakePacket :=
  let b := legacyOffset includeLegacyHeaderBug
  let plain := HandshakePacket.create type CONFIRM_LENGTH includeLegacyHeaderBug
    |>.puts [(48 + b, hashChain.h0),
      (84 + b, Conversions.longTo4ByteArray CACHE_TIME),
      (32 + b, iv)]
  let encrypted := plain.put (48 + b) (C.aesCfbEncrypt cipherKey (slice (32 + b) 16 plain.data)
    (slice (48 + b) ENCRYPTED_LENGTH plain.data))
  encrypted.put (24 + b)
    ((C.hmacSha256 macKey (slice (48 + b) ENCRYPTED_LENGTH encrypted.data)).take 8)

/-- The constructor for a received packet, which does not copy it. -/
def ofPacket (p : HandshakePacket) : ConfirmPacket :=
  ⟨p.headerBugOffset, p.packetLength⟩

def verifyMac (C : Crypto) (macKey : Bytes) (buf : ReceiveBuffer) (c : ConfirmPacket) :
    Java Unit := do
  Java.throwIf (c.packetLength < 48 + c.bugOffset + ENCRYPTED_LENGTH)
    (.invalidPacket "Confirm packet too short.")
  -- The code is over the encrypted part only, and not over the vector in front
  -- of it.
  let encrypted ← Java.region .illegalArgument buf.bytes (48 + c.bugOffset) ENCRYPTED_LENGTH
  let givenDigest ← Java.arraycopy buf.bytes (24 + c.bugOffset) 8
  Java.throwIf ((C.hmacSha256 macKey encrypted).take 8 ≠ givenDigest)
    (.invalidPacket "HMAC doesn't match!")

def decrypt (C : Crypto) (cipherKey : Bytes) (buf : ReceiveBuffer) (c : ConfirmPacket) :
    Java ReceiveBuffer := do
  let iv ← Java.arraycopy buf.bytes (32 + c.bugOffset) 16
  let encrypted ← Java.region .illegalArgument buf.bytes (48 + c.bugOffset) ENCRYPTED_LENGTH
  -- The plaintext takes the place of the ciphertext.
  .ok (buf.put (48 + c.bugOffset) (C.aesCfbDecrypt cipherKey iv encrypted))

def getPreimage (buf : ReceiveBuffer) (c : ConfirmPacket) : Java Bytes :=
  Java.arraycopy buf.bytes (48 + c.bugOffset) 32

def getCacheTime (buf : ReceiveBuffer) (c : ConfirmPacket) : Java Nat :=
  Conversions.byteArray4ToLong buf.bytes (84 + c.bugOffset)

/-! ## New packets -/

/-- The fields of a new Confirm packet. What is encrypted begins with the
    preimage and ends with the cache interval. -/
structure Made (C : Crypto) (type macKey cipherKey h0 iv : Bytes) (legacy : Bool)
    (p : HandshakePacket) : Prop where
  header : HasHeader type CONFIRM_LENGTH legacy p
  vector : slice (32 + legacyOffset legacy) 16 p.data = iv
  encrypted : ∃ plain,
    slice (48 + legacyOffset legacy) 40 p.data = C.aesCfbEncrypt cipherKey iv plain
    ∧ slice 0 32 plain = h0 ∧ slice 36 4 plain = Conversions.longTo4ByteArray CACHE_TIME
  mac : slice (24 + legacyOffset legacy) 8 p.data
    = (C.hmacSha256 macKey (slice (48 + legacyOffset legacy) 40 p.data)).take 8

theorem create_made (C : Crypto) (type macKey cipherKey : Bytes) (chain : HashChain) (iv : Bytes)
    (legacy : Bool) (htype : type.length = 8) (hh0 : chain.h0.length = 32)
    (hiv : iv.length = 16) :
    Made C type macKey cipherKey chain.h0 iv legacy
      (create C type macKey cipherKey chain iv legacy) := by
  have hcache := Conversions.length_longTo4ByteArray CACHE_TIME
  have h0 := HandshakePacket.create_header type CONFIRM_LENGTH legacy htype (by decide)
  unfold create ENCRYPTED_LENGTH
  simp only []
  -- What matters of the header is that it is one, and what is written behind it.
  generalize HandshakePacket.create type CONFIRM_LENGTH legacy = p0 at h0 ⊢
  unfold CONFIRM_LENGTH at h0
  have hputs := HasHeader.puts [(48 + legacyOffset legacy, chain.h0),
      (84 + legacyOffset legacy, Conversions.longTo4ByteArray CACHE_TIME),
      (32 + legacyOffset legacy, iv)] p0 h0
    (by
      simp only [List.forall_mem_cons, hh0, hcache, hiv, List.not_mem_nil, false_imp_iff,
        implies_true, and_true]
      omega)
    (by
      simp only [List.pairwise_cons, List.forall_mem_cons, HasHeader.Apart, hh0, hcache, hiv,
        List.not_mem_nil, false_imp_iff, implies_true, and_true, List.Pairwise.nil]
      omega)
  generalize p0.puts _ = p1 at hputs ⊢
  rcases hputs with ⟨h1, hself, _⟩
  simp only [List.forall_mem_cons, hh0, hcache, hiv, List.not_mem_nil, false_imp_iff, implies_true,
    and_true] at hself
  rcases hself with ⟨hself1, hself2, hself3⟩
  have hlen1 := h1.data_length
  -- What is to be encrypted, as it was written.
  generalize hplain : slice (48 + legacyOffset legacy) 40 p1.data = plain
  have hplainLength : plain.length = 40 := by
    rw [← hplain, length_slice _ _ _ (by omega)]
  have hcipher := C.aesCfbEncrypt_length cipherKey (slice (32 + legacyOffset legacy) 16 p1.data)
    plain
  rw [hself3, hplainLength] at hcipher
  rw [hself3]
  -- The packet with its encrypted part, and then its code.
  have h2 := h1.put (48 + legacyOffset legacy) (C.aesCfbEncrypt cipherKey iv plain) (by omega)
    (by omega)
  have hself4 := slice_put_self (48 + legacyOffset legacy) (C.aesCfbEncrypt cipherKey iv plain) p1
    (by omega)
  have hother := fun o n h => slice_put_of_disjoint (48 + legacyOffset legacy) o n
    (C.aesCfbEncrypt cipherKey iv plain) p1 (by omega) h
  rw [hcipher] at hself4 hother
  generalize p1.put (48 + legacyOffset legacy) (C.aesCfbEncrypt cipherKey iv plain) = p2
    at h2 hself4 hother ⊢
  have hlen2 := h2.data_length
  have hdigest : ((C.hmacSha256 macKey (slice (48 + legacyOffset legacy) 40 p2.data)).take 8).length
      = 8 := by
    rw [List.length_take, C.hmacSha256_length]
    rfl
  have h3 := h2.put (24 + legacyOffset legacy)
    ((C.hmacSha256 macKey (slice (48 + legacyOffset legacy) 40 p2.data)).take 8) (by omega)
    (by omega)
  have hother' := fun o n h => slice_put_of_disjoint (24 + legacyOffset legacy) o n
    ((C.hmacSha256 macKey (slice (48 + legacyOffset legacy) 40 p2.data)).take 8) p2 (by omega) h
  have hself5 := slice_put_self (24 + legacyOffset legacy)
    ((C.hmacSha256 macKey (slice (48 + legacyOffset legacy) 40 p2.data)).take 8) p2 (by omega)
  rw [hdigest] at hself5 hother'
  -- The vector and the ciphertext were not touched by the code.
  refine ⟨h3, ?_, ⟨plain, ?_, ?_, ?_⟩, ?_⟩
  · rw [hother' _ _ (by omega), hother _ _ (by omega), hself3]
  · rw [hother' _ _ (by omega), hself4]
  · rw [← hplain, slice_slice _ _ _ _ _ (by omega), Nat.add_zero, hself1]
  · rw [← hplain, slice_slice _ _ _ _ _ (by omega),
      show 48 + legacyOffset legacy + 36 = 84 + legacyOffset legacy by omega, hself2]
  · rw [hself5, hother' _ _ (by omega)]

theorem length_iv (legacyConfirm : Bool) (random : Bytes) (h : random.length = 16) :
    (ConfirmPacket.iv legacyConfirm random).length = 16 := by
  cases legacyConfirm with
  | false => exact h
  | true => rfl

/-! ## Received packets -/

/-- A checked Confirm packet is long enough and carries the code of its
    encrypted part. -/
theorem verifyMac_ok (C : Crypto) (macKey : Bytes) (buf : ReceiveBuffer) (c : ConfirmPacket)
    (hbug : c.bugOffset ≤ 12) (u : Unit) :
    c.verifyMac C macKey buf = .ok u ↔ 88 + c.bugOffset ≤ c.packetLength ∧
      (C.hmacSha256 macKey (slice (48 + c.bugOffset) 40 buf.bytes)).take 8
        = slice (24 + c.bugOffset) 8 buf.bytes := by
  unfold verifyMac ENCRYPTED_LENGTH Java.arraycopy
  rw [Java.region_of_le _ _ _ _ (by rw [buf.length_eq]; omega),
    Java.region_of_le _ _ _ _ (by rw [buf.length_eq]; omega), Java.ok_bind, Java.ok_bind,
    Java.bind_ok]
  simp only [Java.throwIf_ok, decide_eq_false_iff_not, ne_eq, not_not, not_lt, exists_and_left,
    exists_const]
  exact and_congr_left (fun _ => by omega)

/-- Decrypting always returns; only the encrypted part of the buffer changes. -/
theorem decrypt_ok (C : Crypto) (cipherKey : Bytes) (buf buf' : ReceiveBuffer) (c : ConfirmPacket)
    (hbug : c.bugOffset ≤ 12) :
    c.decrypt C cipherKey buf = .ok buf' ↔ buf' = buf.put (48 + c.bugOffset)
      (C.aesCfbDecrypt cipherKey (slice (32 + c.bugOffset) 16 buf.bytes)
        (slice (48 + c.bugOffset) 40 buf.bytes)) := by
  unfold decrypt ENCRYPTED_LENGTH Java.arraycopy
  rw [Java.region_of_le _ _ _ _ (by rw [buf.length_eq]; omega),
    Java.region_of_le _ _ _ _ (by rw [buf.length_eq]; omega), Java.ok_bind, Java.ok_bind,
    Except.ok.injEq]
  exact eq_comm

/-- What was encrypted is in the buffer afterwards. -/
theorem slice_decrypt (C : Crypto) (cipherKey : Bytes) (buf buf' : ReceiveBuffer)
    (c : ConfirmPacket) (hbug : c.bugOffset ≤ 12) (h : c.decrypt C cipherKey buf = .ok buf') :
    slice (48 + c.bugOffset) 40 buf'.bytes = C.aesCfbDecrypt cipherKey
      (slice (32 + c.bugOffset) 16 buf.bytes) (slice (48 + c.bugOffset) 40 buf.bytes) := by
  rw [decrypt_ok C cipherKey buf buf' c hbug] at h
  -- The cipher keeps the length.
  have hlen := C.aesCfbDecrypt_length cipherKey (slice (32 + c.bugOffset) 16 buf.bytes)
    (slice (48 + c.bugOffset) 40 buf.bytes)
  rw [length_slice _ _ _ (by rw [buf.length_eq]; omega)] at hlen
  rw [h, ReceiveBuffer.put_bytes _ _ _ (by omega)]
  exact slice_blit_self _ _ _ _ (by rw [buf.length_eq]; omega) hlen

theorem getPreimage_ok (buf : ReceiveBuffer) (c : ConfirmPacket) (hbug : c.bugOffset ≤ 12) :
    c.getPreimage buf = .ok (slice (48 + c.bugOffset) 32 buf.bytes) :=
  Java.region_of_le _ _ _ _ (by rw [buf.length_eq]; omega)

theorem getCacheTime_ok (buf : ReceiveBuffer) (c : ConfirmPacket) (hbug : c.bugOffset ≤ 12) :
    c.getCacheTime buf = .ok (Endian.ofBE (slice (84 + c.bugOffset) 4 buf.bytes)) := by
  unfold getCacheTime Conversions.byteArray4ToLong Java.arraycopy
  rw [Java.region_of_le _ _ _ _ (by rw [buf.length_eq]; omega), Java.ok_bind]

end ConfirmPacket

end RedPhone
