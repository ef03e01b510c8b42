import RedPhone.Zrtp.Undisturbed

/-!
# Packets Read Back

Every class of handshake packet has a constructor that writes its fields and
one that reads them from a packet received. Offsets, lengths and the extents of
codes are written down twice, for two header layouts and two key agreements,
and this module puts the two halves together: a packet constructed, sent under
any sequence number and received by any socket of either role passes its
checksum, has its type, its message, and in each field what was written there.

One value does not come back. The sequence number has two bytes in a packet,
and its getter reads them as a signed `short`.

## Main definitions

* `PacketKind`: The packets of a handshake.
* `PacketFields`: What they are constructed from.
* `construct`: The constructor of each kind.
* `Arrives`: What every packet received has in common.
* `ReadBack`: What the getters and checks of each kind give.

## Theorems

* `arrives_wire`: A packet with a header arrives.
* `codec_round_trip`: A packet constructed, sent and received is read back.
* `codec_truncates`: Values that do not fit their fields.
-/

namespace RedPhone

open Slice HandshakePacket Undisturbed

/-- The packets of a handshake, by class. -/
inductive PacketKind
  | hello
  | helloAck
  | commit (t : AgreementType)
  | dhPartOne (t : AgreementType)
  | dhPartTwo (t : AgreementType)
  | confirmOne
  | confirmTwo
  | confAck
  deriving DecidableEq

/-- The `TYPE` of each class. -/
def PacketKind.type : PacketKind → Bytes
  | .hello => HelloPacket.TYPE
  | .helloAck => HELLO_ACK_TYPE
  | .commit _ => CommitPacket.TYPE
  | .dhPartOne _ => DHPacket.TYPE_ONE
  | .dhPartTwo _ => DHPacket.TYPE_TWO
  | .confirmOne => ConfirmPacket.TYPE_ONE
  | .confirmTwo => ConfirmPacket.TYPE_TWO
  | .confAck => CONF_ACK_TYPE

/-- What a party constructs its packets from: each value as long as the field
    it goes into. -/
structure PacketFields where
  h0 : Bytes
  zid : Bytes
  version : Version
  pvr : AgreementType → Bytes
  retainedSecrets : RetainedSecretsDerivatives
  random : DHPacket.RandomBytes
  /-- The message of the Hello a Commit answers. -/
  helloBytes : Bytes
  macKey : Bytes
  cipherKey : Bytes
  includeLegacyConfirmPacketBug : Bool
  confirmIv : Bytes
  h0_length : h0.length = 32
  zid_length : zid.length = 12
  pvr_length : ∀ t, (pvr t).length = t.pvrLength
  rs1ID_length : ∀ id, retainedSecrets.rs1ID = some id → id.length = 8
  rs2ID_length : ∀ id, retainedSecrets.rs2ID = some id → id.length = 8
  confirmIv_length : confirmIv.length = 16

namespace PacketFields

variable (C : Crypto) (f : PacketFields) (includeLegacyHeaderBug : Bool)

def hashChain : HashChain := HashChain.create C f.h0

def dhPart (type : Bytes) (t : AgreementType) : DHPacket :=
  DHPacket.create C type t (f.hashChain C) (f.pvr t) f.retainedSecrets f.random
    includeLegacyHeaderBug

def confirm (type : Bytes) : HandshakePacket :=
  ConfirmPacket.create C type f.macKey f.cipherKey (f.hashChain C)
    (ConfirmPacket.iv f.includeLegacyConfirmPacketBug f.confirmIv) includeLegacyHeaderBug

/-- The constructor of each class. Only that of a Commit declares an exception,
    since it reads the message of the DHPart2 it commits to. -/
def construct : PacketKind → Java HandshakePacket
  | .hello => .ok (HelloPacket.create C (f.hashChain C) f.zid f.version includeLegacyHeaderBug)
  | .helloAck => .ok (HandshakePacket.create HELLO_ACK_TYPE 12 includeLegacyHeaderBug)
  | .commit t => CommitPacket.create C (f.hashChain C) f.helloBytes
      (f.dhPart C includeLegacyHeaderBug DHPacket.TYPE_TWO t) f.zid includeLegacyHeaderBug
  | .dhPartOne t => .ok (f.dhPart C includeLegacyHeaderBug DHPacket.TYPE_ONE t).packet
  | .dhPartTwo t => .ok (f.dhPart C includeLegacyHeaderBug DHPacket.TYPE_TWO t).packet
  | .confirmOne => .ok (f.confirm C includeLegacyHeaderBug ConfirmPacket.TYPE_ONE)
  | .confirmTwo => .ok (f.confirm C includeLegacyHeaderBug ConfirmPacket.TYPE_TWO)
  | .confAck => .ok (HandshakePacket.create CONF_ACK_TYPE 12 includeLegacyHeaderBug)

/-- The getters and the check of a DHPart. -/
structure DHReadBack (t : AgreementType) (d : DHPacket) : Prop where
  pvr : d.getPvr = .ok (f.pvr t)
  rs1 : d.getDerivativeSecretOne = .ok (f.retainedSecrets.rs1ID.getD f.random.rs1)
  rs2 : d.getDerivativeSecretTwo = .ok (f.retainedSecrets.rs2ID.getD f.random.rs2)
  hash : d.getHash = .ok (f.hashChain C).h1
  mac : d.verifyMac C (f.hashChain C).h0 = .ok ()

/-- The getters and the check of a Hello. -/
structure HelloReadBack (q : HandshakePacket) : Prop where
  length : q.getLength = .ok ((88 + f.version.keyAgreements.length * 4 : Nat) : Int)
  zid : HelloPacket.getZID q = .ok f.zid
  clientId : HelloPacket.getClientId q = .ok (Text.decodeUtf8 f.version.clientId)
  keyAgreements : HelloPacket.getKeyAgreementOptions q = .ok f.version.keyAgreements
  mac : HelloPacket.verifyMac C (f.hashChain C).h2 q = .ok ()

/-- The getters and the checks of a Commit. -/
structure CommitReadBack (t : AgreementType) (q : HandshakePacket) : Prop where
  hash : CommitPacket.getHash q = .ok (f.hashChain C).h2
  keyAgreement : CommitPacket.getKeyAgreementType q = .ok t.spec
  hvi : ∃ dhBytes, (f.dhPart C includeLegacyHeaderBug DHPacket.TYPE_TWO t).packet.getMessageBytes
      = .ok dhBytes ∧
    CommitPacket.getHvi q = .ok (CommitPacket.calculateHvi C f.helloBytes dhBytes) ∧
    CommitPacket.verifyHvi C f.helloBytes dhBytes q = .ok ()
  mac : CommitPacket.verifyMac C (f.hashChain C).h1 q = .ok ()

/-- What the class of a packet reads: all but the Confirm packets from their
    copy `q`, those from the buffer of the socket. -/
def ReadBack {ρ : Type} (s : ZRTPSocket ρ) (datagram : Bytes) (q : HandshakePacket) :
    PacketKind → Prop
  | .hello => f.HelloReadBack C q
  | .helloAck => True
  | .commit t => f.CommitReadBack C includeLegacyHeaderBug t q
  | .dhPartOne t => f.DHReadBack C t ⟨q, t⟩
  | .dhPartTwo t => f.DHReadBack C t ⟨q, t⟩
  | .confirmOne => ∃ buf', ConfirmAccepted C f.macKey f.cipherKey f.h0
      (ConfirmPacket.ofPacket (s.received datagram)) (s.buf.receive datagram) buf'
  | .confirmTwo => ∃ buf', ConfirmAccepted C f.macKey f.cipherKey f.h0
      (ConfirmPacket.ofPacket (s.received datagram)) (s.buf.receive datagram) buf'
  | .confAck => True

end PacketFields

/-- What every packet that is received as it was sent has in common: as the
    socket sees it in its buffer, and as its copy `q`. -/
structure Arrives {ρ : Type} (s : ZRTPSocket ρ) (type : Bytes) (legacy : Bool) (sequence : Nat)
    (p q : HandshakePacket) (datagram : Bytes) : Prop where
  crc : (s.received datagram).verifyCRC = .ok true
  type : (s.received datagram).getType = .ok type ∧ q.getType = .ok type
  legacy : (s.received datagram).isLegacyHeaderBugPresent = legacy ∧
    q.isLegacyHeaderBugPresent = legacy
  copy : (s.received datagram).copyOf = .ok q
  message : ∃ m, p.getMessageBytes = .ok m ∧ (s.received datagram).getMessageBytes = .ok m ∧
    q.getMessageBytes = .ok m
  number : sequence < 32768 → (s.received datagram).getSequenceNumber = .ok sequence ∧
    q.getSequenceNumber = .ok sequence

/-- The message of a packet is read from the buffer as from the packet. -/
theorem getMessageBytes_received {ρ : Type} (q : HandshakePacket) (m : Bytes) (s : ZRTPSocket ρ)
    (hq : Sendable q) (hm : q.getMessageBytes = .ok m) :
    (s.received q.data).getMessageBytes = .ok m := by
  have hdatagram := ofDatagram_data q hq
  have hlen := hq.1.1
  have hmax := hq.2
  have hroom := hq.1.2
  have hne : q.data ≠ [] := by
    intro hnil
    rw [hnil, List.length_nil] at hlen
    omega
  have hbug := ZRTPSocket.headerBugOffset_received q.data s hne
  rw [hdatagram] at hbug
  have hbuf : (s.received q.data).data.length = 4096 := (s.buf.receive q.data).length_eq
  rcases (getMessageBytes_ok q m).mp hm with ⟨l, hl, h17, hfit, hin, rfl⟩
  rw [getLength_ok] at hl
  rw [getMessageBytes_ok, hbug, packetLength_received q hq s, hbuf]
  refine ⟨l, ?_, h17, hfit, by omega, ?_⟩
  · rw [getLength_ok, hbug, hbuf, slice_received_data q hq s _ 2 (by omega)]
    exact ⟨by omega, hl.2⟩
  · rw [slice_received_data q hq s _ l (by omega)]

/-- A packet with a header arrives. -/
theorem arrives_wire {ρ : Type} (s : ZRTPSocket ρ) (type : Bytes) (length : Nat) (legacy : Bool)
    (sequence : Nat) (p : HandshakePacket) (hp : HasHeader type length legacy p)
    (hlen : 12 ≤ length) (hmax : length ≤ 1000) :
    Arrives s type legacy sequence p (p.wire sequence) (p.wire sequence).data := by
  have hsend : Sendable p := sendable_of_header hp hlen (by omega)
  have hsame := wire_sameMessage sequence p hsend.1
  have hwire := sendable_of_sameMessage p _ hsame hsend
  rcases received_wire p hsend sequence s with ⟨hcrc, htype, hcopy⟩
  have hptype := hp.getType_eq hlen
  have hmessage := hp.getMessageBytes_eq hlen (by omega)
  have hpacket := hp.packetLength_eq
  have hroom := hp.data_length
  have hqmessage := SameMessage.getMessageBytes_eq p _ hsame hsend.1 _ hmessage (by
    rw [length_slice _ _ _ (by omega), hp.headerBugOffset_eq]
    omega)
  -- A packet has its header at least.
  have hne : (p.wire sequence).data ≠ [] := by
    intro hnil
    have h0 := hsame.length_eq
    rw [hnil, List.length_nil] at h0
    omega
  have hhead := SameMessage.head_eq p _ hsame
  have hqlegacy : (p.wire sequence).isLegacyHeaderBugPresent = legacy := by
    have hplegacy := hp.isLegacyHeaderBugPresent_eq
    unfold isLegacyHeaderBugPresent at hplegacy ⊢
    rw [hhead]
    exact hplegacy
  refine ⟨hcrc, ⟨htype.trans hptype, ?_⟩, ⟨?_, hqlegacy⟩, hcopy, ⟨_, hmessage, ?_, hqmessage⟩, ?_⟩
  · rw [SameMessage.getType_eq p _ hsame hsend.1]
    exact hptype
  · -- The first byte of the buffer is that of the datagram.
    unfold isLegacyHeaderBugPresent at hqlegacy ⊢
    unfold ZRTPSocket.received
    rw [ReceiveBuffer.head_receive _ _ hne]
    exact hqlegacy
  · exact getMessageBytes_received _ _ s hwire hqmessage
  · -- The number is read as a signed short, so it comes back below 32768.
    intro hsequence
    have hnumber := getSequenceNumber_wire sequence p hsend.1
    rw [Conversions.toShort_shortToByteArray sequence hsequence] at hnumber
    refine ⟨?_, hnumber⟩
    have hbytes : slice 2 2 (s.buf.receive (p.wire sequence).data).bytes
        = slice 2 2 (p.wire sequence).data :=
      slice_received_data _ hwire s 2 2 (by rw [hsame.packetLength_eq]; omega)
    unfold getSequenceNumber Conversions.byteArrayToShort at hnumber ⊢
    unfold ZRTPSocket.received
    rw [Java.arraycopy, Java.region_of_le _ _ _ _ (by rw [hsame.length_eq]; omega),
      Java.ok_bind] at hnumber
    rw [Java.arraycopy, Java.region_of_le _ _ _ _ (by
      rw [(s.buf.receive (p.wire sequence).data).length_eq]; omega), Java.ok_bind, hbytes]
    exact hnumber

namespace PacketFields

variable {C : Crypto} {f : PacketFields} {legacy : Bool}

/-- The ids of the retained secrets, or random bytes, fill their fields. -/
theorem length_getD (id : Option Bytes) (random : Bytes) (hid : ∀ x, id = some x → x.length = 8)
    (hrandom : random.length = 8) : (id.getD random).length = 8 := by
  cases id with
  | none => exact hrandom
  | some x => exact hid x rfl

theorem dhPart_made (C : Crypto) (f : PacketFields) (legacy : Bool) (type : Bytes)
    (htype : type.length = 8) (t : AgreementType) :
    DHPacket.Made C type t (f.hashChain C) (f.pvr t) f.retainedSecrets f.random legacy
      (f.dhPart C legacy type t) :=
  DHPacket.create_made htype (C.sha256_length _) (f.pvr_length t)
    (length_getD _ _ f.rs1ID_length f.random.rs1_length)
    (length_getD _ _ f.rs2ID_length f.random.rs2_length)

theorem confirm_made (C : Crypto) (f : PacketFields) (legacy : Bool) (type : Bytes)
    (htype : type.length = 8) :
    ConfirmPacket.Made C type f.macKey f.cipherKey f.h0
      (ConfirmPacket.iv f.includeLegacyConfirmPacketBug f.confirmIv) legacy
      (f.confirm C legacy type) :=
  ConfirmPacket.create_made C type f.macKey f.cipherKey (f.hashChain C) _ legacy htype f.h0_length
    (ConfirmPacket.length_iv _ _ f.confirmIv_length)

theorem helloReadBack_of_sameMessage (p q : HandshakePacket)
    (hp : HelloPacket.Made C (f.hashChain C) f.zid f.version legacy p) (h : SameMessage p q) :
    f.HelloReadBack C q := by
  have hcount := f.version.keyAgreements_count
  have hroom := hp.header.packetLength_eq
  refine ⟨?_, HelloPacket.getZID_made p q hp h, HelloPacket.getClientId_made p q hp h,
    HelloPacket.getKeyAgreementOptions_made p q hp h, HelloPacket.verifyMac_made p q hp rfl h⟩
  rw [getLength_ok, SameMessage.headerBugOffset_eq p q h, hp.header.headerBugOffset_eq, h.length_eq,
    hp.header.data_length, SameMessage.slice_eq p q h _ 2 (by omega) (by omega),
    hp.header.length_eq]
  exact ⟨by omega, Conversions.toShort_shortToByteArray _ (by omega)⟩

theorem dhReadBack_of_sameMessage (type : Bytes) (t : AgreementType) (d : DHPacket)
    (q : HandshakePacket)
    (hd : DHPacket.Made C type t (f.hashChain C) (f.pvr t) f.retainedSecrets f.random legacy d)
    (h : SameMessage d.packet q) : f.DHReadBack C t ⟨q, t⟩ :=
  ⟨DHPacket.getPvr_made d ⟨q, t⟩ hd h rfl, DHPacket.getDerivativeSecretOne_made d ⟨q, t⟩ hd h,
    DHPacket.getDerivativeSecretTwo_made d ⟨q, t⟩ hd h, DHPacket.getHash_made d ⟨q, t⟩ hd h,
    DHPacket.verifyMac_made d ⟨q, t⟩ hd rfl h rfl⟩

theorem commitReadBack_of_sameMessage (t : AgreementType) (dhBytes : Bytes)
    (hdh : (f.dhPart C legacy DHPacket.TYPE_TWO t).packet.getMessageBytes = .ok dhBytes)
    (p q : HandshakePacket)
    (hp : CommitPacket.Made C (f.hashChain C) f.helloBytes dhBytes f.zid t legacy p)
    (h : SameMessage p q) : f.CommitReadBack C legacy t q := by
  refine ⟨CommitPacket.getHash_made p q hp h, CommitPacket.getKeyAgreementType_made p q hp h,
    ⟨dhBytes, hdh, ?_, CommitPacket.verifyHvi_made p q hp h⟩,
    CommitPacket.verifyMac_made p q hp rfl h⟩
  rw [CommitPacket.getHvi, CommitPacket.read_made p q hp h 88 32 (by omega) (by omega), hp.hvi]

end PacketFields

/-- A packet of any kind, constructed with either header, sent under any number
    and received by any socket, arrives with its message, and its class reads
    from it what it was constructed with. -/
theorem codec_round_trip {ρ : Type} (C : Crypto) (f : PacketFields) (includeLegacyHeaderBug : Bool)
    (sequence : Nat) (s : ZRTPSocket ρ) (kind : PacketKind) :
    ∃ p q, f.construct C includeLegacyHeaderBug kind = .ok p ∧
      Arrives s kind.type includeLegacyHeaderBug sequence p q (p.wire sequence).data ∧
      f.ReadBack C includeLegacyHeaderBug s (p.wire sequence).data q kind := by
  generalize includeLegacyHeaderBug = legacy
  have hwire : ∀ {type length p}, HasHeader type length legacy p → 12 ≤ length →
      length ≤ 1000 → SameMessage p (p.wire sequence) :=
    fun hp hlen hmax => wire_sameMessage sequence _ (sendable_of_header hp hlen (by omega)).1
  cases kind with
  | hello =>
      have hcount := f.version.keyAgreements_count
      have hmade := @HelloPacket.create_made C (f.hashChain C) f.zid f.version legacy
        (C.sha256_length _) f.zid_length
      exact ⟨_, _, rfl, arrives_wire s _ _ legacy sequence _ hmade.header (by omega) (by omega),
        PacketFields.helloReadBack_of_sameMessage _ _ hmade
          (hwire hmade.header (by omega) (by omega))⟩
  | helloAck =>
      exact ⟨_, _, rfl, arrives_wire s _ _ legacy sequence _
        (create_header HELLO_ACK_TYPE 12 legacy length_HELLO_ACK_TYPE (by omega)) (by omega)
        (by omega), trivial⟩
  | commit t =>
      have hlen := t.dhLength_eq
      have hpvr := t.pvrLength_le
      have hdh := f.dhPart_made C legacy DHPacket.TYPE_TWO DHPacket.length_TYPE_TWO t
      have hbytes := hdh.header.getMessageBytes_eq (by omega) (by omega)
      -- The message of the DHPart2 can be read, so the constructor returns.
      have hok : ∃ p, CommitPacket.create C (f.hashChain C) f.helloBytes
          (f.dhPart C legacy DHPacket.TYPE_TWO t) f.zid legacy = .ok p := by
        unfold CommitPacket.create
        simp only []
        rw [hbytes, Java.ok_bind]
        exact ⟨_, rfl⟩
      rcases hok with ⟨p, hp⟩
      have hmade := CommitPacket.create_made (f.dhPart C legacy DHPacket.TYPE_TWO t) p
        (C.sha256_length _) f.zid_length hbytes hp
      exact ⟨p, _, hp, arrives_wire s _ _ legacy sequence p hmade.header (by decide) (by decide),
        PacketFields.commitReadBack_of_sameMessage t _ hbytes p _ hmade
          (hwire hmade.header (by decide) (by decide))⟩
  | dhPartOne t =>
      have hlen := t.dhLength_eq
      have hpvr := t.pvrLength_le
      have hmade := f.dhPart_made C legacy DHPacket.TYPE_ONE DHPacket.length_TYPE_ONE t
      exact ⟨_, _, rfl, arrives_wire s _ _ legacy sequence _ hmade.header (by omega) (by omega),
        PacketFields.dhReadBack_of_sameMessage _ t _ _ hmade
          (hwire hmade.header (by omega) (by omega))⟩
  | dhPartTwo t =>
      have hlen := t.dhLength_eq
      have hpvr := t.pvrLength_le
      have hmade := f.dhPart_made C legacy DHPacket.TYPE_TWO DHPacket.length_TYPE_TWO t
      exact ⟨_, _, rfl, arrives_wire s _ _ legacy sequence _ hmade.header (by omega) (by omega),
        PacketFields.dhReadBack_of_sameMessage _ t _ _ hmade
          (hwire hmade.header (by omega) (by omega))⟩
  | confirmOne =>
      have hmade := f.confirm_made C legacy ConfirmPacket.TYPE_ONE ConfirmPacket.length_TYPE_ONE
      exact ⟨_, _, rfl, arrives_wire s _ _ legacy sequence _ hmade.header (by decide) (by decide),
        confirm_accepted _ _ _ _ _ _ hmade sequence s⟩
  | confirmTwo =>
      have hmade := f.confirm_made C legacy ConfirmPacket.TYPE_TWO ConfirmPacket.length_TYPE_TWO
      exact ⟨_, _, rfl, arrives_wire s _ _ legacy sequence _ hmade.header (by decide) (by decide),
        confirm_accepted _ _ _ _ _ _ hmade sequence s⟩
  | confAck =>
      exact ⟨_, _, rfl, arrives_wire s _ _ legacy sequence _
        (create_header CONF_ACK_TYPE 12 legacy length_CONF_ACK_TYPE (by omega)) (by omega)
        (by omega), trivial⟩

theorem DHPacket.length_getPvr (d : DHPacket) (pvr : Bytes) (h : d.getPvr = .ok pvr) :
    pvr.length = d.agreementType.pvrLength := by
  rcases (Java.region_ok _ _ _ _ _).mp h with ⟨hin, rfl⟩
  exact length_slice _ _ _ hin

/-- A DHPart constructed with a public value of one byte more than its field
    has, for which there is room in its array of 484 bytes. -/
def overlong : DHPacket :=
  DHPacket.create jce DHPacket.TYPE_ONE .dh3k (HashChain.create jce (List.replicate 32 0))
    (List.replicate 385 1) ⟨none, none⟩ caller.random false

/-- A number that needs more than sixteen bits is cut to them, and of a public
    value longer than its field the rest is not read back. -/
theorem codec_truncates :
    ((HandshakePacket.create HELLO_ACK_TYPE 12 false).wire 65536).getSequenceNumber = .ok 0 ∧
    (⟨overlong.packet.wire 0, .dh3k⟩ : DHPacket).getPvr ≠ .ok (List.replicate 385 1) := by
  constructor
  · have hheader := create_header HELLO_ACK_TYPE 12 false length_HELLO_ACK_TYPE (by omega)
    have hcut : Conversions.toShort (Conversions.shortToByteArray 65536) = 0 := by
      unfold Conversions.toShort Conversions.shortToByteArray
      rw [Endian.ofBE_toBE, if_pos (by omega)]
      rfl
    rw [getSequenceNumber_wire 65536 _ (hheader.whole (by omega)), hcut]
  · intro h
    have hlen := DHPacket.length_getPvr _ _ h
    rw [List.length_replicate] at hlen
    exact absurd hlen (by decide)

end RedPhone
