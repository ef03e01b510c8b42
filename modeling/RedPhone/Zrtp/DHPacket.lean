import RedPhone.Retained.Calculator
import RedPhone.Zrtp.HelloPacket

/-!
# DHPart and Commit Packets

A DHPart packet carries a public value, the digests of a party's retained
secrets and its `H1`. The Commit, sent before it, carries the hash of the
initiator's DHPart2 together with the responder's Hello.

The fields of a DHPart are at offsets fixed by the key agreement. Its message,
which is what gets hashed, is as long as its own length field says. The two
extents agree in every packet this code makes; nothing in `getMessageBytes`
or in the getters compares them.

## Main definitions

* `AgreementType`: The key agreements, and how long their public values are.
* `DHPacket.create`: The DHPart packet of a party.
* `CommitPacket.create`: The Commit of the initiator.
* `verifyMac`, `verifyHvi`: The checks of received ones.

## Theorems

* `DHPacket.create_made`, `CommitPacket.create_made`: Their fields.
* `DHPacket.verifyMac_ok`, `CommitPacket.verifyMac_ok`: What the checks say.
* `CommitPacket.verifyHvi_ok`: What the commitment says.
-/

namespace RedPhone

open Slice HandshakePacket

/-- `DH3K_AGREEMENT_TYPE` and `EC25_AGREEMENT_TYPE`, which the sockets call
    `KA_TYPE_DH3K` and `KA_TYPE_EC25`. -/
inductive AgreementType
  | dh3k
  | ec25
  deriving DecidableEq

namespace AgreementType

def pvrLength : AgreementType → Nat
  | .dh3k => 384
  | .ec25 => 64

/-- `DH3K_DH_LENGTH` and `EC25_DH_LENGTH`. -/
def dhLength : AgreementType → Nat
  | .dh3k => 468
  | .ec25 => 148

/-- `getAgreementSpec` of the two kinds of DHPart2. -/
def spec : AgreementType → Bytes
  | .dh3k => ascii "DH3k"
  | .ec25 => ascii "EC25"

theorem dhLength_eq (t : AgreementType) : t.dhLength = 84 + t.pvrLength := by
  cases t with
  | dh3k => rfl
  | ec25 => rfl

theorem pvrLength_le (t : AgreementType) : t.pvrLength ≤ 384 := by
  cases t with
  | dh3k => decide
  | ec25 => decide

theorem length_spec (t : AgreementType) : t.spec.length = 4 := by
  cases t with
  | dh3k => decide +kernel
  | ec25 => decide +kernel

end AgreementType

/-- A DHPart packet, read by the layout of its key agreement. -/
structure DHPacket where
  packet : HandshakePacket
  agreementType : AgreementType

namespace DHPacket

/-- `DHPartOnePacket.TYPE`. -/
def TYPE_ONE : Bytes := ascii "DHPart1 "

/-- `DHPartTwoPacket.TYPE`. -/
def TYPE_TWO : Bytes := ascii "DHPart2 "

theorem length_TYPE_ONE : TYPE_ONE.length = 8 := by decide +kernel

theorem length_TYPE_TWO : TYPE_TWO.length = 8 := by decide +kernel

/-- The random bytes for the four secrets a party may not have. -/
structure RandomBytes where
  rs1 : Bytes
  rs2 : Bytes
  aux : Bytes
  pbx : Bytes
  rs1_length : rs1.length = 8
  rs2_length : rs2.length = 8
  aux_length : aux.length = 8
  pbx_length : pbx.length = 8

def create (C : Crypto) (type : Bytes) (agreementType : AgreementType) (hashChain : HashChain)
    (pvr : Bytes) (retainedSecrets : RetainedSecretsDerivatives) (random : RandomBytes)
    (includeLegacyHeaderBug : Bool) : DHPacket :=
  let b := legacyOffset includeLegacyHeaderBug
  ⟨HandshakePacket.create type agreementType.dhLength includeLegacyHeaderBug
      |>.puts [(24 + b, hashChain.h1),
        (56 + b, retainedSecrets.rs1ID.getD random.rs1),
        (64 + b, retainedSecrets.rs2ID.getD random.rs2),
        (72 + b, random.aux),
        (80 + b, random.pbx),
        (88 + b, pvr)]
      |>.setMac C hashChain.h0 (88 + agreementType.pvrLength + b) (agreementType.dhLength - 8),
    agreementType⟩

/-- The constructor that copies. -/
def copyOf (p : HandshakePacket) (agreementType : AgreementType) : Java DHPacket := do
  let copy ← p.copyOf
  .ok ⟨copy, agreementType⟩

theorem agreementType_copyOf {p : HandshakePacket} {t : AgreementType} {d : DHPacket}
    (h : copyOf p t = .ok d) : d.agreementType = t := by
  simp only [copyOf, Java.bind_ok, Except.ok.injEq] at h
  rcases h with ⟨_, _, rfl⟩
  rfl

def getPvr (d : DHPacket) : Java Bytes :=
  Java.arraycopy d.packet.data (88 + d.packet.headerBugOffset) d.agreementType.pvrLength

def getDerivativeSecretOne (d : DHPacket) : Java Bytes :=
  Java.arraycopy d.packet.data (56 + d.packet.headerBugOffset) 8

def getDerivativeSecretTwo (d : DHPacket) : Java Bytes :=
  Java.arraycopy d.packet.data (64 + d.packet.headerBugOffset) 8

def getHash (d : DHPacket) : Java Bytes :=
  Java.arraycopy d.packet.data (24 + d.packet.headerBugOffset) 32

def verifyMac (C : Crypto) (key : Bytes) (d : DHPacket) : Java Unit := do
  let h1 ← d.getHash
  d.packet.verifyMac C key (88 + d.agreementType.pvrLength + d.packet.headerBugOffset)
    (d.agreementType.dhLength - 8) h1

end DHPacket

namespace CommitPacket

def TYPE : Bytes := ascii "Commit  "

theorem length_TYPE : TYPE.length = 8 := by decide +kernel

def COMMIT_LENGTH : Nat := 116

/-- The algorithms `setSpec` writes around the agreement. -/
def HASH_SPEC : Bytes := ascii "S256"

def CIPHER_SPEC : Bytes := ascii "AES1"

def AUTH_SPEC : Bytes := ascii "HS80"

def SAS_SPEC : Bytes := ascii "B256"

theorem length_specs : HASH_SPEC.length = 4 ∧ CIPHER_SPEC.length = 4 ∧ AUTH_SPEC.length = 4 ∧
    SAS_SPEC.length = 4 := by decide +kernel

/-- The digest is fed the DHPart2 first. -/
def calculateHvi (C : Crypto) (helloBytes dhBytes : Bytes) : Bytes :=
  C.sha256 (dhBytes ++ helloBytes)

def create (C : Crypto) (hashChain : HashChain) (helloBytes : Bytes) (dhPacket : DHPacket)
    (zid : Bytes) (includeLegacyHeaderBug : Bool) : Java HandshakePacket := do
  let b := legacyOffset includeLegacyHeaderBug
  let dhBytes ← dhPacket.packet.getMessageBytes
  .ok (HandshakePacket.create TYPE COMMIT_LENGTH includeLegacyHeaderBug
    |>.puts [(24 + b, hashChain.h2),
      (56 + b, zid),
      (68 + b, HASH_SPEC),
      (72 + b, CIPHER_SPEC),
      (76 + b, AUTH_SPEC),
      (80 + b, dhPacket.agreementType.spec),
      (84 + b, SAS_SPEC),
      (88 + b, calculateHvi C helloBytes dhBytes)]
    |>.setMac C hashChain.h1 (120 + b) (COMMIT_LENGTH - 8))

def getHvi (p : HandshakePacket) : Java Bytes :=
  Java.arraycopy p.data (88 + p.headerBugOffset) 32

def getHash (p : HandshakePacket) : Java Bytes :=
  Java.arraycopy p.data (24 + p.headerBugOffset) 32

def getKeyAgreementType (p : HandshakePacket) : Java Bytes :=
  Java.arraycopy p.data (80 + p.headerBugOffset) 4

def verifyHvi (C : Crypto) (helloBytes dhBytes : Bytes) (p : HandshakePacket) : Java Unit := do
  let packetHvi ← getHvi p
  Java.throwIf (calculateHvi C helloBytes dhBytes ≠ packetHvi)
    (.invalidPacket "HVI doesn't match.")

def verifyMac (C : Crypto) (key : Bytes) (p : HandshakePacket) : Java Unit := do
  let h2 ← getHash p
  p.verifyMac C key (120 + p.headerBugOffset) (COMMIT_LENGTH - 8) h2

end CommitPacket

/-! ## New packets -/

namespace DHPacket

variable {C : Crypto} {type : Bytes} {t : AgreementType} {chain : HashChain} {pvr : Bytes}
  {ids : RetainedSecretsDerivatives} {random : RandomBytes} {legacy : Bool}

/-- The fields of a new DHPart packet. -/
structure Made (C : Crypto) (type : Bytes) (t : AgreementType) (chain : HashChain) (pvr : Bytes)
    (ids : RetainedSecretsDerivatives) (random : RandomBytes) (legacy : Bool) (d : DHPacket) :
    Prop where
  agreementType : d.agreementType = t
  header : HasHeader type t.dhLength legacy d.packet
  hash : slice (24 + legacyOffset legacy) 32 d.packet.data = chain.h1
  rs1 : slice (56 + legacyOffset legacy) 8 d.packet.data = ids.rs1ID.getD random.rs1
  rs2 : slice (64 + legacyOffset legacy) 8 d.packet.data = ids.rs2ID.getD random.rs2
  pvr : slice (88 + legacyOffset legacy) t.pvrLength d.packet.data = pvr
  mac : slice (88 + t.pvrLength + legacyOffset legacy) 8 d.packet.data
    = (C.hmacSha256 chain.h0 (slice (12 + legacyOffset legacy) (t.dhLength - 8)
      d.packet.data)).take 8

theorem create_made (htype : type.length = 8) (hh1 : chain.h1.length = 32)
    (hpvr : pvr.length = t.pvrLength) (hids1 : (ids.rs1ID.getD random.rs1).length = 8)
    (hids2 : (ids.rs2ID.getD random.rs2).length = 8) :
    Made C type t chain pvr ids random legacy
      (create C type t chain pvr ids random legacy) := by
  have hlen := t.dhLength_eq
  have haux := random.aux_length
  have hpbx := random.pbx_length
  unfold create
  simp only []
  have h0 := create_header type t.dhLength legacy htype (by omega)
  generalize HandshakePacket.create type t.dhLength legacy = p0 at h0 ⊢
  -- The fields are inside the packet, apart from its header and from each other.
  have hputs := HasHeader.puts [(24 + legacyOffset legacy, chain.h1),
      (56 + legacyOffset legacy, ids.rs1ID.getD random.rs1),
      (64 + legacyOffset legacy, ids.rs2ID.getD random.rs2),
      (72 + legacyOffset legacy, random.aux), (80 + legacyOffset legacy, random.pbx),
      (88 + legacyOffset legacy, pvr)] p0 h0
    (by
      simp only [List.forall_mem_cons, hh1, hids1, hids2, haux, hpbx, hpvr, List.not_mem_nil,
        false_imp_iff, implies_true, and_true]
      omega)
    (by
      simp only [List.pairwise_cons, List.forall_mem_cons, HasHeader.Apart, hh1, hids1, hids2,
        haux, hpbx, hpvr, List.not_mem_nil, false_imp_iff, implies_true, and_true,
        List.Pairwise.nil]
      omega)
  generalize p0.puts _ = p1 at hputs ⊢
  rcases hputs with ⟨h1, hself, _⟩
  simp only [List.forall_mem_cons, hh1, hids1, hids2, haux, hpbx, hpvr, List.not_mem_nil,
    false_imp_iff, implies_true, and_true] at hself
  rcases hself with ⟨hself1, hself2, hself3, _, _, hself6⟩
  -- The code comes behind all of them, so it overwrites none.
  rcases h1.setMac C chain.h0 (88 + t.pvrLength + legacyOffset legacy) (t.dhLength - 8) (by omega)
    (by omega) (by omega) with ⟨h2, hbefore, hmac⟩
  refine ⟨rfl, h2, ?_, ?_, ?_, ?_, hmac⟩
  · rw [hbefore _ _ (by omega), hself1]
  · rw [hbefore _ _ (by omega), hself2]
  · rw [hbefore _ _ (by omega), hself3]
  · rw [hbefore _ _ (by omega), hself6]

/-! ## Checking and reading a DHPart -/

/-- What a verified DHPart says: its code is under a key that `H1` hashes. -/
theorem verifyMac_ok (C : Crypto) (key : Bytes) (d : DHPacket) (u : Unit) :
    d.verifyMac C key = .ok u ↔ ∃ h1, d.getHash = .ok h1 ∧
      d.packet.verifyMac C key (88 + d.agreementType.pvrLength + d.packet.headerBugOffset)
        (d.agreementType.dhLength - 8) h1 = .ok u := by
  simp only [verifyMac, Java.bind_ok]

/-- A field of a DHPart received as it was made. -/
theorem read_made (e : Unchecked) (d d' : DHPacket)
    (hd : Made C type t chain pvr ids random legacy d) (h : SameMessage d.packet d'.packet)
    (off len : Nat) (hoff : 4 ≤ off) (hfit : off + len ≤ 12 + t.dhLength) :
    Java.region e d'.packet.data (off + d'.packet.headerBugOffset) len
      = .ok (slice (off + legacyOffset legacy) len d.packet.data) := by
  have hroom := hd.header.packetLength_eq
  rw [Java.region_ok, SameMessage.headerBugOffset_eq _ _ h, hd.header.headerBugOffset_eq,
    h.length_eq, hd.header.data_length, SameMessage.slice_eq _ _ h _ len (by omega) (by omega)]
  exact ⟨by omega, rfl⟩

theorem getHash_made (d d' : DHPacket) (hd : Made C type t chain pvr ids random legacy d)
    (h : SameMessage d.packet d'.packet) : d'.getHash = .ok chain.h1 := by
  have hlen := t.dhLength_eq
  rw [getHash, Java.arraycopy, read_made _ d d' hd h 24 32 (by omega) (by omega), hd.hash]

theorem getDerivativeSecretOne_made (d d' : DHPacket)
    (hd : Made C type t chain pvr ids random legacy d) (h : SameMessage d.packet d'.packet) :
    d'.getDerivativeSecretOne = .ok (ids.rs1ID.getD random.rs1) := by
  have hlen := t.dhLength_eq
  rw [getDerivativeSecretOne, Java.arraycopy, read_made _ d d' hd h 56 8 (by omega) (by omega),
    hd.rs1]

theorem getDerivativeSecretTwo_made (d d' : DHPacket)
    (hd : Made C type t chain pvr ids random legacy d) (h : SameMessage d.packet d'.packet) :
    d'.getDerivativeSecretTwo = .ok (ids.rs2ID.getD random.rs2) := by
  have hlen := t.dhLength_eq
  rw [getDerivativeSecretTwo, Java.arraycopy, read_made _ d d' hd h 64 8 (by omega) (by omega),
    hd.rs2]

theorem getPvr_made (d d' : DHPacket) (hd : Made C type t chain pvr ids random legacy d)
    (h : SameMessage d.packet d'.packet) (htype : d'.agreementType = t) :
    d'.getPvr = .ok pvr := by
  have hlen := t.dhLength_eq
  rw [getPvr, Java.arraycopy, htype, read_made _ d d' hd h 88 _ (by omega) (by omega), hd.pvr]

/-- A DHPart verifies at the peer that received it as it was made. -/
theorem verifyMac_made (d d' : DHPacket) (hd : Made C type t chain pvr ids random legacy d)
    (hchain : C.sha256 chain.h0 = chain.h1) (h : SameMessage d.packet d'.packet)
    (htype : d'.agreementType = t) : d'.verifyMac C chain.h0 = .ok () := by
  have hlen := t.dhLength_eq
  have hroom := hd.header.packetLength_eq
  rw [verifyMac_ok]
  refine ⟨_, getHash_made d d' hd h, ?_⟩
  rw [HandshakePacket.verifyMac_ok, SameMessage.headerBugOffset_eq _ _ h,
    hd.header.headerBugOffset_eq, h.length_eq, hd.header.data_length, htype,
    SameMessage.slice_eq _ _ h _ _ (by omega) (by omega),
    SameMessage.slice_eq _ _ h _ 8 (by omega) (by omega), Nat.add_comm (legacyOffset legacy)]
  exact ⟨by omega, by omega, hd.mac.symm, hchain⟩

end DHPacket

namespace CommitPacket

variable {C : Crypto} {chain : HashChain} {hello dh zid : Bytes} {t : AgreementType}
  {legacy : Bool}

/-- The fields of a new Commit. -/
structure Made (C : Crypto) (chain : HashChain) (hello dh zid : Bytes) (t : AgreementType)
    (legacy : Bool) (p : HandshakePacket) : Prop where
  header : HasHeader TYPE COMMIT_LENGTH legacy p
  hash : slice (24 + legacyOffset legacy) 32 p.data = chain.h2
  agreement : slice (80 + legacyOffset legacy) 4 p.data = t.spec
  hvi : slice (88 + legacyOffset legacy) 32 p.data = calculateHvi C hello dh
  mac : slice (120 + legacyOffset legacy) 8 p.data
    = (C.hmacSha256 chain.h1 (slice (12 + legacyOffset legacy) 108 p.data)).take 8

theorem create_made (d : DHPacket) (p : HandshakePacket) (hh2 : chain.h2.length = 32)
    (hzid : zid.length = 12) (hdh : d.packet.getMessageBytes = .ok dh)
    (hp : create C chain hello d zid legacy = .ok p) :
    Made C chain hello dh zid d.agreementType legacy p := by
  rcases length_specs with ⟨hhash, hcipher, hauth, hsas⟩
  have hspec := d.agreementType.length_spec
  have hhvi : (calculateHvi C hello dh).length = 32 := C.sha256_length _
  unfold create COMMIT_LENGTH at hp
  rw [hdh, Java.ok_bind, Except.ok.injEq] at hp
  have h0 := create_header TYPE 116 legacy length_TYPE (by omega)
  generalize HandshakePacket.create TYPE 116 legacy = p0 at h0 hp
  -- The fields are inside the packet, apart from its header and from each other.
  have hputs := HasHeader.puts [(24 + legacyOffset legacy, chain.h2),
      (56 + legacyOffset legacy, zid), (68 + legacyOffset legacy, HASH_SPEC),
      (72 + legacyOffset legacy, CIPHER_SPEC), (76 + legacyOffset legacy, AUTH_SPEC),
      (80 + legacyOffset legacy, d.agreementType.spec), (84 + legacyOffset legacy, SAS_SPEC),
      (88 + legacyOffset legacy, calculateHvi C hello dh)] p0 h0
    (by
      simp only [List.forall_mem_cons, hh2, hzid, hhash, hcipher, hauth, hspec, hsas, hhvi,
        List.not_mem_nil, false_imp_iff, implies_true, and_true]
      omega)
    (by
      simp only [List.pairwise_cons, List.forall_mem_cons, HasHeader.Apart, hh2, hzid, hhash,
        hcipher, hauth, hspec, hsas, hhvi, List.not_mem_nil, false_imp_iff, implies_true,
        and_true, List.Pairwise.nil]
      omega)
  generalize p0.puts _ = p1 at hputs hp
  rcases hputs with ⟨h1, hself, _⟩
  simp only [List.forall_mem_cons, hh2, hzid, hhash, hcipher, hauth, hspec, hsas, hhvi,
    List.not_mem_nil, false_imp_iff, implies_true, and_true] at hself
  rcases hself with ⟨hself1, _, _, _, _, hself6, _, hself8⟩
  -- The code comes behind all of them, so it overwrites none.
  rcases h1.setMac C chain.h1 (120 + legacyOffset legacy) (116 - 8) (by omega)
    (by omega) (by omega) with ⟨h2, hbefore, hmac⟩
  rw [← hp]
  refine ⟨h2, ?_, ?_, ?_, hmac⟩
  · rw [hbefore _ _ (by omega), hself1]
  · rw [hbefore _ _ (by omega), hself6]
  · rw [hbefore _ _ (by omega), hself8]

/-! ## Checking and reading a Commit -/

/-- What a verified Commit says: its code is under a key that its `H2`
    hashes. -/
theorem verifyMac_ok (C : Crypto) (key : Bytes) (p : HandshakePacket) (u : Unit) :
    verifyMac C key p = .ok u ↔ ∃ h2, getHash p = .ok h2 ∧
      p.verifyMac C key (120 + p.headerBugOffset) 108 h2 = .ok u := by
  simp only [verifyMac, Java.bind_ok, COMMIT_LENGTH, Nat.reduceSub]

/-- What the commitment says about the messages hashed. -/
theorem verifyHvi_ok (C : Crypto) (helloBytes dhBytes : Bytes) (p : HandshakePacket) (u : Unit) :
    verifyHvi C helloBytes dhBytes p = .ok u
      ↔ getHvi p = .ok (C.sha256 (dhBytes ++ helloBytes)) := by
  rw [verifyHvi, Java.bind_ok]
  constructor
  · rintro ⟨hvi, hget, hcheck⟩
    rw [Java.throwIf_ok, decide_eq_false_iff_not, ne_eq, not_not] at hcheck
    rw [hget, ← hcheck, calculateHvi]
  · intro hget
    refine ⟨_, hget, ?_⟩
    rw [Java.throwIf_ok, decide_eq_false_iff_not, ne_eq, not_not, calculateHvi]

/-- A field of a Commit received as it was made. -/
theorem read_made (p q : HandshakePacket) (hp : Made C chain hello dh zid t legacy p)
    (h : SameMessage p q) (off len : Nat) (hoff : 4 ≤ off) (hfit : off + len ≤ 128) :
    Java.arraycopy q.data (off + q.headerBugOffset) len
      = .ok (slice (off + legacyOffset legacy) len p.data) := by
  have hroom := hp.header.packetLength_eq
  unfold COMMIT_LENGTH at hroom
  rw [Java.arraycopy, Java.region_ok, SameMessage.headerBugOffset_eq _ _ h,
    hp.header.headerBugOffset_eq, h.length_eq, hp.header.data_length,
    SameMessage.slice_eq _ _ h _ len (by omega) (by omega)]
  unfold COMMIT_LENGTH
  exact ⟨by omega, rfl⟩

theorem getHash_made (p q : HandshakePacket) (hp : Made C chain hello dh zid t legacy p)
    (h : SameMessage p q) : getHash q = .ok chain.h2 := by
  rw [getHash, read_made p q hp h 24 32 (by omega) (by omega), hp.hash]

theorem getKeyAgreementType_made (p q : HandshakePacket)
    (hp : Made C chain hello dh zid t legacy p) (h : SameMessage p q) :
    getKeyAgreementType q = .ok t.spec := by
  rw [getKeyAgreementType, read_made p q hp h 80 4 (by omega) (by omega), hp.agreement]

/-- A commitment verifies on the messages it was made from. -/
theorem verifyHvi_made (p q : HandshakePacket) (hp : Made C chain hello dh zid t legacy p)
    (h : SameMessage p q) : verifyHvi C hello dh q = .ok () := by
  rw [verifyHvi_ok, getHvi, read_made p q hp h 88 32 (by omega) (by omega), hp.hvi]
  rfl

/-- A Commit verifies at the peer that received it as it was made. -/
theorem verifyMac_made (p q : HandshakePacket) (hp : Made C chain hello dh zid t legacy p)
    (hchain : C.sha256 chain.h1 = chain.h2) (h : SameMessage p q) :
    verifyMac C chain.h1 q = .ok () := by
  have hroom := hp.header.packetLength_eq
  have hdata := hp.header.data_length
  unfold COMMIT_LENGTH at hroom hdata
  rw [verifyMac_ok]
  refine ⟨_, getHash_made p q hp h, ?_⟩
  rw [HandshakePacket.verifyMac_ok, SameMessage.headerBugOffset_eq _ _ h,
    hp.header.headerBugOffset_eq, h.length_eq, hdata,
    SameMessage.slice_eq _ _ h _ _ (by omega) (by omega),
    SameMessage.slice_eq _ _ h _ 8 (by omega) (by omega), Nat.add_comm (legacyOffset legacy)]
  exact ⟨by omega, by omega, hp.mac.symm, hchain⟩

end CommitPacket

end RedPhone
