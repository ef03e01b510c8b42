import RedPhone.Java.Text
import RedPhone.Zrtp.HandshakePacket

/-!
# Hello Packets

The first packet of either party: its client id, its end of the hash chain,
its ZID and the algorithms it offers, under a code whose key it reveals two
packets later.

The code covers as many bytes as the option counts say, not as the length
field says, and sits behind them; `verifyMac` only asks that the length field
be at least that of a Hello without options.

The release modelled here sends one client id and offers one key agreement.
They are a parameter, `Version`, so that what is proved about two parties also
covers peers that offer others.

## Main definitions

* `HashChain`: A preimage and its three hashes.
* `Version`: The client id and the key agreements a party's Hello carries.
* `HelloPacket.create`, `Made`: The Hello of a party, and its fields.
* `HelloPacket.verifyMac`: The check of a received one.
* `RedPhoneClientId`: What a client id says about its sender.

## Theorems

* `create_made`: The fields of a new Hello.
* `verifyMac_ok`: What a verified Hello says.
* `verifyMac_made`: A new Hello verifies at the peer that receives it.
-/

namespace RedPhone

open Slice HandshakePacket

/-- The hash chain of a party, from its random preimage. -/
structure HashChain where
  h0 : Bytes
  h1 : Bytes
  h2 : Bytes
  h3 : Bytes

/-- The constructor, with the random bytes it draws. -/
def HashChain.create (C : Crypto) (h0 : Bytes) : HashChain :=
  let h1 := C.sha256 h0
  let h2 := C.sha256 h1
  ⟨h0, h1, h2, C.sha256 h2⟩

/-- What sets the Hello of one release apart from that of another. -/
structure Version where
  clientId : Bytes
  keyAgreements : List Bytes
  clientId_length : clientId.length = 16
  keyAgreements_length : ∀ a ∈ keyAgreements, a.length = 4
  keyAgreements_count : keyAgreements.length ≤ 15

/-- The release this repository is. -/
def Version.current : Version where
  clientId := ascii "RedPhone 024    "
  keyAgreements := [ascii "EC25"]
  clientId_length := by decide +kernel
  keyAgreements_length := by decide +kernel
  keyAgreements_count := by decide

namespace HelloPacket

def TYPE : Bytes := ascii "Hello   "

theorem length_TYPE : TYPE.length = 8 := by decide +kernel

def HELLO_MIN_LENGTH : Nat := 88

def VERSION : Bytes := ascii "1.10"

theorem length_VERSION : VERSION.length = 4 := by decide +kernel

/-- The count of key agreements goes into a byte that is still zero, and a
    fresh packet counts no hash, cipher or tag options, so the key agreements
    begin where the options do. -/
def create (C : Crypto) (hashChain : HashChain) (zid : Bytes) (version : Version)
    (includeLegacyHeaderBug : Bool) : HandshakePacket :=
  let b := legacyOffset includeLegacyHeaderBug
  let optional := version.keyAgreements.length * 4
  HandshakePacket.create TYPE (HELLO_MIN_LENGTH + optional) includeLegacyHeaderBug
    |>.puts [(24 + b, VERSION),
      (28 + b, version.clientId),
      (44 + b, hashChain.h3),
      (76 + b, zid),
      (91 + b, [UInt8.ofNat (version.keyAgreements.length * 16)]),
      (92 + b, version.keyAgreements.flatten)]
    |>.setMac C hashChain.h2 (92 + b + optional) (HELLO_MIN_LENGTH + optional - 8)

def getZID (p : HandshakePacket) : Java Bytes :=
  Java.arraycopy p.data (76 + p.headerBugOffset) 12

def getH3 (p : HandshakePacket) : Java Bytes :=
  Java.arraycopy p.data (44 + p.headerBugOffset) 32

/-- The text is only taken apart by `RedPhoneClientId`. -/
def getClientId (p : HandshakePacket) : Java (List Nat) := do
  let clientId ← Java.region .stringIndexOutOfBounds p.data (28 + p.headerBugOffset) 16
  .ok (Text.decodeUtf8 clientId)

/-- The bytes `HC`, `CC`/`AC` and `KC`/`SC`. -/
def getCounts (p : HandshakePacket) : Java (Nat × Nat × Nat) := do
  let hc ← Java.byteAt p.data (89 + p.headerBugOffset)
  let cc ← Java.byteAt p.data (90 + p.headerBugOffset)
  let kc ← Java.byteAt p.data (91 + p.headerBugOffset)
  .ok (hc.toNat, cc.toNat, kc.toNat)

/-- Four bytes for each hash, cipher, tag, key agreement and SAS option. -/
def getOptionsLength (p : HandshakePacket) : Java Nat := do
  let (hc, cc, kc) ← getCounts p
  .ok (hc % 16 * 4 + cc / 16 * 4 + cc % 16 * 4 + kc / 16 * 4 + kc % 16 * 4)

/-- The key agreements offered. They are only searched for one in ASCII, so
    their bytes are enough. -/
def getKeyAgreementOptions (p : HandshakePacket) : Java (List Bytes) := do
  let (hc, cc, kc) ← getCounts p
  -- The other options stand in front of these, four bytes each.
  let offset := 92 + p.headerBugOffset + hc % 16 * 4 + cc / 16 * 4 + cc % 16 * 4
  (List.range (kc / 16)).mapM
    (fun i => Java.region .stringIndexOutOfBounds p.data (offset + i * 4) 4)

def verifyMac (C : Crypto) (key : Bytes) (p : HandshakePacket) : Java Unit := do
  let length ← p.getLength
  Java.throwIf (length < HELLO_MIN_LENGTH)
    (.invalidPacket "Encoded length longer than data length.")
  -- The code stands behind the options, wherever their counts say that is.
  let options ← getOptionsLength p
  let h3 ← getH3 p
  HandshakePacket.verifyMac C key (92 + p.headerBugOffset + options)
    (HELLO_MIN_LENGTH + options - 8) h3 p

end HelloPacket

/-- What a client id says: whether it is RedPhone's, and its number. -/
structure RedPhoneClientId where
  isRedphoneClient : Bool
  clientIdInteger : Int

namespace RedPhoneClientId

/-- The constructor. A number that cannot be read leaves zero, and the flag is
    set all the same: the assignment behind the handler undoes the one in it. -/
def create (clientId : List Nat) : RedPhoneClientId :=
  match Text.split clientId with
  -- There has to be something behind the name, whatever it is.
  | name :: number :: _ =>
    if Text.trim name = "RedPhone".toList.map Char.toNat then
      ⟨true, (Text.parseInt number).getD 0⟩
    else ⟨false, 0⟩
  | _ => ⟨false, 0⟩

def isImplicitDh3kVersion (c : RedPhoneClientId) : Bool :=
  c.isRedphoneClient && (c.clientIdInteger == 19 || c.clientIdInteger == 24)

def isLegacyConfirmConnectionVersion (c : RedPhoneClientId) : Bool :=
  c.isRedphoneClient && c.clientIdInteger < 24

end RedPhoneClientId

namespace HelloPacket

/-! ## A new Hello -/

variable {C : Crypto} {chain : HashChain} {zid : Bytes} {version : Version} {legacy : Bool}

theorem length_flatten (version : Version) :
    version.keyAgreements.flatten.length = version.keyAgreements.length * 4 := by
  have h4 := version.keyAgreements_length
  generalize version.keyAgreements = options at h4 ⊢
  induction options with
  | nil => rfl
  | cons option options ih =>
      rw [List.flatten_cons, List.length_append, List.length_cons, h4 option List.mem_cons_self,
        ih (fun a ha => h4 a (List.mem_cons_of_mem _ ha))]
      omega

/-- The fields of a new Hello. -/
structure Made (C : Crypto) (chain : HashChain) (zid : Bytes) (version : Version) (legacy : Bool)
    (p : HandshakePacket) : Prop where
  header : HasHeader TYPE (88 + version.keyAgreements.length * 4) legacy p
  clientId : slice (28 + legacyOffset legacy) 16 p.data = version.clientId
  h3 : slice (44 + legacyOffset legacy) 32 p.data = chain.h3
  zid : slice (76 + legacyOffset legacy) 12 p.data = zid
  counts : slice (88 + legacyOffset legacy) 3 p.data = [0, 0, 0]
  agreements : slice (91 + legacyOffset legacy) 1 p.data
    = [UInt8.ofNat (version.keyAgreements.length * 16)]
  options : slice (92 + legacyOffset legacy) (version.keyAgreements.length * 4) p.data
    = version.keyAgreements.flatten
  mac : slice (92 + legacyOffset legacy + version.keyAgreements.length * 4) 8 p.data
    = (C.hmacSha256 chain.h2 (slice (12 + legacyOffset legacy)
      (80 + version.keyAgreements.length * 4) p.data)).take 8

theorem create_made (hh3 : chain.h3.length = 32) (hzid : zid.length = 12) :
    Made C chain zid version legacy (create C chain zid version legacy) := by
  have hid := version.clientId_length
  have hversion := length_VERSION
  have hoptions := length_flatten version
  unfold create HELLO_MIN_LENGTH
  simp only []
  -- How many options there are does not matter to the other fields.
  generalize hk : version.keyAgreements.length * 4 = optional at hoptions ⊢
  have h0 := create_header TYPE (88 + optional) legacy length_TYPE (by omega)
  have hzero := slice_create TYPE (88 + optional) legacy length_TYPE (by omega)
  generalize HandshakePacket.create TYPE (88 + optional) legacy = p0 at h0 hzero ⊢
  have hputs := HasHeader.puts [(24 + legacyOffset legacy, VERSION),
      (28 + legacyOffset legacy, version.clientId), (44 + legacyOffset legacy, chain.h3),
      (76 + legacyOffset legacy, zid),
      (91 + legacyOffset legacy, [UInt8.ofNat (version.keyAgreements.length * 16)]),
      (92 + legacyOffset legacy, version.keyAgreements.flatten)] p0 h0
    (by
      simp only [List.forall_mem_cons, List.length_singleton, hversion, hid, hh3, hzid, hoptions,
        List.not_mem_nil, false_imp_iff, implies_true, and_true]
      omega)
    (by
      simp only [List.pairwise_cons, List.forall_mem_cons, HasHeader.Apart, List.length_singleton,
        hversion, hid, hh3, hzid, hoptions, List.not_mem_nil, false_imp_iff, implies_true,
        and_true, List.Pairwise.nil]
      omega)
  generalize p0.puts _ = p1 at hputs ⊢
  rcases hputs with ⟨h1, hself, hother⟩
  simp only [List.forall_mem_cons, List.length_singleton, hversion, hid, hh3, hzid, hoptions,
    List.not_mem_nil, false_imp_iff, implies_true, and_true] at hself hother
  rcases hself with ⟨_, hself2, hself3, hself4, hself5, hself6⟩
  rcases h1.setMac C chain.h2 (92 + legacyOffset legacy + optional) (88 + optional - 8) (by omega)
    (by omega) (by omega) with ⟨h2, hbefore, hmac⟩
  rw [show 88 + optional - 8 = 80 + optional by omega] at h2 hbefore hmac ⊢
  refine ⟨hk ▸ h2, ?_, ?_, ?_, ?_, ?_, ?_, hk ▸ hmac⟩
  · rw [hbefore _ _ (by omega), hself2]
  · rw [hbefore _ _ (by omega), hself3]
  · rw [hbefore _ _ (by omega), hself4]
  · -- The counts of the other options are bytes that nothing was put into.
    rw [hbefore _ _ (by omega), hother _ _ (by omega), hzero _ _ (by omega) (by omega)]
    rfl
  · rw [hbefore _ _ (by omega), hself5]
  · rw [hk, hbefore _ _ (by omega), hself6]

/-! ## Checking a Hello -/

/-- What a verified Hello says: a code under a key whose hash is its `H3`. -/
theorem verifyMac_ok (C : Crypto) (key : Bytes) (p : HandshakePacket) (u : Unit) :
    verifyMac C key p = .ok u ↔ ∃ l options h3, p.getLength = .ok l ∧ 88 ≤ l ∧
      getOptionsLength p = .ok options ∧ getH3 p = .ok h3 ∧
      HandshakePacket.verifyMac C key (92 + p.headerBugOffset + options) (80 + options) h3 p
        = .ok u := by
  unfold verifyMac HELLO_MIN_LENGTH
  simp only [Java.bind_ok, Java.throwIf_ok, decide_eq_false_iff_not, not_lt, exists_and_left,
    exists_const]
  constructor
  · rintro ⟨l, hl, hlen, options, ho, h3, hh3, hmac⟩
    refine ⟨l, hl, hlen, options, ho, h3, hh3, ?_⟩
    rw [show 80 + options = 88 + options - 8 by omega]
    exact hmac
  · rintro ⟨l, hl, hlen, options, ho, h3, hh3, hmac⟩
    refine ⟨l, hl, hlen, options, ho, h3, hh3, ?_⟩
    rw [show 88 + options - 8 = 80 + options by omega]
    exact hmac

/-- The counts in a Hello received as it was made. -/
theorem getCounts_made (p q : HandshakePacket) (hp : Made C chain zid version legacy p)
    (h : SameMessage p q) :
    getCounts q = .ok (0, 0, version.keyAgreements.length * 16) := by
  have hcount := version.keyAgreements_count
  have hroom := hp.header.packetLength_eq
  have hzero := SameMessage.slice_eq p q h (88 + legacyOffset legacy) 3 (by omega) (by omega)
  have hk := SameMessage.slice_eq p q h (91 + legacyOffset legacy) 1 (by omega) (by omega)
  rw [hp.counts] at hzero
  rw [hp.agreements] at hk
  -- The three counts share their bytes with the fields that were written.
  have h1 := congrArg (fun m => m[1]?) hzero
  have h2 := congrArg (fun m => m[2]?) hzero
  have h3 := congrArg (fun m => m[0]?) hk
  simp only [getElem?_slice, Nat.reduceLT, if_true, List.getElem?_cons_succ,
    List.getElem?_cons_zero, Nat.add_zero] at h1 h2 h3
  simp only [getCounts, Java.bind_ok, Java.byteAt_ok, SameMessage.headerBugOffset_eq p q h,
    hp.header.headerBugOffset_eq, Except.ok.injEq, Prod.mk.injEq]
  refine ⟨0, ?_, 0, ?_, _, h3, rfl, rfl, ?_⟩
  · rw [show 89 + legacyOffset legacy = 88 + legacyOffset legacy + 1 by omega]
    exact h1
  · rw [show 90 + legacyOffset legacy = 88 + legacyOffset legacy + 2 by omega]
    exact h2
  · rw [UInt8.toNat_ofNat', Nat.mod_eq_of_lt (by omega)]

/-- A Hello verifies at the peer that received it as it was made. -/
theorem verifyMac_made (p q : HandshakePacket) (hp : Made C chain zid version legacy p)
    (hchain : C.sha256 chain.h2 = chain.h3) (h : SameMessage p q) :
    verifyMac C chain.h2 q = .ok () := by
  have hcount := version.keyAgreements_count
  have hroom := hp.header.packetLength_eq
  have hdata := hp.header.data_length
  have hbug : q.headerBugOffset = legacyOffset legacy := by
    rw [SameMessage.headerBugOffset_eq p q h, hp.header.headerBugOffset_eq]
  rw [verifyMac_ok]
  refine ⟨((88 + version.keyAgreements.length * 4 : Nat) : Int),
    version.keyAgreements.length * 4, chain.h3, ?_, by omega, ?_, ?_, ?_⟩
  -- The length it was made with is in its header.
  · rw [getLength_ok, hbug, h.length_eq, SameMessage.slice_eq p q h _ 2 (by omega) (by omega),
      hp.header.length_eq, hdata]
    exact ⟨by omega, Conversions.toShort_shortToByteArray _ (by omega)⟩
  · simp only [getOptionsLength, getCounts_made p q hp h, Java.ok_bind, Except.ok.injEq]
    omega
  · rw [getH3, Java.arraycopy, Java.region_ok, hbug, h.length_eq, hdata,
      SameMessage.slice_eq p q h _ 32 (by omega) (by omega)]
    exact ⟨by omega, hp.h3⟩
  · rw [HandshakePacket.verifyMac_ok, hbug, h.length_eq, hdata,
      SameMessage.slice_eq p q h _ _ (by omega) (by omega),
      SameMessage.slice_eq p q h _ 8 (by omega) (by omega), Nat.add_comm (legacyOffset legacy)]
    exact ⟨by omega, by omega, hp.mac.symm, hchain⟩

/-- The ZID of a Hello received as it was made. -/
theorem getZID_made (p q : HandshakePacket) (hp : Made C chain zid version legacy p)
    (h : SameMessage p q) : getZID q = .ok zid := by
  have hroom := hp.header.packetLength_eq
  rw [getZID, Java.arraycopy, Java.region_ok, SameMessage.headerBugOffset_eq p q h,
    hp.header.headerBugOffset_eq, h.length_eq, hp.header.data_length,
    SameMessage.slice_eq p q h _ 12 (by omega) (by omega)]
  exact ⟨by omega, hp.zid⟩

/-- The client id of a Hello received as it was made. -/
theorem getClientId_made (p q : HandshakePacket) (hp : Made C chain zid version legacy p)
    (h : SameMessage p q) : getClientId q = .ok (Text.decodeUtf8 version.clientId) := by
  have hroom := hp.header.packetLength_eq
  have hread : Java.region .stringIndexOutOfBounds q.data (28 + q.headerBugOffset) 16
      = .ok version.clientId := by
    rw [Java.region_ok, SameMessage.headerBugOffset_eq p q h, hp.header.headerBugOffset_eq,
      h.length_eq, hp.header.data_length,
      SameMessage.slice_eq p q h _ 16 (by omega) (by omega)]
    exact ⟨by omega, hp.clientId⟩
  rw [getClientId, hread]
  rfl

/-- Options of four bytes each, cut out of their concatenation. -/
theorem slice_flatten (options : List Bytes) (h4 : ∀ a ∈ options, a.length = 4) :
    ∀ i (hi : i < options.length), slice (i * 4) 4 options.flatten = options[i] := by
  -- Option by option, each four bytes further on.
  induction options with
  | nil =>
      intro i hi
      exact absurd hi (Nat.not_lt_zero i)
  | cons option options ih =>
      intro i hi
      have hhead := h4 option List.mem_cons_self
      have htail := fun a ha => h4 a (List.mem_cons_of_mem option ha)
      cases i with
      | zero =>
          rw [List.flatten_cons, slice_append_left _ _ _ _ (by omega), Nat.zero_mul, ← hhead,
            slice_full]
          rfl
      | succ i =>
          rw [List.flatten_cons, slice_append_right _ _ _ _ (by omega), hhead,
            show (i + 1) * 4 - 4 = i * 4 by omega, List.getElem_cons_succ]
          exact ih htail i (by simpa only [List.length_cons, Nat.add_lt_add_iff_right] using hi)

/-- The key agreements in a Hello received as it was made. -/
theorem getKeyAgreementOptions_made (p q : HandshakePacket)
    (hp : Made C chain zid version legacy p) (h : SameMessage p q) :
    getKeyAgreementOptions q = .ok version.keyAgreements := by
  have hcount := version.keyAgreements_count
  have hroom := hp.header.packetLength_eq
  -- Each option is read from its place, where no other stands in front.
  have hread : ∀ i, i < version.keyAgreements.length →
      Java.region .stringIndexOutOfBounds q.data (92 + q.headerBugOffset + i * 4) 4
        = .ok (version.keyAgreements.getD i []) := by
    intro i hi
    rw [Java.region_ok, SameMessage.headerBugOffset_eq p q h, hp.header.headerBugOffset_eq,
      h.length_eq, hp.header.data_length,
      SameMessage.slice_eq p q h _ 4 (by omega) (by omega)]
    refine ⟨by omega, ?_⟩
    have hchunk := slice_flatten version.keyAgreements version.keyAgreements_length i hi
    rw [← hp.options, slice_slice _ _ _ _ _ (by omega)] at hchunk
    rw [hchunk, List.getD_eq_getElem?_getD, List.getElem?_eq_getElem hi, Option.getD_some]
  have hcounts : version.keyAgreements.length * 16 / 16 = version.keyAgreements.length := by omega
  simp only [getKeyAgreementOptions, getCounts_made p q hp h, Java.ok_bind, Nat.zero_mod,
    Nat.zero_div, Nat.zero_mul, Nat.add_zero, hcounts]
  rw [Java.mapM_ok _ (fun i => version.keyAgreements.getD i []) _
    (fun i hi => hread i (List.mem_range.mp hi)), Except.ok.injEq]
  refine List.ext_getElem (by simp only [List.length_map, List.length_range]) (fun i h1 h2 => ?_)
  rw [List.getElem_map, List.getElem_range, List.getD_eq_getElem?_getD,
    List.getElem?_eq_getElem h2, Option.getD_some]

end HelloPacket

end RedPhone
