import RedPhone.Zrtp.ConfirmPacket

/-!
# Which Reads Stay Inside a Packet

The negotiation declares two exceptions, and turns a packet it finds invalid
into one of them. Everything else that a getter can throw leaves the
negotiation thread unhandled. `Clean` is what a computation is that throws
nothing of that kind, and for each getter and each check of a received packet
there is a statement here of when it is clean.

The statements are exact, and go through sequences by `clean_bind`: a sequence
is clean when its first part is, and its rest is whenever the first part
returns. A check that fails with a declared exception thus shields whatever
comes after it.

## Main definitions

* `Caught`: The exceptions the negotiation handles.
* `Clean`: A computation that throws no other.
* `Copied`: A packet that owns its bytes.
* `MessageInside`, `AgreementsInside`, `MacInside`: What the lengths inside a
  packet have to satisfy.

## Theorems

* `clean_bind`: When a sequence is clean.
* `clean_getMessageBytes`: When reading a message is.
* `clean_getKeyAgreementOptions`: When reading the offers of a Hello is.
* `HelloPacket.clean_verifyMac`: When checking a Hello is.
-/

namespace RedPhone

open Slice HandshakePacket

/-- What the negotiation declares, and what it turns into that. -/
def JavaException.Caught : JavaException → Prop
  | .invalidPacket _ => True
  | .negotiationFailed _ => True
  | .recipientUnavailable _ => True
  | .io _ => False
  | .unchecked _ => False

namespace Java

variable {α β : Type}

/-- Nothing is thrown that the negotiation does not handle. -/
def Clean (x : Java α) : Prop :=
  ∀ e, x = .error e → e.Caught

@[simp] theorem clean_ok (a : α) : Clean (.ok a : Java α) := by
  intro e h
  exact nomatch h

theorem clean_of_ok {x : Java α} {a : α} (h : x = .ok a) : Clean x := by
  rw [h]
  exact clean_ok a

/-- A sequence is clean when its first part is, and the rest when it is reached. -/
theorem clean_bind (x : Java α) (f : α → Java β) :
    Clean (x >>= f) ↔ Clean x ∧ ∀ a, x = .ok a → Clean (f a) := by
  constructor
  · intro h
    constructor
    · intro e hx
      exact h e ((bind_error x f e).mpr (Or.inl hx))
    · intro a hx e hf
      exact h e ((bind_error x f e).mpr (Or.inr ⟨a, hx, hf⟩))
  · rintro ⟨hx, hf⟩ e h
    rcases (bind_error x f e).mp h with herror | ⟨a, hok, herror⟩
    · exact hx e herror
    · exact hf a hok e herror

/-- A part that returns is passed over. -/
theorem clean_bind_ok {x : Java α} {a : α} (h : x = .ok a) (f : α → Java β) :
    Clean (x >>= f) ↔ Clean (f a) := by
  rw [h]
  exact Iff.rfl

theorem clean_throwIf (c : Bool) (message : String) :
    Clean (throwIf c (.invalidPacket message)) := by
  intro e h
  cases c with
  | false => exact nomatch h
  | true =>
      rw [← Except.error.inj h]
      trivial

/-- A read is clean exactly when it returns. -/
theorem clean_region (e : Unchecked) (data : Bytes) (off len : Nat) :
    Clean (region e data off len) ↔ off + len ≤ data.length := by
  unfold region
  by_cases h : off + len ≤ data.length
  · rw [if_pos h]
    exact ⟨fun _ => h, fun _ => clean_ok _⟩
  · rw [if_neg h]
    constructor
    · intro hclean
      exact absurd (hclean _ rfl) (fun hc => hc)
    · intro h'
      exact absurd h' h

theorem clean_arraycopy (data : Bytes) (off len : Nat) :
    Clean (arraycopy data off len) ↔ off + len ≤ data.length :=
  clean_region _ data off len

theorem clean_byteAt (data : Bytes) (i : Nat) : Clean (byteAt data i) ↔ i < data.length := by
  unfold byteAt
  by_cases h : i < data.length
  · rw [List.getElem?_eq_getElem h]
    exact ⟨fun _ => h, fun _ => clean_ok _⟩
  · rw [List.getElem?_eq_none_iff.mpr (Nat.le_of_not_lt h)]
    constructor
    · intro hclean
      exact absurd (hclean _ rfl) (fun hc => hc)
    · intro h'
      exact absurd h' h

/-- A loop of reads. -/
theorem clean_mapM_region (e : Unchecked) (data : Bytes) (off : Nat → Nat) (len : Nat)
    (l : List Nat) :
    Clean (l.mapM fun i => region e data (off i) len) ↔ ∀ i ∈ l, off i + len ≤ data.length := by
  induction l with
  | nil => exact ⟨fun _ i hi => absurd hi List.not_mem_nil, fun _ => clean_ok _⟩
  | cons i l ih =>
      rw [List.mapM_cons, clean_bind, clean_region, List.forall_mem_cons]
      -- The first read decides whether the others are reached.
      refine and_congr_right (fun hi => ?_)
      constructor
      · intro h
        have hrest := h _ (region_of_le e data (off i) len hi)
        exact ih.mp ((clean_bind _ _).mp hrest).1
      · intro h a _
        exact (clean_bind _ _).mpr ⟨ih.mpr h, fun _ _ => clean_ok _⟩

end Java

open Java

namespace HandshakePacket

/-- A packet that owns its bytes. -/
def Copied (p : HandshakePacket) : Prop := p.data.length = p.packetLength

theorem copied_copyOf (p q : HandshakePacket) (hdata : p.packetLength ≤ p.data.length)
    (h : p.copyOf = .ok q) : Copied q := by
  rcases (copyOf_ok p q).mp h with ⟨_, rfl⟩
  unfold Copied
  rw [List.length_take]
  exact Nat.min_eq_left hdata

/-- A length field that does not exceed the packet is not negative, and the
    message it speaks of is inside the packet. -/
def MessageInside (p : HandshakePacket) : Prop :=
  ∀ l, p.getLength = .ok l → 17 + p.headerBugOffset ≤ p.packetLength → l + 4 ≤ p.packetLength →
    0 ≤ l ∧ 12 + p.headerBugOffset + l ≤ p.packetLength

theorem clean_getLength (p : HandshakePacket) :
    Clean p.getLength ↔ 16 + p.headerBugOffset ≤ p.data.length := by
  unfold getLength Conversions.byteArrayToShort MESSAGE_BASE
  rw [clean_bind, clean_arraycopy]
  constructor
  · rintro ⟨h, _⟩
    omega
  · intro h
    exact ⟨by omega, fun _ _ => clean_ok _⟩

/-- When reading a message is clean. -/
theorem clean_getMessageBytes (p : HandshakePacket) (hp : Copied p) :
    Clean p.getMessageBytes ↔ MessageInside p := by
  unfold getMessageBytes
  rw [clean_bind]
  constructor
  · rintro ⟨_, h⟩ l hl hlong hfit
    -- Both tests have to be passed before the message is read.
    have hrest := h () ((throwIf_ok _ _ _).mpr (by
      rw [decide_eq_false_iff_not]
      unfold MESSAGE_BASE
      omega))
    have hread := (clean_bind_ok hl _).mp hrest
    rw [clean_bind] at hread
    have hcopy := hread.2 () ((throwIf_ok _ _ _).mpr (by
      rw [decide_eq_false_iff_not]
      omega))
    by_cases hneg : l < 0
    · -- A negative length asks for an array that cannot be allocated.
      rw [if_pos hneg] at hcopy
      exact absurd (hcopy _ rfl) (fun hc => hc)
    · rw [if_neg hneg, clean_arraycopy, hp] at hcopy
      unfold MESSAGE_BASE at hcopy
      omega
  · intro h
    -- What the tests turn away is declared.
    refine ⟨clean_throwIf _ _, fun _ hlong => ?_⟩
    rw [throwIf_ok, decide_eq_false_iff_not] at hlong
    unfold MESSAGE_BASE at hlong
    rw [clean_bind]
    refine ⟨(clean_getLength p).mpr (by rw [hp]; omega), fun l hl => ?_⟩
    rw [clean_bind]
    refine ⟨clean_throwIf _ _, fun _ hfit => ?_⟩
    rw [throwIf_ok, decide_eq_false_iff_not] at hfit
    rcases h l hl (by omega) (by omega) with ⟨hpos, hin⟩
    rw [if_neg (by omega), clean_arraycopy, hp]
    unfold MESSAGE_BASE
    omega

/-- When checking a code is clean. -/
theorem clean_verifyMac (C : Crypto) (key : Bytes) (macOffset messageLength : Nat) (subhash : Bytes)
    (p : HandshakePacket) :
    Clean (p.verifyMac C key macOffset messageLength subhash) ↔
      p.headerBugOffset + 12 + messageLength ≤ p.data.length ∧ macOffset + 8 ≤ p.data.length := by
  unfold verifyMac calculateMac MESSAGE_BASE
  rw [clean_bind, clean_bind, clean_region]
  constructor
  · rintro ⟨⟨hmessage, _⟩, h⟩
    have hrest := h _ ((bind_ok _ _ _).mpr ⟨_, region_of_le _ _ _ _ hmessage, rfl⟩)
    rw [clean_bind, clean_arraycopy] at hrest
    exact ⟨hmessage, hrest.1⟩
  · rintro ⟨hmessage, hmac⟩
    refine ⟨⟨hmessage, fun _ _ => clean_ok _⟩, fun _ _ => ?_⟩
    rw [clean_bind, clean_arraycopy]
    -- Comparing can only fail in a way that is declared.
    refine ⟨hmac, fun _ _ => ?_⟩
    rw [clean_bind]
    exact ⟨clean_throwIf _ _, fun _ _ => clean_throwIf _ _⟩

/-- A checksum can be checked in a packet that has one. -/
theorem clean_verifyCRC (p : HandshakePacket) (hdata : p.packetLength ≤ p.data.length) :
    Clean p.verifyCRC ↔ 4 ≤ p.packetLength := by
  unfold verifyCRC calculateCRC Conversions.byteArray4ToLong
  -- A packet that is too short asks for a negative number of bytes.
  by_cases h : p.packetLength < 4
  · rw [if_pos h]
    constructor
    · intro hclean
      exact absurd (((clean_bind _ _).mp hclean).1 _ rfl) (fun hc => hc)
    · intro h'
      omega
  · rw [if_neg h, clean_bind, clean_bind, clean_arraycopy]
    refine ⟨fun _ => by omega, fun _ => ⟨⟨by omega, fun _ _ => clean_ok _⟩, fun _ _ => ?_⟩⟩
    rw [clean_bind, clean_bind, clean_arraycopy]
    exact ⟨⟨by omega, fun _ _ => clean_ok _⟩, fun _ _ => clean_ok _⟩

end HandshakePacket

namespace HelloPacket

/-- The offers a Hello counts are inside it. -/
def AgreementsInside (p : HandshakePacket) : Prop :=
  ∃ hc cc kc, getCounts p = .ok (hc, cc, kc) ∧ ∀ i < kc / 16,
    96 + p.headerBugOffset + hc % 16 * 4 + cc / 16 * 4 + cc % 16 * 4 + i * 4 ≤ p.data.length

/-- A Hello that is long enough by its own account has its code inside. -/
def MacInside (p : HandshakePacket) : Prop :=
  ∀ l, p.getLength = .ok l → 88 ≤ l → ∃ options, getOptionsLength p = .ok options ∧
    100 + p.headerBugOffset + options ≤ p.data.length

theorem clean_getZID (p : HandshakePacket) :
    Clean (getZID p) ↔ 88 + p.headerBugOffset ≤ p.data.length := by
  unfold getZID
  rw [clean_arraycopy]
  omega

theorem clean_getClientId (p : HandshakePacket) :
    Clean (getClientId p) ↔ 44 + p.headerBugOffset ≤ p.data.length := by
  unfold getClientId
  rw [clean_bind, clean_region]
  constructor
  · rintro ⟨h, _⟩
    omega
  · intro h
    exact ⟨by omega, fun _ _ => clean_ok _⟩

theorem byteAt_of_lt (data : Bytes) (i : Nat) (h : i < data.length) :
    byteAt data i = .ok data[i] :=
  (byteAt_ok _ _ _).mpr (List.getElem?_eq_getElem h)

/-- The counts of a packet long enough to have them. -/
theorem getCounts_of_le (p : HandshakePacket) (h : 92 + p.headerBugOffset ≤ p.data.length) :
    ∃ hc cc kc, getCounts p = .ok (hc, cc, kc) := by
  unfold getCounts
  rw [byteAt_of_lt _ _ (by omega), byteAt_of_lt _ _ (by omega), byteAt_of_lt _ _ (by omega)]
  exact ⟨_, _, _, rfl⟩

theorem clean_getCounts (p : HandshakePacket) :
    Clean (getCounts p) ↔ 92 + p.headerBugOffset ≤ p.data.length := by
  constructor
  · intro h
    unfold getCounts at h
    rw [clean_bind, clean_byteAt] at h
    -- The three bytes are read one after the other, and the last is the
    -- furthest.
    have h1 := h.2 _ (byteAt_of_lt _ _ h.1)
    rw [clean_bind, clean_byteAt] at h1
    have h2 := h1.2 _ (byteAt_of_lt _ _ h1.1)
    rw [clean_bind, clean_byteAt] at h2
    omega
  · intro h
    rcases getCounts_of_le p h with ⟨hc, cc, kc, hcounts⟩
    exact clean_of_ok hcounts

/-- When reading the offers of a Hello is clean. -/
theorem clean_getKeyAgreementOptions (p : HandshakePacket) :
    Clean (getKeyAgreementOptions p) ↔ AgreementsInside p := by
  unfold getKeyAgreementOptions AgreementsInside
  rw [clean_bind, clean_getCounts]
  constructor
  · rintro ⟨hlen, h⟩
    rcases getCounts_of_le p hlen with ⟨hc, cc, kc, hcounts⟩
    refine ⟨hc, cc, kc, hcounts, fun i hi => ?_⟩
    have hread := (clean_mapM_region _ _ _ _ _).mp (h _ hcounts) i (List.mem_range.mpr hi)
    simp only [] at hread
    omega
  · rintro ⟨hc, cc, kc, hcounts, h⟩
    refine ⟨(clean_getCounts p).mp (clean_of_ok hcounts), fun counts hread => ?_⟩
    rw [hcounts, Except.ok.injEq] at hread
    rw [← hread]
    refine (clean_mapM_region _ _ _ _ _).mpr (fun i hi => ?_)
    have hin := h i (List.mem_range.mp hi)
    omega

theorem exists_getKeyAgreementOptions (p : HandshakePacket) (h : AgreementsInside p) :
    ∃ options, getKeyAgreementOptions p = .ok options := by
  rcases h with ⟨hc, cc, kc, hcounts, hin⟩
  unfold getKeyAgreementOptions
  rw [hcounts, ok_bind]
  simp only []
  refine ⟨_, mapM_ok _ (fun i => slice (92 + p.headerBugOffset + hc % 16 * 4 + cc / 16 * 4
    + cc % 16 * 4 + i * 4) 4 p.data) _ (fun i hi => region_of_le _ _ _ _ ?_)⟩
  have hi := hin i (List.mem_range.mp hi)
  omega

theorem clean_getOptionsLength (p : HandshakePacket) :
    Clean (getOptionsLength p) ↔ ∃ options, getOptionsLength p = .ok options := by
  constructor
  · intro h
    unfold getOptionsLength at h ⊢
    rw [clean_bind, clean_getCounts] at h
    -- Behind the counts it is arithmetic.
    rcases getCounts_of_le p h.1 with ⟨hc, cc, kc, hcounts⟩
    rw [hcounts]
    exact ⟨_, rfl⟩
  · rintro ⟨options, h⟩
    exact clean_of_ok h

/-- When checking a Hello is clean, for one long enough to have a ZID. -/
theorem clean_verifyMac (C : Crypto) (key : Bytes) (p : HandshakePacket)
    (hlong : 88 + p.headerBugOffset ≤ p.data.length) :
    Clean (HelloPacket.verifyMac C key p) ↔ MacInside p := by
  have hbug := headerBugOffset_le p
  have hlength : ∃ l, p.getLength = .ok l :=
    ⟨_, (getLength_ok p _).mpr ⟨by omega, rfl⟩⟩
  have hh3 : getH3 p = .ok (slice (44 + p.headerBugOffset) 32 p.data) :=
    region_of_le _ _ _ _ (by omega)
  rcases hlength with ⟨l, hl⟩
  unfold HelloPacket.verifyMac
  rw [clean_bind_ok hl, clean_bind]
  constructor
  · rintro ⟨_, h⟩ l' hl' h88
    have hsame : l' = l := Except.ok.inj (hl'.symm.trans hl)
    -- The length has passed its test, so the options are counted.
    have hrest := h () ((throwIf_ok _ _ _).mpr (by
      rw [decide_eq_false_iff_not]
      unfold HELLO_MIN_LENGTH
      omega))
    rw [clean_bind, clean_getOptionsLength] at hrest
    rcases hrest with ⟨⟨options, hoptions⟩, hmac⟩
    have hmac := hmac _ hoptions
    rw [clean_bind_ok hh3, HandshakePacket.clean_verifyMac] at hmac
    exact ⟨options, hoptions, by omega⟩
  · intro h
    refine ⟨clean_throwIf _ _, fun _ h88 => ?_⟩
    rw [throwIf_ok, decide_eq_false_iff_not] at h88
    unfold HELLO_MIN_LENGTH at h88
    rcases h l hl (by omega) with ⟨options, hoptions, hin⟩
    rw [clean_bind_ok hoptions, clean_bind_ok hh3, HandshakePacket.clean_verifyMac]
    unfold HELLO_MIN_LENGTH
    omega

end HelloPacket

namespace DHPacket

theorem clean_getHash (d : DHPacket) :
    Clean d.getHash ↔ 56 + d.packet.headerBugOffset ≤ d.packet.data.length := by
  unfold getHash
  rw [clean_arraycopy]
  omega

theorem clean_getPvr (d : DHPacket) : Clean d.getPvr ↔
    88 + d.packet.headerBugOffset + d.agreementType.pvrLength ≤ d.packet.data.length := by
  unfold getPvr
  exact clean_arraycopy _ _ _

/-- When checking the code of a DHPart is clean, for one that has a hash. -/
theorem clean_verifyMac (C : Crypto) (key : Bytes) (d : DHPacket)
    (hlong : 56 + d.packet.headerBugOffset ≤ d.packet.data.length) :
    Clean (d.verifyMac C key) ↔
      96 + d.packet.headerBugOffset + d.agreementType.pvrLength ≤ d.packet.data.length := by
  have hlength := d.agreementType.dhLength_eq
  have hhash : d.getHash = .ok (slice (24 + d.packet.headerBugOffset) 32 d.packet.data) :=
    region_of_le _ _ _ _ (by omega)
  unfold DHPacket.verifyMac
  rw [clean_bind_ok hhash, HandshakePacket.clean_verifyMac]
  omega

end DHPacket

namespace CommitPacket

theorem clean_getKeyAgreementType (p : HandshakePacket) :
    Clean (getKeyAgreementType p) ↔ 84 + p.headerBugOffset ≤ p.data.length := by
  unfold getKeyAgreementType
  rw [clean_arraycopy]
  omega

/-- When checking the code of a Commit is clean, for one that has a hash. -/
theorem clean_verifyMac (C : Crypto) (key : Bytes) (p : HandshakePacket)
    (hlong : 84 + p.headerBugOffset ≤ p.data.length) :
    Clean (CommitPacket.verifyMac C key p) ↔ 128 + p.headerBugOffset ≤ p.data.length := by
  have hhash : getHash p = .ok (slice (24 + p.headerBugOffset) 32 p.data) :=
    region_of_le _ _ _ _ (by omega)
  unfold CommitPacket.verifyMac COMMIT_LENGTH
  rw [clean_bind_ok hhash, HandshakePacket.clean_verifyMac]
  omega

/-- Comparing the commitment is clean in a Commit long enough to be checked. -/
theorem clean_verifyHvi (C : Crypto) (helloBytes dhBytes : Bytes) (p : HandshakePacket)
    (hlong : 128 + p.headerBugOffset ≤ p.data.length) :
    Clean (verifyHvi C helloBytes dhBytes p) := by
  have hhvi : getHvi p = .ok (slice (88 + p.headerBugOffset) 32 p.data) :=
    region_of_le _ _ _ _ (by omega)
  unfold verifyHvi
  rw [clean_bind_ok hhvi]
  exact clean_throwIf _ _

end CommitPacket

namespace ConfirmPacket

/-- A Confirm packet is in the buffer, which is always long enough. -/
theorem clean_verifyMac (C : Crypto) (macKey : Bytes) (buf : ReceiveBuffer) (c : ConfirmPacket)
    (hbug : c.bugOffset ≤ 12) : Clean (c.verifyMac C macKey buf) := by
  have hlen := buf.length_eq
  unfold ConfirmPacket.verifyMac ENCRYPTED_LENGTH
  rw [clean_bind]
  refine ⟨clean_throwIf _ _, fun _ _ => ?_⟩
  rw [clean_bind, clean_region]
  refine ⟨by omega, fun _ _ => ?_⟩
  rw [clean_bind, clean_arraycopy]
  exact ⟨by omega, fun _ _ => clean_throwIf _ _⟩

end ConfirmPacket

namespace SecretCalculator

/-- The key agreement is clean exactly when it accepts the public value. -/
theorem clean_calculateKeyAgreement (C : Crypto) (keys : KeyPairs) (t : AgreementType)
    (pvr : Bytes) (hpvr : pvr.length = t.pvrLength) :
    Clean (calculateKeyAgreement C keys t pvr)
      ↔ ∃ r, calculateKeyAgreement C keys t pvr = .ok r := by
  constructor
  · intro h
    cases hr : calculateKeyAgreement C keys t pvr with
    | ok r => exact ⟨r, rfl⟩
    | error e =>
        rw [hr] at h
        have hcaught := h e rfl
        unfold calculateKeyAgreement at hr
        cases t with
        | dh3k =>
            cases hagree : C.dhAgree keys.dh3k (Endian.ofBE pvr) with
            | ok r =>
                simp only [hagree, Except.mapError, reduceCtorEq] at hr
            | error e' =>
                simp only [hagree] at hr
                rw [← Except.error.inj hr] at hcaught
                exact absurd hcaught (fun hc => hc)
        | ec25 =>
            have h64 : pvr.length = 64 := hpvr
            rw [arraycopy, region_of_le _ _ _ _ (by omega), ok_bind, arraycopy,
              region_of_le _ _ _ _ (by omega), ok_bind] at hr
            generalize C.ecAgree _ _ = agreed at hr
            cases agreed with
            | ok r => simp only [Except.mapError, reduceCtorEq] at hr
            | error e' =>
                rw [← Except.error.inj hr] at hcaught
                exact absurd hcaught (fun hc => hc)
  · rintro ⟨r, h⟩
    exact clean_of_ok h

end SecretCalculator

end RedPhone
