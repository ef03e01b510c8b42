import RedPhone.Zrtp.Declared

/-!
# What an Initiator Can Be Handed

Most handlers of the initiator do not look at the length of the packet they
read, and some read packets that came before. `Harmless` says what this comes
to: what a datagram, and the Hello or DHPart1 before it, have to be like for
the handler to throw nothing but what the negotiation declares.

The conditions are read off the handlers one statement after the other. What
an initiator holds and has read before is `Held`, so that nothing is asked for
twice.

## Main definitions

* `ZRTPInitiatorSocket.Held`: What an initiator holds, by its state.
* `Answerable`, `Takeable`: A Hello that can be answered, a DHPart1 that can be
  taken.
* `Harmless`: A datagram an initiator can be handed.

## Theorems

* `clean_handleHelloAck`, `clean_handleDH`, `clean_handleConfirmOne`: When the
  handlers are clean.
* `declared_step`: When an iteration throws only what is declared.
-/

namespace RedPhone

open HandshakePacket RetainedSecretsCalculator Java

namespace ZRTPInitiatorSocket

/-- How many packets of the peer an initiator has taken. -/
def stage : State → Nat
  | .expectingHelloAck => 1
  | .expectingDh1 => 2
  | .expectingConfirmOne => 3
  | .expectingConfirmAck => 4
  | _ => 0

/-- What an initiator holds by then. -/
structure Held (s : ZRTPInitiatorSocket) : Prop where
  hello : 1 ≤ stage s.state → ∃ p, s.role.foreignHello = some p ∧ Copied p
  localHello : 1 ≤ stage s.state → ∃ p, s.role.localHello = some p
  long : 2 ≤ stage s.state → ∀ p, s.role.foreignHello = some p →
    88 + p.headerBugOffset ≤ p.data.length
  dh : 2 ≤ stage s.state → ∃ d, s.role.localDH = some d
  keyed : 3 ≤ stage s.state → ∃ ms, s.masterSecret = some ms
  foreignDH : ∀ d, s.role.foreignDH = some d → Copied d.packet
  confirm : 4 ≤ stage s.state → ∃ c, s.role.confirmPacket = some c ∧ c.bugOffset ≤ 12

variable {C : Crypto} {cfg : Config} {s s' : ZRTPInitiatorSocket}

theorem held_create (database : RetainedSecretsDatabase) : Held (create database) :=
  ⟨nofun, nofun, nofun, nofun, nofun, nofun, nofun⟩

theorem Held.idle (h : Held s) (hidle : ZRTPSocket.Idle s s') : Held s' := by
  have hstage : ∀ n, 1 ≤ n → n ≤ stage s'.state → n ≤ stage s.state := by
    intro n hpos hn
    rcases hidle.state_eq with hstate | hstate
    · rw [hstate] at hn
      exact hn
    · -- A socket that was closed holds nothing it has to answer for.
      rw [hstate] at hn
      exact absurd (hpos.trans hn) (Nat.not_succ_le_zero 0)
  refine ⟨?_, ?_, ?_, ?_, ?_, ?_, ?_⟩
  · rw [hidle.role_eq]
    exact fun hn => h.hello (hstage 1 (by omega) hn)
  · rw [hidle.role_eq]
    exact fun hn => h.localHello (hstage 1 (by omega) hn)
  · rw [hidle.role_eq]
    exact fun hn => h.long (hstage 2 (by omega) hn)
  · rw [hidle.role_eq]
    exact fun hn => h.dh (hstage 2 (by omega) hn)
  · rw [hidle.masterSecret_eq]
    exact fun hn => h.keyed (hstage 3 (by omega) hn)
  · rw [hidle.role_eq]
    exact h.foreignDH
  · rw [hidle.role_eq]
    exact fun hn => h.confirm (hstage 4 (by omega) hn)

theorem held_step (hlocal : Local C cfg s) (h : Held s) (i : Input)
    (hstep : step C cfg s i = .ok s') : Held s' := by
  rcases ZRTPSocket.negotiate_ok _ s s' i hstep with ⟨d, hevent, _, _, hhandled⟩ | ⟨hidle, _, _⟩
  · cases hhandled with
    | hello hstate htype hrun =>
        rcases handleHello_ok hrun with ⟨hello, hcopy, rfl⟩
        exact ⟨fun _ => ⟨hello, rfl, ZRTPSocket.copied_received d s hello hcopy⟩,
          fun _ => ⟨_, rfl⟩, nofun, nofun, nofun, h.foreignDH, nofun⟩
    | helloAck hstate htype hrun =>
        -- The Hello was stored a state ago, and its ZID has just been read.
        have hone : 1 ≤ stage s.state := by
          rw [show s.state = .expectingHelloAck from hstate]
          exact Nat.le_refl 1
        rcases handleHelloAck_ok (s.received d) hrun with
          ⟨hello, zid, _, _, _, localDH, _, _, hhello, hzid, _, _, _, _, _, _, rfl⟩
        refine ⟨fun _ => h.hello hone, fun _ => h.localHello hone, fun _ p hp => ?_,
          fun _ => ⟨localDH, rfl⟩, nofun, h.foreignDH, nofun⟩
        have hsame : hello = p := Option.some.inj (hhello.symm.trans hp)
        rw [← hsame]
        exact (HelloPacket.clean_getZID hello).mp (clean_of_ok hzid)
    | commit hstate htype hrun => exact nomatch hrun
    | dhOne hstate htype hrun =>
        have htwo : 2 ≤ stage s.state := by
          rw [show s.state = .expectingDh1 from hstate]
          exact Nat.le_refl 2
        rcases handleDH_ok hrun with ⟨foreignDH, localDH, ms, haccepted, _, rfl⟩
        refine ⟨fun _ => h.hello (by omega), fun _ => h.localHello (by omega), fun _ => h.long htwo,
          fun _ => h.dh htwo, fun _ => ⟨ms, rfl⟩, fun q hq => ?_, nofun⟩
        rcases haccepted.copy with ⟨t, _, hcopy⟩
        rcases (bind_ok _ _ _).mp hcopy with ⟨p, hp, hmade⟩
        rw [← Option.some.inj hq, ← Except.ok.inj hmade]
        exact ZRTPSocket.copied_received d s p hp
    | dhTwo hstate htype hrun => exact absurd hstate hlocal.states.2.1
    | confirmOne hstate htype hrun =>
        have hthree : 3 ≤ stage s.state := by
          rw [show s.state = .expectingConfirmOne from hstate]
          exact Nat.le_refl 3
        rcases handleConfirmOne_next hrun with ⟨_, _, rfl⟩
        exact ⟨fun _ => h.hello (by omega), fun _ => h.localHello (by omega),
          fun _ => h.long (by omega), fun _ => h.dh (by omega), fun _ => h.keyed hthree,
          h.foreignDH, fun _ => ⟨_, rfl, headerBugOffset_le _⟩⟩
    | confirmTwo hstate htype hrun => exact nomatch hrun
    | confirmAck hstate htype hrun =>
        rcases handleConfirmAck_next (s.received d) hrun with ⟨_, rfl⟩
        exact ⟨nofun, nofun, nofun, nofun, nofun, h.foreignDH, nofun⟩
  · exact h.idle hidle

/-- The offers of a Hello are inside it, unless its client id makes them
    unnecessary. -/
def OffersInside (hello : HandshakePacket) : Prop :=
  ∀ clientId, HelloPacket.getClientId hello = .ok clientId →
    (RedPhoneClientId.create clientId).isImplicitDh3kVersion = false →
    HelloPacket.AgreementsInside hello

/-- A Hello that can be answered with a Commit. -/
structure Answerable (cfg : Config) (database : RetainedSecretsDatabase) (now : Int)
    (hello : HandshakePacket) : Prop where
  long : 88 + hello.headerBugOffset ≤ hello.data.length
  secrets : SecretsUsable cfg.platform database cfg.remoteNumber now hello
  offers : OffersInside hello
  message : MessageInside hello

/-- A DHPart1 that can be checked, and taken if the check succeeds. -/
structure Takeable (C : Crypto) (cfg : Config) (hello : HandshakePacket) (d : DHPacket) : Prop where
  hash : 56 + d.packet.headerBugOffset ≤ d.packet.data.length
  helloMac : HelloPacket.MacInside hello
  agreeable : ∀ h1, d.getHash = .ok h1 → HelloPacket.verifyMac C (C.sha256 h1) hello = .ok () →
    Agreeable C cfg d ∧ MessageInside d.packet

/-- When choosing a key agreement is clean. -/
theorem clean_getKeyAgreementType (hello : HandshakePacket)
    (hhello : s.role.foreignHello = some hello)
    (hlong : 88 + hello.headerBugOffset ≤ hello.data.length) :
    Clean s.getKeyAgreementType ↔ OffersInside hello := by
  have hid := (HelloPacket.clean_getClientId hello).mpr (by omega)
  unfold getKeyAgreementType OffersInside
  rw [hhello]
  simp only []
  rw [clean_bind]
  constructor
  · rintro ⟨_, h⟩ clientId hclient himplicit
    have hrest := h clientId hclient
    rw [himplicit, if_neg Bool.false_ne_true, clean_bind,
      HelloPacket.clean_getKeyAgreementOptions] at hrest
    exact hrest.1
  · intro h
    refine ⟨hid, fun clientId hclient => ?_⟩
    by_cases himplicit : (RedPhoneClientId.create clientId).isImplicitDh3kVersion = true
    · rw [if_pos himplicit]
      exact clean_ok _
    · rw [if_neg himplicit, clean_bind, HelloPacket.clean_getKeyAgreementOptions]
      exact ⟨h clientId hclient (Bool.eq_false_iff.mpr himplicit), fun _ _ => clean_ok _⟩

theorem exists_getKeyAgreementType (hello : HandshakePacket)
    (hhello : s.role.foreignHello = some hello)
    (hlong : 88 + hello.headerBugOffset ≤ hello.data.length) (hoffers : OffersInside hello) :
    ∃ t, s.getKeyAgreementType = .ok t := by
  have hclient : HelloPacket.getClientId hello
      = .ok (Text.decodeUtf8 (Slice.slice (28 + hello.headerBugOffset) 16 hello.data)) :=
    (bind_ok _ _ _).mpr ⟨_, region_of_le _ _ _ _ (by omega), rfl⟩
  unfold getKeyAgreementType
  rw [hhello]
  simp only [hclient, ok_bind]
  by_cases himplicit : (RedPhoneClientId.create (Text.decodeUtf8
      (Slice.slice (28 + hello.headerBugOffset) 16 hello.data))).isImplicitDh3kVersion = true
  · rw [if_pos himplicit]
    exact ⟨_, rfl⟩
  · rw [if_neg himplicit]
    rcases HelloPacket.exists_getKeyAgreementOptions hello
      (hoffers _ hclient (Bool.eq_false_iff.mpr himplicit)) with ⟨options, hoptions⟩
    rw [hoptions]
    exact ⟨_, rfl⟩

/-- The Commit for a DHPart2 of its own can always be made. -/
theorem clean_commit (secrets : RetainedSecrets) (ids : RetainedSecretsDerivatives)
    (hids : calculateDerivatives C .initiator secrets = .ok ids) (t : AgreementType)
    (legacy : Bool) (helloBytes : Bytes) :
    Clean (CommitPacket.create C (cfg.hashChain C) helloBytes
      (DHPacket.create C DHPacket.TYPE_TWO t (cfg.hashChain C) (cfg.keys.getPublicKey C t) ids
        cfg.random legacy) cfg.localZid legacy) := by
  have hmade := cfg.dh_made C .initiator DHPacket.TYPE_TWO DHPacket.length_TYPE_TWO t secrets ids
    hids legacy
  have hlength := t.dhLength_eq
  have hpvr := t.pvrLength_le
  have hmessage := hmade.header.getMessageBytes_eq (by omega) (by omega)
  unfold CommitPacket.create
  simp only []
  rw [clean_bind_ok hmessage]
  exact clean_ok _

theorem clean_handleHello (c : Clock) (packet : HandshakePacket) (h : packet.packetLength ≠ 0) :
    Clean (handleHello C cfg c packet s) := by
  have hcopy : packet.copyOf = .ok ⟨packet.data.take packet.packetLength, packet.packetLength⟩ :=
    (copyOf_ok _ _).mpr ⟨h, rfl⟩
  unfold handleHello
  rw [clean_bind_ok hcopy]
  exact clean_ok _

/-- When answering a Hello is clean. -/
theorem clean_handleHelloAck (c : Clock) (packet hello : HandshakePacket)
    (hhello : s.role.foreignHello = some hello) (hcopied : Copied hello) :
    Clean (handleHelloAck C cfg c packet s) ↔ Answerable cfg s.database c.retrieve hello := by
  have horNull : orNull s.role.foreignHello = .ok hello := (orNull_ok _ _).mpr hhello
  unfold handleHelloAck
  simp only []
  rw [clean_bind_ok horNull, clean_bind, HelloPacket.clean_getZID]
  constructor
  · rintro ⟨hlong, h⟩
    have hzid : HelloPacket.getZID hello
        = .ok (Slice.slice (76 + hello.headerBugOffset) 12 hello.data) :=
      region_of_le _ _ _ _ (by omega)
    have hread := h _ hzid
    rw [clean_bind] at hread
    rcases (bare_getRetainedSecrets _ _ _ _ _).exists_ok hread.1 with ⟨secrets, hsecrets⟩
    have hrest := hread.2 secrets hsecrets
    rw [clean_bind] at hrest
    have hkeyable := keyable_of_clean C .initiator secrets hrest.1
    rcases calculateDerivatives_of_keyable C .initiator secrets hkeyable with ⟨ids, hids⟩
    have hchoose := hrest.2 ids hids
    rw [clean_bind, clean_getKeyAgreementType hello hhello hlong] at hchoose
    refine ⟨hlong, ?_, hchoose.1, ?_⟩
    · intro zid' hzid'
      rw [← Except.ok.inj (hzid.symm.trans hzid')]
      exact ⟨secrets, hsecrets, hkeyable⟩
    · -- The message is only read once a key agreement is chosen.
      rcases exists_getKeyAgreementType hello hhello hlong hchoose.1 with ⟨t, ht⟩
      have hmessage := hchoose.2 t ht
      rw [clean_bind, clean_getMessageBytes hello hcopied] at hmessage
      exact hmessage.1
  · rintro ⟨hlong, hsecrets, hoffers, hmessage⟩
    refine ⟨hlong, fun zid hzid => ?_⟩
    rcases hsecrets zid hzid with ⟨secrets, hread, hkeyable⟩
    rcases calculateDerivatives_of_keyable C .initiator secrets hkeyable with ⟨ids, hids⟩
    rw [clean_bind_ok hread, clean_bind_ok hids, clean_bind,
      clean_getKeyAgreementType hello hhello hlong]
    refine ⟨hoffers, fun t _ => ?_⟩
    rw [clean_bind, clean_getMessageBytes hello hcopied]
    refine ⟨hmessage, fun helloBytes _ => ?_⟩
    rw [clean_bind]
    exact ⟨clean_commit secrets ids hids t _ helloBytes, fun _ _ => clean_ok _⟩

/-- What an initiator that has sent its Commit holds, and can read. -/
structure Prepared (s : ZRTPInitiatorSocket) (hello : HandshakePacket) (t : AgreementType) :
    Prop where
  foreignHello : s.role.foreignHello = some hello
  long : 88 + hello.headerBugOffset ≤ hello.data.length
  message : ∃ m, hello.getMessageBytes = .ok m
  agreementType : s.getKeyAgreementType = .ok t
  commit : ∃ commit m, s.role.commitPacket = some commit ∧ commit.getMessageBytes = .ok m
  localDH : ∃ d m, s.role.localDH = some d ∧ d.packet.getMessageBytes = .ok m
  secrets : ∃ secrets, s.role.retainedSecrets = some secrets ∧ Keyable secrets
  localHello : ∃ p zid, s.role.localHello = some p ∧ HelloPacket.getZID p = .ok zid

theorem prepared (hlocal : Local C cfg s) (h : Held s) (hstage : 2 ≤ stage s.state) :
    ∃ hello t, Prepared s hello t := by
  rcases h.dh hstage with ⟨d, hd⟩
  rcases hlocal.committed d hd with ⟨hello, commit, secrets, ids, t, hb, db, hhello, hbytes,
    hcommit, hsecrets, hids, ht, _, hdbytes, hmade⟩
  rcases h.localHello (by omega) with ⟨localHello, hlocalHello⟩
  have hown := cfg.hello_made C s.role.includeLegacyHeaderBug
  rw [← hlocal.hello localHello hlocalHello] at hown
  exact ⟨hello, t,
    { foreignHello := hhello
      long := h.long hstage hello hhello
      message := ⟨hb, hbytes⟩
      agreementType := ht
      commit := ⟨commit, _, hcommit, hmade.header.getMessageBytes_eq (by decide) (by decide)⟩
      localDH := ⟨d, db, hd, hdbytes⟩
      secrets := ⟨secrets, hsecrets, ((calculateDerivatives_ok _ _ _ _).mp hids).1⟩
      localHello := ⟨localHello, _, hlocalHello,
        HelloPacket.getZID_made _ _ hown (.refl localHello)⟩ }⟩

/-- When taking a DHPart1 is clean. -/
theorem clean_handleDH (c : Clock) (packet copy hello : HandshakePacket) (t : AgreementType)
    (h : Prepared s hello t) (hcopy : packet.copyOf = .ok copy) (hcopied : Copied copy) :
    Clean (handleDH C cfg c packet s) ↔ Takeable C cfg hello ⟨copy, t⟩ := by
  rcases h with ⟨hhello, hlong, ⟨hb, hbytes⟩, ht, ⟨commit, cb, hcommit, hcbytes⟩,
    ⟨localDH, lb, hdh, hlbytes⟩, ⟨secrets, hsecrets, hkeyable⟩, ⟨localHello, zidi, hown, hzidi⟩⟩
  have hzidr : HelloPacket.getZID hello
      = .ok (Slice.slice (76 + hello.headerBugOffset) 12 hello.data) :=
    region_of_le _ _ _ _ (by omega)
  have hnone : throwIf s.role.localDH.isNone (.unchecked .assertionError) = .ok () :=
    (throwIf_ok _ _ _).mpr (by rw [hdh]; rfl)
  have hread : DHPacket.copyOf packet t = .ok ⟨copy, t⟩ := (bind_ok _ _ _).mpr ⟨copy, hcopy, rfl⟩
  unfold handleDH
  rw [clean_bind_ok hnone, clean_bind_ok ht, clean_bind_ok hread, clean_bind,
    DHPacket.clean_getHash]
  have hhelloNull : orNull s.role.foreignHello = .ok hello := (orNull_ok _ _).mpr hhello
  have hcommitNull : orNull s.role.commitPacket = .ok commit := (orNull_ok _ _).mpr hcommit
  have hdhNull : orNull s.role.localDH = .ok localDH := (orNull_ok _ _).mpr hdh
  have hsecretsNull : orNull s.role.retainedSecrets = .ok secrets := (orNull_ok _ _).mpr hsecrets
  have hownNull : orNull s.role.localHello = .ok localHello := (orNull_ok _ _).mpr hown
  constructor
  · rintro ⟨hhash, hrest⟩
    have hgetHash : (⟨copy, t⟩ : DHPacket).getHash
        = .ok (Slice.slice (24 + copy.headerBugOffset) 32 copy.data) :=
      region_of_le _ copy.data (24 + copy.headerBugOffset) 32 (by simp only [] at hhash; omega)
    have hrest := hrest _ hgetHash
    simp only [] at hrest
    rw [clean_bind_ok hhelloNull, clean_bind, HelloPacket.clean_verifyMac _ _ _ hlong] at hrest
    refine ⟨hhash, hrest.1, fun h1 hh1 hmac => ?_⟩
    rw [Except.ok.inj (hgetHash.symm.trans hh1)] at hrest
    have hrest := hrest.2 () hmac
    rw [clean_bind, DHPacket.clean_getPvr] at hrest
    rcases hrest with ⟨hpvrIn, hrest⟩
    have hgetPvr : (⟨copy, t⟩ : DHPacket).getPvr
        = .ok (Slice.slice (88 + copy.headerBugOffset) t.pvrLength copy.data) :=
      region_of_le _ _ _ _ hpvrIn
    have hrest := hrest _ hgetPvr
    rw [clean_bind, SecretCalculator.clean_calculateKeyAgreement _ _ _ _
      (Slice.length_slice _ _ _ hpvrIn)] at hrest
    rcases hrest with ⟨⟨r, hr⟩, hrest⟩
    have hrest := hrest r hr
    rw [clean_bind_ok hcommitNull, clean_bind_ok hdhNull, clean_bind] at hrest
    refine ⟨⟨hpvrIn, fun pvr hpvr => ?_⟩, ?_⟩
    · rw [← Except.ok.inj (hgetPvr.symm.trans hpvr)]
      exact ⟨r, hr⟩
    · have htotal := hrest.1
      unfold SecretCalculator.calculateTotalHash at htotal
      rw [clean_bind_ok hbytes, clean_bind_ok hcbytes, clean_bind,
        clean_getMessageBytes _ hcopied] at htotal
      exact htotal.1
  · rintro ⟨hhash, hhelloMac, hagreeable⟩
    refine ⟨hhash, fun h1 hh1 => ?_⟩
    simp only []
    rw [clean_bind_ok hhelloNull, clean_bind, HelloPacket.clean_verifyMac _ _ _ hlong]
    refine ⟨hhelloMac, fun _ hmac => ?_⟩
    rcases hagreeable h1 hh1 hmac with ⟨⟨hpvrIn, hagree⟩, hmessage⟩
    simp only [] at hpvrIn
    rw [clean_bind, DHPacket.clean_getPvr]
    refine ⟨hpvrIn, fun pvr hpvr => ?_⟩
    rcases hagree pvr hpvr with ⟨r, hr⟩
    rw [clean_bind_ok hr, clean_bind_ok hcommitNull, clean_bind_ok hdhNull, clean_bind]
    constructor
    · unfold SecretCalculator.calculateTotalHash
      rw [clean_bind_ok hbytes, clean_bind_ok hcbytes, clean_bind, clean_getMessageBytes _ hcopied]
      refine ⟨hmessage, fun _ _ => ?_⟩
      rw [clean_bind_ok hlbytes]
      exact clean_ok _
    · -- What is left reads fields in front of the public value.
      intro totalHash _
      have hrs1 : (⟨copy, t⟩ : DHPacket).getDerivativeSecretOne
          = .ok (Slice.slice (56 + copy.headerBugOffset) 8 copy.data) :=
        region_of_le _ copy.data (56 + copy.headerBugOffset) 8 (by omega)
      have hrs2 : (⟨copy, t⟩ : DHPacket).getDerivativeSecretTwo
          = .ok (Slice.slice (64 + copy.headerBugOffset) 8 copy.data) :=
        region_of_le _ copy.data (64 + copy.headerBugOffset) 8 (by omega)
      rcases exists_getS1 C .initiator secrets hkeyable
        (some (Slice.slice (56 + copy.headerBugOffset) 8 copy.data))
        (some (Slice.slice (64 + copy.headerBugOffset) 8 copy.data)) with ⟨s1, hs1⟩
      rw [clean_bind_ok hrs1, clean_bind_ok hrs2, clean_bind_ok hsecretsNull, clean_bind_ok hs1,
        clean_bind_ok hownNull, clean_bind_ok hzidi, clean_bind_ok hzidr]
      exact clean_ok _

/-- What an initiator that has derived its keys holds, and can read. -/
structure Keyed (s : ZRTPInitiatorSocket) (hello : HandshakePacket) (ms : MasterSecret)
    (d : DHPacket) : Prop where
  foreignHello : s.role.foreignHello = some hello
  hello_long : 88 + hello.headerBugOffset ≤ hello.data.length
  masterSecret : s.masterSecret = some ms
  foreignDH : s.role.foreignDH = some d
  dh_long : 88 + d.packet.headerBugOffset + d.agreementType.pvrLength ≤ d.packet.data.length
  secrets : ∃ secrets, s.role.retainedSecrets = some secrets ∧ Keyable secrets

theorem keyed (hlocal : Local C cfg s) (h : Held s) (hstage : 3 ≤ stage s.state) :
    ∃ hello ms d, Keyed s hello ms d := by
  rcases prepared hlocal h (by omega) with ⟨hello, _, hprepared⟩
  rcases h.keyed hstage with ⟨ms, hms⟩
  rcases hlocal.keyed ms hms with ⟨_, d, hd, haccepted⟩
  rcases haccepted.derived with ⟨_, _, _, _, _, _, _, _, _, _, _, _, _, _, _, _, _, _, hpvr, _⟩
  exact ⟨hello, ms, d,
    { foreignHello := hprepared.foreignHello
      hello_long := hprepared.long
      masterSecret := hms
      foreignDH := hd
      dh_long := (DHPacket.clean_getPvr d).mp (clean_of_ok hpvr)
      secrets := hprepared.secrets }⟩

/-- When taking a Confirm1 is clean. -/
theorem clean_handleConfirmOne (c : Clock) (packet hello : HandshakePacket) (ms : MasterSecret)
    (d : DHPacket) (h : Keyed s hello ms d) :
    Clean (handleConfirmOne C cfg c packet s) ↔ Confirmable C ms.macR s.buf packet d := by
  have hlong := h.dh_long
  rcases exists_isLegacyConfirmConnection hello h.hello_long with ⟨legacy, hlegacy⟩
  unfold handleConfirmOne
  simp only []
  rw [clean_bind_ok ((orNull_ok _ _).mpr h.foreignHello), clean_bind_ok hlegacy,
    clean_bind_ok ((orNull_ok _ _).mpr h.masterSecret)]
  exact clean_confirm C ms.macR ms.zrtpKeyR s.buf packet s.role.foreignDH d h.foreignDH (by omega)
    _ (fun _ => clean_ok _)

/-- The acknowledgement is only an occasion to read what was read before. -/
theorem clean_handleConfirmAck (c : Clock) (packet hello : HandshakePacket) (ms : MasterSecret)
    (d : DHPacket) (h : Keyed s hello ms d) (confirm : ConfirmPacket)
    (hconfirm : s.role.confirmPacket = some confirm) (hbug : confirm.bugOffset ≤ 12) :
    Clean (handleConfirmAck C cfg c packet s) := by
  have hlong := h.dh_long
  have hhello := h.hello_long
  rcases h.secrets with ⟨secrets, hsecrets, hkeyable⟩
  -- Every read is of a field of a packet that is long enough.
  have hrs1 : d.getDerivativeSecretOne
      = .ok (Slice.slice (56 + d.packet.headerBugOffset) 8 d.packet.data) :=
    region_of_le _ _ _ _ (by omega)
  have hrs2 : d.getDerivativeSecretTwo
      = .ok (Slice.slice (64 + d.packet.headerBugOffset) 8 d.packet.data) :=
    region_of_le _ _ _ _ (by omega)
  have hzid : HelloPacket.getZID hello
      = .ok (Slice.slice (76 + hello.headerBugOffset) 12 hello.data) :=
    region_of_le _ _ _ _ (by omega)
  rcases exists_getS1 C .initiator secrets hkeyable
    (some (Slice.slice (56 + d.packet.headerBugOffset) 8 d.packet.data))
    (some (Slice.slice (64 + d.packet.headerBugOffset) 8 d.packet.data)) with ⟨s1, hs1⟩
  have hcontinuity : hasContinuity C .initiator secrets
      (some (Slice.slice (56 + d.packet.headerBugOffset) 8 d.packet.data))
      (some (Slice.slice (64 + d.packet.headerBugOffset) 8 d.packet.data)) = .ok s1.isSome :=
    (bind_ok _ _ _).mpr ⟨s1, hs1, rfl⟩
  unfold handleConfirmAck
  rw [clean_bind_ok ((orNull_ok _ _).mpr hsecrets), clean_bind_ok ((orNull_ok _ _).mpr h.foreignDH),
    clean_bind_ok hrs1, clean_bind_ok hrs2, clean_bind_ok hcontinuity,
    clean_bind_ok ((orNull_ok _ _).mpr h.foreignHello), clean_bind_ok hzid,
    clean_bind_ok ((orNull_ok _ _).mpr h.masterSecret),
    clean_bind_ok ((orNull_ok _ _).mpr hconfirm),
    clean_bind_ok (ConfirmPacket.getCacheTime_ok _ _ hbug)]
  exact clean_ok _

/-- A datagram an initiator can be handed in a state: long enough for a
    checksum, and if that is right, no occasion to read outside the packet that
    is next to be read. -/
def Harmless (C : Crypto) (cfg : Config) (s : ZRTPInitiatorSocket) (i : Input) : Prop :=
  ∀ d, i.event = .datagram d → ¬ s.Over →
    (s.state ≠ .expectingConfirmAck → 4 ≤ d.length) ∧
    ((s.received d).verifyCRC = .ok true →
      (s.state = .expectingHelloAck → (s.received d).getType = .ok HELLO_ACK_TYPE →
        ∀ hello, s.role.foreignHello = some hello →
          Answerable cfg s.database i.clock.retrieve hello) ∧
      (s.state = .expectingDh1 → (s.received d).getType = .ok DHPacket.TYPE_ONE →
        ∀ hello t, s.role.foreignHello = some hello → s.getKeyAgreementType = .ok t →
          Takeable C cfg hello ⟨ZRTPSocket.ofDatagram d, t⟩) ∧
      (s.state = .expectingConfirmOne → (s.received d).getType = .ok ConfirmPacket.TYPE_ONE →
        ∀ ms dh, s.masterSecret = some ms → s.role.foreignDH = some dh →
          Confirmable C ms.macR (s.buf.receive d) (s.received d) dh))

theorem clean_helloAck_received (hheld : Held s) (hstate : s.state = .expectingHelloAck)
    (c : Clock) (d : Bytes) :
    Clean (handleHelloAck C cfg c (s.received d) { s with buf := s.buf.receive d }) ↔
      ∀ hello, s.role.foreignHello = some hello → Answerable cfg s.database c.retrieve hello := by
  have hone : 1 ≤ stage s.state := by
    rw [hstate]
    exact Nat.le_refl 1
  rcases hheld.hello hone with ⟨hello, hhello, hcopied⟩
  have hclean := @clean_handleHelloAck C cfg { s with buf := s.buf.receive d } c (s.received d)
    hello hhello hcopied
  rw [hclean, hhello]
  simp only [Option.some.injEq, forall_eq']

theorem clean_dh_received (hlocal : Local C cfg s) (hheld : Held s)
    (hstate : s.state = .expectingDh1) (c : Clock) (d : Bytes) (hd : 4 ≤ d.length) :
    Clean (handleDH C cfg c (s.received d) { s with buf := s.buf.receive d }) ↔
      ∀ hello t, s.role.foreignHello = some hello → s.getKeyAgreementType = .ok t →
        Takeable C cfg hello ⟨ZRTPSocket.ofDatagram d, t⟩ := by
  have htwo : 2 ≤ stage s.state := by
    rw [hstate]
    exact Nat.le_refl 2
  have hidle := ZRTPSocket.idle_receive d s
  rcases prepared (hlocal.idle hidle) (hheld.idle hidle) htwo with
    ⟨hello, t, hprepared⟩
  have hcopy := ZRTPSocket.copyOf_received_of_le d s hd
  have hclean := @clean_handleDH C cfg _ c (s.received d) (ZRTPSocket.ofDatagram d) hello t
    hprepared hcopy (ZRTPSocket.copied_received d s _ hcopy)
  have hhello : s.role.foreignHello = some hello := hprepared.foreignHello
  have ht : s.getKeyAgreementType = .ok t := hprepared.agreementType
  rw [hclean, hhello, ht]
  simp only [Option.some.injEq, Except.ok.injEq]
  exact (forall_eq_both (fun hello t => Takeable C cfg hello ⟨ZRTPSocket.ofDatagram d, t⟩) _ _).symm

theorem clean_confirmOne_received (hlocal : Local C cfg s) (hheld : Held s)
    (hstate : s.state = .expectingConfirmOne) (c : Clock) (d : Bytes) :
    Clean (handleConfirmOne C cfg c (s.received d) { s with buf := s.buf.receive d }) ↔
      ∀ ms dh, s.masterSecret = some ms → s.role.foreignDH = some dh →
        Confirmable C ms.macR (s.buf.receive d) (s.received d) dh := by
  have hthree : 3 ≤ stage s.state := by
    rw [hstate]
    exact Nat.le_refl 3
  have hidle := ZRTPSocket.idle_receive d s
  rcases keyed (hlocal.idle hidle) (hheld.idle hidle) hthree with
    ⟨hello, ms, dh, hkeyed⟩
  have hclean := @clean_handleConfirmOne C cfg _ c (s.received d) hello ms dh hkeyed
  have hms : s.masterSecret = some ms := hkeyed.masterSecret
  have hdh : s.role.foreignDH = some dh := hkeyed.foreignDH
  rw [hclean, hms, hdh]
  simp only [Option.some.injEq]
  exact (forall_eq_both (fun (ms : MasterSecret) dh => Confirmable C ms.macR _ _ dh) _ _).symm

theorem clean_confirmAck_received (hlocal : Local C cfg s) (hheld : Held s)
    (hstate : s.state = .expectingConfirmAck) (c : Clock) (d : Bytes) :
    Clean (handleConfirmAck C cfg c (s.received d) { s with buf := s.buf.receive d }) := by
  have hfour : 4 ≤ stage s.state := by
    rw [hstate]
    exact Nat.le_refl 4
  have hidle := ZRTPSocket.idle_receive d s
  rcases keyed (hlocal.idle hidle) (hheld.idle hidle) (Nat.le_of_succ_le hfour) with
    ⟨hello, ms, dh, hkeyed⟩
  rcases hheld.confirm hfour with ⟨confirm, hconfirm, hbug⟩
  exact clean_handleConfirmAck c (s.received d) hello ms dh hkeyed confirm hconfirm hbug

/-- One iteration of the initiator throws only what is declared exactly when
    the datagram is harmless. -/
theorem declared_step (hlocal : Local C cfg s) (hheld : Held s) (i : Input) :
    (∀ e, step C cfg s i = .error e → e.Declared) ↔ Harmless C cfg s i := by
  unfold step Harmless
  rw [ZRTPSocket.declared_negotiate]
  refine forall_congr' fun d => forall_congr' fun _ => forall_congr' fun hover =>
    and_congr_right fun hmin => ?_
  -- The socket a handler gets is only known by what the handlers do with it.
  have hack := @clean_helloAck_received C cfg s hheld
  have hdh := clean_dh_received hlocal hheld
  have hone := clean_confirmOne_received hlocal hheld
  have hconf := clean_confirmAck_received hlocal hheld
  have hhello : 4 ≤ d.length →
      Clean (handleHello C cfg i.clock (s.received d) { s with buf := s.buf.receive d }) := by
    intro hd
    refine clean_handleHello _ _ ?_
    change min d.length 4096 ≠ 0
    omega
  replace hack := fun hstate => hack hstate i.clock d
  replace hdh := fun hstate => hdh hstate i.clock d
  replace hone := fun hstate => hone hstate i.clock d
  replace hconf := fun hstate => hconf hstate i.clock d
  generalize ({ s with buf := s.buf.receive d } : ZRTPInitiatorSocket) = t
    at hack hdh hone hconf hhello ⊢
  rcases hlocal.states with ⟨hnoCommit, hnoDh2, hnoConfirmTwo⟩
  cases hstate : s.state with
  | expectingHello =>
      rw [hstate] at hmin
      simp only [ZRTPSocket.handler, ZRTPSocket.forall_handler, reduceCtorEq, false_or,
        false_imp_iff, and_true, implies_true, iff_true]
      exact fun _ _ => hhello (hmin (by decide))
  | expectingHelloAck =>
      simp only [ZRTPSocket.handler, ZRTPSocket.forall_handler, reduceCtorEq, false_or,
        false_imp_iff, true_imp_iff, and_true]
      exact forall_congr' fun _ => forall_congr' fun _ => hack hstate
  | expectingDh1 =>
      rw [hstate] at hmin
      simp only [ZRTPSocket.handler, ZRTPSocket.forall_handler, reduceCtorEq, false_or,
        false_imp_iff, true_imp_iff, and_true, true_and]
      exact forall_congr' fun _ => forall_congr' fun _ => hdh hstate (hmin (by decide))
  | expectingConfirmOne =>
      simp only [ZRTPSocket.handler, ZRTPSocket.forall_handler, reduceCtorEq, false_or,
        false_imp_iff, true_imp_iff, true_and]
      exact forall_congr' fun _ => forall_congr' fun _ => hone hstate
  | expectingConfirmAck =>
      simp only [ZRTPSocket.handler, ZRTPSocket.forall_handler, reduceCtorEq, true_or,
        false_imp_iff, true_imp_iff, and_true, implies_true, iff_true]
      exact fun _ => hconf hstate
  | expectingCommit => exact absurd hstate hnoCommit
  | expectingDh2 => exact absurd hstate hnoDh2
  | expectingConfirmTwo => exact absurd hstate hnoConfirmTwo
  | handshakeComplete => exact absurd (Or.inl hstate) hover
  | terminated => exact absurd (Or.inr hstate) hover

end ZRTPInitiatorSocket

end RedPhone
