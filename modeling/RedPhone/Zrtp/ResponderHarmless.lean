import RedPhone.Zrtp.Declared
import RedPhone.Zrtp.ResponderState

/-!
# What a Responder Can Be Handed

The counterpart of `Harmless` for the responder. It reads the Hello when the
Commit comes and the Commit when the DHPart2 comes. It is protected by its
checks better than the initiator: nothing of the DHPart2 behind its hash is
read before the code of the Commit is verified with that hash, and the public
value only when it is the one committed to.

## Main definitions

* `ZRTPResponderSocket.Held`: What a responder holds, by its state.
* `Answerable`, `Takeable`: A Commit that can be answered, a DHPart2 that can
  be taken.
* `Harmless`: A datagram a responder can be handed.

## Theorems

* `clean_handleCommit`, `clean_handleDH`, `clean_handleConfirmTwo`: When the
  handlers are clean.
* `declared_step`: When an iteration throws only what is declared.
-/

namespace RedPhone

open HandshakePacket RetainedSecretsCalculator Java

namespace ZRTPResponderSocket

/-- How many packets of the peer a responder has taken. -/
def stage : State → Nat
  | .expectingCommit => 1
  | .expectingDh2 => 2
  | .expectingConfirmTwo => 3
  | _ => 0

/-- What a responder holds by then. -/
structure Held (s : ZRTPResponderSocket) : Prop where
  states : s.state ≠ .expectingHelloAck ∧ s.state ≠ .expectingConfirmOne ∧
    s.state ≠ .expectingConfirmAck
  hello : 1 ≤ stage s.state → ∃ p, s.role.foreignHello = some p
  long : 2 ≤ stage s.state → ∀ p, s.role.foreignHello = some p →
    88 + p.headerBugOffset ≤ p.data.length
  commit : 2 ≤ stage s.state → ∃ p, s.role.foreignCommit = some p ∧ Copied p ∧
    84 + p.headerBugOffset ≤ p.data.length
  dh : 2 ≤ stage s.state → ∃ d, s.role.localDH = some d
  keyed : 3 ≤ stage s.state → ∃ ms, s.masterSecret = some ms

variable {C : Crypto} {cfg : Config} {s s' : ZRTPResponderSocket}

theorem held_start (database : RetainedSecretsDatabase) (legacy : Bool) (now : Int) :
    Held (start C cfg database legacy now) :=
  ⟨⟨nofun, nofun, nofun⟩, nofun, nofun, nofun, nofun, nofun⟩

theorem Held.idle (h : Held s) (hidle : ZRTPSocket.Idle s s') : Held s' := by
  have hstage : ∀ n, 1 ≤ n → n ≤ stage s'.state → n ≤ stage s.state := by
    intro n hpos hn
    rcases hidle.state_eq with hstate | hstate
    · rw [hstate] at hn
      exact hn
    · rw [hstate] at hn
      exact absurd (hpos.trans hn) (Nat.not_succ_le_zero 0)
  refine ⟨?_, ?_, ?_, ?_, ?_, ?_⟩
  · rcases hidle.state_eq with hstate | hstate
    · rw [hstate]
      exact h.states
    · rw [hstate]
      exact ⟨nofun, nofun, nofun⟩
  · rw [hidle.role_eq]
    exact fun hn => h.hello (hstage 1 (by omega) hn)
  · rw [hidle.role_eq]
    exact fun hn => h.long (hstage 2 (by omega) hn)
  · rw [hidle.role_eq]
    exact fun hn => h.commit (hstage 2 (by omega) hn)
  · rw [hidle.role_eq]
    exact fun hn => h.dh (hstage 2 (by omega) hn)
  · rw [hidle.masterSecret_eq]
    exact fun hn => h.keyed (hstage 3 (by omega) hn)

theorem held_step (hlocal : Local C cfg s) (h : Held s) (i : Input)
    (hstep : step C cfg s i = .ok s') : Held s' := by
  rcases ZRTPSocket.negotiate_ok _ s s' i hstep with ⟨d, hevent, _, _, hhandled⟩ | ⟨hidle, _, _⟩
  · cases hhandled with
    | hello hstate htype hrun =>
        rcases handleHello_ok hrun with ⟨hello, _, rfl⟩
        exact ⟨⟨nofun, nofun, nofun⟩, fun _ => ⟨hello, rfl⟩, nofun, nofun, nofun, nofun⟩
    | helloAck hstate htype hrun => exact nomatch hrun
    | commit hstate htype hrun =>
        rcases handleCommit_ok hrun with
          ⟨commit, hello, zid, _, _, _, localDH, _, hcopy, hhello, hzid, _, _, ht, _, _, _, rfl⟩
        refine ⟨⟨nofun, nofun, nofun⟩, fun _ => ⟨hello, hhello⟩, fun _ p hp => ?_, fun _ => ?_,
          fun _ => ⟨localDH, rfl⟩, nofun⟩
        · have hsame : hello = p := Option.some.inj (hhello.symm.trans hp)
          rw [← hsame]
          exact (HelloPacket.clean_getZID hello).mp (clean_of_ok hzid)
        · refine ⟨commit, rfl, ZRTPSocket.copied_received d s commit hcopy, ?_⟩
          rcases (bind_ok _ _ _).mp ht with ⟨spec, hspec, _⟩
          exact (CommitPacket.clean_getKeyAgreementType commit).mp (clean_of_ok hspec)
    | dhOne hstate htype hrun => exact absurd hstate hlocal.states
    | dhTwo hstate htype hrun =>
        -- What the state before has stored is still there.
        have htwo : 2 ≤ stage s.state := by
          rw [show s.state = .expectingDh2 from hstate]
          exact Nat.le_refl 2
        rcases handleDH_ok hrun with ⟨foreignDH, ms, _, _, _, _, _, rfl⟩
        exact ⟨⟨nofun, nofun, nofun⟩, fun _ => h.hello (by omega), fun _ => h.long htwo,
          fun _ => h.commit htwo, fun _ => h.dh htwo, fun _ => ⟨ms, rfl⟩⟩
    | confirmOne hstate htype hrun => exact nomatch hrun
    | confirmTwo hstate htype hrun =>
        rcases handleConfirmTwo_next hrun with ⟨_, _, rfl⟩
        exact ⟨⟨nofun, nofun, nofun⟩, nofun, nofun, nofun, nofun, nofun⟩
    | confirmAck hstate htype hrun => exact nomatch hrun
  · exact h.idle hidle

/-- A Commit that can be answered with a DHPart1, from the Hello before it. -/
structure Answerable (cfg : Config) (database : RetainedSecretsDatabase) (now : Int)
    (hello commit : HandshakePacket) : Prop where
  long : 88 + hello.headerBugOffset ≤ hello.data.length
  secrets : SecretsUsable cfg.platform database cfg.remoteNumber now hello
  agreement : 84 + commit.headerBugOffset ≤ commit.data.length
  helloMac : HelloPacket.MacInside hello

/-- A DHPart2 that can be checked against the Commit before it, and taken if it
    is what was committed to. -/
structure Takeable (C : Crypto) (cfg : Config) (localHello commit : HandshakePacket)
    (d : DHPacket) : Prop where
  hash : 56 + d.packet.headerBugOffset ≤ d.packet.data.length
  commitMac : 128 + commit.headerBugOffset ≤ commit.data.length
  message : ∀ h1, d.getHash = .ok h1 → CommitPacket.verifyMac C h1 commit = .ok () →
    MessageInside d.packet
  agreeable : ∀ h1 helloBytes dhBytes, d.getHash = .ok h1 →
    CommitPacket.verifyMac C h1 commit = .ok () → localHello.getMessageBytes = .ok helloBytes →
    d.packet.getMessageBytes = .ok dhBytes →
    CommitPacket.verifyHvi C helloBytes dhBytes commit = .ok () →
    Agreeable C cfg d ∧ MessageInside commit

theorem clean_getKeyAgreementType (commit : HandshakePacket) :
    Clean (getKeyAgreementType (some commit)) ↔
      84 + commit.headerBugOffset ≤ commit.data.length := by
  unfold getKeyAgreementType
  simp only []
  rw [clean_bind, CommitPacket.clean_getKeyAgreementType]
  exact ⟨fun h => h.1, fun h => ⟨h, fun _ _ => clean_ok _⟩⟩

theorem clean_handleHello (c : Clock) (packet : HandshakePacket) (h : packet.packetLength ≠ 0) :
    Clean (handleHello c packet s) := by
  have hcopy : packet.copyOf = .ok ⟨packet.data.take packet.packetLength, packet.packetLength⟩ :=
    (copyOf_ok _ _).mpr ⟨h, rfl⟩
  unfold handleHello
  rw [clean_bind_ok hcopy]
  exact clean_ok _

/-- When answering a Commit is clean. -/
theorem clean_handleCommit (c : Clock) (packet commit hello : HandshakePacket)
    (hhello : s.role.foreignHello = some hello) (hcopy : packet.copyOf = .ok commit) :
    Clean (handleCommit C cfg c packet s) ↔ Answerable cfg s.database c.retrieve hello commit := by
  have horNull : orNull s.role.foreignHello = .ok hello := (orNull_ok _ _).mpr hhello
  unfold handleCommit
  rw [clean_bind_ok hcopy, clean_bind_ok horNull, clean_bind, HelloPacket.clean_getZID]
  constructor
  · rintro ⟨hlong, h⟩
    have hzid : HelloPacket.getZID hello
        = .ok (Slice.slice (76 + hello.headerBugOffset) 12 hello.data) :=
      region_of_le _ _ _ _ (by omega)
    -- The database is asked for the ZID that was read, and the other steps
    -- follow in turn.
    have hread := h _ hzid
    rw [clean_bind] at hread
    rcases (bare_getRetainedSecrets _ _ _ _ _).exists_ok hread.1 with ⟨secrets, hsecrets⟩
    have hrest := hread.2 secrets hsecrets
    rw [clean_bind] at hrest
    have hkeyable := keyable_of_clean C .responder secrets hrest.1
    rcases calculateDerivatives_of_keyable C .responder secrets hkeyable with ⟨ids, hids⟩
    have hchoose := hrest.2 ids hids
    rw [clean_bind, clean_getKeyAgreementType] at hchoose
    rcases hchoose with ⟨hagreement, hchoose⟩
    have hspec : CommitPacket.getKeyAgreementType commit
        = .ok (Slice.slice (80 + commit.headerBugOffset) 4 commit.data) :=
      region_of_le _ _ _ _ (by omega)
    have hhash : CommitPacket.getHash commit
        = .ok (Slice.slice (24 + commit.headerBugOffset) 32 commit.data) :=
      region_of_le _ _ _ _ (by omega)
    have hmac := hchoose _ ((bind_ok _ _ _).mpr ⟨_, hspec, rfl⟩)
    rw [clean_bind_ok hhash, clean_bind, HelloPacket.clean_verifyMac _ _ _ hlong] at hmac
    refine ⟨hlong, fun zid' hzid' => ?_, hagreement, hmac.1⟩
    rw [← Except.ok.inj (hzid.symm.trans hzid')]
    exact ⟨secrets, hsecrets, hkeyable⟩
  · rintro ⟨hlong, hsecrets, hagreement, hmac⟩
    have hhash : CommitPacket.getHash commit
        = .ok (Slice.slice (24 + commit.headerBugOffset) 32 commit.data) :=
      region_of_le _ _ _ _ (by omega)
    refine ⟨hlong, fun zid hzid => ?_⟩
    rcases hsecrets zid hzid with ⟨secrets, hread, hkeyable⟩
    rcases calculateDerivatives_of_keyable C .responder secrets hkeyable with ⟨ids, hids⟩
    rw [clean_bind_ok hread, clean_bind_ok hids, clean_bind, clean_getKeyAgreementType]
    refine ⟨hagreement, fun t _ => ?_⟩
    rw [clean_bind_ok hhash, clean_bind, HelloPacket.clean_verifyMac _ _ _ hlong]
    exact ⟨hmac, fun _ _ => clean_ok _⟩

/-- What a responder that has sent its DHPart1 holds, and can read. -/
structure Prepared (s : ZRTPResponderSocket) (commit : HandshakePacket) (t : AgreementType) :
    Prop where
  foreignHello : ∃ p, s.role.foreignHello = some p ∧ 88 + p.headerBugOffset ≤ p.data.length
  foreignCommit : s.role.foreignCommit = some commit
  copied : Copied commit
  commit_long : 84 + commit.headerBugOffset ≤ commit.data.length
  agreementType : getKeyAgreementType s.role.foreignCommit = .ok t
  localDH : ∃ d m, s.role.localDH = some d ∧ d.packet.getMessageBytes = .ok m
  secrets : ∃ secrets, s.role.retainedSecrets = some secrets ∧ Keyable secrets
  message : ∃ m, s.role.localHello.getMessageBytes = .ok m
  zid : ∃ zid, HelloPacket.getZID s.role.localHello = .ok zid

theorem prepared (hlocal : Local C cfg s) (h : Held s) (hstage : 2 ≤ stage s.state) :
    ∃ commit t, Prepared s commit t := by
  rcases h.dh hstage with ⟨d, hd⟩
  rcases h.hello (by omega) with ⟨hello, hhello⟩
  rcases h.commit hstage with ⟨commit, hcommit, hcopied, hlong⟩
  rcases hlocal.committed d hd with ⟨secrets, ids, t, hsecrets, hids, ht, hmade⟩
  have hown := cfg.hello_made C s.role.includeLegacyHeaderBug
  rw [← hlocal.hello] at hown
  have hcount := cfg.version.keyAgreements_count
  have hdhLength := t.dhLength_eq
  have hpvrLength := t.pvrLength_le
  exact ⟨commit, t,
    { foreignHello := ⟨hello, hhello, h.long hstage hello hhello⟩
      foreignCommit := hcommit
      copied := hcopied
      commit_long := hlong
      agreementType := ht
      localDH := ⟨d, _, hd, hmade.header.getMessageBytes_eq (by omega) (by omega)⟩
      secrets := ⟨secrets, hsecrets, ((calculateDerivatives_ok _ _ _ _).mp hids).1⟩
      message := ⟨_, hown.header.getMessageBytes_eq (by omega) (by omega)⟩
      zid := ⟨_, HelloPacket.getZID_made _ _ hown (.refl s.role.localHello)⟩ }⟩

/-- When what follows the checks of a DHPart2 is clean. -/
theorem clean_takeDH (commit : HandshakePacket) (d : DHPacket) (dhBytes : Bytes)
    (h : Prepared s commit d.agreementType) (hdhBytes : d.packet.getMessageBytes = .ok dhBytes)
    (f : Bytes → Bytes → Option Bytes → Bytes → Bytes → Bool → ZRTPResponderSocket) :
    Clean (do
        let pvr ← d.getPvr
        let dhResult ← SecretCalculator.calculateKeyAgreement C cfg.keys d.agreementType pvr
        let localDH ← orNull s.role.localDH
        let totalHash ← SecretCalculator.calculateTotalHash C s.role.localHello commit localDH d
        let rs1 ← d.getDerivativeSecretOne
        let rs2 ← d.getDerivativeSecretTwo
        let retainedSecrets ← orNull s.role.retainedSecrets
        let s1 ← getS1 C .responder retainedSecrets (some rs1) (some rs2)
        let foreignHello ← orNull s.role.foreignHello
        let zidi ← HelloPacket.getZID foreignHello
        let zidr ← HelloPacket.getZID s.role.localHello
        let legacyConfirm ← isLegacyConfirmConnection foreignHello
        .ok (f dhResult totalHash s1 zidi zidr legacyConfirm)) ↔
      Agreeable C cfg d ∧ MessageInside commit := by
  rcases h with ⟨⟨hello, hhello, hlong⟩, _, hcopied, _, _, ⟨localDH, lb, hdh, hlbytes⟩,
    ⟨secrets, hsecrets, hkeyable⟩, ⟨own, hown⟩, ⟨zidr, hzidr⟩⟩
  have hdhNull : orNull s.role.localDH = .ok localDH := (orNull_ok _ _).mpr hdh
  have hsecretsNull : orNull s.role.retainedSecrets = .ok secrets := (orNull_ok _ _).mpr hsecrets
  have hhelloNull : orNull s.role.foreignHello = .ok hello := (orNull_ok _ _).mpr hhello
  have hzidi : HelloPacket.getZID hello
      = .ok (Slice.slice (76 + hello.headerBugOffset) 12 hello.data) :=
    region_of_le _ _ _ _ (by omega)
  rcases exists_isLegacyConfirmConnection hello hlong with ⟨legacy, hlegacy⟩
  rw [clean_bind, DHPacket.clean_getPvr]
  constructor
  · rintro ⟨hpvrIn, hrest⟩
    have hgetPvr : d.getPvr
        = .ok (Slice.slice (88 + d.packet.headerBugOffset) d.agreementType.pvrLength
          d.packet.data) := region_of_le _ _ _ _ hpvrIn
    have hrest := hrest _ hgetPvr
    rw [clean_bind, SecretCalculator.clean_calculateKeyAgreement _ _ _ _
      (Slice.length_slice _ _ _ hpvrIn)] at hrest
    rcases hrest with ⟨⟨r, hr⟩, hrest⟩
    have hrest := hrest r hr
    rw [clean_bind_ok hdhNull, clean_bind] at hrest
    refine ⟨⟨hpvrIn, fun pvr hpvr => ?_⟩, ?_⟩
    · rw [← Except.ok.inj (hgetPvr.symm.trans hpvr)]
      exact ⟨r, hr⟩
    · -- The hash is over the own Hello, the Commit and both DHParts, of which
      -- only the Commit is not checked by now.
      have htotal := hrest.1
      unfold SecretCalculator.calculateTotalHash at htotal
      rw [clean_bind_ok hown, clean_bind, clean_getMessageBytes _ hcopied] at htotal
      exact htotal.1
  · rintro ⟨⟨hpvrIn, hagree⟩, hmessage⟩
    refine ⟨hpvrIn, fun pvr hpvr => ?_⟩
    rcases hagree pvr hpvr with ⟨r, hr⟩
    rw [clean_bind_ok hr, clean_bind_ok hdhNull, clean_bind]
    constructor
    · unfold SecretCalculator.calculateTotalHash
      rw [clean_bind_ok hown, clean_bind, clean_getMessageBytes _ hcopied]
      refine ⟨hmessage, fun _ _ => ?_⟩
      rw [clean_bind_ok hlbytes, clean_bind_ok hdhBytes]
      exact clean_ok _
    · intro totalHash _
      rcases exists_derivatives d (by omega) with ⟨rs1, rs2, hrs1, hrs2⟩
      rcases exists_getS1 C .responder secrets hkeyable (some rs1) (some rs2) with ⟨s1, hs1⟩
      rw [clean_bind_ok hrs1, clean_bind_ok hrs2, clean_bind_ok hsecretsNull, clean_bind_ok hs1,
        clean_bind_ok hhelloNull, clean_bind_ok hzidi, clean_bind_ok hzidr, clean_bind_ok hlegacy]
      exact clean_ok _

/-- When taking a DHPart2 is clean. -/
theorem clean_handleDH (c : Clock) (packet copy commit : HandshakePacket) (t : AgreementType)
    (h : Prepared s commit t) (hcopy : packet.copyOf = .ok copy) (hcopied : Copied copy) :
    Clean (handleDH C cfg c packet s) ↔ Takeable C cfg s.role.localHello commit ⟨copy, t⟩ := by
  have hread : DHPacket.copyOf packet t = .ok ⟨copy, t⟩ := (bind_ok _ _ _).mpr ⟨copy, hcopy, rfl⟩
  have hcommitNull : orNull s.role.foreignCommit = .ok commit :=
    (orNull_ok _ _).mpr h.foreignCommit
  have hverify : ∀ key, Clean (CommitPacket.verifyMac C key commit) ↔
      128 + commit.headerBugOffset ≤ commit.data.length :=
    fun key => CommitPacket.clean_verifyMac C key commit h.commit_long
  rcases h.message with ⟨helloBytes, hhelloBytes⟩
  have htake := fun dhBytes hdhBytes =>
    @clean_takeDH C cfg s commit ⟨copy, t⟩ dhBytes h hdhBytes
  unfold handleDH
  rw [clean_bind_ok h.agreementType, clean_bind_ok hread, clean_bind_ok hcommitNull, clean_bind,
    DHPacket.clean_getHash]
  constructor
  · rintro ⟨hhash, hrest⟩
    have hgetHash : (⟨copy, t⟩ : DHPacket).getHash
        = .ok (Slice.slice (24 + copy.headerBugOffset) 32 copy.data) :=
      region_of_le _ copy.data (24 + copy.headerBugOffset) 32 (by simp only [] at hhash; omega)
    have hrest := hrest _ hgetHash
    rw [clean_bind, hverify] at hrest
    rcases hrest with ⟨hcommitMac, hrest⟩
    -- Past the code of the Commit only the message of the DHPart can be outside.
    have hmessage : ∀ h1, (⟨copy, t⟩ : DHPacket).getHash = .ok h1 →
        CommitPacket.verifyMac C h1 commit = .ok () → MessageInside copy := by
      intro h1 hh1 hmac
      rw [← Except.ok.inj (hgetHash.symm.trans hh1)] at hmac
      have hrest := hrest () hmac
      rw [clean_bind_ok hhelloBytes, clean_bind, clean_getMessageBytes _ hcopied] at hrest
      exact hrest.1
    refine ⟨hhash, hcommitMac, hmessage, fun h1 helloBytes' dhBytes hh1 hmac hhello' hdh hhvi => ?_⟩
    rw [← Except.ok.inj (hgetHash.symm.trans hh1)] at hmac
    rw [← Except.ok.inj (hhelloBytes.symm.trans hhello')] at hhvi
    have hrest := hrest () hmac
    rw [clean_bind_ok hhelloBytes, clean_bind_ok hdh, clean_bind] at hrest
    exact (htake dhBytes hdh _).mp (hrest.2 () hhvi)
  · rintro ⟨hhash, hcommitMac, hmessage, hagreeable⟩
    refine ⟨hhash, fun h1 hh1 => ?_⟩
    rw [clean_bind, hverify]
    refine ⟨hcommitMac, fun _ hmac => ?_⟩
    rw [clean_bind_ok hhelloBytes, clean_bind, clean_getMessageBytes _ hcopied]
    refine ⟨hmessage h1 hh1 hmac, fun dhBytes hdh => ?_⟩
    rw [clean_bind]
    refine ⟨CommitPacket.clean_verifyHvi _ _ _ _ hcommitMac, fun _ hhvi => ?_⟩
    exact (htake dhBytes hdh _).mpr
      (hagreeable h1 helloBytes dhBytes hh1 hmac hhelloBytes hdh hhvi)

/-- What a responder that has derived its keys holds, and can read. -/
structure Keyed (s : ZRTPResponderSocket) (hello : HandshakePacket) (ms : MasterSecret)
    (d : DHPacket) : Prop where
  foreignHello : s.role.foreignHello = some hello
  hello_long : 88 + hello.headerBugOffset ≤ hello.data.length
  masterSecret : s.masterSecret = some ms
  foreignDH : s.role.foreignDH = some d
  dh_long : 88 + d.packet.headerBugOffset + d.agreementType.pvrLength ≤ d.packet.data.length
  secrets : ∃ secrets, s.role.retainedSecrets = some secrets ∧ Keyable secrets

theorem keyed (hlocal : Local C cfg s) (h : Held s) (hstage : 3 ≤ stage s.state) :
    ∃ hello ms d, Keyed s hello ms d := by
  rcases prepared hlocal h (by omega) with ⟨_, _, hprepared⟩
  rcases hprepared.foreignHello with ⟨hello, hhello, hlong⟩
  rcases h.keyed hstage with ⟨ms, hms⟩
  rcases hlocal.keyed ms hms with ⟨_, d, hd, haccepted⟩
  rcases haccepted.derived with ⟨_, _, _, _, _, _, _, _, _, _, _, _, _, _, _, _, hpvr, _⟩
  exact ⟨hello, ms, d,
    { foreignHello := hhello
      hello_long := hlong
      masterSecret := hms
      foreignDH := hd
      dh_long := (DHPacket.clean_getPvr d).mp (clean_of_ok hpvr)
      secrets := hprepared.secrets }⟩

/-- When taking a Confirm2 is clean. -/
theorem clean_handleConfirmTwo (c : Clock) (packet hello : HandshakePacket) (ms : MasterSecret)
    (d : DHPacket) (h : Keyed s hello ms d) :
    Clean (handleConfirmTwo C cfg c packet s) ↔ Confirmable C ms.macI s.buf packet d := by
  have hlong := h.dh_long
  have hhello := h.hello_long
  rcases exists_isLegacyConfirmConnection hello h.hello_long with ⟨legacy, hlegacy⟩
  rcases h.secrets with ⟨secrets, hsecrets, hkeyable⟩
  rcases exists_derivatives d (by omega) with ⟨rs1, rs2, hrs1, hrs2⟩
  rcases exists_getS1 C .responder secrets hkeyable (some rs1) (some rs2) with ⟨s1, hs1⟩
  have hzid : HelloPacket.getZID hello
      = .ok (Slice.slice (76 + hello.headerBugOffset) 12 hello.data) :=
    region_of_le _ _ _ _ (by omega)
  have hcontinuity : hasContinuity C .responder secrets (some rs1) (some rs2) = .ok s1.isSome :=
    (bind_ok _ _ _).mpr ⟨s1, hs1, rfl⟩
  have hbug : (ConfirmPacket.ofPacket packet).bugOffset ≤ 12 := headerBugOffset_le packet
  have hnull : orNull s.role.foreignDH = .ok d := (orNull_ok _ _).mpr h.foreignDH
  have hsecretsNull : orNull s.role.retainedSecrets = .ok secrets := (orNull_ok _ _).mpr hsecrets
  have hdecrypt := (ConfirmPacket.decrypt_ok C ms.zrtpKeyI s.buf _ _ hbug).mpr rfl
  unfold handleConfirmTwo
  simp only []
  rw [clean_bind_ok ((orNull_ok _ _).mpr h.foreignHello), clean_bind_ok hlegacy,
    clean_bind_ok ((orNull_ok _ _).mpr h.masterSecret), clean_bind]
  constructor
  · rintro ⟨_, hrest⟩ hmac
    have hrest := hrest () hmac
    rw [clean_bind_ok hdecrypt, clean_bind_ok (ConfirmPacket.getPreimage_ok _ _ hbug),
      clean_bind_ok hnull, clean_bind, DHPacket.clean_verifyMac _ _ _ (by omega)] at hrest
    exact hrest.1
  · intro hconfirmable
    refine ⟨ConfirmPacket.clean_verifyMac _ _ _ _ hbug, fun _ hmac => ?_⟩
    rw [clean_bind_ok hdecrypt, clean_bind_ok (ConfirmPacket.getPreimage_ok _ _ hbug),
      clean_bind_ok hnull, clean_bind, DHPacket.clean_verifyMac _ _ _ (by omega)]
    -- The Conf2Ack is sent before the rest is read, and the rest was read before.
    refine ⟨hconfirmable hmac, fun _ _ => ?_⟩
    rw [ZRTPSocket.sendFreshPacket_role, clean_bind_ok hsecretsNull, clean_bind_ok hrs1,
      clean_bind_ok hrs2, clean_bind_ok hcontinuity, clean_bind_ok hzid,
      clean_bind_ok (ConfirmPacket.getCacheTime_ok _ _ hbug)]
    exact clean_ok _

/-- A datagram a responder can be handed in a state: long enough for a
    checksum, and if that is right, no occasion to read outside the packet that
    is next to be read. -/
def Harmless (C : Crypto) (cfg : Config) (s : ZRTPResponderSocket) (i : Input) : Prop :=
  ∀ d, i.event = .datagram d → ¬ s.Over →
    4 ≤ d.length ∧
    ((s.received d).verifyCRC = .ok true →
      (s.state = .expectingCommit → (s.received d).getType = .ok CommitPacket.TYPE →
        ∀ hello, s.role.foreignHello = some hello →
          Answerable cfg s.database i.clock.retrieve hello (ZRTPSocket.ofDatagram d)) ∧
      (s.state = .expectingDh2 → (s.received d).getType = .ok DHPacket.TYPE_TWO →
        ∀ commit t, s.role.foreignCommit = some commit →
          getKeyAgreementType s.role.foreignCommit = .ok t →
          Takeable C cfg s.role.localHello commit ⟨ZRTPSocket.ofDatagram d, t⟩) ∧
      (s.state = .expectingConfirmTwo → (s.received d).getType = .ok ConfirmPacket.TYPE_TWO →
        ∀ ms dh, s.masterSecret = some ms → s.role.foreignDH = some dh →
          Confirmable C ms.macI (s.buf.receive d) (s.received d) dh))

theorem clean_commit_received (hheld : Held s) (hstate : s.state = .expectingCommit) (c : Clock)
    (d : Bytes) (hd : 4 ≤ d.length) :
    Clean (handleCommit C cfg c (s.received d) { s with buf := s.buf.receive d }) ↔
      ∀ hello, s.role.foreignHello = some hello →
        Answerable cfg s.database c.retrieve hello (ZRTPSocket.ofDatagram d) := by
  have hone : 1 ≤ stage s.state := by
    rw [hstate]
    exact Nat.le_refl 1
  rcases hheld.hello hone with ⟨hello, hhello⟩
  have hclean := @clean_handleCommit C cfg { s with buf := s.buf.receive d } c (s.received d)
    (ZRTPSocket.ofDatagram d) hello hhello (ZRTPSocket.copyOf_received_of_le d s hd)
  rw [hclean, hhello]
  simp only [Option.some.injEq, forall_eq']

theorem clean_dh_received (hlocal : Local C cfg s) (hheld : Held s)
    (hstate : s.state = .expectingDh2) (c : Clock) (d : Bytes) (hd : 4 ≤ d.length) :
    Clean (handleDH C cfg c (s.received d) { s with buf := s.buf.receive d }) ↔
      ∀ commit t, s.role.foreignCommit = some commit →
        getKeyAgreementType s.role.foreignCommit = .ok t →
        Takeable C cfg s.role.localHello commit ⟨ZRTPSocket.ofDatagram d, t⟩ := by
  have htwo : 2 ≤ stage s.state := by
    rw [hstate]
    exact Nat.le_refl 2
  have hidle := ZRTPSocket.idle_receive d s
  rcases prepared (hlocal.idle hidle).1 (hheld.idle hidle) htwo with
    ⟨commit, t, hprepared⟩
  have hcopy := ZRTPSocket.copyOf_received_of_le d s hd
  have hclean := @clean_handleDH C cfg _ c (s.received d) (ZRTPSocket.ofDatagram d) commit t
    hprepared hcopy (ZRTPSocket.copied_received d s _ hcopy)
  have hcommit : s.role.foreignCommit = some commit := hprepared.foreignCommit
  have ht : getKeyAgreementType s.role.foreignCommit = .ok t := hprepared.agreementType
  rw [hcommit] at ht ⊢
  rw [hclean, ht]
  simp only [Option.some.injEq, Except.ok.injEq]
  exact (forall_eq_both
    (fun commit t => Takeable C cfg s.role.localHello commit ⟨ZRTPSocket.ofDatagram d, t⟩) _ _).symm

theorem clean_confirmTwo_received (hlocal : Local C cfg s) (hheld : Held s)
    (hstate : s.state = .expectingConfirmTwo) (c : Clock) (d : Bytes) :
    Clean (handleConfirmTwo C cfg c (s.received d) { s with buf := s.buf.receive d }) ↔
      ∀ ms dh, s.masterSecret = some ms → s.role.foreignDH = some dh →
        Confirmable C ms.macI (s.buf.receive d) (s.received d) dh := by
  have hthree : 3 ≤ stage s.state := by
    rw [hstate]
    exact Nat.le_refl 3
  have hidle := ZRTPSocket.idle_receive d s
  rcases keyed (hlocal.idle hidle).1 (hheld.idle hidle) hthree with
    ⟨hello, ms, dh, hkeyed⟩
  have hclean := @clean_handleConfirmTwo C cfg _ c (s.received d) hello ms dh hkeyed
  have hms : s.masterSecret = some ms := hkeyed.masterSecret
  have hdh : s.role.foreignDH = some dh := hkeyed.foreignDH
  rw [hclean, hms, hdh]
  simp only [Option.some.injEq]
  exact (forall_eq_both (fun (ms : MasterSecret) dh => Confirmable C ms.macI _ _ dh) _ _).symm

/-- One iteration of the responder throws only what is declared exactly when
    the datagram is harmless. -/
theorem declared_step (hlocal : Local C cfg s) (hheld : Held s) (i : Input) :
    (∀ e, step C cfg s i = .error e → e.Declared) ↔ Harmless C cfg s i := by
  unfold step Harmless
  rw [ZRTPSocket.declared_negotiate]
  rcases hheld.states with ⟨hnoHelloAck, hnoConfirmOne, hnoConfirmAck⟩
  refine forall_congr' fun d => forall_congr' fun _ => forall_congr' fun hover => ?_
  rw [forall_prop_of_true hnoConfirmAck]
  refine and_congr_right fun hmin => ?_
  have hhello : Clean (handleHello i.clock (s.received d) { s with buf := s.buf.receive d }) := by
    refine clean_handleHello _ _ ?_
    change min d.length 4096 ≠ 0
    omega
  have hcommit := fun hstate => @clean_commit_received C cfg s hheld hstate i.clock d hmin
  have hdh := fun hstate => clean_dh_received hlocal hheld hstate i.clock d hmin
  have htwo := fun hstate => clean_confirmTwo_received hlocal hheld hstate i.clock d
  -- From here on only the state matters.
  generalize ({ s with buf := s.buf.receive d } : ZRTPResponderSocket) = t
    at hcommit hdh htwo hhello ⊢
  cases hstate : s.state with
  | expectingHello =>
      simp only [ZRTPSocket.handler, ZRTPSocket.forall_handler, reduceCtorEq, false_or,
        false_imp_iff, and_true, implies_true, iff_true]
      exact fun _ _ => hhello
  | expectingCommit =>
      simp only [ZRTPSocket.handler, ZRTPSocket.forall_handler, reduceCtorEq, false_or,
        false_imp_iff, true_imp_iff, and_true]
      exact forall_congr' fun _ => forall_congr' fun _ => hcommit hstate
  | expectingDh2 =>
      simp only [ZRTPSocket.handler, ZRTPSocket.forall_handler, reduceCtorEq, false_or,
        false_imp_iff, true_imp_iff, and_true, true_and]
      exact forall_congr' fun _ => forall_congr' fun _ => hdh hstate
  | expectingConfirmTwo =>
      simp only [ZRTPSocket.handler, ZRTPSocket.forall_handler, reduceCtorEq, false_or,
        false_imp_iff, true_imp_iff, true_and]
      exact forall_congr' fun _ => forall_congr' fun _ => htwo hstate
  | expectingDh1 => exact absurd hstate hlocal.states
  | expectingHelloAck => exact absurd hstate hnoHelloAck
  | expectingConfirmOne => exact absurd hstate hnoConfirmOne
  | expectingConfirmAck => exact absurd hstate hnoConfirmAck
  | handshakeComplete => exact absurd (Or.inl hstate) hover
  | terminated => exact absurd (Or.inr hstate) hover

end ZRTPResponderSocket

end RedPhone
