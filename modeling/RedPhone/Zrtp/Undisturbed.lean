import RedPhone.Java.Jce
import RedPhone.Zrtp.Pairing

/-!
# An Undisturbed Handshake

Two honest parties over a network that delivers each packet once and in order.
Every packet passes every check of the one that receives it, so both parties
complete. What has to hold beforehand is only what the parties cannot change:
both caches can be read, the key agreement accepts the peer's public value, and
no digests collide.

Each stage has a lemma: in the state of the stage before it, the packet just
sent by the peer is handled, and what the party then holds is spelled out.

## Main definitions

* `Version.agreementType`: The key agreement chosen for a peer.
* `Ready`: What has to hold beforehand.
* `At`: A party in a stage of the handshake.

## Theorems

* `getKeyAgreementType_made`: The initiator reads `Version.agreementType`.
* `confirm_accepted`: A Confirm packet under the same keys is accepted.
* `reaches_confirmTwo`: Both parties reach their last states.
* `reaches_complete`: Both parties complete.
-/

namespace RedPhone

open HandshakePacket RetainedSecretsCalculator

/-- The key agreement an initiator chooses for a peer of this version. -/
def Version.agreementType (version : Version) : AgreementType :=
  if (RedPhoneClientId.create (Text.decodeUtf8 version.clientId)).isImplicitDh3kVersion then .ec25
  else if version.keyAgreements.contains (ascii "EC25") then .ec25 else .dh3k

theorem ZRTPInitiatorSocket.getKeyAgreementType_made {C : Crypto} {chain : HashChain} {zid : Bytes}
    {version : Version} {legacy : Bool} (p q : HandshakePacket)
    (hp : HelloPacket.Made C chain zid version legacy p) (h : SameMessage p q)
    (s : ZRTPInitiatorSocket) (hs : s.role.foreignHello = some q) :
    s.getKeyAgreementType = .ok version.agreementType := by
  unfold getKeyAgreementType Version.agreementType
  rw [hs]
  simp only []
  rw [HelloPacket.getClientId_made p q hp h, Java.ok_bind]
  split_ifs with h1 h2
  · rfl
  · rw [HelloPacket.getKeyAgreementOptions_made p q hp h, Java.ok_bind, if_pos h2]
  · rw [HelloPacket.getKeyAgreementOptions_made p q hp h, Java.ok_bind, if_neg h2]

namespace Undisturbed

/-- The Hello of a party. -/
def hello (C : Crypto) (cfg : Config) (legacy : Bool) : HandshakePacket :=
  HelloPacket.create C (cfg.hashChain C) cfg.localZid cfg.version legacy

/-- The digests of a party's secrets. -/
def ids (C : Crypto) (role : Role) (secrets : RetainedSecrets) : RetainedSecretsDerivatives :=
  ⟨secrets.rs1.map (derivative C role), secrets.rs2.map (derivative C role)⟩

/-- The DHPart of a party. -/
def dhPart (C : Crypto) (cfg : Config) (role : Role) (type : Bytes) (t : AgreementType)
    (secrets : RetainedSecrets) (legacy : Bool) : DHPacket :=
  DHPacket.create C type t (cfg.hashChain C) (cfg.keys.getPublicKey C t) (ids C role secrets)
    cfg.random legacy

/-- The DHPart2 of the initiator. -/
abbrev initiatorDH (C : Crypto) (cfgI cfgR : Config) (secretsI : RetainedSecrets) (legacy : Bool) :
    DHPacket :=
  dhPart C cfgI .initiator DHPacket.TYPE_TWO cfgR.version.agreementType secretsI legacy

/-- The DHPart1 of the responder. -/
abbrev responderDH (C : Crypto) (cfgR : Config) (secretsR : RetainedSecrets) (legacy : Bool) :
    DHPacket :=
  dhPart C cfgR .responder DHPacket.TYPE_ONE cfgR.version.agreementType secretsR legacy

/-- The message of a Hello. -/
def helloBytes (C : Crypto) (cfg : Config) (legacy : Bool) : Bytes :=
  Slice.slice (12 + legacyOffset legacy) (88 + cfg.version.keyAgreements.length * 4)
    (hello C cfg legacy).data

/-- What has to hold before the handshake. -/
structure Ready (C : Crypto) (cfgI cfgR : Config) (databaseI databaseR : RetainedSecretsDatabase)
    (now : Int) (secretsI secretsR : RetainedSecrets) : Prop where
  readI : databaseI.getRetainedSecrets cfgI.platform cfgI.remoteNumber cfgR.localZid now
    = .ok secretsI
  readR : databaseR.getRetainedSecrets cfgR.platform cfgR.remoteNumber cfgI.localZid now
    = .ok secretsR
  keyableI : Keyable secretsI
  keyableR : Keyable secretsR
  commute : cfgI.keys.Commute C cfgR.keys
  accepts : ∃ result, SecretCalculator.calculateKeyAgreement C cfgI.keys cfgR.version.agreementType
    (cfgR.keys.getPublicKey C cfgR.version.agreementType) = .ok result
  noCollision : NoCollision C secretsI secretsR (fillers cfgI cfgR)

/-- A party in a stage: its fields, and the packet it has sent last. -/
structure At {ρ : Type} (s : ZRTPSocket ρ) (state : State) (sequence : Nat)
    (database : RetainedSecretsDatabase) (role : ρ) (last : HandshakePacket) : Prop where
  state_eq : s.state = state
  sequence_eq : s.sequence = sequence + 1
  database_eq : s.database = database
  role_eq : s.role = role
  sent : (last.wire sequence).data ∈ s.sent

theorem At.not_over {ρ : Type} {s : ZRTPSocket ρ} {state : State} {sequence : Nat}
    {database : RetainedSecretsDatabase} {role : ρ} {last : HandshakePacket}
    (h : At s state sequence database role last)
    (hstate : state ≠ .handshakeComplete ∧ state ≠ .terminated) : ¬ s.Over := by
  rintro (hs | hs)
  · exact hstate.1 (h.state_eq.symm.trans hs)
  · exact hstate.2 (h.state_eq.symm.trans hs)

theorem At.receive {ρ : Type} {s : ZRTPSocket ρ} {state : State} {sequence : Nat}
    {database : RetainedSecretsDatabase} {role : ρ} {last : HandshakePacket}
    (h : At s state sequence database role last) (d : Bytes) :
    At { s with buf := s.buf.receive d } state sequence database role last :=
  ⟨h.state_eq, h.sequence_eq, h.database_eq, h.role_eq, h.sent⟩

/-- Sending a packet makes it the last one sent. -/
theorem At.send {ρ : Type} {s : ZRTPSocket ρ} {state : State} {sequence : Nat}
    {database : RetainedSecretsDatabase} {role : ρ} (hstate : s.state = state)
    (hsequence : s.sequence = sequence) (hdatabase : s.database = database) (hrole : s.role = role)
    (now : Int) (p : HandshakePacket) :
    At (s.sendFreshPacket now p) state sequence database role p := by
  refine ⟨hstate, congrArg (· + 1) hsequence, hdatabase, hrole, ?_⟩
  rw [ZRTPSocket.sendFreshPacket_sent, hsequence]
  exact List.mem_append_right _ (List.mem_singleton.mpr rfl)

/-! ## The packets -/

section

variable {C : Crypto} {cfgI cfgR : Config} {databaseI databaseR : RetainedSecretsDatabase}
  {secretsI secretsR : RetainedSecrets} {legacy : Bool} {c : Clock}

/-- The initiator finds the secret both have in the ids of the responder. -/
theorem Ready.initiator_s1 {now : Int}
    (hready : Ready C cfgI cfgR databaseI databaseR now secretsI secretsR) :
    getS1 C .initiator secretsI (some (transmitted C .responder cfgR.random.rs1 secretsR.rs1))
      (some (transmitted C .responder cfgR.random.rs2 secretsR.rs2))
        = .ok (commonSecret secretsI secretsR) :=
  (initiatorGetS1_ok C secretsI secretsR (fillers cfgI cfgR) hready.noCollision _).mpr
    ⟨hready.keyableI, rfl⟩

/-- And so does the responder in those of the initiator. -/
theorem Ready.responder_s1 {now : Int}
    (hready : Ready C cfgI cfgR databaseI databaseR now secretsI secretsR) :
    getS1 C .responder secretsR (some (transmitted C .initiator cfgI.random.rs1 secretsI.rs1))
      (some (transmitted C .initiator cfgI.random.rs2 secretsI.rs2))
        = .ok (commonSecret secretsI secretsR) :=
  (responderGetS1_ok C secretsI secretsR (fillers cfgI cfgR) hready.noCollision _).mpr
    ⟨hready.keyableR, rfl⟩

theorem hello_header (C : Crypto) (cfg : Config) (legacy : Bool) :
    HasHeader HelloPacket.TYPE (88 + cfg.version.keyAgreements.length * 4) legacy
      (hello C cfg legacy) :=
  (cfg.hello_made C legacy).header

theorem hello_sendable (C : Crypto) (cfg : Config) (legacy : Bool) :
    Sendable (hello C cfg legacy) := by
  have hcount := cfg.version.keyAgreements_count
  exact sendable_of_header (hello_header C cfg legacy) (by omega) (by omega)

theorem hello_message (cfg : Config) (q : HandshakePacket)
    (h : SameMessage (hello C cfg legacy) q) :
    q.getMessageBytes = .ok (helloBytes C cfg legacy) := by
  have hcount := cfg.version.keyAgreements_count
  have hheader := hello_header C cfg legacy
  rw [getMessageBytes_copy _ q hheader (by omega) (by omega) h]
  exact hheader.getMessageBytes_eq (by omega) (by omega)

theorem ids_eq (C : Crypto) (role : Role) (secrets : RetainedSecrets) (h : Keyable secrets) :
    calculateDerivatives C role secrets = .ok (ids C role secrets) :=
  (calculateDerivatives_ok C role secrets _).mpr ⟨h, rfl⟩

theorem dhPart_made (C : Crypto) (cfg : Config) (role : Role) (type : Bytes)
    (htype : type.length = 8) (t : AgreementType) (secrets : RetainedSecrets) (h : Keyable secrets)
    (legacy : Bool) :
    DHPacket.Made C type t (cfg.hashChain C) (cfg.keys.getPublicKey C t) (ids C role secrets)
      cfg.random legacy (dhPart C cfg role type t secrets legacy) :=
  cfg.dh_made C role type htype t secrets _ (ids_eq C role secrets h) legacy

theorem dhPart_sendable (C : Crypto) (cfg : Config) (role : Role) (type : Bytes)
    (htype : type.length = 8) (t : AgreementType) (secrets : RetainedSecrets) (h : Keyable secrets)
    (legacy : Bool) : Sendable (dhPart C cfg role type t secrets legacy).packet := by
  have hlen := t.dhLength_eq
  have hpvr := t.pvrLength_le
  exact sendable_of_header (dhPart_made C cfg role type htype t secrets h legacy).header (by omega)
    (by omega)

/-- The message of a DHPart. -/
theorem dhPart_message (C : Crypto) (cfg : Config) (role : Role) (type : Bytes)
    (htype : type.length = 8) (t : AgreementType) (secrets : RetainedSecrets) (h : Keyable secrets)
    (legacy : Bool) (q : HandshakePacket)
    (hsame : SameMessage (dhPart C cfg role type t secrets legacy).packet q) :
    q.getMessageBytes = .ok (Slice.slice (12 + legacyOffset legacy) t.dhLength
      (dhPart C cfg role type t secrets legacy).packet.data) := by
  have hlen := t.dhLength_eq
  have hpvr := t.pvrLength_le
  have hheader := (dhPart_made C cfg role type htype t secrets h legacy).header
  rw [getMessageBytes_copy _ q hheader (by omega) (by omega) hsame]
  exact hheader.getMessageBytes_eq (by omega) (by omega)

/-- A party reads the release of its peer. -/
theorem legacyConfirm_ok (cfg : Config) (q : HandshakePacket)
    (h : SameMessage (hello C cfg legacy) q) :
    ∃ legacyConfirm, isLegacyConfirmConnection q = .ok legacyConfirm := by
  unfold isLegacyConfirmConnection
  rw [HelloPacket.getClientId_made _ _ (cfg.hello_made C legacy) h, Java.ok_bind]
  exact ⟨_, rfl⟩

/-! ## The stages -/

/-- The initiator answers the responder's Hello. -/
theorem initiator_handleHello (s : ZRTPInitiatorSocket) (hsequence : s.sequence = 0)
    (hrole : s.role = ⟨none, none, none, none, none, none, none, false⟩) (packet : HandshakePacket)
    (hcopy : packet.copyOf = .ok ((hello C cfgR legacy).wire 0)) :
    ∃ s', ZRTPInitiatorSocket.handleHello C cfgI c packet s = .ok s' ∧
      At s' .expectingHelloAck 0 s.database ⟨some ((hello C cfgR legacy).wire 0),
        some (hello C cfgI legacy), none, none, none, none, none, legacy⟩
        (hello C cfgI legacy) := by
  have hlegacy : ((hello C cfgR legacy).wire 0).isLegacyHeaderBugPresent = legacy := by
    have hsame := wire_sameMessage 0 _ (hello_sendable C cfgR legacy).1
    unfold isLegacyHeaderBugPresent
    rw [SameMessage.head_eq _ _ hsame]
    exact (hello_header C cfgR legacy).isLegacyHeaderBugPresent_eq
  simp only [ZRTPInitiatorSocket.handleHello, hcopy, Java.ok_bind, hlegacy, hrole]
  refine ⟨_, rfl, ?_⟩
  exact .send (by rfl) (by exact hsequence) (by rfl) (by rfl) _ _

/-- The responder answers the initiator's Hello. -/
theorem responder_handleHello (s : ZRTPResponderSocket) (h : At s .expectingHello 0 databaseR
      ⟨hello C cfgR legacy, none, none, none, none, none, legacy⟩ (hello C cfgR legacy))
    (packet : HandshakePacket) (hcopy : packet.copyOf = .ok ((hello C cfgI legacy).wire 0)) :
    ∃ s', ZRTPResponderSocket.handleHello c packet s = .ok s' ∧
      At s' .expectingCommit 1 databaseR ⟨hello C cfgR legacy, some ((hello C cfgI legacy).wire 0),
        none, none, none, none, legacy⟩ (HandshakePacket.create HELLO_ACK_TYPE 12 legacy) := by
  simp only [ZRTPResponderSocket.handleHello, hcopy, Java.ok_bind, h.role_eq]
  refine ⟨_, rfl, ?_⟩
  exact .send (by rfl) (by exact h.sequence_eq) (by exact h.database_eq) (by rfl) _ _

/-- The initiator answers the HelloAck with its Commit. -/
theorem initiator_handleHelloAck (hready : Ready C cfgI cfgR databaseI databaseR c.retrieve secretsI
      secretsR) (s : ZRTPInitiatorSocket) (h : At s .expectingHelloAck 0 databaseI
      ⟨some ((hello C cfgR legacy).wire 0), some (hello C cfgI legacy), none, none, none, none,
        none, legacy⟩ (hello C cfgI legacy)) (packet : HandshakePacket) :
    ∃ s' commit, CommitPacket.create C (cfgI.hashChain C) (helloBytes C cfgR legacy)
        (initiatorDH C cfgI cfgR secretsI legacy)
        cfgI.localZid legacy = .ok commit ∧
      ZRTPInitiatorSocket.handleHelloAck C cfgI c packet s = .ok s' ∧
      At s' .expectingDh1 1 databaseI ⟨some ((hello C cfgR legacy).wire 0),
        some (hello C cfgI legacy), some commit, none,
        some (initiatorDH C cfgI cfgR secretsI legacy),
        none, some secretsI, legacy⟩ commit := by
  have hsame := wire_sameMessage 0 _ (hello_sendable C cfgR legacy).1
  have hzid := HelloPacket.getZID_made _ _ (cfgR.hello_made C legacy) hsame
  have hbytes := hello_message cfgR _ hsame
  have hids := ids_eq C .initiator secretsI hready.keyableI
  have hdh := dhPart_message C cfgI .initiator DHPacket.TYPE_TWO DHPacket.length_TYPE_TWO
    cfgR.version.agreementType secretsI hready.keyableI legacy _ (.refl _)
  obtain ⟨commit, hcommit⟩ : ∃ commit, CommitPacket.create C (cfgI.hashChain C)
      (helloBytes C cfgR legacy) (initiatorDH C cfgI cfgR secretsI legacy) cfgI.localZid legacy
        = .ok commit := by
    unfold CommitPacket.create
    rw [hdh, Java.ok_bind]
    exact ⟨_, rfl⟩
  have ht := ZRTPInitiatorSocket.getKeyAgreementType_made _ _ (cfgR.hello_made C legacy) hsame s
    (by rw [h.role_eq])
  have hcreate := hcommit
  unfold initiatorDH dhPart at hcreate
  simp only [ZRTPInitiatorSocket.handleHelloAck, ht, h.role_eq, h.database_eq, Java.orNull,
    Java.ok_bind, hzid, hready.readI, hids, hbytes, hcreate]
  refine ⟨_, commit, hcommit, rfl, ?_⟩
  exact .send (by rfl) (by exact h.sequence_eq) (by rfl) (by rfl) _ _

/-- The fields of the Commit. -/
theorem commit_made (hready : Ready C cfgI cfgR databaseI databaseR c.retrieve secretsI secretsR)
    (commit : HandshakePacket) (hcommit : CommitPacket.create C (cfgI.hashChain C)
      (helloBytes C cfgR legacy)
      (initiatorDH C cfgI cfgR secretsI legacy)
      cfgI.localZid legacy = .ok commit) :
    CommitPacket.Made C (cfgI.hashChain C) (helloBytes C cfgR legacy)
      (Slice.slice (12 + legacyOffset legacy) cfgR.version.agreementType.dhLength
        (initiatorDH C cfgI cfgR secretsI legacy).packet.data)
      cfgI.localZid cfgR.version.agreementType legacy commit :=
  CommitPacket.create_made _ commit (cfgI.length_h2 C) cfgI.localZid_length
    (dhPart_message C cfgI .initiator DHPacket.TYPE_TWO DHPacket.length_TYPE_TWO _ secretsI
      hready.keyableI legacy _ (.refl _)) hcommit

/-- The responder answers a Commit of the initiator with its DHPart1. -/
theorem responder_handleCommit (hready : Ready C cfgI cfgR databaseI databaseR c.retrieve secretsI
      secretsR) {dhBytes : Bytes} {t : AgreementType} (commit : HandshakePacket)
    (hmade : CommitPacket.Made C (cfgI.hashChain C) (helloBytes C cfgR legacy) dhBytes
      cfgI.localZid t legacy commit)
    (s : ZRTPResponderSocket) (h : At s .expectingCommit 1 databaseR
      ⟨hello C cfgR legacy, some ((hello C cfgI legacy).wire 0), none, none, none, none, legacy⟩
      (HandshakePacket.create HELLO_ACK_TYPE 12 legacy))
    (packet : HandshakePacket) (hcopy : packet.copyOf = .ok (commit.wire 1)) :
    ∃ s', ZRTPResponderSocket.handleCommit C cfgR c packet s = .ok s' ∧
      At s' .expectingDh2 2 databaseR ⟨hello C cfgR legacy, some ((hello C cfgI legacy).wire 0),
        some (commit.wire 1), some (dhPart C cfgR .responder DHPacket.TYPE_ONE t secretsR legacy),
        none, some secretsR, legacy⟩
        (dhPart C cfgR .responder DHPacket.TYPE_ONE t secretsR legacy).packet := by
  have hsend := sendable_of_header hmade.header (by decide) (by decide)
  have hsameC := wire_sameMessage 1 commit hsend.1
  have hsame := wire_sameMessage 0 _ (hello_sendable C cfgI legacy).1
  have hzid := HelloPacket.getZID_made _ _ (cfgI.hello_made C legacy) hsame
  have hids := ids_eq C .responder secretsR hready.keyableR
  have ht := getKeyAgreementType_copy commit _ hmade hsameC
  have hhash := CommitPacket.getHash_made commit _ hmade hsameC
  have hmac := HelloPacket.verifyMac_made _ _ (cfgI.hello_made C legacy) rfl hsame
  simp only [ZRTPResponderSocket.handleCommit, hcopy, ht, h.role_eq, h.database_eq, Java.orNull,
    Java.ok_bind, hzid, hready.readR, hids, hhash, hmac]
  refine ⟨_, rfl, ?_⟩
  exact .send (by rfl) (by exact h.sequence_eq) (by rfl) (by rfl) _ _

/-- A DHPart that shows the public value and the digests of a party. -/
structure Shows (C : Crypto) (cfg : Config) (role : Role) (secrets : RetainedSecrets)
    (d : DHPacket) : Prop where
  hash : d.getHash = .ok (cfg.hashChain C).h1
  pvr : d.getPvr = .ok (cfg.keys.getPublicKey C d.agreementType)
  rs1 : d.getDerivativeSecretOne = .ok (transmitted C role cfg.random.rs1 secrets.rs1)
  rs2 : d.getDerivativeSecretTwo = .ok (transmitted C role cfg.random.rs2 secrets.rs2)

/-- What both parties read from a DHPart of the other. -/
theorem dhPart_shows (C : Crypto) (cfg : Config) (role : Role) (type : Bytes)
    (htype : type.length = 8) (t : AgreementType) (secrets : RetainedSecrets) (h : Keyable secrets)
    (legacy : Bool) (q : HandshakePacket)
    (hsame : SameMessage (dhPart C cfg role type t secrets legacy).packet q) :
    Shows C cfg role secrets ⟨q, t⟩ ∧
      DHPacket.verifyMac C (cfg.hashChain C).h0 ⟨q, t⟩ = .ok () := by
  have hmade := dhPart_made C cfg role type htype t secrets h legacy
  generalize dhPart C cfg role type t secrets legacy = d at hmade hsame
  refine ⟨⟨DHPacket.getHash_made d ⟨q, t⟩ hmade hsame,
    DHPacket.getPvr_made d ⟨q, t⟩ hmade hsame rfl, ?_, ?_⟩,
    DHPacket.verifyMac_made d ⟨q, t⟩ hmade rfl hsame rfl⟩
  · rw [DHPacket.getDerivativeSecretOne_made d ⟨q, t⟩ hmade hsame, ← transmitted_eq]
    rfl
  · rw [DHPacket.getDerivativeSecretTwo_made d ⟨q, t⟩ hmade hsame, ← transmitted_eq]
    rfl

/-- The initiator answers the DHPart1 with its DHPart2, and has its keys. -/
theorem initiator_handleDH (hready : Ready C cfgI cfgR databaseI databaseR c.retrieve secretsI
      secretsR) (commit : HandshakePacket) (hcommit : CommitPacket.create C (cfgI.hashChain C)
      (helloBytes C cfgR legacy)
      (initiatorDH C cfgI cfgR secretsI legacy)
      cfgI.localZid legacy = .ok commit)
    (s : ZRTPInitiatorSocket) (h : At s .expectingDh1 1 databaseI
      ⟨some ((hello C cfgR legacy).wire 0), some (hello C cfgI legacy), some commit, none,
        some (initiatorDH C cfgI cfgR secretsI legacy),
        none, some secretsI, legacy⟩ commit)
    (packet : HandshakePacket)
    (hcopy : packet.copyOf = .ok ((responderDH C cfgR secretsR legacy).packet.wire 2)) :
    ∃ s' m, ZRTPInitiatorSocket.handleDH C cfgI c packet s = .ok s' ∧ s'.masterSecret = some m ∧
      At s' .expectingConfirmOne 2 databaseI ⟨some ((hello C cfgR legacy).wire 0),
        some (hello C cfgI legacy), some commit,
        some ⟨(responderDH C cfgR secretsR legacy).packet.wire 2, cfgR.version.agreementType⟩,
        some (initiatorDH C cfgI cfgR secretsI legacy),
        none, some secretsI, legacy⟩
        (initiatorDH C cfgI cfgR secretsI legacy).packet := by
  have hsameH := wire_sameMessage 0 _ (hello_sendable C cfgR legacy).1
  have hsameD := wire_sameMessage 2 _ (dhPart_sendable C cfgR .responder DHPacket.TYPE_ONE
    DHPacket.length_TYPE_ONE cfgR.version.agreementType secretsR hready.keyableR legacy).1
  have ht := ZRTPInitiatorSocket.getKeyAgreementType_made _ _ (cfgR.hello_made C legacy) hsameH s
    (by rw [h.role_eq])
  rcases dhPart_shows C cfgR .responder DHPacket.TYPE_ONE DHPacket.length_TYPE_ONE
    cfgR.version.agreementType secretsR hready.keyableR legacy _ hsameD with
    ⟨⟨hhash, hpvr, hrs1, hrs2⟩, _⟩
  have hmac := HelloPacket.verifyMac_made _ _ (cfgR.hello_made C legacy) rfl hsameH
  rw [show (cfgR.hashChain C).h2 = C.sha256 (cfgR.hashChain C).h1 from rfl] at hmac
  rcases hready.accepts with ⟨result, hresult⟩
  have hmadeC := commit_made hready commit hcommit
  obtain ⟨totalHash, htotal⟩ : ∃ totalHash, SecretCalculator.calculateTotalHash C
      ((hello C cfgR legacy).wire 0) commit
      ⟨(responderDH C cfgR secretsR legacy).packet.wire 2, cfgR.version.agreementType⟩
      (initiatorDH C cfgI cfgR secretsI legacy)
        = .ok totalHash := by
    unfold SecretCalculator.calculateTotalHash
    rw [hello_message cfgR _ hsameH, Java.ok_bind,
      hmadeC.header.getMessageBytes_eq (by decide) (by decide), Java.ok_bind,
      dhPart_message C cfgR .responder DHPacket.TYPE_ONE DHPacket.length_TYPE_ONE _ secretsR
        hready.keyableR legacy _ hsameD, Java.ok_bind,
      dhPart_message C cfgI .initiator DHPacket.TYPE_TWO DHPacket.length_TYPE_TWO _ secretsI
        hready.keyableI legacy _ (.refl _), Java.ok_bind]
    exact ⟨_, rfl⟩
  have hs1 := hready.initiator_s1
  have hzidI : HelloPacket.getZID (hello C cfgI legacy) = .ok cfgI.localZid :=
    HelloPacket.getZID_made _ _ (cfgI.hello_made C legacy) (.refl _)
  have hzidR := HelloPacket.getZID_made _ _ (cfgR.hello_made C legacy) hsameH
  have hrole := h.role_eq
  generalize (hello C cfgR legacy).wire 0 = helloR at *
  generalize hello C cfgI legacy = helloI at *
  generalize initiatorDH C cfgI cfgR secretsI legacy
    = dhI at *
  generalize (responderDH C cfgR secretsR legacy).packet.wire 2 = dhR at *
  simp only [ZRTPInitiatorSocket.handleDH, ht, hrole, Java.orNull, Java.ok_bind,
    Option.isNone_some, Java.throwIf, Bool.false_eq_true, if_false, DHPacket.copyOf, hcopy, hhash,
    hmac, hpvr, hresult, htotal, hrs1, hrs2, hs1, hzidI, hzidR]
  refine ⟨_, _, rfl, ZRTPSocket.sendFreshPacket_masterSecret _ _ _, ?_⟩
  exact .send (by rfl) (by exact h.sequence_eq) (by exact h.database_eq) (by rfl) _ _

/-- The responder answers a DHPart2 that its Commit is made for with its
    Confirm1, and has its keys. -/
theorem responder_handleDH (hready : Ready C cfgI cfgR databaseI databaseR c.retrieve secretsI
      secretsR) {dhBytes : Bytes} {t : AgreementType} (commit : HandshakePacket)
    (hmadeC : CommitPacket.Made C (cfgI.hashChain C) (helloBytes C cfgR legacy) dhBytes
      cfgI.localZid t legacy commit)
    (s : ZRTPResponderSocket) (h : At s .expectingDh2 2 databaseR
      ⟨hello C cfgR legacy, some ((hello C cfgI legacy).wire 0), some (commit.wire 1),
        some (dhPart C cfgR .responder DHPacket.TYPE_ONE t secretsR legacy), none, some secretsR,
        legacy⟩ (dhPart C cfgR .responder DHPacket.TYPE_ONE t secretsR legacy).packet)
    (q : HandshakePacket) (hshows : Shows C cfgI .initiator secretsI ⟨q, t⟩)
    (hbytes : q.getMessageBytes = .ok dhBytes) (result : Bytes)
    (hresult : SecretCalculator.calculateKeyAgreement C cfgR.keys t (cfgI.keys.getPublicKey C t)
      = .ok result)
    (packet : HandshakePacket) (hcopy : packet.copyOf = .ok q) :
    ∃ s' m legacyConfirm, ZRTPResponderSocket.handleDH C cfgR c packet s = .ok s' ∧
      s'.masterSecret = some m ∧
      At s' .expectingConfirmTwo 3 databaseR ⟨hello C cfgR legacy,
        some ((hello C cfgI legacy).wire 0), some (commit.wire 1),
        some (dhPart C cfgR .responder DHPacket.TYPE_ONE t secretsR legacy), some ⟨q, t⟩,
        some secretsR, legacy⟩
        (ConfirmPacket.create C ConfirmPacket.TYPE_ONE m.macR m.zrtpKeyR (cfgR.hashChain C)
          (ConfirmPacket.iv legacyConfirm cfgR.confirmIv) legacy) := by
  have hsendC := sendable_of_header hmadeC.header (by decide) (by decide)
  have hsameC := wire_sameMessage 1 commit hsendC.1
  have hsameH := wire_sameMessage 0 _ (hello_sendable C cfgI legacy).1
  have ht := getKeyAgreementType_copy commit _ hmadeC hsameC
  rcases hshows with ⟨hhash, hpvr, hrs1, hrs2⟩
  have hmac := CommitPacket.verifyMac_made commit _ hmadeC rfl hsameC
  have hhello := hello_message cfgR _ (.refl (hello C cfgR legacy))
  have hhvi := CommitPacket.verifyHvi_made commit _ hmadeC hsameC
  -- Of each message there is one text, the one its sender wrote.
  obtain ⟨totalHash, htotal⟩ : ∃ totalHash, SecretCalculator.calculateTotalHash C
      (hello C cfgR legacy) (commit.wire 1)
      (dhPart C cfgR .responder DHPacket.TYPE_ONE t secretsR legacy) ⟨q, t⟩ = .ok totalHash := by
    unfold SecretCalculator.calculateTotalHash
    rw [hhello, Java.ok_bind, getMessageBytes_copy commit _ hmadeC.header (by decide) (by decide)
        hsameC, hmadeC.header.getMessageBytes_eq (by decide) (by decide), Java.ok_bind,
      dhPart_message C cfgR .responder DHPacket.TYPE_ONE DHPacket.length_TYPE_ONE _ secretsR
        hready.keyableR legacy _ (.refl _), Java.ok_bind, hbytes, Java.ok_bind]
    exact ⟨_, rfl⟩
  have hs1 := hready.responder_s1
  have hzidI := HelloPacket.getZID_made _ _ (cfgI.hello_made C legacy) hsameH
  have hzidR : HelloPacket.getZID (hello C cfgR legacy) = .ok cfgR.localZid :=
    HelloPacket.getZID_made _ _ (cfgR.hello_made C legacy) (.refl _)
  rcases legacyConfirm_ok cfgI _ hsameH with ⟨legacyConfirm, hlegacy⟩
  have hrole := h.role_eq
  -- What the packets are made of does not matter any more.
  generalize (hello C cfgI legacy).wire 0 = helloI at *
  generalize hello C cfgR legacy = helloR at *
  generalize dhPart C cfgR .responder DHPacket.TYPE_ONE t secretsR legacy = dhR at *
  simp only [ZRTPResponderSocket.handleDH, ht, hrole, Java.orNull, Java.ok_bind, DHPacket.copyOf,
    hcopy, hhash, hmac, hhello, hbytes, hhvi, hpvr, hresult, htotal, hrs1, hrs2, hs1, hzidI, hzidR,
    hlegacy]
  refine ⟨_, _, legacyConfirm, rfl, ZRTPSocket.sendFreshPacket_masterSecret _ _ _, ?_⟩
  exact .send (by rfl) (by exact h.sequence_eq) (by exact h.database_eq) (by rfl) _ _

/-! ## Confirm packets -/

/-- A Confirm packet in the buffer that is accepted, and the buffer it leaves. -/
structure ConfirmAccepted (C : Crypto) (macKey cipherKey h0 : Bytes) (confirm : ConfirmPacket)
    (buf buf' : ReceiveBuffer) : Prop where
  verified : confirm.verifyMac C macKey buf = .ok ()
  decrypted : confirm.decrypt C cipherKey buf = .ok buf'
  preimage : confirm.getPreimage buf' = .ok h0
  cacheTime : confirm.getCacheTime buf' = .ok ConfirmPacket.CACHE_TIME

/-- A Confirm packet made under the same keys is accepted. -/
theorem confirm_accepted {ρ : Type} (type macKey cipherKey h0 iv : Bytes) (p : HandshakePacket)
    (hp : ConfirmPacket.Made C type macKey cipherKey h0 iv legacy p) (sequence : Nat)
    (s : ZRTPSocket ρ) :
    ∃ buf', ConfirmAccepted C macKey cipherKey h0
      (ConfirmPacket.ofPacket (s.received (p.wire sequence).data))
      (s.buf.receive (p.wire sequence).data) buf' := by
  have hsend : Sendable p := sendable_of_header hp.header (by decide) (by decide)
  have hoffset := legacyOffset_le legacy
  rcases carries_wire sequence p p (.refl p) hsend with ⟨hcarries, hsame⟩
  rcases received_carried _ p s hcarries hsend with ⟨_, hne, hbug⟩
  rw [hp.header.headerBugOffset_eq] at hbug
  have hlength : p.packetLength = 92 + legacyOffset legacy := hp.header.packetLength_eq
  have hdatagram := ofDatagram_data _ (sendable_of_sameMessage p _ hsame hsend)
  have hbytes : ∀ off len, 4 ≤ off → off + len ≤ 88 + legacyOffset legacy →
      Slice.slice off len (s.buf.receive (p.wire sequence).data).bytes
        = Slice.slice off len p.data := by
    intro off len hoff hlen
    rw [ZRTPSocket.slice_received _ s off len (by rw [hcarries.packetLength_eq]; omega)]
    exact SameMessage.slice_eq p _ hcarries off len hoff (by omega)
  have hpacket : (ConfirmPacket.ofPacket (s.received (p.wire sequence).data)).packetLength
      = 92 + legacyOffset legacy := by
    rw [← hlength, ← hsame.packetLength_eq, ← hdatagram]
    unfold ConfirmPacket.ofPacket ZRTPSocket.received ZRTPSocket.ofDatagram
    simp only [List.length_take]
    omega
  have hbugOffset : (ConfirmPacket.ofPacket (s.received (p.wire sequence).data)).bugOffset
      = legacyOffset legacy := hbug
  generalize ConfirmPacket.ofPacket (s.received (p.wire sequence).data) = confirm
    at hpacket hbugOffset ⊢
  generalize s.buf.receive (p.wire sequence).data = buf at hbytes ⊢
  rcases hp.encrypted with ⟨plain, hencrypted, hpreimage, hcache⟩
  have hplain : plain.length = 40 := by
    rw [← C.aesCfbEncrypt_length cipherKey iv plain, ← hencrypted,
      Slice.length_slice _ _ _ (by rw [hp.header.data_length, ConfirmPacket.CONFIRM_LENGTH]; omega)]
  -- Decrypting puts back what was encrypted.
  have hbuf : (buf.put (48 + legacyOffset legacy) plain).bytes
      = Slice.blit (48 + legacyOffset legacy) plain buf.bytes :=
    buf.put_bytes _ _ (by omega)
  have hself : Slice.slice (48 + legacyOffset legacy) 40
      (buf.put (48 + legacyOffset legacy) plain).bytes = plain := by
    rw [hbuf]
    exact Slice.slice_blit_self _ _ _ _ (by rw [buf.length_eq]; omega) hplain
  refine ⟨buf.put (48 + legacyOffset legacy) plain, ?_, ?_, ?_, ?_⟩
  · rw [ConfirmPacket.verifyMac_ok C macKey buf confirm (by omega), hbugOffset,
      hbytes _ _ (by omega) (by omega), hbytes _ _ (by omega) (by omega)]
    exact ⟨by omega, hp.mac.symm⟩
  · rw [ConfirmPacket.decrypt_ok C cipherKey buf _ confirm (by omega), hbugOffset,
      hbytes _ _ (by omega) (by omega), hbytes _ _ (by omega) (by omega), hencrypted, hp.vector,
      C.aesCfb_inverse]
  · rw [ConfirmPacket.getPreimage_ok _ confirm (by omega), hbugOffset]
    have h32 := congrArg (Slice.slice 0 32) hself
    rw [Slice.slice_slice _ _ _ _ _ (by omega), Nat.add_zero, hpreimage] at h32
    rw [h32]
  · rw [ConfirmPacket.getCacheTime_ok _ confirm (by omega), hbugOffset]
    have h4 := congrArg (Slice.slice 36 4) hself
    rw [Slice.slice_slice _ _ _ _ _ (by omega), hcache,
      show 48 + legacyOffset legacy + 36 = 84 + legacyOffset legacy by omega] at h4
    rw [h4, Conversions.longTo4ByteArray, Endian.ofBE_toBE]
    rfl

/-- The initiator answers the Confirm1 with its Confirm2. -/
theorem initiator_handleConfirmOne (hready : Ready C cfgI cfgR databaseI databaseR c.retrieve
      secretsI secretsR) (commit : HandshakePacket) (s : ZRTPInitiatorSocket)
    (h : At s .expectingConfirmOne 2 databaseI ⟨some ((hello C cfgR legacy).wire 0),
        some (hello C cfgI legacy), some commit,
        some ⟨(responderDH C cfgR secretsR legacy).packet.wire 2, cfgR.version.agreementType⟩,
        some (initiatorDH C cfgI cfgR secretsI legacy), none, some secretsI, legacy⟩
        (initiatorDH C cfgI cfgR secretsI legacy).packet)
    (m : MasterSecret) (hkey : s.masterSecret = some m) (packet : HandshakePacket)
    (buf' : ReceiveBuffer) (haccepted : ConfirmAccepted C m.macR m.zrtpKeyR (cfgR.hashChain C).h0
      (ConfirmPacket.ofPacket packet) s.buf buf') :
    ∃ s' legacyConfirm, ZRTPInitiatorSocket.handleConfirmOne C cfgI c packet s = .ok s' ∧
      s'.masterSecret = some m ∧ s'.buf = buf' ∧
      At s' .expectingConfirmAck 3 databaseI ⟨some ((hello C cfgR legacy).wire 0),
        some (hello C cfgI legacy), some commit,
        some ⟨(responderDH C cfgR secretsR legacy).packet.wire 2, cfgR.version.agreementType⟩,
        some (initiatorDH C cfgI cfgR secretsI legacy), some (ConfirmPacket.ofPacket packet),
        some secretsI, legacy⟩
        (ConfirmPacket.create C ConfirmPacket.TYPE_TWO m.macI m.zrtpKeyI (cfgI.hashChain C)
          (ConfirmPacket.iv legacyConfirm cfgI.confirmIv) legacy) := by
  have hsameH := wire_sameMessage 0 _ (hello_sendable C cfgR legacy).1
  have hsameD := wire_sameMessage 2 _ (dhPart_sendable C cfgR .responder DHPacket.TYPE_ONE
    DHPacket.length_TYPE_ONE cfgR.version.agreementType secretsR hready.keyableR legacy).1
  rcases dhPart_shows C cfgR .responder DHPacket.TYPE_ONE DHPacket.length_TYPE_ONE
    cfgR.version.agreementType secretsR hready.keyableR legacy _ hsameD with ⟨_, hverify⟩
  rcases legacyConfirm_ok (C := C) cfgR _ hsameH with ⟨legacyConfirm, hlegacy⟩
  have hrole := h.role_eq
  generalize (hello C cfgR legacy).wire 0 = helloR at *
  generalize hello C cfgI legacy = helloI at *
  generalize (responderDH C cfgR secretsR legacy).packet.wire 2 = dhR at *
  simp only [ZRTPInitiatorSocket.handleConfirmOne, hrole, hkey, Java.orNull, Java.ok_bind, hlegacy,
    haccepted.verified, haccepted.decrypted, haccepted.preimage, hverify]
  refine ⟨_, legacyConfirm, rfl, ?_, by rfl, ?_⟩
  · rw [ZRTPSocket.sendFreshPacket_masterSecret]
  · exact .send (by rfl) (by exact h.sequence_eq) (by exact h.database_eq) (by rfl) _ _

/-- The responder answers the Confirm2 with its Conf2Ack, and completes. -/
theorem responder_handleConfirmTwo (hready : Ready C cfgI cfgR databaseI databaseR c.retrieve
      secretsI secretsR) (commit : HandshakePacket) (s : ZRTPResponderSocket)
    (last : HandshakePacket)
    (h : At s .expectingConfirmTwo 3 databaseR ⟨hello C cfgR legacy,
        some ((hello C cfgI legacy).wire 0), some commit,
        some (responderDH C cfgR secretsR legacy),
        some ⟨(initiatorDH C cfgI cfgR secretsI legacy).packet.wire 2,
          cfgR.version.agreementType⟩, some secretsR, legacy⟩ last)
    (m : MasterSecret) (hkey : s.masterSecret = some m) (packet : HandshakePacket)
    (buf' : ReceiveBuffer) (haccepted : ConfirmAccepted C m.macI m.zrtpKeyI (cfgI.hashChain C).h0
      (ConfirmPacket.ofPacket packet) s.buf buf') :
    ∃ s', ZRTPResponderSocket.handleConfirmTwo C cfgR c packet s = .ok s' ∧
      s'.state = .handshakeComplete ∧
      ((HandshakePacket.create CONF_ACK_TYPE 12 legacy).wire 4).data ∈ s'.sent := by
  have hsameH := wire_sameMessage 0 _ (hello_sendable C cfgI legacy).1
  have hsameD := wire_sameMessage 2 _ (dhPart_sendable C cfgI .initiator DHPacket.TYPE_TWO
    DHPacket.length_TYPE_TWO cfgR.version.agreementType secretsI hready.keyableI legacy).1
  rcases dhPart_shows C cfgI .initiator DHPacket.TYPE_TWO DHPacket.length_TYPE_TWO
    cfgR.version.agreementType secretsI hready.keyableI legacy _ hsameD with
    ⟨⟨_, _, hrs1, hrs2⟩, hverify⟩
  rcases legacyConfirm_ok (C := C) cfgI _ hsameH with ⟨legacyConfirm, hlegacy⟩
  have hzid := HelloPacket.getZID_made _ _ (cfgI.hello_made C legacy) hsameH
  have hs1 := hready.responder_s1
  have hrole := h.role_eq
  generalize (hello C cfgI legacy).wire 0 = helloI at *
  generalize hello C cfgR legacy = helloR at *
  generalize (initiatorDH C cfgI cfgR secretsI legacy).packet.wire 2 = dhI at *
  simp only [ZRTPResponderSocket.handleConfirmTwo, hrole, hkey, Java.orNull, Java.ok_bind, hlegacy,
    haccepted.verified, haccepted.decrypted, haccepted.preimage, hverify,
    ZRTPSocket.sendFreshPacket_role, hrs1, hrs2, hasContinuity, hs1, hzid,
    ZRTPSocket.sendFreshPacket_buf, haccepted.cacheTime]
  refine ⟨_, rfl, by rfl, ?_⟩
  simp only [ZRTPSocket.sendFreshPacket_sent, h.sequence_eq]
  exact List.mem_append_right _ (List.mem_singleton.mpr rfl)

/-- The initiator completes with whatever it takes for the acknowledgement. -/
theorem initiator_handleConfirmAck (hready : Ready C cfgI cfgR databaseI databaseR c.retrieve
      secretsI secretsR) (commit : HandshakePacket) (confirm : ConfirmPacket)
    (hconfirm : confirm.bugOffset ≤ 12) (s : ZRTPInitiatorSocket) (last : HandshakePacket)
    (h : At s .expectingConfirmAck 3 databaseI ⟨some ((hello C cfgR legacy).wire 0),
        some (hello C cfgI legacy), some commit,
        some ⟨(responderDH C cfgR secretsR legacy).packet.wire 2, cfgR.version.agreementType⟩,
        some (initiatorDH C cfgI cfgR secretsI legacy), some confirm, some secretsI, legacy⟩ last)
    (m : MasterSecret) (hkey : s.masterSecret = some m) (packet : HandshakePacket) :
    ∃ s', ZRTPInitiatorSocket.handleConfirmAck C cfgI c packet s = .ok s' ∧
      s'.state = .handshakeComplete := by
  have hsameH := wire_sameMessage 0 _ (hello_sendable C cfgR legacy).1
  have hsameD := wire_sameMessage 2 _ (dhPart_sendable C cfgR .responder DHPacket.TYPE_ONE
    DHPacket.length_TYPE_ONE cfgR.version.agreementType secretsR hready.keyableR legacy).1
  rcases dhPart_shows C cfgR .responder DHPacket.TYPE_ONE DHPacket.length_TYPE_ONE
    cfgR.version.agreementType secretsR hready.keyableR legacy _ hsameD with
    ⟨⟨_, _, hrs1, hrs2⟩, _⟩
  have hzid := HelloPacket.getZID_made _ _ (cfgR.hello_made C legacy) hsameH
  have hs1 := hready.initiator_s1
  simp only [ZRTPInitiatorSocket.handleConfirmAck, h.role_eq, hkey, Java.orNull, Java.ok_bind, hrs1,
    hrs2, hasContinuity, hs1, hzid, ConfirmPacket.getCacheTime_ok s.buf confirm hconfirm]
  exact ⟨_, rfl, rfl⟩

/-! ## The run -/

/-- A packet the responder has sent reaches the initiator and is handled. -/
theorem initiator_step (n : Network) (p : HandshakePacket) (hp : Sendable p) (sequence : Nat)
    (hsent : (p.wire sequence).data ∈ n.responder.sent) (s : ZRTPInitiatorSocket)
    (hover : ¬ n.initiator.Over)
    (hhandled : ZRTPSocket.Handled (ZRTPInitiatorSocket.handlers C cfgI) c
      (n.initiator.received (p.wire sequence).data)
      { n.initiator with buf := n.initiator.buf.receive (p.wire sequence).data } s) :
    Network.Step C cfgI cfgR Honest n { n with initiator := s } := by
  refine .initiator n ⟨.datagram (p.wire sequence).data, c⟩ s ⟨nofun, fun d hd => ?_⟩ ?_
  · rw [← Event.datagram.inj hd]
    exact hsent
  · exact ZRTPSocket.negotiate_of_handled _ _ s _ c hover
      (Or.inr (received_wire p hp sequence n.initiator).1) hhandled

/-- A packet the initiator has sent reaches the responder and is handled. -/
theorem responder_step (n : Network) (p : HandshakePacket) (hp : Sendable p) (sequence : Nat)
    (hsent : (p.wire sequence).data ∈ n.initiator.sent) (s : ZRTPResponderSocket)
    (hover : ¬ n.responder.Over)
    (hhandled : ZRTPSocket.Handled (ZRTPResponderSocket.handlers C cfgR) c
      (n.responder.received (p.wire sequence).data)
      { n.responder with buf := n.responder.buf.receive (p.wire sequence).data } s) :
    Network.Step C cfgI cfgR Honest n { n with responder := s } := by
  refine .responder n ⟨.datagram (p.wire sequence).data, c⟩ s ⟨nofun, fun d hd => ?_⟩ ?_
  · rw [← Event.datagram.inj hd]
    exact hsent
  · exact ZRTPSocket.negotiate_of_handled _ _ s _ c hover
      (Or.inr (received_wire p hp sequence n.responder).1) hhandled

/-- Both parties have their keys, and the initiator waits for the Confirm1. -/
structure AwaitsConfirmOne (C : Crypto) (cfgI cfgR : Config)
    (databaseI databaseR : RetainedSecretsDatabase) (secretsI secretsR : RetainedSecrets)
    (legacy : Bool) (n : Network) (m : MasterSecret) (commit confirmOne : HandshakePacket) :
    Prop where
  initiator : At n.initiator .expectingConfirmOne 2 databaseI
    ⟨some ((hello C cfgR legacy).wire 0), some (hello C cfgI legacy), some commit,
      some ⟨(responderDH C cfgR secretsR legacy).packet.wire 2, cfgR.version.agreementType⟩,
      some (initiatorDH C cfgI cfgR secretsI legacy), none, some secretsI, legacy⟩
    (initiatorDH C cfgI cfgR secretsI legacy).packet
  responder : At n.responder .expectingConfirmTwo 3 databaseR ⟨hello C cfgR legacy,
    some ((hello C cfgI legacy).wire 0), some (commit.wire 1),
    some (responderDH C cfgR secretsR legacy),
    some ⟨(initiatorDH C cfgI cfgR secretsI legacy).packet.wire 2, cfgR.version.agreementType⟩,
    some secretsR, legacy⟩ confirmOne
  initiatorKey : n.initiator.masterSecret = some m
  responderKey : n.responder.masterSecret = some m
  madeOne : ∃ iv, ConfirmPacket.Made C ConfirmPacket.TYPE_ONE m.macR m.zrtpKeyR
    (cfgR.hashChain C).h0 iv legacy confirmOne

/-- Both parties wait for their last packets. -/
structure AwaitsConfirmTwo (C : Crypto) (cfgI cfgR : Config)
    (databaseI databaseR : RetainedSecretsDatabase) (secretsI secretsR : RetainedSecrets)
    (legacy : Bool) (n : Network) (m : MasterSecret) (commit confirmOne : HandshakePacket)
    (confirm : ConfirmPacket) (confirmTwo : HandshakePacket) : Prop where
  initiator : At n.initiator .expectingConfirmAck 3 databaseI
    ⟨some ((hello C cfgR legacy).wire 0), some (hello C cfgI legacy), some commit,
      some ⟨(responderDH C cfgR secretsR legacy).packet.wire 2, cfgR.version.agreementType⟩,
      some (initiatorDH C cfgI cfgR secretsI legacy), some confirm, some secretsI, legacy⟩
      confirmTwo
  responder : At n.responder .expectingConfirmTwo 3 databaseR ⟨hello C cfgR legacy,
    some ((hello C cfgI legacy).wire 0), some (commit.wire 1),
    some (responderDH C cfgR secretsR legacy),
    some ⟨(initiatorDH C cfgI cfgR secretsI legacy).packet.wire 2, cfgR.version.agreementType⟩,
    some secretsR, legacy⟩ confirmOne
  initiatorKey : n.initiator.masterSecret = some m
  responderKey : n.responder.masterSecret = some m
  madeOne : ∃ iv, ConfirmPacket.Made C ConfirmPacket.TYPE_ONE m.macR m.zrtpKeyR
    (cfgR.hashChain C).h0 iv legacy confirmOne
  madeTwo : ∃ iv, ConfirmPacket.Made C ConfirmPacket.TYPE_TWO m.macI m.zrtpKeyI
    (cfgI.hashChain C).h0 iv legacy confirmTwo
  offset : confirm.bugOffset = legacyOffset legacy
  cacheTime : confirm.getCacheTime n.initiator.buf = .ok ConfirmPacket.CACHE_TIME

/-- Six packets take the parties to their keys. -/
theorem reaches_confirmOne (hready : Ready C cfgI cfgR databaseI databaseR c.retrieve secretsI
      secretsR) (legacy : Bool) (now : Int) :
    ∃ n m commit confirmOne,
      Network.Reaches C cfgI cfgR Honest
        (Network.start C cfgR databaseI databaseR legacy now) n ∧
      AwaitsConfirmOne C cfgI cfgR databaseI databaseR secretsI secretsR legacy n m commit
        confirmOne := by
  have hR0 : At (ZRTPResponderSocket.start C cfgR databaseR legacy now) .expectingHello 0 databaseR
      ⟨hello C cfgR legacy, none, none, none, none, none, legacy⟩ (hello C cfgR legacy) :=
    .send (by rfl) (by rfl) (by rfl) (by rfl) now _
  have hreach0 : Network.Reaches C cfgI cfgR Honest
      (Network.start C cfgR databaseI databaseR legacy now)
      (Network.start C cfgR databaseI databaseR legacy now) := .refl
  -- The two Hellos and the HelloAck.
  have hsendHR := hello_sendable C cfgR legacy
  rcases received_wire _ hsendHR 0 (ZRTPInitiatorSocket.create databaseI) with ⟨_, htype1, hcopy1⟩
  rw [(hello_header C cfgR legacy).getType_eq (by omega)] at htype1
  rcases initiator_handleHello (C := C) (c := c) { ZRTPInitiatorSocket.create databaseI with
    buf := ReceiveBuffer.empty.receive _ } rfl rfl _ hcopy1 with ⟨i1, hrun1, hI1⟩
  have hreach1 := hreach0.tail (initiator_step _ _ hsendHR 0 hR0.sent i1 nofun
    (.hello rfl htype1 hrun1))
  have hsendHI := hello_sendable C cfgI legacy
  rcases received_wire _ hsendHI 0 (ZRTPResponderSocket.start C cfgR databaseR legacy now) with
    ⟨_, htype2, hcopy2⟩
  rw [(hello_header C cfgI legacy).getType_eq (by omega)] at htype2
  rcases responder_handleHello (c := c) _ (hR0.receive _) _ hcopy2 with ⟨r1, hrun2, hR1⟩
  have hreach2 := hreach1.tail (responder_step _ _ hsendHI 0 hI1.sent r1 (hR0.not_over (by decide))
    (.hello hR0.state_eq htype2 hrun2))
  have hheaderA := HandshakePacket.create_header HELLO_ACK_TYPE 12 legacy length_HELLO_ACK_TYPE
    (by decide)
  have hsendA := sendable_of_header hheaderA (by decide) (by decide)
  rcases received_wire _ hsendA 1 i1 with ⟨_, htype3, _⟩
  rw [hheaderA.getType_eq (by decide)] at htype3
  rcases initiator_handleHelloAck hready _ (hI1.receive _)
    (i1.received ((HandshakePacket.create HELLO_ACK_TYPE 12 legacy).wire 1).data) with
    ⟨i2, commit, hcommit, hrun3, hI2⟩
  have hreach3 := hreach2.tail (initiator_step _ _ hsendA 1 hR1.sent i2 (hI1.not_over (by decide))
    (.helloAck hI1.state_eq htype3 hrun3))
  -- The Commit and the two DHParts.
  have hmadeC := commit_made hready commit hcommit
  have hsendC := sendable_of_header hmadeC.header (by decide) (by decide)
  rcases received_wire _ hsendC 1 r1 with ⟨_, htype4, hcopy4⟩
  rw [hmadeC.header.getType_eq (by decide)] at htype4
  rcases responder_handleCommit hready commit hmadeC _ (hR1.receive _) _ hcopy4 with
    ⟨r2, hrun4, hR2⟩
  have hreach4 := hreach3.tail (responder_step _ _ hsendC 1 hI2.sent r2 (hR1.not_over (by decide))
    (.commit hR1.state_eq htype4 hrun4))
  have hlen := cfgR.version.agreementType.dhLength_eq
  have hsendDR := dhPart_sendable C cfgR .responder DHPacket.TYPE_ONE DHPacket.length_TYPE_ONE
    cfgR.version.agreementType secretsR hready.keyableR legacy
  have hheaderDR := (dhPart_made C cfgR .responder DHPacket.TYPE_ONE DHPacket.length_TYPE_ONE
    cfgR.version.agreementType secretsR hready.keyableR legacy).header
  rcases received_wire _ hsendDR 2 i2 with ⟨_, htype5, hcopy5⟩
  rw [hheaderDR.getType_eq (by omega)] at htype5
  rcases initiator_handleDH hready commit hcommit _ (hI2.receive _) _ hcopy5 with
    ⟨i3, m, hrun5, hkeyI, hI3⟩
  have hreach5 := hreach4.tail (initiator_step _ _ hsendDR 2 hR2.sent i3 (hI2.not_over (by decide))
    (.dhOne hI2.state_eq htype5 hrun5))
  have hsendDI := dhPart_sendable C cfgI .initiator DHPacket.TYPE_TWO DHPacket.length_TYPE_TWO
    cfgR.version.agreementType secretsI hready.keyableI legacy
  have hheaderDI := (dhPart_made C cfgI .initiator DHPacket.TYPE_TWO DHPacket.length_TYPE_TWO
    cfgR.version.agreementType secretsI hready.keyableI legacy).header
  rcases received_wire _ hsendDI 2 r2 with ⟨_, htype6, hcopy6⟩
  rw [hheaderDI.getType_eq (by omega)] at htype6
  have hsameDI := wire_sameMessage 2 _ hsendDI.1
  rcases dhPart_shows C cfgI .initiator DHPacket.TYPE_TWO DHPacket.length_TYPE_TWO
    cfgR.version.agreementType secretsI hready.keyableI legacy _ hsameDI with ⟨hshows, _⟩
  have hbytes := dhPart_message C cfgI .initiator DHPacket.TYPE_TWO DHPacket.length_TYPE_TWO _
    secretsI hready.keyableI legacy _ hsameDI
  rcases hready.accepts with ⟨result, hresult⟩
  rw [SecretCalculator.calculateKeyAgreement_comm C _ _ hready.commute] at hresult
  rcases responder_handleDH hready commit hmadeC _ (hR2.receive _) _ hshows hbytes result hresult _
    hcopy6 with ⟨r3, mR, lcR, hrun6, hkeyR, hR3⟩
  have hreach6 := hreach5.tail (responder_step _ _ hsendDI 2 hI3.sent r3 (hR2.not_over (by decide))
    (.dhTwo hR2.state_eq htype6 hrun6))
  -- Both have the same keys.
  have hpaired := paired_of_reaches databaseI databaseR legacy now hreach6
  have hsame : m = mR := by
    refine hpaired.masterSecret_eq hready.commute (fun a b ha hb => ?_) m mR hkeyI hkeyR
    simp only [hI3.role_eq, Option.some.injEq] at ha
    simp only [hR3.role_eq, Option.some.injEq] at hb
    exact ha ▸ hb ▸ hready.noCollision
  subst hsame
  exact ⟨_, m, commit, _, hreach6, hI3, hR3, hkeyI, hkeyR, _,
    ConfirmPacket.create_made C ConfirmPacket.TYPE_ONE m.macR m.zrtpKeyR
      (cfgR.hashChain C) (ConfirmPacket.iv lcR cfgR.confirmIv) legacy ConfirmPacket.length_TYPE_ONE
      cfgR.h0_length (ConfirmPacket.length_iv lcR _ cfgR.confirmIv_length)⟩

/-- The initiator accepts the Confirm1 of the same keys. -/
theorem AwaitsConfirmOne.takes_confirm (hready : Ready C cfgI cfgR databaseI databaseR c.retrieve
      secretsI secretsR) {n : Network} {m : MasterSecret} {commit confirmOne : HandshakePacket}
    (h : AwaitsConfirmOne C cfgI cfgR databaseI databaseR secretsI secretsR legacy n m commit
      confirmOne) :
    ∃ s confirm confirmTwo,
      ZRTPInitiatorSocket.step C cfgI n.initiator ⟨.datagram (confirmOne.wire 3).data, c⟩ = .ok s ∧
      Network.Step C cfgI cfgR Honest n { n with initiator := s } ∧
      AwaitsConfirmTwo C cfgI cfgR databaseI databaseR secretsI secretsR legacy
        { n with initiator := s } m commit confirmOne confirm confirmTwo := by
  rcases h.madeOne with ⟨iv, hmade1⟩
  have hsend1 := sendable_of_header hmade1.header (by decide) (by decide)
  rcases received_wire _ hsend1 3 n.initiator with ⟨hcrc, htype7, _⟩
  rw [hmade1.header.getType_eq (by decide)] at htype7
  rcases confirm_accepted _ _ _ _ _ confirmOne hmade1 3 n.initiator with ⟨buf', haccepted⟩
  rcases initiator_handleConfirmOne hready commit _ (h.initiator.receive _) m h.initiatorKey _ buf'
    haccepted with ⟨i4, lcI, hrun7, hkeyI', hbuf, hI4⟩
  have hhandled : ZRTPSocket.Handled (ZRTPInitiatorSocket.handlers C cfgI) c
      (n.initiator.received (confirmOne.wire 3).data)
      { n.initiator with buf := n.initiator.buf.receive (confirmOne.wire 3).data } i4 :=
    .confirmOne h.initiator.state_eq htype7 hrun7
  -- The answer is made with the vector for the version of the peer.
  have hmade2 := ConfirmPacket.create_made C ConfirmPacket.TYPE_TWO m.macI m.zrtpKeyI
    (cfgI.hashChain C) (ConfirmPacket.iv lcI cfgI.confirmIv) legacy ConfirmPacket.length_TYPE_TWO
    cfgI.h0_length (ConfirmPacket.length_iv lcI _ cfgI.confirmIv_length)
  refine ⟨i4, _, _,
    ZRTPSocket.negotiate_of_handled _ _ i4 _ c (h.initiator.not_over (by decide)) (Or.inr hcrc)
      hhandled,
    initiator_step n confirmOne hsend1 3 h.responder.sent i4 (h.initiator.not_over (by decide))
      hhandled, hI4, h.responder, hkeyI', h.responderKey, h.madeOne, ⟨_, hmade2⟩, ?_, ?_⟩
  · rcases carries_wire 3 confirmOne confirmOne (.refl confirmOne) hsend1 with ⟨hcarries, _⟩
    exact (received_carried _ confirmOne n.initiator hcarries hsend1).2.2.trans
      hmade1.header.headerBugOffset_eq
  · rw [hbuf]
    exact haccepted.cacheTime

/-- Seven packets take the parties to their last states. -/
theorem reaches_confirmTwo (hready : Ready C cfgI cfgR databaseI databaseR c.retrieve secretsI
      secretsR) (legacy : Bool) (now : Int) :
    ∃ n m commit confirmOne confirm confirmTwo,
      Network.Reaches C cfgI cfgR Honest
        (Network.start C cfgR databaseI databaseR legacy now) n ∧
      AwaitsConfirmTwo C cfgI cfgR databaseI databaseR secretsI secretsR legacy n m commit
        confirmOne confirm confirmTwo := by
  rcases reaches_confirmOne hready legacy now with ⟨n, m, commit, confirmOne, hreach, h⟩
  rcases h.takes_confirm hready with ⟨s, confirm, confirmTwo, _, hstep, h'⟩
  exact ⟨_, m, commit, confirmOne, confirm, confirmTwo, hreach.tail hstep, h'⟩

/-- The initiator completes with whatever it takes for the acknowledgement. -/
theorem AwaitsConfirmTwo.takes_ack (hready : Ready C cfgI cfgR databaseI databaseR c.retrieve
      secretsI secretsR) {n : Network} {m : MasterSecret} {commit one two : HandshakePacket}
    {confirm : ConfirmPacket} (h : AwaitsConfirmTwo C cfgI cfgR databaseI databaseR secretsI
      secretsR legacy n m commit one confirm two) (d : Bytes)
    (htype : (n.initiator.received d).getType = .ok CONF_ACK_TYPE) :
    ∃ s, ZRTPInitiatorSocket.step C cfgI n.initiator ⟨.datagram d, c⟩ = .ok s ∧
      s.state = .handshakeComplete := by
  have hoffset := legacyOffset_le legacy
  rcases initiator_handleConfirmAck hready commit confirm (by rw [h.offset]; exact hoffset)
    _ two (h.initiator.receive d) m h.initiatorKey (n.initiator.received d) with ⟨s, hrun, hstate⟩
  exact ⟨s, ZRTPSocket.negotiate_of_handled _ _ s d c (h.initiator.not_over (by decide))
    (Or.inl h.initiator.state_eq) (.confirmAck h.initiator.state_eq htype hrun), hstate⟩

/-- Nine packets complete the handshake. -/
theorem reaches_complete (hready : Ready C cfgI cfgR databaseI databaseR c.retrieve secretsI
      secretsR) (legacy : Bool) (now : Int) :
    ∃ n, Network.Reaches C cfgI cfgR Honest
        (Network.start C cfgR databaseI databaseR legacy now) n ∧
      n.initiator.state = .handshakeComplete ∧ n.responder.state = .handshakeComplete := by
  rcases reaches_confirmTwo hready legacy now with ⟨n, m, commit, one, confirm, two, hreach, h⟩
  rcases h.madeTwo with ⟨iv, hmade⟩
  have hsend := sendable_of_header hmade.header (by decide) (by decide)
  rcases received_wire two hsend 3 n.responder with ⟨_, htype, _⟩
  rw [hmade.header.getType_eq (by decide)] at htype
  rcases confirm_accepted _ _ _ _ _ two hmade 3 n.responder with ⟨buf', haccepted⟩
  rcases responder_handleConfirmTwo hready (commit.wire 1) _ one (h.responder.receive _) m
    h.responderKey _ buf' haccepted with ⟨r, hrun, hstate, hsent⟩
  -- The responder completes first, and its acknowledgement completes the
  -- initiator.
  have hreach' := hreach.tail (responder_step n two hsend 3 h.initiator.sent r
    (h.responder.not_over (by decide)) (.confirmTwo h.responder.state_eq htype hrun))
  have hheader := HandshakePacket.create_header CONF_ACK_TYPE 12 legacy length_CONF_ACK_TYPE
    (by decide)
  have hsendA := sendable_of_header hheader (by decide) (by decide)
  rcases received_wire _ hsendA 4 n.initiator with ⟨_, htypeA, _⟩
  rw [hheader.getType_eq (by decide)] at htypeA
  rcases h.takes_ack hready _ htypeA with ⟨s, hstep, hcomplete⟩
  refine ⟨⟨s, r⟩, hreach'.tail (.initiator _ ⟨.datagram _, c⟩ s ⟨nofun, fun d hd => ?_⟩ hstep),
    hcomplete, hstate⟩
  rw [← Event.datagram.inj hd]
  exact hsent

end

/-! ## A caller and a callee -/

/-- A party that calls another one of the same release. -/
def caller : Config where
  platform := .plain
  localZid := List.replicate 12 1
  remoteNumber := "+15550002"
  version := .current
  h0 := List.replicate 32 1
  keys := ⟨3, 2⟩
  random := ⟨List.replicate 8 1, List.replicate 8 2, List.replicate 8 3, List.replicate 8 4, rfl,
    rfl, rfl, rfl⟩
  confirmIv := List.replicate 16 1
  localZid_length := rfl
  h0_length := rfl
  confirmIv_length := rfl

/-- The party it calls. -/
def callee : Config where
  platform := .plain
  localZid := List.replicate 12 2
  remoteNumber := "+15550001"
  version := .current
  h0 := List.replicate 32 2
  keys := ⟨5, 3⟩
  random := ⟨List.replicate 8 5, List.replicate 8 6, List.replicate 8 7, List.replicate 8 8, rfl,
    rfl, rfl, rfl⟩
  confirmIv := List.replicate 16 2
  localZid_length := rfl
  h0_length := rfl
  confirmIv_length := rfl

theorem agreementType_current : Version.current.agreementType = .ec25 := by decide +kernel

theorem commute : caller.keys.Commute jce callee.keys := ⟨jce_dh_commute 3 5, by decide +kernel⟩

/-- The two have never called each other. -/
theorem ready (now : Int) :
    Ready jce caller callee .empty .empty now ⟨none, none⟩ ⟨none, none⟩ where
  readI := rfl
  readR := rfl
  keyableI := ⟨nofun, nofun⟩
  keyableR := ⟨nofun, nofun⟩
  commute := commute
  accepts := by
    have hok : (SecretCalculator.calculateKeyAgreement jce caller.keys .ec25
        (callee.keys.getPublicKey jce .ec25)).isOk = true := by decide +kernel
    rw [show callee.version.agreementType = .ec25 from agreementType_current]
    generalize SecretCalculator.calculateKeyAgreement jce caller.keys .ec25 _ = result at hok ⊢
    cases result with
    | ok result => exact ⟨result, rfl⟩
    | error e => exact nomatch hok
  noCollision := by
    have hnone : ∀ x, ¬ Involved ⟨none, none⟩ ⟨none, none⟩ x := by
      rintro x (h | h | h | h) <;> exact nomatch h
    exact ⟨fun _ x _ hx => absurd hx (hnone x), fun x hx => absurd hx (hnone x),
      fun x hx => absurd hx (hnone x)⟩

end Undisturbed

end RedPhone
