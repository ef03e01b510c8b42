import RedPhone.Zrtp.Socket

/-!
# The Initiator

The side that waits for the peer's Hello, answers it, commits to a key before
it has seen the peer's, and ends the handshake by taking the first thing that
is not a handshake packet for the acknowledgement of its Confirm2.

Each handler has a lemma that says what must have succeeded for it to return,
and what it leaves. The rest of the development uses these and does not look
into the handlers again.

## Main definitions

* `InitiatorFields`: The fields of `ZRTPInitiatorSocket`.
* `getKeyAgreementType`: Which key agreement the peer's Hello leads to.
* `handleHello`, `handleHelloAck`, `handleDH`, `handleConfirmOne`,
  `handleConfirmAck`: The handlers.
* `handlers`: The initiator as a negotiating socket.

## Theorems

* `handleHello_ok`, `handleHelloAck_ok`, `handleDH_ok`, `handleConfirmOne_ok`,
  `handleConfirmAck_ok`: What each handler does when it returns.
-/

namespace RedPhone

open HandshakePacket RetainedSecretsCalculator

/-- The hash chain a party draws when its socket is constructed. -/
def Config.hashChain (C : Crypto) (cfg : Config) : HashChain := HashChain.create C cfg.h0

/-- `isLegacyConfirmConnection`, from the Hello of the peer. -/
def isLegacyConfirmConnection (foreignHello : HandshakePacket) : Java Bool := do
  let clientId ← HelloPacket.getClientId foreignHello
  .ok (RedPhoneClientId.create clientId).isLegacyConfirmConnectionVersion

structure InitiatorFields where
  foreignHello : Option HandshakePacket
  localHello : Option HandshakePacket
  commitPacket : Option HandshakePacket
  foreignDH : Option DHPacket
  localDH : Option DHPacket
  confirmPacket : Option ConfirmPacket
  /-- The secrets the calculator was constructed with. -/
  retainedSecrets : Option RetainedSecrets
  includeLegacyHeaderBug : Bool

abbrev ZRTPInitiatorSocket := ZRTPSocket InitiatorFields

namespace ZRTPInitiatorSocket

/-- The constructor. -/
def create (database : RetainedSecretsDatabase) : ZRTPInitiatorSocket :=
  ZRTPSocket.create database ⟨none, none, none, none, none, none, none, false⟩

def getKeyAgreementType (s : ZRTPInitiatorSocket) : Java AgreementType :=
  match s.role.foreignHello with
  | none => Java.raise .assertionError
  | some foreignHello => do
    let clientId ← HelloPacket.getClientId foreignHello
    if (RedPhoneClientId.create clientId).isImplicitDh3kVersion then .ok .ec25
    else do
      -- Any other client gets what its Hello offers.
      let options ← HelloPacket.getKeyAgreementOptions foreignHello
      .ok (if options.contains (ascii "EC25") then .ec25 else .dh3k)

variable (C : Crypto) (cfg : Config)

def handleHello (c : Clock) (packet : HandshakePacket) (s : ZRTPInitiatorSocket) :
    Java ZRTPInitiatorSocket := do
  let foreignHello ← packet.copyOf
  let legacy := foreignHello.isLegacyHeaderBugPresent
  let localHello := HelloPacket.create C (cfg.hashChain C) cfg.localZid cfg.version legacy
  .ok ({ s with
    state := .expectingHelloAck
    role := { s.role with
      foreignHello := some foreignHello
      includeLegacyHeaderBug := legacy
      localHello := some localHello } }.sendFreshPacket c.transmit localHello)

def handleHelloAck (c : Clock) (_packet : HandshakePacket) (s : ZRTPInitiatorSocket) :
    Java ZRTPInitiatorSocket := do
  let legacy := s.role.includeLegacyHeaderBug
  let foreignHello ← Java.orNull s.role.foreignHello
  let zid ← HelloPacket.getZID foreignHello
  -- The secrets are those stored at the ZID of the Hello, which nothing has
  -- verified yet.
  let retainedSecrets ← s.database.getRetainedSecrets cfg.platform cfg.remoteNumber zid c.retrieve
  let derivatives ← calculateDerivatives C .initiator retainedSecrets
  let agreementType ← s.getKeyAgreementType
  let localDH := DHPacket.create C DHPacket.TYPE_TWO agreementType (cfg.hashChain C)
    (cfg.keys.getPublicKey C agreementType) derivatives cfg.random legacy
  -- The Commit is bound to the Hello it answers and to the DHPart2 that is still
  -- to be sent.
  let helloBytes ← foreignHello.getMessageBytes
  let commitPacket ← CommitPacket.create C (cfg.hashChain C) helloBytes localDH cfg.localZid legacy
  .ok ({ s with
    state := .expectingDh1
    role := { s.role with
      retainedSecrets := some retainedSecrets
      localDH := some localDH
      commitPacket := some commitPacket } }.sendFreshPacket c.transmit commitPacket)

def handleDH (c : Clock) (packet : HandshakePacket) (s : ZRTPInitiatorSocket) :
    Java ZRTPInitiatorSocket := do
  Java.throwIf s.role.localDH.isNone (.unchecked .assertionError)
  let agreementType ← s.getKeyAgreementType
  let foreignDH ← DHPacket.copyOf packet agreementType
  let h1 ← foreignDH.getHash
  let h2 := C.sha256 h1
  let foreignHello ← Java.orNull s.role.foreignHello
  -- The hash image of the DHPart1 leads back to the key of the code in the
  -- Hello.
  HelloPacket.verifyMac C h2 foreignHello
  let pvr ← foreignDH.getPvr
  let dhResult ← SecretCalculator.calculateKeyAgreement C cfg.keys agreementType pvr
  let commitPacket ← Java.orNull s.role.commitPacket
  let localDH ← Java.orNull s.role.localDH
  let totalHash ← SecretCalculator.calculateTotalHash C foreignHello commitPacket foreignDH localDH
  -- The ids of the peer say which retained secret goes into the shared one.
  let rs1 ← foreignDH.getDerivativeSecretOne
  let rs2 ← foreignDH.getDerivativeSecretTwo
  let retainedSecrets ← Java.orNull s.role.retainedSecrets
  let s1 ← getS1 C .initiator retainedSecrets (some rs1) (some rs2)
  let localHello ← Java.orNull s.role.localHello
  let zidi ← HelloPacket.getZID localHello
  let zidr ← HelloPacket.getZID foreignHello
  let sharedSecret := SecretCalculator.calculateSharedSecret C dhResult totalHash s1 zidi zidr
  .ok ({ s with
    state := .expectingConfirmOne
    masterSecret := some (MasterSecret.create C sharedSecret totalHash zidi zidr)
    role := { s.role with foreignDH := some foreignDH } }.sendFreshPacket c.transmit localDH.packet)

/-- The stored packet stays in the buffer, which is decrypted in place. -/
def handleConfirmOne (c : Clock) (packet : HandshakePacket) (s : ZRTPInitiatorSocket) :
    Java ZRTPInitiatorSocket := do
  let foreignHello ← Java.orNull s.role.foreignHello
  let legacyConfirm ← isLegacyConfirmConnection foreignHello
  let confirmPacket := ConfirmPacket.ofPacket packet
  let masterSecret ← Java.orNull s.masterSecret
  -- What is behind the code is read only if it is genuine.
  confirmPacket.verifyMac C masterSecret.macR s.buf
  let buf ← confirmPacket.decrypt C masterSecret.zrtpKeyR s.buf
  let preimage ← confirmPacket.getPreimage buf
  let foreignDH ← Java.orNull s.role.foreignDH
  -- And the preimage inside it says whose DHPart1 has been answered.
  foreignDH.verifyMac C preimage
  let confirmTwo := ConfirmPacket.create C ConfirmPacket.TYPE_TWO masterSecret.macI
    masterSecret.zrtpKeyI (cfg.hashChain C) (ConfirmPacket.iv legacyConfirm cfg.confirmIv)
    s.role.includeLegacyHeaderBug
  .ok ({ s with
    state := .expectingConfirmAck
    buf := buf
    role := { s.role with
      confirmPacket := some confirmPacket } }.sendFreshPacket c.transmit confirmTwo)

/-- The cache interval is read from the buffer as it is now. -/
def handleConfirmAck (c : Clock) (_packet : HandshakePacket) (s : ZRTPInitiatorSocket) :
    Java ZRTPInitiatorSocket := do
  let retainedSecrets ← Java.orNull s.role.retainedSecrets
  let foreignDH ← Java.orNull s.role.foreignDH
  let rs1ID ← foreignDH.getDerivativeSecretOne
  let rs2ID ← foreignDH.getDerivativeSecretTwo
  let continuity ← hasContinuity C .initiator retainedSecrets (some rs1ID) (some rs2ID)
  let foreignHello ← Java.orNull s.role.foreignHello
  let foreignZid ← HelloPacket.getZID foreignHello
  let masterSecret ← Java.orNull s.masterSecret
  let confirmPacket ← Java.orNull s.role.confirmPacket
  let cacheTime ← confirmPacket.getCacheTime s.buf
  .ok { s with
    state := .handshakeComplete
    database := s.database.completeHandshake cfg.platform cfg.remoteNumber foreignZid
      masterSecret.rs1 cacheTime continuity c.expiration c.store }

/-- The initiator as a negotiating socket. -/
def handlers : Handlers InitiatorFields where
  handleHello := handleHello C cfg
  handleHelloAck := handleHelloAck C cfg
  handleCommit := fun _ _ _ => Java.raise .assertionError
  handleDH := handleDH C cfg
  handleConfirmOne := handleConfirmOne C cfg
  handleConfirmTwo := fun _ _ _ =>
    .error (.invalidPacket "Initiator received a Confirm2 packet?")
  handleConfirmAck := handleConfirmAck C cfg

/-- One iteration of the initiator. -/
def step (s : ZRTPInitiatorSocket) (i : Input) : Java ZRTPInitiatorSocket :=
  s.negotiate (handlers C cfg) i

/-! ## What the handlers do -/

variable {C : Crypto} {cfg : Config} {c : Clock} {packet : HandshakePacket}
  {s s' : ZRTPInitiatorSocket}

theorem handleHello_ok (h : handleHello C cfg c packet s = .ok s') :
    ∃ foreignHello, packet.copyOf = .ok foreignHello ∧
      s' = { s with
        state := .expectingHelloAck
        role := { s.role with
          foreignHello := some foreignHello
          includeLegacyHeaderBug := foreignHello.isLegacyHeaderBugPresent
          localHello := some (HelloPacket.create C (cfg.hashChain C) cfg.localZid cfg.version
            foreignHello.isLegacyHeaderBugPresent) } }.sendFreshPacket c.transmit
        (HelloPacket.create C (cfg.hashChain C) cfg.localZid cfg.version
          foreignHello.isLegacyHeaderBugPresent) := by
  simp only [handleHello, Java.bind_ok, Except.ok.injEq] at h
  rcases h with ⟨foreignHello, hcopy, rfl⟩
  exact ⟨foreignHello, hcopy, rfl⟩

theorem handleHelloAck_ok (p : HandshakePacket) (h : handleHelloAck C cfg c p s = .ok s') :
    ∃ foreignHello zid secrets derivatives t localDH helloBytes commit,
      s.role.foreignHello = some foreignHello ∧ HelloPacket.getZID foreignHello = .ok zid ∧
      s.database.getRetainedSecrets cfg.platform cfg.remoteNumber zid c.retrieve = .ok secrets ∧
      calculateDerivatives C .initiator secrets = .ok derivatives ∧
      s.getKeyAgreementType = .ok t ∧
      localDH = DHPacket.create C DHPacket.TYPE_TWO t (cfg.hashChain C)
        (cfg.keys.getPublicKey C t) derivatives cfg.random s.role.includeLegacyHeaderBug ∧
      foreignHello.getMessageBytes = .ok helloBytes ∧
      CommitPacket.create C (cfg.hashChain C) helloBytes localDH cfg.localZid
        s.role.includeLegacyHeaderBug = .ok commit ∧
      s' = { s with
        state := .expectingDh1
        role := { s.role with
          retainedSecrets := some secrets
          localDH := some localDH
          commitPacket := some commit } }.sendFreshPacket c.transmit commit := by
  simp only [handleHelloAck, Java.bind_ok, Java.orNull_ok, Except.ok.injEq] at h
  rcases h with ⟨foreignHello, hhello, zid, hzid, secrets, hsecrets, derivatives, hder, t, ht,
    helloBytes, hbytes, commit, hcommit, rfl⟩
  exact ⟨foreignHello, zid, secrets, derivatives, t, _, helloBytes, commit, hhello, hzid, hsecrets,
    hder, ht, rfl, hbytes, hcommit, rfl⟩

/-- What the socket is after the handler, whatever led there. -/
theorem handleHelloAck_next (p : HandshakePacket) (h : handleHelloAck C cfg c p s = .ok s') :
    ∃ secrets localDH commit, s' = { s with
      state := .expectingDh1
      role := { s.role with
        retainedSecrets := some secrets
        localDH := some localDH
        commitPacket := some commit } }.sendFreshPacket c.transmit commit := by
  rcases handleHelloAck_ok p h with
    ⟨_, _, secrets, _, _, localDH, _, commit, _, _, _, _, _, _, _, _, hs'⟩
  exact ⟨secrets, localDH, commit, hs'⟩

/-- What an accepted DHPart1 passed, and what was derived from it. -/
structure AcceptedDH (C : Crypto) (cfg : Config) (packet : HandshakePacket)
    (s : ZRTPInitiatorSocket) (foreignDH : DHPacket) (masterSecret : MasterSecret) : Prop where
  copy : ∃ t, s.getKeyAgreementType = .ok t ∧ DHPacket.copyOf packet t = .ok foreignDH
  verified : ∃ foreignHello h1, s.role.foreignHello = some foreignHello ∧
    foreignDH.getHash = .ok h1 ∧ HelloPacket.verifyMac C (C.sha256 h1) foreignHello = .ok ()
  derived : ∃ foreignHello localHello commit localDH secrets pvr dhResult totalHash rs1 rs2 s1 zidi
      zidr,
    s.role.foreignHello = some foreignHello ∧ s.role.localHello = some localHello ∧
    s.role.commitPacket = some commit ∧ s.role.localDH = some localDH ∧
    s.role.retainedSecrets = some secrets ∧ foreignDH.getPvr = .ok pvr ∧
    SecretCalculator.calculateKeyAgreement C cfg.keys foreignDH.agreementType pvr = .ok dhResult ∧
    SecretCalculator.calculateTotalHash C foreignHello commit foreignDH localDH = .ok totalHash ∧
    foreignDH.getDerivativeSecretOne = .ok rs1 ∧ foreignDH.getDerivativeSecretTwo = .ok rs2 ∧
    getS1 C .initiator secrets (some rs1) (some rs2) = .ok s1 ∧
    HelloPacket.getZID localHello = .ok zidi ∧ HelloPacket.getZID foreignHello = .ok zidr ∧
    masterSecret = MasterSecret.create C
      (SecretCalculator.calculateSharedSecret C dhResult totalHash s1 zidi zidr) totalHash zidi zidr

theorem handleDH_ok (h : handleDH C cfg c packet s = .ok s') :
    ∃ foreignDH localDH masterSecret, AcceptedDH C cfg packet s foreignDH masterSecret ∧
      s.role.localDH = some localDH ∧
      s' = { s with
        state := .expectingConfirmOne
        masterSecret := some masterSecret
        role := { s.role with
          foreignDH := some foreignDH } }.sendFreshPacket c.transmit localDH.packet := by
  simp only [handleDH, Java.bind_ok, Java.orNull_ok, Java.throwIf_ok, Except.ok.injEq] at h
  rcases h with ⟨_, _, t, ht, foreignDH, hcopy, h1, hh1, foreignHello, hhello, _, hmac, pvr, hpvr,
    dhResult, hdh, commit, hcommit, localDH, hlocal, totalHash, htotal, rs1, hrs1, rs2, hrs2,
    secrets, hsecrets, s1, hs1, localHello, hlocalHello, zidi, hzidi, zidr, hzidr, rfl⟩
  -- The type the packet was read with is the one it keeps.
  have htype : foreignDH.agreementType = t := DHPacket.agreementType_copyOf hcopy
  refine ⟨foreignDH, localDH, _, ⟨⟨t, ht, hcopy⟩, ⟨foreignHello, h1, hhello, hh1, hmac⟩, ?_⟩,
    hlocal, rfl⟩
  exact ⟨foreignHello, localHello, commit, localDH, secrets, pvr, dhResult, totalHash, rs1, rs2, s1,
    zidi, zidr, hhello, hlocalHello, hcommit, hlocal, hsecrets, hpvr, htype ▸ hdh, htotal, hrs1,
    hrs2, hs1, hzidi, hzidr, rfl⟩

theorem handleConfirmOne_ok (h : handleConfirmOne C cfg c packet s = .ok s') :
    ∃ foreignHello legacyConfirm masterSecret buf preimage foreignDH,
      s.role.foreignHello = some foreignHello ∧
      isLegacyConfirmConnection foreignHello = .ok legacyConfirm ∧
      s.masterSecret = some masterSecret ∧
      (ConfirmPacket.ofPacket packet).verifyMac C masterSecret.macR s.buf = .ok () ∧
      (ConfirmPacket.ofPacket packet).decrypt C masterSecret.zrtpKeyR s.buf = .ok buf ∧
      (ConfirmPacket.ofPacket packet).getPreimage buf = .ok preimage ∧
      s.role.foreignDH = some foreignDH ∧ foreignDH.verifyMac C preimage = .ok () ∧
      s' = { s with
        state := .expectingConfirmAck
        buf := buf
        role := { s.role with
          confirmPacket := some (ConfirmPacket.ofPacket packet) } }.sendFreshPacket c.transmit
        (ConfirmPacket.create C ConfirmPacket.TYPE_TWO masterSecret.macI masterSecret.zrtpKeyI
          (cfg.hashChain C) (ConfirmPacket.iv legacyConfirm cfg.confirmIv)
          s.role.includeLegacyHeaderBug) := by
  simp only [handleConfirmOne, Java.bind_ok, Java.orNull_ok, Except.ok.injEq] at h
  rcases h with ⟨foreignHello, hhello, legacyConfirm, hlegacy, ms, hms, _, hmac, buf, hdecrypt,
    preimage, hpre, foreignDH, hdh, _, hverify, rfl⟩
  exact ⟨foreignHello, legacyConfirm, ms, buf, preimage, foreignDH, hhello, hlegacy, hms, hmac,
    hdecrypt, hpre, hdh, hverify, rfl⟩

theorem handleConfirmOne_next (h : handleConfirmOne C cfg c packet s = .ok s') :
    ∃ buf confirmTwo, s' = { s with
      state := .expectingConfirmAck
      buf := buf
      role := { s.role with
        confirmPacket := some (ConfirmPacket.ofPacket packet) } }.sendFreshPacket c.transmit
      confirmTwo := by
  rcases handleConfirmOne_ok h with ⟨_, _, _, buf, _, _, _, _, _, _, _, _, _, _, hs'⟩
  exact ⟨buf, _, hs'⟩

theorem handleConfirmAck_ok (p : HandshakePacket) (h : handleConfirmAck C cfg c p s = .ok s') :
    ∃ secrets foreignDH rs1ID rs2ID continuity foreignHello foreignZid masterSecret confirm
        cacheTime,
      s.role.retainedSecrets = some secrets ∧ s.role.foreignDH = some foreignDH ∧
      foreignDH.getDerivativeSecretOne = .ok rs1ID ∧
      foreignDH.getDerivativeSecretTwo = .ok rs2ID ∧
      hasContinuity C .initiator secrets (some rs1ID) (some rs2ID) = .ok continuity ∧
      s.role.foreignHello = some foreignHello ∧
      HelloPacket.getZID foreignHello = .ok foreignZid ∧
      s.masterSecret = some masterSecret ∧ s.role.confirmPacket = some confirm ∧
      confirm.getCacheTime s.buf = .ok cacheTime ∧
      s' = { s with
        state := .handshakeComplete
        database := s.database.completeHandshake cfg.platform cfg.remoteNumber foreignZid
          masterSecret.rs1 cacheTime continuity c.expiration c.store } := by
  simp only [handleConfirmAck, Java.bind_ok, Java.orNull_ok, Except.ok.injEq] at h
  rcases h with ⟨secrets, hsecrets, foreignDH, hdh, rs1ID, hrs1, rs2ID, hrs2, continuity, hcont,
    foreignHello, hhello, foreignZid, hzid, ms, hms, confirm, hconfirm, cacheTime, hcache, rfl⟩
  exact ⟨secrets, foreignDH, rs1ID, rs2ID, continuity, foreignHello, foreignZid, ms, confirm,
    cacheTime, hsecrets, hdh, hrs1, hrs2, hcont, hhello, hzid, hms, hconfirm, hcache, rfl⟩

theorem handleConfirmAck_next (p : HandshakePacket) (h : handleConfirmAck C cfg c p s = .ok s') :
    ∃ database, s' = { s with state := .handshakeComplete, database := database } := by
  rcases handleConfirmAck_ok p h with
    ⟨_, _, _, _, _, _, _, _, _, _, _, _, _, _, _, _, _, _, _, _, hs'⟩
  exact ⟨_, hs'⟩

end ZRTPInitiatorSocket

end RedPhone
