import RedPhone.Zrtp.Initiator

/-!
# The Responder

The side that sends its Hello first. It learns from the Commit what the
initiator has committed to, reveals its own public value, and then checks that
the public value it gets is the one that was committed to.

As for the initiator, every handler has a lemma about the runs in which it
returns.

## Main definitions

* `ResponderFields`: The fields of `ZRTPResponderSocket`.
* `start`: The socket once its Hello is sent.
* `getKeyAgreementType`: The key agreement the Commit names.
* `handleHello`, `handleCommit`, `handleDH`, `handleConfirmTwo`: The handlers.
* `handlers`: The responder as a negotiating socket.

## Theorems

* `handleHello_ok`, `handleCommit_ok`, `handleDH_ok`, `handleConfirmTwo_ok`:
  What each handler does when it returns.
-/

namespace RedPhone

open HandshakePacket RetainedSecretsCalculator

structure ResponderFields where
  localHello : HandshakePacket
  foreignHello : Option HandshakePacket
  foreignCommit : Option HandshakePacket
  localDH : Option DHPacket
  foreignDH : Option DHPacket
  /-- The secrets the calculator was constructed with. -/
  retainedSecrets : Option RetainedSecrets
  includeLegacyHeaderBug : Bool

abbrev ZRTPResponderSocket := ZRTPSocket ResponderFields

namespace ZRTPResponderSocket

variable (C : Crypto) (cfg : Config)

/-- The constructor. -/
def create (database : RetainedSecretsDatabase) (includeLegacyHeaderBug : Bool) :
    ZRTPResponderSocket :=
  ZRTPSocket.create database
    ⟨HelloPacket.create C (cfg.hashChain C) cfg.localZid cfg.version includeLegacyHeaderBug,
      none, none, none, none, none, includeLegacyHeaderBug⟩

/-- `negotiateStart` up to its loop. -/
def start (database : RetainedSecretsDatabase) (includeLegacyHeaderBug : Bool) (now : Int) :
    ZRTPResponderSocket :=
  let s := create C cfg database includeLegacyHeaderBug
  s.sendFreshPacket now s.role.localHello

/-- The text is only compared with one in ASCII, so its bytes are enough. -/
def getKeyAgreementType (foreignCommit : Option HandshakePacket) : Java AgreementType :=
  match foreignCommit with
  | none => Java.raise .assertionError
  | some foreignCommit => do
    let keyAgreementSpec ← CommitPacket.getKeyAgreementType foreignCommit
    .ok (if keyAgreementSpec = ascii "EC25" then .ec25 else .dh3k)

def handleHello (c : Clock) (packet : HandshakePacket) (s : ZRTPResponderSocket) :
    Java ZRTPResponderSocket := do
  let foreignHello ← packet.copyOf
  .ok ({ s with
    state := .expectingCommit
    role := { s.role with foreignHello := some foreignHello } }.sendFreshPacket c.transmit
      (HandshakePacket.create HELLO_ACK_TYPE 12 s.role.includeLegacyHeaderBug))

def handleCommit (c : Clock) (packet : HandshakePacket) (s : ZRTPResponderSocket) :
    Java ZRTPResponderSocket := do
  let foreignCommit ← packet.copyOf
  let foreignHello ← Java.orNull s.role.foreignHello
  let zid ← HelloPacket.getZID foreignHello
  let retainedSecrets ← s.database.getRetainedSecrets cfg.platform cfg.remoteNumber zid c.retrieve
  let derivatives ← calculateDerivatives C .responder retainedSecrets
  let agreementType ← getKeyAgreementType (some foreignCommit)
  let localDH := DHPacket.create C DHPacket.TYPE_ONE agreementType (cfg.hashChain C)
    (cfg.keys.getPublicKey C agreementType) derivatives cfg.random s.role.includeLegacyHeaderBug
  let h2 ← CommitPacket.getHash foreignCommit
  -- The code of the Hello is checked last, with the hash image of the Commit.
  HelloPacket.verifyMac C h2 foreignHello
  .ok ({ s with
    state := .expectingDh2
    role := { s.role with
      foreignCommit := some foreignCommit
      retainedSecrets := some retainedSecrets
      localDH := some localDH } }.sendFreshPacket c.transmit localDH.packet)

def handleDH (c : Clock) (packet : HandshakePacket) (s : ZRTPResponderSocket) :
    Java ZRTPResponderSocket := do
  let agreementType ← getKeyAgreementType s.role.foreignCommit
  let foreignDH ← DHPacket.copyOf packet agreementType
  let foreignCommit ← Java.orNull s.role.foreignCommit
  let h1 ← foreignDH.getHash
  -- The hash image of the DHPart2 leads back to the key of the code in the
  -- Commit.
  CommitPacket.verifyMac C h1 foreignCommit
  let helloBytes ← s.role.localHello.getMessageBytes
  let dhBytes ← foreignDH.packet.getMessageBytes
  -- And it has to be the packet that the Commit was bound to.
  CommitPacket.verifyHvi C helloBytes dhBytes foreignCommit
  let pvr ← foreignDH.getPvr
  let dhResult ← SecretCalculator.calculateKeyAgreement C cfg.keys agreementType pvr
  let localDH ← Java.orNull s.role.localDH
  let totalHash ← SecretCalculator.calculateTotalHash C s.role.localHello foreignCommit localDH
    foreignDH
  let rs1 ← foreignDH.getDerivativeSecretOne
  let rs2 ← foreignDH.getDerivativeSecretTwo
  let retainedSecrets ← Java.orNull s.role.retainedSecrets
  let s1 ← getS1 C .responder retainedSecrets (some rs1) (some rs2)
  let foreignHello ← Java.orNull s.role.foreignHello
  let zidi ← HelloPacket.getZID foreignHello
  let zidr ← HelloPacket.getZID s.role.localHello
  let sharedSecret := SecretCalculator.calculateSharedSecret C dhResult totalHash s1 zidi zidr
  let masterSecret := MasterSecret.create C sharedSecret totalHash zidi zidr
  -- The Confirm1 is encrypted as the client behind the Hello does.
  let legacyConfirm ← isLegacyConfirmConnection foreignHello
  .ok ({ s with
    state := .expectingConfirmTwo
    masterSecret := some masterSecret
    role := { s.role with foreignDH := some foreignDH } }.sendFreshPacket c.transmit
      (ConfirmPacket.create C ConfirmPacket.TYPE_ONE masterSecret.macR masterSecret.zrtpKeyR
        (cfg.hashChain C) (ConfirmPacket.iv legacyConfirm cfg.confirmIv)
        s.role.includeLegacyHeaderBug))

/-- The secret is stored after the acknowledgement is sent, from the packet
    just received. -/
def handleConfirmTwo (c : Clock) (packet : HandshakePacket) (s : ZRTPResponderSocket) :
    Java ZRTPResponderSocket := do
  let foreignHello ← Java.orNull s.role.foreignHello
  let _ ← isLegacyConfirmConnection foreignHello
  let confirmPacket := ConfirmPacket.ofPacket packet
  let masterSecret ← Java.orNull s.masterSecret
  -- What is behind the code is read only if it is genuine.
  confirmPacket.verifyMac C masterSecret.macI s.buf
  let buf ← confirmPacket.decrypt C masterSecret.zrtpKeyI s.buf
  let preimage ← confirmPacket.getPreimage buf
  let foreignDH ← Java.orNull s.role.foreignDH
  foreignDH.verifyMac C preimage
  let s := { s with state := .handshakeComplete, buf := buf }.sendFreshPacket c.transmit
    (HandshakePacket.create CONF_ACK_TYPE 12 s.role.includeLegacyHeaderBug)
  let retainedSecrets ← Java.orNull s.role.retainedSecrets
  let rs1ID ← foreignDH.getDerivativeSecretOne
  let rs2ID ← foreignDH.getDerivativeSecretTwo
  let continuity ← hasContinuity C .responder retainedSecrets (some rs1ID) (some rs2ID)
  let foreignZid ← HelloPacket.getZID foreignHello
  let cacheTime ← confirmPacket.getCacheTime s.buf
  .ok { s with
    database := s.database.completeHandshake cfg.platform cfg.remoteNumber foreignZid
      masterSecret.rs1 cacheTime continuity c.expiration c.store }

/-- The responder as a negotiating socket. -/
def handlers : Handlers ResponderFields where
  handleHello := handleHello
  handleHelloAck := fun _ _ _ => Java.raise .assertionError
  handleCommit := handleCommit C cfg
  handleDH := handleDH C cfg
  handleConfirmOne := fun _ _ _ =>
    .error (.invalidPacket "Responder received a Confirm1 Packet?")
  handleConfirmTwo := handleConfirmTwo C cfg
  handleConfirmAck := fun _ _ _ => Java.raise .assertionError

/-- One iteration of the responder. -/
def step (s : ZRTPResponderSocket) (i : Input) : Java ZRTPResponderSocket :=
  s.negotiate (handlers C cfg) i

/-! ## What the handlers do -/

variable {C : Crypto} {cfg : Config} {c : Clock} {packet : HandshakePacket}
  {s s' : ZRTPResponderSocket}

theorem handleHello_ok (h : handleHello c packet s = .ok s') :
    ∃ foreignHello, packet.copyOf = .ok foreignHello ∧
      s' = { s with
        state := .expectingCommit
        role := { s.role with foreignHello := some foreignHello } }.sendFreshPacket c.transmit
          (HandshakePacket.create HELLO_ACK_TYPE 12 s.role.includeLegacyHeaderBug) := by
  simp only [handleHello, Java.bind_ok, Except.ok.injEq] at h
  rcases h with ⟨foreignHello, hcopy, rfl⟩
  exact ⟨foreignHello, hcopy, rfl⟩

theorem handleCommit_ok (h : handleCommit C cfg c packet s = .ok s') :
    ∃ commit foreignHello zid secrets derivatives t localDH h2,
      packet.copyOf = .ok commit ∧ s.role.foreignHello = some foreignHello ∧
      HelloPacket.getZID foreignHello = .ok zid ∧
      s.database.getRetainedSecrets cfg.platform cfg.remoteNumber zid c.retrieve = .ok secrets ∧
      calculateDerivatives C .responder secrets = .ok derivatives ∧
      getKeyAgreementType (some commit) = .ok t ∧
      localDH = DHPacket.create C DHPacket.TYPE_ONE t (cfg.hashChain C)
        (cfg.keys.getPublicKey C t) derivatives cfg.random s.role.includeLegacyHeaderBug ∧
      CommitPacket.getHash commit = .ok h2 ∧
      HelloPacket.verifyMac C h2 foreignHello = .ok () ∧
      s' = { s with
        state := .expectingDh2
        role := { s.role with
          foreignCommit := some commit
          retainedSecrets := some secrets
          localDH := some localDH } }.sendFreshPacket c.transmit localDH.packet := by
  simp only [handleCommit, Java.bind_ok, Java.orNull_ok, Except.ok.injEq] at h
  rcases h with ⟨commit, hcopy, foreignHello, hhello, zid, hzid, secrets, hsecrets, derivatives,
    hder, t, ht, h2, hh2, _, hmac, rfl⟩
  exact ⟨commit, foreignHello, zid, secrets, derivatives, t, _, h2, hcopy, hhello, hzid, hsecrets,
    hder, ht, rfl, hh2, hmac, rfl⟩

/-- What the socket is after the handler, whatever led there. -/
theorem handleCommit_next (h : handleCommit C cfg c packet s = .ok s') :
    ∃ commit secrets localDH, s' = { s with
      state := .expectingDh2
      role := { s.role with
        foreignCommit := some commit
        retainedSecrets := some secrets
        localDH := some localDH } }.sendFreshPacket c.transmit localDH.packet := by
  rcases handleCommit_ok h with
    ⟨commit, _, _, secrets, _, _, localDH, _, _, _, _, _, _, _, _, _, _, hs'⟩
  exact ⟨commit, secrets, localDH, hs'⟩

/-- What an accepted DHPart2 passed, and what was derived from it. -/
structure AcceptedDH (C : Crypto) (cfg : Config) (packet : HandshakePacket)
    (s : ZRTPResponderSocket) (foreignDH : DHPacket) (masterSecret : MasterSecret) : Prop where
  copy : ∃ t, getKeyAgreementType s.role.foreignCommit = .ok t ∧
    DHPacket.copyOf packet t = .ok foreignDH
  verified : ∃ commit h1 helloBytes dhBytes, s.role.foreignCommit = some commit ∧
    foreignDH.getHash = .ok h1 ∧ CommitPacket.verifyMac C h1 commit = .ok () ∧
    s.role.localHello.getMessageBytes = .ok helloBytes ∧
    foreignDH.packet.getMessageBytes = .ok dhBytes ∧
    CommitPacket.verifyHvi C helloBytes dhBytes commit = .ok ()
  derived : ∃ foreignHello commit localDH secrets pvr dhResult totalHash rs1 rs2 s1 zidi zidr,
    s.role.foreignHello = some foreignHello ∧ s.role.foreignCommit = some commit ∧
    s.role.localDH = some localDH ∧ s.role.retainedSecrets = some secrets ∧
    foreignDH.getPvr = .ok pvr ∧
    SecretCalculator.calculateKeyAgreement C cfg.keys foreignDH.agreementType pvr = .ok dhResult ∧
    SecretCalculator.calculateTotalHash C s.role.localHello commit localDH foreignDH
      = .ok totalHash ∧
    foreignDH.getDerivativeSecretOne = .ok rs1 ∧ foreignDH.getDerivativeSecretTwo = .ok rs2 ∧
    getS1 C .responder secrets (some rs1) (some rs2) = .ok s1 ∧
    HelloPacket.getZID foreignHello = .ok zidi ∧ HelloPacket.getZID s.role.localHello = .ok zidr ∧
    masterSecret = MasterSecret.create C
      (SecretCalculator.calculateSharedSecret C dhResult totalHash s1 zidi zidr) totalHash zidi zidr

theorem handleDH_ok (h : handleDH C cfg c packet s = .ok s') :
    ∃ foreignDH masterSecret foreignHello legacyConfirm,
      AcceptedDH C cfg packet s foreignDH masterSecret ∧
      s.role.foreignHello = some foreignHello ∧
      isLegacyConfirmConnection foreignHello = .ok legacyConfirm ∧
      s' = { s with
        state := .expectingConfirmTwo
        masterSecret := some masterSecret
        role := { s.role with foreignDH := some foreignDH } }.sendFreshPacket c.transmit
          (ConfirmPacket.create C ConfirmPacket.TYPE_ONE masterSecret.macR masterSecret.zrtpKeyR
            (cfg.hashChain C) (ConfirmPacket.iv legacyConfirm cfg.confirmIv)
            s.role.includeLegacyHeaderBug) := by
  simp only [handleDH, Java.bind_ok, Java.orNull_ok, Except.ok.injEq] at h
  rcases h with ⟨t, ht, foreignDH, hcopy, commit, hcommit, h1, hh1, _, hmac, helloBytes, hhb,
    dhBytes, hdb, _, hhvi, pvr, hpvr, dhResult, hdh, localDH, hlocal, totalHash, htotal, rs1, hrs1,
    rs2, hrs2, secrets, hsecrets, s1, hs1, foreignHello, hhello, zidi, hzidi, zidr, hzidr,
    legacyConfirm, hlegacy, rfl⟩
  -- The type the packet was read with is the one it keeps.
  have htype : foreignDH.agreementType = t := DHPacket.agreementType_copyOf hcopy
  refine ⟨foreignDH, _, foreignHello, legacyConfirm, ⟨⟨t, ht, hcopy⟩,
    ⟨commit, h1, helloBytes, dhBytes, hcommit, hh1, hmac, hhb, hdb, hhvi⟩, ?_⟩,
    hhello, hlegacy, rfl⟩
  exact ⟨foreignHello, commit, localDH, secrets, pvr, dhResult, totalHash, rs1, rs2, s1, zidi, zidr,
    hhello, hcommit, hlocal, hsecrets, hpvr, htype ▸ hdh, htotal, hrs1, hrs2, hs1, hzidi,
    hzidr, rfl⟩

theorem handleDH_next (h : handleDH C cfg c packet s = .ok s') :
    ∃ foreignDH masterSecret confirmOne, s' = { s with
      state := .expectingConfirmTwo
      masterSecret := some masterSecret
      role := { s.role with foreignDH := some foreignDH } }.sendFreshPacket c.transmit
      confirmOne := by
  rcases handleDH_ok h with ⟨foreignDH, masterSecret, _, _, _, _, _, hs'⟩
  exact ⟨foreignDH, masterSecret, _, hs'⟩

/-- A DHPart2 that passes what an accepted one passed is accepted. -/
theorem handleDH_of_accepted {foreignDH : DHPacket} {masterSecret : MasterSecret}
    {foreignHello : HandshakePacket} {legacyConfirm : Bool}
    (h : AcceptedDH C cfg packet s foreignDH masterSecret)
    (hhello : s.role.foreignHello = some foreignHello)
    (hlegacy : isLegacyConfirmConnection foreignHello = .ok legacyConfirm) :
    ∃ s', handleDH C cfg c packet s = .ok s' ∧ s'.role.foreignDH = some foreignDH := by
  rcases h.copy with ⟨t, ht, hcopy⟩
  have htype : foreignDH.agreementType = t := DHPacket.agreementType_copyOf hcopy
  rcases h.verified with ⟨commit, h1, hb, db, hcommit, hh1, hmac, hhb, hdb, hhvi⟩
  rcases h.derived with ⟨hello, commit', localDH, secrets, pvr, dhResult, totalHash, rs1, rs2, s1,
    zidi, zidr, hhello', hcommit', hlocal, hsecrets, hpvr, hdh, htotal, hrs1, hrs2, hs1, hzidi,
    hzidr, hms⟩
  -- What was accepted is read from the same fields of the socket.
  rw [hcommit, Option.some.injEq] at hcommit'
  rw [hhello, Option.some.injEq] at hhello'
  subst hcommit' hhello' htype
  rw [hcommit] at ht
  simp only [handleDH, ht, hcopy, hcommit, hh1, hmac, hhb, hdb, hhvi, hpvr, hdh, hlocal, htotal,
    hrs1, hrs2, hsecrets, hs1, hhello, hzidi, hzidr, hlegacy, Java.orNull, Java.ok_bind,
    Except.ok.injEq, exists_eq_left', ZRTPSocket.sendFreshPacket_role]

theorem handleConfirmTwo_ok (h : handleConfirmTwo C cfg c packet s = .ok s') :
    ∃ foreignHello masterSecret buf preimage foreignDH database,
      s.role.foreignHello = some foreignHello ∧ s.masterSecret = some masterSecret ∧
      (ConfirmPacket.ofPacket packet).verifyMac C masterSecret.macI s.buf = .ok () ∧
      (ConfirmPacket.ofPacket packet).decrypt C masterSecret.zrtpKeyI s.buf = .ok buf ∧
      (ConfirmPacket.ofPacket packet).getPreimage buf = .ok preimage ∧
      s.role.foreignDH = some foreignDH ∧ foreignDH.verifyMac C preimage = .ok () ∧
      s' = { ({ s with state := .handshakeComplete, buf := buf }.sendFreshPacket c.transmit
        (HandshakePacket.create CONF_ACK_TYPE 12 s.role.includeLegacyHeaderBug) :
          ZRTPResponderSocket) with database := database } := by
  simp only [handleConfirmTwo, Java.bind_ok, Java.orNull_ok, Except.ok.injEq] at h
  rcases h with ⟨foreignHello, hhello, _, _, ms, hms, _, hmac, buf, hdecrypt, preimage, hpre,
    foreignDH, hdh, _, hverify, secrets, _, rs1ID, _, rs2ID, _, continuity, _, zid, _, cacheTime, _,
    rfl⟩
  exact ⟨foreignHello, ms, buf, preimage, foreignDH, _, hhello, hms, hmac, hdecrypt, hpre, hdh,
    hverify, rfl⟩

theorem handleConfirmTwo_next (h : handleConfirmTwo C cfg c packet s = .ok s') :
    ∃ buf database,
      s' = { ({ s with state := .handshakeComplete, buf := buf }.sendFreshPacket c.transmit
        (HandshakePacket.create CONF_ACK_TYPE 12 s.role.includeLegacyHeaderBug) :
          ZRTPResponderSocket) with database := database } := by
  rcases handleConfirmTwo_ok h with ⟨_, _, buf, _, _, database, _, _, _, _, _, _, _, hs'⟩
  exact ⟨buf, database, hs'⟩

end ZRTPResponderSocket

end RedPhone
