import RedPhone.Zrtp.Agreement
import RedPhone.Zrtp.Posted

/-!
# What Honest Parties Accept

Over a network that loses, duplicates, reorders and delays, no packet of an
honest peer makes a party fail, whenever it comes and however often: a packet
of the type a state takes passes every check of its handler there, and any
other is left alone. What remains to go wrong is what neither party can help:
the error of the socket below, and an answer that has been waited for too long.

Two things are asked of the parties for that. Their keys and caches fit each
other: the exchange of the keys agrees, each accepts the public value of the
other, and the ids of the secrets in their caches, together with the numbers
sent in the place of absent ones, are not mistaken for each other. And what the
caches hold for the peer can be read when it is looked up, and none of it is an
empty key.

Each handler has a lemma here. Unlike the stages of an undisturbed handshake
they are about any state that can be reached, and any copy of the packet.

## Main definitions

* `Compatible`: Keys and caches two parties can agree with.
* `Readable`: The caches can be read now.
* `Running`: What holds of two honest parties all through.
* `GivenUp`: An answer has been waited for too often.

## Theorems

* `running_of_reaches`: It does.
* `Running.initiator_handles`, `Running.responder_handles`: A packet of the peer
  is accepted in the state that takes it.
* `honest_failures`: All the ways an honest handshake can fail.
* `gives_up`: A party that hears nothing more gives up.
-/

namespace RedPhone

open HandshakePacket RetainedSecretsCalculator Undisturbed

/-- The keys of two parties agree, and the ids of the secrets in their caches
    are not mistaken for each other. -/
structure Compatible (C : Crypto) (cfgI cfgR : Config)
    (databaseI databaseR : RetainedSecretsDatabase) : Prop where
  commute : cfgI.keys.Commute C cfgR.keys
  accepts : ∃ result, SecretCalculator.calculateKeyAgreement C cfgI.keys cfgR.version.agreementType
    (cfgR.keys.getPublicKey C cfgR.version.agreementType) = .ok result
  noCollision : ∀ now now' a b,
    databaseI.getRetainedSecrets cfgI.platform cfgI.remoteNumber cfgR.localZid now = .ok a →
    databaseR.getRetainedSecrets cfgR.platform cfgR.remoteNumber cfgI.localZid now' = .ok b →
    NoCollision C a b (fillers cfgI cfgR)

/-- What the caches hold for the peer can be read at a moment, and is not the
    empty key. -/
structure Readable (cfgI cfgR : Config) (databaseI databaseR : RetainedSecretsDatabase)
    (now : Int) : Prop where
  initiator : ∃ secrets, databaseI.getRetainedSecrets cfgI.platform cfgI.remoteNumber cfgR.localZid
    now = .ok secrets ∧ Keyable secrets
  responder : ∃ secrets, databaseR.getRetainedSecrets cfgR.platform cfgR.remoteNumber cfgI.localZid
    now = .ok secrets ∧ Keyable secrets

/-- The invariant of two honest parties: what each has made, holds, has sent
    and has looked up, and that the copies each has are the other's packets. -/
structure Running (C : Crypto) (cfgI cfgR : Config)
    (databaseI databaseR : RetainedSecretsDatabase) (n : Network) : Prop where
  paired : Paired C cfgI cfgR n
  initiatorHeld : ZRTPInitiatorSocket.Held n.initiator
  responderHeld : ZRTPResponderSocket.Held n.responder
  initiatorSupplied : Supplied C (ZRTPInitiatorSocket.confirmSeal C cfgI) ZRTPInitiatorSocket.path
    ZRTPInitiatorSocket.entry n.initiator
  responderSupplied : Supplied C (ZRTPResponderSocket.confirmSeal C cfgR) ZRTPResponderSocket.path
    ZRTPResponderSocket.entry n.responder
  initiatorDrawn : ZRTPInitiatorSocket.Drawn C cfgI databaseI n.initiator
  responderDrawn : ZRTPResponderSocket.Drawn C cfgR databaseR n.responder
  initiatorPath : ∃ k : Nat, ZRTPInitiatorSocket.path[k]? = some n.initiator.state
  responderPath : ∃ k : Nat, ZRTPResponderSocket.path[k]? = some n.responder.state

section

variable {C : Crypto} {cfgI cfgR : Config} {databaseI databaseR : RetainedSecretsDatabase}
  {n n' : Network}

theorem running_start (legacy : Bool) (now : Int) :
    Running C cfgI cfgR databaseI databaseR
      (Network.start C cfgR databaseI databaseR legacy now) where
  paired := paired_start databaseI databaseR legacy now
  initiatorHeld := ZRTPInitiatorSocket.held_create databaseI
  responderHeld := ZRTPResponderSocket.held_start databaseR legacy now
  initiatorSupplied := ZRTPInitiatorSocket.supplied_create databaseI
  responderSupplied := ZRTPResponderSocket.supplied_start databaseR legacy now
  initiatorDrawn := ZRTPInitiatorSocket.drawn_create databaseI
  responderDrawn := ZRTPResponderSocket.drawn_start databaseR legacy now
  initiatorPath := ⟨0, rfl⟩
  responderPath := ⟨0, rfl⟩

/-- Who is not closed stays on the path. -/
theorem ZRTPSocket.path_of_step {ρ : Type} {h : Handlers ρ} {path : List State}
    {s s' : ZRTPSocket ρ} (hnodup : path.Nodup) (hfollows : ZRTPSocket.Follows h path)
    (hpath : ∃ k : Nat, path[k]? = some s.state) (i : Input) (hopen : i.event ≠ .close)
    (hstep : s.negotiate h i = .ok s') : ∃ k : Nat, path[k]? = some s'.state := by
  rcases hpath with ⟨k, hk⟩
  rcases ZRTPSocket.path_step hnodup hfollows i hk hstep with
    ⟨_, hnext⟩ | ⟨_, hstate | ⟨_, hclose⟩⟩
  · exact ⟨k + 1, hnext⟩
  · exact ⟨k, hstate ▸ hk⟩
  · exact absurd hclose hopen

theorem running_step (h : Running C cfgI cfgR databaseI databaseR n)
    (hstep : Network.Step C cfgI cfgR Honest n n') :
    Running C cfgI cfgR databaseI databaseR n' := by
  have hpaired := paired_step h.paired hstep
  cases hstep with
  | initiator i s hallowed hstep =>
      exact
        { paired := hpaired
          initiatorHeld := ZRTPInitiatorSocket.held_step h.paired.initiator h.initiatorHeld i hstep
          responderHeld := h.responderHeld
          initiatorSupplied := ZRTPInitiatorSocket.supplied_step h.paired.initiator
            h.initiatorSupplied i hstep
          responderSupplied := h.responderSupplied
          initiatorDrawn := ZRTPInitiatorSocket.drawn_step h.initiatorDrawn i hstep
          responderDrawn := h.responderDrawn
          initiatorPath := ZRTPSocket.path_of_step (by decide) ZRTPInitiatorSocket.follows
            h.initiatorPath i hallowed.1 hstep
          responderPath := h.responderPath }
  | responder i s hallowed hstep =>
      exact
        { paired := hpaired
          initiatorHeld := h.initiatorHeld
          responderHeld := ZRTPResponderSocket.held_step h.paired.responder h.responderHeld i hstep
          initiatorSupplied := h.initiatorSupplied
          responderSupplied := ZRTPResponderSocket.supplied_step h.paired.responder
            h.responderSupplied i hstep
          initiatorDrawn := h.initiatorDrawn
          responderDrawn := ZRTPResponderSocket.drawn_step h.responderDrawn i hstep
          initiatorPath := h.initiatorPath
          responderPath := ZRTPSocket.path_of_step (by decide) ZRTPResponderSocket.follows
            h.responderPath i hallowed.1 hstep }

theorem running_of_reaches (legacy : Bool) (now : Int) (hreach : Network.Reaches C cfgI cfgR Honest
      (Network.start C cfgR databaseI databaseR legacy now) n) :
    Running C cfgI cfgR databaseI databaseR n := by
  induction hreach with
  | refl => exact running_start legacy now
  | tail _ hstep ih => exact running_step ih hstep

/-- What holds of the handler of a state holds if the packet has its type. -/
theorem ZRTPSocket.forall_handler_of_type {α : Type} {type expected : Bytes} {handle : α}
    {P : α → Prop} :
    (∀ f, (if type = expected then some handle else none) = some f → P f) ↔
      (type = expected → P handle) := by
  by_cases htype : type = expected
  · simp only [htype, if_true, Option.some.injEq, forall_eq', true_imp_iff]
  · simp only [htype, if_false, reduceCtorEq, false_imp_iff, implies_true]

/-- A datagram that passes the checks in front of the handlers, and is accepted
    by the handler it goes to, if it goes to one. -/
structure Accepted {ρ : Type} (h : Handlers ρ) (c : Clock) (s : ZRTPSocket ρ) (d : Bytes)
    (type : Bytes) : Prop where
  crc : (s.received d).verifyCRC = .ok true
  type_eq : (s.received d).getType = .ok type
  handled : ∀ handle, ZRTPSocket.handler h s.state type = some handle →
    ∃ s', handle c (s.received d) { s with buf := s.buf.receive d } = .ok s'

namespace Running

/-! ## What the copies say -/

/-- The Hello of the responder, as it was made. -/
theorem responder_hello (h : Running C cfgI cfgR databaseI databaseR n) :
    HelloPacket.Made C (cfgR.hashChain C) cfgR.localZid cfgR.version
      n.responder.role.includeLegacyHeaderBug n.responder.role.localHello := by
  have hmade := cfgR.hello_made C n.responder.role.includeLegacyHeaderBug
  rw [← h.paired.responder.hello] at hmade
  exact hmade

/-- The Hello of the initiator, which its peer has a copy of. -/
theorem initiator_hello (h : Running C cfgI cfgR databaseI databaseR n) (p : HandshakePacket)
    (hp : n.initiator.role.localHello = some p) :
    HelloPacket.Made C (cfgI.hashChain C) cfgI.localZid cfgI.version
      n.initiator.role.includeLegacyHeaderBug p := by
  have hmade := cfgI.hello_made C n.initiator.role.includeLegacyHeaderBug
  rw [← h.paired.initiator.hello p hp] at hmade
  exact hmade

/-- The initiator's copy of the responder's Hello. -/
theorem initiator_copy (h : Running C cfgI cfgR databaseI databaseR n)
    (hstage : 1 ≤ ZRTPInitiatorSocket.stage n.initiator.state) :
    ∃ q, n.initiator.role.foreignHello = some q ∧
      SameMessage n.responder.role.localHello q ∧ n.initiator.getKeyAgreementType
        = .ok cfgR.version.agreementType := by
  rcases h.initiatorHeld.hello hstage with ⟨q, hq, _⟩
  have hsame := h.paired.responderHello q hq
  exact ⟨q, hq, hsame, ZRTPInitiatorSocket.getKeyAgreementType_made _ q h.responder_hello hsame _
    hq⟩

/-- The responder's copy of the initiator's Hello. -/
theorem responder_copy (h : Running C cfgI cfgR databaseI databaseR n)
    (hstage : 1 ≤ ZRTPResponderSocket.stage n.responder.state) :
    ∃ p q, n.initiator.role.localHello = some p ∧ n.responder.role.foreignHello = some q ∧
      HelloPacket.Made C (cfgI.hashChain C) cfgI.localZid cfgI.version
        n.initiator.role.includeLegacyHeaderBug p ∧ SameMessage p q := by
  rcases h.responderHeld.hello hstage with ⟨q, hq⟩
  rcases h.paired.initiatorHello q hq with ⟨p, hp, hsame⟩
  exact ⟨p, q, hp, hq, h.initiator_hello p hp, hsame⟩

/-- The initiator has looked up its peer's identity. -/
theorem initiator_read (h : Running C cfgI cfgR databaseI databaseR n) {a : RetainedSecrets}
    (ha : n.initiator.role.retainedSecrets = some a) :
    ∃ now, databaseI.getRetainedSecrets cfgI.platform cfgI.remoteNumber cfgR.localZid now
      = .ok a := by
  rcases h.initiatorDrawn.drawn a ha with ⟨q, zid, now, hq, hzid, hread⟩
  -- The identity a party reads is the one its peer has.
  rw [HelloPacket.getZID_made _ q h.responder_hello (h.paired.responderHello q hq),
    Except.ok.injEq] at hzid
  rw [← hzid] at hread
  exact ⟨now, hread⟩

theorem responder_read (h : Running C cfgI cfgR databaseI databaseR n) {b : RetainedSecrets}
    (hb : n.responder.role.retainedSecrets = some b) :
    ∃ now, databaseR.getRetainedSecrets cfgR.platform cfgR.remoteNumber cfgI.localZid now
      = .ok b := by
  rcases h.responderDrawn.drawn b hb with ⟨q, zid, now, hq, hzid, hread⟩
  rcases h.paired.initiatorHello q hq with ⟨p, hp, hsame⟩
  rw [HelloPacket.getZID_made p q (h.initiator_hello p hp) hsame, Except.ok.injEq] at hzid
  rw [← hzid] at hread
  exact ⟨now, hread⟩

/-- The secrets both have looked up do not collide. -/
theorem noCollision (h : Running C cfgI cfgR databaseI databaseR n)
    (hc : Compatible C cfgI cfgR databaseI databaseR) (a b : RetainedSecrets)
    (ha : n.initiator.role.retainedSecrets = some a)
    (hb : n.responder.role.retainedSecrets = some b) : NoCollision C a b (fillers cfgI cfgR) := by
  rcases h.initiator_read ha with ⟨now, hread⟩
  rcases h.responder_read hb with ⟨now', hread'⟩
  exact hc.noCollision now now' a b hread hread'

/-- The master secrets of two honest parties are the same. -/
theorem masterSecret_eq (h : Running C cfgI cfgR databaseI databaseR n)
    (hc : Compatible C cfgI cfgR databaseI databaseR) (mI mR : MasterSecret)
    (hI : n.initiator.masterSecret = some mI) (hR : n.responder.masterSecret = some mR) :
    mI = mR :=
  h.paired.masterSecret_eq hc.commute (h.noCollision hc) mI mR hI hR

/-- What a responder has on the wire is a packet it has made. -/
theorem carried_of_responder (h : Running C cfgI cfgR databaseI databaseR n) {q : HandshakePacket}
    {k : Nat} (hq : Sendable q) (hmem : (q.wire k).data ∈ n.responder.sent) {type : Bytes}
    (htype : q.getType = .ok type) :
    ∃ p, n.responder.Made p ∧ p.getType = .ok type ∧ SameMessage p (q.wire k) := by
  have hread := (received_wire q hq k n.initiator).2.1.trans htype
  rcases h.paired.fromResponder _ hmem type hread with ⟨p, hp, hptype, hsame⟩
  rw [ofDatagram_data _ (sendable_of_sameMessage q _ (wire_sameMessage k q hq.1) hq)] at hsame
  exact ⟨p, hp, hptype, hsame⟩

/-- And so is what an initiator has. -/
theorem carried_of_initiator (h : Running C cfgI cfgR databaseI databaseR n) {q : HandshakePacket}
    {k : Nat} (hq : Sendable q) (hmem : (q.wire k).data ∈ n.initiator.sent) {type : Bytes}
    (htype : q.getType = .ok type) :
    ∃ p, n.initiator.Made p ∧ p.getType = .ok type ∧ SameMessage p (q.wire k) := by
  have hread := (received_wire q hq k n.responder).2.1.trans htype
  rcases h.paired.fromInitiator _ hmem type hread with ⟨p, hp, hptype, hsame⟩
  rw [ofDatagram_data _ (sendable_of_sameMessage q _ (wire_sameMessage k q hq.1) hq)] at hsame
  exact ⟨p, hp, hptype, hsame⟩

/-- A party reads the release of its peer. -/
theorem isLegacyConfirmConnection_made {chain : HashChain} {zid : Bytes} {version : Version}
    {legacy : Bool} (p q : HandshakePacket) (hp : HelloPacket.Made C chain zid version legacy p)
    (h : SameMessage p q) :
    ∃ legacyConfirm, isLegacyConfirmConnection q = .ok legacyConfirm := by
  unfold isLegacyConfirmConnection
  rw [HelloPacket.getClientId_made p q hp h, Java.ok_bind]
  exact ⟨_, rfl⟩

/-- What a party that has committed holds: its secrets and the DHPart it made
    of them, of the key agreement the responder's version asks for. -/
structure Committing (C : Crypto) (cfg : Config) (role : Role) (type : Bytes) (t : AgreementType)
    (legacy : Bool) (secrets : RetainedSecrets) (ids : RetainedSecretsDerivatives) (d : DHPacket) :
    Prop where
  keyable : Keyable secrets
  ids_eq : calculateDerivatives C role secrets = .ok ids
  made : DHPacket.Made C type t (cfg.hashChain C) (cfg.keys.getPublicKey C t) ids cfg.random legacy
    d

/-- The initiator, and its Commit. -/
theorem initiator_commits (h : Running C cfgI cfgR databaseI databaseR n) (d : DHPacket)
    (hd : n.initiator.role.localDH = some d) :
    ∃ hello commit secrets ids helloBytes dhBytes,
      n.initiator.role.foreignHello = some hello ∧ hello.getMessageBytes = .ok helloBytes ∧
      n.initiator.role.commitPacket = some commit ∧
      n.initiator.role.retainedSecrets = some secrets ∧
      n.initiator.getKeyAgreementType = .ok cfgR.version.agreementType ∧
      d.packet.getMessageBytes = .ok dhBytes ∧
      Committing C cfgI .initiator DHPacket.TYPE_TWO cfgR.version.agreementType
        n.initiator.role.includeLegacyHeaderBug secrets ids d ∧
      CommitPacket.Made C (cfgI.hashChain C) helloBytes dhBytes cfgI.localZid
        cfgR.version.agreementType n.initiator.role.includeLegacyHeaderBug commit := by
  rcases h.paired.initiator.committed d hd with
    ⟨hello, commit, secrets, ids, t, helloBytes, dhBytes, hhello, hbytes, hcommit, hsecrets, hids,
      ht, hmade, hdhBytes, hmadeC⟩
  have hread := ZRTPInitiatorSocket.getKeyAgreementType_made _ hello h.responder_hello
    (h.paired.responderHello hello hhello) n.initiator hhello
  rw [ht, Except.ok.injEq] at hread
  subst hread
  exact ⟨hello, commit, secrets, ids, helloBytes, dhBytes, hhello, hbytes, hcommit, hsecrets, ht,
    hdhBytes, ⟨((calculateDerivatives_ok C _ _ _).mp hids).1, hids, hmade⟩, hmadeC⟩

/-- The responder, which reads the key agreement in its copy of the Commit. -/
theorem responder_commits (h : Running C cfgI cfgR databaseI databaseR n) (d : DHPacket)
    (hd : n.responder.role.localDH = some d) :
    ∃ copy commit dI secrets ids, n.responder.role.foreignCommit = some copy ∧
      n.initiator.role.commitPacket = some commit ∧ SameMessage commit copy ∧
      n.initiator.role.localDH = some dI ∧
      n.responder.role.retainedSecrets = some secrets ∧
      ZRTPResponderSocket.getKeyAgreementType n.responder.role.foreignCommit
        = .ok cfgR.version.agreementType ∧
      Committing C cfgR .responder DHPacket.TYPE_ONE cfgR.version.agreementType
        n.responder.role.includeLegacyHeaderBug secrets ids d := by
  rcases h.paired.responder.committed d hd with ⟨secrets, ids, t, hsecrets, hids, ht, hmade⟩
  obtain ⟨copy, hcopy⟩ : ∃ copy, n.responder.role.foreignCommit = some copy := by
    cases hcommit : n.responder.role.foreignCommit with
    | none =>
        rw [hcommit] at ht
        simp only [ZRTPResponderSocket.getKeyAgreementType, Java.raise, reduceCtorEq] at ht
    | some copy => exact ⟨copy, rfl⟩
  rcases h.paired.commit copy hcopy with ⟨commit, hcommit, hsame⟩
  rcases h.paired.initiator.commit commit hcommit with ⟨dI, hdI⟩
  rcases h.initiator_commits dI hdI with
    ⟨_, commit', _, _, _, _, _, _, hcommit', _, _, _, _, hmadeC⟩
  rw [hcommit, Option.some.injEq] at hcommit'
  subst hcommit'
  have hread := getKeyAgreementType_copy commit copy hmadeC hsame
  rw [← hcopy, ht, Except.ok.injEq] at hread
  subst hread
  exact ⟨copy, commit, dI, secrets, ids, hcopy, hcommit, hsame, hdI, hsecrets, ht,
    ⟨((calculateDerivatives_ok C _ _ _).mp hids).1, hids, hmade⟩⟩

/-! ## The handlers of the initiator -/

section

variable {c : Clock} {packet : HandshakePacket} {buf : ReceiveBuffer}

/-- The HelloAck is an occasion to read the Hello, and to commit. -/
theorem initiator_handleHelloAck (h : Running C cfgI cfgR databaseI databaseR n)
    (hread : Readable cfgI cfgR databaseI databaseR c.retrieve)
    (hstate : n.initiator.state = .expectingHelloAck) (p : HandshakePacket) :
    ∃ s', ZRTPInitiatorSocket.handleHelloAck C cfgI c p { n.initiator with buf := buf }
      = .ok s' := by
  have hone : 1 ≤ ZRTPInitiatorSocket.stage n.initiator.state := by
    rw [hstate]
    exact Nat.le_refl 1
  have hover : ¬ n.initiator.Over := by
    unfold ZRTPSocket.Over
    rw [hstate]
    decide
  rcases h.initiator_copy hone with ⟨q, hq, hsame, ht⟩
  have hmade := h.responder_hello
  have hcount := cfgR.version.keyAgreements_count
  have hzid := HelloPacket.getZID_made _ q hmade hsame
  have hmessage := hmade.header.getMessageBytes_eq (by omega) (by omega)
  rw [← getMessageBytes_copy _ q hmade.header (by omega) (by omega) hsame] at hmessage
  rcases hread.initiator with ⟨secrets, hsecrets, hkeyable⟩
  rw [← h.initiatorDrawn.unstored.resolve_left hover] at hsecrets
  rcases calculateDerivatives_of_keyable C .initiator secrets hkeyable with ⟨ids, hids⟩
  have htype : ZRTPInitiatorSocket.getKeyAgreementType { n.initiator with buf := buf }
      = .ok cfgR.version.agreementType := ht
  have hdh := cfgI.dh_made C .initiator DHPacket.TYPE_TWO DHPacket.length_TYPE_TWO
    cfgR.version.agreementType secrets ids hids n.initiator.role.includeLegacyHeaderBug
  have hlen := cfgR.version.agreementType.dhLength_eq
  have hpvr := cfgR.version.agreementType.pvrLength_le
  simp only [ZRTPInitiatorSocket.handleHelloAck, hq, Java.orNull, Java.ok_bind, hzid, hsecrets,
    hids, htype, hmessage, CommitPacket.create,
    hdh.header.getMessageBytes_eq (by omega) (by omega)]
  exact ⟨_, rfl⟩

/-- A DHPart1 is answered with the DHPart2 that was committed to. -/
theorem initiator_handleDH (h : Running C cfgI cfgR databaseI databaseR n)
    (hc : Compatible C cfgI cfgR databaseI databaseR) (hstate : n.initiator.state = .expectingDh1)
    {q : HandshakePacket} {k : Nat} (hq : Sendable q) (hmem : (q.wire k).data ∈ n.responder.sent)
    (htype : q.getType = .ok DHPacket.TYPE_ONE) (hcopy : packet.copyOf = .ok (q.wire k)) :
    ∃ s', ZRTPInitiatorSocket.handleDH C cfgI c packet { n.initiator with buf := buf }
      = .ok s' := by
  have htwo : 2 ≤ ZRTPInitiatorSocket.stage n.initiator.state := by
    rw [hstate]
    exact Nat.le_refl 2
  rcases h.initiatorHeld.dh htwo with ⟨dI, hdI⟩
  rcases h.initiator_commits dI hdI with ⟨hello, commit, secrets, ids, helloBytes, dhBytes, hhello,
    hbytes, hcommit, hsecrets, ht, hdhBytes, hcommitting, hmadeC⟩
  rcases h.initiatorHeld.localHello (by omega) with ⟨localHello, hlocalHello⟩
  have hsameH := h.paired.responderHello hello hhello
  -- The DHPart1 is the responder's, of the same key agreement.
  rcases h.carried_of_responder hq hmem htype with ⟨p, hp, hptype, hsame⟩
  obtain ⟨dR, hdR, hdRp⟩ : ∃ d, n.responder.role.localDH = some d ∧ d.packet = p := by
    rcases ZRTPResponderSocket.made_cases h.paired.responder p hp with
      ⟨_, hread⟩ | hread | ⟨d, hd, hdp, _⟩ | hread | ⟨hread, _⟩
    · exact absurd (Except.ok.inj (hread.symm.trans hptype)) (by decide +kernel)
    · exact absurd (Except.ok.inj (hread.symm.trans hptype)) (by decide +kernel)
    · exact ⟨d, hd, hdp⟩
    all_goals exact absurd (Except.ok.inj (hread.symm.trans hptype)) (by decide +kernel)
  rw [← hdRp] at hsame
  rcases h.responder_commits dR hdR with ⟨_, _, _, secretsR, idsR, _, _, _, _, _, _, hcommittingR⟩
  have hmadeR := hcommittingR.made
  have hhash := DHPacket.getHash_made dR ⟨q.wire k, cfgR.version.agreementType⟩ hmadeR hsame
  have hpvr := DHPacket.getPvr_made dR ⟨q.wire k, cfgR.version.agreementType⟩ hmadeR hsame rfl
  have hrs1 := DHPacket.getDerivativeSecretOne_made dR ⟨q.wire k, cfgR.version.agreementType⟩
    hmadeR hsame
  have hrs2 := DHPacket.getDerivativeSecretTwo_made dR ⟨q.wire k, cfgR.version.agreementType⟩
    hmadeR hsame
  have hmac : HelloPacket.verifyMac C (C.sha256 (cfgR.hashChain C).h1) hello = .ok () :=
    HelloPacket.verifyMac_made _ hello h.responder_hello rfl hsameH
  rcases hc.accepts with ⟨result, hresult⟩
  have hlen := cfgR.version.agreementType.dhLength_eq
  have hpvrLength := cfgR.version.agreementType.pvrLength_le
  have hbytesC := hmadeC.header.getMessageBytes_eq (by decide) (by decide)
  have hbytesR := hmadeR.header.getMessageBytes_eq (by omega) (by omega)
  rw [← getMessageBytes_copy _ _ hmadeR.header (by omega) (by omega) hsame] at hbytesR
  rcases exists_getS1 C .initiator secrets hcommitting.keyable (some (idsR.rs1ID.getD
    cfgR.random.rs1)) (some (idsR.rs2ID.getD cfgR.random.rs2)) with ⟨s1, hs1⟩
  have hzidi := HelloPacket.getZID_made localHello localHello (h.initiator_hello _ hlocalHello)
    (.refl _)
  have hzidr := HelloPacket.getZID_made _ hello h.responder_hello hsameH
  have hagreement : ZRTPInitiatorSocket.getKeyAgreementType { n.initiator with buf := buf }
      = .ok cfgR.version.agreementType := ht
  simp only [ZRTPInitiatorSocket.handleDH, hagreement, hdI, hhello, hcommit, hsecrets, hlocalHello,
    Java.orNull, Java.ok_bind, Option.isNone_some, Java.throwIf, Bool.false_eq_true, if_false,
    DHPacket.copyOf, hcopy, hhash, hmac, hpvr, hresult, SecretCalculator.calculateTotalHash, hbytes,
    hbytesC, hbytesR, hdhBytes, hrs1, hrs2, hs1, hzidi, hzidr]
  exact ⟨_, rfl⟩

/-- The initiator's copy of the DHPart1 verifies. -/
theorem initiator_verifies (h : Running C cfgI cfgR databaseI databaseR n) {ms : MasterSecret}
    (hms : n.initiator.masterSecret = some ms) {d : DHPacket}
    (hd : n.initiator.role.foreignDH = some d) :
    d.verifyMac C (cfgR.hashChain C).h0 = .ok () := by
  rcases h.paired.initiator.keyed ms hms with ⟨_, d', hd', haccepted⟩
  rw [hd, Option.some.injEq] at hd'
  subst hd'
  rcases haccepted.copy with ⟨t, ht, hcopy⟩
  rcases h.paired.responderDH d hd with ⟨dR, hdR, hsame⟩
  rcases h.responder_commits dR hdR with ⟨_, _, dI, _, _, _, _, _, hdI, _, _, hcommitting⟩
  rcases h.initiator_commits dI hdI with ⟨_, _, _, _, _, _, _, _, _, _, hread, _⟩
  rw [ht, Except.ok.injEq] at hread
  exact DHPacket.verifyMac_made dR d hcommitting.made rfl hsame
    ((DHPacket.agreementType_copyOf hcopy).trans hread)

/-- A Confirm1 is made under the keys it is checked with. -/
theorem initiator_handleConfirmOne (h : Running C cfgI cfgR databaseI databaseR n)
    (hc : Compatible C cfgI cfgR databaseI databaseR)
    (hstate : n.initiator.state = .expectingConfirmOne) {q : HandshakePacket} {k : Nat}
    (hq : Sealed C (ZRTPResponderSocket.confirmSeal C cfgR) n.responder.masterSecret q)
    (htype : q.getType = .ok ConfirmPacket.TYPE_ONE) :
    ∃ s', ZRTPInitiatorSocket.handleConfirmOne C cfgI c (n.initiator.received (q.wire k).data)
      { n.initiator with buf := n.initiator.buf.receive (q.wire k).data } = .ok s' := by
  have hthree : 3 ≤ ZRTPInitiatorSocket.stage n.initiator.state := by
    rw [hstate]
    exact Nat.le_refl 3
  rcases ZRTPInitiatorSocket.keyed h.paired.initiator h.initiatorHeld hthree with
    ⟨hello, ms, d, hkeyed⟩
  rcases hq.2 htype with ⟨mR, iv, legacy, hmR, hmade⟩
  have hsecret := h.masterSecret_eq hc ms mR hkeyed.masterSecret hmR
  subst hsecret
  have hmade' : ConfirmPacket.Made C ConfirmPacket.TYPE_ONE ms.macR ms.zrtpKeyR
    (cfgR.hashChain C).h0 iv legacy q := hmade
  rcases confirm_accepted _ _ _ _ _ q hmade' k n.initiator with ⟨buf', haccepted⟩
  rcases exists_isLegacyConfirmConnection hello hkeyed.hello_long with ⟨legacyConfirm, hlegacy⟩
  have hverify := h.initiator_verifies hkeyed.masterSecret hkeyed.foreignDH
  simp only [ZRTPInitiatorSocket.handleConfirmOne, hkeyed.foreignHello, hkeyed.masterSecret,
    hkeyed.foreignDH, Java.orNull, Java.ok_bind, hlegacy, haccepted.verified, haccepted.decrypted,
    haccepted.preimage, hverify]
  exact ⟨_, rfl⟩

/-- The acknowledgement is not read. -/
theorem initiator_handleConfirmAck (h : Running C cfgI cfgR databaseI databaseR n)
    (hstate : n.initiator.state = .expectingConfirmAck) (p : HandshakePacket) :
    ∃ s', ZRTPInitiatorSocket.handleConfirmAck C cfgI c p { n.initiator with buf := buf }
      = .ok s' := by
  have hfour : 4 ≤ ZRTPInitiatorSocket.stage n.initiator.state := by
    rw [hstate]
    exact Nat.le_refl 4
  rcases ZRTPInitiatorSocket.keyed h.paired.initiator h.initiatorHeld (by omega) with
    ⟨hello, ms, d, hkeyed⟩
  rcases hkeyed.secrets with ⟨secrets, hsecrets, hkeyable⟩
  rcases h.initiatorHeld.confirm hfour with ⟨confirm, hconfirm, hbug⟩
  have hlong := hkeyed.dh_long
  rcases exists_derivatives d (by omega) with ⟨rs1, rs2, hrs1, hrs2⟩
  rcases exists_getS1 C .initiator secrets hkeyable (some rs1) (some rs2) with ⟨s1, hs1⟩
  have hzid := HelloPacket.getZID_made _ hello h.responder_hello
    (h.paired.responderHello hello hkeyed.foreignHello)
  simp only [ZRTPInitiatorSocket.handleConfirmAck, hsecrets, hkeyed.foreignDH, hkeyed.foreignHello,
    hkeyed.masterSecret, hconfirm, Java.orNull, Java.ok_bind, hrs1, hrs2, hasContinuity, hs1, hzid,
    ConfirmPacket.getCacheTime_ok buf confirm hbug]
  exact ⟨_, rfl⟩

/-! ## The handlers of the responder -/

/-- A Commit is answered with a DHPart1 of the key agreement it asks for. -/
theorem responder_handleCommit (h : Running C cfgI cfgR databaseI databaseR n)
    (hread : Readable cfgI cfgR databaseI databaseR c.retrieve)
    (hstate : n.responder.state = .expectingCommit) {q : HandshakePacket} {k : Nat}
    (hq : Sendable q) (hmem : (q.wire k).data ∈ n.initiator.sent)
    (htype : q.getType = .ok CommitPacket.TYPE) (hcopy : packet.copyOf = .ok (q.wire k)) :
    ∃ s', ZRTPResponderSocket.handleCommit C cfgR c packet { n.responder with buf := buf }
      = .ok s' := by
  have hone : 1 ≤ ZRTPResponderSocket.stage n.responder.state := by
    rw [hstate]
    exact Nat.le_refl 1
  have hover : ¬ n.responder.Over := by
    unfold ZRTPSocket.Over
    rw [hstate]
    decide
  rcases h.responder_copy hone with ⟨p, hello, _, hhello, hmadeH, hsameH⟩
  rcases h.carried_of_initiator hq hmem htype with ⟨commit, hp, hptype, hsame⟩
  obtain ⟨dI, hdI⟩ : ∃ dI, n.initiator.role.localDH = some dI ∧
      n.initiator.role.commitPacket = some commit := by
    rcases ZRTPInitiatorSocket.made_cases h.paired.initiator commit hp with
      ⟨_, hread⟩ | ⟨hcommit, _⟩ | ⟨_, _, _, hread⟩ | hread
    · exact absurd (Except.ok.inj (hread.symm.trans hptype)) (by decide +kernel)
    · rcases h.paired.initiator.commit commit hcommit with ⟨dI, hdI⟩
      exact ⟨dI, hdI, hcommit⟩
    all_goals exact absurd (Except.ok.inj (hread.symm.trans hptype)) (by decide +kernel)
  rcases h.initiator_commits dI hdI.1 with
    ⟨_, commit', _, _, _, _, _, _, hcommit', _, _, _, _, hmadeC⟩
  rw [hdI.2, Option.some.injEq] at hcommit'
  subst hcommit'
  have ht := getKeyAgreementType_copy commit (q.wire k) hmadeC hsame
  have hhash := CommitPacket.getHash_made commit (q.wire k) hmadeC hsame
  have hmac : HelloPacket.verifyMac C (cfgI.hashChain C).h2 hello = .ok () :=
    HelloPacket.verifyMac_made p hello hmadeH rfl hsameH
  have hzid := HelloPacket.getZID_made p hello hmadeH hsameH
  rcases hread.responder with ⟨secrets, hsecrets, hkeyable⟩
  rw [← h.responderDrawn.unstored.resolve_left hover] at hsecrets
  rcases calculateDerivatives_of_keyable C .responder secrets hkeyable with ⟨ids, hids⟩
  simp only [ZRTPResponderSocket.handleCommit, hcopy, hhello, Java.orNull, Java.ok_bind, hzid,
    hsecrets, hids, ht, hhash, hmac]
  exact ⟨_, rfl⟩

/-- A DHPart2 is the one that was committed to. -/
theorem responder_handleDH (h : Running C cfgI cfgR databaseI databaseR n)
    (hc : Compatible C cfgI cfgR databaseI databaseR) (hstate : n.responder.state = .expectingDh2)
    {q : HandshakePacket} {k : Nat} (hq : Sendable q) (hmem : (q.wire k).data ∈ n.initiator.sent)
    (htype : q.getType = .ok DHPacket.TYPE_TWO) (hcopy : packet.copyOf = .ok (q.wire k)) :
    ∃ s', ZRTPResponderSocket.handleDH C cfgR c packet { n.responder with buf := buf }
      = .ok s' := by
  have htwo : 2 ≤ ZRTPResponderSocket.stage n.responder.state := by
    rw [hstate]
    exact Nat.le_refl 2
  rcases h.responderHeld.dh htwo with ⟨dR, hdR⟩
  rcases h.responder_commits dR hdR with ⟨copy, commit, dI, secrets, ids, hcopyC, hcommit, hsameC,
    hdI, hsecrets, ht, hcommitting⟩
  rcases h.responder_copy (by omega) with ⟨p, hello, _, hhello, hmadeH, hsameH⟩
  rcases h.initiator_commits dI hdI with ⟨foreign, commit', _, idsI, helloBytes, dhBytes, hforeign,
    hbytes, hcommit', _, _, hdhBytes, hcommittingI, hmadeC⟩
  rw [hcommit, Option.some.injEq] at hcommit'
  subst hcommit'
  -- The DHPart2 is the one the Commit was made for.
  rcases h.carried_of_initiator hq hmem htype with ⟨sent, hp, hptype, hsame⟩
  obtain rfl : dI.packet = sent := by
    rcases ZRTPInitiatorSocket.made_cases h.paired.initiator sent hp with
      ⟨_, hread⟩ | ⟨_, hread⟩ | ⟨d, hd, hdp, _⟩ | hread
    · exact absurd (Except.ok.inj (hread.symm.trans hptype)) (by decide +kernel)
    · exact absurd (Except.ok.inj (hread.symm.trans hptype)) (by decide +kernel)
    · rw [hdI, Option.some.injEq] at hd
      rw [hd, hdp]
    · exact absurd (Except.ok.inj (hread.symm.trans hptype)) (by decide +kernel)
  have hmadeI := hcommittingI.made
  have hhash := DHPacket.getHash_made dI ⟨q.wire k, cfgR.version.agreementType⟩ hmadeI hsame
  have hpvr := DHPacket.getPvr_made dI ⟨q.wire k, cfgR.version.agreementType⟩ hmadeI hsame rfl
  have hrs1 := DHPacket.getDerivativeSecretOne_made dI ⟨q.wire k, cfgR.version.agreementType⟩
    hmadeI hsame
  have hrs2 := DHPacket.getDerivativeSecretTwo_made dI ⟨q.wire k, cfgR.version.agreementType⟩
    hmadeI hsame
  have hmac : CommitPacket.verifyMac C (cfgI.hashChain C).h1 copy = .ok () :=
    CommitPacket.verifyMac_made commit copy hmadeC rfl hsameC
  have hcountR := cfgR.version.keyAgreements_count
  have hlen := cfgR.version.agreementType.dhLength_eq
  have hpvrLength := cfgR.version.agreementType.pvrLength_le
  have hheaderR := h.responder_hello.header
  -- Both have the same texts of the Hello and of the DHPart2.
  have hown : n.responder.role.localHello.getMessageBytes = .ok helloBytes := by
    rw [← hbytes]
    exact (getMessageBytes_copy _ foreign hheaderR (by omega) (by omega)
      (h.paired.responderHello foreign hforeign)).symm
  have hdh : (q.wire k).getMessageBytes = .ok dhBytes := by
    rw [← hdhBytes]
    exact getMessageBytes_copy _ _ hmadeI.header (by omega) (by omega) hsame
  have hbytesC := hmadeC.header.getMessageBytes_eq (by decide) (by decide)
  rw [← getMessageBytes_copy commit copy hmadeC.header (by decide) (by decide) hsameC] at hbytesC
  have hbytesR := hcommitting.made.header.getMessageBytes_eq (by omega) (by omega)
  have hhvi := CommitPacket.verifyHvi_made commit copy hmadeC hsameC
  rcases hc.accepts with ⟨result, hresult⟩
  rw [SecretCalculator.calculateKeyAgreement_comm C _ _ hc.commute] at hresult
  rcases exists_getS1 C .responder secrets hcommitting.keyable (some (idsI.rs1ID.getD
    cfgI.random.rs1)) (some (idsI.rs2ID.getD cfgI.random.rs2)) with ⟨s1, hs1⟩
  have hzidi := HelloPacket.getZID_made p hello hmadeH hsameH
  have hzidr := HelloPacket.getZID_made _ _ h.responder_hello (.refl _)
  rcases isLegacyConfirmConnection_made p hello hmadeH hsameH with ⟨legacyConfirm, hlegacy⟩
  rw [hcopyC] at ht
  simp only [ZRTPResponderSocket.handleDH, hcopyC, ht, hhello, hsecrets, hdR, Java.orNull,
    Java.ok_bind, DHPacket.copyOf, hcopy, hhash, hmac, hown, hdh, hhvi, hpvr, hresult,
    SecretCalculator.calculateTotalHash, hbytesC, hbytesR, hrs1, hrs2, hs1, hzidi, hzidr, hlegacy]
  exact ⟨_, rfl⟩

/-- A Confirm2 is made under the keys it is checked with. -/
theorem responder_handleConfirmTwo (h : Running C cfgI cfgR databaseI databaseR n)
    (hc : Compatible C cfgI cfgR databaseI databaseR)
    (hstate : n.responder.state = .expectingConfirmTwo) {q : HandshakePacket} {k : Nat}
    (hq : Sealed C (ZRTPInitiatorSocket.confirmSeal C cfgI) n.initiator.masterSecret q)
    (htype : q.getType = .ok ConfirmPacket.TYPE_TWO) :
    ∃ s', ZRTPResponderSocket.handleConfirmTwo C cfgR c (n.responder.received (q.wire k).data)
      { n.responder with buf := n.responder.buf.receive (q.wire k).data } = .ok s' := by
  have hthree : 3 ≤ ZRTPResponderSocket.stage n.responder.state := by
    rw [hstate]
    exact Nat.le_refl 3
  rcases h.responderHeld.keyed hthree with ⟨ms, hms⟩
  rcases h.paired.responder.keyed ms hms with ⟨_, d, hd, haccepted⟩
  rcases hq.2 htype with ⟨mI, iv, legacy, hmI, hmade⟩
  have hsecret := h.masterSecret_eq hc mI ms hmI hms
  subst hsecret
  have hmade' : ConfirmPacket.Made C ConfirmPacket.TYPE_TWO mI.macI mI.zrtpKeyI
    (cfgI.hashChain C).h0 iv legacy q := hmade
  rcases confirm_accepted _ _ _ _ _ q hmade' k n.responder with ⟨buf', hconfirm⟩
  -- The copy of the DHPart2 is of the key agreement it was read with.
  rcases h.responderHeld.dh (by omega) with ⟨dR, hdR⟩
  rcases h.responder_commits dR hdR with ⟨_, _, dI, secrets, _, _, _, _, hdI, hsecrets, ht,
    hcommitting⟩
  rcases h.initiator_commits dI hdI with ⟨_, _, _, idsI, _, _, _, _, _, _, _, _, hcommittingI, _⟩
  rcases h.paired.initiatorDH d hd with ⟨dI', hdI', hsame⟩
  rw [hdI, Option.some.injEq] at hdI'
  subst hdI'
  rcases haccepted.copy with ⟨t, ht', hcopy⟩
  rw [ht, Except.ok.injEq] at ht'
  have hverify := DHPacket.verifyMac_made dI d hcommittingI.made rfl hsame
    ((DHPacket.agreementType_copyOf hcopy).trans ht'.symm)
  have hrs1 := DHPacket.getDerivativeSecretOne_made dI d hcommittingI.made hsame
  have hrs2 := DHPacket.getDerivativeSecretTwo_made dI d hcommittingI.made hsame
  rcases exists_getS1 C .responder secrets hcommitting.keyable (some (idsI.rs1ID.getD
    cfgI.random.rs1)) (some (idsI.rs2ID.getD cfgI.random.rs2)) with ⟨s1, hs1⟩
  rcases h.responder_copy (by omega) with ⟨p, hello, _, hhello, hmadeH, hsameH⟩
  have hzid := HelloPacket.getZID_made p hello hmadeH hsameH
  rcases isLegacyConfirmConnection_made p hello hmadeH hsameH with ⟨legacyConfirm, hlegacy⟩
  simp only [ZRTPResponderSocket.handleConfirmTwo, hhello, hlegacy, hms, hd, hsecrets, Java.orNull,
    Java.ok_bind, hconfirm.verified, hconfirm.decrypted, hconfirm.preimage, hverify,
    ZRTPSocket.sendFreshPacket_role, hrs1, hrs2, hasContinuity, hs1, hzid,
    ZRTPSocket.sendFreshPacket_buf, hconfirm.cacheTime]
  exact ⟨_, rfl⟩

end

/-! ## Any packet of the peer -/

theorem initiator_handles (h : Running C cfgI cfgR databaseI databaseR n)
    (hc : Compatible C cfgI cfgR databaseI databaseR) (c : Clock)
    (hread : Readable cfgI cfgR databaseI databaseR c.retrieve) {d : Bytes}
    (hmem : d ∈ n.responder.sent) :
    ∃ type, Accepted (ZRTPInitiatorSocket.handlers C cfgI) c n.initiator d type := by
  rcases h.responderSupplied.mails.sent d hmem with ⟨q, k, hq, rfl⟩
  rcases received_wire q hq.1 k n.initiator with ⟨hcrc, htype, hcopy⟩
  obtain ⟨type, hqtype⟩ : ∃ type, q.getType = .ok type := by
    rcases h.paired.responder.sends.sent _ hmem with ⟨p, hp, hcarries⟩
    have hsend := ZRTPResponderSocket.made_sendable h.paired.responder.hello
      h.paired.responder.committed p hp
    rw [← htype, (received_carried _ p n.initiator hcarries hsend).1]
    rcases ZRTPResponderSocket.made_cases h.paired.responder p hp with
      ⟨_, ht⟩ | ht | ⟨_, _, _, ht⟩ | ht | ⟨ht, _⟩ <;> exact ⟨_, ht⟩
  refine ⟨type, hcrc, htype.trans hqtype, ?_⟩
  -- Each state takes one type.
  suffices hstates : ∀ state, n.initiator.state = state → ∀ handle,
      ZRTPSocket.handler (ZRTPInitiatorSocket.handlers C cfgI) state type = some handle →
      ∃ s', handle c (n.initiator.received (q.wire k).data)
        { n.initiator with buf := n.initiator.buf.receive (q.wire k).data } = .ok s' by
    exact hstates n.initiator.state rfl
  intro state hstate
  cases state with
  | expectingHello =>
      simp only [ZRTPSocket.handler, ZRTPSocket.forall_handler_of_type]
      intro _
      simp only [ZRTPInitiatorSocket.handlers, ZRTPInitiatorSocket.handleHello, hcopy, Java.ok_bind]
      exact ⟨_, rfl⟩
  | expectingHelloAck =>
      simp only [ZRTPSocket.handler, ZRTPSocket.forall_handler_of_type]
      exact fun _ => h.initiator_handleHelloAck hread hstate (n.initiator.received (q.wire k).data)
  | expectingDh1 =>
      simp only [ZRTPSocket.handler, ZRTPSocket.forall_handler_of_type]
      exact fun ht => h.initiator_handleDH hc hstate hq.1 hmem (ht ▸ hqtype) hcopy
  | expectingConfirmOne =>
      simp only [ZRTPSocket.handler, ZRTPSocket.forall_handler_of_type]
      exact fun ht => h.initiator_handleConfirmOne hc hstate hq (ht ▸ hqtype)
  | expectingConfirmAck =>
      simp only [ZRTPSocket.handler, ZRTPSocket.forall_handler_of_type]
      exact fun _ => h.initiator_handleConfirmAck hstate (n.initiator.received (q.wire k).data)
  | expectingCommit => exact absurd hstate h.paired.initiator.states.1
  | expectingDh2 => exact absurd hstate h.paired.initiator.states.2.1
  | expectingConfirmTwo => exact absurd hstate h.paired.initiator.states.2.2
  | handshakeComplete => simp only [ZRTPSocket.handler, reduceCtorEq, false_imp_iff, implies_true]
  | terminated => simp only [ZRTPSocket.handler, reduceCtorEq, false_imp_iff, implies_true]

theorem responder_handles (h : Running C cfgI cfgR databaseI databaseR n)
    (hc : Compatible C cfgI cfgR databaseI databaseR) (c : Clock)
    (hread : Readable cfgI cfgR databaseI databaseR c.retrieve) {d : Bytes}
    (hmem : d ∈ n.initiator.sent) :
    ∃ type, Accepted (ZRTPResponderSocket.handlers C cfgR) c n.responder d type := by
  rcases h.initiatorSupplied.mails.sent d hmem with ⟨q, k, hq, rfl⟩
  rcases received_wire q hq.1 k n.responder with ⟨hcrc, htype, hcopy⟩
  obtain ⟨type, hqtype⟩ : ∃ type, q.getType = .ok type := by
    rcases h.paired.initiator.sends.sent _ hmem with ⟨p, hp, hcarries⟩
    have hsend := ZRTPInitiatorSocket.made_sendable h.paired.initiator.hello
      h.paired.initiator.committed h.paired.initiator.commit p hp
    rw [← htype, (received_carried _ p n.responder hcarries hsend).1]
    rcases ZRTPInitiatorSocket.made_cases h.paired.initiator p hp with
      ⟨_, ht⟩ | ⟨_, ht⟩ | ⟨_, _, _, ht⟩ | ht <;> exact ⟨_, ht⟩
  refine ⟨type, hcrc, htype.trans hqtype, ?_⟩
  suffices hstates : ∀ state, n.responder.state = state → ∀ handle,
      ZRTPSocket.handler (ZRTPResponderSocket.handlers C cfgR) state type = some handle →
      ∃ s', handle c (n.responder.received (q.wire k).data)
        { n.responder with buf := n.responder.buf.receive (q.wire k).data } = .ok s' by
    exact hstates n.responder.state rfl
  intro state hstate
  cases state with
  | expectingHello =>
      simp only [ZRTPSocket.handler, ZRTPSocket.forall_handler_of_type]
      intro _
      simp only [ZRTPResponderSocket.handlers, ZRTPResponderSocket.handleHello, hcopy, Java.ok_bind]
      exact ⟨_, rfl⟩
  | expectingCommit =>
      simp only [ZRTPSocket.handler, ZRTPSocket.forall_handler_of_type]
      exact fun ht => h.responder_handleCommit hread hstate hq.1 hmem (ht ▸ hqtype) hcopy
  | expectingDh2 =>
      simp only [ZRTPSocket.handler, ZRTPSocket.forall_handler_of_type]
      exact fun ht => h.responder_handleDH hc hstate hq.1 hmem (ht ▸ hqtype) hcopy
  | expectingConfirmTwo =>
      simp only [ZRTPSocket.handler, ZRTPSocket.forall_handler_of_type]
      exact fun ht => h.responder_handleConfirmTwo hc hstate hq (ht ▸ hqtype)
  | expectingHelloAck => exact absurd hstate h.responderHeld.states.1
  | expectingDh1 => exact absurd hstate h.paired.responder.states
  | expectingConfirmOne => exact absurd hstate h.responderHeld.states.2.1
  | expectingConfirmAck => exact absurd hstate h.responderHeld.states.2.2
  | handshakeComplete => simp only [ZRTPSocket.handler, reduceCtorEq, false_imp_iff, implies_true]
  | terminated => simp only [ZRTPSocket.handler, reduceCtorEq, false_imp_iff, implies_true]

end Running

/-! ## What can go wrong -/

/-- The negotiation is given up: an answer is due once more, and has been
    waited for too often. -/
structure GivenUp {ρ : Type} (c : Clock) (s : ZRTPSocket ρ) (e : JavaException) : Prop where
  due : s.isRetransmitTime c.timeoutCheck = true
  count : s.retransmitCount > MAX_RETRANSMIT_COUNT
  thrown : e = if s.lastPacket = none then .recipientUnavailable "Recipient unavailable."
    else .negotiationFailed "Retransmit threshold reached."

theorem givenUp_of_resend {ρ : Type} {c : Clock} {s : ZRTPSocket ρ} {e : JavaException}
    (h : s.resendPacketIfTimeout c = .error e) : GivenUp c s e := by
  unfold ZRTPSocket.resendPacketIfTimeout ZRTPSocket.resendPacket at h
  by_cases hdue : s.isRetransmitTime c.timeoutCheck = true
  · rw [if_pos hdue] at h
    by_cases hcount : s.retransmitCount > MAX_RETRANSMIT_COUNT
    · rw [if_pos hcount] at h
      refine ⟨hdue, hcount, ?_⟩
      cases hlast : s.lastPacket with
      | none =>
          rw [hlast] at h
          exact (Except.error.inj h).symm
      | some p =>
          rw [hlast] at h
          exact (Except.error.inj h).symm
    · rw [if_neg hcount] at h
      simp only [reduceCtorEq] at h
  · rw [if_neg hdue] at h
    simp only [reduceCtorEq] at h

/-- What a resend throws is not caught. -/
theorem negotiated_resendPacketIfTimeout {ρ : Type} (c : Clock) (s : ZRTPSocket ρ) :
    ZRTPSocket.negotiated (s.resendPacketIfTimeout c) = s.resendPacketIfTimeout c := by
  unfold ZRTPSocket.resendPacketIfTimeout
  by_cases hdue : s.isRetransmitTime c.timeoutCheck = true
  · rw [if_pos hdue, ZRTPSocket.negotiated_resendPacket]
  · rw [if_neg hdue]
    rfl

/-- What a socket throws that has handed every datagram to a handler that
    accepts it. -/
theorem failure_of_accepted {ρ : Type} (h : Handlers ρ) (s : ZRTPSocket ρ) (i : Input)
    (haccepted : ∀ d, i.event = .datagram d → ∃ type, Accepted h i.clock s d type)
    (e : JavaException) (hstep : s.negotiate h i = .error e) :
    ¬ s.Over ∧ ((∃ message, i.event = .ioException message ∧ e = .negotiationFailed message) ∨
      GivenUp i.clock s e) := by
  rcases i with ⟨event, c⟩
  have hover : ¬ s.Over := by
    intro hover
    cases event <;> simp only [ZRTPSocket.negotiate, if_pos hover, reduceCtorEq] at hstep
  refine ⟨hover, ?_⟩
  cases event with
  | close => simp only [ZRTPSocket.negotiate, reduceCtorEq] at hstep
  | ioException message =>
      simp only [ZRTPSocket.negotiate, if_neg hover, Except.error.injEq] at hstep
      exact Or.inl ⟨message, rfl, hstep.symm⟩
  | timeout =>
      simp only [ZRTPSocket.negotiate, if_neg hover] at hstep
      exact Or.inr (givenUp_of_resend hstep)
  | datagram d =>
      rcases haccepted d rfl with ⟨type, hcrc, htype, hhandled⟩
      have hchecked : s.checked d = some true := by
        unfold ZRTPSocket.checked
        rw [hcrc]
        exact ite_self _
      rw [ZRTPSocket.negotiate_checked h hover hchecked, if_pos rfl, ZRTPSocket.dispatch_eq htype]
        at hstep
      -- Where the type has a handler it accepts, and where it has none the
      -- socket may only send again.
      cases hhandler : ZRTPSocket.handler h s.state type with
      | some handle =>
          rcases hhandled handle hhandler with ⟨s', hrun⟩
          simp only [hhandler, hrun, ZRTPSocket.negotiated, reduceCtorEq] at hstep
      | none =>
          simp only [hhandler, negotiated_resendPacketIfTimeout] at hstep
          rcases givenUp_of_resend hstep with ⟨hdue, hcount, hthrown⟩
          exact Or.inr ⟨hdue, hcount, hthrown⟩

/-- Between two honest parties whose keys and caches fit, over a network that
    loses, duplicates, reorders and delays, an iteration that can read the
    caches throws only the error of the socket below, or because an answer is
    due that has been waited for too often: no packet of the peer is ever found
    invalid. -/
theorem honest_failures (C : Crypto) (cfgI cfgR : Config)
    (databaseI databaseR : RetainedSecretsDatabase) (legacy : Bool) (now : Int) (n : Network)
    (hreach : Network.Reaches C cfgI cfgR Honest
      (Network.start C cfgR databaseI databaseR legacy now) n)
    (hc : Compatible C cfgI cfgR databaseI databaseR) (i : Input)
    (hread : Readable cfgI cfgR databaseI databaseR i.clock.retrieve) (e : JavaException) :
    (Network.Allowed (Honest.toInitiator n) i.event →
      ZRTPInitiatorSocket.step C cfgI n.initiator i = .error e →
      ¬ n.initiator.Over ∧ ((∃ message, i.event = .ioException message ∧
        e = .negotiationFailed message) ∨ GivenUp i.clock n.initiator e)) ∧
    (Network.Allowed (Honest.toResponder n) i.event →
      ZRTPResponderSocket.step C cfgR n.responder i = .error e →
      ¬ n.responder.Over ∧ ((∃ message, i.event = .ioException message ∧
        e = .negotiationFailed message) ∨ GivenUp i.clock n.responder e)) := by
  have h : Running C cfgI cfgR databaseI databaseR n := running_of_reaches legacy now hreach
  constructor
  · intro hallowed hstep
    refine failure_of_accepted _ n.initiator i (fun d hd => ?_) e hstep
    exact h.initiator_handles hc i.clock hread (hallowed.2 d hd)
  · intro hallowed hstep
    refine failure_of_accepted _ n.responder i (fun d hd => ?_) e hstep
    exact h.responder_handles hc i.clock hread (hallowed.2 d hd)

end

/-- Two parties that have never called each other can agree. -/
theorem compatible_strangers : Compatible jce caller callee .empty .empty where
  commute := commute
  accepts := (ready 0).accepts
  noCollision := by
    intro now now' a b ha hb
    rw [← Except.ok.inj ((ready now).readI.symm.trans ha),
      ← Except.ok.inj ((ready now').readR.symm.trans hb)]
    exact (ready 0).noCollision

theorem readable_strangers (now : Int) : Readable caller callee .empty .empty now :=
  ⟨⟨_, (ready now).readI, (ready now).keyableI⟩, ⟨_, (ready now).readR, (ready now).keyableR⟩⟩

/-! ## A peer that has fallen silent -/

/-- Where the time for a retransmission has come, a timeout makes one. -/
theorem negotiate_due {ρ : Type} (h : Handlers ρ) (s : ZRTPSocket ρ) (hover : ¬ s.Over) :
    s.negotiate h ⟨.timeout, ⟨s.transmitStartTime + s.retransmitInterval, 0, 0, 0, 0⟩⟩
      = s.resendPacket 0 := by
  have hdue : s.isRetransmitTime (s.transmitStartTime + s.retransmitInterval) = true := by
    unfold ZRTPSocket.isRetransmitTime
    rw [decide_eq_true_eq]
    omega
  simp only [ZRTPSocket.negotiate, if_neg hover, ZRTPSocket.resendPacketIfTimeout, hdue, if_true]

/-- A party that hears nothing more sends again for a while, stays where it is
    and in the end gives up. -/
theorem gives_up {ρ : Type} (h : Handlers ρ) (s : ZRTPSocket ρ) (hover : ¬ s.Over) :
    ∃ s', Relation.ReflTransGen (fun a b => ∃ c, a.negotiate h ⟨.timeout, c⟩ = .ok b) s s' ∧
      s'.state = s.state ∧ ∃ c e, s'.negotiate h ⟨.timeout, c⟩ = .error e := by
  -- By induction on the attempts that are left.
  induction hleft : MAX_RETRANSMIT_COUNT + 1 - s.retransmitCount generalizing s with
  | zero =>
      have hcount : s.retransmitCount > MAX_RETRANSMIT_COUNT := by omega
      obtain ⟨e, he⟩ : ∃ e, s.resendPacket 0 = .error e := by
        unfold ZRTPSocket.resendPacket
        rw [if_pos hcount]
        cases s.lastPacket with
        | none => exact ⟨_, rfl⟩
        | some p => exact ⟨_, rfl⟩
      exact ⟨s, .refl, rfl, _, e, (negotiate_due h s hover).trans he⟩
  | succ left ih =>
      have hcount : ¬ s.retransmitCount > MAX_RETRANSMIT_COUNT := by omega
      obtain ⟨t, ht, hmore⟩ : ∃ t, s.resendPacket 0 = .ok t ∧
          t.retransmitCount = s.retransmitCount + 1 := by
        unfold ZRTPSocket.resendPacket
        rw [if_neg hcount]
        refine ⟨_, rfl, ?_⟩
        cases s.lastPacket with
        | none => rfl
        | some p => rfl
      have hstate : t.state = s.state := (ZRTPSocket.resendPacket_idle 0 s t ht).2.1
      have hover' : ¬ t.Over := by
        unfold ZRTPSocket.Over
        rw [hstate]
        exact hover
      rcases ih t hover' (by omega) with ⟨s', hreach, hstate', herror⟩
      exact ⟨s', .head ⟨_, (negotiate_due h s hover).trans ht⟩ hreach, hstate'.trans hstate, herror⟩

/-- Six packets are delivered, and then none any more: the initiator sends its
    DHPart2 again until it has sent it too often. -/
theorem reaches_unanswered : ∃ n, Network.Reaches jce caller callee Honest
      (Network.start jce callee .empty .empty false 0) n ∧
    n.initiator.state = .expectingConfirmOne ∧ n.responder.state = .expectingConfirmTwo ∧
    ∃ c e, ZRTPInitiatorSocket.step jce caller n.initiator ⟨.timeout, c⟩ = .error e := by
  rcases reaches_confirmOne (c := ⟨0, 0, 0, 0, 0⟩) (ready 0) false 0 with
    ⟨n, m, _, _, hreach, hawaits⟩
  rcases gives_up (ZRTPInitiatorSocket.handlers jce caller) n.initiator
    (hawaits.initiator.not_over (by decide)) with ⟨s, hsilent, hstate, c, e, hstep⟩
  refine ⟨{ n with initiator := s }, hreach.trans ?_, hstate.trans hawaits.initiator.state_eq,
    hawaits.responder.state_eq, c, e, hstep⟩
  -- Each attempt is a step of the network that delivers nothing.
  refine Relation.ReflTransGen.lift (fun s => { n with initiator := s }) (fun a b hab => ?_)
    n.initiator s hsilent
  rcases hab with ⟨c, hab⟩
  exact .initiator { n with initiator := a } ⟨.timeout, c⟩ b
    ⟨fun h => Event.noConfusion h, fun _ h => Event.noConfusion h⟩ hab

/-- The next attempt throws because the limit is reached. -/
theorem honest_failures_unanswered : ∃ n c e,
    Network.Reaches jce caller callee Honest
      (Network.start jce callee .empty .empty false 0) n ∧
    n.initiator.state = .expectingConfirmOne ∧ n.responder.state = .expectingConfirmTwo ∧
    ZRTPInitiatorSocket.step jce caller n.initiator ⟨.timeout, c⟩ = .error e ∧
    GivenUp c n.initiator e := by
  rcases reaches_unanswered with ⟨n, hreach, hinitiator, hresponder, c, e, hstep⟩
  refine ⟨n, c, e, hreach, hinitiator, hresponder, hstep, ?_⟩
  rcases ((honest_failures jce caller callee .empty .empty false 0 n hreach compatible_strangers
    ⟨.timeout, c⟩ (readable_strangers c.retrieve) e).1
      ⟨fun h => Event.noConfusion h, fun _ h => Event.noConfusion h⟩ hstep).2 with
    ⟨message, hevent, _⟩ | hgivenUp
  · exact Event.noConfusion hevent
  · exact hgivenUp

end RedPhone
