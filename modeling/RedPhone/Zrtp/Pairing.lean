import RedPhone.Zrtp.ResponderState

/-!
# Copies of the Other's Packets

Everything that goes into a master secret is read from packets: from the
party's own, and from the copies it has of its peer's. `Paired` is the
invariant of two honest parties, over a network that may lose, duplicate,
reorder and delay what they send, that these are the same packets, but for
what sending them changes.

With the invariants of each party on its own this makes the inputs of the
derivation equal, one lemma for each input, and so the master secrets.

## Main definitions

* `KeyPairs.Commute`: The key agreement commutes on the keys of the two.
* `Paired`: Each party's copies are the other's packets.

## Theorems

* `calculateKeyAgreement_comm`: The agreement of two public values sent.
* `paired_step`, `paired_of_reaches`: The invariant.
* `agreementType_eq`, `totalHash_eq`, `s1_eq`: Inputs that are the same.
* `masterSecret_eq`: The master secrets of paired parties.
-/

namespace RedPhone

open HandshakePacket RetainedSecretsCalculator

/-- Diffie-Hellman commutes on these private keys, in both groups. -/
structure KeyPairs.Commute (C : Crypto) (a b : KeyPairs) : Prop where
  dh3k : C.dhAgree a.dh3k (C.dhPublic b.dh3k) = C.dhAgree b.dh3k (C.dhPublic a.dh3k)
  ec25 : C.ecAgree a.ec25 (C.ecPublic b.ec25) = C.ecAgree b.ec25 (C.ecPublic a.ec25)

namespace SecretCalculator

/-- A public value is read back out of its field. -/
theorem calculateKeyAgreement_publicKey (C : Crypto) (a b : KeyPairs) (t : AgreementType) :
    calculateKeyAgreement C a t (b.getPublicKey C t) = match t with
      | .dh3k => (C.dhAgree a.dh3k (C.dhPublic b.dh3k)).mapError .unchecked
      | .ec25 => (C.ecAgree a.ec25 (C.ecPublic b.ec25)).mapError .unchecked := by
  cases t with
  | dh3k =>
      simp only [calculateKeyAgreement, KeyPairs.getPublicKey]
      rw [Endian.ofBE_toBE, Nat.mod_eq_of_lt (C.dhPublic_lt b.dh3k)]
  | ec25 =>
      rcases C.ecPublic_lt b.ec25 with ⟨hx, hy⟩
      -- The point is written as two numbers of 32 bytes.
      have hreadx : Java.arraycopy (b.getPublicKey C .ec25) 0 32
          = .ok (Endian.toBE 32 (C.ecPublic b.ec25).1) := by
        have h := Java.arraycopy_left (Endian.toBE 32 (C.ecPublic b.ec25).1)
          (Endian.toBE 32 (C.ecPublic b.ec25).2)
        rw [Endian.length_toBE] at h
        exact h
      have hready : Java.arraycopy (b.getPublicKey C .ec25) 32 32
          = .ok (Endian.toBE 32 (C.ecPublic b.ec25).2) := by
        have h := Java.arraycopy_right (Endian.toBE 32 (C.ecPublic b.ec25).1)
          (Endian.toBE 32 (C.ecPublic b.ec25).2)
        rw [Endian.length_toBE, Endian.length_toBE] at h
        exact h
      simp only [calculateKeyAgreement]
      rw [hreadx, hready, Java.ok_bind, Java.ok_bind, Endian.ofBE_toBE, Endian.ofBE_toBE,
        Nat.mod_eq_of_lt hx, Nat.mod_eq_of_lt hy]

/-- Each party's agreement with the public value the other sends. -/
theorem calculateKeyAgreement_comm (C : Crypto) (a b : KeyPairs) (h : a.Commute C b)
    (t : AgreementType) :
    calculateKeyAgreement C a t (b.getPublicKey C t)
      = calculateKeyAgreement C b t (a.getPublicKey C t) := by
  rw [calculateKeyAgreement_publicKey, calculateKeyAgreement_publicKey]
  cases t with
  | dh3k =>
      simp only []
      rw [h.dh3k]
  | ec25 =>
      simp only []
      rw [h.ec25]

end SecretCalculator

/-- The message of a packet is that of its copy. -/
theorem getMessageBytes_copy {type : Bytes} {length : Nat} {legacy : Bool} (p q : HandshakePacket)
    (hp : HasHeader type length legacy p) (hlen : 12 ≤ length) (hshort : length < 32768)
    (h : SameMessage p q) : q.getMessageBytes = p.getMessageBytes := by
  have hdata := hp.data_length
  have hbytes := hp.getMessageBytes_eq hlen hshort
  rw [hbytes]
  refine SameMessage.getMessageBytes_eq p q h (hp.whole hlen) _ hbytes ?_
  rw [Slice.length_slice _ _ _ (by omega), hp.headerBugOffset_eq, hp.packetLength_eq]
  omega

/-- The invariant of two parties: each on its own, and that the copies one has
    are the packets of the other. -/
structure Paired (C : Crypto) (cfgI cfgR : Config) (n : Network) : Prop where
  initiator : ZRTPInitiatorSocket.Local C cfgI n.initiator
  responder : ZRTPResponderSocket.Local C cfgR n.responder
  responderHello : ∀ p, n.initiator.role.foreignHello = some p →
    SameMessage n.responder.role.localHello p
  responderDH : ∀ p, n.initiator.role.foreignDH = some p →
    ∃ d, n.responder.role.localDH = some d ∧ SameMessage d.packet p.packet
  initiatorHello : ∀ p, n.responder.role.foreignHello = some p →
    ∃ q, n.initiator.role.localHello = some q ∧ SameMessage q p
  commit : ∀ p, n.responder.role.foreignCommit = some p →
    ∃ q, n.initiator.role.commitPacket = some q ∧ SameMessage q p
  initiatorDH : ∀ p, n.responder.role.foreignDH = some p →
    ∃ d, n.initiator.role.localDH = some d ∧ SameMessage d.packet p.packet

section

variable {C : Crypto} {cfgI cfgR : Config} {n n' : Network}

/-- A datagram of the responder is a packet it has made, of the type read. -/
theorem Paired.fromResponder (h : Paired C cfgI cfgR n) (d : Bytes) (hd : d ∈ n.responder.sent)
    (type : Bytes) (htype : (n.initiator.received d).getType = .ok type) :
    ∃ p, n.responder.Made p ∧ p.getType = .ok type ∧ SameMessage p (ZRTPSocket.ofDatagram d) := by
  rcases h.responder.sends.sent d hd with ⟨p, hp, hcarries⟩
  have hsend := ZRTPResponderSocket.made_sendable h.responder.hello h.responder.committed p hp
  rw [(received_carried d p n.initiator hcarries hsend).1] at htype
  exact ⟨p, hp, htype, hcarries⟩

/-- A datagram of the initiator is a packet it has made, of the type read. -/
theorem Paired.fromInitiator (h : Paired C cfgI cfgR n) (d : Bytes) (hd : d ∈ n.initiator.sent)
    (type : Bytes) (htype : (n.responder.received d).getType = .ok type) :
    ∃ p, n.initiator.Made p ∧ p.getType = .ok type ∧ SameMessage p (ZRTPSocket.ofDatagram d) := by
  rcases h.initiator.sends.sent d hd with ⟨p, hp, hcarries⟩
  have hsend := ZRTPInitiatorSocket.made_sendable h.initiator.hello h.initiator.committed
    h.initiator.commit p hp
  rw [(received_carried d p n.responder hcarries hsend).1] at htype
  exact ⟨p, hp, htype, hcarries⟩

theorem paired_start (databaseI databaseR : RetainedSecretsDatabase) (legacy : Bool) (now : Int) :
    Paired C cfgI cfgR (Network.start C cfgR databaseI databaseR legacy now) where
  initiator := ZRTPInitiatorSocket.local_create databaseI
  responder := ZRTPResponderSocket.local_start databaseR legacy now
  responderHello := nofun
  responderDH := fun _ hp => nomatch hp
  initiatorHello := nofun
  commit := nofun
  initiatorDH := fun _ hp => nomatch hp

/-- A step of either party keeps the copies paired. -/
theorem paired_step (h : Paired C cfgI cfgR n) (hstep : Network.Step C cfgI cfgR Honest n n') :
    Paired C cfgI cfgR n' := by
  cases hstep with
  | initiator i s hallowed hstep =>
      rcases ZRTPInitiatorSocket.local_step h.initiator i hstep with ⟨hlocal, hgrows, htakes⟩
      refine
        { initiator := hlocal, responder := h.responder, responderHello := ?_, responderDH := ?_,
          initiatorHello := ?_, commit := ?_, initiatorDH := ?_ }
      · intro p hp
        -- What is taken from the network has the type of what the other party
        -- made.
        rcases htakes.foreignHello p hp with hold | ⟨d, hevent, htype, rfl⟩
        · exact h.responderHello p hold
        · rcases h.fromResponder d (hallowed.2 d hevent) _ htype with ⟨q, hq, hqtype, hsame⟩
          rcases ZRTPResponderSocket.made_cases h.responder q hq with
            ⟨rfl, _⟩ | ht | ⟨_, _, _, ht⟩ | ht | ⟨ht, _⟩
          · exact hsame
          all_goals exact absurd (Except.ok.inj (ht.symm.trans hqtype)) (by decide +kernel)
      · intro p hp
        rcases htakes.foreignDH p hp with hold | ⟨d, hevent, htype, hpacket⟩
        · exact h.responderDH p hold
        · rcases h.fromResponder d (hallowed.2 d hevent) _ htype with ⟨q, hq, hqtype, hsame⟩
          rw [hpacket]
          rcases ZRTPResponderSocket.made_cases h.responder q hq with
            ⟨_, ht⟩ | ht | ⟨dh, hdh, rfl, _⟩ | ht | ⟨ht, _⟩
          · exact absurd (Except.ok.inj (ht.symm.trans hqtype)) (by decide +kernel)
          · exact absurd (Except.ok.inj (ht.symm.trans hqtype)) (by decide +kernel)
          · exact ⟨dh, hdh, hsame⟩
          all_goals exact absurd (Except.ok.inj (ht.symm.trans hqtype)) (by decide +kernel)
      · intro p hp
        rcases h.initiatorHello p hp with ⟨q, hq, hsame⟩
        exact ⟨q, hgrows.localHello q hq, hsame⟩
      · intro p hp
        rcases h.commit p hp with ⟨q, hq, hsame⟩
        exact ⟨q, hgrows.commitPacket q hq, hsame⟩
      · intro p hp
        rcases h.initiatorDH p hp with ⟨q, hq, hsame⟩
        exact ⟨q, hgrows.localDH q hq, hsame⟩
  | responder i s hallowed hstep =>
      rcases ZRTPResponderSocket.local_step h.responder i hstep with ⟨hlocal, hgrows, htakes⟩
      refine
        { initiator := h.initiator, responder := hlocal, responderHello := ?_, responderDH := ?_,
          initiatorHello := ?_, commit := ?_, initiatorDH := ?_ }
      · intro p hp
        have hsame := h.responderHello p hp
        rw [← hgrows.localHello] at hsame
        exact hsame
      · intro p hp
        rcases h.responderDH p hp with ⟨q, hq, hsame⟩
        exact ⟨q, hgrows.localDH q hq, hsame⟩
      · intro p hp
        rcases htakes.foreignHello p hp with hold | ⟨d, hevent, htype, rfl⟩
        · exact h.initiatorHello p hold
        · rcases h.fromInitiator d (hallowed.2 d hevent) _ htype with ⟨q, hq, hqtype, hsame⟩
          rcases ZRTPInitiatorSocket.made_cases h.initiator q hq with
            ⟨hlocalHello, _⟩ | ⟨_, ht⟩ | ⟨_, _, _, ht⟩ | ht
          · exact ⟨q, hlocalHello, hsame⟩
          all_goals exact absurd (Except.ok.inj (ht.symm.trans hqtype)) (by decide +kernel)
      · intro p hp
        rcases htakes.foreignCommit p hp with hold | ⟨d, hevent, htype, rfl⟩
        · exact h.commit p hold
        · rcases h.fromInitiator d (hallowed.2 d hevent) _ htype with ⟨q, hq, hqtype, hsame⟩
          rcases ZRTPInitiatorSocket.made_cases h.initiator q hq with
            ⟨_, ht⟩ | ⟨hcommit, _⟩ | ⟨_, _, _, ht⟩ | ht
          · exact absurd (Except.ok.inj (ht.symm.trans hqtype)) (by decide +kernel)
          · exact ⟨q, hcommit, hsame⟩
          all_goals exact absurd (Except.ok.inj (ht.symm.trans hqtype)) (by decide +kernel)
      · intro p hp
        rcases htakes.foreignDH p hp with hold | ⟨d, hevent, htype, hpacket⟩
        · exact h.initiatorDH p hold
        · rcases h.fromInitiator d (hallowed.2 d hevent) _ htype with ⟨q, hq, hqtype, hsame⟩
          rw [hpacket]
          rcases ZRTPInitiatorSocket.made_cases h.initiator q hq with
            ⟨_, ht⟩ | ⟨_, ht⟩ | ⟨dh, hdh, rfl, _⟩ | ht
          · exact absurd (Except.ok.inj (ht.symm.trans hqtype)) (by decide +kernel)
          · exact absurd (Except.ok.inj (ht.symm.trans hqtype)) (by decide +kernel)
          · exact ⟨dh, hdh, hsame⟩
          · exact absurd (Except.ok.inj (ht.symm.trans hqtype)) (by decide +kernel)

theorem paired_of_reaches (databaseI databaseR : RetainedSecretsDatabase) (legacy : Bool)
    (now : Int) (hreach : Network.Reaches C cfgI cfgR Honest
      (Network.start C cfgR databaseI databaseR legacy now) n) : Paired C cfgI cfgR n := by
  induction hreach with
  | refl => exact paired_start databaseI databaseR legacy now
  | tail _ hstep ih => exact paired_step ih hstep

/-! ## The inputs of the derivation -/

/-- The key agreement a Commit names is read back by its receiver. -/
theorem getKeyAgreementType_copy {chain : HashChain} {hello dh zid : Bytes} {t : AgreementType}
    {legacy : Bool} (p q : HandshakePacket) (hp : CommitPacket.Made C chain hello dh zid t legacy p)
    (h : SameMessage p q) : ZRTPResponderSocket.getKeyAgreementType (some q) = .ok t := by
  rw [ZRTPResponderSocket.getKeyAgreementType, CommitPacket.getKeyAgreementType_made p q hp h,
    Java.ok_bind]
  cases t with
  | dh3k => rw [if_neg (by decide +kernel)]
  | ec25 => rw [if_pos (by rfl)]

/-- Both parties use the same key agreement. -/
theorem Paired.agreementType_eq (h : Paired C cfgI cfgR n) (dI dR : DHPacket) (fdhR : DHPacket)
    (hdI : n.initiator.role.localDH = some dI) (hdR : n.responder.role.localDH = some dR)
    (hfdhR : n.responder.role.foreignDH = some fdhR) (packet : HandshakePacket)
    (masterSecret : MasterSecret)
    (haccepted : ZRTPResponderSocket.AcceptedDH C cfgR packet n.responder fdhR masterSecret) :
    dI.agreementType = dR.agreementType ∧ fdhR.agreementType = dR.agreementType := by
  rcases h.initiator.committed dI hdI with ⟨_, commit, _, _, t, _, _, _, _, hcommit, _, _, _,
    hmadeI, _, hcommitMade⟩
  rcases h.responder.committed dR hdR with ⟨_, _, t', _, _, ht', hmadeR⟩
  rcases haccepted.copy with ⟨t'', ht'', hcopy⟩
  simp only [DHPacket.copyOf, Java.bind_ok, Except.ok.injEq] at hcopy
  rcases hcopy with ⟨_, _, rfl⟩
  rcases haccepted.verified with ⟨foreignCommit, _, _, _, hforeign, _, _, _, _, _⟩
  rcases h.commit foreignCommit hforeign with ⟨c, hc, hsame⟩
  rw [hcommit, Option.some.injEq] at hc
  rw [← hc] at hsame
  have hread := getKeyAgreementType_copy commit foreignCommit hcommitMade hsame
  rw [hforeign, hread, Except.ok.injEq] at ht' ht''
  rw [hmadeI.agreementType, hmadeR.agreementType]
  exact ⟨ht', ht''.symm.trans ht'⟩

/-- The total hash of the packets one party has and of those the other has. -/
theorem totalHash_eq {lh lc l1 l2 : Nat} {th tc t1 t2 : Bytes} {bh bc b1 b2 : Bool}
    (hello commit hello' commit' : HandshakePacket) (one two one' two' : DHPacket)
    (hhello : HasHeader th lh bh hello) (hlh : 12 ≤ lh ∧ lh < 32768)
    (hcommit : HasHeader tc lc bc commit) (hlc : 12 ≤ lc ∧ lc < 32768)
    (hone : HasHeader t1 l1 b1 one.packet) (hl1 : 12 ≤ l1 ∧ l1 < 32768)
    (htwo : HasHeader t2 l2 b2 two.packet) (hl2 : 12 ≤ l2 ∧ l2 < 32768)
    (h1 : SameMessage hello hello') (h2 : SameMessage commit commit')
    (h3 : SameMessage one.packet one'.packet) (h4 : SameMessage two.packet two'.packet) :
    SecretCalculator.calculateTotalHash C hello' commit one' two
      = SecretCalculator.calculateTotalHash C hello commit' one two' := by
  unfold SecretCalculator.calculateTotalHash
  rw [getMessageBytes_copy hello hello' hhello hlh.1 hlh.2 h1,
    getMessageBytes_copy commit commit' hcommit hlc.1 hlc.2 h2,
    getMessageBytes_copy one.packet one'.packet hone hl1.1 hl1.2 h3,
    getMessageBytes_copy two.packet two'.packet htwo hl2.1 hl2.2 h4]

/-- Both sides settle on the same retained secret. -/
theorem s1_eq (a b : RetainedSecrets) (f : Fillers) (hnc : NoCollision C a b f)
    (s1I s1R : Option Bytes)
    (hI : getS1 C .initiator a (some (transmitted C .responder f.responder1 b.rs1))
      (some (transmitted C .responder f.responder2 b.rs2)) = .ok s1I)
    (hR : getS1 C .responder b (some (transmitted C .initiator f.initiator1 a.rs1))
      (some (transmitted C .initiator f.initiator2 a.rs2)) = .ok s1R) : s1I = s1R := by
  rw [((initiatorGetS1_ok C a b f hnc s1I).mp hI).2, ((responderGetS1_ok C a b f hnc s1R).mp hR).2]

/-- The fillers the two parties send for secrets they do not have. -/
def fillers (cfgI cfgR : Config) : Fillers :=
  ⟨cfgI.random.rs1, cfgI.random.rs2, cfgR.random.rs1, cfgR.random.rs2⟩

/-- The master secrets of two paired parties are the same. -/
theorem Paired.masterSecret_eq (h : Paired C cfgI cfgR n)
    (hcommute : cfgI.keys.Commute C cfgR.keys)
    (hnc : ∀ a b, n.initiator.role.retainedSecrets = some a →
      n.responder.role.retainedSecrets = some b → NoCollision C a b (fillers cfgI cfgR))
    (mI mR : MasterSecret) (hI : n.initiator.masterSecret = some mI)
    (hR : n.responder.masterSecret = some mR) : mI = mR := by
  rcases h.initiator.keyed mI hI with ⟨packetI, fdhI, hfdhI, acceptedI⟩
  rcases h.responder.keyed mR hR with ⟨packetR, fdhR, hfdhR, acceptedR⟩
  -- The copies each has, and what the other made them from.
  rcases h.responderDH fdhI hfdhI with ⟨dR, hdR, hsameDR⟩
  rcases h.initiatorDH fdhR hfdhR with ⟨dI, hdI, hsameDI⟩
  rcases h.initiator.committed dI hdI with ⟨helloI', commit, secretsI, idsI, t, _, _, hfhI', _,
    hcommit, hsecretsI, hidsI, htI, hmadeDI, _, hmadeC⟩
  rcases h.responder.committed dR hdR with ⟨secretsR, idsR, tR, hsecretsR, hidsR, _, hmadeDR⟩
  rcases h.agreementType_eq dI dR fdhR hdI hdR hfdhR packetR mR acceptedR with ⟨htype, htypeR⟩
  rw [hmadeDI.agreementType, hmadeDR.agreementType] at htype
  rw [hmadeDR.agreementType] at htypeR
  subst htype
  have htypeI : fdhI.agreementType = t := by
    rcases acceptedI.copy with ⟨t', ht', hcopy⟩
    simp only [DHPacket.copyOf, Java.bind_ok, Except.ok.injEq] at hcopy
    rcases hcopy with ⟨_, _, rfl⟩
    rw [htI, Except.ok.injEq] at ht'
    exact ht'.symm
  rcases acceptedI.derived with ⟨fhI, lhI, commitI, ldhI, secretsI', pvrI, dhI, totalI, rs1I, rs2I,
    s1I, zidiI, zidrI, hfhI, hlhI, hcommitI, hldhI, hsecretsI', hpvrI, hagreeI, htotalI, hrs1I,
    hrs2I, hs1I, hzidiI, hzidrI, rfl⟩
  rcases acceptedR.derived with ⟨fhR, commitR, ldhR, secretsR', pvrR, dhR, totalR, rs1R, rs2R, s1R,
    zidiR, zidrR, hfhR, hcommitR, hldhR, hsecretsR', hpvrR, hagreeR, htotalR, hrs1R, hrs2R, hs1R,
    hzidiR, hzidrR, rfl⟩
  rw [hcommit, Option.some.injEq] at hcommitI
  rw [hdI, Option.some.injEq] at hldhI
  rw [hdR, Option.some.injEq] at hldhR
  rw [hsecretsI, Option.some.injEq] at hsecretsI'
  rw [hsecretsR, Option.some.injEq] at hsecretsR'
  subst hcommitI hldhI hldhR hsecretsI' hsecretsR'
  rcases h.initiatorHello fhR hfhR with ⟨q, hq, hsameHI⟩
  rw [hlhI, Option.some.injEq] at hq
  subst hq
  have hsameHR := h.responderHello fhI hfhI
  rcases h.commit commitR hcommitR with ⟨c, hc, hsameC⟩
  rw [hcommit, Option.some.injEq] at hc
  subst hc
  have hmadeHI := cfgI.hello_made C n.initiator.role.includeLegacyHeaderBug
  rw [← h.initiator.hello lhI hlhI] at hmadeHI
  have hmadeHR := cfgR.hello_made C n.responder.role.includeLegacyHeaderBug
  rw [← h.responder.hello] at hmadeHR
  -- The identities.
  have hzidi : zidiI = zidiR := by
    rw [HelloPacket.getZID_made lhI lhI hmadeHI (.refl lhI), Except.ok.injEq] at hzidiI
    rw [HelloPacket.getZID_made lhI fhR hmadeHI hsameHI, Except.ok.injEq] at hzidiR
    exact hzidiI.symm.trans hzidiR
  have hzidr : zidrI = zidrR := by
    rw [HelloPacket.getZID_made _ fhI hmadeHR hsameHR, Except.ok.injEq] at hzidrI
    rw [HelloPacket.getZID_made _ _ hmadeHR (.refl _), Except.ok.injEq] at hzidrR
    exact hzidrI.symm.trans hzidrR
  -- The key agreement.
  have hdh : dhI = dhR := by
    rw [DHPacket.getPvr_made dR fdhI hmadeDR hsameDR htypeI, Except.ok.injEq] at hpvrI
    rw [DHPacket.getPvr_made dI fdhR hmadeDI hsameDI htypeR, Except.ok.injEq] at hpvrR
    rw [htypeI, ← hpvrI, SecretCalculator.calculateKeyAgreement_comm C _ _ hcommute] at hagreeI
    rw [htypeR, ← hpvrR, hagreeI, Except.ok.injEq] at hagreeR
    exact hagreeR
  -- The total hash.
  have htotal : totalI = totalR := by
    have hlen := t.dhLength_eq
    have hpvr := t.pvrLength_le
    have hcountR := cfgR.version.keyAgreements_count
    rw [totalHash_eq _ _ _ _ _ _ _ _ hmadeHR.header (by omega) hmadeC.header (by decide)
      hmadeDR.header (by omega) hmadeDI.header (by omega) hsameHR hsameC hsameDR hsameDI,
      htotalR, Except.ok.injEq] at htotalI
    exact htotalI.symm
  -- The retained secret.
  have hs1 : s1I = s1R := by
    rw [DHPacket.getDerivativeSecretOne_made dR fdhI hmadeDR hsameDR, Except.ok.injEq] at hrs1I
    rw [DHPacket.getDerivativeSecretTwo_made dR fdhI hmadeDR hsameDR, Except.ok.injEq] at hrs2I
    rw [DHPacket.getDerivativeSecretOne_made dI fdhR hmadeDI hsameDI, Except.ok.injEq] at hrs1R
    rw [DHPacket.getDerivativeSecretTwo_made dI fdhR hmadeDI hsameDI, Except.ok.injEq] at hrs2R
    rcases (calculateDerivatives_ok C _ _ _).mp hidsI with ⟨_, rfl⟩
    rcases (calculateDerivatives_ok C _ _ _).mp hidsR with ⟨_, rfl⟩
    simp only [transmitted_eq] at hrs1I hrs2I hrs1R hrs2R
    subst hrs1I hrs2I hrs1R hrs2R
    exact s1_eq secretsI secretsR (fillers cfgI cfgR) (hnc secretsI secretsR hsecretsI hsecretsR)
      s1I s1R hs1I hs1R
  rw [hzidi, hzidr, hdh, htotal, hs1]

end

end RedPhone
