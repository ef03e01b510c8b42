import RedPhone.Zrtp.CacheTime
import RedPhone.Zrtp.Honest

/-!
# What Honest Parties Store

Both parties of a handshake look for the secret in common in the ids of the
other's DHPart, and find the one their caches have in common. On it rest the
master secret, and the continuity a party stores with once it has completed.

A party that has not completed has stored nothing. One that has stored has
stored the secret of its master secret, for the identity in the Hello of its
peer.

## Main definitions

* `Finds`: What the ids in a DHPart show.
* `Looked`: The secrets two parties have looked up.
* `RestsOn`: A master secret derived of a retained one.
* `StoredAs`: A cache after the store that ends a handshake.

## Theorems

* `Running.initiator_finds`, `Running.responder_finds`: Both find the secret
  their caches have in common.
* `Running.initiator_restsOn`, `Running.responder_restsOn`: And derive of it.
* `Running.initiator_stores`, `Running.responder_stores`: What has been stored.
* `reaches_stored`: A handshake in which both store what was asked for.
-/

namespace RedPhone

open HandshakePacket RetainedSecretsCalculator RetainedSecretsDatabase

/-! ## What the parties find -/

/-- The ids in a DHPart show a party the secret in common. -/
def Finds (C : Crypto) (role : Role) (secrets : RetainedSecrets) (dh : DHPacket)
    (s1 : Option Bytes) : Prop :=
  ∀ rs1ID rs2ID, dh.getDerivativeSecretOne = .ok rs1ID → dh.getDerivativeSecretTwo = .ok rs2ID →
    getS1 C role secrets (some rs1ID) (some rs2ID) = .ok s1

section

variable {C : Crypto} {cfgI cfgR : Config} {databaseI databaseR : RetainedSecretsDatabase}
  {n : Network}

/-- The initiator finds the secret both caches have in the responder's DHPart. -/
theorem Running.initiator_finds (h : Running C cfgI cfgR databaseI databaseR n) {d : DHPacket}
    (hd : n.initiator.role.foreignDH = some d) {a b : RetainedSecrets}
    (ha : n.initiator.role.retainedSecrets = some a)
    (hb : n.responder.role.retainedSecrets = some b)
    (hnc : NoCollision C a b (fillers cfgI cfgR)) : Finds C .initiator a d (commonSecret a b) := by
  intro rs1ID rs2ID hrs1 hrs2
  rcases h.paired.responderDH d hd with ⟨dR, hdR, hsame⟩
  rcases h.responder_commits dR hdR with ⟨_, _, dI, b', ids, _, _, _, hdI, hb', _, hcommitting⟩
  rcases h.initiator_commits dI hdI with ⟨_, _, a', _, _, _, _, _, _, ha', _, _, hcommittingI, _⟩
  rw [ha, Option.some.injEq] at ha'
  rw [hb, Option.some.injEq] at hb'
  subst ha' hb'
  rw [DHPacket.getDerivativeSecretOne_made dR d hcommitting.made hsame, Except.ok.injEq] at hrs1
  rw [DHPacket.getDerivativeSecretTwo_made dR d hcommitting.made hsame, Except.ok.injEq] at hrs2
  rcases (calculateDerivatives_ok C _ _ _).mp hcommitting.ids_eq with ⟨_, rfl⟩
  simp only [transmitted_eq] at hrs1 hrs2
  subst hrs1 hrs2
  exact (initiatorGetS1_ok C a b (fillers cfgI cfgR) hnc _).mpr ⟨hcommittingI.keyable, rfl⟩

/-- And the responder in the initiator's, to which it has an answer. -/
theorem Running.responder_finds (h : Running C cfgI cfgR databaseI databaseR n) {d dR : DHPacket}
    (hd : n.responder.role.foreignDH = some d) (hdR : n.responder.role.localDH = some dR)
    {a b : RetainedSecrets} (ha : n.initiator.role.retainedSecrets = some a)
    (hb : n.responder.role.retainedSecrets = some b)
    (hnc : NoCollision C a b (fillers cfgI cfgR)) : Finds C .responder b d (commonSecret a b) := by
  intro rs1ID rs2ID hrs1 hrs2
  rcases h.paired.initiatorDH d hd with ⟨dI, hdI, hsame⟩
  rcases h.initiator_commits dI hdI with
    ⟨_, _, a', ids, _, _, _, _, _, ha', _, _, hcommitting, _⟩
  rcases h.responder_commits dR hdR with ⟨_, _, _, b', _, _, _, _, _, hb', _, hcommittingR⟩
  rw [ha, Option.some.injEq] at ha'
  rw [hb, Option.some.injEq] at hb'
  subst ha' hb'
  rw [DHPacket.getDerivativeSecretOne_made dI d hcommitting.made hsame, Except.ok.injEq] at hrs1
  rw [DHPacket.getDerivativeSecretTwo_made dI d hcommitting.made hsame, Except.ok.injEq] at hrs2
  -- What is in the packet are the digests of its secrets, and fillers for those
  -- it has not.
  rcases (calculateDerivatives_ok C _ _ _).mp hcommitting.ids_eq with ⟨_, rfl⟩
  simp only [transmitted_eq] at hrs1 hrs2
  subst hrs1 hrs2
  exact (responderGetS1_ok C a b (fillers cfgI cfgR) hnc _).mpr ⟨hcommittingR.keyable, rfl⟩

/-! ## What the parties store -/

/-- A cache after the store that ends a handshake. -/
def StoredAs (cfg : Config) (zid secret : Bytes) (continuity : Bool)
    (before after : RetainedSecretsDatabase) : Prop :=
  ∃ (cacheTime : UInt32) (readTime storeTime : Int),
    after = before.completeHandshake cfg.platform cfg.remoteNumber zid secret cacheTime.toNat
      continuity readTime storeTime

theorem Retains.storedAs {role : Role} {cfg : Config} {before after : RetainedSecretsDatabase}
    {m : MasterSecret} {secrets : RetainedSecrets} {hello : HandshakePacket} {d : DHPacket}
    (h : Retains C role cfg before m secrets hello d after) {zid : Bytes}
    (hzid : HelloPacket.getZID hello = .ok zid) {s1 : Option Bytes}
    (hs1 : Finds C role secrets d s1) : StoredAs cfg zid m.rs1 s1.isSome before after := by
  rcases h with ⟨zid', rs1ID, rs2ID, continuity, cacheTime, readTime, storeTime, hzid', hrs1, hrs2,
    hcontinuity, hlt, rfl⟩
  -- The identity is that of the Hello, and continuity that there is a common
  -- secret.
  rw [hzid, Except.ok.injEq] at hzid'
  unfold hasContinuity at hcontinuity
  rw [hs1 rs1ID rs2ID hrs1 hrs2, Java.ok_bind, Except.ok.injEq] at hcontinuity
  subst hzid' hcontinuity
  refine ⟨UInt32.ofNat cacheTime, readTime, storeTime, ?_⟩
  rw [UInt32.toNat_ofNat_of_lt' hlt]

/-- The secrets the two parties of a handshake have looked up. -/
structure Looked (n : Network) (a b : RetainedSecrets) : Prop where
  initiator : n.initiator.role.retainedSecrets = some a
  responder : n.responder.role.retainedSecrets = some b

theorem Looked.unique {a b a' b' : RetainedSecrets} (h : Looked n a b)
    (h' : Looked n a' b') : a' = a ∧ b' = b :=
  ⟨Option.some.inj (h'.initiator.symm.trans h.initiator),
    Option.some.inj (h'.responder.symm.trans h.responder)⟩

/-- A master secret that rests on a retained one, or on none. -/
def RestsOn (C : Crypto) (m : MasterSecret) (s1 : Option Bytes) : Prop :=
  ∃ dhResult totalHash zidi zidr, m = MasterSecret.create C
    (SecretCalculator.calculateSharedSecret C dhResult totalHash s1 zidi zidr) totalHash zidi zidr

theorem RestsOn.length_rs1 {m : MasterSecret} {s1 : Option Bytes} (h : RestsOn C m s1) :
    m.rs1.length = 32 := by
  rcases h with ⟨_, _, _, _, rfl⟩
  exact MasterSecret.length_calculateKDF C _ _ _ _ _ (by decide)

/-- An initiator with a master secret has it of the secret in common. -/
theorem Running.initiator_restsOn (h : Running C cfgI cfgR databaseI databaseR n)
    (hnc : ∀ a b, Looked n a b → NoCollision C a b (fillers cfgI cfgR)) {m : MasterSecret}
    (hm : n.initiator.masterSecret = some m) :
    ∃ a b d, Looked n a b ∧ n.initiator.role.foreignDH = some d ∧
      Finds C .initiator a d (commonSecret a b) ∧ RestsOn C m (commonSecret a b) := by
  rcases h.paired.initiator.keyed m hm with ⟨_, d, hd, haccepted⟩
  -- The DHPart1 it answered is the responder's, which has looked up its secrets
  -- by then.
  rcases h.paired.responderDH d hd with ⟨dR, hdR, _⟩
  rcases h.responder_commits dR hdR with ⟨_, _, _, b, _, _, _, _, _, hb, _⟩
  rcases haccepted.derived with ⟨_, _, _, _, a, _, dhResult, totalHash, rs1, rs2, s1, zidi, zidr, _,
    _, _, _, ha, _, _, _, hrs1, hrs2, hs1, _, _, hcreate⟩
  have hfinds := h.initiator_finds hd ha hb (hnc a b ⟨ha, hb⟩)
  -- The secret that went into the master secret is what the comparison has
  -- found.
  rw [hfinds rs1 rs2 hrs1 hrs2, Except.ok.injEq] at hs1
  subst hs1
  exact ⟨a, b, d, ⟨ha, hb⟩, hd, hfinds, dhResult, totalHash, zidi, zidr, hcreate⟩

/-- And so has a responder. -/
theorem Running.responder_restsOn (h : Running C cfgI cfgR databaseI databaseR n)
    (hnc : ∀ a b, Looked n a b → NoCollision C a b (fillers cfgI cfgR)) {m : MasterSecret}
    (hm : n.responder.masterSecret = some m) :
    ∃ a b d, Looked n a b ∧ n.responder.role.foreignDH = some d ∧
      Finds C .responder b d (commonSecret a b) ∧ RestsOn C m (commonSecret a b) := by
  rcases h.paired.responder.keyed m hm with ⟨_, d, hd, haccepted⟩
  -- The DHPart2 it received is the initiator's.
  rcases h.paired.initiatorDH d hd with ⟨dI, hdI, _⟩
  rcases h.initiator_commits dI hdI with ⟨_, _, a, _, _, _, _, _, _, ha, _⟩
  rcases haccepted.derived with ⟨_, _, dR, b, _, dhResult, totalHash, rs1, rs2, s1, zidi, zidr, _,
    _, hdR, hb, _, _, _, hrs1, hrs2, hs1, _, _, hcreate⟩
  have hfinds := h.responder_finds hd hdR ha hb (hnc a b ⟨ha, hb⟩)
  rw [hfinds rs1 rs2 hrs1 hrs2, Except.ok.injEq] at hs1
  subst hs1
  exact ⟨a, b, d, ⟨ha, hb⟩, hd, hfinds, dhResult, totalHash, zidi, zidr, hcreate⟩

/-- What a handshake has derived and stored, of the secrets looked up in it. -/
def Stores (C : Crypto) (cfg : Config) (zid : Bytes) (n : Network)
    (masterSecret : Option MasterSecret) (before after : RetainedSecretsDatabase) : Prop :=
  ∃ m a b, masterSecret = some m ∧ Looked n a b ∧ RestsOn C m (commonSecret a b) ∧
    StoredAs cfg zid m.rs1 (commonSecret a b).isSome before after

/-- An initiator that has completed has stored the secret, and for the identity
    of its peer. -/
theorem Running.initiator_stores (h : Running C cfgI cfgR databaseI databaseR n)
    (hnc : ∀ a b, Looked n a b → NoCollision C a b (fillers cfgI cfgR))
    (hcomplete : n.initiator.state = .handshakeComplete) :
    Stores C cfgI cfgR.localZid n n.initiator.masterSecret databaseI n.initiator.database := by
  rcases h.initiatorDrawn.stored hcomplete with ⟨m, a, hello, d, hm, ha, hhello, hd, hretains⟩
  rcases h.initiator_restsOn hnc hm with ⟨a', b, d', hlooked, hd', hfinds, hrests⟩
  -- The fields of the store are those the master secret is made of.
  rw [hd, Option.some.injEq] at hd'
  have ha' := ha.symm.trans hlooked.initiator
  rw [Option.some.injEq] at ha'
  subst hd' ha'
  have hzid := HelloPacket.getZID_made _ hello h.responder_hello
    (h.paired.responderHello hello hhello)
  exact ⟨m, a, b, hm, hlooked, hrests, hretains.storedAs hzid hfinds⟩

theorem Running.responder_stores (h : Running C cfgI cfgR databaseI databaseR n)
    (hnc : ∀ a b, Looked n a b → NoCollision C a b (fillers cfgI cfgR))
    (hcomplete : n.responder.state = .handshakeComplete) :
    Stores C cfgR cfgI.localZid n n.responder.masterSecret databaseR n.responder.database := by
  rcases h.responderDrawn.stored hcomplete with ⟨m, b, hello, d, hm, hb, hhello, hd, hretains⟩
  rcases h.responder_restsOn hnc hm with ⟨a, b', d', hlooked, hd', hfinds, hrests⟩
  rw [hd, Option.some.injEq] at hd'
  have hb' := hb.symm.trans hlooked.responder
  rw [Option.some.injEq] at hb'
  subst hd' hb'
  rcases h.paired.initiatorHello hello hhello with ⟨p, hp, hsame⟩
  have hzid := HelloPacket.getZID_made p hello (h.initiator_hello p hp) hsame
  exact ⟨m, a, b, hm, hlooked, hrests, hretains.storedAs hzid hfinds⟩

/-- A party that has not completed has stored nothing. -/
theorem Running.initiator_unstored (h : Running C cfgI cfgR databaseI databaseR n)
    (hnot : n.initiator.state ≠ .handshakeComplete) : n.initiator.database = databaseI := by
  rcases h.initiatorDrawn.unstored with (hcomplete | hclosed) | hsame
  · exact absurd hcomplete hnot
  · -- Nobody hung up.
    rcases h.initiatorPath with ⟨k, hk⟩
    rw [hclosed] at hk
    exact absurd (List.mem_of_getElem? hk) (by decide)
  · exact hsame

theorem Running.responder_unstored (h : Running C cfgI cfgR databaseI databaseR n)
    (hnot : n.responder.state ≠ .handshakeComplete) : n.responder.database = databaseR := by
  rcases h.responderDrawn.unstored with (hcomplete | hclosed) | hsame
  · exact absurd hcomplete hnot
  · rcases h.responderPath with ⟨k, hk⟩
    rw [hclosed] at hk
    exact absurd (List.mem_of_getElem? hk) (by decide)
  · exact hsame

end

/-! ## A call that both complete -/

namespace Undisturbed

variable {C : Crypto} {cfgI cfgR : Config} {databaseI databaseR : RetainedSecretsDatabase}
  {secretsI secretsR : RetainedSecrets} {legacy : Bool} {c : Clock} {n : Network} {m : MasterSecret}
  {commit one two : HandshakePacket} {confirm : ConfirmPacket}

/-- An acknowledgement that is short leaves the interval the initiator stores
    with as the Confirm1 had it. -/
theorem AwaitsConfirmTwo.initiator_interval (h : AwaitsConfirmTwo C cfgI cfgR databaseI databaseR
      secretsI secretsR legacy n m commit one confirm two) {d : Bytes} (hshort : d.length ≤ 84)
    {s : ZRTPInitiatorSocket}
    (hrun : ZRTPInitiatorSocket.step C cfgI n.initiator ⟨.datagram d, c⟩ = .ok s)
    (hcomplete : s.state = .handshakeComplete) : s.role = n.initiator.role ∧
    ∃ zid rs1 continuity, s.database = databaseI.completeHandshake cfgI.platform cfgI.remoteNumber
      zid rs1 ConfirmPacket.CACHE_TIME continuity c.expiration c.store := by
  rcases ZRTPInitiatorSocket.ack_cases hrun h.initiator.state_eq with
    ⟨d', hevent, hack⟩ | ⟨hidle, _⟩
  · rw [← Event.datagram.inj hevent] at hack
    rcases ZRTPInitiatorSocket.handleConfirmAck_ok _ hack with ⟨_, _, _, _, continuity, _, zid, ms,
      confirm', interval, _, _, _, _, _, _, _, _, hconfirm, hinterval, rfl⟩
    have hrole := h.initiator.role_eq
    have hoffset := legacyOffset_le legacy
    have hbug := h.offset
    have hcache := h.cacheTime
    simp only [hrole, Option.some.injEq] at hconfirm
    subst hconfirm
    -- The interval stands behind the last byte that the datagram overwrites.
    rw [ConfirmPacket.getCacheTime_ok _ _ (by omega),
      ReceiveBuffer.slice_receive_of_le _ _ _ _ (by omega),
      ← ConfirmPacket.getCacheTime_ok _ _ (by omega), hcache, Except.ok.injEq] at hinterval
    refine ⟨rfl, zid, ms.rs1, continuity, ?_⟩
    simp only [h.initiator.database_eq, hinterval]
  · rcases hidle.state_eq with hs | hs
    · exact State.noConfusion (h.initiator.state_eq.symm.trans (hs.symm.trans hcomplete))
    · exact State.noConfusion (hs.symm.trans hcomplete)

/-- The responder stores with the interval of the Confirm2 at once. -/
theorem responder_interval {h0 : Bytes} {packet : HandshakePacket} {buf' : ReceiveBuffer}
    {s s' : ZRTPResponderSocket}
    (hrun : ZRTPResponderSocket.handleConfirmTwo C cfgR c packet s = .ok s')
    (hkey : s.masterSecret = some m) (hdatabase : s.database = databaseR)
    (haccepted : ConfirmAccepted C m.macI m.zrtpKeyI h0 (ConfirmPacket.ofPacket packet) s.buf
      buf') : s'.role = s.role ∧
    ∃ zid rs1 continuity, s'.database = databaseR.completeHandshake cfgR.platform cfgR.remoteNumber
      zid rs1 ConfirmPacket.CACHE_TIME continuity c.expiration c.store := by
  simp only [ZRTPResponderSocket.handleConfirmTwo, Java.bind_ok, Java.orNull_ok, Except.ok.injEq]
    at hrun
  rcases hrun with ⟨_, _, _, _, m', hm', _, _, buf, hbuf, _, _, _, _, _, _, _, _, _, _, _, _,
    continuity, _, zid, _, interval, hinterval, rfl⟩
  -- The handler has decrypted the buffer with the key of the accepted packet.
  rw [hkey, Option.some.injEq] at hm'
  subst hm'
  rw [haccepted.decrypted, Except.ok.injEq] at hbuf
  subst hbuf
  rw [ZRTPSocket.sendFreshPacket_buf, haccepted.cacheTime, Except.ok.injEq] at hinterval
  subst hinterval
  refine ⟨?_, zid, m.rs1, continuity, ?_⟩
  · rw [ZRTPSocket.sendFreshPacket_role]
  · rw [← hdatabase]
    rfl

/-- Nine packets complete the handshake, and both store with the interval that
    was asked for. -/
theorem reaches_stored (hready : Ready C cfgI cfgR databaseI databaseR c.retrieve secretsI
      secretsR) (legacy : Bool) (now : Int) :
    ∃ n zidI rs1I continuityI zidR rs1R continuityR, Network.Reaches C cfgI cfgR Honest
        (Network.start C cfgR databaseI databaseR legacy now) n ∧
      n.initiator.state = .handshakeComplete ∧ n.responder.state = .handshakeComplete ∧
      Looked n secretsI secretsR ∧
      n.initiator.database = databaseI.completeHandshake cfgI.platform cfgI.remoteNumber zidI rs1I
        ConfirmPacket.CACHE_TIME continuityI c.expiration c.store ∧
      n.responder.database = databaseR.completeHandshake cfgR.platform cfgR.remoteNumber zidR rs1R
        ConfirmPacket.CACHE_TIME continuityR c.expiration c.store := by
  rcases reaches_confirmTwo hready legacy now with ⟨n, m, commit, one, confirm, two, hreach, h⟩
  -- The Confirm2 is on the wire, and the responder takes it.
  rcases h.madeTwo with ⟨iv, hmade⟩
  have hsend := sendable_of_header hmade.header (by decide) (by decide)
  rcases received_wire two hsend 3 n.responder with ⟨_, htype, _⟩
  rw [hmade.header.getType_eq (by decide)] at htype
  rcases confirm_accepted _ _ _ _ _ two hmade 3 n.responder with ⟨buf', haccepted⟩
  rcases responder_handleConfirmTwo hready (commit.wire 1) _ one (h.responder.receive _) m
    h.responderKey _ buf' haccepted with ⟨r, hrun, hstate, hsent⟩
  rcases responder_interval hrun h.responderKey h.responder.database_eq haccepted with
    ⟨hroleR, zidR, rs1R, continuityR, hdbR⟩
  have hreach' := hreach.tail (responder_step n two hsend 3 h.initiator.sent r
    (h.responder.not_over (by decide)) (.confirmTwo h.responder.state_eq htype hrun))
  -- The acknowledgement is short.
  have hheader := HandshakePacket.create_header CONF_ACK_TYPE 12 legacy length_CONF_ACK_TYPE
    (by decide)
  have hsendA := sendable_of_header hheader (by decide) (by decide)
  have hoffset := legacyOffset_le legacy
  have hshort : ((HandshakePacket.create CONF_ACK_TYPE 12 legacy).wire 4).data.length ≤ 84 := by
    have hsame := wire_sameMessage 4 _ hsendA.1
    rw [(SameMessage.whole _ _ hsame hsendA.1).1, hsame.packetLength_eq, hheader.packetLength_eq]
    omega
  rcases received_wire _ hsendA 4 n.initiator with ⟨_, htypeA, _⟩
  rw [hheader.getType_eq (by decide)] at htypeA
  rcases h.takes_ack hready _ htypeA with ⟨s, hstep, hcomplete⟩
  rcases h.initiator_interval hshort hstep hcomplete with
    ⟨hroleI, zidI, rs1I, continuityI, hdbI⟩
  refine ⟨⟨s, r⟩, zidI, rs1I, continuityI, zidR, rs1R, continuityR,
    hreach'.tail (.initiator _ ⟨.datagram _, c⟩ s ⟨fun he => Event.noConfusion he, fun d hd => ?_⟩
      hstep), hcomplete, hstate, ⟨?_, ?_⟩, hdbI, hdbR⟩
  · rw [← Event.datagram.inj hd]
    exact hsent
  · rw [hroleI, h.initiator.role_eq]
  · rw [hroleR, h.responder.role_eq]

end Undisturbed

end RedPhone
