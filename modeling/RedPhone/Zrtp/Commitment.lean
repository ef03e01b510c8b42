import RedPhone.Zrtp.Undisturbed

/-!
# What the Hash Commitment Binds

The initiator commits to its DHPart2 before it sees the responder's, so that
it cannot look for a public value that yields a chosen SAS. The responder
checks the commitment on the message bytes of the DHPart2, and these are as
many as the length field of the packet says; the fields it then uses are read
at their offsets, whatever the length field says.

So the commitment binds exactly the fields inside the hashed bytes. If the
length field covers the public value, two DHPart2 packets accepted against one
Commit carry the same fields or exhibit a collision. If it does not, the last
byte of a field lies outside, and a packet that differs there is accepted as
well: nothing compares the length with that of the key agreement, as
`HelloPacket.verifyMac` does for a Hello.

## Main definitions

* `Accepts`: A datagram the responder's `handleDH` accepts.
* `CollisionFree`: No collision between the messages hashed for two of them.
* `SameFields`: Equal in every field `handleDH` goes on to use.
* `Covers`: The length field reaches the end of the public value.

## Theorems

* `sameFields_of_covers`: Covered fields are bound.
* `accepts_altered`: A byte outside the hashed ones can be changed.
* `commitment_binds_iff`: When the commitment binds.
-/

namespace RedPhone

open Slice HandshakePacket RetainedSecretsCalculator Undisturbed

namespace ZRTPResponderSocket

/-- The datagram is accepted as the DHPart2 `dh`: the handler returns. -/
def Accepts (C : Crypto) (cfg : Config) (s : ZRTPResponderSocket) (d : Bytes) (dh : DHPacket) :
    Prop :=
  ∃ c s', handleDH C cfg c (s.received d) { s with buf := s.buf.receive d } = .ok s' ∧
    s'.role.foreignDH = some dh

/-- No collision between the messages hashed to check two DHPart2 packets:
    their `H1`, and their messages followed by that of the local Hello. -/
structure CollisionFree (C : Crypto) (s : ZRTPResponderSocket) (dh dh' : DHPacket) : Prop where
  hash : ∀ h1 h1', dh.getHash = .ok h1 → dh'.getHash = .ok h1' → C.sha256 h1 = C.sha256 h1' →
    h1 = h1'
  message : ∀ hb db db', s.role.localHello.getMessageBytes = .ok hb →
    dh.packet.getMessageBytes = .ok db → dh'.packet.getMessageBytes = .ok db' →
    C.sha256 (db ++ hb) = C.sha256 (db' ++ hb) → db ++ hb = db' ++ hb

/-- Nothing can collide where the same messages are hashed. -/
theorem collisionFree_of_eq {C : Crypto} {s : ZRTPResponderSocket} {dh dh' : DHPacket}
    (hhash : dh'.getHash = dh.getHash)
    (hbytes : dh'.packet.getMessageBytes = dh.packet.getMessageBytes) :
    CollisionFree C s dh dh' := by
  refine ⟨fun h1 h1' hh1 hh1' _ => ?_, fun hb db db' _ hdb hdb' _ => ?_⟩
  · rw [hhash, hh1, Except.ok.injEq] at hh1'
    exact hh1'
  · rw [hbytes, hdb, Except.ok.injEq] at hdb'
    rw [hdb']

/-- The fields `handleDH` goes on to use. -/
structure SameFields (dh dh' : DHPacket) : Prop where
  hash : dh'.getHash = dh.getHash
  rs1 : dh'.getDerivativeSecretOne = dh.getDerivativeSecretOne
  rs2 : dh'.getDerivativeSecretTwo = dh.getDerivativeSecretTwo
  pvr : dh'.getPvr = dh.getPvr

/-- The length field reaches the end of the public value. -/
def Covers (dh : DHPacket) : Prop :=
  ∃ l : Int, dh.packet.getLength = .ok l ∧ 76 + dh.agreementType.pvrLength ≤ l

/-- What an accepted DHPart2 has passed, without the key agreement. -/
theorem Accepts.checks {C : Crypto} {cfg : Config} {s : ZRTPResponderSocket} {d : Bytes}
    {dh : DHPacket} (h : Accepts C cfg s d dh) :
    dh.packet = ZRTPSocket.ofDatagram d ∧ d ≠ [] ∧
      getKeyAgreementType s.role.foreignCommit = .ok dh.agreementType ∧
      ∃ commit h1 helloBytes dhBytes, s.role.foreignCommit = some commit ∧
        dh.getHash = .ok h1 ∧ CommitPacket.getHash commit = .ok (C.sha256 h1) ∧
        s.role.localHello.getMessageBytes = .ok helloBytes ∧
        dh.packet.getMessageBytes = .ok dhBytes ∧
        CommitPacket.getHvi commit = .ok (C.sha256 (dhBytes ++ helloBytes)) := by
  rcases h with ⟨c, s', hrun, hdh⟩
  rcases handleDH_ok hrun with ⟨dh', ms, _, _, haccepted, _, _, rfl⟩
  simp only [ZRTPSocket.sendFreshPacket_role, Option.some.injEq] at hdh
  subst hdh
  rcases haccepted.copy with ⟨t, ht, hcopy⟩
  simp only [DHPacket.copyOf, Java.bind_ok, Except.ok.injEq] at hcopy
  rcases hcopy with ⟨p, hp, rfl⟩
  rcases (ZRTPSocket.copyOf_received d s p).mp hp with ⟨hd, rfl⟩
  rcases haccepted.verified with ⟨commit, h1, hb, db, hcommit, hh1, hmac, hhb, hdb, hhvi⟩
  refine ⟨rfl, hd, ht, commit, h1, hb, db, hcommit, hh1, ?_, hhb, hdb,
    (CommitPacket.verifyHvi_ok C hb db commit ()).mp hhvi⟩
  rcases (CommitPacket.verifyMac_ok C h1 commit ()).mp hmac with ⟨h2, hh2, hverify⟩
  rw [((HandshakePacket.verifyMac_ok C h1 _ _ h2 commit ()).mp hverify).2.2.2]
  exact hh2

/-- A field inside the hashed bytes is part of them. -/
theorem region_of_message (e : Unchecked) (p : HandshakePacket) (m : Bytes)
    (hm : p.getMessageBytes = .ok m) (off len : Nat) (h : off + len ≤ m.length) :
    Java.region e p.data (12 + off + p.headerBugOffset) len = .ok (slice off len m) := by
  rcases (getMessageBytes_ok p m).mp hm with ⟨l, _, _, _, hin, rfl⟩
  rw [length_slice _ _ _ hin] at h
  rw [Java.region_ok, slice_slice off len _ l p.data h]
  have hoff : 12 + off + p.headerBugOffset = 12 + p.headerBugOffset + off := by omega
  exact ⟨by omega, by rw [hoff]⟩

/-- The message is as long as the length field says. -/
theorem length_message (p : HandshakePacket) (m : Bytes) (l : Int) (hm : p.getMessageBytes = .ok m)
    (hl : p.getLength = .ok l) : (m.length : Int) = l := by
  rcases (getMessageBytes_ok p m).mp hm with ⟨n, hn, _, _, hin, rfl⟩
  rw [hn, Except.ok.injEq] at hl
  rw [length_slice _ _ _ hin, hl]

/-- If the hashed bytes cover the public value, the commitment binds every
    field that is used. -/
theorem sameFields_of_covers (C : Crypto) (cfg : Config) (s : ZRTPResponderSocket)
    (d d' : Bytes) (dh dh' : DHPacket) (h : Accepts C cfg s d dh) (h' : Accepts C cfg s d' dh')
    (hcovers : Covers dh) (hfree : CollisionFree C s dh dh') : SameFields dh dh' := by
  rcases h.checks with ⟨_, _, ht, commit, h1, hb, db, hcommit, hh1, hhash, hhb, hdb, hhvi⟩
  rcases h'.checks with ⟨_, _, ht', commit', h1', hb', db', hcommit', hh1', hhash', hhb', hdb',
    hhvi'⟩
  rw [hcommit, Option.some.injEq] at hcommit'
  rw [hhb, Except.ok.injEq] at hhb'
  subst hcommit' hhb'
  rw [ht, Except.ok.injEq] at ht'
  rw [hhash, Except.ok.injEq] at hhash'
  rw [hhvi, Except.ok.injEq] at hhvi'
  have heq1 : h1 = h1' := hfree.hash h1 h1' hh1 hh1' hhash'
  have heq2 : db ++ hb = db' ++ hb := hfree.message hb db db' hhb hdb hdb' hhvi'
  have hbytes : db = db' := List.append_cancel_right heq2
  subst heq1 hbytes
  rcases hcovers with ⟨l, hl, hlen⟩
  have hl' := length_message dh.packet db l hdb hl
  -- Both packets show the same bytes at each offset of the message.
  have hfield : ∀ e off len, off + len ≤ 76 + dh.agreementType.pvrLength →
      Java.region e dh'.packet.data (12 + off + dh'.packet.headerBugOffset) len
        = Java.region e dh.packet.data (12 + off + dh.packet.headerBugOffset) len := by
    intro e off len hoff
    rw [region_of_message e dh'.packet db hdb' off len (by omega),
      region_of_message e dh.packet db hdb off len (by omega)]
  refine ⟨hh1'.trans hh1.symm, hfield _ 44 8 (by omega), hfield _ 52 8 (by omega), ?_⟩
  unfold DHPacket.getPvr
  rw [← ht']
  exact hfield _ 76 _ (by omega)

/-! ## A byte outside the commitment -/

/-- Writing one byte behind the message changes neither the message nor any
    field before it. -/
structure Behind (p p' : HandshakePacket) (off : Nat) : Prop where
  packetLength_eq : p'.packetLength = p.packetLength
  length_eq : p'.data.length = p.data.length
  bug_eq : p'.headerBugOffset = p.headerBugOffset
  slice_eq : ∀ o n, o + n ≤ off → slice o n p'.data = slice o n p.data

theorem behind_put (p : HandshakePacket) (off : Nat) (x : UInt8) (hoff : 0 < off)
    (h : off < p.data.length) : Behind p (p.put off [x]) off := by
  have hin : off + [x].length ≤ p.data.length := by
    rw [List.length_singleton]
    omega
  exact ⟨rfl, length_put off [x] p hin, headerBugOffset_congr _ _ (head_put off [x] p hin hoff),
    fun o n ho => slice_put_of_disjoint off o n [x] p hin (Or.inl ho)⟩

theorem Behind.region_eq {p p' : HandshakePacket} {off : Nat} (h : Behind p p' off) (e : Unchecked)
    (o n : Nat) (ho : o + p.headerBugOffset + n ≤ off) :
    Java.region e p'.data (o + p'.headerBugOffset) n
      = Java.region e p.data (o + p.headerBugOffset) n := by
  unfold Java.region
  rw [h.length_eq, h.bug_eq, h.slice_eq _ _ ho]

theorem Behind.getMessageBytes_eq {p p' : HandshakePacket} {off : Nat} (h : Behind p p' off)
    (m : Bytes) (hm : p.getMessageBytes = .ok m) (hoff : 16 + p.headerBugOffset ≤ off)
    (hm' : 12 + p.headerBugOffset + m.length ≤ off) : p'.getMessageBytes = .ok m := by
  rcases (getMessageBytes_ok p m).mp hm with ⟨l, hl, hlen, hfit, hin, rfl⟩
  rw [length_slice _ _ _ hin] at hm'
  rw [getLength_ok] at hl
  rw [getMessageBytes_ok, h.bug_eq, h.packetLength_eq, h.length_eq]
  refine ⟨l, ?_, hlen, hfit, hin, (h.slice_eq _ _ (by omega)).symm⟩
  rw [getLength_ok, h.bug_eq, h.length_eq, h.slice_eq _ _ (by omega)]
  exact hl

/-- The key agreement accepts a value that differs in its last byte. -/
def Malleable (C : Crypto) (keys : KeyPairs) (t : AgreementType) (pvr : Bytes) : Prop :=
  ∃ x r, pvr.dropLast ++ [x] ≠ pvr ∧
    SecretCalculator.calculateKeyAgreement C keys t (pvr.dropLast ++ [x]) = .ok r

/-- A byte of the public value outside the hashed bytes can be changed without
    the responder noticing. -/
theorem accepts_altered (C : Crypto) (cfg : Config) (s : ZRTPResponderSocket) (d : Bytes)
    (dh : DHPacket) (h : Accepts C cfg s d dh) (hcovers : ¬ Covers dh)
    (hmalleable : ∀ pvr, dh.getPvr = .ok pvr → Malleable C cfg.keys dh.agreementType pvr) :
    ∃ d' dh', Accepts C cfg s d' dh' ∧ CollisionFree C s dh dh' ∧ dh'.getPvr ≠ dh.getPvr := by
  rcases h.checks with ⟨hpacket, hne, _, _, h1, _, db, _, hh1, _, _, hdb, _⟩
  rcases h with ⟨c, s', hrun, hdh⟩
  rcases handleDH_ok hrun with ⟨dh', ms, hello, legacyConfirm, haccepted, hhello, hlegacy, rfl⟩
  simp only [ZRTPSocket.sendFreshPacket_role, Option.some.injEq] at hdh
  subst hdh
  rcases haccepted.copy with ⟨t, ht, hcopy⟩
  rcases haccepted.verified with ⟨commit, h1', hb, db', hcommit, hh1', hmac, hhb, hdb', hhvi⟩
  rcases haccepted.derived with ⟨hello', commit', localDH, secrets, pvr, dhResult, totalHash, rs1,
    rs2, s1, zidi, zidr, hhello', hcommit', hlocal, hsecrets, hpvr, hagree, htotal, hrs1, hrs2, hs1,
    hzidi, hzidr, _⟩
  rw [hdb, Except.ok.injEq] at hdb'
  subst hdb'
  have hpvrLength : 0 < dh'.agreementType.pvrLength := by
    cases dh'.agreementType with
    | dh3k => decide
    | ec25 => decide
  have htype : dh'.agreementType = t := by
    simp only [DHPacket.copyOf, Java.bind_ok, Except.ok.injEq] at hcopy
    rcases hcopy with ⟨_, _, rfl⟩
    rfl
  rcases hmalleable pvr hpvr with ⟨x, r, hxne, hr⟩
  rw [DHPacket.getPvr, Java.arraycopy, Java.region_ok] at hpvr
  rcases hpvr with ⟨hroom, rfl⟩
  -- The last byte of the public value, which the hashed bytes do not reach.
  generalize hn : dh'.agreementType.pvrLength = n at *
  obtain ⟨k, rfl⟩ : ∃ k, n = k + 1 := ⟨n - 1, by omega⟩
  generalize hb' : dh'.packet.headerBugOffset = b at *
  have hlast : (88 + b) + k < dh'.packet.data.length := by omega
  have hbehind := behind_put dh'.packet (88 + b + k) x (by omega) hlast
  rw [dropLast_slice _ _ _ hlast] at hxne hr
  have hmessage : 12 + b + db.length ≤ 88 + b + k := by
    rcases (getMessageBytes_ok dh'.packet db).mp hdb with ⟨l, hl, _, _, hin, rfl⟩
    rw [hb'] at hin ⊢
    rw [length_slice _ _ _ hin]
    by_contra hc
    exact hcovers ⟨l, hl, by rw [hn]; omega⟩
  have hpvr' := slice_blit_last (88 + b) k x dh'.packet.data hlast
  change slice (88 + b) (k + 1) (dh'.packet.put (88 + b + k) [x]).data = _ at hpvr'
  generalize dh'.packet.put (88 + b + k) [x] = p' at hbehind hpvr'
  -- The altered packet is the one its own bytes are received as.
  have hlen : dh'.packet.data.length = dh'.packet.packetLength ∧
      dh'.packet.packetLength ≤ 4096 := by
    rw [hpacket]
    unfold ZRTPSocket.ofDatagram
    simp only [List.length_take]
    omega
  have hdatagram : ZRTPSocket.ofDatagram p'.data = p' := by
    have h1 := hbehind.packetLength_eq
    have h2 := hbehind.length_eq
    unfold ZRTPSocket.ofDatagram
    rw [List.take_of_length_le (by omega), Nat.min_eq_left (by omega), h2, hlen.1, ← h1]
  have hne' : p'.data ≠ [] := by
    rw [← List.length_pos_iff, hbehind.length_eq]
    omega
  have hbytes : p'.getMessageBytes = .ok db :=
    hbehind.getMessageBytes_eq db hdb (by omega) (by omega)
  have hread : ∀ e o m, o + m ≤ 88 → Java.region e p'.data (o + p'.headerBugOffset) m
      = Java.region e dh'.packet.data (o + dh'.packet.headerBugOffset) m :=
    fun e o m ho => hbehind.region_eq e o m (by omega)
  have hfield : Java.region .arrayIndexOutOfBounds p'.data (88 + p'.headerBugOffset)
      dh'.agreementType.pvrLength = .ok (slice (88 + b) k dh'.packet.data ++ [x]) := by
    rw [Java.region_ok, hbehind.length_eq, hbehind.bug_eq, hb', hn]
    exact ⟨by omega, hpvr'⟩
  have htotal' := (SecretCalculator.calculateTotalHash_ok C _ _ _ _ _).mp htotal
  rcases htotal' with ⟨m1, m2, m3, m4, hm1, hm2, hm3, hm4, rfl⟩
  rw [hdb, Except.ok.injEq] at hm4
  subst hm4
  have haccepted' : AcceptedDH C cfg (s.received p'.data) { s with buf := s.buf.receive p'.data }
      ⟨p', dh'.agreementType⟩ _ :=
    { copy := ⟨t, ht, by
        rw [DHPacket.copyOf, (ZRTPSocket.copyOf_received p'.data s p').mpr ⟨hne', hdatagram.symm⟩,
          htype]
        rfl⟩
      verified := ⟨commit, h1', hb, db, hcommit, (hread _ 24 32 (by omega)).trans hh1', hmac, hhb,
        hbytes, hhvi⟩
      derived := ⟨hello', commit', localDH, secrets, _, r, _, rs1, rs2, s1, zidi, zidr, hhello',
        hcommit', hlocal, hsecrets, hfield, hr,
        (SecretCalculator.calculateTotalHash_ok C _ _ _ _ _).mpr
          ⟨m1, m2, m3, db, hm1, hm2, hm3, hbytes, rfl⟩,
        (hread _ 56 8 (by omega)).trans hrs1, (hread _ 64 8 (by omega)).trans hrs2, hs1, hzidi,
        hzidr, rfl⟩ }
  rcases handleDH_of_accepted (c := c) haccepted' hhello hlegacy with ⟨s'', hrun', hdh'⟩
  refine ⟨p'.data, _, ⟨c, s'', hrun', hdh'⟩,
    collisionFree_of_eq (hread _ 24 32 (by omega)) (hbytes.trans hdb.symm), ?_⟩
  change Java.region .arrayIndexOutOfBounds p'.data (88 + p'.headerBugOffset)
    dh'.agreementType.pvrLength ≠ _
  rw [hfield, DHPacket.getPvr, Java.arraycopy, (Java.region_ok _ _ _ _ _).mpr ⟨by omega, rfl⟩, hn,
    hb', ne_eq, Except.ok.injEq]
  exact hxne

/-- The commitment binds the fields used of an accepted DHPart2 exactly when
    its length field covers them, as long as the key agreement accepts another
    public value that differs in its last byte. -/
theorem commitment_binds_iff (C : Crypto) (cfg : Config) (s : ZRTPResponderSocket) (d : Bytes)
    (dh : DHPacket) (h : Accepts C cfg s d dh)
    (hmalleable : ∀ pvr, dh.getPvr = .ok pvr → Malleable C cfg.keys dh.agreementType pvr) :
    (∀ d' dh', Accepts C cfg s d' dh' → CollisionFree C s dh dh' → SameFields dh dh')
      ↔ Covers dh := by
  constructor
  · intro hbinds
    by_contra hcovers
    rcases accepts_altered C cfg s d dh h hcovers hmalleable with ⟨d', dh', haccepts, hfree, hpvr⟩
    exact hpvr (hbinds d' dh' haccepts hfree).pvr
  · intro hcovers d' dh' haccepts hfree
    exact sameFields_of_covers C cfg s d d' dh dh' h haccepts hcovers hfree

/-! ## A Commit for twelve bytes -/

/-- The DHPart2 of an initiator, with a length field of the shortest message. -/
def shortened (C : Crypto) (cfg : Config) (t : AgreementType) (secrets : RetainedSecrets)
    (legacy : Bool) : HandshakePacket :=
  (dhPart C cfg .initiator DHPacket.TYPE_TWO t secrets legacy).packet.put (14 + legacyOffset legacy)
    (Conversions.shortToByteArray 12)

section

variable {C : Crypto} {cfgI cfgR : Config} {databaseI databaseR : RetainedSecretsDatabase}
  {secretsI secretsR : RetainedSecrets} {legacy : Bool} {c : Clock} {t : AgreementType}

/-- A responder that has a Commit of an initiator for some message. -/
theorem reaches_dh2 (hready : Ready C cfgI cfgR databaseI databaseR c.retrieve secretsI secretsR)
    (now : Int) {dhBytes : Bytes} (commit : HandshakePacket)
    (hmade : CommitPacket.Made C (cfgI.hashChain C) (helloBytes C cfgR legacy) dhBytes
      cfgI.localZid t legacy commit) :
    ∃ is s, Run.run (step C cfgR) (start C cfgR databaseR legacy now) is = .ok s ∧
      At s .expectingDh2 2 databaseR ⟨hello C cfgR legacy, some ((hello C cfgI legacy).wire 0),
        some (commit.wire 1), some (dhPart C cfgR .responder DHPacket.TYPE_ONE t secretsR legacy),
        none, some secretsR, legacy⟩
        (dhPart C cfgR .responder DHPacket.TYPE_ONE t secretsR legacy).packet := by
  have h0 : At (start C cfgR databaseR legacy now) .expectingHello 0 databaseR
      ⟨hello C cfgR legacy, none, none, none, none, none, legacy⟩ (hello C cfgR legacy) :=
    .send (by rfl) (by rfl) (by rfl) (by rfl) now _
  have hsendH := hello_sendable C cfgI legacy
  rcases received_wire _ hsendH 0 (start C cfgR databaseR legacy now) with ⟨hcrc, htype, hcopy⟩
  rw [(hello_header C cfgI legacy).getType_eq (by omega)] at htype
  -- Two datagrams lead there: the Hello and the Commit.
  rcases responder_handleHello (c := c) _ (h0.receive _) _ hcopy with ⟨s1, hrun1, h1⟩
  have hstep1 := ZRTPSocket.negotiate_of_handled (handlers C cfgR) _ s1 _ c
    (h0.not_over (by decide)) (Or.inr hcrc) (.hello h0.state_eq htype hrun1)
  have hsendC := sendable_of_header hmade.header (by decide) (by decide)
  rcases received_wire _ hsendC 1 s1 with ⟨hcrc', htype', hcopy'⟩
  rw [hmade.header.getType_eq (by decide)] at htype'
  rcases responder_handleCommit hready commit hmade _ (h1.receive _) _ hcopy' with ⟨s2, hrun2, h2⟩
  have hstep2 := ZRTPSocket.negotiate_of_handled (handlers C cfgR) _ s2 _ c
    (h1.not_over (by decide)) (Or.inr hcrc') (.commit h1.state_eq htype' hrun2)
  refine ⟨[⟨.datagram ((hello C cfgI legacy).wire 0).data, c⟩, ⟨.datagram (commit.wire 1).data, c⟩],
    s2, (Run.run_cons _ _ _ _ _).mpr ⟨s1, hstep1, ?_⟩, h2⟩
  exact (Run.run_cons _ _ _ _ _).mpr ⟨s2, hstep2, rfl⟩

/-- It accepts a DHPart2 with that message. -/
theorem accepts_of_shows (hready : Ready C cfgI cfgR databaseI databaseR c.retrieve secretsI
      secretsR) {dhBytes : Bytes} (commit : HandshakePacket)
    (hmade : CommitPacket.Made C (cfgI.hashChain C) (helloBytes C cfgR legacy) dhBytes
      cfgI.localZid t legacy commit) (s : ZRTPResponderSocket)
    (h : At s .expectingDh2 2 databaseR ⟨hello C cfgR legacy, some ((hello C cfgI legacy).wire 0),
      some (commit.wire 1), some (dhPart C cfgR .responder DHPacket.TYPE_ONE t secretsR legacy),
      none, some secretsR, legacy⟩
      (dhPart C cfgR .responder DHPacket.TYPE_ONE t secretsR legacy).packet)
    (q : HandshakePacket) (hq : Sendable q) (hshows : Shows C cfgI .initiator secretsI ⟨q, t⟩)
    (hbytes : q.getMessageBytes = .ok dhBytes) (result : Bytes)
    (hresult : SecretCalculator.calculateKeyAgreement C cfgR.keys t (cfgI.keys.getPublicKey C t)
      = .ok result) : Accepts C cfgR s q.data ⟨q, t⟩ := by
  have hne : q.data ≠ [] := by
    have hwhole := hq.1
    rw [← List.length_pos_iff, hwhole.1]
    have := hwhole.2
    omega
  have hcopy := (ZRTPSocket.copyOf_received q.data s q).mpr ⟨hne, (ofDatagram_data q hq).symm⟩
  rcases responder_handleDH (c := c) hready commit hmade _ (h.receive q.data) q hshows hbytes result
    hresult _ hcopy with ⟨s', _, _, hrun, _, h'⟩
  exact ⟨c, s', hrun, by rw [h'.role_eq]⟩

/-- What a shortened DHPart2 shows. -/
structure Shortened (C : Crypto) (cfg : Config) (t : AgreementType) (secrets : RetainedSecrets)
    (legacy : Bool) (p : HandshakePacket) : Prop where
  sendable : Sendable p
  length : p.getLength = .ok 12
  message : p.getMessageBytes = .ok (slice (12 + legacyOffset legacy) 12 p.data)
  shows : Shows C cfg .initiator secrets ⟨p, t⟩

/-- Only the length field of a shortened DHPart2 differs. -/
theorem shortened_spec (C : Crypto) (cfg : Config) (t : AgreementType) (secrets : RetainedSecrets)
    (h : Keyable secrets) (legacy : Bool) :
    Shortened C cfg t secrets legacy (shortened C cfg t secrets legacy) := by
  have hheader := (dhPart_made C cfg .initiator DHPacket.TYPE_TWO DHPacket.length_TYPE_TWO t secrets
    h legacy).header
  rcases dhPart_shows C cfg .initiator DHPacket.TYPE_TWO DHPacket.length_TYPE_TWO t secrets h legacy
    _ (.refl _) with ⟨⟨hhash, hpvr, hrs1, hrs2⟩, _⟩
  unfold shortened
  generalize (dhPart C cfg .initiator DHPacket.TYPE_TWO t secrets legacy).packet = p at *
  have hlen := t.dhLength_eq
  have hmax := t.pvrLength_le
  have hdata := hheader.data_length
  have hpacket := hheader.packetLength_eq
  have hbug := hheader.headerBugOffset_eq
  have hlegacy := legacyOffset_le legacy
  have hsrc := Conversions.length_shortToByteArray 12
  have hin :
      14 + legacyOffset legacy + (Conversions.shortToByteArray 12).length ≤ p.data.length := by
    omega
  have hself := slice_put_self _ _ p hin
  have hother := fun o n ho => slice_put_of_disjoint _ o n _ p hin (Or.inr ho)
  have hdata' := length_put _ _ p hin
  have hbug' := headerBugOffset_congr _ _ (head_put _ _ p hin (by omega))
  have hpacket' : (p.put (14 + legacyOffset legacy) (Conversions.shortToByteArray 12)).packetLength
      = p.packetLength := rfl
  generalize p.put (14 + legacyOffset legacy) (Conversions.shortToByteArray 12) = p' at *
  rw [hbug] at hbug'
  rw [hsrc] at hself
  have hlength : p'.getLength = .ok 12 := by
    rw [getLength_ok, hbug', hself]
    exact ⟨by omega, Conversions.toShort_shortToByteArray 12 (by decide)⟩
  -- The fields are behind it.
  have hread : ∀ e o n, 16 ≤ o → Java.region e p'.data (o + p'.headerBugOffset) n
      = Java.region e p.data (o + p.headerBugOffset) n := by
    intro e o n ho
    unfold Java.region
    rw [hbug', hbug, hdata', hother _ _ (by omega)]
  refine ⟨⟨⟨by omega, by rw [hbug']; omega⟩, by omega⟩, hlength, ?_, ?_⟩
  · rw [getMessageBytes_ok, hbug']
    exact ⟨12, hlength, by omega, by omega, by omega, rfl⟩
  · exact ⟨(hread _ 24 32 (by omega)).trans hhash, (hread _ 88 _ (by omega)).trans hpvr,
      (hread _ 56 8 (by omega)).trans hrs1, (hread _ 64 8 (by omega)).trans hrs2⟩

/-- An initiator can commit to any DHPart2 that has a message. -/
theorem exists_commit (C : Crypto) (cfg : Config) (helloBytes : Bytes) (d : DHPacket)
    (dhBytes : Bytes) (hbytes : d.packet.getMessageBytes = .ok dhBytes) (legacy : Bool) :
    ∃ commit, CommitPacket.Made C (cfg.hashChain C) helloBytes dhBytes cfg.localZid d.agreementType
      legacy commit := by
  obtain ⟨commit, hcommit⟩ : ∃ commit, CommitPacket.create C (cfg.hashChain C) helloBytes d
      cfg.localZid legacy = .ok commit := by
    unfold CommitPacket.create
    rw [hbytes, Java.ok_bind]
    exact ⟨_, rfl⟩
  exact ⟨commit, CommitPacket.create_made d commit (cfg.length_h2 C) cfg.localZid_length hbytes
    hcommit⟩

end

/-- The 3072-bit key agreement accepts any value. -/
theorem jce_malleable (keys : KeyPairs) (pvr : Bytes) (h : pvr ≠ []) :
    Malleable jce keys .dh3k pvr := by
  refine ⟨pvr.getLast h + 1, _, fun heq => ?_, rfl⟩
  have hlast := congrArg List.getLast? heq
  rw [List.getLast?_concat, List.getLast?_eq_some_getLast h, Option.some.injEq] at hlast
  have hnat := congrArg UInt8.toNat hlast
  have hlt := (pvr.getLast h).toNat_lt
  rw [UInt8.toNat_add] at hnat
  have hone : (1 : UInt8).toNat = 1 := rfl
  omega

theorem dhPublic_ne_nil (keys : KeyPairs) : keys.getPublicKey jce .dh3k ≠ [] := by
  rw [← List.length_pos_iff, KeyPairs.length_publicKey]
  decide

/-- A responder that accepts an honest DHPart2 and its commitment. -/
theorem commitment_binds_whole :
    ∃ s d dh, Accepts jce callee s d dh ∧ Covers dh ∧
      ∀ d' dh', Accepts jce callee s d' dh' → CollisionFree jce s dh dh' → SameFields dh dh' := by
  have hready := ready 0
  have hheader := (dhPart_made jce caller .initiator DHPacket.TYPE_TWO DHPacket.length_TYPE_TWO
    .dh3k ⟨none, none⟩ hready.keyableI false).header
  have hsend := dhPart_sendable jce caller .initiator DHPacket.TYPE_TWO DHPacket.length_TYPE_TWO
    .dh3k ⟨none, none⟩ hready.keyableI false
  have hbytes := dhPart_message jce caller .initiator DHPacket.TYPE_TWO DHPacket.length_TYPE_TWO
    .dh3k ⟨none, none⟩ hready.keyableI false _ (.refl _)
  rcases dhPart_shows jce caller .initiator DHPacket.TYPE_TWO DHPacket.length_TYPE_TWO .dh3k
    ⟨none, none⟩ hready.keyableI false _ (.refl _) with ⟨hshows, _⟩
  generalize
    (dhPart jce caller .initiator DHPacket.TYPE_TWO .dh3k ⟨none, none⟩ false).packet = q at *
  rcases exists_commit jce caller (helloBytes jce callee false) ⟨q, .dh3k⟩ _ hbytes false with
    ⟨commit, hcommit⟩
  rcases reaches_dh2 (c := ⟨0, 0, 0, 0, 0⟩) hready 0 commit hcommit with ⟨_, s, _, hs⟩
  have haccepts := accepts_of_shows (c := ⟨0, 0, 0, 0, 0⟩) hready commit hcommit s hs q hsend hshows
    hbytes _ rfl
  -- The length in the header is that of the whole packet.
  have hcovers : Covers ⟨q, .dh3k⟩ := by
    refine ⟨468, ?_, by change (76 + 384 : Int) ≤ 468; omega⟩
    rw [getLength_ok, hheader.headerBugOffset_eq, hheader.data_length, hheader.length_eq]
    exact ⟨by decide, Conversions.toShort_shortToByteArray 468 (by decide)⟩
  refine ⟨s, q.data, _, haccepts, hcovers, ?_⟩
  refine (commitment_binds_iff jce callee s q.data _ haccepts fun pvr hpvr => ?_).mpr hcovers
  rw [hshows.pvr, Except.ok.injEq] at hpvr
  rw [← hpvr]
  exact jce_malleable _ _ (dhPublic_ne_nil caller.keys)

/-- A responder that accepts a DHPart2 whose message is its first twelve bytes
    accepts another with a different public value. -/
theorem commitment_not_binding :
    ∃ is s d d' dh dh', Run.run (step jce callee) (start jce callee .empty false 0) is = .ok s ∧
      Accepts jce callee s d dh ∧ Accepts jce callee s d' dh' ∧ CollisionFree jce s dh dh' ∧
      ¬ SameFields dh dh' := by
  have hready := ready 0
  rcases shortened_spec jce caller .dh3k ⟨none, none⟩ hready.keyableI false with
    ⟨hsend, hlength, hbytes, hshows⟩
  generalize shortened jce caller .dh3k ⟨none, none⟩ false = q at *
  rcases exists_commit jce caller (helloBytes jce callee false) ⟨q, .dh3k⟩ _ hbytes false with
    ⟨commit, hcommit⟩
  rcases reaches_dh2 (c := ⟨0, 0, 0, 0, 0⟩) hready 0 commit hcommit with ⟨is, s, hrun, hs⟩
  have haccepts := accepts_of_shows (c := ⟨0, 0, 0, 0, 0⟩) hready commit hcommit s hs q hsend hshows
    hbytes _ rfl
  have hcovers : ¬ Covers ⟨q, .dh3k⟩ := by
    rintro ⟨l, hl, h⟩
    rw [hlength, Except.ok.injEq] at hl
    rw [← hl] at h
    change (76 + 384 : Int) ≤ 12 at h
    omega
  have hmalleable : ∀ pvr, DHPacket.getPvr ⟨q, .dh3k⟩ = .ok pvr →
      Malleable jce callee.keys .dh3k pvr := by
    intro pvr hpvr
    rw [hshows.pvr, Except.ok.injEq] at hpvr
    rw [← hpvr]
    exact jce_malleable _ _ (dhPublic_ne_nil caller.keys)
  rcases accepts_altered jce callee s q.data _ haccepts hcovers hmalleable with
    ⟨d', dh', haccepts', hfree, hpvr⟩
  exact ⟨is, s, q.data, d', _, dh', hrun, haccepts, haccepts', hfree, fun h => hpvr h.pvr⟩

end ZRTPResponderSocket

end RedPhone
