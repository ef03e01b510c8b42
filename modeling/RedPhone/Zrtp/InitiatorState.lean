import RedPhone.Zrtp.Network

/-!
# What the Initiator Has Made

The invariants of a party on its own: which packets it has made in which
state, with which fields, and what its master secret was derived from. Nothing
is assumed here about what it receives. What both parties need for it comes
first; the responder's invariants have a module of their own.

A packet, once made, stays. That is what makes it possible to compare a packet
with the copy its peer has, however much later, and it is not quite obvious:
every handler assigns its packets anew, and only the state in which it runs
says that they had not been assigned before.

There is one lemma about an iteration, `local_step`. Besides keeping the
invariant it says that packets made stay (`Grows`) and where the packets
received come from (`Takes`).

## Main definitions

* `ZRTPInitiatorSocket.Made`: The packets made.
* `Local`: The invariant.
* `Grows`: Packets made stay.
* `Takes`: Packets received were received as their type.

## Theorems

* `local_step`: What an iteration keeps.
* `made_cases`: A packet made is known by its type.
-/

namespace RedPhone

open HandshakePacket RetainedSecretsCalculator

/-- What is sent for a party's secrets fills its fields. -/
theorem length_ids (C : Crypto) (role : Role) (secrets : RetainedSecrets)
    (ids : RetainedSecretsDerivatives) (random : DHPacket.RandomBytes)
    (h : calculateDerivatives C role secrets = .ok ids) :
    (ids.rs1ID.getD random.rs1).length = 8 ∧ (ids.rs2ID.getD random.rs2).length = 8 := by
  rcases (calculateDerivatives_ok C role secrets ids).mp h with ⟨_, rfl⟩
  have hlen : ∀ (secret : Option Bytes) (filler : Bytes), filler.length = 8 →
      ((secret.map (derivative C role)).getD filler).length = 8 := by
    intro secret filler hfiller
    cases secret with
    | none => exact hfiller
    | some x =>
        simp only [Option.map_some, Option.getD_some, derivative]
        rw [List.length_take, C.hmacSha256_length]
        rfl
  exact ⟨hlen _ _ random.rs1_length, hlen _ _ random.rs2_length⟩

namespace Config

variable (C : Crypto) (cfg : Config)

theorem length_h1 : (cfg.hashChain C).h1.length = 32 := C.sha256_length _

theorem length_h2 : (cfg.hashChain C).h2.length = 32 := C.sha256_length _

theorem length_h3 : (cfg.hashChain C).h3.length = 32 := C.sha256_length _

theorem hello_made (legacy : Bool) :
    HelloPacket.Made C (cfg.hashChain C) cfg.localZid cfg.version legacy
      (HelloPacket.create C (cfg.hashChain C) cfg.localZid cfg.version legacy) :=
  HelloPacket.create_made (cfg.length_h3 C) cfg.localZid_length

theorem dh_made (role : Role) (type : Bytes) (htype : type.length = 8) (t : AgreementType)
    (secrets : RetainedSecrets) (ids : RetainedSecretsDerivatives)
    (hids : calculateDerivatives C role secrets = .ok ids) (legacy : Bool) :
    DHPacket.Made C type t (cfg.hashChain C) (cfg.keys.getPublicKey C t) ids cfg.random legacy
      (DHPacket.create C type t (cfg.hashChain C) (cfg.keys.getPublicKey C t) ids cfg.random
        legacy) := by
  rcases length_ids C role secrets ids cfg.random hids with ⟨hid1, hid2⟩
  exact DHPacket.create_made htype (cfg.length_h1 C) (KeyPairs.length_publicKey C cfg.keys t)
    hid1 hid2

end Config

/-- A new packet no longer than a datagram. -/
theorem sendable_of_header {type : Bytes} {length : Nat} {legacy : Bool} {p : HandshakePacket}
    (h : HasHeader type length legacy p) (hlen : 12 ≤ length) (hmax : length ≤ 4000) :
    Sendable p := by
  refine ⟨h.whole hlen, ?_⟩
  have := legacyOffset_le legacy
  rw [h.packetLength_eq]
  omega

/-! ## The initiator -/

namespace ZRTPInitiatorSocket

/-- The packets an initiator has made. -/
def Made (s : ZRTPInitiatorSocket) (p : HandshakePacket) : Prop :=
  s.role.localHello = some p ∨ s.role.commitPacket = some p ∨
    (∃ d, s.role.localDH = some d ∧ d.packet = p) ∨
    ∃ legacy, HasHeader ConfirmPacket.TYPE_TWO 76 legacy p

/-- What an initiator's DHPart2 and Commit were made from. -/
def Committed (C : Crypto) (cfg : Config) (s : ZRTPInitiatorSocket) (d : DHPacket) : Prop :=
  ∃ hello commit secrets ids t helloBytes dhBytes,
    s.role.foreignHello = some hello ∧ hello.getMessageBytes = .ok helloBytes ∧
    s.role.commitPacket = some commit ∧ s.role.retainedSecrets = some secrets ∧
    calculateDerivatives C .initiator secrets = .ok ids ∧ s.getKeyAgreementType = .ok t ∧
    DHPacket.Made C DHPacket.TYPE_TWO t (cfg.hashChain C) (cfg.keys.getPublicKey C t) ids cfg.random
      s.role.includeLegacyHeaderBug d ∧
    d.packet.getMessageBytes = .ok dhBytes ∧
    CommitPacket.Made C (cfg.hashChain C) helloBytes dhBytes cfg.localZid t
      s.role.includeLegacyHeaderBug commit

/-- The invariant of an initiator on its own. -/
structure Local (C : Crypto) (cfg : Config) (s : ZRTPInitiatorSocket) : Prop where
  states : s.state ≠ .expectingCommit ∧ s.state ≠ .expectingDh2 ∧ s.state ≠ .expectingConfirmTwo
  fresh : s.state = .expectingHello → s.role.localHello = none
  uncommitted : s.state = .expectingHello ∨ s.state = .expectingHelloAck →
    s.role.commitPacket = none ∧ s.role.localDH = none
  unkeyed : s.state = .expectingHello ∨ s.state = .expectingHelloAck ∨ s.state = .expectingDh1 →
    s.masterSecret = none
  hello : ∀ p, s.role.localHello = some p → p = HelloPacket.create C (cfg.hashChain C) cfg.localZid
    cfg.version s.role.includeLegacyHeaderBug
  committed : ∀ d, s.role.localDH = some d → Committed C cfg s d
  commit : ∀ c, s.role.commitPacket = some c → ∃ d, s.role.localDH = some d
  keyed : ∀ ms, s.masterSecret = some ms → ∃ packet foreignDH,
    s.role.foreignDH = some foreignDH ∧ AcceptedDH C cfg packet s foreignDH ms
  sends : Sends s.Made s

/-- Packets made stay. -/
structure Grows (s s' : ZRTPInitiatorSocket) : Prop where
  localHello : ∀ p, s.role.localHello = some p → s'.role.localHello = some p
  commitPacket : ∀ p, s.role.commitPacket = some p → s'.role.commitPacket = some p
  localDH : ∀ d, s.role.localDH = some d → s'.role.localDH = some d

theorem Grows.made {s s' : ZRTPInitiatorSocket} (h : Grows s s') (p : HandshakePacket)
    (hp : s.Made p) : s'.Made p := by
  rcases hp with hp | hp | ⟨d, hd, rfl⟩ | hp
  · exact Or.inl (h.localHello p hp)
  · exact Or.inr (Or.inl (h.commitPacket p hp))
  · exact Or.inr (Or.inr (Or.inl ⟨d, h.localDH d hd, rfl⟩))
  · exact Or.inr (Or.inr (Or.inr hp))

/-- Packets received are held already, or came now, as what they are. -/
structure Takes (s : ZRTPInitiatorSocket) (i : Input) (s' : ZRTPInitiatorSocket) : Prop where
  foreignHello : ∀ p, s'.role.foreignHello = some p → s.role.foreignHello = some p ∨
    ∃ d, i.event = .datagram d ∧ (s.received d).getType = .ok HelloPacket.TYPE ∧
      p = ZRTPSocket.ofDatagram d
  foreignDH : ∀ p, s'.role.foreignDH = some p → s.role.foreignDH = some p ∨
    ∃ d, i.event = .datagram d ∧ (s.received d).getType = .ok DHPacket.TYPE_ONE ∧
      p.packet = ZRTPSocket.ofDatagram d

variable {C : Crypto} {cfg : Config} {s s' : ZRTPInitiatorSocket}

theorem Takes.same {i : Input} (hhello : s'.role.foreignHello = s.role.foreignHello)
    (hdh : s'.role.foreignDH = s.role.foreignDH) : Takes s i s' := by
  refine ⟨?_, ?_⟩
  · rw [hhello]
    exact fun _ hp => Or.inl hp
  · rw [hdh]
    exact fun _ hp => Or.inl hp

/-- Every packet made can be sent. -/
theorem made_sendable (hello : ∀ p, s.role.localHello = some p →
      p = HelloPacket.create C (cfg.hashChain C) cfg.localZid cfg.version
        s.role.includeLegacyHeaderBug)
    (committed : ∀ d, s.role.localDH = some d → Committed C cfg s d)
    (commit : ∀ c, s.role.commitPacket = some c → ∃ d, s.role.localDH = some d)
    (p : HandshakePacket) (hp : s.Made p) : Sendable p := by
  -- A Hello grows with its options, of which there are few.
  have hcount := cfg.version.keyAgreements_count
  rcases hp with hp | hp | ⟨d, hd, rfl⟩ | ⟨legacy, hp⟩
  · have hmade := cfg.hello_made C s.role.includeLegacyHeaderBug
    rw [← hello p hp] at hmade
    exact sendable_of_header hmade.header (by omega) (by omega)
  · rcases commit p hp with ⟨d, hd⟩
    rcases committed d hd with ⟨_, c, _, _, _, _, _, _, _, hc, _, _, _, _, _, hmade⟩
    rw [hp, Option.some.injEq] at hc
    rw [← hc] at hmade
    exact sendable_of_header hmade.header (by decide) (by decide)
  · rcases committed d hd with ⟨_, _, _, _, t, _, _, _, _, _, _, _, _, hmade, _, _⟩
    have hlen := t.dhLength_eq
    have hpvr := t.pvrLength_le
    exact sendable_of_header hmade.header (by omega) (by omega)
  · exact sendable_of_header hp (by decide) (by decide)

/-- The same in everything a DHPart1 is checked against. -/
structure SameInputs (s s' : ZRTPInitiatorSocket) : Prop where
  foreignHello : s'.role.foreignHello = s.role.foreignHello
  localHello : s'.role.localHello = s.role.localHello
  commitPacket : s'.role.commitPacket = s.role.commitPacket
  localDH : s'.role.localDH = s.role.localDH
  retainedSecrets : s'.role.retainedSecrets = s.role.retainedSecrets
  legacy : s'.role.includeLegacyHeaderBug = s.role.includeLegacyHeaderBug

namespace SameInputs

theorem of_role (h : s'.role = s.role) : SameInputs s s' := by
  refine ⟨?_, ?_, ?_, ?_, ?_, ?_⟩ <;> rw [h]

theorem committed (h : SameInputs s s') (d : DHPacket) (hd : Committed C cfg s d) :
    Committed C cfg s' d := by
  unfold Committed getKeyAgreementType
  rw [h.foreignHello, h.commitPacket, h.retainedSecrets, h.legacy]
  exact hd

theorem accepted (h : SameInputs s s') (packet : HandshakePacket) (d : DHPacket)
    (ms : MasterSecret) (hd : AcceptedDH C cfg packet s d ms) :
    AcceptedDH C cfg packet s' d ms := by
  refine ⟨?_, ?_, ?_⟩
  · unfold getKeyAgreementType
    rw [h.foreignHello]
    exact hd.copy
  · rw [h.foreignHello]
    exact hd.verified
  · rw [h.foreignHello, h.localHello, h.commitPacket, h.localDH, h.retainedSecrets]
    exact hd.derived

theorem grows (h : SameInputs s s') : Grows s s' := by
  refine ⟨?_, ?_, ?_⟩
  · rw [h.localHello]
    exact fun _ hp => hp
  · rw [h.commitPacket]
    exact fun _ hp => hp
  · rw [h.localDH]
    exact fun _ hp => hp

end SameInputs

/-- An iteration without a handler keeps the invariant. -/
theorem Local.idle (h : Local C cfg s) (hidle : ZRTPSocket.Idle s s') : Local C cfg s' := by
  have hsame : SameInputs s s' := .of_role hidle.role_eq
  have hmade : s'.Made = s.Made := by
    unfold Made
    rw [hidle.role_eq]
  -- A resend repeats what was made.
  have hsends := h.sends.idle hidle (made_sendable h.hello h.committed h.commit)
  rw [← hmade] at hsends
  -- The state is the one before, or terminated.
  have hstates := hidle.state_eq
  refine
    { states := ?_, fresh := ?_, uncommitted := ?_, unkeyed := ?_, hello := ?_, committed := ?_,
      commit := ?_, keyed := ?_, sends := hsends }
  · rcases hstates with hs | hs
    · rw [hs]
      exact h.states
    · rw [hs]
      decide
  · intro hs
    rw [hidle.role_eq]
    rcases hstates with hs' | hs'
    · exact h.fresh (hs' ▸ hs)
    · simp only [hs', reduceCtorEq] at hs
  · intro hs
    rw [hidle.role_eq]
    rcases hstates with hs' | hs'
    · exact h.uncommitted (hs' ▸ hs)
    · simp only [hs', reduceCtorEq, or_self] at hs
  · intro hs
    rw [hidle.masterSecret_eq]
    rcases hstates with hs' | hs'
    · exact h.unkeyed (hs' ▸ hs)
    · simp only [hs', reduceCtorEq, or_self] at hs
  · rw [hidle.role_eq]
    exact h.hello
  · intro d hd
    rw [hidle.role_eq] at hd
    exact hsame.committed d (h.committed d hd)
  · rw [hidle.role_eq]
    exact h.commit
  · intro ms hms
    rw [hidle.masterSecret_eq] at hms
    rcases h.keyed ms hms with ⟨packet, d, hd, haccepted⟩
    rw [hidle.role_eq]
    exact ⟨packet, d, hd, hsame.accepted packet d ms haccepted⟩

variable {c : Clock} {packet : HandshakePacket}

theorem Local.handleHello (h : Local C cfg s) (hstate : s.state = .expectingHello)
    (hrun : handleHello C cfg c packet s = .ok s') : Local C cfg s' ∧ Grows s s' := by
  rcases handleHello_ok hrun with ⟨foreignHello, _, hs'⟩
  have hfresh := h.fresh hstate
  rcases h.uncommitted (Or.inl hstate) with ⟨hcommit, hdh⟩
  have hkey := h.unkeyed (Or.inl hstate)
  have hstate' : s'.state = .expectingHelloAck := by rw [hs']; rfl
  -- The Hello is made with the header the peer has used.
  have hhello' : s'.role.localHello = some (HelloPacket.create C (cfg.hashChain C) cfg.localZid
      cfg.version s'.role.includeLegacyHeaderBug) := by rw [hs']; rfl
  have hcommit' : s'.role.commitPacket = none := by rw [hs']; exact hcommit
  have hdh' : s'.role.localDH = none := by rw [hs']; exact hdh
  have hkey' : s'.masterSecret = none := by rw [hs']; exact hkey
  -- Nothing was made before, so nothing is replaced.
  have hgrows : Grows s s' := by
    refine ⟨?_, ?_, ?_⟩
    · rw [hfresh]
      exact fun _ hp => nomatch hp
    · rw [hcommit]
      exact fun _ hp => nomatch hp
    · rw [hdh]
      exact fun _ hd => nomatch hd
  have hhello : ∀ p, s'.role.localHello = some p → p = HelloPacket.create C (cfg.hashChain C)
      cfg.localZid cfg.version s'.role.includeLegacyHeaderBug := by
    intro p hp
    rw [hhello', Option.some.injEq] at hp
    exact hp.symm
  have hcommitted : ∀ d, s'.role.localDH = some d → Committed C cfg s' d := by
    rw [hdh']
    exact fun _ hd => nomatch hd
  have hcommits : ∀ p, s'.role.commitPacket = some p → ∃ d, s'.role.localDH = some d := by
    rw [hcommit']
    exact fun _ hp => nomatch hp
  have hmade : s'.Made (HelloPacket.create C (cfg.hashChain C) cfg.localZid cfg.version
      s'.role.includeLegacyHeaderBug) := Or.inl hhello'
  refine ⟨?_, hgrows⟩
  refine
    { states := ?_, fresh := ?_, uncommitted := fun _ => ⟨hcommit', hdh'⟩,
      unkeyed := fun _ => hkey', hello := hhello, committed := hcommitted, commit := hcommits,
      keyed := ?_, sends := ?_ }
  · rw [hstate']
    decide
  · rw [hstate']
    exact nofun
  · rw [hkey']
    exact nofun
  · exact h.sends.fresh hgrows.made s.sequence _ (by rw [hs']; rfl) (by rw [hs']; rfl) hmade
      (made_sendable hhello hcommitted hcommits _ hmade)

theorem Local.handleHelloAck (h : Local C cfg s) (hstate : s.state = .expectingHelloAck)
    (p : HandshakePacket) (hrun : handleHelloAck C cfg c p s = .ok s') :
    Local C cfg s' ∧ Grows s s' := by
  rcases handleHelloAck_ok p hrun with ⟨foreignHello, zid, secrets, ids, t, localDH, helloBytes,
    commit, hforeign, _, _, hids, ht, hlocalDH, hhelloBytes, hcommit, hs'⟩
  rcases h.uncommitted (Or.inr hstate) with ⟨hnocommit, hnodh⟩
  have hkey := h.unkeyed (Or.inr (Or.inl hstate))
  have hstate' : s'.state = .expectingDh1 := by rw [hs']; rfl
  have hhello' : s'.role.localHello = s.role.localHello := by rw [hs']; rfl
  have hlegacy' : s'.role.includeLegacyHeaderBug = s.role.includeLegacyHeaderBug := by rw [hs']; rfl
  have hforeign' : s'.role.foreignHello = s.role.foreignHello := by rw [hs']; rfl
  have hcommit' : s'.role.commitPacket = some commit := by rw [hs']; rfl
  have hdh' : s'.role.localDH = some localDH := by rw [hs']; rfl
  have hsecrets' : s'.role.retainedSecrets = some secrets := by rw [hs']; rfl
  have hkey' : s'.masterSecret = none := by rw [hs']; exact hkey
  -- Nothing was committed to before.
  have hgrows : Grows s s' := by
    refine ⟨?_, ?_, ?_⟩
    · rw [hhello']
      exact fun _ hp => hp
    · rw [hnocommit]
      exact fun _ hp => nomatch hp
    · rw [hnodh]
      exact fun _ hd => nomatch hd
  have hcommitted : Committed C cfg s' localDH := by
    have hdh := cfg.dh_made C .initiator DHPacket.TYPE_TWO DHPacket.length_TYPE_TWO t secrets ids
      hids s.role.includeLegacyHeaderBug
    rw [← hlocalDH] at hdh
    have hlen := t.dhLength_eq
    have hpvr := t.pvrLength_le
    have hbytes := hdh.header.getMessageBytes_eq (by omega) (by omega)
    -- The Commit is made over the DHPart2 that is kept for later.
    have hmade := CommitPacket.create_made localDH commit (cfg.length_h2 C) cfg.localZid_length
      hbytes hcommit
    rw [hdh.agreementType] at hmade
    have ht' : s'.getKeyAgreementType = .ok t := by
      unfold getKeyAgreementType at ht ⊢
      rw [hforeign']
      exact ht
    rw [← hforeign'] at hforeign
    rw [← hlegacy'] at hdh hmade hbytes
    exact ⟨foreignHello, commit, secrets, ids, t, helloBytes, _, hforeign, hhelloBytes, hcommit',
      hsecrets', hids, ht', hdh, hbytes, hmade⟩
  have hhello : ∀ p, s'.role.localHello = some p → p = HelloPacket.create C (cfg.hashChain C)
      cfg.localZid cfg.version s'.role.includeLegacyHeaderBug := by
    rw [hhello', hlegacy']
    exact h.hello
  have hcommitteds : ∀ d, s'.role.localDH = some d → Committed C cfg s' d := by
    intro d hd
    rw [hdh', Option.some.injEq] at hd
    exact hd ▸ hcommitted
  have hcommits : ∀ p, s'.role.commitPacket = some p → ∃ d, s'.role.localDH = some d :=
    fun _ _ => ⟨localDH, hdh'⟩
  have hmade : s'.Made commit := Or.inr (Or.inl hcommit')
  refine ⟨?_, hgrows⟩
  refine
    { states := ?_, fresh := ?_, uncommitted := ?_, unkeyed := fun _ => hkey', hello := hhello,
      committed := hcommitteds, commit := hcommits, keyed := ?_, sends := ?_ }
  · rw [hstate']
    decide
  · rw [hstate']
    exact nofun
  · rw [hstate']
    exact nofun
  · rw [hkey']
    exact nofun
  · exact h.sends.fresh hgrows.made s.sequence _ (by rw [hs']; rfl) (by rw [hs']; rfl) hmade
      (made_sendable hhello hcommitteds hcommits _ hmade)

/-- A handler of a later state keeps everything made, and the invariant holds
    again if it derives its master secret from a DHPart1 and sends something
    made. -/
theorem Local.later (h : Local C cfg s) (hsame : SameInputs s s') (hstates : s'.state =
      .expectingConfirmOne ∨ s'.state = .expectingConfirmAck ∨ s'.state = .handshakeComplete)
    (hkeyed : ∀ ms, s'.masterSecret = some ms → ∃ packet foreignDH,
      s'.role.foreignDH = some foreignDH ∧ AcceptedDH C cfg packet s foreignDH ms)
    (hsends : (∀ p, s'.Made p → Sendable p) → Sends s'.Made s') : Local C cfg s' := by
  -- What was made before is there unchanged.
  have hhello : ∀ p, s'.role.localHello = some p → p = HelloPacket.create C (cfg.hashChain C)
      cfg.localZid cfg.version s'.role.includeLegacyHeaderBug := by
    rw [hsame.localHello, hsame.legacy]
    exact h.hello
  have hcommitted : ∀ d, s'.role.localDH = some d → Committed C cfg s' d := by
    intro d hd
    rw [hsame.localDH] at hd
    exact hsame.committed d (h.committed d hd)
  have hcommits : ∀ p, s'.role.commitPacket = some p → ∃ d, s'.role.localDH = some d := by
    rw [hsame.commitPacket, hsame.localDH]
    exact h.commit
  refine
    { states := ?_, fresh := ?_, uncommitted := ?_, unkeyed := ?_, hello := hhello,
      committed := hcommitted, commit := hcommits, keyed := ?_,
      sends := hsends (made_sendable hhello hcommitted hcommits) }
  · rcases hstates with hs | hs | hs <;> rw [hs] <;> decide
  · rcases hstates with hs | hs | hs <;> rw [hs] <;> exact nofun
  · rcases hstates with hs | hs | hs <;> rw [hs] <;> exact nofun
  · rcases hstates with hs | hs | hs <;> rw [hs] <;> exact nofun
  · intro ms hms
    rcases hkeyed ms hms with ⟨packet, d, hd, haccepted⟩
    exact ⟨packet, d, hd, hsame.accepted packet d ms haccepted⟩

theorem Local.handleDH (h : Local C cfg s) (hrun : handleDH C cfg c packet s = .ok s') :
    Local C cfg s' ∧ Grows s s' := by
  rcases handleDH_ok hrun with ⟨foreignDH, localDH, ms, haccepted, hlocalDH, hs'⟩
  have hsame : SameInputs s s' := by
    rw [hs']
    exact ⟨rfl, rfl, rfl, rfl, rfl, rfl⟩
  have hdh' : s'.role.localDH = some localDH := hsame.localDH.trans hlocalDH
  refine ⟨h.later hsame (Or.inl (by rw [hs']; rfl)) ?_ ?_, hsame.grows⟩
  -- The master secret is the one just derived.
  · intro ms' hms
    rw [hs', ZRTPSocket.sendFreshPacket_masterSecret, Option.some.injEq] at hms
    exact ⟨packet, foreignDH, by rw [hs']; rfl, hms ▸ haccepted⟩
  · intro hsendable
    have hmade : s'.Made localDH.packet := Or.inr (Or.inr (Or.inl ⟨localDH, hdh', rfl⟩))
    exact h.sends.fresh hsame.grows.made s.sequence _ (by rw [hs']; rfl) (by rw [hs']; rfl) hmade
      (hsendable _ hmade)

theorem Local.handleConfirmOne (h : Local C cfg s)
    (hrun : handleConfirmOne C cfg c packet s = .ok s') : Local C cfg s' ∧ Grows s s' := by
  rcases handleConfirmOne_ok hrun with ⟨_, legacyConfirm, ms, _, _, _, _, _, _, _, _, _, _, _, hs'⟩
  have hsame : SameInputs s s' := by
    rw [hs']
    exact ⟨rfl, rfl, rfl, rfl, rfl, rfl⟩
  refine ⟨h.later hsame (Or.inr (Or.inl (by rw [hs']; rfl))) ?_ ?_, hsame.grows⟩
  · rw [hs']
    exact h.keyed
  · intro hsendable
    -- The vector is zero or random, and sixteen bytes either way.
    have hiv := ConfirmPacket.length_iv legacyConfirm cfg.confirmIv cfg.confirmIv_length
    have hmade : s'.Made (ConfirmPacket.create C ConfirmPacket.TYPE_TWO ms.macI ms.zrtpKeyI
        (cfg.hashChain C) (ConfirmPacket.iv legacyConfirm cfg.confirmIv)
        s.role.includeLegacyHeaderBug) :=
      Or.inr (Or.inr (Or.inr ⟨_, (ConfirmPacket.create_made C _ _ _ _ _ _
        ConfirmPacket.length_TYPE_TWO cfg.h0_length hiv).header⟩))
    exact h.sends.fresh hsame.grows.made s.sequence _ (by rw [hs']; rfl) (by rw [hs']; rfl) hmade
      (hsendable _ hmade)

theorem Local.handleConfirmAck (h : Local C cfg s) (p : HandshakePacket)
    (hrun : handleConfirmAck C cfg c p s = .ok s') : Local C cfg s' ∧ Grows s s' := by
  rcases handleConfirmAck_next p hrun with ⟨_, hs'⟩
  have hsame : SameInputs s s' := by
    rw [hs']
    exact ⟨rfl, rfl, rfl, rfl, rfl, rfl⟩
  refine ⟨h.later hsame (Or.inr (Or.inr (by rw [hs']))) ?_ ?_, hsame.grows⟩
  · rw [hs']
    exact h.keyed
  · intro _
    exact h.sends.congr hsame.grows.made (by rw [hs']) (by rw [hs'])

theorem local_create (database : RetainedSecretsDatabase) : Local C cfg (create database) := by
  refine
    { states := ⟨nofun, nofun, nofun⟩, fresh := fun _ => rfl, uncommitted := fun _ => ⟨rfl, rfl⟩,
      unkeyed := fun _ => rfl, hello := nofun, committed := nofun, commit := nofun, keyed := nofun,
      sends := ⟨nofun, nofun⟩ }

/-- What an iteration keeps. -/
theorem local_step (h : Local C cfg s) (i : Input) (hstep : step C cfg s i = .ok s') :
    Local C cfg s' ∧ Grows s s' ∧ Takes s i s' := by
  rcases ZRTPSocket.negotiate_ok _ s s' i hstep with ⟨d, hevent, _, _, hhandled⟩ | ⟨hidle, _, _⟩
  · have hreceived : Local C cfg { s with buf := s.buf.receive d } :=
      h.idle ⟨rfl, rfl, rfl, Or.inl rfl, Or.inl ⟨rfl, rfl⟩⟩
    -- A datagram has a handler in the state it is received in, and each keeps the
    -- invariant.
    cases hhandled with
    | hello hstate htype hrun =>
        rcases hreceived.handleHello hstate hrun with ⟨hlocal, hgrows⟩
        rcases handleHello_ok hrun with ⟨foreignHello, hcopy, hs'⟩
        refine ⟨hlocal, ⟨hgrows.1, hgrows.2, hgrows.3⟩, ⟨?_, ?_⟩⟩
        · intro p hp
          rw [hs', ZRTPSocket.sendFreshPacket_role, Option.some.injEq] at hp
          exact Or.inr ⟨d, hevent, htype, hp ▸ ((ZRTPSocket.copyOf_received d s _).mp hcopy).2⟩
        · rw [hs']
          exact fun _ hp => Or.inl hp
    | helloAck hstate _ hrun =>
        rcases hreceived.handleHelloAck hstate (s.received d) hrun with ⟨hlocal, hgrows⟩
        rcases handleHelloAck_next (s.received d) hrun with ⟨_, _, _, hs'⟩
        exact ⟨hlocal, ⟨hgrows.1, hgrows.2, hgrows.3⟩, .same (by rw [hs']; rfl) (by rw [hs']; rfl)⟩
    | commit _ _ hrun => simp only [handlers, Java.raise, reduceCtorEq] at hrun
    | dhOne _ htype hrun =>
        rcases hreceived.handleDH hrun with ⟨hlocal, hgrows⟩
        rcases handleDH_ok hrun with ⟨foreignDH, _, _, haccepted, _, hs'⟩
        refine ⟨hlocal, ⟨hgrows.1, hgrows.2, hgrows.3⟩, ⟨?_, ?_⟩⟩
        · rw [hs']
          exact fun _ hp => Or.inl hp
        · intro p hp
          rw [hs', ZRTPSocket.sendFreshPacket_role, Option.some.injEq] at hp
          rcases haccepted.copy with ⟨t, _, hcopy⟩
          simp only [DHPacket.copyOf, Java.bind_ok, Except.ok.injEq] at hcopy
          rcases hcopy with ⟨q, hq, rfl⟩
          exact Or.inr ⟨d, hevent, htype, hp ▸ ((ZRTPSocket.copyOf_received d s q).mp hq).2⟩
    | dhTwo hstate _ _ => exact absurd hstate h.states.2.1
    | confirmOne _ _ hrun =>
        rcases hreceived.handleConfirmOne hrun with ⟨hlocal, hgrows⟩
        rcases handleConfirmOne_next hrun with ⟨_, _, hs'⟩
        exact ⟨hlocal, ⟨hgrows.1, hgrows.2, hgrows.3⟩, .same (by rw [hs']; rfl) (by rw [hs']; rfl)⟩
    | confirmTwo _ _ hrun => simp only [handlers, reduceCtorEq] at hrun
    | confirmAck _ _ hrun =>
        rcases hreceived.handleConfirmAck (s.received d) hrun with ⟨hlocal, hgrows⟩
        rcases handleConfirmAck_next (s.received d) hrun with ⟨_, hs'⟩
        exact ⟨hlocal, ⟨hgrows.1, hgrows.2, hgrows.3⟩, .same (by rw [hs']) (by rw [hs'])⟩
  · exact ⟨h.idle hidle, (SameInputs.of_role hidle.role_eq).grows,
      .same (by rw [hidle.role_eq]) (by rw [hidle.role_eq])⟩

/-- A packet made is known by its type. -/
theorem made_cases (h : Local C cfg s) (p : HandshakePacket) (hp : s.Made p) :
    (s.role.localHello = some p ∧ p.getType = .ok HelloPacket.TYPE) ∨
    (s.role.commitPacket = some p ∧ p.getType = .ok CommitPacket.TYPE) ∨
    (∃ d, s.role.localDH = some d ∧ d.packet = p ∧ p.getType = .ok DHPacket.TYPE_TWO) ∨
    p.getType = .ok ConfirmPacket.TYPE_TWO := by
  -- Each was made with its own type in the header.
  rcases hp with hp | hp | ⟨d, hd, rfl⟩ | ⟨legacy, hp⟩
  · refine Or.inl ⟨hp, ?_⟩
    have hmade := cfg.hello_made C s.role.includeLegacyHeaderBug
    rw [← h.hello p hp] at hmade
    exact hmade.header.getType_eq (by omega)
  · rcases h.commit p hp with ⟨d, hd⟩
    rcases h.committed d hd with ⟨_, c, _, _, _, _, _, _, _, hc, _, _, _, _, _, hmade⟩
    rw [hp, Option.some.injEq] at hc
    rw [← hc] at hmade
    exact Or.inr (Or.inl ⟨hp, hmade.header.getType_eq (by decide)⟩)
  · rcases h.committed d hd with ⟨_, _, _, _, t, _, _, _, _, _, _, _, _, hmade, _, _⟩
    have hlen := t.dhLength_eq
    exact Or.inr (Or.inr (Or.inl ⟨d, hd, rfl, hmade.header.getType_eq (by omega)⟩))
  · exact Or.inr (Or.inr (Or.inr (hp.getType_eq (by decide))))

end ZRTPInitiatorSocket

end RedPhone
