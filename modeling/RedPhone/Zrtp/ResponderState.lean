import RedPhone.Zrtp.InitiatorState

/-!
# What the Responder Has Made

The responder's counterpart to the invariants of the initiator. Its Hello is
there from the start, its acknowledgements have nothing but a header, and the
last of them, the Conf2Ack, is made only by a responder that has completed.

## Main definitions

* `ZRTPResponderSocket.Made`: The packets made.
* `Local`: The invariant.
* `Grows`: Packets made stay, and so does completion.
* `Takes`: Packets received were received as their type.

## Theorems

* `local_step`: What an iteration keeps.
* `made_cases`: A packet made is known by its type.
-/

namespace RedPhone

open HandshakePacket RetainedSecretsCalculator

namespace ZRTPResponderSocket

/-- The packets a responder has made. -/
def Made (s : ZRTPResponderSocket) (p : HandshakePacket) : Prop :=
  p = s.role.localHello ∨ (∃ legacy, HasHeader HELLO_ACK_TYPE 12 legacy p) ∨
    (∃ d, s.role.localDH = some d ∧ d.packet = p) ∨
    (∃ legacy, HasHeader ConfirmPacket.TYPE_ONE 76 legacy p) ∨
    ((∃ legacy, HasHeader CONF_ACK_TYPE 12 legacy p) ∧ s.Over)

/-- What a responder's DHPart1 was made from. -/
def Committed (C : Crypto) (cfg : Config) (s : ZRTPResponderSocket) (d : DHPacket) : Prop :=
  ∃ secrets ids t, s.role.retainedSecrets = some secrets ∧
    calculateDerivatives C .responder secrets = .ok ids ∧
    getKeyAgreementType s.role.foreignCommit = .ok t ∧
    DHPacket.Made C DHPacket.TYPE_ONE t (cfg.hashChain C) (cfg.keys.getPublicKey C t) ids cfg.random
      s.role.includeLegacyHeaderBug d

/-- The invariant of a responder on its own. -/
structure Local (C : Crypto) (cfg : Config) (s : ZRTPResponderSocket) : Prop where
  states : s.state ≠ .expectingDh1
  uncommitted : s.state = .expectingHello ∨ s.state = .expectingCommit → s.role.localDH = none
  unkeyed : s.state = .expectingHello ∨ s.state = .expectingCommit ∨ s.state = .expectingDh2 →
    s.masterSecret = none
  hello : s.role.localHello = HelloPacket.create C (cfg.hashChain C) cfg.localZid cfg.version
    s.role.includeLegacyHeaderBug
  committed : ∀ d, s.role.localDH = some d → Committed C cfg s d
  keyed : ∀ ms, s.masterSecret = some ms → ∃ packet foreignDH,
    s.role.foreignDH = some foreignDH ∧ AcceptedDH C cfg packet s foreignDH ms
  sends : Sends s.Made s

/-- Packets made stay, and so does completion. -/
structure Grows (s s' : ZRTPResponderSocket) : Prop where
  localHello : s'.role.localHello = s.role.localHello
  localDH : ∀ d, s.role.localDH = some d → s'.role.localDH = some d
  ended : s.Over → s'.Over

theorem Grows.made {s s' : ZRTPResponderSocket} (h : Grows s s') (p : HandshakePacket)
    (hp : s.Made p) : s'.Made p := by
  rcases hp with rfl | hp | ⟨d, hd, rfl⟩ | hp | ⟨hp, hover⟩
  · exact Or.inl h.localHello.symm
  · exact Or.inr (Or.inl hp)
  · exact Or.inr (Or.inr (Or.inl ⟨d, h.localDH d hd, rfl⟩))
  · exact Or.inr (Or.inr (Or.inr (Or.inl hp)))
  · exact Or.inr (Or.inr (Or.inr (Or.inr ⟨hp, h.ended hover⟩)))

/-- Packets received are held already, or came now, as what they are. -/
structure Takes (s : ZRTPResponderSocket) (i : Input) (s' : ZRTPResponderSocket) : Prop where
  foreignHello : ∀ p, s'.role.foreignHello = some p → s.role.foreignHello = some p ∨
    ∃ d, i.event = .datagram d ∧ (s.received d).getType = .ok HelloPacket.TYPE ∧
      p = ZRTPSocket.ofDatagram d
  foreignCommit : ∀ p, s'.role.foreignCommit = some p → s.role.foreignCommit = some p ∨
    ∃ d, i.event = .datagram d ∧ (s.received d).getType = .ok CommitPacket.TYPE ∧
      p = ZRTPSocket.ofDatagram d
  foreignDH : ∀ p, s'.role.foreignDH = some p → s.role.foreignDH = some p ∨
    ∃ d, i.event = .datagram d ∧ (s.received d).getType = .ok DHPacket.TYPE_TWO ∧
      p.packet = ZRTPSocket.ofDatagram d

variable {C : Crypto} {cfg : Config} {s s' : ZRTPResponderSocket}

theorem Takes.same {i : Input} (hhello : s'.role.foreignHello = s.role.foreignHello)
    (hcommit : s'.role.foreignCommit = s.role.foreignCommit)
    (hdh : s'.role.foreignDH = s.role.foreignDH) : Takes s i s' := by
  refine ⟨?_, ?_, ?_⟩
  · rw [hhello]
    exact fun _ hp => Or.inl hp
  · rw [hcommit]
    exact fun _ hp => Or.inl hp
  · rw [hdh]
    exact fun _ hp => Or.inl hp

/-- Every packet made can be sent. -/
theorem made_sendable (hello : s.role.localHello = HelloPacket.create C (cfg.hashChain C)
      cfg.localZid cfg.version s.role.includeLegacyHeaderBug)
    (committed : ∀ d, s.role.localDH = some d → Committed C cfg s d)
    (p : HandshakePacket) (hp : s.Made p) : Sendable p := by
  have hcount := cfg.version.keyAgreements_count
  rcases hp with rfl | ⟨legacy, hp⟩ | ⟨d, hd, rfl⟩ | ⟨legacy, hp⟩ | ⟨⟨legacy, hp⟩, _⟩
  · have hmade := cfg.hello_made C s.role.includeLegacyHeaderBug
    rw [← hello] at hmade
    exact sendable_of_header hmade.header (by omega) (by omega)
  · exact sendable_of_header hp (by decide) (by decide)
  · rcases committed d hd with ⟨_, _, t, _, _, _, hmade⟩
    have hlen := t.dhLength_eq
    have hpvr := t.pvrLength_le
    exact sendable_of_header hmade.header (by omega) (by omega)
  · exact sendable_of_header hp (by decide) (by decide)
  · exact sendable_of_header hp (by decide) (by decide)

/-- The same in everything a DHPart2 is checked against. -/
structure SameInputs (s s' : ZRTPResponderSocket) : Prop where
  localHello : s'.role.localHello = s.role.localHello
  foreignHello : s'.role.foreignHello = s.role.foreignHello
  foreignCommit : s'.role.foreignCommit = s.role.foreignCommit
  localDH : s'.role.localDH = s.role.localDH
  retainedSecrets : s'.role.retainedSecrets = s.role.retainedSecrets
  legacy : s'.role.includeLegacyHeaderBug = s.role.includeLegacyHeaderBug

namespace SameInputs

theorem of_role (h : s'.role = s.role) : SameInputs s s' := by
  refine ⟨?_, ?_, ?_, ?_, ?_, ?_⟩ <;> rw [h]

theorem committed (h : SameInputs s s') (d : DHPacket) (hd : Committed C cfg s d) :
    Committed C cfg s' d := by
  unfold Committed
  rw [h.foreignCommit, h.retainedSecrets, h.legacy]
  exact hd

theorem accepted (h : SameInputs s s') (packet : HandshakePacket) (d : DHPacket)
    (ms : MasterSecret) (hd : AcceptedDH C cfg packet s d ms) :
    AcceptedDH C cfg packet s' d ms := by
  refine ⟨?_, ?_, ?_⟩
  · rw [h.foreignCommit]
    exact hd.copy
  · rw [h.foreignCommit, h.localHello]
    exact hd.verified
  · rw [h.foreignHello, h.foreignCommit, h.localHello, h.localDH, h.retainedSecrets]
    exact hd.derived

theorem grows (h : SameInputs s s') (hover : s.Over → s'.Over) : Grows s s' := by
  refine ⟨h.localHello, ?_, hover⟩
  rw [h.localDH]
  exact fun _ hp => hp

end SameInputs

/-- An iteration without a handler keeps the invariant. -/
theorem Local.idle (h : Local C cfg s) (hidle : ZRTPSocket.Idle s s') :
    Local C cfg s' ∧ Grows s s' := by
  have hsame : SameInputs s s' := .of_role hidle.role_eq
  have hstates := hidle.state_eq
  have hgrows : Grows s s' := by
    refine hsame.grows (fun hover => ?_)
    rcases hstates with hs | hs
    · unfold ZRTPSocket.Over
      rw [hs]
      exact hover
    · exact Or.inr hs
  -- A resend repeats what was made.
  have hsends := (h.sends.idle hidle (made_sendable h.hello h.committed)).mono hgrows.made
  refine ⟨?_, hgrows⟩
  refine
    { states := ?_, uncommitted := ?_, unkeyed := ?_, hello := ?_, committed := ?_, keyed := ?_,
      sends := hsends }
  · rcases hstates with hs | hs
    · rw [hs]
      exact h.states
    · rw [hs]
      decide
  · intro hs
    rw [hidle.role_eq]
    rcases hstates with hs' | hs'
    · exact h.uncommitted (hs' ▸ hs)
    · simp only [hs', reduceCtorEq, or_self] at hs
  · intro hs
    rw [hidle.masterSecret_eq]
    rcases hstates with hs' | hs'
    · exact h.unkeyed (hs' ▸ hs)
    · simp only [hs', reduceCtorEq, or_self] at hs
  · rw [hidle.role_eq]
    exact h.hello
  · intro d hd
    rw [hidle.role_eq] at hd
    exact hsame.committed d (h.committed d hd)
  · intro ms hms
    rw [hidle.masterSecret_eq] at hms
    rcases h.keyed ms hms with ⟨packet, d, hd, haccepted⟩
    rw [hidle.role_eq]
    exact ⟨packet, d, hd, hsame.accepted packet d ms haccepted⟩

variable {c : Clock} {packet : HandshakePacket}

/-- Before there is a DHPart1 there is only the Hello to keep. -/
theorem grows_of_uncommitted (hhello : s'.role.localHello = s.role.localHello)
    (hdh : s.role.localDH = none) (hcomplete : s.state ≠ .handshakeComplete)
    (hterminated : s.state ≠ .terminated) : Grows s s' := by
  refine ⟨hhello, ?_, ?_⟩
  · intro d hd
    rw [hdh] at hd
    simp only [reduceCtorEq] at hd
  · intro hover
    rcases hover with hover | hover
    · exact absurd hover hcomplete
    · exact absurd hover hterminated

theorem Local.handleHello (h : Local C cfg s) (hstate : s.state = .expectingHello)
    (hrun : handleHello c packet s = .ok s') : Local C cfg s' ∧ Grows s s' := by
  rcases handleHello_ok hrun with ⟨foreignHello, _, hs'⟩
  -- Nothing is agreed on before the Commit.
  have hnodh := h.uncommitted (Or.inl hstate)
  have hkey := h.unkeyed (Or.inl hstate)
  have hstate' : s'.state = .expectingCommit := by rw [hs']; rfl
  have hdh' : s'.role.localDH = none := by rw [hs']; exact hnodh
  have hkey' : s'.masterSecret = none := by rw [hs']; exact hkey
  have hgrows : Grows s s' := grows_of_uncommitted (by rw [hs']; rfl) hnodh
    (by rw [hstate]; decide) (by rw [hstate]; decide)
  have hhello : s'.role.localHello = HelloPacket.create C (cfg.hashChain C) cfg.localZid
      cfg.version s'.role.includeLegacyHeaderBug := by
    rw [hs']
    exact h.hello
  have hcommitted : ∀ d, s'.role.localDH = some d → Committed C cfg s' d := by
    rw [hdh']
    exact fun _ hd => nomatch hd
  -- What is sent is the acknowledgement of the Hello.
  have hmade : s'.Made (HandshakePacket.create HELLO_ACK_TYPE 12 s.role.includeLegacyHeaderBug) :=
    Or.inr (Or.inl ⟨_, HandshakePacket.create_header HELLO_ACK_TYPE 12 _ length_HELLO_ACK_TYPE
      (by decide)⟩)
  refine ⟨?_, hgrows⟩
  refine
    { states := ?_, uncommitted := fun _ => hdh', unkeyed := fun _ => hkey', hello := hhello,
      committed := hcommitted, keyed := ?_, sends := ?_ }
  · rw [hstate']
    decide
  · rw [hkey']
    exact nofun
  · exact h.sends.fresh hgrows.made s.sequence _ (by rw [hs']; rfl) (by rw [hs']; rfl) hmade
      (made_sendable hhello hcommitted _ hmade)

theorem Local.handleCommit (h : Local C cfg s) (hstate : s.state = .expectingCommit)
    (hrun : handleCommit C cfg c packet s = .ok s') : Local C cfg s' ∧ Grows s s' := by
  rcases handleCommit_ok hrun with ⟨commit, foreignHello, zid, secrets, ids, t, localDH, h2, _, _,
    _, _, hids, ht, hlocalDH, _, _, hs'⟩
  have hnodh := h.uncommitted (Or.inr hstate)
  have hkey := h.unkeyed (Or.inr (Or.inl hstate))
  have hstate' : s'.state = .expectingDh2 := by rw [hs']; rfl
  have hdh' : s'.role.localDH = some localDH := by rw [hs']; rfl
  have hlegacy' : s'.role.includeLegacyHeaderBug = s.role.includeLegacyHeaderBug := by rw [hs']; rfl
  have hkey' : s'.masterSecret = none := by rw [hs']; exact hkey
  have hgrows : Grows s s' := grows_of_uncommitted (by rw [hs']; rfl) hnodh
    (by rw [hstate]; decide) (by rw [hstate]; decide)
  have hhello : s'.role.localHello = HelloPacket.create C (cfg.hashChain C) cfg.localZid
      cfg.version s'.role.includeLegacyHeaderBug := by
    rw [hs']
    exact h.hello
  have hcommitted : ∀ d, s'.role.localDH = some d → Committed C cfg s' d := by
    intro d hd
    rw [hdh', Option.some.injEq] at hd
    subst hd
    -- The DHPart1 is of the key agreement the Commit asks for.
    have hdh := cfg.dh_made C .responder DHPacket.TYPE_ONE DHPacket.length_TYPE_ONE t secrets ids
      hids s.role.includeLegacyHeaderBug
    rw [← hlocalDH, ← hlegacy'] at hdh
    exact ⟨secrets, ids, t, by rw [hs']; rfl, hids, by rw [hs']; exact ht, hdh⟩
  have hmade : s'.Made localDH.packet := Or.inr (Or.inr (Or.inl ⟨localDH, hdh', rfl⟩))
  refine ⟨?_, hgrows⟩
  refine
    { states := ?_, uncommitted := ?_, unkeyed := fun _ => hkey', hello := hhello,
      committed := hcommitted, keyed := ?_, sends := ?_ }
  · rw [hstate']
    decide
  · rw [hstate']
    exact nofun
  · rw [hkey']
    exact nofun
  · exact h.sends.fresh hgrows.made s.sequence _ (by rw [hs']; rfl) (by rw [hs']; rfl) hmade
      (made_sendable hhello hcommitted _ hmade)

/-- A handler of a later state keeps everything made, and the invariant holds
    again if it derives its master secret from a DHPart2 and sends something
    made. -/
theorem Local.later (h : Local C cfg s) (hsame : SameInputs s s')
    (hstates : s'.state = .expectingConfirmTwo ∨ s'.state = .handshakeComplete)
    (hkeyed : ∀ ms, s'.masterSecret = some ms → ∃ packet foreignDH,
      s'.role.foreignDH = some foreignDH ∧ AcceptedDH C cfg packet s foreignDH ms)
    (hsends : (∀ p, s'.Made p → Sendable p) → Sends s'.Made s') : Local C cfg s' := by
  have hhello : s'.role.localHello = HelloPacket.create C (cfg.hashChain C) cfg.localZid
      cfg.version s'.role.includeLegacyHeaderBug := by
    rw [hsame.localHello, hsame.legacy]
    exact h.hello
  have hcommitted : ∀ d, s'.role.localDH = some d → Committed C cfg s' d := by
    intro d hd
    rw [hsame.localDH] at hd
    exact hsame.committed d (h.committed d hd)
  refine
    { states := ?_, uncommitted := ?_, unkeyed := ?_, hello := hhello, committed := hcommitted,
      keyed := ?_, sends := hsends (made_sendable hhello hcommitted) }
  · rcases hstates with hs | hs <;> rw [hs] <;> decide
  · rcases hstates with hs | hs <;> rw [hs] <;> exact nofun
  · rcases hstates with hs | hs <;> rw [hs] <;> exact nofun
  · intro ms hms
    rcases hkeyed ms hms with ⟨packet, d, hd, haccepted⟩
    exact ⟨packet, d, hd, hsame.accepted packet d ms haccepted⟩

theorem Local.handleDH (h : Local C cfg s) (hstate : s.state = .expectingDh2)
    (hrun : handleDH C cfg c packet s = .ok s') : Local C cfg s' ∧ Grows s s' := by
  rcases handleDH_ok hrun with ⟨foreignDH, ms, _, legacyConfirm, haccepted, _, _, hs'⟩
  have hsame : SameInputs s s' := by
    rw [hs']
    exact ⟨rfl, rfl, rfl, rfl, rfl, rfl⟩
  have hgrows : Grows s s' := hsame.grows (by
    unfold ZRTPSocket.Over
    rw [hstate]
    exact nofun)
  refine ⟨h.later hsame (Or.inl (by rw [hs']; rfl)) ?_ ?_, hgrows⟩
  · intro ms' hms
    rw [hs', ZRTPSocket.sendFreshPacket_masterSecret, Option.some.injEq] at hms
    exact ⟨packet, foreignDH, by rw [hs']; rfl, hms ▸ haccepted⟩
  · intro hsendable
    have hiv := ConfirmPacket.length_iv legacyConfirm cfg.confirmIv cfg.confirmIv_length
    -- What is sent is the Confirm1, under the keys that were just derived.
    have hmade : s'.Made (ConfirmPacket.create C ConfirmPacket.TYPE_ONE ms.macR ms.zrtpKeyR
        (cfg.hashChain C) (ConfirmPacket.iv legacyConfirm cfg.confirmIv)
        s.role.includeLegacyHeaderBug) :=
      Or.inr (Or.inr (Or.inr (Or.inl ⟨_, (ConfirmPacket.create_made C _ _ _ _ _ _
        ConfirmPacket.length_TYPE_ONE cfg.h0_length hiv).header⟩)))
    exact h.sends.fresh hgrows.made s.sequence _ (by rw [hs']; rfl) (by rw [hs']; rfl) hmade
      (hsendable _ hmade)

theorem Local.handleConfirmTwo (h : Local C cfg s)
    (hrun : handleConfirmTwo C cfg c packet s = .ok s') : Local C cfg s' ∧ Grows s s' := by
  rcases handleConfirmTwo_next hrun with ⟨_, _, hs'⟩
  have hsame : SameInputs s s' := by
    rw [hs']
    exact ⟨rfl, rfl, rfl, rfl, rfl, rfl⟩
  have hstate' : s'.state = .handshakeComplete := by rw [hs']; rfl
  have hgrows : Grows s s' := hsame.grows (fun _ => Or.inl hstate')
  refine ⟨h.later hsame (Or.inr hstate') ?_ ?_, hgrows⟩
  · rw [hs']
    exact h.keyed
  · intro hsendable
    -- The acknowledgement is made only by a socket that is done.
    have hmade : s'.Made (HandshakePacket.create CONF_ACK_TYPE 12 s.role.includeLegacyHeaderBug) :=
      Or.inr (Or.inr (Or.inr (Or.inr ⟨⟨_, HandshakePacket.create_header CONF_ACK_TYPE 12 _
        length_CONF_ACK_TYPE (by decide)⟩, Or.inl hstate'⟩)))
    exact h.sends.fresh hgrows.made s.sequence _ (by rw [hs']; rfl) (by rw [hs']; rfl) hmade
      (hsendable _ hmade)

theorem local_start (database : RetainedSecretsDatabase) (legacy : Bool) (now : Int) :
    Local C cfg (start C cfg database legacy now) := by
  have hsends : Sends (start C cfg database legacy now).Made (create C cfg database legacy) :=
    ⟨nofun, nofun⟩
  -- The constructor has sent the Hello.
  have hmade : (start C cfg database legacy now).Made
      (create C cfg database legacy).role.localHello := Or.inl rfl
  refine
    { states := nofun, uncommitted := fun _ => rfl, unkeyed := fun _ => rfl, hello := rfl,
      committed := nofun, keyed := nofun, sends := ?_ }
  have hcommitted : ∀ d, (start C cfg database legacy now).role.localDH = some d →
      Committed C cfg (start C cfg database legacy now) d := fun _ hd => nomatch hd
  exact hsends.fresh (fun _ hp => hp) 0 _ rfl rfl hmade (made_sendable rfl hcommitted _ hmade)

/-- What an iteration keeps. -/
theorem local_step (h : Local C cfg s) (i : Input) (hstep : step C cfg s i = .ok s') :
    Local C cfg s' ∧ Grows s s' ∧ Takes s i s' := by
  rcases ZRTPSocket.negotiate_ok _ s s' i hstep with ⟨d, hevent, _, _, hhandled⟩ | ⟨hidle, _, _⟩
  · -- The handlers start from the socket with the datagram in its buffer.
    have hbuf : ZRTPSocket.Idle s { s with buf := s.buf.receive d } :=
      ⟨rfl, rfl, rfl, Or.inl rfl, Or.inl ⟨rfl, rfl⟩⟩
    have hreceived := (h.idle hbuf).1
    cases hhandled with
    | hello hstate htype hrun =>
        rcases hreceived.handleHello hstate hrun with ⟨hlocal, hgrows⟩
        rcases handleHello_ok hrun with ⟨foreignHello, hcopy, hs'⟩
        refine ⟨hlocal, ⟨hgrows.1, hgrows.2, hgrows.3⟩, ⟨?_, ?_, ?_⟩⟩
        · intro p hp
          rw [hs', ZRTPSocket.sendFreshPacket_role, Option.some.injEq] at hp
          exact Or.inr ⟨d, hevent, htype, hp ▸ ((ZRTPSocket.copyOf_received d s _).mp hcopy).2⟩
        · rw [hs']
          exact fun _ hp => Or.inl hp
        · rw [hs']
          exact fun _ hp => Or.inl hp
    | helloAck _ _ hrun => simp only [handlers, Java.raise, reduceCtorEq] at hrun
    | commit hstate htype hrun =>
        rcases hreceived.handleCommit hstate hrun with ⟨hlocal, hgrows⟩
        rcases handleCommit_ok hrun with ⟨commit, _, _, _, _, _, _, _, hcopy, _, _, _, _, _, _, _,
          _, hs'⟩
        refine ⟨hlocal, ⟨hgrows.1, hgrows.2, hgrows.3⟩, ⟨?_, ?_, ?_⟩⟩
        · rw [hs']
          exact fun _ hp => Or.inl hp
        · intro p hp
          rw [hs', ZRTPSocket.sendFreshPacket_role, Option.some.injEq] at hp
          exact Or.inr ⟨d, hevent, htype, hp ▸ ((ZRTPSocket.copyOf_received d s _).mp hcopy).2⟩
        · rw [hs']
          exact fun _ hp => Or.inl hp
    | dhOne hstate _ _ => exact absurd hstate h.states
    | dhTwo hstate htype hrun =>
        rcases hreceived.handleDH hstate hrun with ⟨hlocal, hgrows⟩
        rcases handleDH_ok hrun with ⟨foreignDH, _, _, _, haccepted, _, _, hs'⟩
        refine ⟨hlocal, ⟨hgrows.1, hgrows.2, hgrows.3⟩, ⟨?_, ?_, ?_⟩⟩
        · rw [hs']
          exact fun _ hp => Or.inl hp
        · rw [hs']
          exact fun _ hp => Or.inl hp
        · intro p hp
          rw [hs', ZRTPSocket.sendFreshPacket_role, Option.some.injEq] at hp
          rcases haccepted.copy with ⟨t, _, hcopy⟩
          simp only [DHPacket.copyOf, Java.bind_ok, Except.ok.injEq] at hcopy
          rcases hcopy with ⟨q, hq, rfl⟩
          exact Or.inr ⟨d, hevent, htype, hp ▸ ((ZRTPSocket.copyOf_received d s q).mp hq).2⟩
    | confirmOne _ _ hrun => simp only [handlers, reduceCtorEq] at hrun
    | confirmTwo _ _ hrun =>
        rcases hreceived.handleConfirmTwo hrun with ⟨hlocal, hgrows⟩
        rcases handleConfirmTwo_next hrun with ⟨_, _, hs'⟩
        exact ⟨hlocal, ⟨hgrows.1, hgrows.2, hgrows.3⟩, .same (by rw [hs']; rfl) (by rw [hs']; rfl)
          (by rw [hs']; rfl)⟩
    | confirmAck _ _ hrun => simp only [handlers, Java.raise, reduceCtorEq] at hrun
  · rcases h.idle hidle with ⟨hlocal, hgrows⟩
    exact ⟨hlocal, hgrows, .same (by rw [hidle.role_eq]) (by rw [hidle.role_eq])
      (by rw [hidle.role_eq])⟩

/-- A packet made is known by its type, and a Conf2Ack says that its responder
    is done. -/
theorem made_cases (h : Local C cfg s) (p : HandshakePacket) (hp : s.Made p) :
    (p = s.role.localHello ∧ p.getType = .ok HelloPacket.TYPE) ∨
    p.getType = .ok HELLO_ACK_TYPE ∨
    (∃ d, s.role.localDH = some d ∧ d.packet = p ∧ p.getType = .ok DHPacket.TYPE_ONE) ∨
    p.getType = .ok ConfirmPacket.TYPE_ONE ∨ (p.getType = .ok CONF_ACK_TYPE ∧ s.Over) := by
  rcases hp with rfl | ⟨legacy, hp⟩ | ⟨d, hd, rfl⟩ | ⟨legacy, hp⟩ | ⟨⟨legacy, hp⟩, hover⟩
  · have hmade := cfg.hello_made C s.role.includeLegacyHeaderBug
    rw [← h.hello] at hmade
    exact Or.inl ⟨rfl, hmade.header.getType_eq (by omega)⟩
  · exact Or.inr (Or.inl (hp.getType_eq (by decide)))
  · rcases h.committed d hd with ⟨_, _, t, _, _, _, hmade⟩
    have hlen := t.dhLength_eq
    exact Or.inr (Or.inr (Or.inl ⟨d, hd, rfl, hmade.header.getType_eq (by omega)⟩))
  · exact Or.inr (Or.inr (Or.inr (Or.inl (hp.getType_eq (by decide)))))
  · exact Or.inr (Or.inr (Or.inr (Or.inr ⟨hp.getType_eq (by decide), hover⟩)))

end ZRTPResponderSocket

end RedPhone
