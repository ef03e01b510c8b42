import RedPhone.Zrtp.Thread

/-!
# The Two Roles as Threads

The initiator and the responder, statement by statement. All but one of the
handlers end by sending, and are what they were. The `handleConfirmTwo` of the
responder stores the secret after it has sent, so it is in two parts here.

A thread nobody disturbs does in the statements of an iteration what
`negotiate` does at once, so what is known of the iterations is known of the
threads.

## Main definitions

* `acceptConfirmTwo`, `storeConfirmTwo`: The two parts of `handleConfirmTwo`.
* `initiator`, `responder`: The two roles.
* `Party.whole`: The handlers of a party, in one part.

## Theorems

* `handleConfirmTwo_eq`: The two parts make the whole.
* `whole_initiator`, `whole_responder`: The parties are the roles.
* `iteration`: An undisturbed iteration is `negotiate`.
-/

namespace RedPhone

open HandshakePacket RetainedSecretsCalculator Interleaving

namespace ZRTPResponderSocket

variable (C : Crypto) (cfg : Config)

/-- `handleConfirmTwo` up to what it sends. -/
def acceptConfirmTwo (c : Clock) (packet : HandshakePacket) (s : ZRTPResponderSocket) :
    Java ZRTPResponderSocket := do
  let foreignHello ← Java.orNull s.role.foreignHello
  let _ ← isLegacyConfirmConnection foreignHello
  let confirmPacket := ConfirmPacket.ofPacket packet
  let masterSecret ← Java.orNull s.masterSecret
  confirmPacket.verifyMac C masterSecret.macI s.buf
  let buf ← confirmPacket.decrypt C masterSecret.zrtpKeyI s.buf
  let preimage ← confirmPacket.getPreimage buf
  let foreignDH ← Java.orNull s.role.foreignDH
  foreignDH.verifyMac C preimage
  .ok ({ s with state := .handshakeComplete, buf := buf }.sendFreshPacket c.transmit
    (HandshakePacket.create CONF_ACK_TYPE 12 s.role.includeLegacyHeaderBug))

/-- `handleConfirmTwo` after that. -/
def storeConfirmTwo (c : Clock) (packet : HandshakePacket) (s : ZRTPResponderSocket) :
    Java ZRTPResponderSocket := do
  let foreignHello ← Java.orNull s.role.foreignHello
  let masterSecret ← Java.orNull s.masterSecret
  let foreignDH ← Java.orNull s.role.foreignDH
  let retainedSecrets ← Java.orNull s.role.retainedSecrets
  let rs1ID ← foreignDH.getDerivativeSecretOne
  let rs2ID ← foreignDH.getDerivativeSecretTwo
  let continuity ← hasContinuity C .responder retainedSecrets (some rs1ID) (some rs2ID)
  let foreignZid ← HelloPacket.getZID foreignHello
  let cacheTime ← (ConfirmPacket.ofPacket packet).getCacheTime s.buf
  .ok { s with
    database := s.database.completeHandshake cfg.platform cfg.remoteNumber foreignZid
      masterSecret.rs1 cacheTime continuity c.expiration c.store }

theorem handleConfirmTwo_eq (c : Clock) (packet : HandshakePacket) (s : ZRTPResponderSocket) :
    handleConfirmTwo C cfg c packet s
      = acceptConfirmTwo C c packet s >>= storeConfirmTwo C cfg c packet := by
  unfold handleConfirmTwo acceptConfirmTwo
  -- The second part starts from fields the first has found, and finds them
  -- again.
  cases hhello : s.role.foreignHello with
  | none => rfl
  | some foreignHello =>
      cases hsecret : s.masterSecret with
      | none => simp only [bind_assoc, Java.orNull, Java.ok_bind, Java.error_bind]
      | some masterSecret =>
          cases hdh : s.role.foreignDH with
          | none => simp only [bind_assoc, Java.orNull, Java.ok_bind, Java.error_bind]
          | some foreignDH =>
              simp only [bind_assoc, Java.orNull, Java.ok_bind, storeConfirmTwo,
                ZRTPSocket.sendFreshPacket_role, ZRTPSocket.sendFreshPacket_masterSecret,
                ZRTPSocket.sendFreshPacket_buf, ZRTPSocket.sendFreshPacket_database, hhello, hdh]

/-- Storing writes nothing but the cache. -/
theorem storeConfirmTwo_ok {C : Crypto} {cfg : Config} {c : Clock} {packet : HandshakePacket}
    {s s' : ZRTPResponderSocket} (h : storeConfirmTwo C cfg c packet s = .ok s') :
    s' = { s with database := s'.database } := by
  simp only [storeConfirmTwo, Java.bind_ok, Except.ok.injEq] at h
  rcases h with ⟨_, _, _, _, _, _, _, _, _, _, _, _, _, _, _, _, _, _, rfl⟩
  rfl

theorem acceptConfirmTwo_ok {C : Crypto} {c : Clock} {packet : HandshakePacket}
    {s s' : ZRTPResponderSocket} (h : acceptConfirmTwo C c packet s = .ok s') :
    s'.state = .handshakeComplete ∧ s'.masterSecret = s.masterSecret ∧ s.masterSecret ≠ none := by
  simp only [acceptConfirmTwo, Java.bind_ok, Java.orNull_ok, Except.ok.injEq] at h
  rcases h with ⟨_, _, _, _, masterSecret, hsecret, _, _, _, _, _, _, _, _, _, _, rfl⟩
  exact ⟨rfl, rfl, by rw [hsecret]; exact Option.some_ne_none _⟩

end ZRTPResponderSocket

/-- What holds of whatever each method of a role leaves holds of what the
    handler leaves that a state has for a type. -/
theorem ZRTPSocket.of_handler {ρ : Type} {h : Handlers ρ} {Q : ZRTPSocket ρ → Prop}
    (hhello : ∀ {c p s s'}, h.handleHello c p s = .ok s' → Q s')
    (hhelloAck : ∀ {c p s s'}, h.handleHelloAck c p s = .ok s' → Q s')
    (hcommit : ∀ {c p s s'}, h.handleCommit c p s = .ok s' → Q s')
    (hdh : ∀ {c p s s'}, h.handleDH c p s = .ok s' → Q s')
    (hconfirmOne : ∀ {c p s s'}, h.handleConfirmOne c p s = .ok s' → Q s')
    (hconfirmTwo : ∀ {c p s s'}, h.handleConfirmTwo c p s = .ok s' → Q s')
    (hconfirmAck : ∀ {c p s s'}, h.handleConfirmAck c p s = .ok s' → Q s')
    {state : State} {type : Bytes}
    {handle : Clock → HandshakePacket → ZRTPSocket ρ → Java (ZRTPSocket ρ)}
    {c : Clock} {packet : HandshakePacket} {s s' : ZRTPSocket ρ}
    (hhandle : handler h state type = some handle) (hrun : handle c packet s = .ok s') : Q s' :=
  handler_cases (fun handle => ∀ {c p s s'}, handle c p s = .ok s' → Q s') hhello hhelloAck hcommit
    hdh hconfirmOne hconfirmTwo hconfirmAck hhandle hrun

/-- The initiator, which waits for the peer's Hello before it sends its own. -/
def initiator (C : Crypto) (cfg : Config) : Party InitiatorFields where
  handlers := ZRTPInitiatorSocket.handlers C cfg
  store _ _ s := .ok s
  greeting _ := none
  handled := by
    intro _ _ _ _ _ _ _ hhandle hrun
    refine ZRTPSocket.of_handler (Q := Settled) (fun h => ?_) (fun {_ p _ _} h => ?_) (fun h => ?_)
      (fun h => ?_) (fun h => ?_) (fun h => ?_) (fun {_ p _ _} h => ?_) hhandle hrun
    · rcases ZRTPInitiatorSocket.handleHello_ok h with ⟨_, _, rfl⟩
      exact ⟨nofun, nofun⟩
    · rcases ZRTPInitiatorSocket.handleHelloAck_next p h with ⟨_, _, _, rfl⟩
      exact ⟨nofun, nofun⟩
    · exact absurd h nofun
    · rcases ZRTPInitiatorSocket.handleDH_ok h with ⟨_, _, _, _, _, rfl⟩
      exact ⟨nofun, nofun⟩
    · rcases ZRTPInitiatorSocket.handleConfirmOne_next h with ⟨_, _, rfl⟩
      exact ⟨nofun, nofun⟩
    · exact absurd h nofun
    · rcases ZRTPInitiatorSocket.handleConfirmAck_ok p h with
        ⟨_, _, _, _, _, _, _, masterSecret, _, _, _, _, _, _, _, _, _, hsecret, _, _, rfl⟩
      refine ⟨nofun, fun _ => ?_⟩
      rw [hsecret]
      exact nofun
  stored h := by rw [← Except.ok.inj h]

/-- The responder, which sends its Hello first. -/
def responder (C : Crypto) (cfg : Config) : Party ResponderFields where
  handlers :=
    { ZRTPResponderSocket.handlers C cfg with
      handleConfirmTwo := ZRTPResponderSocket.acceptConfirmTwo C }
  store := ZRTPResponderSocket.storeConfirmTwo C cfg
  greeting s := some s.role.localHello
  handled := by
    intro _ _ _ _ _ _ _ hhandle hrun
    refine ZRTPSocket.of_handler (Q := Settled) (fun h => ?_) (fun h => ?_) (fun h => ?_)
      (fun h => ?_) (fun h => ?_) (fun h => ?_) (fun h => ?_) hhandle hrun
    · rcases ZRTPResponderSocket.handleHello_ok h with ⟨_, _, rfl⟩
      exact ⟨nofun, nofun⟩
    · exact absurd h nofun
    · rcases ZRTPResponderSocket.handleCommit_next h with ⟨_, _, _, rfl⟩
      exact ⟨nofun, nofun⟩
    · rcases ZRTPResponderSocket.handleDH_next h with ⟨_, _, _, rfl⟩
      exact ⟨nofun, nofun⟩
    · exact absurd h nofun
    · rcases ZRTPResponderSocket.acceptConfirmTwo_ok h with ⟨hstate, hsecret, hsome⟩
      refine ⟨?_, fun _ => hsecret ▸ hsome⟩
      rw [hstate]
      exact nofun
    · exact absurd h nofun
  stored h := ZRTPResponderSocket.storeConfirmTwo_ok h

/-- The handlers of a party, each in one part. -/
def Party.whole {ρ : Type} (P : Party ρ) : Handlers ρ :=
  { P.handlers with
    handleConfirmTwo := fun c packet s =>
      P.handlers.handleConfirmTwo c packet s >>= P.store c packet }

theorem whole_initiator (C : Crypto) (cfg : Config) :
    (initiator C cfg).whole = ZRTPInitiatorSocket.handlers C cfg := rfl

theorem whole_responder (C : Crypto) (cfg : Config) :
    (responder C cfg).whole = ZRTPResponderSocket.handlers C cfg := by
  unfold Party.whole responder ZRTPResponderSocket.handlers
  simp only [Handlers.mk.injEq, true_and, and_true]
  funext c packet s
  exact (ZRTPResponderSocket.handleConfirmTwo_eq C cfg c packet s).symm

namespace Negotiation

variable {ρ : Type} {P : Party ρ} {i : Input} {l : Loop}

/-! ## A thread nobody disturbs -/

/-- Statements of the negotiation thread alone lead from one state to another. -/
def Leads (P : Party ρ) (i : Input) (m m' : Negotiation ρ) : Prop :=
  ∃ n, Run.run (step P) m (List.replicate n (.thread i)) = .ok m'

theorem leads_refl (m : Negotiation ρ) : Leads P i m m := ⟨0, rfl⟩

theorem leads_thread {m u m' : Negotiation ρ} (h : m.thread P i = .ok u) (hrest : Leads P i u m') :
    Leads P i m m' := by
  rcases hrest with ⟨n, hrun⟩
  refine ⟨n + 1, ?_⟩
  rw [List.replicate_succ, Run.run_cons]
  exact ⟨u, h, hrun⟩

/-- The end of an iteration that has left a socket, however many packets were
    sent. -/
def Ends (P : Party ρ) (i : Input) (l : Loop) (s' : ZRTPSocket ρ) (m : Negotiation ρ) : Prop :=
  ∃ sends, Leads P i m ⟨s', m.closed, .test l, m.closer, sends⟩

theorem ends_thread {s' : ZRTPSocket ρ} {m u : Negotiation ρ} (h : m.thread P i = .ok u)
    (hrest : Ends P i l s' u) : Ends P i l s' m := by
  rcases hrest with ⟨sends, hleads⟩
  rcases thread_shared h with ⟨hclosed, hcloser, _⟩
  rw [hclosed, hcloser] at hleads
  exact ⟨sends, leads_thread h hleads⟩

theorem ends_test (s : ZRTPSocket ρ) (closed : Bool) (closer : Closer) (sends : Nat) :
    Ends P i l s ⟨s, closed, .test l, closer, sends⟩ :=
  ⟨sends, leads_refl _⟩

variable {s s' : ZRTPSocket ρ} {closer : Closer} {sends : Nat}

/-- The second half of an iteration without a packet to handle. -/
theorem ends_resend (h : s.resendPacketIfTimeout i.clock = .ok s') :
    Ends P i l s' ⟨s, false,
      if s.isRetransmitTime i.clock.timeoutCheck then .resend l else .test l, closer, sends⟩ := by
  unfold ZRTPSocket.resendPacketIfTimeout at h
  -- The thread goes to a resend of its own, or back to the test.
  by_cases hdue : s.isRetransmitTime i.clock.timeoutCheck = true
  · rw [if_pos hdue] at h
    rw [if_pos hdue]
    refine ends_thread (u := ⟨s', false, .test l, closer,
      sends + if s'.sequence = s.sequence then 0 else 1⟩) ?_ (ends_test s' _ _ _)
    have hstate := (ZRTPSocket.resendPacket_idle _ _ _ h).2.1
    simp only [thread, h]
    simp only [goto, sendAs, ZRTPSocket.sendAs, Bool.false_eq_true, if_false, ← hstate]
  · rw [if_neg hdue, Except.ok.injEq] at h
    rw [if_neg hdue, h]
    exact ends_test s' _ _ _

/-- The second half of an iteration whose packet has a handler in one part. -/
theorem ends_handled {packet : HandshakePacket} {type : Bytes}
    {handle : Clock → HandshakePacket → ZRTPSocket ρ → Java (ZRTPSocket ρ)}
    (htype : packet.getType = .ok type)
    (hhandle : ZRTPSocket.handlerIn P.handlers l s.state type = some handle)
    (hrun : handle i.clock packet s = .ok s') (hstate : s.state ≠ .expectingConfirmTwo) :
    Ends P i l s' ⟨s, false, .dispatch l (some packet), closer, sends⟩ := by
  refine ends_thread (u := ⟨s.adopt s', false, .setState l s' none, closer, sends⟩) ?_ ?_
  · simp only [thread, htype, choose, hhandle, hrun, if_neg hstate]
  refine ends_thread (u := ⟨{ s.adopt s' with state := s'.state }, false, .send l s' none, closer,
    sends⟩) rfl ?_
  exact ends_thread rfl (ends_test s' _ _ _)

/-- The second half of an iteration whose handler goes on after sending. -/
theorem ends_stored {packet : HandshakePacket} {type : Bytes} {handled : ZRTPSocket ρ}
    {handle : Clock → HandshakePacket → ZRTPSocket ρ → Java (ZRTPSocket ρ)}
    (htype : packet.getType = .ok type)
    (hhandle : ZRTPSocket.handlerIn P.handlers l s.state type = some handle)
    (hrun : handle i.clock packet s = .ok handled)
    (hstore : P.store i.clock packet handled = .ok s') (hstate : s.state = .expectingConfirmTwo) :
    Ends P i l s' ⟨s, false, .dispatch l (some packet), closer, sends⟩ := by
  refine ends_thread (u := ⟨s.adopt handled, false, .setState l handled (some packet), closer,
    sends⟩) ?_ ?_
  · simp only [thread, htype, choose, hhandle, hrun, if_pos hstate]
  refine ends_thread (u := ⟨{ s.adopt handled with state := handled.state }, false,
    .send l handled (some packet), closer, sends⟩) rfl ?_
  -- How many packets were sent matters to nobody here.
  have hsends : ∃ sent, sent = sends + if handled.sequence = s.sequence then 0 else 1 := ⟨_, rfl⟩
  rcases hsends with ⟨sent, hsent⟩
  refine ends_thread (u := ⟨handled, false, .store l packet, closer, sent⟩) (hsent ▸ rfl) ?_
  refine ends_thread (u := ⟨s', false, .test l, closer, sent⟩) ?_ (ends_test s' _ _ _)
  simp only [thread, hstore]
  rw [← P.stored hstore]

theorem handler_whole (P : Party ρ) (state : State) (type : Bytes) :
    ZRTPSocket.handler P.whole state type =
      if state = .expectingConfirmTwo then
        (ZRTPSocket.handler P.handlers state type).map
          (fun handle c packet s => handle c packet s >>= P.store c packet)
      else ZRTPSocket.handler P.handlers state type := by
  cases state with
  | expectingConfirmTwo =>
      simp only [ZRTPSocket.handler, if_true]
      -- Both have a handler for the same type, and one goes on after the other.
      by_cases htype : type = ConfirmPacket.TYPE_TWO
      · rw [if_pos htype, if_pos htype]
        rfl
      · rw [if_neg htype, if_neg htype]
        rfl
  | _ => rfl

/-- The second half of an iteration with a packet. -/
theorem ends_dispatch {packet : HandshakePacket} (hl : l = .start → s.state = .expectingHello)
    (h : s.dispatch P.whole i.clock packet = .ok s') :
    Ends P i l s' ⟨s, false, .dispatch l (some packet), closer, sends⟩ := by
  -- Only the Hello is taken in the first loop, where no other state is met.
  have hin : ∀ type, ZRTPSocket.handlerIn P.handlers l s.state type
      = ZRTPSocket.handler P.handlers s.state type := by
    intro type
    cases l with
    | start => exact if_pos (hl rfl)
    | finish => rfl
  rcases (Java.bind_ok _ _ _).mp h with ⟨type, htype, _⟩
  rw [ZRTPSocket.dispatch_eq htype, handler_whole] at h
  cases hhandle : ZRTPSocket.handler P.handlers s.state type with
  | none =>
      rw [hhandle, Option.map_none, ite_self] at h
      refine ends_thread (u := ⟨s, false,
        if s.isRetransmitTime i.clock.timeoutCheck then .resend l else .test l, closer, sends⟩) ?_
        (ends_resend h)
      simp only [thread, htype, choose, hin, hhandle, goto]
  | some handle =>
      rw [hhandle] at h
      by_cases hstate : s.state = .expectingConfirmTwo
      · rw [if_pos hstate] at h
        rcases (Java.bind_ok _ _ _).mp h with ⟨handled, hrun, hstore⟩
        exact ends_stored htype ((hin type).trans hhandle) hrun hstore hstate
      · rw [if_neg hstate] at h
        exact ends_handled htype ((hin type).trans hhandle) h hstate

/-- The first half of an iteration. -/
theorem ends_receive (hl : l = .start → s.state = .expectingHello) (hover : ¬ s.Over)
    (h : Ends P i l s' ⟨s, false, .receive l (s.state ≠ .expectingConfirmAck), closer, sends⟩) :
    Ends P i l s' ⟨s, false, .test l, closer, sends⟩ := by
  -- The first loop asks for nothing but the Hello, and the second has two more
  -- statements.
  cases l with
  | start =>
      refine ends_thread (u := ⟨s, false, .receive .start true, closer, sends⟩) ?_ ?_
      · simp only [thread, hl rfl, if_true, goto]
      · rw [hl rfl] at h
        exact h
  | finish =>
      rw [ZRTPSocket.Over, not_or] at hover
      refine ends_thread (u := ⟨s, false, .testTerminated, closer, sends⟩) ?_ ?_
      · simp only [thread, if_neg hover.1, goto]
      refine ends_thread (u := ⟨s, false, .argument, closer, sends⟩) ?_ ?_
      · simp only [thread, if_neg hover.2, goto]
      exact ends_thread rfl h

/-- A thread that is at the condition of its loop, and that nobody disturbs,
    does in the statements of one iteration what `negotiate` does at once. -/
theorem iteration (P : Party ρ) {l : Loop} {s s' : ZRTPSocket ρ} {i : Input} (closer : Closer)
    (sends : Nat) (hl : l = .start → s.state = .expectingHello) (hover : ¬ s.Over)
    (hclose : i.event ≠ .close) (h : s.negotiate P.whole i = .ok s') :
    Ends P i l s' ⟨s, false, .test l, closer, sends⟩ := by
  refine ends_receive hl hover ?_
  unfold ZRTPSocket.negotiate at h
  cases hevent : i.event with
  | close => exact absurd hevent hclose
  | ioException message =>
      rw [hevent] at h
      simp only [if_neg hover, reduceCtorEq] at h
  | timeout =>
      rw [hevent] at h
      simp only [if_neg hover] at h
      refine ends_thread (u := ⟨s, false, .dispatch l none, closer, sends⟩) ?_ ?_
      · simp only [thread, hevent, Bool.false_eq_true, if_false, goto]
      exact ends_thread rfl (ends_resend h)
  | datagram datagram =>
      rw [hevent] at h
      simp only [if_neg hover] at h
      rw [ZRTPSocket.negotiated_ok, Java.bind_ok] at h
      rcases h with ⟨⟨s₁, packet⟩, hreceive, hrest⟩
      refine ends_thread (u := ⟨s₁, false, .dispatch l packet, closer, sends⟩) ?_ ?_
      · simp only [thread, hevent, hreceive, Bool.false_eq_true, if_false]
      -- What fails its checksum is not dispatched.
      cases packet with
      | none => exact ends_thread rfl (ends_resend hrest)
      | some packet =>
          refine ends_dispatch ?_ hrest
          rw [((ZRTPSocket.receiveHandshakePacket_ok _ _ _ _ _).mp hreceive).1]
          exact hl

end Negotiation

end RedPhone
