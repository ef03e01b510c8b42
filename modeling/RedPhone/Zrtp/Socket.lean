import RedPhone.Lib.Run
import RedPhone.Retained.Database
import RedPhone.Zrtp.ConfirmPacket

/-!
# The Negotiating Socket

The state machine both roles of a handshake share: a receive loop that checks
the checksum of what arrives, looks at its type and its own state, and either
hands the packet to one handler or, if it is time, sends its last packet
again.

A role adds fields of its own and seven handlers, and everything here is
generic in both. One iteration of either loop is `negotiate`, from which
`negotiateStart` and `negotiateFinish` differ only in which states they leave
the loop in, and a run of the socket is a list of what its iterations met.

Two lemmas take an iteration apart for the rest of the development.
`negotiate_ok` says what an iteration that returned did, and `Idle` what it
left alone when no handler ran.

## Main definitions

* `Config`: What a party brings to a handshake.
* `State`: The states of the handshake.
* `ZRTPSocket`: The fields both roles share, and the role's.
* `Handlers`: The methods a role implements.
* `negotiate`: One iteration of the negotiation loops.
* `Handled`: An iteration in which a handler ran.
* `Idle`: An iteration in which none did.
* `ofDatagram`: A datagram as a packet of its own.

## Theorems

* `receiveHandshakePacket_ok`: What receiving leaves.
* `dispatch_ok`: Which handler runs.
* `negotiate_ok`: What an iteration can do.
* `copyOf_received`: Copying what was received leaves the datagram.
-/

namespace RedPhone

open Slice HandshakePacket

/-- What a party brings to a handshake: who it is, whom it calls, its cache's
    platform, and the keys and random bytes it draws when it starts. -/
structure Config where
  platform : Platform
  localZid : Bytes
  remoteNumber : String
  version : Version
  h0 : Bytes
  keys : KeyPairs
  random : DHPacket.RandomBytes
  confirmIv : Bytes
  localZid_length : localZid.length = 12
  h0_length : h0.length = 32
  confirmIv_length : confirmIv.length = 16

/-- The readings of the clock one iteration can make. -/
structure Clock where
  timeoutCheck : Int
  transmit : Int
  retrieve : Int
  expiration : Int
  store : Int

inductive State
  | expectingHello
  | expectingHelloAck
  | expectingCommit
  | expectingDh1
  | expectingDh2
  | expectingConfirmOne
  | expectingConfirmTwo
  | handshakeComplete
  | expectingConfirmAck
  | terminated
  deriving DecidableEq, Repr

def RETRANSMIT_INTERVAL_MILLIS : Int := 150

def MAX_RETRANSMIT_COUNT : Nat := 45

/-- `HelloAckPacket.TYPE`. -/
def HELLO_ACK_TYPE : Bytes := ascii "HelloAck"

theorem length_HELLO_ACK_TYPE : HELLO_ACK_TYPE.length = 8 := by decide +kernel

/-- A socket in a handshake: the fields of `ZRTPSocket`, the buffer of the
    `RtpSocket` below it, the datagrams it has sent and the cache it stores
    into, and the fields of its role. -/
structure ZRTPSocket (ρ : Type) where
  state : State
  transmitStartTime : Int
  retransmitInterval : Int
  retransmitCount : Nat
  sequence : Nat
  lastPacket : Option HandshakePacket
  masterSecret : Option MasterSecret
  buf : ReceiveBuffer
  sent : List Bytes
  database : RetainedSecretsDatabase
  role : ρ

/-- What one iteration of the loop meets. -/
inductive Event
  | datagram (bytes : Bytes)
  | timeout
  | ioException (message : String)
  | close

/-- What one iteration meets, and the clock meanwhile. -/
structure Input where
  event : Event
  clock : Clock

/-- The methods a role implements. -/
structure Handlers (ρ : Type) where
  handleHello : Clock → HandshakePacket → ZRTPSocket ρ → Java (ZRTPSocket ρ)
  handleHelloAck : Clock → HandshakePacket → ZRTPSocket ρ → Java (ZRTPSocket ρ)
  handleCommit : Clock → HandshakePacket → ZRTPSocket ρ → Java (ZRTPSocket ρ)
  handleDH : Clock → HandshakePacket → ZRTPSocket ρ → Java (ZRTPSocket ρ)
  handleConfirmOne : Clock → HandshakePacket → ZRTPSocket ρ → Java (ZRTPSocket ρ)
  handleConfirmTwo : Clock → HandshakePacket → ZRTPSocket ρ → Java (ZRTPSocket ρ)
  handleConfirmAck : Clock → HandshakePacket → ZRTPSocket ρ → Java (ZRTPSocket ρ)

namespace ZRTPSocket

variable {ρ : Type}

/-- The constructor, for a role's first fields. -/
def create (database : RetainedSecretsDatabase) (role : ρ) : ZRTPSocket ρ where
  state := .expectingHello
  transmitStartTime := 0
  retransmitInterval := RETRANSMIT_INTERVAL_MILLIS
  retransmitCount := 0
  sequence := 0
  lastPacket := none
  masterSecret := none
  buf := ReceiveBuffer.empty
  sent := []
  database := database
  role := role

/-- A packet is stored as it was sent. An error of the network layer is only
    logged, which is a datagram lost. -/
def sendPacket (now : Int) (packet : Option HandshakePacket) (s : ZRTPSocket ρ) : ZRTPSocket ρ :=
  match packet with
  | none => { s with transmitStartTime := now, lastPacket := none }
  | some p =>
    let p := p.wire s.sequence
    { s with
      transmitStartTime := now
      lastPacket := some p
      sequence := s.sequence + 1
      sent := s.sent ++ [p.data] }

def sendFreshPacket (now : Int) (packet : HandshakePacket) (s : ZRTPSocket ρ) : ZRTPSocket ρ :=
  { s with
    retransmitCount := 0
    retransmitInterval := RETRANSMIT_INTERVAL_MILLIS }.sendPacket now (some packet)

def resendPacket (now : Int) (s : ZRTPSocket ρ) : Java (ZRTPSocket ρ) :=
  if s.retransmitCount > MAX_RETRANSMIT_COUNT then
    match s.lastPacket with
    | some _ => .error (.negotiationFailed "Retransmit threshold reached.")
    | none => .error (.recipientUnavailable "Recipient unavailable.")
  else
    .ok ({ s with
      retransmitCount := s.retransmitCount + 1
      retransmitInterval := min (s.retransmitInterval * 2) 1500 }.sendPacket now s.lastPacket)

def isRetransmitTime (now : Int) (s : ZRTPSocket ρ) : Bool :=
  now - s.transmitStartTime ≥ s.retransmitInterval

def resendPacketIfTimeout (c : Clock) (s : ZRTPSocket ρ) : Java (ZRTPSocket ρ) :=
  if s.isRetransmitTime c.timeoutCheck then s.resendPacket c.transmit else .ok s

/-- Receive into the buffer and check the checksum. The packet is not copied,
    so its bytes are the whole buffer's. -/
def receiveHandshakePacket (verifyCRC : Bool) (datagram : Bytes) (s : ZRTPSocket ρ) :
    Java (ZRTPSocket ρ × Option HandshakePacket) := do
  let s := { s with buf := s.buf.receive datagram }
  let packet : HandshakePacket := ⟨s.buf.bytes, min datagram.length 4096⟩
  if verifyCRC then
    let good ← packet.verifyCRC
    .ok (s, if good then some packet else none)
  else .ok (s, some packet)

/-- The chain of conditions in the loops. -/
def dispatch (h : Handlers ρ) (c : Clock) (packet : HandshakePacket) (s : ZRTPSocket ρ) :
    Java (ZRTPSocket ρ) := do
  let type ← packet.getType
  if type = HelloPacket.TYPE ∧ s.state = .expectingHello then h.handleHello c packet s
  else if type = HELLO_ACK_TYPE ∧ s.state = .expectingHelloAck then h.handleHelloAck c packet s
  else if type = CommitPacket.TYPE ∧ s.state = .expectingCommit then h.handleCommit c packet s
  else if type = DHPacket.TYPE_ONE ∧ s.state = .expectingDh1 then h.handleDH c packet s
  else if type = DHPacket.TYPE_TWO ∧ s.state = .expectingDh2 then h.handleDH c packet s
  else if type = ConfirmPacket.TYPE_ONE ∧ s.state = .expectingConfirmOne then
    h.handleConfirmOne c packet s
  else if type = ConfirmPacket.TYPE_TWO ∧ s.state = .expectingConfirmTwo then
    h.handleConfirmTwo c packet s
  else if type = CONF_ACK_TYPE ∧ s.state = .expectingConfirmAck then h.handleConfirmAck c packet s
  else if s.isRetransmitTime c.timeoutCheck then s.resendPacket c.transmit
  else .ok s

/-- The handlers of the loops' `try`: a packet found invalid ends the
    negotiation. -/
def negotiated {α : Type} : Java α → Java α
  | .error (.invalidPacket message) => .error (.negotiationFailed message)
  | result => result

/-- The states in which the loops are over. -/
def Over (s : ZRTPSocket ρ) : Prop :=
  s.state = .handshakeComplete ∨ s.state = .terminated

instance (s : ZRTPSocket ρ) : Decidable s.Over :=
  inferInstanceAs (Decidable (_ ∨ _))

/-- One iteration of the loops. `negotiateStart` makes those that find the
    state `expectingHello`, `negotiateFinish` the others. -/
def negotiate (h : Handlers ρ) (s : ZRTPSocket ρ) (i : Input) : Java (ZRTPSocket ρ) :=
  match i.event with
  | .close => .ok { s with state := .terminated }
  | .timeout => if s.Over then .ok s else s.resendPacketIfTimeout i.clock
  | .ioException message => if s.Over then .ok s else .error (.negotiationFailed message)
  | .datagram bytes =>
    if s.Over then .ok s
    else negotiated (do
      let (s, packet) ← s.receiveHandshakePacket (s.state ≠ .expectingConfirmAck) bytes
      match packet with
      | none => s.resendPacketIfTimeout i.clock
      | some packet => s.dispatch h i.clock packet)

/-! ## What an iteration does -/

/-- The packet of a datagram, as the loop sees it. -/
def received (datagram : Bytes) (s : ZRTPSocket ρ) : HandshakePacket :=
  ⟨(s.buf.receive datagram).bytes, min datagram.length 4096⟩

/-- The fields a resend leaves alone. -/
structure Idle (s s' : ZRTPSocket ρ) : Prop where
  masterSecret_eq : s'.masterSecret = s.masterSecret
  database_eq : s'.database = s.database
  role_eq : s'.role = s.role
  state_eq : s'.state = s.state ∨ s'.state = .terminated
  sent : s'.sent = s.sent ∧ s'.lastPacket = s.lastPacket ∨
    ∃ p, s.lastPacket = some p ∧ s'.sent = s.sent ++ [(p.wire s.sequence).data] ∧
      s'.lastPacket = some (p.wire s.sequence)

theorem Idle.refl (s : ZRTPSocket ρ) : Idle s s :=
  ⟨rfl, rfl, rfl, Or.inl rfl, Or.inl ⟨rfl, rfl⟩⟩

theorem resendPacket_idle (now : Int) (s s' : ZRTPSocket ρ) (h : s.resendPacket now = .ok s') :
    Idle s s' ∧ s'.state = s.state ∧ s'.buf = s.buf := by
  unfold resendPacket at h
  by_cases hc : s.retransmitCount > MAX_RETRANSMIT_COUNT
  · rw [if_pos hc] at h
    -- Out of attempts there is an error, whichever it is.
    cases hl : s.lastPacket with
    | none =>
        rw [hl] at h
        simp only [reduceCtorEq] at h
    | some p =>
        rw [hl] at h
        simp only [reduceCtorEq] at h
  · rw [if_neg hc, Except.ok.injEq] at h
    -- The stored packet is written again under the next sequence number.
    rw [← h]
    cases hl : s.lastPacket with
    | none => exact ⟨⟨rfl, rfl, rfl, Or.inl rfl, Or.inl ⟨rfl, hl.symm⟩⟩, rfl, rfl⟩
    | some p => exact ⟨⟨rfl, rfl, rfl, Or.inl rfl, Or.inr ⟨p, hl, rfl, rfl⟩⟩, rfl, rfl⟩

theorem resendPacketIfTimeout_idle (c : Clock) (s s' : ZRTPSocket ρ)
    (h : s.resendPacketIfTimeout c = .ok s') :
    Idle s s' ∧ s'.state = s.state ∧ s'.buf = s.buf := by
  unfold resendPacketIfTimeout at h
  by_cases hc : s.isRetransmitTime c.timeoutCheck = true
  · rw [if_pos hc] at h
    exact resendPacket_idle c.transmit s s' h
  · rw [if_neg hc, Except.ok.injEq] at h
    rw [← h]
    exact ⟨Idle.refl s, rfl, rfl⟩

/-- What receiving leaves: the datagram in the buffer, and the packet unless
    its checksum is checked and wrong. -/
theorem receiveHandshakePacket_ok (verifyCRC : Bool) (datagram : Bytes) (s s' : ZRTPSocket ρ)
    (packet : Option HandshakePacket) :
    s.receiveHandshakePacket verifyCRC datagram = .ok (s', packet) ↔
      s' = { s with buf := s.buf.receive datagram } ∧
      (verifyCRC = false ∧ packet = some (s.received datagram) ∨
        verifyCRC = true ∧ ((s.received datagram).verifyCRC = .ok true ∧
            packet = some (s.received datagram) ∨
          (s.received datagram).verifyCRC = .ok false ∧ packet = none)) := by
  unfold receiveHandshakePacket received
  cases verifyCRC with
  | false =>
      simp only [Bool.false_eq_true, if_false, Except.ok.injEq, Prod.mk.injEq, false_and,
        or_false, true_and, @eq_comm _ s', @eq_comm _ packet]
  | true =>
      simp only [if_true, Java.bind_ok, Except.ok.injEq, Prod.mk.injEq, Bool.true_eq_false,
        false_and, false_or, true_and]
      constructor
      · rintro ⟨good, hgood, rfl, hp⟩
        refine ⟨rfl, ?_⟩
        cases good with
        | true => exact Or.inl ⟨hgood, hp.symm⟩
        | false => exact Or.inr ⟨hgood, hp.symm⟩
      · rintro ⟨rfl, ⟨hgood, hp⟩ | ⟨hgood, hp⟩⟩
        · exact ⟨true, hgood, rfl, hp.symm⟩
        · exact ⟨false, hgood, rfl, hp.symm⟩

/-- A handler ran, on a packet of its type, in the state that expects it. -/
inductive Handled (h : Handlers ρ) (c : Clock) (packet : HandshakePacket) (s s' : ZRTPSocket ρ) :
    Prop
  | hello (hstate : s.state = .expectingHello) (htype : packet.getType = .ok HelloPacket.TYPE)
      (hrun : h.handleHello c packet s = .ok s')
  | helloAck (hstate : s.state = .expectingHelloAck) (htype : packet.getType = .ok HELLO_ACK_TYPE)
      (hrun : h.handleHelloAck c packet s = .ok s')
  | commit (hstate : s.state = .expectingCommit) (htype : packet.getType = .ok CommitPacket.TYPE)
      (hrun : h.handleCommit c packet s = .ok s')
  | dhOne (hstate : s.state = .expectingDh1) (htype : packet.getType = .ok DHPacket.TYPE_ONE)
      (hrun : h.handleDH c packet s = .ok s')
  | dhTwo (hstate : s.state = .expectingDh2) (htype : packet.getType = .ok DHPacket.TYPE_TWO)
      (hrun : h.handleDH c packet s = .ok s')
  | confirmOne (hstate : s.state = .expectingConfirmOne)
      (htype : packet.getType = .ok ConfirmPacket.TYPE_ONE)
      (hrun : h.handleConfirmOne c packet s = .ok s')
  | confirmTwo (hstate : s.state = .expectingConfirmTwo)
      (htype : packet.getType = .ok ConfirmPacket.TYPE_TWO)
      (hrun : h.handleConfirmTwo c packet s = .ok s')
  | confirmAck (hstate : s.state = .expectingConfirmAck)
      (htype : packet.getType = .ok CONF_ACK_TYPE)
      (hrun : h.handleConfirmAck c packet s = .ok s')

/-- A dispatched packet goes to one handler, or to none and the socket may
    resend. -/
theorem dispatch_ok (h : Handlers ρ) (c : Clock) (packet : HandshakePacket) (s s' : ZRTPSocket ρ)
    (hrun : s.dispatch h c packet = .ok s') :
    Handled h c packet s s' ∨ (Idle s s' ∧ s'.state = s.state ∧ s'.buf = s.buf) := by
  unfold dispatch at hrun
  rcases (Java.bind_ok _ _ _).mp hrun with ⟨type, htype, hrun⟩
  split_ifs at hrun with h1 h2 h3 h4 h5 h6 h7 h8 h9
  · exact Or.inl (.hello h1.2 (h1.1 ▸ htype) hrun)
  · exact Or.inl (.helloAck h2.2 (h2.1 ▸ htype) hrun)
  · exact Or.inl (.commit h3.2 (h3.1 ▸ htype) hrun)
  · exact Or.inl (.dhOne h4.2 (h4.1 ▸ htype) hrun)
  · exact Or.inl (.dhTwo h5.2 (h5.1 ▸ htype) hrun)
  · exact Or.inl (.confirmOne h6.2 (h6.1 ▸ htype) hrun)
  · exact Or.inl (.confirmTwo h7.2 (h7.1 ▸ htype) hrun)
  · exact Or.inl (.confirmAck h8.2 (h8.1 ▸ htype) hrun)
  · exact Or.inr (resendPacket_idle c.transmit s s' hrun)
  · rw [Except.ok.injEq] at hrun
    rw [← hrun]
    exact Or.inr ⟨Idle.refl s, rfl, rfl⟩

/-- A handler that can run is the one dispatched to. -/
theorem dispatch_of_handled (h : Handlers ρ) (c : Clock) (packet : HandshakePacket)
    (s s' : ZRTPSocket ρ) (hhandled : Handled h c packet s s') :
    s.dispatch h c packet = .ok s' := by
  unfold dispatch
  -- The conditions in front of the right one ask for another state.
  cases hhandled with
  | hello hstate htype hrun =>
      rw [htype, Java.ok_bind, if_pos ⟨rfl, hstate⟩]
      exact hrun
  | helloAck hstate htype hrun =>
      simp only [htype, Java.ok_bind, hstate, reduceCtorEq, and_false, if_false, and_self, if_true]
      exact hrun
  | commit hstate htype hrun =>
      simp only [htype, Java.ok_bind, hstate, reduceCtorEq, and_false, if_false, and_self, if_true]
      exact hrun
  | dhOne hstate htype hrun =>
      simp only [htype, Java.ok_bind, hstate, reduceCtorEq, and_false, if_false, and_self, if_true]
      exact hrun
  | dhTwo hstate htype hrun =>
      simp only [htype, Java.ok_bind, hstate, reduceCtorEq, and_false, if_false, and_self, if_true]
      exact hrun
  | confirmOne hstate htype hrun =>
      simp only [htype, Java.ok_bind, hstate, reduceCtorEq, and_false, if_false, and_self, if_true]
      exact hrun
  | confirmTwo hstate htype hrun =>
      simp only [htype, Java.ok_bind, hstate, reduceCtorEq, and_false, if_false, and_self, if_true]
      exact hrun
  | confirmAck hstate htype hrun =>
      simp only [htype, Java.ok_bind, hstate, reduceCtorEq, and_false, if_false, and_self, if_true]
      exact hrun

theorem negotiated_ok {α : Type} (x : Java α) (a : α) : negotiated x = .ok a ↔ x = .ok a := by
  cases x with
  | ok b => rfl
  | error e =>
      cases e with
      | invalidPacket message => simp only [negotiated, reduceCtorEq]
      | io message => simp only [negotiated, reduceCtorEq]
      | negotiationFailed message => simp only [negotiated, reduceCtorEq]
      | recipientUnavailable message => simp only [negotiated, reduceCtorEq]
      | unchecked e => simp only [negotiated, reduceCtorEq]

/-- An iteration that returned: either a handler ran on a datagram that passed
    its checks, or nothing but the retransmission changed. In both cases the
    buffer has what was received, if anything was. -/
theorem negotiate_ok (h : Handlers ρ) (s s' : ZRTPSocket ρ) (i : Input)
    (hrun : s.negotiate h i = .ok s') :
    (∃ d, i.event = .datagram d ∧ ¬ s.Over ∧
      (s.state = .expectingConfirmAck ∨ (s.received d).verifyCRC = .ok true) ∧
      Handled h i.clock (s.received d) { s with buf := s.buf.receive d } s') ∨
    (Idle s s' ∧ (s'.state = s.state ∨ i.event = .close) ∧
      ((s.Over ∨ ∀ d, i.event ≠ .datagram d) ∧ s'.buf = s.buf ∨
        ∃ d, i.event = .datagram d ∧ s'.buf = s.buf.receive d)) := by
  unfold negotiate at hrun
  cases hevent : i.event with
  | close =>
      rw [hevent, Except.ok.injEq] at hrun
      rw [← hrun]
      -- Closing changes the state alone.
      exact Or.inr ⟨⟨rfl, rfl, rfl, Or.inr rfl, Or.inl ⟨rfl, rfl⟩⟩, Or.inr rfl,
        Or.inl ⟨Or.inr nofun, rfl⟩⟩
  | timeout =>
      simp only [hevent] at hrun
      by_cases hover : s.Over
      · rw [if_pos hover, Except.ok.injEq] at hrun
        rw [← hrun]
        exact Or.inr ⟨Idle.refl s, Or.inl rfl, Or.inl ⟨Or.inl hover, rfl⟩⟩
      · rw [if_neg hover] at hrun
        rcases resendPacketIfTimeout_idle i.clock s s' hrun with ⟨hidle, hstate, hbuf⟩
        exact Or.inr ⟨hidle, Or.inl hstate, Or.inl ⟨Or.inr nofun, hbuf⟩⟩
  | ioException message =>
      simp only [hevent] at hrun
      by_cases hover : s.Over
      · rw [if_pos hover, Except.ok.injEq] at hrun
        rw [← hrun]
        exact Or.inr ⟨Idle.refl s, Or.inl rfl, Or.inl ⟨Or.inl hover, rfl⟩⟩
      · rw [if_neg hover] at hrun
        simp only [reduceCtorEq] at hrun
  | datagram d =>
      simp only [hevent] at hrun
      by_cases hover : s.Over
      · rw [if_pos hover, Except.ok.injEq] at hrun
        rw [← hrun]
        exact Or.inr ⟨Idle.refl s, Or.inl rfl, Or.inl ⟨Or.inl hover, rfl⟩⟩
      · rw [if_neg hover, negotiated_ok, Java.bind_ok] at hrun
        rcases hrun with ⟨⟨t, packet⟩, hreceive, hrun⟩
        rcases (receiveHandshakePacket_ok _ d s t packet).mp hreceive with ⟨rfl, hpacket⟩
        -- Receiving has touched nothing but the buffer, so being idle since then
        -- is being idle.
        have hquiet : ∀ (hrest : Idle { s with buf := s.buf.receive d } s' ∧
            s'.state = s.state ∧ s'.buf = s.buf.receive d),
            Idle s s' ∧ (s'.state = s.state ∨ Event.datagram d = .close) ∧
              ((s.Over ∨ ∀ d', Event.datagram d ≠ .datagram d') ∧ s'.buf = s.buf ∨
                ∃ d', Event.datagram d = .datagram d' ∧ s'.buf = s.buf.receive d') := by
          rintro ⟨hidle, hstate, hbuf⟩
          exact ⟨⟨hidle.masterSecret_eq, hidle.database_eq, hidle.role_eq, hidle.state_eq,
            hidle.sent⟩, Or.inl hstate, Or.inr ⟨d, rfl, hbuf⟩⟩
        have hdispatch : ∀ (hcrc : s.state = .expectingConfirmAck ∨
            (s.received d).verifyCRC = .ok true) (_ : packet = some (s.received d)),
            (∃ d', Event.datagram d = .datagram d' ∧ ¬ s.Over ∧
              (s.state = .expectingConfirmAck ∨ (s.received d').verifyCRC = .ok true) ∧
              Handled h i.clock (s.received d') { s with buf := s.buf.receive d' } s') ∨
            (Idle s s' ∧ (s'.state = s.state ∨ Event.datagram d = .close) ∧
              ((s.Over ∨ ∀ d', Event.datagram d ≠ .datagram d') ∧ s'.buf = s.buf ∨
                ∃ d', Event.datagram d = .datagram d' ∧ s'.buf = s.buf.receive d')) := by
          rintro hcrc rfl
          rcases dispatch_ok h i.clock _ _ s' hrun with hhandled | hrest
          · exact Or.inl ⟨d, rfl, hover, hcrc, hhandled⟩
          · exact Or.inr (hquiet hrest)
        -- Without a checksum to check, with a right one, and with a wrong one.
        rcases hpacket with ⟨hstate, hpacket⟩ | ⟨_, ⟨hcrc, hpacket⟩ | ⟨_, rfl⟩⟩
        · rw [decide_eq_false_iff_not, ne_eq, not_not] at hstate
          exact hdispatch (Or.inl hstate) hpacket
        · exact hdispatch (Or.inr hcrc) hpacket
        · exact Or.inr (hquiet (resendPacketIfTimeout_idle i.clock _ s' hrun))

/-- A datagram that passes its checks goes to the handler that can run. -/
theorem negotiate_of_handled (h : Handlers ρ) (s s' : ZRTPSocket ρ) (d : Bytes) (c : Clock)
    (hover : ¬ s.Over)
    (hcrc : s.state = .expectingConfirmAck ∨ (s.received d).verifyCRC = .ok true)
    (hhandled : Handled h c (s.received d) { s with buf := s.buf.receive d } s') :
    s.negotiate h ⟨.datagram d, c⟩ = .ok s' := by
  unfold negotiate
  simp only []
  rw [if_neg hover, negotiated_ok, Java.bind_ok]
  refine ⟨({ s with buf := s.buf.receive d }, some (s.received d)), ?_, ?_⟩
  · rw [receiveHandshakePacket_ok]
    refine ⟨rfl, ?_⟩
    -- Only the state that expects media does without the checksum.
    by_cases hstate : s.state = .expectingConfirmAck
    · exact Or.inl ⟨by simp only [hstate, ne_eq, not_true_eq_false, decide_false], rfl⟩
    · exact Or.inr ⟨by simp only [hstate, ne_eq, not_false_eq_true, decide_true],
        Or.inl ⟨hcrc.resolve_left hstate, rfl⟩⟩
  · exact dispatch_of_handled h c _ _ s' hhandled

/-! ## Fields after sending, and packets of their own -/

section Sending

variable (now : Int) (packet : HandshakePacket) (s : ZRTPSocket ρ)

@[simp] theorem sendFreshPacket_state : (s.sendFreshPacket now packet).state = s.state := rfl

@[simp] theorem sendFreshPacket_masterSecret :
    (s.sendFreshPacket now packet).masterSecret = s.masterSecret := rfl

@[simp] theorem sendFreshPacket_role : (s.sendFreshPacket now packet).role = s.role := rfl

@[simp] theorem sendFreshPacket_database :
    (s.sendFreshPacket now packet).database = s.database := rfl

@[simp] theorem sendFreshPacket_buf : (s.sendFreshPacket now packet).buf = s.buf := rfl

@[simp] theorem sendFreshPacket_lastPacket :
    (s.sendFreshPacket now packet).lastPacket = some (packet.wire s.sequence) := rfl

@[simp] theorem sendFreshPacket_sent :
    (s.sendFreshPacket now packet).sent = s.sent ++ [(packet.wire s.sequence).data] := rfl

end Sending

/-- A datagram as a packet of its own, which is what copying it leaves. -/
def ofDatagram (datagram : Bytes) : HandshakePacket :=
  ⟨datagram.take 4096, min datagram.length 4096⟩

theorem copyOf_received (datagram : Bytes) (s : ZRTPSocket ρ) (p : HandshakePacket) :
    (s.received datagram).copyOf = .ok p ↔ datagram ≠ [] ∧ p = ofDatagram datagram := by
  have hlen : (datagram.take 4096).length = min datagram.length 4096 := by
    rw [List.length_take, Nat.min_comm]
  -- A copy ends where the datagram does, so nothing older in the buffer gets
  -- into it.
  have hcopy : (⟨(s.received datagram).data.take (s.received datagram).packetLength,
      (s.received datagram).packetLength⟩ : HandshakePacket) = ofDatagram datagram := by
    unfold received ofDatagram ReceiveBuffer.receive
    simp only [← hlen, take_overwrite]
  rw [copyOf_ok, hcopy]
  refine and_congr_left (fun _ => ?_)
  unfold received
  simp only [ne_eq, ← List.length_eq_zero_iff (l := datagram)]
  omega

theorem headerBugOffset_received (datagram : Bytes) (s : ZRTPSocket ρ) (h : datagram ≠ []) :
    (s.received datagram).headerBugOffset = (ofDatagram datagram).headerBugOffset := by
  refine headerBugOffset_congr _ _ ?_
  unfold received ofDatagram
  simp only []
  rw [ReceiveBuffer.head_receive s.buf datagram h]
  cases datagram with
  | nil => rfl
  | cons x xs => rfl

/-- A datagram that does not begin like a handshake packet counts as the
    acknowledgement. -/
theorem getType_received_media (x : UInt8) (xs : Bytes) (s : ZRTPSocket ρ)
    (hx : x ≠ PREFIX_VALUE ∧ x ≠ LEGACY_HEADER_BUG_PREFIX_VALUE) :
    (s.received (x :: xs)).getType = .ok CONF_ACK_TYPE := by
  have hhead := ReceiveBuffer.head_receive s.buf (x :: xs) (List.cons_ne_nil x xs)
  rcases List.head?_eq_some_iff.mp hhead with ⟨ys, hys⟩
  unfold getType received
  rw [hys]
  exact if_pos hx

/-- A field inside a datagram, in the buffer and in the datagram's packet. -/
theorem slice_received (datagram : Bytes) (s : ZRTPSocket ρ) (off len : Nat)
    (h : off + len ≤ (ofDatagram datagram).packetLength) :
    slice off len (s.buf.receive datagram).bytes = slice off len (ofDatagram datagram).data := by
  unfold ofDatagram at h ⊢
  simp only [] at h ⊢
  rw [ReceiveBuffer.slice_receive _ _ _ _ (by omega) (by omega), slice_take _ _ _ _ (by omega)]

end ZRTPSocket

end RedPhone
