import RedPhone.Lib.Interleaving
import RedPhone.Zrtp.Declared
import RedPhone.Zrtp.Responder

/-!
# The Negotiation Thread

The negotiation loops again, one statement at a time, with another thread that
closes the socket. Two variables are shared: `state`, which `close` and the
handlers write and the loops read, and whether the `DatagramSocket` is closed,
which is asked when sending or receiving on it fails. A step of the negotiation
thread goes from one access to a shared variable to the next; what lies between
is the thread's own and is done in the same step.

A handler computes, writes the state and sends, in this order. What it computes
it has from `Handlers`, which it runs on the socket as it is when it is chosen;
none of them reads the state. The `handleConfirmTwo` of the responder goes on
after sending, so it is taken apart into two.

## Main definitions

* `Party`: What a role adds to the loops.
* `Pc`: Where the negotiation thread is.
* `Negotiation`: Both threads and what they share.
* `Negotiation.thread`, `Negotiation.close`: A statement of either.
* `Negotiation.step`: A statement of one of them.
* `Passes`: The statements that touch nothing shared but to look at it.
* `Does`: What a statement of the negotiation thread does.
* `Sound`: What is known of the negotiation at any time.

## Theorems

* `does_of_thread`: Every statement is one of these.
* `thread_shared`: What it leaves of what is shared.
* `thread_of_closed`: No statement waits once the socket is closed.
* `sound_step`: The negotiation stays sound.
-/

namespace RedPhone

open HandshakePacket RetainedSecretsCalculator Interleaving

/-- What a handler leaves: not `TERMINATED`, which is for `close` to write, and
    a master secret if the handshake is complete. -/
def Settled {ρ : Type} (s : ZRTPSocket ρ) : Prop :=
  s.state ≠ .terminated ∧ (s.state = .handshakeComplete → s.masterSecret ≠ none)

/-- What a role adds to the loops: its handlers up to what they send, what its
    `handleConfirmTwo` does after that, and the packet it sends first. -/
structure Party (ρ : Type) where
  handlers : Handlers ρ
  store : Clock → HandshakePacket → ZRTPSocket ρ → Java (ZRTPSocket ρ)
  greeting : ZRTPSocket ρ → Option HandshakePacket
  handled : ∀ {state type handle c packet s s'},
    ZRTPSocket.handler handlers state type = some handle → handle c packet s = .ok s' →
      Settled s'
  stored : ∀ {c packet s s'}, store c packet s = .ok s' → s' = { s with database := s'.database }

/-- `negotiateStart` and `negotiateFinish`. -/
inductive Loop
  | start
  | finish
  deriving DecidableEq

/-- The statement the negotiation thread is at. -/
inductive Pc (ρ : Type)
  /-- Before the loop of `negotiateStart`. -/
  | greet
  /-- The condition of a loop, or the first half of it. -/
  | test (l : Loop)
  /-- `state != TERMINATED`. -/
  | testTerminated
  /-- The argument of `receiveHandshakePacket`. -/
  | argument
  | receive (l : Loop) (verifyCRC : Bool)
  /-- The chain of conditions, with what was received. -/
  | dispatch (l : Loop) (packet : Option HandshakePacket)
  /-- A handler before its `setState`, and what the socket is when it is done. -/
  | setState (l : Loop) (handled : ZRTPSocket ρ) (store : Option HandshakePacket)
  /-- A handler before its `sendFreshPacket`. -/
  | send (l : Loop) (handled : ZRTPSocket ρ) (store : Option HandshakePacket)
  | store (l : Loop) (packet : HandshakePacket)
  | resend (l : Loop)
  /-- In the handlers of the loop's `try`. -/
  | caught (l : Loop) (e : JavaException)
  /-- `negotiateFinish` behind its `try`. -/
  | epilogue
  | returned (l : Loop)
  | threw (e : JavaException)

/-- Where a handler goes that has sent its packet. -/
def Pc.sent {ρ : Type} (l : Loop) : Option HandshakePacket → Pc ρ
  | some packet => .store l packet
  | none => .test l

/-- The thread that calls `close`. -/
inductive Closer
  | idle
  | closing
  | returned
  deriving DecidableEq

/-- The socket, whether its `DatagramSocket` is closed, the two threads, and
    how many packets the negotiation thread has begun to send. -/
structure Negotiation (ρ : Type) where
  socket : ZRTPSocket ρ
  closed : Bool
  pc : Pc ρ
  closer : Closer
  sends : Nat

/-- Whose turn it is. The caller of `negotiateStart` calls `negotiateFinish`
    when the former has returned. -/
inductive Turn
  | thread (i : Input)
  | finish
  | close

namespace ZRTPSocket

variable {ρ : Type}

/-- The fields a handler writes before it writes the state. -/
def adopt (s handled : ZRTPSocket ρ) : ZRTPSocket ρ :=
  { s with
    masterSecret := handled.masterSecret
    buf := handled.buf
    database := handled.database
    role := handled.role }

/-- The fields sending writes. What is sent on a closed socket is lost. -/
def sendAs (closed : Bool) (s sending : ZRTPSocket ρ) : ZRTPSocket ρ :=
  { sending with
    state := s.state
    sent := if closed then s.sent else sending.sent }

/-- The handler the chain of conditions of a loop leads to. -/
def handlerIn (h : Handlers ρ) (l : Loop) (state : State) (type : Bytes) :
    Option (Clock → HandshakePacket → ZRTPSocket ρ → Java (ZRTPSocket ρ)) :=
  match l with
  | .start => if state = .expectingHello then handler h state type else none
  | .finish => handler h state type

end ZRTPSocket

namespace Negotiation

variable {ρ : Type} (P : Party ρ)

def create (s : ZRTPSocket ρ) : Negotiation ρ := ⟨s, false, .greet, .idle, 0⟩

def goto (m : Negotiation ρ) (pc : Pc ρ) : Negotiation ρ := { m with pc := pc }

/-- Send what leaves the socket as `sending`, which has taken a number for it
    if there was something to send. -/
def sendAs (m : Negotiation ρ) (sending : ZRTPSocket ρ) : Negotiation ρ :=
  { m with
    socket := m.socket.sendAs m.closed sending
    sends := m.sends + (if sending.sequence = m.socket.sequence then 0 else 1) }

/-- The chain of conditions, for a packet whose type can be read. -/
def choose (l : Loop) (c : Clock) (packet : HandshakePacket) (type : Bytes) (m : Negotiation ρ) :
    Negotiation ρ :=
  match ZRTPSocket.handlerIn P.handlers l m.socket.state type with
  | some handle =>
    match handle c packet m.socket with
    | .ok handled =>
      { m with
        socket := m.socket.adopt handled
        pc := .setState l handled
          (if m.socket.state = .expectingConfirmTwo then some packet else none) }
    | .error e => m.goto (.caught l e)
  | none => m.goto (if m.socket.isRetransmitTime c.timeoutCheck then .resend l else .test l)

/-- One statement of the negotiation thread. -/
def thread (i : Input) (m : Negotiation ρ) : Except Blocked (Negotiation ρ) :=
  let s := m.socket
  match m.pc with
  | .greet =>
    match P.greeting s with
    | some packet =>
        .ok ((m.sendAs (s.sendFreshPacket i.clock.transmit packet)).goto (.test .start))
    | none => .ok (m.goto (.test .start))
  | .test .start =>
    .ok (m.goto (if s.state = .expectingHello then .receive .start true else .returned .start))
  | .test .finish =>
    .ok (m.goto (if s.state = .handshakeComplete then .epilogue else .testTerminated))
  | .testTerminated => .ok (m.goto (if s.state = .terminated then .epilogue else .argument))
  | .argument => .ok (m.goto (.receive .finish (s.state ≠ .expectingConfirmAck)))
  | .receive l verifyCRC =>
    -- Receiving on a closed socket fails, and then returns nothing.
    if m.closed then .ok (m.goto (.dispatch l none))
    else match i.event with
      | .datagram datagram =>
        match s.receiveHandshakePacket verifyCRC datagram with
        | .ok (s', packet) => .ok { m with socket := s', pc := .dispatch l packet }
        | .error e => .ok (m.goto (.caught l e))
      | .timeout => .ok (m.goto (.dispatch l none))
      | .ioException message => .ok (m.goto (.caught l (.io message)))
      | .close => .error .blocked
  | .dispatch l none =>
    .ok (m.goto (if s.isRetransmitTime i.clock.timeoutCheck then .resend l else .test l))
  | .dispatch l (some packet) =>
    match packet.getType with
    | .ok type => .ok (m.choose P l i.clock packet type)
    | .error e => .ok (m.goto (.caught l e))
  | .setState l handled store =>
    .ok { m with socket := { s with state := handled.state }, pc := .send l handled store }
  | .send l handled store =>
    .ok ((m.sendAs handled).goto (Pc.sent l store))
  | .store l packet =>
    match P.store i.clock packet s with
    | .ok stored => .ok { m with socket := { s with database := stored.database }, pc := .test l }
    | .error e => .ok (m.goto (.caught l e))
  | .resend l =>
    match s.resendPacket i.clock.transmit with
    | .ok sending => .ok ((m.sendAs sending).goto (.test l))
    | .error e => .ok (m.goto (.caught l e))
  | .caught l (.io message) =>
    .ok (m.goto (if s.state = .terminated then (match l with
        | .start => .returned .start
        | .finish => .epilogue)
      else .threw (.negotiationFailed message)))
  | .caught _ (.invalidPacket message) => .ok (m.goto (.threw (.negotiationFailed message)))
  | .caught _ e => .ok (m.goto (.threw e))
  -- The timeout set here is read by no one but the receivers of audio.
  | .epilogue => .ok (m.goto (.returned .finish))
  | .returned _ => .error .blocked
  | .threw _ => .error .blocked

/-- One statement of `close`. -/
def close (m : Negotiation ρ) : Except Blocked (Negotiation ρ) :=
  match m.closer with
  | .idle => .ok { m with socket := { m.socket with state := .terminated }, closer := .closing }
  | .closing => .ok { m with closed := true, closer := .returned }
  | .returned => .error .blocked

def step (m : Negotiation ρ) : Turn → Except Blocked (Negotiation ρ)
  | .thread i => m.thread P i
  | .finish => match m.pc with
    | .returned .start => .ok (m.goto (.test .finish))
    | _ => .error .blocked
  | .close => m.close

/-! ## What a statement does -/

/-- Where a statement of the negotiation thread can lead that changes nothing
    else. -/
inductive Passes (s : ZRTPSocket ρ) (closed : Bool) (c : Clock) : Pc ρ → Pc ρ → Prop
  | greeted : Passes s closed c .greet (.test .start)
  | entered (h : s.state = .expectingHello) :
    Passes s closed c (.test .start) (.receive .start true)
  | left (h : s.state ≠ .expectingHello) : Passes s closed c (.test .start) (.returned .start)
  | complete (h : s.state = .handshakeComplete) : Passes s closed c (.test .finish) .epilogue
  | incomplete (h : s.state ≠ .handshakeComplete) :
    Passes s closed c (.test .finish) .testTerminated
  | terminated (h : s.state = .terminated) : Passes s closed c .testTerminated .epilogue
  | going (h : s.state ≠ .terminated) : Passes s closed c .testTerminated .argument
  | argument : Passes s closed c .argument (.receive .finish (s.state ≠ .expectingConfirmAck))
  | nothing (l : Loop) (verifyCRC : Bool) :
    Passes s closed c (.receive l verifyCRC) (.dispatch l none)
  | receiveFailed (l : Loop) (verifyCRC : Bool) (e : JavaException) (h : closed = false) :
    Passes s closed c (.receive l verifyCRC) (.caught l e)
  | due (l : Loop) (packet : Option HandshakePacket)
    (h : s.isRetransmitTime c.timeoutCheck = true) :
    Passes s closed c (.dispatch l packet) (.resend l)
  | notDue (l : Loop) (packet : Option HandshakePacket)
    (h : s.isRetransmitTime c.timeoutCheck = false) :
    Passes s closed c (.dispatch l packet) (.test l)
  | dispatchFailed (l : Loop) (packet : Option HandshakePacket) (e : JavaException) :
    Passes s closed c (.dispatch l packet) (.caught l e)
  | storeFailed (l : Loop) (packet : HandshakePacket) (e : JavaException) :
    Passes s closed c (.store l packet) (.caught l e)
  | resendFailed (l : Loop) (e : JavaException) : Passes s closed c (.resend l) (.caught l e)
  | leftTerminated (e : JavaException) (h : s.state = .terminated) :
    Passes s closed c (.caught .start e) (.returned .start)
  | finishedTerminated (e : JavaException) (h : s.state = .terminated) :
    Passes s closed c (.caught .finish e) .epilogue
  | thrown (l : Loop) (e e' : JavaException) : Passes s closed c (.caught l e) (.threw e')
  | finished : Passes s closed c .epilogue (.returned .finish)

/-- What a statement of the negotiation thread can do. -/
inductive Does (P : Party ρ) (c : Clock) (m : Negotiation ρ) : Negotiation ρ → Prop
  | passes (pc : Pc ρ) (h : Passes m.socket m.closed c m.pc pc) : Does P c m (m.goto pc)
  | sends (l : Loop) (sending : ZRTPSocket ρ) (hpc : m.pc = .greet ∧ l = .start ∨ m.pc = .resend l)
    (hsecret : sending.masterSecret = m.socket.masterSecret) :
    Does P c m ((m.sendAs sending).goto (.test l))
  | receives (l : Loop) (verifyCRC : Bool) (buf : ReceiveBuffer) (packet : Option HandshakePacket)
    (hpc : m.pc = .receive l verifyCRC) (hopen : m.closed = false) :
    Does P c m { m with socket := { m.socket with buf := buf }, pc := .dispatch l packet }
  | handles (l : Loop) (packet : HandshakePacket) (type : Bytes)
    (handle : Clock → HandshakePacket → ZRTPSocket ρ → Java (ZRTPSocket ρ))
    (handled : ZRTPSocket ρ) (store : Option HandshakePacket)
    (hpc : m.pc = .dispatch l (some packet))
    (hhandle : ZRTPSocket.handler P.handlers m.socket.state type = some handle)
    (hrun : handle c packet m.socket = .ok handled) :
    Does P c m { m with socket := m.socket.adopt handled, pc := .setState l handled store }
  | setsState (l : Loop) (handled : ZRTPSocket ρ) (store : Option HandshakePacket)
    (hpc : m.pc = .setState l handled store) :
    Does P c m { m with
      socket := { m.socket with state := handled.state }
      pc := .send l handled store }
  | answers (l : Loop) (handled : ZRTPSocket ρ) (store : Option HandshakePacket)
    (hpc : m.pc = .send l handled store) :
    Does P c m ((m.sendAs handled).goto (Pc.sent l store))
  | stores (l : Loop) (packet : HandshakePacket) (database : RetainedSecretsDatabase)
    (hpc : m.pc = .store l packet) :
    Does P c m { m with socket := { m.socket with database := database }, pc := .test l }

variable {P : Party ρ} {m m' : Negotiation ρ} {i : Input}

theorem handler_of_handlerIn {h : Handlers ρ} {l : Loop} {state : State} {type : Bytes}
    {handle : Clock → HandshakePacket → ZRTPSocket ρ → Java (ZRTPSocket ρ)}
    (hhandle : ZRTPSocket.handlerIn h l state type = some handle) :
    ZRTPSocket.handler h state type = some handle := by
  cases l with
  | finish => exact hhandle
  | start =>
      unfold ZRTPSocket.handlerIn at hhandle
      by_cases hstate : state = .expectingHello
      · simpa only [if_pos hstate] using hhandle
      · simp only [if_neg hstate, reduceCtorEq] at hhandle

/-- A loop that got no packet it has a handler for resends, or goes on. -/
theorem does_undispatched {l : Loop} {packet : Option HandshakePacket}
    (hpc : m.pc = .dispatch l packet) (c : Clock) :
    Does P c m
      (m.goto (if m.socket.isRetransmitTime c.timeoutCheck then .resend l else .test l)) := by
  by_cases hdue : m.socket.isRetransmitTime c.timeoutCheck = true
  · rw [if_pos hdue]
    exact .passes _ (hpc ▸ .due l packet hdue)
  · rw [if_neg hdue]
    exact .passes _ (hpc ▸ .notDue l packet (Bool.not_eq_true _ ▸ hdue))

theorem does_choose {l : Loop} {packet : HandshakePacket} (hpc : m.pc = .dispatch l (some packet))
    (c : Clock) (type : Bytes) : Does P c m (m.choose P l c packet type) := by
  unfold choose
  cases hhandle : ZRTPSocket.handlerIn P.handlers l m.socket.state type with
  | none => exact does_undispatched hpc c
  | some handle =>
      simp only []
      cases hrun : handle c packet m.socket with
      | error e => exact .passes _ (hpc ▸ .dispatchFailed l _ e)
      | ok handled =>
          exact .handles l packet type handle handled _ hpc (handler_of_handlerIn hhandle) hrun

theorem resendPacket_masterSecret {now : Int} {s s' : ZRTPSocket ρ}
    (h : s.resendPacket now = .ok s') : s'.masterSecret = s.masterSecret :=
  (ZRTPSocket.resendPacket_idle now s s' h).1.masterSecret_eq

/-- Receiving leaves a packet or none to the chain of conditions, or fails. -/
theorem does_receive {l : Loop} {verifyCRC : Bool} (hpc : m.pc = .receive l verifyCRC)
    (h : m.thread P i = .ok m') : Does P i.clock m m' := by
  unfold thread at h
  rw [hpc] at h
  simp only [] at h
  by_cases hclosed : m.closed = true
  · rw [if_pos hclosed, Except.ok.injEq] at h
    rw [← h]
    exact .passes _ (hpc ▸ .nothing l verifyCRC)
  · rw [if_neg hclosed] at h
    rw [Bool.not_eq_true] at hclosed
    cases hevent : i.event with
    | datagram datagram =>
        rw [hevent] at h
        simp only [] at h
        cases hreceive : m.socket.receiveHandshakePacket verifyCRC datagram with
        | error e =>
            rw [hreceive, Except.ok.injEq] at h
            rw [← h]
            exact .passes _ (hpc ▸ .receiveFailed l verifyCRC e hclosed)
        | ok received =>
            rw [hreceive, Except.ok.injEq] at h
            rw [← h]
            -- Of the socket only the buffer is another one.
            rw [((ZRTPSocket.receiveHandshakePacket_ok _ _ _ _ _).mp hreceive).1]
            exact .receives l verifyCRC _ received.2 hpc hclosed
    | timeout =>
        rw [hevent, Except.ok.injEq] at h
        rw [← h]
        exact .passes _ (hpc ▸ .nothing l verifyCRC)
    | ioException message =>
        rw [hevent, Except.ok.injEq] at h
        rw [← h]
        exact .passes _ (hpc ▸ .receiveFailed l verifyCRC _ hclosed)
    | close =>
        rw [hevent] at h
        simp only [reduceCtorEq] at h

/-- An exception leaves the loop. -/
theorem does_caught {l : Loop} {e : JavaException} (hpc : m.pc = .caught l e)
    (h : m.thread P i = .ok m') : Does P i.clock m m' := by
  unfold thread at h
  rw [hpc] at h
  -- Only an `IOException` asks whether the socket was closed meanwhile.
  cases e with
  | io message =>
      simp only [Except.ok.injEq] at h
      rw [← h]
      by_cases hstate : m.socket.state = .terminated
      · rw [if_pos hstate]
        cases l with
        | start => exact .passes _ (hpc ▸ .leftTerminated _ hstate)
        | finish => exact .passes _ (hpc ▸ .finishedTerminated _ hstate)
      · rw [if_neg hstate]
        exact .passes _ (hpc ▸ .thrown l _ _)
  | invalidPacket message =>
      simp only [Except.ok.injEq] at h
      rw [← h]
      exact .passes _ (hpc ▸ .thrown l _ _)
  | negotiationFailed message =>
      simp only [Except.ok.injEq] at h
      rw [← h]
      exact .passes _ (hpc ▸ .thrown l _ _)
  | recipientUnavailable message =>
      simp only [Except.ok.injEq] at h
      rw [← h]
      exact .passes _ (hpc ▸ .thrown l _ _)
  | unchecked e =>
      simp only [Except.ok.injEq] at h
      rw [← h]
      exact .passes _ (hpc ▸ .thrown l _ _)

/-- A statement of the negotiation thread does one of these things. -/
theorem does_of_thread (h : m.thread P i = .ok m') : Does P i.clock m m' := by
  -- One statement for each place the thread can be at.
  cases hpc : m.pc with
  | greet =>
      unfold thread at h
      rw [hpc] at h
      simp only [] at h
      cases hgreeting : P.greeting m.socket with
      | none =>
          rw [hgreeting, Except.ok.injEq] at h
          rw [← h]
          exact .passes _ (hpc ▸ .greeted)
      | some packet =>
          rw [hgreeting, Except.ok.injEq] at h
          rw [← h]
          exact .sends .start _ (Or.inl ⟨hpc, rfl⟩) rfl
  | test l =>
      unfold thread at h
      rw [hpc] at h
      cases l with
      | start =>
          simp only [Except.ok.injEq] at h
          rw [← h]
          by_cases hstate : m.socket.state = .expectingHello
          · rw [if_pos hstate]
            exact .passes _ (hpc ▸ .entered hstate)
          · rw [if_neg hstate]
            exact .passes _ (hpc ▸ .left hstate)
      | finish =>
          simp only [Except.ok.injEq] at h
          rw [← h]
          by_cases hstate : m.socket.state = .handshakeComplete
          · rw [if_pos hstate]
            exact .passes _ (hpc ▸ .complete hstate)
          · rw [if_neg hstate]
            exact .passes _ (hpc ▸ .incomplete hstate)
  | testTerminated =>
      unfold thread at h
      rw [hpc] at h
      simp only [Except.ok.injEq] at h
      rw [← h]
      by_cases hstate : m.socket.state = .terminated
      · rw [if_pos hstate]
        exact .passes _ (hpc ▸ .terminated hstate)
      · rw [if_neg hstate]
        exact .passes _ (hpc ▸ .going hstate)
  | argument =>
      unfold thread at h
      rw [hpc] at h
      simp only [Except.ok.injEq] at h
      rw [← h]
      exact .passes _ (hpc ▸ .argument)
  | receive l verifyCRC => exact does_receive hpc h
  | dispatch l packet =>
      unfold thread at h
      rw [hpc] at h
      cases packet with
      | none =>
          simp only [Except.ok.injEq] at h
          rw [← h]
          exact does_undispatched hpc i.clock
      | some packet =>
          simp only [] at h
          cases htype : packet.getType with
          | error e =>
              rw [htype, Except.ok.injEq] at h
              rw [← h]
              exact .passes _ (hpc ▸ .dispatchFailed l _ e)
          | ok type =>
              rw [htype, Except.ok.injEq] at h
              rw [← h]
              exact does_choose hpc i.clock type
  | setState l handled store =>
      unfold thread at h
      rw [hpc] at h
      simp only [Except.ok.injEq] at h
      rw [← h]
      exact .setsState l handled store hpc
  | send l handled store =>
      unfold thread at h
      rw [hpc] at h
      simp only [Except.ok.injEq] at h
      rw [← h]
      exact .answers l handled store hpc
  | store l packet =>
      unfold thread at h
      rw [hpc] at h
      simp only [] at h
      cases hstore : P.store i.clock packet m.socket with
      | error e =>
          rw [hstore, Except.ok.injEq] at h
          rw [← h]
          exact .passes _ (hpc ▸ .storeFailed l packet e)
      | ok stored =>
          rw [hstore, Except.ok.injEq] at h
          rw [← h]
          exact .stores l packet stored.database hpc
  | resend l =>
      unfold thread at h
      rw [hpc] at h
      simp only [] at h
      cases hresend : m.socket.resendPacket i.clock.transmit with
      | error e =>
          rw [hresend, Except.ok.injEq] at h
          rw [← h]
          exact .passes _ (hpc ▸ .resendFailed l e)
      | ok sending =>
          rw [hresend, Except.ok.injEq] at h
          rw [← h]
          exact .sends l sending (Or.inr hpc) (resendPacket_masterSecret hresend)
  | caught l e => exact does_caught hpc h
  | epilogue =>
      unfold thread at h
      rw [hpc] at h
      simp only [Except.ok.injEq] at h
      rw [← h]
      exact .passes _ (hpc ▸ .finished)
  | returned l =>
      unfold thread at h
      rw [hpc] at h
      simp only [reduceCtorEq] at h
  | threw e =>
      unfold thread at h
      rw [hpc] at h
      simp only [reduceCtorEq] at h

/-- What is shared, as a statement of the negotiation thread leaves it. Only a
    handler's `setState` writes the state. -/
theorem thread_shared (h : m.thread P i = .ok m') :
    m'.closed = m.closed ∧ m'.closer = m.closer ∧
    (m'.socket.state = m.socket.state ∨
      ∃ l handled store, m.pc = .setState l handled store ∧ m'.socket.state = handled.state) := by
  cases does_of_thread h with
  | passes pc hpasses => exact ⟨rfl, rfl, Or.inl rfl⟩
  | sends l sending hpc hsecret => exact ⟨rfl, rfl, Or.inl rfl⟩
  | receives l verifyCRC buf packet hpc hopen => exact ⟨rfl, rfl, Or.inl rfl⟩
  | handles l packet type handle handled store hpc hhandle hrun => exact ⟨rfl, rfl, Or.inl rfl⟩
  | setsState l handled store hpc => exact ⟨rfl, rfl, Or.inr ⟨l, handled, store, hpc, rfl⟩⟩
  | answers l handled store hpc => exact ⟨rfl, rfl, Or.inl rfl⟩
  | stores l packet database hpc => exact ⟨rfl, rfl, Or.inl rfl⟩

/-- A thread that is not out of its loops can go on once the socket is
    closed. -/
theorem thread_of_closed (P : Party ρ) (i : Input) (hclosed : m.closed = true)
    (hreturned : ∀ l, m.pc ≠ .returned l) (hthrew : ∀ e, m.pc ≠ .threw e) :
    ∃ m', m.thread P i = .ok m' := by
  unfold thread
  cases hpc : m.pc with
  | greet =>
      simp only []
      cases P.greeting m.socket with
      | none => exact ⟨_, rfl⟩
      | some packet => exact ⟨_, rfl⟩
  | test l => cases l <;> exact ⟨_, rfl⟩
  | testTerminated => exact ⟨_, rfl⟩
  | argument => exact ⟨_, rfl⟩
  | receive l verifyCRC =>
      simp only [hclosed, if_true]
      exact ⟨_, rfl⟩
  | dispatch l packet =>
      cases packet with
      | none => exact ⟨_, rfl⟩
      | some packet =>
          simp only []
          cases packet.getType with
          | ok type => exact ⟨_, rfl⟩
          | error e => exact ⟨_, rfl⟩
  | setState l handled store => exact ⟨_, rfl⟩
  | send l handled store => exact ⟨_, rfl⟩
  | store l packet =>
      simp only []
      cases P.store i.clock packet m.socket with
      | ok stored => exact ⟨_, rfl⟩
      | error e => exact ⟨_, rfl⟩
  | resend l =>
      simp only []
      cases m.socket.resendPacket i.clock.transmit with
      | ok sending => exact ⟨_, rfl⟩
      | error e => exact ⟨_, rfl⟩
  | caught l e => cases e <;> exact ⟨_, rfl⟩
  | epilogue => exact ⟨_, rfl⟩
  | returned l => exact absurd hpc (hreturned l)
  | threw e => exact absurd hpc (hthrew e)

/-! ## What is known wherever the two threads are -/

/-- What is known of the negotiation at any time. -/
structure Sound (m : Negotiation ρ) : Prop where
  /-- Between what a handler computes and its `sendFreshPacket`. -/
  handled : ∀ l handled store, m.pc = .setState l handled store ∨ m.pc = .send l handled store →
    Settled handled ∧ m.socket.masterSecret = handled.masterSecret
  complete : m.socket.state = .handshakeComplete → m.socket.masterSecret ≠ none
  terminated : m.socket.state = .terminated → m.closer ≠ .idle
  ended : m.pc = .epilogue ∨ m.pc = .returned .finish → m.socket.Over
  closed : m.closer = .returned → m.closed = true

/-- The places nothing is known of that is not known everywhere. -/
def Plain : Pc ρ → Prop
  | .setState _ _ _ => False
  | .send _ _ _ => False
  | .epilogue => False
  | .returned .finish => False
  | _ => True

theorem sound_of_plain (hpc : Plain m.pc)
    (hcomplete : m.socket.state = .handshakeComplete → m.socket.masterSecret ≠ none)
    (hterminated : m.socket.state = .terminated → m.closer ≠ .idle)
    (hclosed : m.closer = .returned → m.closed = true) : Sound m where
  handled l handled store h := by
    rcases h with h | h
    · rw [h] at hpc
      exact absurd hpc id
    · rw [h] at hpc
      exact absurd hpc id
  complete := hcomplete
  terminated := hterminated
  ended h := by
    rcases h with h | h
    · rw [h] at hpc
      exact absurd hpc id
    · rw [h] at hpc
      exact absurd hpc id
  closed := hclosed

theorem sound_create (s : ZRTPSocket ρ) (h : ¬ s.Over) : Sound (create s) :=
  sound_of_plain trivial (fun hstate => absurd (Or.inl hstate) h)
    (fun hstate => absurd (Or.inr hstate) h) (fun hcloser => absurd hcloser nofun)

theorem plain_sent (l : Loop) (store : Option HandshakePacket) :
    Plain (Pc.sent l store : Pc ρ) := by
  cases store with
  | none => cases l <;> trivial
  | some packet => trivial

theorem Sound.goto (hm : Sound m) {pc : Pc ρ} (hpc : Plain pc) : Sound (m.goto pc) :=
  sound_of_plain hpc hm.complete hm.terminated hm.closed

/-- The loops are over behind them. -/
theorem Sound.goto_over (hm : Sound m) {pc : Pc ρ} (hpc : pc = .epilogue ∨ pc = .returned .finish)
    (hover : m.socket.Over) : Sound (m.goto pc) where
  handled l handled store h := by
    have hgoto : (m.goto pc).pc = pc := rfl
    rw [hgoto] at h
    rcases hpc with hpc | hpc
    · rw [hpc] at h
      exact absurd h (by simp only [reduceCtorEq, or_self, not_false_eq_true])
    · rw [hpc] at h
      exact absurd h (by simp only [reduceCtorEq, or_self, not_false_eq_true])
  complete := hm.complete
  terminated := hm.terminated
  ended _ := hover
  closed := hm.closed

theorem sound_passes {q pc : Pc ρ} {c : Clock} (hm : Sound m)
    (h : Passes m.socket m.closed c q pc) (hq : m.pc = q) : Sound (m.goto pc) := by
  cases h with
  | complete hstate => exact hm.goto_over (Or.inl rfl) (Or.inl hstate)
  | terminated hstate => exact hm.goto_over (Or.inl rfl) (Or.inr hstate)
  | finishedTerminated e hstate => exact hm.goto_over (Or.inl rfl) (Or.inr hstate)
  | finished => exact hm.goto_over (Or.inr rfl) (hm.ended (Or.inl hq))
  | notDue l packet hdue => cases l <;> exact hm.goto trivial
  | _ => exact hm.goto trivial

theorem sound_thread (hm : Sound m) (h : m.thread P i = .ok m') : Sound m' := by
  cases does_of_thread h with
  | passes pc hpasses => exact sound_passes hm hpasses rfl
  | sends l sending hpc hsecret =>
      refine sound_of_plain (by cases l <;> trivial) (fun hstate => ?_) hm.terminated hm.closed
      have hkept : sending.masterSecret ≠ none := hsecret ▸ hm.complete hstate
      exact hkept
  | receives l verifyCRC buf packet hpc hopen =>
      exact sound_of_plain trivial hm.complete hm.terminated hm.closed
  | handles l packet type handle handled store hpc hhandle hrun =>
      have hhandled := P.handled hhandle hrun
      refine ⟨fun l handled store hpc => ?_, fun hstate => ?_, hm.terminated, nofun, hm.closed⟩
      · rcases hpc with hpc | hpc
        · cases hpc
          exact ⟨hhandled, rfl⟩
        · exact absurd hpc nofun
      · -- A socket whose handshake is complete has no handler.
        have hstate : m.socket.state = .handshakeComplete := hstate
        rw [hstate] at hhandle
        exact absurd hhandle nofun
  | setsState l handled store hpc =>
      have hhandled := hm.handled l handled store (Or.inl hpc)
      refine ⟨fun l handled store hpc => ?_, fun hstate => ?_, fun hstate => ?_, nofun, hm.closed⟩
      · rcases hpc with hpc | hpc
        · exact absurd hpc nofun
        · cases hpc
          exact hhandled
      · exact hhandled.2 ▸ hhandled.1.2 hstate
      · exact absurd hstate hhandled.1.1
  | answers l handled store hpc =>
      have hhandled := hm.handled l handled store (Or.inr hpc)
      refine sound_of_plain (plain_sent l store) (fun hstate => ?_) hm.terminated hm.closed
      have hkept : handled.masterSecret ≠ none := hhandled.2 ▸ hm.complete hstate
      exact hkept
  | stores l packet database hpc =>
      exact sound_of_plain (by cases l <;> trivial) hm.complete hm.terminated hm.closed

theorem sound_close (hm : Sound m) (h : m.close = .ok m') : Sound m' := by
  unfold close at h
  cases hcloser : m.closer with
  | idle =>
      rw [hcloser, Except.ok.injEq] at h
      rw [← h]
      exact ⟨hm.handled, fun hstate => absurd hstate nofun, fun _ => nofun, fun _ => Or.inr rfl,
        fun hcloser => absurd hcloser nofun⟩
  | closing =>
      rw [hcloser, Except.ok.injEq] at h
      rw [← h]
      exact ⟨hm.handled, hm.complete, fun _ => nofun, hm.ended, fun _ => rfl⟩
  | returned =>
      rw [hcloser] at h
      simp only [reduceCtorEq] at h

theorem sound_step {turn : Turn} (hm : Sound m) (h : m.step P turn = .ok m') : Sound m' := by
  cases turn with
  | thread i => exact sound_thread hm h
  | close => exact sound_close hm h
  | finish =>
      unfold step at h
      simp only [] at h
      split at h
      · rw [Except.ok.injEq] at h
        rw [← h]
        exact hm.goto trivial
      · simp only [reduceCtorEq] at h

end Negotiation

end RedPhone
