import RedPhone.Zrtp.Parties

/-!
# The Call Managers

A call manager is a thread. It gets a session from the server or is given one,
makes the sockets, negotiates the key, and runs the audio. The service ends a
call by calling `terminate` from a thread of its own, which raises a flag and
then ends whatever the call has made so far, field by field.

Everything here is one statement at a time, as far as the other thread can see
it: making a thing and storing it in its field are two, looking at a field and
ending what is there is one, for a field is written once. The negotiation in
the middle is the machine of `Zrtp.Thread`, and closing its socket is the
`close` of that machine. The calls into the native audio manager and into the
queue of the signal manager are single statements.

## Main definitions

* `CallStateListener`: The callbacks.
* `RunException`: What the beginning of `run` can throw.
* `Field`: A thing on its way to its field.
* `CallManager`: What tells one call manager from another.
* `Statement`: The statements before the negotiation.
* `Call`: Both threads, and what they share.
* `Call.run`, `Call.terminate`: A statement of either.
* `Call.step`: A statement of one of them.
* `Follows`, `Runs`: Where a statement of the thread leads, and what it does.
* `Terminates`: What a statement of `terminate` does.

## Theorems

* `runs_of_run`: The statements of the thread of a call manager.
* `terminates_of_terminate`: The statements of `terminate`.
-/

namespace RedPhone

open HandshakePacket RetainedSecretsCalculator Interleaving

/-- The callbacks of `CallStateListener` that a call manager and its signal
    listener make. -/
inductive CallStateListener
  | notifyNoSuchUser
  | notifyWaitingForResponder
  | notifyConnectingtoInitiator
  | notifyServerFailure
  | notifyClientFailure
  | notifyServerMessage (serverMessage : String)
  | notifyCallDisconnected
  | notifyCallRinging
  | notifyCallConnected
  | notifyPerformingHandshake
  | notifyHandshakeFailed
  | notifyRecipientUnavailable
  | notifyBusy
  | notifyLoginFailed
  | notifyCallStale
  | notifyCallFresh
  | notifyClientError
  | notifyCallConnecting
  deriving DecidableEq, Repr

/-- What the statements of `run` can throw, apart from the negotiation. An
    `Error` is not caught. -/
inductive RunException
  | noSuchUser
  | serverMessage (message : String)
  | loginFailed
  | signaling
  | socket
  | runtime
  | sessionInitiationFailure
  | sessionStale
  | audio
  | error
  deriving DecidableEq, Repr

/-- The `catch` clauses of the two `run`. -/
def RunException.caught : Role → RunException → List CallStateListener
  | .initiator, .noSuchUser => [.notifyNoSuchUser]
  | .initiator, .serverMessage message => [.notifyServerMessage message]
  | .responder, .sessionStale => [.notifyCallStale]
  | _, .loginFailed => [.notifyLoginFailed]
  | _, .signaling => [.notifyServerFailure]
  | _, .socket => [.notifyCallDisconnected]
  | _, .runtime => [.notifyClientFailure]
  | _, .sessionInitiationFailure => [.notifyServerFailure]
  | _, .audio => [.notifyClientError]
  | _, _ => []

/-- A thing that a field is for: not there, made but not yet stored, stored. -/
inductive Field (α : Type)
  | unset
  | made (a : α)
  | set (a : α)

namespace Field

variable {α : Type}

def get? : Field α → Option α
  | .unset => none
  | .made a => some a
  | .set a => some a

def store : Field α → Field α
  | .made a => .set a
  | f => f

def modify (g : α → α) : Field α → Field α
  | .unset => .unset
  | .made a => .made (g a)
  | .set a => .set (g a)

/-- What another thread sees of it. -/
def look : Field α → Option α
  | .set a => some a
  | _ => none

theorem get?_modify {f : Field α} {a : α} (h : f.get? = some a) (g : α → α) :
    (f.modify g).get? = some (g a) := by
  cases f with
  | unset => exact absurd h nofun
  | made b => exact congrArg (fun o => o.map g) h
  | set b => exact congrArg (fun o => o.map g) h

theorem get?_modify_none {f : Field α} (h : f.get? = none) (g : α → α) :
    (f.modify g).get? = none := by
  cases f with
  | unset => rfl
  | made b => exact absurd h nofun
  | set b => exact absurd h nofun

theorem get?_store (f : Field α) : f.store.get? = f.get? := by
  cases f with
  | unset => rfl
  | made b => rfl
  | set b => rfl

theorem store_ne_made {f : Field α} {a : α} : f.store ≠ .made a := by
  cases f with
  | unset => exact nofun
  | made b => exact nofun
  | set b => exact nofun

/-- Nothing is seen in a field that is empty, or whose thing is not stored. -/
theorem look_none {f : Field α} (h : f.look = none) : f = .unset ∨ ∃ a, f = .made a := by
  cases f with
  | unset => exact Or.inl rfl
  | made a => exact Or.inr ⟨a, rfl⟩
  | set a => exact absurd h nofun

end Field

/-- What tells one call manager from another: its role, the negotiating socket
    its constructor call makes, and the preference for the loopback test. -/
structure CallManager (ρ : Type) where
  role : Role
  party : Party ρ
  socket : ZRTPSocket ρ
  socket_fresh : ¬ socket.Over
  /-- The session a `ResponderCallManager` is constructed with. -/
  sessionDescriptor : Option Nat
  initiator_session : role = .initiator → sessionDescriptor = none
  loopbackMode : Bool

/-- An `InitiatingCallManager`. -/
def InitiatingCallManager (C : Crypto) (cfg : Config) (database : RetainedSecretsDatabase)
    (loopbackMode : Bool) : CallManager InitiatorFields where
  role := .initiator
  party := initiator C cfg
  socket := ZRTPInitiatorSocket.create database
  socket_fresh := by rintro (h | h) <;> exact absurd h nofun
  sessionDescriptor := none
  initiator_session _ := rfl
  loopbackMode := loopbackMode

/-- A `ResponderCallManager`, for a call of a session. Its Hello is a legacy
    one if the caller's version is. -/
def ResponderCallManager (C : Crypto) (cfg : Config) (database : RetainedSecretsDatabase)
    (sessionId : Nat) (version : Int) : CallManager ResponderFields where
  role := .responder
  party := responder C cfg
  socket := ZRTPResponderSocket.create C cfg database (version ≤ 0)
  socket_fresh := by rintro (h | h) <;> exact absurd h nofun
  sessionDescriptor := some sessionId
  initiator_session := nofun
  loopbackMode := false

/-- The statements of `run` before that of the superclass. -/
inductive Statement
  /-- `new SignalingSocket`. -/
  | signalingSocket
  | initiateConnection
  | setRinging
  | waitForAnswer
  /-- The `NetworkConnector`. -/
  | makeConnection
  /-- `new SecureRtpSocket(new RtpSocket(...))`. -/
  | secureSocket
  | newZrtpSocket
  | setZrtpSocket
  /-- `new SignalManager`, in `processSignals`. -/
  | newSignalManager
  | setSignalManager
  deriving DecidableEq, Repr

/-- `InitiatingCallManager.run` and `ResponderCallManager.run`. -/
def Statement.order : Role → List Statement
  | .initiator => [.signalingSocket, .initiateConnection, .makeConnection, .secureSocket,
      .newZrtpSocket, .setZrtpSocket, .newSignalManager, .setSignalManager]
  | .responder => [.signalingSocket, .setRinging, .newSignalManager, .setSignalManager,
      .waitForAnswer, .makeConnection, .secureSocket, .newZrtpSocket, .setZrtpSocket]

/-- Where the thread of the call manager is. -/
inductive RunPc
  | before (rest : List Statement)
  /-- The first `if (!terminated)` of `CallManager.run`. -/
  | testStart
  | negotiating (l : Loop)
  | testFinish
  | testConnected
  /-- Before `notifyCallConnected`. -/
  | connected
  | testAudio
  | newAudioManager
  | setAudioManager
  | startAudio
  | caught (e : JavaException)
  | returned

/-- Where the thread is that calls `terminate`. -/
inductive Terminator
  | idle
  /-- In `CallManager.terminate`. -/
  | called
  /-- Before the look at `callAudioManager`. -/
  | audioManager
  | signalManager
  | zrtpSocket
  /-- Inside `zrtpSocket.close()`. -/
  | closing
  | returned
  deriving DecidableEq, Repr

/-- The call manager and the threads that use it. -/
structure Call (ρ : Type) where
  pc : RunPc
  terminator : Terminator
  terminated : Bool
  /-- `answer` of a `ResponderCallManager`. -/
  answer : Nat
  sessionDescriptor : Option Nat
  zrtpSocket : Field (Negotiation ρ)
  /-- Whether it has been told to terminate. -/
  signalManager : Field Bool
  callAudioManager : Field Bool
  /-- The sessions whose hangup is queued. -/
  hangups : List Nat
  notified : List CallStateListener
  /-- The master secret `runAudio` was called with. -/
  ranAudio : Option (Option MasterSecret)

/-- How a statement of `run` ends that talks to the network or the device. -/
inductive Outcome
  /-- With the session, where the statement is for one. -/
  | returns (sessionId : Nat)
  | throws (e : RunException)

/-- Whose turn it is, and what it meets. -/
inductive CallTurn
  | run (o : Outcome) (i : Input)
  | terminate
  /-- `answer` of a `ResponderCallManager`, from the service. -/
  | answer (answer : Bool)

namespace Call

variable {ρ : Type} (M : CallManager ρ)

/-- The call manager when its thread is started. The loopback test makes its
    audio manager at once. -/
def create : Call ρ where
  pc := match M.role, M.loopbackMode with
    | .initiator, true => .newAudioManager
    | role, _ => .before (Statement.order role)
  terminator := .idle
  terminated := false
  answer := 0
  sessionDescriptor := M.sessionDescriptor
  zrtpSocket := .unset
  signalManager := .unset
  callAudioManager := .unset
  hangups := []
  notified := match M.role, M.loopbackMode with
    | .initiator, false => [.notifyCallConnecting]
    | _, _ => []
  ranAudio := none

def goto (m : Call ρ) (pc : RunPc) : Call ρ := { m with pc := pc }

def notify (m : Call ρ) (callbacks : List CallStateListener) : Call ρ :=
  { m with notified := m.notified ++ callbacks }

/-- Leave `run` through one of its `catch` clauses. -/
def leave (m : Call ρ) (callbacks : List CallStateListener) : Call ρ :=
  (m.notify callbacks).goto .returned

/-- What follows a statement of the beginning when it has returned. -/
def perform (m : Call ρ) (sessionId : Nat) (rest : List Statement) :
    Statement → Except Blocked (Call ρ)
  | .signalingSocket => .ok (m.goto (.before rest))
  | .initiateConnection => .ok { m with sessionDescriptor := some sessionId, pc := .before rest }
  | .setRinging => .ok ((m.notify [.notifyCallFresh]).goto (.before rest))
  | .waitForAnswer =>
    if m.answer = 0 then .error .blocked
    else .ok (m.goto (if m.answer = 1 then .before rest else .returned))
  | .makeConnection => .ok (m.goto (.before rest))
  | .secureSocket => .ok (m.goto (.before rest))
  | .newZrtpSocket =>
    .ok { m with zrtpSocket := .made (Negotiation.create M.socket), pc := .before rest }
  | .setZrtpSocket => .ok { m with zrtpSocket := m.zrtpSocket.store, pc := .before rest }
  | .newSignalManager => .ok { m with signalManager := .made false, pc := .before rest }
  | .setSignalManager => .ok { m with signalManager := m.signalManager.store, pc := .before rest }

/-- Whether a statement can throw. Storing in a field does not. -/
def Throwing : Statement → Bool
  | .setZrtpSocket => false
  | .setSignalManager => false
  | .waitForAnswer => false
  | _ => true

/-- `zrtpSocket.negotiateStart()` and `zrtpSocket.negotiateFinish()`. -/
def negotiate (m : Call ρ) (i : Input) : Except Blocked (Call ρ) :=
  match m.zrtpSocket.get? with
  | none => .ok (m.goto (.caught (.unchecked .nullPointer)))
  | some n =>
    match n.pc with
    | .returned .start => .ok (m.goto .testFinish)
    | .returned .finish => .ok (m.goto .testConnected)
    | .threw e => .ok (m.goto (.caught e))
    | _ =>
      match n.thread M.party i with
      | .ok n' => .ok { m with zrtpSocket := m.zrtpSocket.modify (fun _ => n') }
      | .error e => .error e

/-- The `catch` clauses of `CallManager.run`, and those of the subclass for
    what is not caught there. -/
def handle (m : Call ρ) : JavaException → Call ρ
  | .recipientUnavailable _ => m.leave (if m.terminated then [] else [.notifyRecipientUnavailable])
  | .negotiationFailed _ => m.leave (if m.terminated then [] else [.notifyHandshakeFailed])
  | .io _ => m.leave [.notifyCallDisconnected]
  | .unchecked .assertionError => m.leave []
  | .unchecked _ => m.leave [.notifyClientFailure]
  | .invalidPacket _ => m.leave []

/-- The `catch` clause an exception of the audio manager goes to. -/
def audioFailed (e : RunException) : List CallStateListener :=
  if M.loopbackMode then [.notifyClientFailure] else e.caught M.role

/-- One statement of the thread of the call manager. -/
def run (o : Outcome) (i : Input) (m : Call ρ) : Except Blocked (Call ρ) :=
  match m.pc with
  | .before [] =>
    .ok ((m.notify [match M.role with
      | .initiator => .notifyWaitingForResponder
      | .responder => .notifyConnectingtoInitiator]).goto .testStart)
  | .before (statement :: rest) =>
    match o, Throwing statement with
    | .throws e, true => .ok (m.leave (e.caught M.role))
    | .returns sessionId, _ => m.perform M sessionId rest statement
    | .throws _, false => m.perform M 0 rest statement
  | .testStart => .ok (m.goto (if m.terminated then .testFinish else .negotiating .start))
  | .negotiating _ => m.negotiate M i
  | .testFinish =>
    if m.terminated then .ok (m.goto .testConnected)
    else .ok { m.notify [.notifyPerformingHandshake] with
      zrtpSocket := m.zrtpSocket.modify (fun n => n.goto (.test .finish))
      pc := .negotiating .finish }
  | .testConnected => .ok (m.goto (if m.terminated then .testAudio else .connected))
  | .connected =>
    match o with
    | .returns _ => .ok ((m.notify [.notifyCallConnected]).goto .testAudio)
    | .throws e => .ok (m.leave (e.caught M.role))
  | .testAudio =>
    if m.terminated then .ok (m.goto .returned)
    else match m.zrtpSocket.get? with
      | none => .ok (m.goto (.caught (.unchecked .nullPointer)))
      | some n => .ok { m with ranAudio := some n.socket.masterSecret, pc := .newAudioManager }
  | .newAudioManager =>
    match o with
    | .returns _ => .ok { m with callAudioManager := .made false, pc := .setAudioManager }
    | .throws e => .ok (m.leave (audioFailed M e))
  | .setAudioManager =>
      .ok { m with callAudioManager := m.callAudioManager.store, pc := .startAudio }
  | .startAudio =>
    match o with
    | .returns _ => .ok (m.goto .returned)
    | .throws e => .ok (m.leave (audioFailed M e))
  | .caught e => .ok (m.handle e)
  | .returned => .error .blocked

/-- One statement of `terminate`. -/
def terminate (m : Call ρ) : Except Blocked (Call ρ) :=
  match m.terminator with
  | .idle =>
    .ok { m with
      answer := if m.answer = 0 then 2 else m.answer
      terminator := .called }
  | .called => .ok { m with terminated := true, terminator := .audioManager }
  | .audioManager =>
    match m.callAudioManager with
    | .set _ => .ok { m with callAudioManager := .set true, terminator := .signalManager }
    | _ => .ok { m with terminator := .signalManager }
  | .signalManager =>
    match m.signalManager with
    | .set _ =>
      .ok { m with
        signalManager := .set true
        hangups := m.hangups ++ m.sessionDescriptor.toList
        terminator := .zrtpSocket }
    | _ => .ok { m with terminator := .zrtpSocket }
  | .zrtpSocket =>
    match m.zrtpSocket with
    | .set n =>
      match n.close with
      | .ok n' => .ok { m with zrtpSocket := .set n', terminator := .closing }
      | .error e => .error e
    | _ => .ok { m with terminator := .returned }
  | .closing =>
    match m.zrtpSocket with
    | .set n =>
      match n.close with
      | .ok n' => .ok { m with zrtpSocket := .set n', terminator := .returned }
      | .error e => .error e
    | _ => .error .blocked
  | .returned => .error .blocked

/-- A statement of one of the threads. -/
def step (m : Call ρ) : CallTurn → Except Blocked (Call ρ)
  | .run o i => m.run M o i
  | .terminate => m.terminate
  | .answer answer => .ok { m with answer := if answer then 1 else 2 }

/-! ## What a statement does -/

/-- Where a statement of `run` can lead that does not touch what the call has
    made. -/
inductive Follows (m : Call ρ) : RunPc → Prop
  | next (statement : Statement) (rest : List Statement)
    (hpc : m.pc = .before (statement :: rest)) : Follows m (.before rest)
  | begun (hpc : m.pc = .before []) : Follows m .testStart
  | start (hpc : m.pc = .testStart) (h : m.terminated = false) : Follows m (.negotiating .start)
  | startSkipped (hpc : m.pc = .testStart) (h : m.terminated = true) : Follows m .testFinish
  | started (l : Loop) (hpc : m.pc = .negotiating l) : Follows m .testFinish
  | finished (l : Loop) (n : Negotiation ρ) (hpc : m.pc = .negotiating l)
    (hn : m.zrtpSocket.get? = some n) (h : n.pc = .returned .finish) : Follows m .testConnected
  | failed (l : Loop) (e : JavaException) (hpc : m.pc = .negotiating l) : Follows m (.caught e)
  | finishSkipped (hpc : m.pc = .testFinish) (h : m.terminated = true) : Follows m .testConnected
  | connect (hpc : m.pc = .testConnected) (h : m.terminated = false) : Follows m .connected
  | connectSkipped (hpc : m.pc = .testConnected) (h : m.terminated = true) : Follows m .testAudio
  | audioFailed (e : JavaException) (hpc : m.pc = .testAudio) : Follows m (.caught e)
  | left : Follows m .returned

/-- What a statement of `run` can do. -/
inductive Runs (M : CallManager ρ) (o : Outcome) (i : Input) (m : Call ρ) : Call ρ → Prop
  | passes (pc : RunPc) (callbacks : List CallStateListener) (h : Follows m pc)
    (hquiet : .notifyCallConnected ∉ callbacks) : Runs M o i m ((m.notify callbacks).goto pc)
  | initiates (sessionId : Nat) (rest : List Statement)
    (hpc : m.pc = .before (.initiateConnection :: rest)) (ho : o = .returns sessionId) :
    Runs M o i m { m with sessionDescriptor := some sessionId, pc := .before rest }
  | makesZrtpSocket (sessionId : Nat) (rest : List Statement)
    (hpc : m.pc = .before (.newZrtpSocket :: rest)) (ho : o = .returns sessionId) :
    Runs M o i m
      { m with zrtpSocket := .made (Negotiation.create M.socket), pc := .before rest }
  | setsZrtpSocket (rest : List Statement) (hpc : m.pc = .before (.setZrtpSocket :: rest)) :
    Runs M o i m { m with zrtpSocket := m.zrtpSocket.store, pc := .before rest }
  | makesSignalManager (sessionId : Nat) (rest : List Statement)
    (hpc : m.pc = .before (.newSignalManager :: rest)) (ho : o = .returns sessionId) :
    Runs M o i m { m with signalManager := .made false, pc := .before rest }
  | setsSignalManager (rest : List Statement) (hpc : m.pc = .before (.setSignalManager :: rest)) :
    Runs M o i m { m with signalManager := m.signalManager.store, pc := .before rest }
  | negotiates (l : Loop) (n n' : Negotiation ρ) (hpc : m.pc = .negotiating l)
    (hn : m.zrtpSocket.get? = some n) (h : n.thread M.party i = .ok n') :
    Runs M o i m { m with zrtpSocket := m.zrtpSocket.modify (fun _ => n') }
  | handshakes (hpc : m.pc = .testFinish) (h : m.terminated = false) :
    Runs M o i m { m.notify [.notifyPerformingHandshake] with
      zrtpSocket := m.zrtpSocket.modify (fun n => n.goto (.test .finish))
      pc := .negotiating .finish }
  | connects (hpc : m.pc = .connected) :
    Runs M o i m ((m.notify [.notifyCallConnected]).goto .testAudio)
  | runsAudio (n : Negotiation ρ) (hpc : m.pc = .testAudio) (h : m.terminated = false)
    (hn : m.zrtpSocket.get? = some n) :
    Runs M o i m { m with ranAudio := some n.socket.masterSecret, pc := .newAudioManager }
  | makesAudioManager (sessionId : Nat) (hpc : m.pc = .newAudioManager)
    (ho : o = .returns sessionId) :
    Runs M o i m { m with callAudioManager := .made false, pc := .setAudioManager }
  | setsAudioManager (hpc : m.pc = .setAudioManager) :
    Runs M o i m { m with callAudioManager := m.callAudioManager.store, pc := .startAudio }

/-- What a statement of `terminate` can do. -/
inductive Terminates (m : Call ρ) : Call ρ → Prop
  | answers (answer : Nat) (h : m.terminator = .idle) :
    Terminates m { m with answer := answer, terminator := .called }
  | raises (h : m.terminator = .called) :
    Terminates m { m with terminated := true, terminator := .audioManager }
  | stopsAudio (told : Bool) (h : m.terminator = .audioManager)
    (hset : m.callAudioManager = .set told) :
    Terminates m { m with callAudioManager := .set true, terminator := .signalManager }
  | noAudio (h : m.terminator = .audioManager) (hset : m.callAudioManager.look = none) :
    Terminates m { m with terminator := .signalManager }
  | hangsUp (told : Bool) (h : m.terminator = .signalManager)
    (hset : m.signalManager = .set told) :
    Terminates m { m with
      signalManager := .set true
      hangups := m.hangups ++ m.sessionDescriptor.toList
      terminator := .zrtpSocket }
  | noSignals (h : m.terminator = .signalManager) (hset : m.signalManager.look = none) :
    Terminates m { m with terminator := .zrtpSocket }
  | closes (n n' : Negotiation ρ) (h : m.terminator = .zrtpSocket) (hset : m.zrtpSocket = .set n)
    (hclose : n.close = .ok n') :
    Terminates m { m with zrtpSocket := .set n', terminator := .closing }
  | noSocket (h : m.terminator = .zrtpSocket) (hset : m.zrtpSocket.look = none) :
    Terminates m { m with terminator := .returned }
  | closed (n n' : Negotiation ρ) (h : m.terminator = .closing) (hset : m.zrtpSocket = .set n)
    (hclose : n.close = .ok n') :
    Terminates m { m with zrtpSocket := .set n', terminator := .returned }

variable {M} {m m' : Call ρ} {o : Outcome} {i : Input}

/-- No `catch` clause takes a call for connected. -/
theorem notMem_caught (role : Role) (e : RunException) :
    .notifyCallConnected ∉ e.caught role := by
  intro hmem
  unfold RunException.caught at hmem
  split at hmem
  all_goals simp only [List.mem_singleton, reduceCtorEq, List.not_mem_nil] at hmem

theorem notify_nil (m : Call ρ) : m.notify [] = m := by
  unfold notify
  rw [List.append_nil]

/-- A statement that only leads on. -/
theorem runs_goto {pc : RunPc} (h : Follows m pc) : Runs M o i m (m.goto pc) := by
  have hruns := Runs.passes (M := M) (o := o) (i := i) pc [] h List.not_mem_nil
  rw [notify_nil] at hruns
  exact hruns

theorem runs_leave {callbacks : List CallStateListener} (h : .notifyCallConnected ∉ callbacks) :
    Runs M o i m (m.leave callbacks) :=
  .passes .returned callbacks .left h

theorem runs_perform {statement : Statement} {rest : List Statement} {sessionId : Nat}
    (hpc : m.pc = .before (statement :: rest))
    (ho : Throwing statement = true → o = .returns sessionId)
    (h : m.perform M sessionId rest statement = .ok m') : Runs M o i m m' := by
  have hnext := Follows.next statement rest hpc
  cases statement with
  | signalingSocket => exact Except.ok.inj h ▸ runs_goto hnext
  | initiateConnection => exact Except.ok.inj h ▸ .initiates sessionId rest hpc (ho rfl)
  | setRinging =>
      exact Except.ok.inj h ▸ .passes (.before rest) [.notifyCallFresh] hnext (by decide)
  | waitForAnswer =>
      unfold perform at h
      -- The thread sleeps until there is an answer.
      by_cases hanswer : m.answer = 0
      · rw [if_pos hanswer] at h
        exact absurd h nofun
      · rw [if_neg hanswer, Except.ok.injEq] at h
        rw [← h]
        -- Any answer but yes leaves the call.
        by_cases hyes : m.answer = 1
        · rw [if_pos hyes]
          exact runs_goto hnext
        · rw [if_neg hyes]
          exact runs_goto .left
  | makeConnection => exact Except.ok.inj h ▸ runs_goto hnext
  | secureSocket => exact Except.ok.inj h ▸ runs_goto hnext
  | newZrtpSocket => exact Except.ok.inj h ▸ .makesZrtpSocket sessionId rest hpc (ho rfl)
  | setZrtpSocket => exact Except.ok.inj h ▸ .setsZrtpSocket rest hpc
  | newSignalManager => exact Except.ok.inj h ▸ .makesSignalManager sessionId rest hpc (ho rfl)
  | setSignalManager => exact Except.ok.inj h ▸ .setsSignalManager rest hpc

theorem runs_negotiate {l : Loop} (hpc : m.pc = .negotiating l)
    (h : m.negotiate M i = .ok m') : Runs M o i m m' := by
  unfold negotiate at h
  cases hn : m.zrtpSocket.get? with
  | none =>
      rw [hn, Except.ok.injEq] at h
      rw [← h]
      exact runs_goto (.failed l _ hpc)
  | some n =>
      rw [hn] at h
      simp only [] at h
      split at h
      · exact Except.ok.inj h ▸ runs_goto (.started l hpc)
      · rename_i hreturned
        exact Except.ok.inj h ▸ runs_goto (.finished l n hpc hn hreturned)
      · exact Except.ok.inj h ▸ runs_goto (.failed l _ hpc)
      · cases hthread : n.thread M.party i with
        | error e =>
            rw [hthread] at h
            exact absurd h nofun
        | ok n' =>
            rw [hthread] at h
            exact Except.ok.inj h ▸ .negotiates l n n' hpc hn hthread

theorem runs_handle (e : JavaException) : Runs M o i m (m.handle e) := by
  cases e with
  | recipientUnavailable message =>
      refine runs_leave ?_
      cases m.terminated <;> decide
  | negotiationFailed message =>
      refine runs_leave ?_
      cases m.terminated <;> decide
  | io message => exact runs_leave (by decide)
  | invalidPacket message => exact runs_leave (by decide)
  | unchecked e => cases e <;> exact runs_leave (by decide)

theorem runs_audioFailed (e : RunException) : Runs M o i m (m.leave (audioFailed M e)) := by
  refine runs_leave ?_
  unfold audioFailed
  by_cases hloopback : M.loopbackMode = true
  · rw [if_pos hloopback]
    decide
  · rw [if_neg hloopback]
    exact notMem_caught M.role e

/-- A statement of the thread of a call manager does one of these things. -/
theorem runs_of_run (h : m.run M o i = .ok m') : Runs M o i m m' := by
  unfold run at h
  cases hpc : m.pc with
  | before rest =>
      rw [hpc] at h
      cases rest with
      | nil =>
          rw [← Except.ok.inj h]
          refine .passes .testStart _ (.begun hpc) ?_
          -- The callback of either role comes before the handshake.
          cases M.role <;> decide
      | cons statement rest =>
          simp only [] at h
          -- The statement throws, returns a value, or cannot throw.
          split at h
          · exact Except.ok.inj h ▸ runs_leave (notMem_caught M.role _)
          · exact runs_perform hpc (fun _ => rfl) h
          · rename_i hthrowing
            exact runs_perform hpc (fun hnot => absurd (hnot.symm.trans hthrowing) nofun) h
  | testStart =>
      rw [hpc] at h
      rw [← Except.ok.inj h]
      cases hflag : m.terminated with
      | true => exact runs_goto (.startSkipped hpc hflag)
      | false => exact runs_goto (.start hpc hflag)
  | negotiating l =>
      rw [hpc] at h
      exact runs_negotiate hpc h
  | testFinish =>
      rw [hpc] at h
      cases hflag : m.terminated with
      | true =>
          simp only [hflag, if_true, Except.ok.injEq] at h
          exact h ▸ runs_goto (.finishSkipped hpc hflag)
      | false =>
          simp only [hflag, Bool.false_eq_true, if_false, Except.ok.injEq] at h
          exact h ▸ .handshakes hpc hflag
  | testConnected =>
      rw [hpc] at h
      rw [← Except.ok.inj h]
      cases hflag : m.terminated with
      | true => exact runs_goto (.connectSkipped hpc hflag)
      | false => exact runs_goto (.connect hpc hflag)
  | connected =>
      rw [hpc] at h
      cases o with
      | returns sessionId => exact Except.ok.inj h ▸ .connects hpc
      | throws e => exact Except.ok.inj h ▸ runs_leave (notMem_caught M.role e)
  | testAudio =>
      rw [hpc] at h
      simp only [] at h
      by_cases hflag : m.terminated = true
      · rw [if_pos hflag] at h
        exact Except.ok.inj h ▸ runs_goto .left
      · rw [if_neg hflag] at h
        rw [Bool.not_eq_true] at hflag
        -- The secret is read from a field that may be null.
        cases hn : m.zrtpSocket.get? with
        | none =>
            rw [hn, Except.ok.injEq] at h
            exact h ▸ runs_goto (.audioFailed _ hpc)
        | some n =>
            rw [hn, Except.ok.injEq] at h
            rw [← h]
            exact .runsAudio n hpc hflag hn
  | newAudioManager =>
      rw [hpc] at h
      cases o with
      | returns sessionId => exact Except.ok.inj h ▸ .makesAudioManager sessionId hpc rfl
      | throws e => exact Except.ok.inj h ▸ runs_audioFailed e
  | setAudioManager =>
      rw [hpc] at h
      exact Except.ok.inj h ▸ .setsAudioManager hpc
  | startAudio =>
      rw [hpc] at h
      cases o with
      | returns sessionId => exact Except.ok.inj h ▸ runs_goto .left
      | throws e => exact Except.ok.inj h ▸ runs_audioFailed e
  | caught e =>
      rw [hpc] at h
      exact Except.ok.inj h ▸ runs_handle e
  | returned =>
      rw [hpc] at h
      exact absurd h nofun

/-- A statement of `terminate` does one of these things. -/
theorem terminates_of_terminate (h : m.terminate = .ok m') : Terminates m m' := by
  unfold terminate at h
  cases hterminator : m.terminator with
  | idle =>
      rw [hterminator] at h
      exact Except.ok.inj h ▸ .answers _ hterminator
  | called =>
      rw [hterminator] at h
      exact Except.ok.inj h ▸ .raises hterminator
  | audioManager =>
      rw [hterminator] at h
      -- What is made but not stored is null to this thread.
      cases hset : m.callAudioManager with
      | set told =>
          rw [hset, Except.ok.injEq] at h
          rw [← h]
          exact .stopsAudio told hterminator hset
      | unset =>
          rw [hset, Except.ok.injEq] at h
          rw [← h, ← hset]
          exact .noAudio hterminator (congrArg Field.look hset)
      | made told =>
          rw [hset, Except.ok.injEq] at h
          rw [← h, ← hset]
          exact .noAudio hterminator (congrArg Field.look hset)
  | signalManager =>
      rw [hterminator] at h
      cases hset : m.signalManager with
      | set told =>
          rw [hset, Except.ok.injEq] at h
          rw [← h]
          exact .hangsUp told hterminator hset
      | unset =>
          rw [hset, Except.ok.injEq] at h
          rw [← h, ← hset]
          exact .noSignals hterminator (congrArg Field.look hset)
      | made told =>
          rw [hset, Except.ok.injEq] at h
          rw [← h, ← hset]
          exact .noSignals hterminator (congrArg Field.look hset)
  | zrtpSocket =>
      rw [hterminator] at h
      cases hset : m.zrtpSocket with
      | set n =>
          rw [hset] at h
          simp only [] at h
          -- The first statement of `close` writes the state, the second one
          -- closes.
          cases hclose : n.close with
          | error e =>
              rw [hclose] at h
              exact absurd h nofun
          | ok n' =>
              rw [hclose, Except.ok.injEq] at h
              rw [← h]
              exact .closes n n' hterminator hset hclose
      | unset =>
          rw [hset, Except.ok.injEq] at h
          rw [← h, ← hset]
          exact .noSocket hterminator (congrArg Field.look hset)
      | made n =>
          rw [hset, Except.ok.injEq] at h
          rw [← h, ← hset]
          exact .noSocket hterminator (congrArg Field.look hset)
  | closing =>
      rw [hterminator] at h
      cases hset : m.zrtpSocket with
      | set n =>
          rw [hset] at h
          simp only [] at h
          cases hclose : n.close with
          | error e =>
              rw [hclose] at h
              exact absurd h nofun
          | ok n' =>
              rw [hclose, Except.ok.injEq] at h
              rw [← h]
              exact .closed n n' hterminator hset hclose
      | unset =>
          rw [hset] at h
          exact absurd h nofun
      | made n =>
          rw [hset] at h
          exact absurd h nofun
  | returned =>
      rw [hterminator] at h
      exact absurd h nofun

theorem create_pc (M : CallManager ρ) :
    (create M).pc = .newAudioManager ∨ (create M).pc = .before (Statement.order M.role) := by
  unfold create
  cases M.role with
  | responder => exact Or.inr rfl
  | initiator =>
      cases M.loopbackMode with
      | true => exact Or.inl rfl
      | false => exact Or.inr rfl

end Call

end RedPhone
