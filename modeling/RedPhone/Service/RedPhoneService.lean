import RedPhone.Call.CallManager

/-!
# The Service

`RedPhoneService` holds the one call there can be. Intents reach it from the
user interface and from the receivers of incoming signals, the callbacks of
`CallStateListener` from the threads of the call managers it has made, and the
end of a busy tone from its own handler, which was told to wait. None of the
last two says which call it belongs to. Here it does, so that the laws can be
stated, but no handler reads it.

Handlers run one at a time. One that throws ends the process, since nothing
catches the exception on a thread that handles an intent. The `wait` at the
end of `notifyCallConnected` comes after everything the handler does.

The ringers, the locks, the notifications and the messages to the user
interface are left out, and so are the failures of the platform behind them.

## Main definitions

* `CallState`: The states of the service.
* `SessionDescriptor`: What a session is known by.
* `Thrown`: What a handler can throw.
* `Intent`: What is asked of the service.
* `Manager`: What the service sees of a call manager.
* `RedPhoneService`: The service.
* `ServiceEvent`: What happens to it.
* `RedPhoneService.onIntentReceived`: The handler of intents.
* `RedPhoneService.callback`: The callbacks.
* `RedPhoneService.handle`: What the service does with an event.
* `RedPhoneService.step`: One event.

## Theorems

* `equals_true`, `equals_returns`: When two sessions are the same, and when the
  comparison does not throw.
* `setSasVerified_returns`: When a manager can be told that the user has
  compared.
* `extractRemoteNumber_returns`: When there is a number in an intent.
* `missIfRinging_eq`: A missed call changes nothing but the log.
* `step_ok`: When an event can happen.
-/

namespace RedPhone

open HandshakePacket Interleaving

/-- The constants `STATE_*`. -/
inductive CallState
  | idle
  | ringing
  | dialing
  | answering
  | connected
  deriving DecidableEq, Repr

/-- What a handler can throw. -/
inductive Thrown
  | classCast
  | java (e : JavaException)
  deriving DecidableEq, Repr

/-- The exception of a dereferenced null. -/
def Thrown.nullPointer : Thrown := .java (.unchecked .nullPointer)

/-- Dereference a reference that may be null. -/
def deref {α : Type} : Option α → Except Thrown α
  | some a => .ok a
  | none => .error .nullPointer

/-- A session. The name of its server comes from a parcel, and can be null. -/
structure SessionDescriptor where
  relayPort : Int
  sessionId : Int
  serverName : Option String
  version : Int
  deriving DecidableEq, Repr

/-- `SessionDescriptor.equals`. The names are compared only if the port and the
    id agree. -/
def SessionDescriptor.equals (this : SessionDescriptor) :
    Option SessionDescriptor → Except Thrown Bool
  | none => .ok false
  | some that =>
    if this.relayPort = that.relayPort ∧ this.sessionId = that.sessionId then do
      let serverName ← deref this.serverName
      .ok (decide (some serverName = that.serverName ∧ this.version = that.version))
    else .ok false

/-- The comparison follows the null name of a server. -/
theorem SessionDescriptor.equals_returns (this : SessionDescriptor)
    (that : Option SessionDescriptor) : (∃ b, this.equals that = .ok b) ↔
      ¬ (this.serverName = none ∧ ∃ d, that = some d ∧ this.relayPort = d.relayPort ∧
        this.sessionId = d.sessionId) := by
  cases that with
  | none => simp only [equals, Except.ok.injEq, exists_eq', reduceCtorEq, false_and, exists_false,
      and_false, not_false_eq_true]
  | some d =>
      by_cases hsame : this.relayPort = d.relayPort ∧ this.sessionId = d.sessionId
      · rw [equals, if_pos hsame]
        cases hname : this.serverName with
        | none =>
            simp only [deref, bind, Except.bind, reduceCtorEq, exists_false, false_iff, not_not,
              true_and]
            exact ⟨d, rfl, hsame⟩
        | some name => simp only [deref, bind, Except.bind, Except.ok.injEq, exists_eq',
            reduceCtorEq, false_and, not_false_eq_true]
      · rw [equals, if_neg hsame]
        refine ⟨fun _ h => ?_, fun _ => ⟨false, rfl⟩⟩
        rcases h with ⟨-, d', hd, hsame'⟩
        rw [← Option.some.inj hd] at hsame'
        exact hsame hsame'

/-- Two sessions are the same if they agree in everything. -/
theorem SessionDescriptor.equals_true (this : SessionDescriptor)
    (that : Option SessionDescriptor) :
    this.equals that = .ok true ↔ this.serverName ≠ none ∧ that = some this := by
  cases that with
  | none => simp only [equals, Except.ok.injEq, Bool.false_eq_true, reduceCtorEq, and_false]
  | some d =>
      rcases this with ⟨port, session, name, version⟩
      rcases d with ⟨port', session', name', version'⟩
      simp only [equals, Option.some.injEq, SessionDescriptor.mk.injEq]
      cases name with
      | none =>
          split
          · simp only [deref, bind, Except.bind, reduceCtorEq, ne_eq, not_true_eq_false, false_and]
          · simp only [Except.ok.injEq, Bool.false_eq_true, ne_eq, not_true_eq_false, false_and]
      | some name =>
          split
          · rename_i hsame
            simp only [deref, bind, Except.bind, Except.ok.injEq, decide_eq_true_eq, ne_eq,
              reduceCtorEq, not_false_eq_true, true_and, hsame.1, hsame.2]
            exact and_congr eq_comm eq_comm
          · rename_i hother
            simp only [Except.ok.injEq, Bool.false_eq_true, false_iff, not_and]
            intro _ hport hsession
            exact absurd ⟨hport.symm, hsession.symm⟩ hother

/-- The actions the service knows. -/
inductive Action
  | incomingCall
  | outgoingCall
  | answerCall
  | denyCall
  | hangupCall
  | setMute
  | confirmSas
  deriving DecidableEq, Repr

/-- An intent and its extras. -/
structure Intent where
  action : Action
  /-- The extra `REMOTE_NUMBER`. -/
  remoteNumber : Option String
  /-- The scheme-specific part of the data. -/
  data : Option String
  /-- The extra `SESSION`. -/
  session : Option SessionDescriptor
  /-- The extra `MUTE_VALUE`, false if there is none. -/
  muteValue : Bool
  deriving DecidableEq, Repr

/-- What the service sees of a call manager. -/
structure Manager where
  /-- Which of the calls it is. -/
  id : Nat
  role : Role
  remoteNumber : String
  sessionDescriptor : Option SessionDescriptor
  /-- The `foreignHello` of the ZRTP socket, once there is a socket. -/
  zrtpSocket : Option (Option HandshakePacket)
  /-- `answer` of a `ResponderCallManager`. -/
  answer : Nat
  muteEnabled : Bool

/-- The fields the thread of a call manager writes. -/
inductive FieldWrite
  | sessionDescriptor (session : SessionDescriptor)
  | zrtpSocket
  | foreignHello (packet : HandshakePacket)

namespace Manager

/-- `new InitiatingCallManager`. -/
def initiating (id : Nat) (remoteNumber : String) : Manager where
  id := id
  role := .initiator
  remoteNumber := remoteNumber
  sessionDescriptor := none
  zrtpSocket := none
  answer := 0
  muteEnabled := false

/-- `new ResponderCallManager`. -/
def responder (id : Nat) (remoteNumber : String) (session : Option SessionDescriptor) :
    Manager where
  id := id
  role := .responder
  remoteNumber := remoteNumber
  sessionDescriptor := session
  zrtpSocket := none
  answer := 0
  muteEnabled := false

def write (m : Manager) : FieldWrite → Manager
  | .sessionDescriptor session => { m with sessionDescriptor := some session }
  | .zrtpSocket => { m with zrtpSocket := some (m.zrtpSocket.getD none) }
  | .foreignHello packet => { m with zrtpSocket := m.zrtpSocket.map fun _ => some packet }

/-- The cast to `ResponderCallManager`. -/
def asResponder (m : Manager) : Except Thrown Manager :=
  match m.role with
  | .responder => .ok m
  | .initiator => .error .classCast

/-- `ResponderCallManager.answer`. -/
def answered (m : Manager) (answer : Bool) : Manager :=
  { m with answer := if answer then 1 else 2 }

def setMute (m : Manager) (enabled : Bool) : Manager := { m with muteEnabled := enabled }

/-- The endpoint whose keys `setSasVerified` marks, if there is a socket. -/
def setSasVerified (m : Manager) : Except Thrown (Option (String × Bytes)) :=
  match m.zrtpSocket with
  -- Without a socket the comparison is passed over in silence.
  | none => .ok none
  | some foreignHello => do
    -- With one the Hello is read, which may not be there yet.
    let hello ← deref foreignHello
    match HelloPacket.getZID hello with
    | .ok zid => .ok (some (m.remoteNumber, zid))
    | .error e => .error (.java e)

/-- The user's comparison is only written down for a caller whose Hello is
    there and holds a ZID. -/
theorem setSasVerified_returns (m : Manager) : (∃ endpoint, m.setSasVerified = .ok endpoint) ↔
    ∀ hello, m.zrtpSocket = some hello →
      ∃ p, hello = some p ∧ 88 + p.headerBugOffset ≤ p.data.length := by
  rw [setSasVerified]
  cases m.zrtpSocket with
  | none => simp only [Except.ok.injEq, exists_eq', reduceCtorEq, false_implies, implies_true]
  | some hello =>
      cases hello with
      | none => simp only [deref, bind, Except.bind, reduceCtorEq, exists_false, Option.some.injEq,
          forall_eq', false_and]
      | some p =>
          simp only [deref, bind, Except.bind, Option.some.injEq, forall_eq', exists_eq_left']
          -- The ZID can be read exactly if the packet is long enough for it.
          have hread : (∃ zid, HelloPacket.getZID p = .ok zid) ↔
              88 + p.headerBugOffset ≤ p.data.length := by
            simp only [HelloPacket.getZID, Java.arraycopy, Java.region_ok, exists_and_left,
              exists_eq', and_true]
            omega
          rw [← hread]
          cases HelloPacket.getZID p with
          | ok zid => simp only [Except.ok.injEq, exists_eq']
          | error e => simp only [reduceCtorEq, exists_false]

end Manager

/-- The service. -/
structure RedPhoneService where
  state : CallState
  remoteNumber : Option String
  currentCallManager : Option Manager
  /-- How many managers have been made. -/
  created : Nat
  /-- The managers that were told to terminate, in order. -/
  terminated : List Nat
  /-- The call log's missed calls. -/
  missedCalls : List (Option String)
  /-- The sessions the server was told are busy. -/
  busy : List Int
  /-- The endpoints the database was told are verified. -/
  verified : List (String × Bytes)
  /-- The managers whose busy signal is being played. -/
  delayed : List Nat
  /-- What ended the process. -/
  crashed : Option Thrown

/-- What happens to the service. -/
inductive ServiceEvent
  /-- An intent, and what the telephony manager says of the other line. -/
  | intent (intent : Intent) (telephonyIdle : Bool)
  | callback (sender : Nat) (c : CallStateListener)
  /-- The termination posted when a busy signal began. -/
  | delayed (sender : Nat)
  /-- A manager's own thread writes one of its fields. -/
  | write (sender : Nat) (field : FieldWrite)

namespace RedPhoneService

/-- The service when it is created. -/
def create : RedPhoneService where
  state := .idle
  remoteNumber := none
  currentCallManager := none
  created := 0
  terminated := []
  missedCalls := []
  busy := []
  verified := []
  delayed := []
  crashed := none

/-- A `*` at the end of a number is not part of it. -/
def extractRemoteNumber (intent : Intent) : Except Thrown String := do
  let number ← match intent.remoteNumber with
    | some number => .ok number
    | none => deref intent.data
  if number.toList.getLast? = some '*' then .ok (String.ofList number.toList.dropLast)
  else .ok number

theorem extractRemoteNumber_returns (intent : Intent) :
    (∃ number, extractRemoteNumber intent = .ok number) ↔
      ¬ (intent.remoteNumber = none ∧ intent.data = none) := by
  -- Taking the star off cannot fail.
  have htrim (number : String) : ∃ trimmed, (if number.toList.getLast? = some '*' then
      .ok (String.ofList number.toList.dropLast) else .ok number : Except Thrown String)
        = .ok trimmed := by
    split
    · exact ⟨_, rfl⟩
    · exact ⟨_, rfl⟩
  rw [extractRemoteNumber]
  -- The data is read only where there is no extra.
  cases intent.remoteNumber with
  | some number =>
      simp only [bind, Except.bind, reduceCtorEq, false_and, not_false_eq_true, iff_true]
      exact htrim number
  | none =>
      cases intent.data with
      | none => simp only [deref, bind, Except.bind, reduceCtorEq, exists_false, and_self,
          not_true_eq_false]
      | some number =>
          simp only [deref, bind, Except.bind, reduceCtorEq, and_false, not_false_eq_true, iff_true]
          exact htrim number

/-- The missed call is in the log. -/
def handleMissedCall (s : RedPhoneService) (remoteNumber : Option String) : RedPhoneService :=
  { s with missedCalls := s.missedCalls ++ [remoteNumber] }

def terminate (s : RedPhoneService) : RedPhoneService :=
  { s with
    terminated := s.terminated ++ (s.currentCallManager.map Manager.id).toList
    currentCallManager := none
    state := .idle }

def isBusy (s : RedPhoneService) (telephonyIdle : Bool) : Bool :=
  -- A manager that is left over does not make an idle phone busy.
  (s.currentCallManager.isSome && s.state != .idle) || !telephonyIdle

def isIdle (s : RedPhoneService) : Bool := s.state == .idle

def handleIncomingCall (s : RedPhoneService) (intent : Intent) :
    Except Thrown RedPhoneService := do
  let remoteNumber ← extractRemoteNumber intent
  .ok { s with
    remoteNumber := some remoteNumber
    state := .ringing
    currentCallManager := some (.responder s.created remoteNumber intent.session)
    created := s.created + 1 }

def handleOutgoingCall (s : RedPhoneService) (intent : Intent) :
    Except Thrown RedPhoneService := do
  let remoteNumber ← extractRemoteNumber intent
  let s := { s with remoteNumber := some remoteNumber }
  -- The number is taken over before it is looked at.
  if remoteNumber.length = 0 then .ok s
  else .ok { s with
    state := .dialing
    currentCallManager := some (.initiating s.created remoteNumber)
    created := s.created + 1 }

/-- `session.equals(currentCallManager.getSessionDescriptor())`, where there is
    a call. -/
def isDuplicate (s : RedPhoneService) (session : Option SessionDescriptor) :
    Except Thrown Bool :=
  match s.currentCallManager with
  | none => .ok false
  | some m => do
    let session ← deref session
    session.equals m.sessionDescriptor

/-- The server is told, or cannot be. -/
def handleBusyCall (s : RedPhoneService) (intent : Intent) : Except Thrown RedPhoneService := do
  if (← isDuplicate s intent.session) then .ok s
  else do
    let remoteNumber ← extractRemoteNumber intent
    -- The missed call is in the log by the time the session is read.
    let s := s.handleMissedCall (some remoteNumber)
    let session ← deref intent.session
    .ok { s with busy := s.busy ++ [session.sessionId] }

def handleAnswerCall (s : RedPhoneService) : Except Thrown RedPhoneService :=
  -- The state is set whether there is a call to answer or not.
  let s := { s with state := .answering }
  match s.currentCallManager with
  | none => .ok s
  | some m => do
    let m ← m.asResponder
    .ok { s with currentCallManager := some (m.answered true) }

def handleDenyCall (s : RedPhoneService) : Except Thrown RedPhoneService :=
  -- And here, with a missed call from the number of the last one.
  let s := { s with state := .idle, missedCalls := s.missedCalls ++ [s.remoteNumber] }
  match s.currentCallManager with
  | none => .ok s.terminate
  | some m => do
    let m ← m.asResponder
    .ok (terminate { s with currentCallManager := some (m.answered false) })

def handleHangupCall (s : RedPhoneService) : RedPhoneService := s.terminate

def handleSetMute (s : RedPhoneService) (intent : Intent) : RedPhoneService :=
  { s with currentCallManager := s.currentCallManager.map fun m => m.setMute intent.muteValue }

def handleConfirmSas (s : RedPhoneService) : Except Thrown RedPhoneService :=
  match s.currentCallManager with
  | none => .ok s
  | some m => do
    let endpoint ← m.setSasVerified
    .ok { s with verified := s.verified ++ endpoint.toList }

def onIntentReceived (s : RedPhoneService) (intent : Intent) (telephonyIdle : Bool) :
    Except Thrown RedPhoneService :=
  match intent.action with
  | .incomingCall =>
    if s.isBusy telephonyIdle then s.handleBusyCall intent else s.handleIncomingCall intent
  -- An outgoing call needs an idle phone, what follows is done in any state.
  | .outgoingCall => if s.isIdle then s.handleOutgoingCall intent else .ok s
  | .answerCall => s.handleAnswerCall
  | .denyCall => s.handleDenyCall
  | .hangupCall => .ok s.handleHangupCall
  | .setMute => .ok (s.handleSetMute intent)
  | .confirmSas => s.handleConfirmSas

/-- A call that was still ringing is missed. -/
def missIfRinging (s : RedPhoneService) : RedPhoneService :=
  if s.state = .ringing then s.handleMissedCall s.remoteNumber else s

theorem missIfRinging_eq (s : RedPhoneService) :
    ∃ calls, s.missIfRinging = { s with missedCalls := calls } := by
  rw [missIfRinging]
  split
  · exact ⟨_, rfl⟩
  · exact ⟨s.missedCalls, rfl⟩

/-- The callbacks. The sender is not known to them, it is written down for the
    termination that `notifyBusy` posts. -/
def callback (s : RedPhoneService) (sender : Nat) : CallStateListener → RedPhoneService
  | .notifyCallStale => (s.handleMissedCall s.remoteNumber).terminate
  | .notifyCallFresh => s
  -- The call goes on until the posted termination comes.
  | .notifyBusy => { s with delayed := s.delayed ++ [sender] }
  | .notifyCallRinging => s
  | .notifyCallConnected => { s with state := .connected }
  | .notifyConnectingtoInitiator => s
  | .notifyCallDisconnected => s.missIfRinging.terminate
  | .notifyHandshakeFailed => terminate { s with state := .idle }
  | .notifyRecipientUnavailable => terminate { s with state := .idle }
  | .notifyPerformingHandshake => s
  | .notifyServerFailure => terminate { s.missIfRinging with state := .idle }
  | .notifyClientFailure => terminate { s.missIfRinging with state := .idle }
  | .notifyLoginFailed => terminate { s.missIfRinging with state := .idle }
  | .notifyNoSuchUser => s.terminate
  | .notifyServerMessage _ => s.terminate
  | .notifyClientError => s.terminate
  | .notifyCallConnecting => s
  | .notifyWaitingForResponder => s

/-- A handler that throws ends the process. -/
def finish (s : RedPhoneService) : Except Thrown RedPhoneService → RedPhoneService
  | .ok s' => s'
  | .error e => { s with crashed := some e }

/-- A callback comes from a manager that was made, a delayed termination is
    one that was posted. -/
def possible (s : RedPhoneService) : ServiceEvent → Bool
  | .intent _ _ => true
  | .callback sender _ => sender < s.created
  | .delayed sender => sender ∈ s.delayed
  | .write sender _ => sender < s.created

/-- What the service does with an event. -/
def handle (s : RedPhoneService) : ServiceEvent → RedPhoneService
  | .intent intent telephonyIdle => s.finish (s.onIntentReceived intent telephonyIdle)
  | .callback sender c => s.callback sender c
  -- Whoever has posted it, the call it ends is the current one.
  | .delayed sender => terminate { s with delayed := s.delayed.erase sender }
  | .write sender field =>
    { s with currentCallManager := s.currentCallManager.map fun m =>
      if m.id = sender then m.write field else m }

/-- One event, in a process that has not ended. -/
def step (s : RedPhoneService) (e : ServiceEvent) : Except Blocked RedPhoneService :=
  if s.crashed.isNone && s.possible e then .ok (s.handle e) else .error .blocked

theorem step_ok {s s' : RedPhoneService} {e : ServiceEvent} :
    s.step e = .ok s' ↔ s.crashed = none ∧ s.possible e ∧ s.handle e = s' := by
  rw [step]
  by_cases h : s.crashed.isNone && s.possible e
  · rw [if_pos h, Except.ok.injEq]
    rw [Bool.and_eq_true, Option.isNone_iff_eq_none] at h
    simp only [h.1, h.2, true_and]
  · rw [if_neg h]
    rw [Bool.and_eq_true, Option.isNone_iff_eq_none] at h
    simp only [reduceCtorEq, false_iff, not_and]
    exact fun hcrashed hpossible => absurd ⟨hcrashed, hpossible⟩ h

end RedPhoneService

end RedPhone
