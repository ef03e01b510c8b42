import RedPhone.Lib.Interleaving
import RedPhone.Signaling.AccountCreationSocket

/-!
# Registration

A number is registered by a service and, where the message with the challenge
does not come, by an activity beside it. The service has an executor with one
thread. For a number it creates an account, listens for a challenge, waits for
it, verifies the account with it and marks the phone as registered. From the
activity the user can ask for a call instead and enter what it says: the
activity creates and verifies the account by tasks of its own, and then has the
service mark the phone.

The threads of the services, the tasks and the main thread, on which intents are
delivered, challenges received and services destroyed, take their steps in any
order. A service that has been destroyed still has its thread, so there can be
several. An exception that nothing catches ends the process, which can also end
at any other time. What is left then are the preferences and the intents that
have not been delivered.

A `wait` can end at any time. The clock, and with it the progress that is
shown, is not modelled, nor are the registration for messages of the platform
and the schedule of the directory, which follow a registration. Neither is what
the platform itself does for a service that has been destroyed, from which it
takes back the receivers that are still registered. `shutdown` has left it none,
but the thread can register one behind that.

`setState` uses two fields that the main thread uses as well, and none of what
it does is synchronized. So it is three steps: the state is written, it is
asked whether there is a handler, and the handler is read once more and sent a
message. Where the handler has been taken away in between, the message is sent
to `null`, and what the thread throws then is caught by nobody.

## Main definitions

* `RegistrationService`: The service, with its executor.
* `Pc`, `Running`: The statement its thread is at.
* `Fact`: What has happened, as far as the laws speak of it.
* `exec`: A statement of the thread.
* `SetStatePc`, `notify`: Where it is in `setState`, and the rest of that.
* `AsyncTask`: A task of the activity.
* `Phone.step`: What happens to the phone.
-/

namespace RedPhone

open Interleaving

/-- What becomes of the file of the directory where it is to be written. -/
inductive Writing
  | written
  /-- It cannot be opened, and stays what it was. -/
  | unopened
  /-- It is opened, which empties it, and cannot be written. -/
  | emptied
  deriving DecidableEq, Repr

/-- What the threads meet. -/
structure Met where
  /-- What `Util.getSecret` returns. -/
  password : JavaString
  key : JavaString
  connection : Connection
  /-- What a write throws, if it does. -/
  broken : Option String
  writing : Writing

/-! ## The service -/

namespace Registration

/-- The constants `STATE_*` that are used. -/
inductive State
  | idle
  | connecting
  | verifyingSms
  | complete
  | timeout
  | networkError
  | voiceRequested
  | verifyingVoice
  deriving DecidableEq, Repr

structure RegistrationState where
  state : State
  number : Option JavaString
  password : Option JavaString
  deriving DecidableEq

/-- The preferences that a registration sets. -/
structure Preferences where
  verifying : Bool
  registered : Bool
  number : Option JavaString
  password : Option JavaString
  key : Option JavaString
  passwordCounter : Option Int
  deriving DecidableEq

def Preferences.markAsVerifying (p : Preferences) (verifying : Bool) : Preferences :=
  { p with verifying := verifying }

def Preferences.markAsVerified (_ : Preferences) (number password key : Option JavaString) :
    Preferences :=
  ⟨false, true, number, password, key, some 1⟩

inductive Action
  | registerNumber
  | voiceRegisterNumber
  | voiceRequested
  | other
  deriving DecidableEq, Repr

/-- What an intent asks for, with its extras. -/
structure Intent where
  action : Action
  e164number : Option JavaString
  password : Option JavaString
  key : Option JavaString
  deriving DecidableEq

/-- The statement a handler is at. -/
inductive Pc
  | markAsVerifying
  | initializeChallengeListener
  | setConnecting
  | createAccount
  | setVerifyingSms
  | waitForChallenge
  /-- In `wait`. -/
  | waiting
  | verifyAccount (challenge : JavaString)
  | setVerifyingVoice
  | markAsVerified
  /-- `new AccountCreationSocket`, after a call. -/
  | openSocket
  | retrieveDirectory
  | setComplete
  /-- `setState` in a `catch` clause. -/
  | setFailed (state : State)
  | broadcastComplete (success : Bool)
  /-- The end, with the `finally` clause. -/
  | finish
  | setVoiceRequested
  deriving DecidableEq

/-- The variables of a handler. -/
structure Handling where
  /-- Which one it is of all that have begun. -/
  id : Nat
  action : Action
  number : Option JavaString
  password : Option JavaString
  key : Option JavaString
  socket : Option AccountCreationSocket

/-- Where a thread is in `setState`. -/
inductive SetStatePc
  /-- `if (registrationStateHandler != null)`. -/
  | test (state : RegistrationState)
  /-- `registrationStateHandler.obtainMessage`, which reads the field again. -/
  | send (state : RegistrationState)
  deriving DecidableEq

structure Running where
  handling : Handling
  /-- The next statement of the handler, once `setState` has returned. -/
  pc : Pc
  setState : Option SetStatePc

structure RegistrationService where
  /-- The tasks that the thread has not taken yet. -/
  executor : List Intent
  /-- `executor.shutdown()` has been called. -/
  destroyed : Bool
  running : Option Running
  registrationState : RegistrationState
  /-- Whether there is a `registrationStateHandler`. -/
  handler : Bool
  receiver : Option Nat
  /-- The receivers that are registered with the platform. -/
  receivers : List Nat
  /-- How many receivers there have been. -/
  created : Nat
  challenge : Option JavaString

/-- What has happened. -/
inductive Fact
  | begun (id : Nat) (action : Action)
  | created (voice : Bool) (socket : SignalingSocket) (connection : Connection)
  | verified (socket : SignalingSocket) (challenge key : JavaString) (connection : Connection)
  /-- A challenge was broadcast and received. -/
  | challenged (challenge : Option JavaString)
  /-- A code was entered. -/
  | entered (code : JavaString)
  | timedOut (id : Nat)
  | marked (id : Nat)
  | announced (id : Nat) (success : Bool)
  /-- The process ended. -/
  | died

/-- What the services share. -/
structure Shared where
  preferences : Preferences
  /-- The directory in its file. -/
  directory : Option BloomFilter
  /-- The messages to the handlers of the activity. -/
  messages : List RegistrationState
  /-- How many handlers have begun. -/
  begun : Nat
  history : List Fact

/-- Why there is no next state of a service. -/
inductive Halt
  | blocked
  /-- An exception is not caught. -/
  | crash
  deriving DecidableEq, Repr

def Shared.record (s : Shared) (fact : Fact) : Shared :=
  { s with history := s.history ++ [fact] }

namespace RegistrationService

def create : RegistrationService where
  executor := []
  destroyed := false
  running := none
  registrationState := ⟨.idle, none, none⟩
  handler := false
  receiver := none
  receivers := []
  created := 0
  challenge := none

def onStartCommand (v : RegistrationService) : Option Intent → RegistrationService
  | none => v
  | some intent =>
    if intent.action = .registerNumber ∨ intent.action = .voiceRegisterNumber ∨
        intent.action = .voiceRequested then
      { v with executor := v.executor ++ [intent] }
    else v

def initializeChallengeListener (v : RegistrationService) : RegistrationService :=
  { v with
    challenge := none
    receiver := some v.created
    receivers := v.receivers ++ [v.created]
    created := v.created + 1 }

/-- `unregisterReceiver` throws for what is not registered. -/
def shutdownChallengeListener (v : RegistrationService) : Except Halt RegistrationService :=
  match v.receiver with
  | none => .ok v
  | some receiver =>
    if receiver ∈ v.receivers then
      .ok { v with receivers := v.receivers.erase receiver, receiver := none }
    else .error .crash

def challengeReceived (v : RegistrationService) (challenge : Option JavaString) :
    RegistrationService :=
  { v with challenge := challenge }

/-- The thread goes on to a statement. -/
def goto (v : RegistrationService) (h : Handling) (pc : Pc) : RegistrationService :=
  { v with running := some ⟨h, pc, none⟩ }

/-- `setState`, up to its question for a handler. -/
def setState (v : RegistrationService) (h : Handling) (next : Pc) (state : RegistrationState) :
    RegistrationService :=
  { v with registrationState := state, running := some ⟨h, next, some (.test state)⟩ }

end RegistrationService

/-- The rest of `setState`. -/
def notify (s : Shared) (v : RegistrationService) (r : Running) :
    SetStatePc → Except Halt (Shared × RegistrationService)
  | .test state =>
    .ok (s, { v with running := some { r with
      setState := if v.handler then some (.send state) else none } })
  | .send state =>
    if v.handler then
      .ok ({ s with messages := s.messages ++ [state] },
        { v with running := some { r with setState := none } })
    else .error .crash

/-- What the `catch` clauses catch. All of them report a network error. -/
def caught : SocketFailure → Bool
  | .signaling (.signaling _) => true
  | .signaling (.signalingIo _) => true
  | .accountCreation _ => true
  | .rateLimitExceeded _ => true
  | _ => false

/-- A handler throws. -/
def thrown (s : Shared) (v : RegistrationService) (h : Handling) (e : SocketFailure) :
    Except Halt (Shared × RegistrationService) :=
  if caught e then .ok (s, v.goto h (.setFailed .networkError)) else .error .crash

/-- What is left of the response in `retrieveDirectory`, where a
    `SignalingException` is caught. -/
def retrieved : Except SocketFailure Answer → Except Halt (Option BloomFilter)
  | .ok (.directory response) => .ok response
  | .ok _ => .ok none
  | .error e => if caught e then .ok none else .error .crash

/-- `serializeToFile`, of the response if there is one. -/
def stored (writing : Writing) (response directory : Option BloomFilter) : Option BloomFilter :=
  match response with
  | none => directory
  | some filter =>
    match writing with
    | .written => some filter
    | .unopened => directory
    | .emptied => none

section Threads

variable {PhoneNumber : Type} (util : PhoneNumberUtil PhoneNumber) (gson : Gson)

/-- A handler opens a socket and makes a request. -/
def request (met : Met) (s : Shared) (v : RegistrationService) (h : Handling)
    (x : SignalingSocket → Exchange) (fact : SignalingSocket → Fact) (next : Pc) :
    Except Halt (Shared × RegistrationService) :=
  match AccountCreationSocket.perform util s.preferences.number h.number h.password x
      met.connection met.broken with
  | none => .error .blocked
  | some (.error e) => thrown s v h e
  | some (.ok a) => .ok (s.record (fact a.socket), v.goto { h with socket := some a } next)

/-- The thread executes the statement it is at. -/
def exec (met : Met) (s : Shared) (v : RegistrationService) (h : Handling) :
    Pc → Except Halt (Shared × RegistrationService)
  | .markAsVerifying =>
    .ok ({ s with preferences := s.preferences.markAsVerifying true },
      v.goto h (if h.action = .voiceRegisterNumber then .setVerifyingVoice
        else .initializeChallengeListener))
  -- The password and the key of a registration are made on the way.
  | .initializeChallengeListener =>
    .ok (s, v.initializeChallengeListener.goto
      { h with password := some met.password, key := some met.key } .setConnecting)
  | .setConnecting =>
    .ok (s, v.setState h .createAccount ⟨.connecting, h.number, none⟩)
  | .createAccount =>
    request util met s v h (fun c => c.createAccount false) (.created false · met.connection)
      .setVerifyingSms
  | .setVerifyingSms =>
    .ok (s, v.setState h .waitForChallenge ⟨.verifyingSms, h.number, none⟩)
  | .waitForChallenge =>
    .ok (s, v.goto h (match v.challenge with
      | some challenge => .verifyAccount challenge
      | none => .waiting))
  -- Nothing but `wake` goes on from here.
  | .waiting => .error .blocked
  | .verifyAccount challenge =>
    match h.key with
    -- `Util.getSecret` has made one before the listener was registered.
    | none => .error .crash
    | some key =>
      request util met s v h (fun c => c.verifyAccount gson challenge key)
        (.verified · challenge key met.connection) .markAsVerified
  | .setVerifyingVoice =>
    .ok (s, v.setState h .markAsVerified ⟨.verifyingVoice, h.number, none⟩)
  | .markAsVerified =>
    .ok (Shared.record { s with
        preferences := s.preferences.markAsVerified h.number h.password h.key } (.marked h.id),
      v.goto h (if h.action = .voiceRegisterNumber then .openSocket else .retrieveDirectory))
  | .openSocket =>
    match AccountCreationSocket.create util s.preferences.number h.number h.password
        met.connection with
    | .error e => thrown s v h e
    | .ok a => .ok (s, v.goto { h with socket := some a } .retrieveDirectory)
  | .retrieveDirectory =>
    match h.socket with
    | none => .error .crash
    | some a =>
      match a.call a.socket.getNumberFilter met.broken with
      | none => .error .blocked
      -- A response without a filter leaves the directory as it is.
      | some (outcome, a) => do
        let response ← retrieved outcome
        .ok ({ s with directory := stored met.writing response s.directory },
          v.goto { h with socket := some a } .setComplete)
  | .setComplete =>
    .ok (s, v.setState h (.broadcastComplete true) ⟨.complete, h.number, none⟩)
  | .setFailed state =>
    .ok (s, v.setState h (.broadcastComplete false) ⟨state, h.number, none⟩)
  | .broadcastComplete success => .ok (s.record (.announced h.id success), v.goto h .finish)
  | .finish =>
    -- The `finally` clause of `handleRegistrationIntent`.
    if h.action = .registerNumber then do
      let v ← v.shutdownChallengeListener
      .ok (s, { v with running := none })
    else .ok (s, { v with running := none })
  | .setVoiceRequested =>
    .ok (s, v.setState h .finish ⟨.voiceRequested, h.number, h.password⟩)

/-- The statement a handler begins with, if there is one. -/
def first : Action → Option Pc
  | .registerNumber => some .markAsVerifying
  | .voiceRegisterNumber => some .markAsVerifying
  | .voiceRequested => some .setVoiceRequested
  | .other => none

/-- The thread takes the next task. -/
def take (s : Shared) (v : RegistrationService) : Except Halt (Shared × RegistrationService) :=
  match v.running, v.executor with
  | none, intent :: executor =>
    .ok (({ s with begun := s.begun + 1 }.record (.begun s.begun intent.action)),
      { v with
        executor := executor
        running := (first intent.action).map fun pc =>
          ⟨⟨s.begun, intent.action, intent.e164number, intent.password, intent.key, none⟩, pc,
            none⟩ })
  | _, _ => .error .blocked

/-- `wait` returns, and there is a challenge or `AccountVerificationTimeoutException`
    is thrown. -/
def wake (s : Shared) (v : RegistrationService) : Except Halt (Shared × RegistrationService) :=
  match v.running with
  | some ⟨h, .waiting, none⟩ =>
    match v.challenge with
    | some challenge => .ok (s, v.goto h (.verifyAccount challenge))
    | none => .ok (s.record (.timedOut h.id), v.goto h (.setFailed .timeout))
  | _ => .error .blocked

/-- A step of the thread. -/
def runs (met : Met) (s : Shared) (v : RegistrationService) :
    Except Halt (Shared × RegistrationService) :=
  match v.running with
  | none => .error .blocked
  | some r =>
    match r.setState with
    | some pc => notify s v r pc
    | none => exec util gson met s v r.handling r.pc

/-- `ChallengeReceiver.onReceive`. -/
def receive (receiver : Nat) (challenge : Option JavaString) (s : Shared)
    (v : RegistrationService) : Except Halt (Shared × RegistrationService) :=
  if receiver ∈ v.receivers then
    .ok (s.record (.challenged challenge), v.challengeReceived challenge)
  else .error .blocked

/-- The statements of `shutdown`. -/
inductive ShutdownPc
  | shutdownChallengeListener
  | markAsVerifying
  | setIdle
  deriving DecidableEq, Repr

def shutdown (s : Shared) (v : RegistrationService) :
    ShutdownPc → Except Halt (Shared × RegistrationService)
  | .shutdownChallengeListener => do
    let v ← v.shutdownChallengeListener
    .ok (s, v)
  | .markAsVerifying => .ok ({ s with preferences := s.preferences.markAsVerifying false }, v)
  | .setIdle => .ok (s, { v with registrationState := ⟨.idle, none, none⟩ })

def ShutdownPc.next : ShutdownPc → Option ShutdownPc
  | .shutdownChallengeListener => some .markAsVerifying
  | .markAsVerifying => some .setIdle
  | .setIdle => none

/-! ## The activity -/

/-- What a task of the activity asks the server for. -/
inductive Request
  /-- `CallClickListener`. -/
  | call
  /-- `VerifyClickListener`. -/
  | verify (code key : JavaString)
  deriving DecidableEq

/-- A task of the activity, with its result. -/
structure AsyncTask where
  number : Option JavaString
  password : Option JavaString
  request : Request
  success : Option Bool
  deriving DecidableEq

def AsyncTask.exchange (t : AsyncTask) (c : SignalingSocket) : Exchange :=
  match t.request with
  | .call => c.createAccount true
  | .verify code key => c.verifyAccount gson code key

def AsyncTask.fact (t : AsyncTask) (connection : Connection) (c : SignalingSocket) : Fact :=
  match t.request with
  | .call => .created true c connection
  | .verify code key => .verified c code key connection

/-- The intent of `onPostExecute`. -/
def AsyncTask.intent (t : AsyncTask) : Intent :=
  match t.request with
  | .call => ⟨.voiceRequested, t.number, t.password, none⟩
  | .verify _ key => ⟨.voiceRegisterNumber, t.number, t.password, some key⟩

/-- `doInBackground`. -/
def AsyncTask.doInBackground (t : AsyncTask) (met : Met) (s : Shared) :
    Except Halt (Shared × AsyncTask) :=
  match AccountCreationSocket.perform util s.preferences.number t.number t.password
      (t.exchange gson) met.connection met.broken with
  | none => .error .blocked
  | some (.error e) =>
    if caught e then .ok (s, { t with success := some false }) else .error .crash
  | some (.ok a) => .ok (s.record (t.fact met.connection a.socket), { t with success := some true })

/-! ## The phone -/

structure Phone where
  shared : Shared
  services : List RegistrationService
  /-- The service whose `shutdown` the main thread is in, and where. -/
  main : Option (Nat × ShutdownPc)
  /-- The intents that have not been delivered. -/
  intents : List Intent
  asyncTasks : List AsyncTask

/-- A phone on which nothing has been registered. -/
def Phone.create : Phone where
  shared := ⟨⟨false, false, none, none, none, none⟩, none, [], 0, []⟩
  services := []
  main := none
  intents := []
  asyncTasks := []

inductive Event
  /-- The activity has a number. -/
  | request (number : JavaString)
  /-- `onStartCommand`. -/
  | deliver
  /-- `onServiceConnected`. -/
  | connected
  /-- `onServiceDisconnected`. -/
  | disconnected
  /-- `CallClickListener.onClick`, with the state that has made the listener. -/
  | call (state : RegistrationState) (password : JavaString)
  /-- `VerifyClickListener.onClick`. -/
  | verify (state : RegistrationState) (key code : JavaString)
  | background (i : Nat) (met : Met)
  /-- `onPostExecute`. -/
  | post (i : Nat)
  /-- `shutdownService` of the activity. -/
  | shutdown (k : Nat)
  | onDestroy (k : Nat)
  /-- The next statement of `shutdown`. -/
  | main
  | receive (k receiver : Nat) (challenge : Option JavaString)
  | take (k : Nat)
  | runs (k : Nat) (met : Met)
  | wake (k : Nat)
  /-- The process is ended. -/
  | kill

namespace Phone

/-- The process ends. -/
def die (p : Phone) : Phone where
  shared := { p.shared with messages := [] }.record .died
  -- What was sent to the activity dies with it, and the intents are kept by the
  -- platform.
  services := []
  main := none
  intents := p.intents
  asyncTasks := []

/-- The service that has not been destroyed, if there is one. -/
def alive (p : Phone) : Option Nat := p.services.findIdx? fun v => !v.destroyed

/-- There is a service. -/
def withService (p : Phone) : Phone :=
  match p.alive with
  | some _ => p
  | none => { p with services := p.services ++ [.create] }

/-- Something is done to a service. -/
def onService (p : Phone) (k : Nat)
    (f : Shared → RegistrationService → Except Halt (Shared × RegistrationService)) :
    Except Blocked Phone :=
  match p.services[k]? with
  | none => .error .blocked
  | some v =>
    match f p.shared v with
    | .ok (s, v) => .ok { p with shared := s, services := p.services.set k v }
    | .error .crash => .ok p.die
    | .error .blocked => .error .blocked

/-- Something is done to the service that has not been destroyed. -/
def onAlive (p : Phone) (f : Shared → RegistrationService → Shared × RegistrationService) :
    Except Blocked Phone :=
  match p.alive with
  | none => .error .blocked
  | some k => p.onService k fun s v => .ok (f s v)

/-- The main thread is in `shutdown` of a service. -/
def shuttingDown (p : Phone) (k : Nat) : Phone :=
  { p with main := some (k, .shutdownChallengeListener) }

/-- The main thread does something else than `shutdown`. -/
def onMain (p : Phone) (q : Except Blocked Phone) : Except Blocked Phone :=
  if p.main = none then q else .error .blocked

/-- The activity has a task executed. -/
def execute (p : Phone) (t : AsyncTask) : Phone := { p with asyncTasks := p.asyncTasks ++ [t] }

def step (p : Phone) : Event → Except Blocked Phone
  | .request number =>
    p.onMain (.ok { p with
      intents := p.intents ++ [⟨.registerNumber, some number, none, none⟩] })
  | .deliver =>
    p.onMain (match p.intents with
      | [] => .error .blocked
      | intent :: intents =>
        { p with intents := intents }.withService.onAlive fun s v =>
          (s, v.onStartCommand (some intent)))
  | .connected =>
    p.onMain (p.withService.onAlive fun s v =>
      ({ s with messages := s.messages ++ [v.registrationState] }, { v with handler := true }))
  | .disconnected => p.onMain (p.onAlive fun s v => (s, { v with handler := false }))
  | .call state password =>
    p.onMain (
      if state ∈ p.shared.messages ∧ (state.state = .timeout ∨ state.state = .voiceRequested) then
        .ok (p.execute ⟨state.number, some password, .call, none⟩)
      else .error .blocked)
  | .verify state key code =>
    p.onMain (
      if state ∈ p.shared.messages ∧ state.state = .voiceRequested then
        -- `Util.isEmpty`, where spaces and controls do not count.
        if code.all (· ≤ 0x20) then .ok p
        else .ok ({ p with shared := p.shared.record (.entered code) }.execute
          ⟨state.number, state.password, .verify code key, none⟩)
      else .error .blocked)
  | .background i met =>
    match p.asyncTasks[i]? with
    | none => .error .blocked
    | some t =>
      if t.success = none then
        match t.doInBackground util gson met p.shared with
        | .ok (s, t) => .ok { p with shared := s, asyncTasks := p.asyncTasks.set i t }
        | .error .crash => .ok p.die
        | .error .blocked => .error .blocked
      else .error .blocked
  | .post i =>
    p.onMain (match p.asyncTasks[i]? with
      | none => .error .blocked
      | some t =>
        match t.success with
        | none => .error .blocked
        | some success =>
          .ok { p with
            intents := if success then p.intents ++ [t.intent] else p.intents
            asyncTasks := p.asyncTasks.eraseIdx i })
  | .shutdown k =>
    p.onMain (if k < p.services.length then .ok (p.shuttingDown k) else .error .blocked)
  | .onDestroy k =>
    p.onMain ((p.shuttingDown k).onService k fun s v => .ok (s, { v with destroyed := true }))
  | .main =>
    match p.main with
    | none => .error .blocked
    | some (k, pc) =>
      { p with main := pc.next.map (k, ·) }.onService k fun s v => shutdown s v pc
  | .receive k receiver challenge => p.onMain (p.onService k (receive receiver challenge))
  | .take k => p.onService k take
  | .runs k met => p.onService k (runs util gson met)
  | .wake k => p.onService k wake
  | .kill => .ok p.die

end Phone

end Threads

end Registration

end RedPhone
