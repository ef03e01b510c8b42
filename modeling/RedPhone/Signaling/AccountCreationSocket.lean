import RedPhone.Signaling.SignalingSocket

/-!
# Sockets for Accounts

An account is created and verified over a socket of its own, opened for the
number and the password, without a counter for codes. The constructor connects
before it formats the number, so a number that cannot be formatted needs a
connection to be found out.

## Main definitions

* `AccountCreationSocket.create`, `AccountCreationSocket.call`: A socket, and
  one of its methods.
* `AccountCreationSocket.perform`: A socket that is opened for one method.
* `Answered`: The server has answered with success.

## Theorems

* `call_done`: What a method has read that has succeeded.
* `perform_ok`: What there is of a socket whose method has.
* `call_getNumberFilter_broken`: What is caught where nothing can be written.
-/

namespace RedPhone

open Reading

/-- What the constructor of a socket meets. -/
inductive Connection
  /-- There is no connection. -/
  | refused (message : String)
  /-- The key store is of no use. -/
  | unusable (e : JavaException)
  /-- What the server will have sent. -/
  | connected (source : Source UInt8)

/-- A socket that creates accounts, with its connection. -/
structure AccountCreationSocket where
  socket : SignalingSocket
  session : Session (Source UInt8)

namespace AccountCreationSocket

section Create

variable {PhoneNumber : Type} (util : PhoneNumberUtil PhoneNumber)

/-- The fields of a socket for a number. There is no `counterProvider`. -/
def fields (preference number password : Option JavaString) : Java SignalingSocket := do
  let number ← Java.orNull number
  let localNumber ← PhoneNumberFormatter.formatNumber util preference number
  .ok ⟨some localNumber, password, false⟩

/-- The constructor, which connects first. -/
def create (preference number password : Option JavaString) :
    Connection → Except SocketFailure AccountCreationSocket
  | .refused message => .error (.signaling (.signalingIo message))
  | .unusable e => .error (.java e)
  | .connected source =>
    match fields util preference number password with
    | .error e => .error (.java e)
    | .ok socket => .ok ⟨socket, ⟨.ok source, [], none, []⟩⟩

end Create

/-- A method, unless it waits for its response for good. -/
def call (a : AccountCreationSocket) (x : Exchange) (broken : Option String) :
    Option (Except SocketFailure Answer × AccountCreationSocket) :=
  let session := { a.session with outcomes := [] }.exchange socketWire a.socket x broken
  session.outcomes.head?.map fun outcome => (outcome, ⟨a.socket, session⟩)

/-- A socket is opened and one of its methods called. -/
def perform {PhoneNumber : Type} (util : PhoneNumberUtil PhoneNumber)
    (preference number password : Option JavaString) (x : SignalingSocket → Exchange)
    (connection : Connection) (broken : Option String) :
    Option (Except SocketFailure AccountCreationSocket) :=
  match create util preference number password connection with
  | .error e => some (.error e)
  | .ok a =>
    match a.call (x a.socket) broken with
    | none => none
    | some (.error e, _) => some (.error e)
    | some (.ok _, a) => some (.ok a)

end AccountCreationSocket

/-- The server has answered a request with the status of success. -/
def Answered (c : SignalingSocket) (x : Exchange) (connection : Connection) : Prop :=
  ∃ source text response left, connection = .connected source ∧ x.text c none = .ok text ∧
    readSignalResponse source = .ok (response, left) ∧ response.statusCode = 200

/-- Where nothing is caught, a method ends with what it comes to. -/
theorem Exchange.finish_loud {x : Exchange} (hloud : x.silent = false)
    (outcome : Except SocketFailure Answer) : x.finish outcome = outcome := by
  unfold finish
  split <;> simp only [hloud, Bool.false_eq_true, if_false]

theorem judgeAccount_ok {limit failed : String} {response : SignalResponse} {answer : Answer}
    (h : judgeAccount limit failed response = .ok answer) : response.statusCode = 200 := by
  unfold judgeAccount at h
  by_cases hcode : response.statusCode = 200
  · exact hcode
  · rw [if_neg hcode] at h
    split at h
    · simp only [reduceCtorEq] at h
    · simp only [reduceCtorEq] at h

namespace AccountCreationSocket

/-- A method that succeeds has read a response with the status of success, and
    leaves the connection open. -/
theorem call_done {c : SignalingSocket} {source : Source UInt8} {x : Exchange}
    (hloud : x.silent = false)
    (hjudge : ∀ response answer, x.judge response = .ok answer → response.statusCode = 200)
    {broken : Option String} {answer : Answer} {a : AccountCreationSocket}
    (h : call ⟨c, ⟨.ok source, [], none, []⟩⟩ x broken = some (.ok answer, a)) :
    a.socket = c ∧ Answered c x (.connected source) ∧ ∃ left, a.session.source = .ok left := by
  unfold call Session.exchange at h
  rw [Option.map_eq_some_iff] at h
  rcases h with ⟨outcome, hhead, hpair⟩
  rw [Prod.mk.injEq] at hpair
  rcases hpair with ⟨rfl, rfl⟩
  refine ⟨rfl, ?_⟩
  -- Before anything is read the method fails if its request cannot be built, or
  -- cannot be written.
  cases htext : x.text c none with
  | error e =>
      simp only [htext, Exchange.finish_loud hloud, List.nil_append, List.head?_cons,
        Option.some.injEq, reduceCtorEq] at hhead
  | ok text =>
      cases broken with
      | some message =>
          simp only [htext, Exchange.finish_loud hloud, List.nil_append, List.head?_cons,
            Option.some.injEq, reduceCtorEq] at hhead
      | none =>
          simp only [htext, socketWire] at hhead
          -- Here the request is out, and it is the response that decides.
          cases hread : Resuming.readSignalResponse source with
          | error e left =>
              rw [hread] at hhead
              cases e with
              | waits => simp only [Session.settle, List.head?_nil, reduceCtorEq] at hhead
              | impossible => simp only [Session.settle, List.head?_nil, reduceCtorEq] at hhead
              | threw e =>
                  simp only [Session.settle, Exchange.judged, Exchange.finish_loud hloud,
                    List.nil_append, List.head?_cons, Option.some.injEq, reduceCtorEq] at hhead
          | ok response left =>
              rw [hread] at hhead
              simp only [Session.settle, Exchange.judged, Exchange.finish_loud hloud,
                List.nil_append, List.head?_cons, Option.some.injEq] at hhead
              have hresponse : readSignalResponse source = .ok (response, left) := by
                rw [← Resuming.forget_readSignalResponse]
                exact Keeper.forget_ok.mpr hread
              refine ⟨⟨source, text, response, left, rfl, htext, hresponse,
                hjudge response answer hhead⟩, left, ?_⟩
              simp only [socketWire, hread, Session.settle]

/-- A socket that is opened for a method that succeeds has been answered. -/
theorem perform_ok {PhoneNumber : Type} {util : PhoneNumberUtil PhoneNumber}
    {preference number password : Option JavaString} {x : SignalingSocket → Exchange}
    (hloud : ∀ c, (x c).silent = false)
    (hjudge : ∀ c response answer, (x c).judge response = .ok answer → response.statusCode = 200)
    {connection : Connection} {broken : Option String} {a : AccountCreationSocket}
    (h : perform util preference number password x connection broken = some (.ok a)) :
    fields util preference number password = .ok a.socket ∧
      Answered a.socket (x a.socket) connection ∧ ∃ source, a.session.source = .ok source := by
  unfold perform create at h
  cases connection with
  | refused message =>
      simp only [Option.some.injEq, reduceCtorEq] at h
  | unusable e =>
      simp only [Option.some.injEq, reduceCtorEq] at h
  | connected source =>
      cases hfields : fields util preference number password with
      | error e => simp only [hfields, Option.some.injEq, reduceCtorEq] at h
      | ok c =>
          simp only [hfields] at h
          cases hcall : call ⟨c, ⟨.ok source, [], none, []⟩⟩ (x c) broken with
          | none => simp only [hcall, reduceCtorEq] at h
          | some r =>
              rcases r with ⟨outcome, b⟩
              cases outcome with
              | error e => simp only [hcall, Option.some.injEq, reduceCtorEq] at h
              | ok answer =>
                  simp only [hcall, Option.some.injEq, Except.ok.injEq] at h
                  rcases call_done (hloud c) (hjudge c) hcall with ⟨hsocket, hanswered, hopen⟩
                  rw [← h, hsocket]
                  exact ⟨rfl, hanswered, hopen⟩

theorem create_open {PhoneNumber : Type} {util : PhoneNumberUtil PhoneNumber}
    {preference number password : Option JavaString} {connection : Connection}
    {a : AccountCreationSocket}
    (h : create util preference number password connection = .ok a) :
    ∃ source, a.session.source = .ok source := by
  unfold create at h
  split at h
  · simp only [reduceCtorEq] at h
  · simp only [reduceCtorEq] at h
  · split at h
    · simp only [reduceCtorEq] at h
    · rw [← Except.ok.inj h]
      exact ⟨_, rfl⟩

/-- Where nothing can be written, the directory is not retrieved. -/
theorem call_getNumberFilter_broken {a : AccountCreationSocket} {source : Source UInt8}
    (hopen : a.session.source = .ok source) (message : String) :
    ∃ a', a.call a.socket.getNumberFilter (some message) =
      some (.error (.signaling (.signalingIo message)), a') := by
  -- With a counter of -1 no one-time password is made, so there is a text.
  have htext : ∃ text, a.socket.getNumberFilter.text a.socket a.session.counter = .ok text :=
    (Signal.exists_serialize a.socket.directoryRequestSignal).mpr (.inl rfl)
  rcases htext with ⟨text, htext⟩
  unfold call Session.exchange
  simp only [hopen, htext, List.nil_append, List.head?_cons, Option.map_some]
  exact ⟨_, rfl⟩

end AccountCreationSocket

end RedPhone
