import RedPhone.Service.RedPhoneService
import RedPhone.Signaling.Delivery
import RedPhone.Signaling.Resuming
import RedPhone.Signaling.Serialized
import RedPhone.Util.PhoneNumberFormatter

/-!
# The Signaling Socket

The methods of the signaling socket send a signal, read a response and judge
its status. Between two of them the listener waits for signals of the server on
the same connection, reads each and acknowledges it. Nothing numbers the
responses: what a method judges is whatever stands where the one before it has
stopped.

A conversation is a list of such parts, one after the other, and what it needs
of the connection is how a response and a signal are read off it. There are two
such readings, one of a socket that delivers its bytes in portions, and one of
the stream in one piece.

A method that is refused its write throws and reads nothing. One that throws
while it reads leaves the connection where it has come to, and the next method
reads on from there, as `setHangup` does after the listener has failed. Only
where a method waits for bytes that do not come is there no next. One thread
uses the socket at a time here: what a method does that begins while another is
still reading is left open.

## Main definitions

* `OtpCounterProvider.getOtpCounter`: The counter of the codes.
* `Exchange`: A method that sends a signal and judges a response.
* `initiateConnection`, `setRinging`, `setHangup`, `setBusy`, `getNumberFilter`
  and the others: The methods.
* `Session`: The connection and what has come of it.
* `Wire`: How a connection is read.
* `Session.exchange`, `Session.wait`, `Session.hear`: The parts.
* `converse`: A conversation.

## Theorems

* `converse_append`: A conversation goes on where its first part has ended.
* `converse_ended`: A conversation in which a method waits for good is over.
-/

namespace RedPhone

open Reading JavaString

/-- `OtpCounterProvider.getOtpCounter`, with the preference it leaves. -/
def OtpCounterProvider.getOtpCounter (preference : Option Int) : Int × Option Int :=
  -- The counter is a `long`, which is written back one higher.
  (preference.getD 1, some (Int.bmod (preference.getD 1 + 1) 18446744073709551616))

/-- The library for JSON. -/
structure Gson where
  /-- `none` for what is not a session: an exception that is not declared. -/
  fromJson : List Nat → Option (Option SessionDescriptor)
  /-- The arguments of a verification, with its key and its challenge. -/
  toJson : JavaString → JavaString → JavaString
  length_toJson : ∀ key challenge, (toJson key challenge).length < 2147483648

/-- A session, in the text of a response. -/
def sessionText : String :=
  "\x7b\"relayPort\":31337,\"sessionId\":7,\"serverName\":\"relay\",\"version\":1\x7d"

/-- What becomes of a key and a challenge. -/
def challengeJson (key challenge : JavaString) : JavaString :=
  if key.length + challenge.length < 2147483600 then
    ofString "\x7b\"key\":\"" ++ key ++ ofString "\",\"challenge\":\"" ++ challenge
      ++ ofString "\"\x7d"
  else []

theorem length_challengeJson (key challenge : JavaString) :
    (challengeJson key challenge).length < 2147483648 := by
  unfold challengeJson
  -- What is added is shorter than the bound leaves room for.
  split
  · have hfirst : (ofString "\x7b\"key\":\"").length = 8 := by decide +kernel
    have hmiddle : (ofString "\",\"challenge\":\"").length = 15 := by decide +kernel
    have hlast : (ofString "\"\x7d").length = 2 := by decide +kernel
    simp only [List.length_append]
    omega
  · decide

/-- The library, for that text. -/
def sessionGson : Gson where
  fromJson s :=
    if s = Text.ofString sessionText then some (some ⟨31337, 7, some "relay", 1⟩) else none
  toJson := challengeJson
  length_toJson := length_challengeJson

/-- What the methods throw. -/
inductive SocketFailure
  /-- A `SignalingException`, or what is not caught of reading. -/
  | signaling (e : SignalingFailure)
  | java (e : JavaException)
  | json
  | noSuchUser (message : List Nat)
  | serverMessage (message : List Nat)
  | loginFailed (message : List Nat)
  | sessionStale (message : List Nat)
  | rateLimitExceeded (message : List Nat)
  | accountCreation (message : List Nat)
  deriving DecidableEq

/-- What the methods return. -/
inductive Answer
  | done
  | session (descriptor : Option SessionDescriptor)
  | directory (response : Option BloomFilter)
  | heard (signal : ServerSignal)
  deriving DecidableEq

/-- The fields of a socket that do not change. -/
structure SignalingSocket where
  localNumber : Option JavaString
  password : Option JavaString
  /-- Whether there is a `counterProvider`. -/
  counterProvider : Bool

/-! ## The signals -/

namespace SignalingSocket

variable (c : SignalingSocket)

/-- A signal without a body. -/
def bodiless (counter : Int) (method location : JavaString) : Signal where
  localNumber := c.localNumber
  password := c.password
  counter := counter
  getMethod := method
  getLocation := location
  getBody := none
  length_getBody _ h := absurd h (Option.not_mem_none _)

/-- A signal about a session. -/
def ofSession (method : String) (counter sessionId : Int) : Signal :=
  c.bodiless counter (ofString method) (ofString "/session/" ++ ofInt sessionId)

def ringingSignal (counter sessionId : Int) : Signal := c.ofSession "RING" counter sessionId

def hangupSignal (counter sessionId : Int) : Signal := c.ofSession "DELETE" counter sessionId

def busySignal (counter sessionId : Int) : Signal := c.ofSession "BUSY" counter sessionId

/-- The number has been formatted by the constructor. -/
def initiateSignal (counter : Int) (remoteNumber : JavaString) : Signal :=
  c.bodiless counter (ofString "GET") (ofString "/session/1/" ++ remoteNumber)

def signalPreferenceSignal (preference : JavaString) : Signal :=
  c.bodiless (-1) (ofString "PUT") (ofString "/users/signaling_method/" ++ preference)

def gcmRegistrationSignal (registrationId : JavaString) : Signal :=
  c.bodiless (-1) (ofString "PUT") (ofString "/gcm/" ++ registrationId)

def gcmUnregistrationSignal (registrationId : JavaString) : Signal :=
  c.bodiless (-1) (ofString "DELETE") (ofString "/gcm/" ++ registrationId)

def c2dmRegistrationSignal (registrationId : JavaString) : Signal :=
  c.bodiless (-1) (ofString "PUT") (ofString "/c2dm/" ++ registrationId)

def c2dmUnregistrationSignal : Signal := c.bodiless (-1) (ofString "DELETE") (ofString "/c2dm")

def directoryRequestSignal : Signal :=
  c.bodiless (-1) (ofString "GET") (ofString "/users/directory")

def createAccountSignal (voice : Bool) : Signal :=
  c.bodiless (-1) (ofString "GET")
    (ofString (if voice then "/users/verification/voice" else "/users/verification/sms"))

def verifyAccountSignal (gson : Gson) (challenge key : JavaString) : Signal where
  localNumber := c.localNumber
  password := c.password
  counter := -1
  getMethod := ofString "PUT"
  getLocation := ofString "/users/verification/" ++ orNull c.localNumber
  getBody := some (gson.toJson key challenge)
  length_getBody _ h := Option.some.inj h ▸ gson.length_toJson key challenge

end SignalingSocket

/-! ## The methods -/

/-- A method that sends a signal and judges the response to it. -/
structure Exchange where
  /-- Whether the signal takes a counter. -/
  counted : Bool
  /-- The constructor of the signal. -/
  signal : Int → Java Signal
  judge : SignalResponse → Except SocketFailure Answer
  /-- Whether there is `catch (SignalingException se) {}` around it all. -/
  silent : Bool

/-- `new SignalingException("Unknown response: " + response.getStatusCode())`. -/
def unknownResponse (response : SignalResponse) : SocketFailure :=
  .signaling (.signaling (Text.ofString "Unknown response: " ++ Text.ofInt response.statusCode))

/-- The switch of the methods that register something. -/
def judgeRegistration (response : SignalResponse) : Except SocketFailure Answer :=
  if response.statusCode = 200 then .ok .done
  else .error (.signaling (.signaling
    (Text.ofString "Received error from server: " ++ Text.decodeUtf8 response.body)))

/-- The switch of the methods that create an account. -/
def judgeAccount (limit failed : String) (response : SignalResponse) :
    Except SocketFailure Answer :=
  if response.statusCode = 200 then .ok .done
  else if response.statusCode = 413 then .error (.rateLimitExceeded (Text.ofString limit))
  else .error (.accountCreation (Text.ofString failed ++ Text.ofInt response.statusCode))

namespace SignalingSocket

variable (c : SignalingSocket)

def initiateConnection {PhoneNumber : Type} (util : PhoneNumberUtil PhoneNumber)
    (preference : Option JavaString) (gson : Gson) (remoteNumber : JavaString) : Exchange where
  counted := true
  signal counter := do
    -- The number is formatted before the signal is made.
    let remoteNumber ← PhoneNumberFormatter.formatNumber util preference remoteNumber
    .ok (c.initiateSignal counter remoteNumber)
  judge response :=
    if response.statusCode = 404 then
      .error (.noSuchUser (Text.ofString "No such redphone user."))
    else if response.statusCode = 402 then
      .error (.serverMessage (Text.decodeUtf8 response.body))
    else if response.statusCode = 401 then
      .error (.loginFailed (Text.ofString "Initiate threw 401"))
    else if response.statusCode = 200 then
      -- What is no session is an exception that nobody declares.
      match gson.fromJson (Text.decodeUtf8 response.body) with
      | some descriptor => .ok (.session descriptor)
      | none => .error .json
    else .error (unknownResponse response)
  silent := false

def setRinging (sessionId : Int) : Exchange where
  counted := true
  signal counter := .ok (c.ringingSignal counter sessionId)
  judge response :=
    if response.statusCode = 404 then
      .error (.sessionStale (Text.ofString "No such session: " ++ Text.ofInt sessionId))
    else if response.statusCode = 401 then
      .error (.loginFailed (Text.ofString "Ringing threw 401"))
    else if response.statusCode = 200 then .ok .done
    else .error (unknownResponse response)
  silent := false

def setHangup (sessionId : Int) : Exchange where
  counted := true
  signal counter := .ok (c.hangupSignal counter sessionId)
  -- The response is read and not looked at.
  judge _ := .ok .done
  silent := true

def setBusy (sessionId : Int) : Exchange where
  counted := true
  signal counter := .ok (c.busySignal counter sessionId)
  judge _ := .ok .done
  silent := false

/-- A method that registers something. -/
def registration (signal : Signal) : Exchange where
  counted := false
  signal _ := .ok signal
  judge := judgeRegistration
  silent := false

def registerSignalingPreference (preference : JavaString) : Exchange :=
  registration (c.signalPreferenceSignal preference)

def registerGcm (registrationId : JavaString) : Exchange :=
  registration (c.gcmRegistrationSignal registrationId)

def unregisterGcm (registrationId : JavaString) : Exchange :=
  registration (c.gcmUnregistrationSignal registrationId)

def registerC2dm (registrationId : JavaString) : Exchange :=
  registration (c.c2dmRegistrationSignal registrationId)

def unregisterC2dm : Exchange := registration c.c2dmUnregistrationSignal

def getNumberFilter : Exchange where
  counted := false
  signal _ := .ok c.directoryRequestSignal
  judge response := .ok (.directory (RedPhone.getNumberFilter response))
  silent := false

/-- `AccountCreationSocket.createAccount`. -/
def createAccount (voice : Bool) : Exchange where
  counted := false
  signal _ := .ok (c.createAccountSignal voice)
  judge := judgeAccount "Rate limit exceeded." "Account creation failed: "
  silent := false

/-- `AccountCreationSocket.verifyAccount`. -/
def verifyAccount (gson : Gson) (challenge key : JavaString) : Exchange where
  counted := false
  signal _ := .ok (c.verifyAccountSignal gson challenge key)
  judge := judgeAccount "Verify rate exceeded!" "Account verification failed: "
  silent := false

end SignalingSocket

/-! ## Conversations -/

/-- The connection, the preference that holds the counter, and what the methods
    have come to. There is no connection to go on with where a method waits for
    a response that does not come, or a read was made that cannot be. -/
structure Session (σ : Type) where
  source : Except (Stop SignalingFailure) σ
  sent : Bytes
  counter : Option Int
  outcomes : List (Except SocketFailure Answer)

/-- How responses and signals are read off a connection, and what waiting for a
    signal does to it. -/
structure Wire (σ : Type) where
  response : EStateM (Stop SignalingFailure) σ SignalResponse
  signal : EStateM (Stop SignalingFailure) σ ServerSignal
  wait : σ → Except (Stop SignalingFailure) σ

/-- What `waitForSignal` leaves. It puts a portion into the buffer, or lets its
    timeout pass, as it does where there is no read to come. -/
def waited (s : Source UInt8) : Except (Stop SignalingFailure) (Source UInt8) :=
  match SignalListener.waitForSignal s with
  | .ok (_, s') => .ok s'
  -- The stream has no read to come: the listener stays as it is.
  | .error .waits => .ok s
  | .error stop => .error stop

/-- Off a socket, which returns portions. -/
def socketWire : Wire (Source UInt8) :=
  ⟨Resuming.readSignalResponse, Resuming.readSignal, waited⟩

/-- Off the stream in one piece, of which waiting takes nothing. -/
def streamWire : Wire Bytes :=
  ⟨Resuming.readSignalResponse.onStream, Resuming.readSignal.onStream, .ok⟩

namespace Exchange

/-- The signal, with a counter if it takes one, and the preference then. -/
def construct (c : SignalingSocket) (x : Exchange) (preference : Option Int) :
    Java Signal × Option Int :=
  if x.counted then
    -- The preference is written before the signal is made, so a counter can be
    -- lost.
    if c.counterProvider then
      (x.signal (OtpCounterProvider.getOtpCounter preference).1,
        (OtpCounterProvider.getOtpCounter preference).2)
    else (Java.raise .nullPointer, preference)
  else (x.signal (-1), preference)

/-- The text of the signal. -/
def text (c : SignalingSocket) (x : Exchange) (preference : Option Int) : Java JavaString := do
  let signal ← (x.construct c preference).1
  signal.serialize

/-- Whether `catch (SignalingException se) {}` is around it. -/
def finish (x : Exchange) : Except SocketFailure Answer → Except SocketFailure Answer
  | .error (.signaling (.signaling message)) =>
    if x.silent then .ok .done else .error (.signaling (.signaling message))
  | .error (.signaling (.signalingIo message)) =>
    if x.silent then .ok .done else .error (.signaling (.signalingIo message))
  | outcome => outcome

end Exchange

/-- Keep what a reader has come to, and what it leaves. Who has thrown leaves
    the connection to the next. -/
def Session.settle {σ α : Type} (s : Session σ)
    (r : EStateM.Result (Stop SignalingFailure) σ α)
    (judge : Except SignalingFailure α → Except SocketFailure Answer) : Session σ :=
  match r with
  | .ok a source => { s with source := .ok source, outcomes := s.outcomes ++ [judge (.ok a)] }
  -- An exception leaves the source where the read had come to.
  | .error (.threw e) source =>
    { s with source := .ok source, outcomes := s.outcomes ++ [judge (.error e)] }
  | .error .waits _ => { s with source := .error .waits }
  | .error .impossible _ => { s with source := .error .impossible }

/-- What a method makes of a response, or of the exception there was instead. -/
def Exchange.judged (x : Exchange) : Except SignalingFailure SignalResponse →
    Except SocketFailure Answer
  | .ok response => x.finish (x.judge response)
  | .error e => x.finish (.error (.signaling e))

/-- A method is called, and `broken` is what its write throws, if it does. -/
def Session.exchange {σ : Type} (wire : Wire σ) (c : SignalingSocket) (s : Session σ)
    (x : Exchange) (broken : Option String) : Session σ :=
  match s.source with
  | .error _ => s
  | .ok source =>
    match x.text c s.counter, broken with
    -- A signal that cannot be written out is not sent, but its counter is gone.
    | .error e, _ =>
      { s with
        counter := (x.construct c s.counter).2
        outcomes := s.outcomes ++ [x.finish (.error (.java e))] }
    -- A write that fails leaves the response of the method unread.
    | .ok _, some message =>
      { s with
        counter := (x.construct c s.counter).2
        outcomes := s.outcomes ++ [x.finish (.error (.signaling (.signalingIo message)))] }
    | .ok text, none =>
      { s with
        counter := (x.construct c s.counter).2
        sent := s.sent ++ text.getBytes }.settle (wire.response source) x.judged

/-- `sendOkResponse`. -/
def OK_RESPONSE : Bytes := ascii "HTTP/1.0 200 OK\r\nContent-Length: 0\r\n\r\n"

/-- What the listener makes of a signal, once it is acknowledged. -/
def heard (broken : Option String) : Except SignalingFailure ServerSignal →
    Except SocketFailure Answer
  | .error e => .error (.signaling e)
  | .ok signal =>
    match broken with
    | some message => .error (.signaling (.signalingIo message))
    | none => .ok (.heard signal)

/-- The listener reads a signal and acknowledges it. -/
def Session.hear {σ : Type} (wire : Wire σ) (s : Session σ) (broken : Option String) :
    Session σ :=
  match s.source with
  | .error _ => s
  | .ok source =>
    match wire.signal source with
    | .error e left => s.settle (.error e left) (heard broken)
    -- It is acknowledged as soon as it has been read.
    | .ok signal left =>
      { s with sent := s.sent ++ (if broken.isNone then OK_RESPONSE else []) }.settle
        (.ok signal left) (heard broken)

/-- The listener waits for a signal. What it is told depends on the portions,
    and is not kept; `broken` is what the socket throws, if it does. -/
def Session.wait {σ : Type} (wire : Wire σ) (s : Session σ) (broken : Option String) :
    Session σ :=
  match s.source with
  | .error _ => s
  | .ok source =>
    match broken with
    | some message =>
      { s with outcomes := s.outcomes ++ [.error (.signaling (.signalingIo message))] }
    | none => { s with source := wire.wait source }

/-- A part of a conversation. -/
inductive Part
  | call (x : Exchange) (broken : Option String)
  | wait (broken : Option String)
  | hear (broken : Option String)

def Session.play {σ : Type} (wire : Wire σ) (c : SignalingSocket) (s : Session σ) :
    Part → Session σ
  | .call x broken => s.exchange wire c x broken
  | .wait broken => s.wait wire broken
  | .hear broken => s.hear wire broken

/-- A conversation. -/
def converse {σ : Type} (wire : Wire σ) (c : SignalingSocket) (s : Session σ)
    (parts : List Part) : Session σ := parts.foldl (Session.play wire c) s

theorem converse_cons {σ : Type} (wire : Wire σ) (c : SignalingSocket) (s : Session σ)
    (part : Part) (parts : List Part) :
    converse wire c s (part :: parts) = converse wire c (s.play wire c part) parts := rfl

/-- The conversation goes on with what follows. -/
theorem converse_append {σ : Type} (wire : Wire σ) (c : SignalingSocket) (s : Session σ)
    (parts later : List Part) :
    converse wire c s (parts ++ later) = converse wire c (converse wire c s parts) later :=
  List.foldl_append

/-- A conversation in which a method waits for good is over. -/
theorem converse_ended {σ : Type} (wire : Wire σ) (c : SignalingSocket) (s : Session σ)
    {e : Stop SignalingFailure} (hended : s.source = .error e) (parts : List Part) :
    converse wire c s parts = s := by
  induction parts with
  | nil => rfl
  | cons part parts ih =>
      have hplay : s.play wire c part = s := by
        cases part with
        | call x broken => simp only [Session.play, Session.exchange, hended]
        | wait broken => simp only [Session.play, Session.wait, hended]
        | hear broken => simp only [Session.play, Session.hear, hended]
      rw [converse_cons, hplay]
      exact ih

end RedPhone
