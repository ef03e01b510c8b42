import RedPhone.Call.CallManager
import RedPhone.Util.LineReader

/-!
# Signals from the Server

A signal is a request of three words, headers down to an empty line, and a body
as long as the header `Content-Length` says, which nothing looks at. The second
word names the session a signal is about.

## Main definitions

* `ServerSignal`: A signal.
* `ServerSignal.notify`: The callback the listener makes for it.
* `SignalReader.readSignalRequest`, `SignalReader.readSignalHeaders`,
  `SignalReader.readSignalBody`: The three parts.
* `readSignal`: A signal off the connection.
* `WellFormed`: The bytes of a signal.

## Theorems

* `steady_readSignalHeaders`: Headers do not depend on the portions they arrive
  in.
* `steady_readSignal`: Nor do signals.
* `consumes_readSignal`: A signal uses up the reads that brought it.
* `takes_of_wellFormed`: The listener's reader takes a well-formed signal.
-/

namespace RedPhone

open Reading LineReader

/-- A signal from the server. -/
structure ServerSignal where
  verb : List Nat
  target : List Nat
  body : Bytes
  /-- The session, or -1. -/
  sessionId : Int
  deriving DecidableEq, Repr

namespace ServerSignal

/-- What the target of a signal about a session begins with. -/
def SESSION : List Nat := Text.ofString "/session/"

/-- The constructor. It reads the session off the target. -/
def create (verb target : List Nat) (body : Bytes) : Except SignalingFailure ServerSignal :=
  -- Other targets, such as those of keep-alives, name no session.
  if SESSION <+: target then
    match Text.parseLong (Text.trim (target.drop SESSION.length)) with
    | some sessionId => .ok ⟨verb, target, body, sessionId⟩
    | none => .error .numberFormat
  else .ok ⟨verb, target, body, -1⟩

def isKeepAlive (signal : ServerSignal) : Bool :=
  signal.verb = Text.ofString "GET" ∧ Text.ofString "/keepalive" <+: signal.target

def isRinging (signal : ServerSignal) (sessionId : Int) : Bool :=
  signal.verb = Text.ofString "RING" ∧ signal.sessionId ≠ -1 ∧ signal.sessionId = sessionId

def isHangup (signal : ServerSignal) (sessionId : Int) : Bool :=
  signal.verb = Text.ofString "DELETE" ∧ signal.sessionId ≠ -1 ∧ signal.sessionId = sessionId

def isBusy (signal : ServerSignal) (sessionId : Int) : Bool :=
  signal.verb = Text.ofString "BUSY" ∧ signal.sessionId ≠ -1 ∧ signal.sessionId = sessionId

/-- The callback the listener of a session makes for a signal. -/
def notify (signal : ServerSignal) (sessionId : Int) : Option CallStateListener :=
  if signal.isHangup sessionId then some .notifyCallDisconnected
  else if signal.isRinging sessionId then some .notifyCallRinging
  else if signal.isBusy sessionId then some .notifyBusy
  else none

end ServerSignal

namespace SignalReader

/-- The words of the request line. -/
def readSignalRequest : ByteReader (List (List Nat)) := do
  let requestLine ← readLine
  -- An empty request line counts as a failure of the server.
  if requestLine.length = 0 then threw (.signaling (Text.ofString "Server failure."))
  else
    let request := Text.split requestLine
    if request.length ≠ 3 then
      threw (.signaling (Text.ofString "Got strange request: " ++ requestLine))
    else return request

/-- `headers.put(...)`, for a line of two parts. -/
def putHeader (headers : List (List Nat × List Nat)) (header : List Nat) :
    List (List Nat × List Nat) :=
  match Text.splitAt 0x3a header with
  | [key, value] =>
    (Text.trim key, Text.trim value) :: headers.filter (·.1 ≠ Text.trim key)
  -- A line of any other number of parts is passed over.
  | _ => headers

/-- Read headers until there is an empty line. -/
def readHeadersFrom (headers : List (List Nat × List Nat)) (s : Source UInt8) :
    Except (Stop SignalingFailure) (List (List Nat × List Nat) × Source UInt8) :=
  match _h : readLine s with
  | .error e => .error e
  | .ok (header, s') =>
    if header.length = 0 then .ok (headers, s')
    else readHeadersFrom (putHeader headers header) s'
termination_by s.remaining
decreasing_by exact readLine_shorter ‹_›

def readSignalHeaders : ByteReader (List (List Nat × List Nat)) := readHeadersFrom []

/-- A body whose length cannot be read is empty. -/
def readSignalBody (headers : List (List Nat × List Nat)) : ByteReader Bytes :=
  match headers.lookup (Text.ofString "Content-Length") with
  | none => return []
  | some contentLengthString =>
    match Text.parseInt contentLengthString with
    -- The exception is logged and the signal goes on without a body.
    | none => return []
    | some contentLength =>
      if contentLength ≠ 0 then readFully contentLength else return []

theorem readHeadersFrom_eq (headers : List (List Nat × List Nat)) :
    (readHeadersFrom headers : ByteReader _) = readLine >>= fun header =>
      if header.length = 0 then return headers
      else readHeadersFrom (putHeader headers header) := by
  funext s
  rw [readHeadersFrom, bind_eq]
  cases readLine s with
  | error e => rfl
  | ok p =>
      dsimp only
      split
      · rfl
      · rfl

theorem steady_readSignalRequest : Steady readSignalRequest := by
  refine steady_bind steady_readLine fun requestLine => ?_
  -- The two refusals read nothing further.
  split
  · exact steady_threw _
  · dsimp only
    split
    · exact steady_threw _
    · exact steady_pure _

/-- Line by line, and each line is shorter by two bytes at least. -/
theorem steady_readHeadersFrom (headers : List (List Nat × List Nat)) :
    Steady (readHeadersFrom headers : ByteReader _) := by
  intro w
  -- The induction is on the bytes that are left, since the headers in hand only
  -- grow.
  induction hlength : w.length using Nat.strongRecOn generalizing w headers with
  | ind n ih =>
      rw [readHeadersFrom_eq]
      refine steadyAt_bind (steady_readLine w) fun header left hline => ?_
      have hshorter := readLine_shorter hline
      rw [Source.remaining, Source.remaining, arriving_nil, List.append_nil, List.append_nil]
        at hshorter
      split
      · exact steady_pure headers left
      · exact ih left.length (by rw [← hlength]; exact hshorter) _ left rfl

theorem steady_readSignalHeaders : Steady readSignalHeaders := steady_readHeadersFrom []

theorem steady_readSignalBody (headers : List (List Nat × List Nat)) :
    Steady (readSignalBody headers) := by
  rw [readSignalBody]
  split
  · exact steady_pure _
  · split
    · exact steady_pure _
    · split
      · exact steady_readFully _
      · exact steady_pure _

theorem consumes_readSignalRequest : Consumes readSignalRequest := by
  refine consumes_bind consumes_readLine fun requestLine => ?_
  split
  · exact consumes_threw _
  · dsimp only
    split
    · exact consumes_threw _
    · exact consumes_pure _

theorem consumes_readHeadersFrom (headers : List (List Nat × List Nat)) :
    Consumes (readHeadersFrom headers : ByteReader _) := by
  intro s a s' h
  induction hleft : s.remaining using Nat.strongRecOn generalizing s headers with
  | ind n ih =>
      rw [readHeadersFrom_eq, bind_eq] at h
      cases hline : readLine s with
      | error e =>
          rw [hline] at h
          exact absurd h nofun
      | ok p =>
          rcases p with ⟨header, t⟩
          rw [hline] at h
          dsimp only at h
          have hreads := consumes_readLine s header t hline
          -- The empty line ends the headers; any other has read one byte or more.
          by_cases hempty : header.length = 0
          · rw [if_pos hempty] at h
            exact (consumes_pure headers t a s' h).trans hreads
          · rw [if_neg hempty] at h
            have hshorter := hleft ▸ readLine_shorter hline
            exact (ih t.remaining hshorter _ t h rfl).trans hreads

theorem consumes_readSignalBody (headers : List (List Nat × List Nat)) :
    Consumes (readSignalBody headers) := by
  rw [readSignalBody]
  split
  · exact consumes_pure _
  · split
    · exact consumes_pure _
    · split
      · exact consumes_readFully _
      · exact consumes_pure _

end SignalReader

open SignalReader

/-- An `IOException` leaves `readSignal` inside a `SignalingException`. -/
def SignalingFailure.wrapped : SignalingFailure → SignalingFailure
  | .io message => .signalingIo message
  | e => e

/-- `SignalingSocket.readSignal`. -/
def readSignal : ByteReader ServerSignal := mapThrown SignalingFailure.wrapped do
  let request ← readSignalRequest
  let headers ← readSignalHeaders
  let body ← readSignalBody headers
  ofExcept (ServerSignal.create (Text.trim (request.getD 0 [])) (Text.trim (request.getD 1 []))
    body)

/-- A signal is the same however it arrives. -/
theorem steady_readSignal : Steady readSignal := by
  refine steady_mapThrown _ (steady_bind steady_readSignalRequest fun request => ?_)
  refine steady_bind steady_readSignalHeaders fun headers => ?_
  exact steady_bind (steady_readSignalBody headers) fun body => steady_ofExcept _

theorem consumes_readSignal : Consumes readSignal := by
  refine consumes_mapThrown _ (consumes_bind consumes_readSignalRequest fun request => ?_)
  refine consumes_bind (consumes_readHeadersFrom []) fun headers => ?_
  exact consumes_bind (consumes_readSignalBody headers) fun body => consumes_ofExcept _

/-- The bytes of a signal: all that `readSignal` reads of them, if it has them
    in one piece, and nothing is missing. -/
def WellFormed (bytes : Bytes) (signal : ServerSignal) : Prop :=
  readSignal ⟨bytes, []⟩ = .ok (signal, ⟨[], []⟩)

theorem takes_of_wellFormed {bytes : Bytes} {signal : ServerSignal}
    (h : WellFormed bytes signal) : Takes readSignal bytes signal := by
  rcases steady_readSignal bytes signal _ h with ⟨taken, left, hleft, hbytes, htakes⟩
  -- Nothing is left over, so all the bytes are the signal's.
  have hnil : left = [] := (congrArg Source.buffered hleft).symm
  rw [hbytes, hnil, List.append_nil]
  exact htakes

end RedPhone
