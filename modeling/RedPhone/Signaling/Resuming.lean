import RedPhone.Lib.Keeping
import RedPhone.Signaling.SignalResponseReader

/-!
# Reading On After an Exception

The methods of a socket share one `LineReader`, and one that throws leaves it
where it has come to. A request that is none, or a line without a status, has
been taken, and the next method begins behind it, with the headers. A length
that is negative is found behind the headers, and a session that is no number
behind the body.

The end of the connection is the exception. A line that is not finished stays
in the buffer with all that has come. A body that is not finished has been
copied out of the buffer by then, and is lost.

The readers are written once more here, as ones that leave a source behind
however they end, and each is the one it is named after.

## Main definitions

* `Resuming.readLine`, `Resuming.readFully`: The methods of the `LineReader`.
* `Resuming.readSignal`, `Resuming.readSignalResponse`: Those of the socket.

## Theorems

* `Resuming.forget_readSignal`, `Resuming.forget_readSignalResponse`: They read
  what the methods read.
* `Resuming.seamless_readSignal`, `Resuming.seamless_readSignalResponse`: What
  they leave does not depend on the portions either.
* `Resuming.readSignalResponse_strange`: What is left behind a line without a
  status.
-/

namespace RedPhone

open Reading LineReader SignalReader

namespace Resuming

/-- A reader of bytes that leaves a source behind. -/
abbrev ByteKeeper (α : Type) := Keeper SignalingFailure UInt8 α

/-- The reads behind the end of the connection. -/
def behindEnd (reads : List (Read UInt8)) : List (Read UInt8) :=
  (reads.dropWhile (· ≠ .eof)).tail

/-- A line that is not finished stays in the buffer. -/
def unfinishedLine (s : Source UInt8) : Source UInt8 :=
  ⟨s.buffered ++ arriving (beforeEnd s.reads), behindEnd s.reads⟩

/-- A body that is not finished does not, as `baos.reset()` comes first. One of
    a negative length is not begun. -/
def unfinishedBody (size : Int) (s : Source UInt8) : Source UInt8 :=
  if size < 0 then s else ⟨[], behindEnd s.reads⟩

def readLine : ByteKeeper (List Nat) := keeping unfinishedLine LineReader.readLine

def readFully (size : Int) : ByteKeeper Bytes :=
  keeping (unfinishedBody size) (LineReader.readFully size)

def readSignalRequest : ByteKeeper (List (List Nat)) := do
  let requestLine ← readLine
  -- What is strange is found when the line has been taken.
  if requestLine.length = 0 then
    Keeper.ofExcept (.error (.signaling (Text.ofString "Server failure.")))
  else
    let request := Text.split requestLine
    if request.length ≠ 3 then
      Keeper.ofExcept (.error (.signaling (Text.ofString "Got strange request: " ++ requestLine)))
    else return request

/-- Read headers until there is an empty line. -/
def readHeadersFrom (headers : List (List Nat × List Nat)) :
    ByteKeeper (List (List Nat × List Nat)) := fun s =>
  match _h : readLine s with
  | .error e left => .error e left
  | .ok header s' =>
    if header.length = 0 then .ok headers s' else readHeadersFrom (putHeader headers header) s'
termination_by s => s.remaining
decreasing_by exact readLine_shorter ((forget_keeping _ _ ▸ Keeper.forget_ok).mpr _h)

def readSignalHeaders : ByteKeeper (List (List Nat × List Nat)) := readHeadersFrom []

def readSignalBody (headers : List (List Nat × List Nat)) : ByteKeeper Bytes :=
  match headers.lookup (Text.ofString "Content-Length") with
  | none => return []
  | some contentLengthString =>
    match Text.parseInt contentLengthString with
    -- A length that is no number is passed over like one that is not there.
    | none => return []
    | some contentLength => if contentLength ≠ 0 then readFully contentLength else return []

/-- `SignalingSocket.readSignal`. -/
def readSignal : ByteKeeper ServerSignal := Keeper.mapThrown SignalingFailure.wrapped do
  let request ← readSignalRequest
  let headers ← readSignalHeaders
  let body ← readSignalBody headers
  Keeper.ofExcept (ServerSignal.create (Text.trim (request.getD 0 []))
    (Text.trim (request.getD 1 [])) body)

def readSignalResponseCode : ByteKeeper Int := do
  let responseLine ← readLine
  Keeper.ofExcept (statusOf responseLine)

/-- `SignalingSocket.readSignalResponse`. -/
def readSignalResponse : ByteKeeper SignalResponse :=
  Keeper.mapThrown SignalingFailure.wrapped do
    let responseCode ← readSignalResponseCode
    let headers ← readSignalHeaders
    let body ← readSignalBody headers
    return ⟨responseCode, headers, body⟩

/-! ## What they read -/

theorem forget_readSignalRequest :
    readSignalRequest.forget = SignalReader.readSignalRequest := by
  unfold readSignalRequest SignalReader.readSignalRequest
  rw [forget_bind, readLine, forget_keeping]
  refine congrArg _ (funext fun requestLine => ?_)
  by_cases hempty : requestLine.length = 0
  · rw [if_pos hempty, if_pos hempty]
    exact forget_ofExcept _
  · rw [if_neg hempty, if_neg hempty]
    dsimp only
    by_cases hstrange : (Text.split requestLine).length ≠ 3
    · rw [if_pos hstrange, if_pos hstrange]
      exact forget_ofExcept _
    · rw [if_neg hstrange, if_neg hstrange]
      exact forget_pure _

theorem readHeadersFrom_eq (headers : List (List Nat × List Nat)) :
    readHeadersFrom headers = readLine >>= fun header =>
      if header.length = 0 then return headers
      else readHeadersFrom (putHeader headers header) := by
  funext s
  rw [readHeadersFrom, Keeper.bind_eq]
  cases readLine s with
  | error e left => rfl
  | ok header s' =>
      dsimp only
      split
      · rfl
      · rfl

/-- Line by line, and each line leaves less to read. -/
theorem forget_readHeadersFrom (headers : List (List Nat × List Nat)) :
    Keeper.forget (readHeadersFrom headers) = SignalReader.readHeadersFrom headers := by
  funext s
  -- The induction is on what remains to be read, of which each line takes some.
  induction hleft : s.remaining using Nat.strongRecOn generalizing s headers with
  | ind n ih =>
      rw [readHeadersFrom_eq, SignalReader.readHeadersFrom_eq, forget_bind, readLine,
        forget_keeping, bind_eq, bind_eq]
      cases hline : LineReader.readLine s with
      | error e => rfl
      | ok r =>
          rcases r with ⟨header, s'⟩
          dsimp only
          by_cases hempty : header.length = 0
          · rw [if_pos hempty, if_pos hempty]
            rfl
          · rw [if_neg hempty, if_neg hempty]
            exact ih _ (hleft ▸ readLine_shorter hline) _ s' rfl

theorem forget_readSignalBody (headers : List (List Nat × List Nat)) :
    (readSignalBody headers).forget = SignalReader.readSignalBody headers := by
  unfold readSignalBody SignalReader.readSignalBody
  cases headers.lookup (Text.ofString "Content-Length") with
  | none => rfl
  | some contentLengthString =>
      dsimp only
      cases Text.parseInt contentLengthString with
      | none => rfl
      | some contentLength =>
          dsimp only
          by_cases hzero : contentLength ≠ 0
          · rw [if_pos hzero, if_pos hzero]
            exact forget_keeping _ _
          · rw [if_neg hzero, if_neg hzero]
            rfl

/-- The methods come to what they have come to before. -/
theorem forget_readSignal : readSignal.forget = RedPhone.readSignal := by
  unfold readSignal RedPhone.readSignal
  rw [forget_mapThrown, forget_bind, forget_readSignalRequest]
  refine congrArg _ (congrArg _ (funext fun request => ?_))
  rw [forget_bind, readSignalHeaders, forget_readHeadersFrom]
  refine congrArg _ (funext fun headers => ?_)
  rw [forget_bind, forget_readSignalBody]
  exact congrArg _ (funext fun body => forget_ofExcept _)

theorem forget_readSignalResponse :
    readSignalResponse.forget = RedPhone.readSignalResponse := by
  unfold readSignalResponse RedPhone.readSignalResponse
  have hcode : readSignalResponseCode.forget = SignalResponseReader.readSignalResponseCode := by
    unfold readSignalResponseCode SignalResponseReader.readSignalResponseCode
    rw [forget_bind, readLine, forget_keeping]
    exact congrArg _ (funext fun responseLine => forget_ofExcept _)
  rw [forget_mapThrown, forget_bind, hcode]
  refine congrArg _ (congrArg _ (funext fun responseCode => ?_))
  rw [forget_bind, readSignalHeaders, forget_readHeadersFrom]
  refine congrArg _ (funext fun headers => ?_)
  rw [forget_bind, forget_readSignalBody]
  rfl

/-! ## What they leave -/

/-- Where nothing can be thrown nothing is left behind. -/
theorem seamless_readLine : Seamless readLine := by
  refine seamless_keeping parses_readLine_exact fun s e hflowing hthrew => ?_
  -- Looking for a line throws nothing on a connection that is not closed.
  cases parses_readLine_exact s.buffered s.reads hflowing with
  | impossible _ hend _ => simp only [hend, Except.error.injEq, reduceCtorEq] at hthrew
  | waits _ hend _ => simp only [hend, Except.error.injEq, reduceCtorEq] at hthrew
  | threw e hfound _ => exact absurd hfound (Parse.ofFound_error _ e)
  | returns a left rest _ _ hend =>
      have hend := hend []
      rw [List.append_nil, List.append_nil] at hend
      simp only [hend, reduceCtorEq] at hthrew

/-- A length that is negative is found before anything is read. -/
theorem seamless_readFully (size : Int) : Seamless (readFully size) := by
  refine seamless_keeping (parses_readFully_exact size) fun s e hflowing hthrew => ?_
  unfold unfinishedBody
  by_cases hnegative : size < 0
  · rw [if_pos hnegative]
  -- Otherwise bytes are looked for, and that throws nothing either.
  · exfalso
    cases parses_readFully_exact size s.buffered s.reads hflowing with
    | impossible _ hend _ => simp only [hend, Except.error.injEq, reduceCtorEq] at hthrew
    | waits _ hend _ => simp only [hend, Except.error.injEq, reduceCtorEq] at hthrew
    | threw e hfound _ =>
        unfold takeBody at hfound
        rw [if_neg hnegative] at hfound
        split at hfound
        · simp only [Option.some.injEq, reduceCtorEq] at hfound
        · simp only [reduceCtorEq] at hfound
    | returns a left rest _ _ hend =>
        have hend := hend []
        rw [List.append_nil, List.append_nil] at hend
        simp only [hend, reduceCtorEq] at hthrew

theorem seamless_readSignalRequest : Seamless readSignalRequest := by
  refine seamless_bind seamless_readLine fun requestLine => ?_
  by_cases hempty : requestLine.length = 0
  · rw [if_pos hempty]
    exact seamless_ofExcept _
  · rw [if_neg hempty]
    dsimp only
    by_cases hstrange : (Text.split requestLine).length ≠ 3
    · rw [if_pos hstrange]
      exact seamless_ofExcept _
    · rw [if_neg hstrange]
      exact seamless_pure _

theorem seamless_readHeadersFrom (headers : List (List Nat × List Nat)) :
    Seamless (readHeadersFrom headers) := by
  intro s
  induction hleft : s.remaining using Nat.strongRecOn generalizing s headers with
  | ind n ih =>
      rw [readHeadersFrom_eq]
      refine seamlessAt_bind (seamless_readLine s) fun header s' hline => ?_
      by_cases hempty : header.length = 0
      · rw [if_pos hempty]
        exact seamless_pure headers s'
      · rw [if_neg hempty]
        -- A line has been taken, so less remains.
        have hread : LineReader.readLine s = .ok (header, s') := by
          rw [← forget_keeping unfinishedLine LineReader.readLine]
          exact Keeper.forget_ok.mpr hline
        exact ih _ (hleft ▸ readLine_shorter hread) _ s' rfl

theorem seamless_readSignalBody (headers : List (List Nat × List Nat)) :
    Seamless (readSignalBody headers) := by
  unfold readSignalBody
  cases headers.lookup (Text.ofString "Content-Length") with
  | none => exact seamless_pure _
  | some contentLengthString =>
      dsimp only
      cases Text.parseInt contentLengthString with
      | none => exact seamless_pure _
      | some contentLength =>
          dsimp only
          by_cases hzero : contentLength ≠ 0
          · rw [if_pos hzero]
            exact seamless_readFully contentLength
          · rw [if_neg hzero]
            exact seamless_pure _

/-- What is left of the stream behind a signal, or behind what was thrown
    instead, does not depend on the portions it has arrived in. -/
theorem seamless_readSignal : Seamless readSignal := by
  refine seamless_mapThrown _ (seamless_bind seamless_readSignalRequest fun request => ?_)
  -- Line, headers and body follow each other, and each is seamless.
  refine seamless_bind (seamless_readHeadersFrom []) fun headers => ?_
  exact seamless_bind (seamless_readSignalBody headers) fun body => seamless_ofExcept _

theorem seamless_readSignalResponse : Seamless readSignalResponse := by
  have hcode : Seamless readSignalResponseCode :=
    seamless_bind seamless_readLine fun responseLine => seamless_ofExcept _
  refine seamless_mapThrown _ (seamless_bind hcode fun responseCode => ?_)
  refine seamless_bind (seamless_readHeadersFrom []) fun headers => ?_
  exact seamless_bind (seamless_readSignalBody headers) fun body => seamless_pure _

/-! ## In one piece -/

/-- A response that is there is read, and what lies behind it is left. -/
theorem readSignalResponse_whole {w left : Bytes} {response : SignalResponse}
    (h : takeResponse w = some (.ok (response, left))) :
    readSignalResponse ⟨w, []⟩ = .ok response ⟨left, []⟩ := by
  refine Keeper.forget_ok.mp ?_
  rw [forget_readSignalResponse, parses_readSignalResponse.whole, Parse.run_ok.mpr h]
  rfl

/-- So is a signal. -/
theorem readSignal_whole {w left : Bytes} {signal : ServerSignal}
    (h : takeSignal w = some (.ok (signal, left))) :
    readSignal ⟨w, []⟩ = .ok signal ⟨left, []⟩ := by
  refine Keeper.forget_ok.mp ?_
  rw [forget_readSignal, parses_readSignal.whole, Parse.run_ok.mpr h]
  rfl

/-- Of a line without a status nothing is left, and of the rest everything. -/
theorem readSignalResponse_strange {w rest : Bytes} {line : List Nat} {message : List Nat}
    (hline : takeLine w = some (line, rest))
    (hstatus : statusOf line = .error (.signaling message)) :
    readSignalResponse ⟨w, []⟩ = .error (.threw (.signaling message)) ⟨rest, []⟩ := by
  have hread : readLine ⟨w, []⟩ = .ok line ⟨rest, []⟩ := by
    refine Keeper.forget_ok.mp ?_
    rw [readLine, forget_keeping, parses_readLine_exact.whole,
      Parse.run_ok.mpr (Parse.ofFound_some hline)]
    rfl
  -- The line has been taken, and the headers are not come to.
  have hcode : readSignalResponseCode ⟨w, []⟩
      = .error (.threw (.signaling message)) ⟨rest, []⟩ := by
    rw [readSignalResponseCode, Keeper.bind_eq, hread]
    change Keeper.ofExcept (statusOf line) _ = _
    rw [hstatus]
    rfl
  rw [readSignalResponse, Keeper.mapThrown, Keeper.bind_eq, hcode]
  rfl

end Resuming

end RedPhone
