import RedPhone.Signaling.SignalingSocket

/-!
# Conversations with the Server

What a conversation comes to does not depend on the portions in which the
bytes of the server arrive. A conversation over a socket sends, returns,
throws and leaves what the same conversation does over the stream in one
piece, for as long as the connection is not closed, whether its methods
succeed or throw. Waiting for a signal changes what is held and what is to
come, and nothing else. Each part is a step of its own, and the conversation
is the induction over its parts.

So if the server answers each request and sends its signals where they are
read, every method judges its own response. If it does not, nothing puts the
two in step again. Where a signal stands in the place of a response the method
that waits for the response has read one line when it throws, and the next one
begins with what is left of the signal.

## Main definitions

* `Session.flat`: A session whose bytes have come in one piece.
* `Session.Open`: The connection is not closed.
* `Sent`: What the server is sent.
* `Dialogue`: A conversation in which the server answers each request.

## Theorems

* `settle_refines`, `exchange_refines`, `wait_refines`, `hear_refines`: The
  parts of a conversation, on the socket and on the stream.
* `converse_refines`: A conversation depends on the stream alone.
* `converse_dialogue`: Every method judges its own response.
* `converse_of_dialogue`: However the responses and the signals arrive.
* `conversation_refines`: Whatever arrives.
* `signal_crossed`: A signal in the place of a response.
-/

namespace RedPhone

open Reading JavaString

/-! ## The socket and the stream -/

/-- The same session, with what is held and what comes in one piece. -/
def Session.flat (s : Session (Source UInt8)) : Session Bytes where
  source := s.source.map Source.pending
  sent := s.sent
  counter := s.counter
  outcomes := s.outcomes

theorem Session.flat_ok {s : Session (Source UInt8)} {w sent : Bytes} {counter : Option Int}
    {outcomes : List (Except SocketFailure Answer)}
    (h : s.flat = ⟨.ok w, sent, counter, outcomes⟩) :
    ∃ left, s = ⟨.ok left, sent, counter, outcomes⟩ ∧ left.pending = w := by
  rcases s with ⟨source, sent', counter', outcomes'⟩
  simp only [flat, mk.injEq] at h
  rcases h with ⟨hsource, rfl, rfl, rfl⟩
  cases source with
  | error e => simp only [Except.map, reduceCtorEq] at hsource
  | ok left => exact ⟨left, rfl, Except.ok.inj hsource⟩

/-- The connection is not closed. -/
def Session.Open (s : Session (Source UInt8)) : Prop :=
  ∀ source, s.source = .ok source → Flowing source.reads

/-- What a reader comes to is settled the same way, also where it throws. -/
theorem settle_refines {α : Type} {f : Resuming.ByteKeeper α} (hf : Seamless f)
    (s : Session (Source UInt8)) (source : Source UInt8) (hflowing : Flowing source.reads)
    (judge : Except SignalingFailure α → Except SocketFailure Answer)
    (hpossible : Possible (f source)) :
    (s.settle (f source) judge).flat = s.flat.settle (f.onStream source.pending) judge ∧
      (s.settle (f source) judge).Open := by
  rcases hf.refines hflowing hpossible with ⟨hstream, hopen⟩
  rw [hstream]
  cases hread : f source with
  | ok a left =>
      rw [hread] at hopen
      refine ⟨rfl, fun source' hsource' => ?_⟩
      exact Except.ok.inj hsource' ▸ hopen
  | error e left =>
      rw [hread] at hopen
      -- A wait and a read that cannot be leave nothing to read on from.
      cases e with
      | waits =>
          refine ⟨rfl, fun source' hsource' => ?_⟩
          simp only [Session.settle, reduceCtorEq] at hsource'
      | impossible => exact absurd hread (hpossible left)
      | threw e =>
          refine ⟨rfl, fun source' hsource' => ?_⟩
          exact Except.ok.inj hsource' ▸ hopen

/-- What cannot be cannot be read over. -/
theorem settle_impossible {σ α : Type} (s : Session σ)
    {r : EStateM.Result (Stop SignalingFailure) σ α}
    (judge : Except SignalingFailure α → Except SocketFailure Answer)
    (hpossible : (s.settle r judge).source ≠ .error .impossible) : Possible r := by
  rintro left rfl
  exact hpossible rfl

/-- A method, on the socket and on the stream. -/
theorem exchange_refines (c : SignalingSocket) (s : Session (Source UInt8)) (hopen : s.Open)
    (x : Exchange) (broken : Option String)
    (hpossible : (s.exchange socketWire c x broken).source ≠ .error .impossible) :
    (s.exchange socketWire c x broken).flat = s.flat.exchange streamWire c x broken ∧
      (s.exchange socketWire c x broken).Open := by
  rcases s with ⟨source, sent, counter, outcomes⟩
  cases source with
  | error e => exact ⟨rfl, hopen⟩
  | ok source =>
      unfold Session.exchange at hpossible ⊢
      simp only [Session.flat, Except.map] at hpossible ⊢
      -- Nothing is read where nothing has been sent.
      cases htext : x.text c counter with
      | error e => exact ⟨rfl, fun source' h => hopen source' h⟩
      | ok text =>
          cases broken with
          | some message => exact ⟨rfl, fun source' h => hopen source' h⟩
          | none =>
              simp only [htext] at hpossible
              exact settle_refines Resuming.seamless_readSignalResponse _ source
                (hopen source rfl) x.judged (settle_impossible _ _ hpossible)

/-- Waiting moves bytes into the buffer, and none is lost or made up. -/
theorem waited_cases (source : Source UInt8) (hflowing : Flowing source.reads) :
    (∃ left, waited source = .ok left ∧ left.pending = source.pending ∧
      Flowing left.reads) ∨ waited source = .error .impossible := by
  rcases source with ⟨buffered, reads⟩
  unfold waited SignalListener.waitForSignal LineReader.waitForAvailable
  cases reads with
  | nil => exact Or.inl ⟨_, rfl, rfl, hflowing⟩
  | cons r reads =>
      have hrest : Flowing reads := hflowing.suffix (List.suffix_cons r reads)
      cases r with
      | eof => exact absurd List.mem_cons_self hflowing
      -- A timeout is a read that brought nothing.
      | timeout => exact Or.inl ⟨_, rfl, rfl, hrest⟩
      | data portion =>
          by_cases hfits : Fits 500 portion
          · simp only [if_pos hfits]
            refine Or.inl ⟨_, rfl, ?_, hrest⟩
            unfold Source.pending
            rw [arriving_cons, List.append_assoc]
            rfl
          · refine Or.inr ?_
            simp only [if_neg hfits]

/-- The listener waits, on the socket and on the stream. -/
theorem wait_refines (s : Session (Source UInt8)) (hopen : s.Open) (broken : Option String)
    (hpossible : (s.wait socketWire broken).source ≠ .error .impossible) :
    (s.wait socketWire broken).flat = s.flat.wait streamWire broken ∧
      (s.wait socketWire broken).Open := by
  rcases s with ⟨source, sent, counter, outcomes⟩
  cases source with
  | error e => exact ⟨rfl, hopen⟩
  | ok source =>
      cases broken with
      | some message => exact ⟨rfl, fun source' h => hopen source' h⟩
      | none =>
          unfold Session.wait at hpossible ⊢
          simp only [Session.flat, Except.map, socketWire, streamWire] at hpossible ⊢
          rcases waited_cases source (hopen source rfl) with
            ⟨left, hwait, hpending, hopen'⟩ | hwait
          · simp only [hwait, hpending, true_and]
            intro source' hsource'
            exact Except.ok.inj hsource' ▸ hopen'
          · exact absurd hwait hpossible

/-- A signal that is heard, on the socket and on the stream. -/
theorem hear_refines (s : Session (Source UInt8)) (hopen : s.Open)
    (broken : Option String)
    (hpossible : (s.hear socketWire broken).source ≠ .error .impossible) :
    (s.hear socketWire broken).flat = s.flat.hear streamWire broken ∧
      (s.hear socketWire broken).Open := by
  rcases s with ⟨source, sent, counter, outcomes⟩
  cases source with
  | error e => exact ⟨rfl, hopen⟩
  | ok source =>
      unfold Session.hear at hpossible ⊢
      simp only [Session.flat, Except.map, socketWire, streamWire] at hpossible ⊢
      have hread : Possible (Resuming.readSignal source) := by
        intro left h
        rw [h] at hpossible
        exact hpossible rfl
      -- What is acknowledged does not change how the reading is settled.
      have hsettles := fun sent' => settle_refines Resuming.seamless_readSignal
        ⟨.ok source, sent', counter, outcomes⟩ source (hopen source rfl) (heard broken) hread
      have hrefines := (Resuming.seamless_readSignal.refines (hopen source rfl) hread).1
      rw [hrefines] at hsettles ⊢
      cases hsignal : Resuming.readSignal source with
      | error e left =>
          rw [hsignal] at hsettles
          exact hsettles sent
      | ok signal left =>
          rw [hsignal] at hsettles
          exact hsettles _

/-- One part of a conversation, on the socket and on the stream. -/
theorem play_refines (c : SignalingSocket) (s : Session (Source UInt8)) (hopen : s.Open)
    (part : Part) (hpossible : (s.play socketWire c part).source ≠ .error .impossible) :
    (s.play socketWire c part).flat = s.flat.play streamWire c part ∧
      (s.play socketWire c part).Open := by
  cases part with
  | call x broken => exact exchange_refines c s hopen x broken hpossible
  | wait broken => exact wait_refines s hopen broken hpossible
  | hear broken => exact hear_refines s hopen broken hpossible

/-- A conversation over a socket comes to what it comes to on the stream in one
    piece, whatever the server sends and however it arrives. -/
theorem converse_refines (c : SignalingSocket) (s : Session (Source UInt8)) (hopen : s.Open)
    (parts : List Part)
    (hpossible : (converse socketWire c s parts).source ≠ .error .impossible) :
    (converse socketWire c s parts).flat = converse streamWire c s.flat parts ∧
      (converse socketWire c s parts).Open := by
  -- The induction is on the parts, from the front, over any connection that is
  -- open.
  induction parts generalizing s with
  | nil => exact ⟨rfl, hopen⟩
  | cons part parts ih =>
      -- A read that cannot be would have been the last one.
      have hstep : (s.play socketWire c part).source ≠ .error .impossible := by
        intro hended
        refine hpossible ?_
        rw [converse_cons]
        exact (congrArg Session.source (converse_ended socketWire c _ hended parts)).trans hended
      rcases play_refines c s hopen part hstep with ⟨hflat, hopen'⟩
      rcases ih (s.play socketWire c part) hopen' hpossible with ⟨hrest, hrest'⟩
      refine ⟨?_, hrest'⟩
      rw [hflat] at hrest
      exact hrest

/-! ## Dialogues -/

/-- What the server is sent. -/
inductive Sent
  | request (signal : Signal) (text : JavaString) (htext : signal.serialize = .ok text)
  | acknowledgement

def Sent.bytes : Sent → Bytes
  | .request _ text _ => text.getBytes
  | .acknowledgement => OK_RESPONSE

/-- What the server sends in the course of a conversation, what it is sent, and
    what comes of it, if it answers each request and sends its signals where
    they are heard. The counter is the preference before and after. -/
inductive Dialogue (c : SignalingSocket) : Option Int → List Part → Bytes → List Sent →
    List (Except SocketFailure Answer) → Option Int → Prop
  | nil (counter : Option Int) : Dialogue c counter [] [] [] [] counter
  | answered {x : Exchange} {counter counter' : Option Int} {signal : Signal}
      (hsignal : (x.construct c counter).1 = .ok signal) {text : JavaString}
      (htext : signal.serialize = .ok text) {bytes incoming : Bytes} {response : SignalResponse}
      (hresponse : IsResponse bytes response) {parts : List Part} {sent : List Sent}
      {outcomes : List (Except SocketFailure Answer)}
      (hrest : Dialogue c (x.construct c counter).2 parts incoming sent outcomes counter') :
      Dialogue c counter (.call x none :: parts) (bytes ++ incoming)
        (.request signal text htext :: sent) (x.finish (x.judge response) :: outcomes) counter'
  | refused {x : Exchange} {counter counter' : Option Int} {text : JavaString}
      (htext : x.text c counter = .ok text) (message : String) {parts : List Part}
      {incoming : Bytes} {sent : List Sent} {outcomes : List (Except SocketFailure Answer)}
      (hrest : Dialogue c (x.construct c counter).2 parts incoming sent outcomes counter') :
      Dialogue c counter (.call x (some message) :: parts) incoming sent
        (x.finish (.error (.signaling (.signalingIo message))) :: outcomes) counter'
  | unsent {x : Exchange} {counter counter' : Option Int} {e : JavaException}
      (htext : x.text c counter = .error e) (broken : Option String) {parts : List Part}
      {incoming : Bytes} {sent : List Sent} {outcomes : List (Except SocketFailure Answer)}
      (hrest : Dialogue c (x.construct c counter).2 parts incoming sent outcomes counter') :
      Dialogue c counter (.call x broken :: parts) incoming sent
        (x.finish (.error (.java e)) :: outcomes) counter'
  | waited {counter counter' : Option Int} {parts : List Part} {incoming : Bytes}
      {sent : List Sent} {outcomes : List (Except SocketFailure Answer)}
      (hrest : Dialogue c counter parts incoming sent outcomes counter') :
      Dialogue c counter (.wait none :: parts) incoming sent outcomes counter'
  | unwaited (message : String) {counter counter' : Option Int} {parts : List Part}
      {incoming : Bytes} {sent : List Sent} {outcomes : List (Except SocketFailure Answer)}
      (hrest : Dialogue c counter parts incoming sent outcomes counter') :
      Dialogue c counter (.wait (some message) :: parts) incoming sent
        (.error (.signaling (.signalingIo message)) :: outcomes) counter'
  | acknowledged (frame : SignalListener.Frame) {counter counter' : Option Int}
      {parts : List Part} {incoming : Bytes} {sent : List Sent}
      {outcomes : List (Except SocketFailure Answer)}
      (hrest : Dialogue c counter parts incoming sent outcomes counter') :
      Dialogue c counter (.hear none :: parts) (frame.bytes ++ incoming)
        (.acknowledgement :: sent) (.ok (.heard frame.signal) :: outcomes) counter'
  | unacknowledged (frame : SignalListener.Frame) (message : String)
      {counter counter' : Option Int} {parts : List Part} {incoming : Bytes} {sent : List Sent}
      {outcomes : List (Except SocketFailure Answer)}
      (hrest : Dialogue c counter parts incoming sent outcomes counter') :
      Dialogue c counter (.hear (some message) :: parts) (frame.bytes ++ incoming) sent
        (.error (.signaling (.signalingIo message)) :: outcomes) counter'

/-- A signal is there whatever follows it. -/
theorem takeSignal_frame (frame : SignalListener.Frame) (following : Bytes) :
    takeSignal (frame.bytes ++ following) = some (.ok (frame.signal, following)) := by
  have hrun := parses_readSignal.refines ⟨frame.bytes, []⟩ List.not_mem_nil (by
    rw [frame.wellFormed]
    simp only [ne_eq, reduceCtorEq, not_false_eq_true])
  -- The frame alone is a whole signal, so what follows it is not looked at.
  rw [frame.wellFormed] at hrun
  have hpending : (⟨frame.bytes, []⟩ : Source UInt8).pending = frame.bytes := by
    rw [Source.pending, arriving_nil, List.append_nil]
  rw [hpending] at hrun
  exact parses_readSignal.extends (Parse.run_ok.mp hrun.symm) following

/-- A response that is there is judged, and what follows it is left. -/
theorem exchange_answered {c : SignalingSocket} {x : Exchange} {counter : Option Int}
    {text : JavaString} (htext : x.text c counter = .ok text) {bytes : Bytes}
    {response : SignalResponse} (hresponse : IsResponse bytes response) (following sent : Bytes)
    (before : List (Except SocketFailure Answer)) :
    Session.exchange streamWire c ⟨.ok (bytes ++ following), sent, counter, before⟩ x none
      = ⟨.ok following, sent ++ text.getBytes, (x.construct c counter).2,
          before ++ [x.finish (x.judge response)]⟩ := by
  have hread := Resuming.readSignalResponse_whole (takeResponse_append hresponse following)
  simp only [Session.exchange, htext, streamWire, Keeper.onStream, hread, mapLeft,
    Source.pending_nil, Session.settle, Exchange.judged]

/-- A signal that is there is heard, and what follows it is left. -/
theorem hear_frame (frame : SignalListener.Frame) (broken : Option String) (following sent : Bytes)
    (counter : Option Int) (before : List (Except SocketFailure Answer)) :
    Session.hear streamWire ⟨.ok (frame.bytes ++ following), sent, counter, before⟩ broken
      = ⟨.ok following, sent ++ (if broken.isNone then OK_RESPONSE else []), counter,
          before ++ [heard broken (.ok frame.signal)]⟩ := by
  have hread := Resuming.readSignal_whole (takeSignal_frame frame following)
  simp only [Session.hear, streamWire, Keeper.onStream, hread, mapLeft, Source.pending_nil,
    Session.settle]

/-- On a stream that begins with what the server sends in a dialogue, a
    conversation is that dialogue. -/
theorem converse_dialogue {c : SignalingSocket} {counter counter' : Option Int}
    {parts : List Part} {incoming : Bytes} {sent : List Sent}
    {outcomes : List (Except SocketFailure Answer)}
    (h : Dialogue c counter parts incoming sent outcomes counter')
    (following before : Bytes) (earlier : List (Except SocketFailure Answer)) :
    converse streamWire c ⟨.ok (incoming ++ following), before, counter, earlier⟩ parts
      = ⟨.ok following, before ++ sent.flatMap Sent.bytes, counter', earlier ++ outcomes⟩ := by
  induction h generalizing before earlier with
  | nil counter => simp only [converse, List.foldl_nil, List.nil_append, List.flatMap_nil,
      List.append_nil]
  | @answered x counter _ signal hsignal text htext bytes incoming response hresponse _ _ _ _ ih =>
      have hsent : x.text c counter = .ok text := by
        rw [Exchange.text, hsignal, Java.ok_bind, htext]
      rw [converse_cons, Session.play, List.append_assoc,
        exchange_answered hsent hresponse]
      refine (ih _ _).trans ?_
      simp only [List.append_assoc, List.flatMap_cons, Sent.bytes, List.singleton_append]
  -- The next two send nothing, so nothing is taken from the stream.
  | @refused x counter _ text htext message _ _ _ _ _ ih =>
      rw [converse_cons]
      simp only [Session.play, Session.exchange, htext]
      refine (ih _ _).trans ?_
      simp only [List.append_assoc, List.singleton_append]
  | @unsent x counter _ e htext broken _ _ _ _ _ ih =>
      rw [converse_cons]
      simp only [Session.play, Session.exchange, htext]
      refine (ih _ _).trans ?_
      simp only [List.append_assoc, List.singleton_append]
  | waited _ ih =>
      rw [converse_cons]
      exact ih before earlier
  | unwaited message _ ih =>
      rw [converse_cons]
      refine (ih _ _).trans ?_
      simp only [List.append_assoc, List.singleton_append]
  | acknowledged frame _ ih =>
      rw [converse_cons, Session.play, List.append_assoc, hear_frame]
      refine (ih _ _).trans ?_
      simp only [Option.isNone_none, if_true, List.append_assoc, List.flatMap_cons, Sent.bytes,
        List.singleton_append, heard]
  | unacknowledged frame message _ ih =>
      rw [converse_cons, Session.play, List.append_assoc, hear_frame]
      refine (ih _ _).trans ?_
      simp only [Option.isNone_some, Bool.false_eq_true, if_false, List.append_nil,
        List.append_assoc, List.singleton_append, heard]

/-- A dialogue takes place over a socket as it does over the stream, and leaves
    what the server has sent behind it. -/
theorem converse_of_dialogue {c : SignalingSocket} {counter counter' : Option Int}
    {parts : List Part} {incoming : Bytes} {sent : List Sent}
    {outcomes : List (Except SocketFailure Answer)}
    (h : Dialogue c counter parts incoming sent outcomes counter') {source : Source UInt8}
    (hflowing : Flowing source.reads) {following : Bytes}
    (hpending : source.pending = incoming ++ following)
    (hpossible : (converse socketWire c ⟨.ok source, [], counter, []⟩ parts).source
      ≠ .error .impossible) :
    ∃ left, converse socketWire c ⟨.ok source, [], counter, []⟩ parts
        = ⟨.ok left, sent.flatMap Sent.bytes, counter', outcomes⟩ ∧
      left.pending = following ∧ Flowing left.reads := by
  have hopen : Session.Open ⟨.ok source, [], counter, []⟩ := by
    intro source' hsource
    exact Except.ok.inj hsource ▸ hflowing
  rcases converse_refines c _ hopen parts hpossible with ⟨hflat, hopen'⟩
  have hstream := converse_dialogue h following [] []
  rw [List.nil_append, List.nil_append] at hstream
  have hsame : (converse socketWire c ⟨.ok source, [], counter, []⟩ parts).flat
      = ⟨.ok following, sent.flatMap Sent.bytes, counter', outcomes⟩ := by
    rw [hflat, ← hstream]
    simp only [Session.flat, Except.map, hpending]
  -- What is left on the stream is pending on the socket.
  rcases Session.flat_ok hsame with ⟨left, hleft, hrest⟩
  exact ⟨left, hleft, hrest, hopen' left (congrArg Session.source hleft)⟩

/-! ## On the socket -/

/-- The socket of a caller. -/
def callerSocket : SignalingSocket where
  localNumber := some (ofString "+14155550101")
  password := some (ofString "secret")
  counterProvider := true

/-- The caller asks for a session. -/
def askForSession : Exchange :=
  callerSocket.initiateConnection PhoneNumberFormatter.parsesNothing none sessionGson
    (ofString "+14155550102")

/-- The caller asks for a session, hears what becomes of it, and hangs up. -/
def callerParts : List Part :=
  [.call askForSession none, .wait none, .hear none, .call (callerSocket.setHangup 7) none]

/-- The response with the session. -/
def sessionResponse : Bytes :=
  ascii "HTTP/1.0 200 OK\r\nContent-Length: 66\r\n\r\n" ++ ascii sessionText

/-- What the server sends, in three portions that begin and end where they
    will. -/
def callerReads : List (Read UInt8) :=
  [.data (sessionResponse.take 30),
    .data (sessionResponse.drop 30 ++ SignalListener.ringing.bytes.take 9),
    .data (SignalListener.ringing.bytes.drop 9 ++ ascii "HTTP/1.0 200 OK\r\n\r\n")]

theorem flowing_callerReads : Flowing callerReads := by
  unfold Flowing
  decide +kernel

/-- However the bytes of the server are cut into portions, and whatever they
    are, a conversation sends, returns, throws, waits and leaves what it does
    on the stream in one piece. -/
theorem conversation_refines (c : SignalingSocket) (parts : List Part) (counter : Option Int)
    (source : Source UInt8) (hflowing : Flowing source.reads)
    (hpossible : (converse socketWire c ⟨.ok source, [], counter, []⟩ parts).source
      ≠ .error .impossible) :
    (converse socketWire c ⟨.ok source, [], counter, []⟩ parts).flat
      = converse streamWire c ⟨.ok source.pending, [], counter, []⟩ parts := by
  refine (converse_refines c ⟨.ok source, [], counter, []⟩ ?_ parts hpossible).1
  intro source' hsource
  exact Except.ok.inj hsource ▸ hflowing

/-- The same with a signal that is none, so that the listener fails before the
    caller hangs up. -/
def strangeReads : List (Read UInt8) :=
  [.data (sessionResponse.take 30), .data (sessionResponse.drop 30 ++ ascii "RING /ses"),
    .timeout, .data (ascii "sion\r\nHTTP/1.0 200 OK\r\n\r\n")]

/-- The caller hangs up on the socket on which the listener has failed, and
    nothing is left over. -/
theorem conversation_refines_strange :
    (converse socketWire callerSocket ⟨.ok ⟨[], strangeReads⟩, [], none, []⟩ callerParts).flat
      = converse streamWire callerSocket
          ⟨.ok (Source.pending ⟨[], strangeReads⟩), [], none, []⟩ callerParts ∧
      (converse socketWire callerSocket ⟨.ok ⟨[], strangeReads⟩, [], none, []⟩ callerParts).outcomes
        = [.ok (.session (some ⟨31337, 7, some "relay", 1⟩)),
          .error (.signaling (.signaling
            (Text.ofString "Got strange request: RING /session"))), .ok .done] := by
  refine ⟨conversation_refines callerSocket callerParts none ⟨[], strangeReads⟩
    (by unfold Flowing; decide +kernel) (by decide +kernel), ?_⟩
  decide +kernel

/-- A signal about a session in the place of a response. One line of it is
    taken, and has no status. -/
theorem exchange_crossed {c : SignalingSocket} {x : Exchange} {counter : Option Int}
    {text : JavaString} (htext : x.text c counter = .ok text) {w rest : Bytes} {line : List Nat}
    (hline : takeLine w = some (line, rest)) {message : List Nat}
    (hstatus : statusOf line = .error (.signaling message)) (sent : Bytes)
    (before : List (Except SocketFailure Answer)) :
    Session.exchange streamWire c ⟨.ok w, sent, counter, before⟩ x none
      = ⟨.ok rest, sent ++ text.getBytes, (x.construct c counter).2,
          before ++ [x.finish (.error (.signaling (.signaling message)))]⟩ := by
  have hread := Resuming.readSignalResponse_strange hline hstatus
  simp only [Session.exchange, htext, streamWire, Keeper.onStream, hread, mapLeft,
    Source.pending_nil, Session.settle, Exchange.judged]

/-- Waiting is nothing to the stream. -/
theorem wait_stream (w sent : Bytes) (counter : Option Int)
    (before : List (Except SocketFailure Answer)) :
    Session.wait streamWire ⟨.ok w, sent, counter, before⟩ none
      = ⟨.ok w, sent, counter, before⟩ := rfl

/-- A listener that fails leaves the connection to the next method. -/
theorem hear_threw {w left : Bytes} {e : SignalingFailure}
    (h : Resuming.readSignal.onStream w = .error (.threw e) left) (broken : Option String)
    (sent : Bytes) (counter : Option Int) (before : List (Except SocketFailure Answer)) :
    Session.hear streamWire ⟨.ok w, sent, counter, before⟩ broken
      = ⟨.ok left, sent, counter, before ++ [.error (.signaling e)]⟩ := by
  simp only [Session.hear, streamWire, h, Session.settle, heard]

/-- What stands first in a stream is its first line, whatever follows. -/
theorem takeLine_append {w rest : Bytes} {line : List Nat} (h : takeLine w = some (line, rest))
    (following : Bytes) : takeLine (w ++ following) = some (line, rest ++ following) := by
  have hfound : (Parse.ofFound takeLine : Parse SignalingFailure UInt8 _) w
      = some (.ok (line, rest)) := Parse.ofFound_some h
  exact (Parse.ofFound_ok _ _ _).mp (parses_readLine_exact.extends hfound following)

/-- Wherever in a conversation a signal about a session comes in the place of a
    response, the method that waits for the response takes the first line of
    the signal for it and fails, or is silent about it. Whatever is done later
    is done over what is left of the signal and what comes behind it. -/
theorem signal_crossed {c : SignalingSocket} {counter counter' : Option Int} {parts : List Part}
    {incoming : Bytes} {sent : List Sent} {outcomes : List (Except SocketFailure Answer)}
    (h : Dialogue c counter parts incoming sent outcomes counter') (x : Exchange)
    {text : JavaString} (htext : x.text c counter' = .ok text) (later : List Part)
    (frame : SignalListener.Frame) (hsession : frame.signal.sessionId ≠ -1)
    (source : Source UInt8) (hflowing : Flowing source.reads) (following : Bytes)
    (hpending : source.pending = incoming ++ (frame.bytes ++ following))
    (hpossible : (converse socketWire c ⟨.ok source, [], counter, []⟩
      (parts ++ .call x none :: later)).source ≠ .error .impossible) :
    ∃ line rest, takeLine frame.bytes = some (line, rest) ∧
      (converse socketWire c ⟨.ok source, [], counter, []⟩ (parts ++ .call x none :: later)).flat
        = converse streamWire c ⟨.ok (rest ++ following),
            sent.flatMap Sent.bytes ++ text.getBytes, (x.construct c counter').2,
            outcomes ++ [x.finish (.error (.signaling (.signaling
              (Text.ofString "Failed to parse status code from: " ++ line))))]⟩ later := by
  have hsignal := takeSignal_frame frame []
  rw [List.append_nil] at hsignal
  rcases statusOf_crossed hsignal hsession with ⟨line, rest, hline, hstatus⟩
  refine ⟨line, rest, hline, ?_⟩
  have hopen : Session.Open ⟨.ok source, [], counter, []⟩ := by
    intro source' hsource
    exact Except.ok.inj hsource ▸ hflowing
  have hflat := (converse_refines c _ hopen _ hpossible).1
  -- On the stream the dialogue comes first, then the signal, and then the rest.
  have hdialogue := converse_dialogue h (frame.bytes ++ following) [] []
  rw [List.nil_append, List.nil_append] at hdialogue
  have hcrossed := exchange_crossed htext (takeLine_append hline following) hstatus
    (sent.flatMap Sent.bytes) outcomes
  have hstream : (Session.flat ⟨.ok source, [], counter, []⟩)
      = ⟨.ok (incoming ++ (frame.bytes ++ following)), [], counter, []⟩ := by
    simp only [Session.flat, Except.map, hpending]
  rw [hflat, hstream, converse_append streamWire, hdialogue, converse_cons, Session.play, hcrossed]

/-- The caller hangs up while the phone is told to ring. What is left of the
    signal is no signal, and the listener fails; the phone hangs up as well, and
    takes the response to the ringing for its own. -/
theorem signal_crossed_hungUp : ∃ text text',
    (converse socketWire callerSocket ⟨.ok ⟨[], [.data (SignalListener.hungUp.bytes
        ++ ascii "HTTP/1.0 200 OK\r\n\r\nHTTP/1.0 404 Gone\r\n\r\n")]⟩, [], none, []⟩
        [.call (callerSocket.setRinging 7) none, .wait none, .hear none,
          .call (callerSocket.setHangup 7) none]).flat
      = ⟨.ok (ascii "HTTP/1.0 404 Gone\r\n\r\n"),
          JavaString.getBytes text ++ JavaString.getBytes text', some 3,
          [.error (.signaling (.signaling (Text.ofString
              "Failed to parse status code from: DELETE /session/7 HTTP/1.0"))),
            .error (.signaling (.signaling (Text.ofString "Server failure."))), .ok .done]⟩ := by
  have hring : (callerSocket.ringingSignal 1 7).Authorizes := Or.inr (by decide)
  have hhangup : (callerSocket.hangupSignal 2 7).Authorizes := Or.inr (by decide)
  rcases (Signal.exists_serialize _).mpr hring with ⟨text, htext⟩
  rcases (Signal.exists_serialize _).mpr hhangup with ⟨text', htext'⟩
  have hanswer : IsResponse (ascii "HTTP/1.0 200 OK\r\n\r\n") ⟨200, [], []⟩ := by decide +kernel
  rcases signal_crossed (c := callerSocket) (.nil none) (callerSocket.setRinging 7) htext
    [.wait none, .hear none, .call (callerSocket.setHangup 7) none] SignalListener.hungUp
    (by decide) ⟨[], [.data (SignalListener.hungUp.bytes
      ++ ascii "HTTP/1.0 200 OK\r\n\r\nHTTP/1.0 404 Gone\r\n\r\n")]⟩
    (by unfold Flowing; decide +kernel)
    (ascii "HTTP/1.0 200 OK\r\n\r\nHTTP/1.0 404 Gone\r\n\r\n") (by decide +kernel)
    (by decide +kernel) with ⟨line, rest, hline, h⟩
  have hfirst : takeLine SignalListener.hungUp.bytes
      = some (Text.ofString "DELETE /session/7 HTTP/1.0", ascii "\r\n") := by
    decide +kernel
  rw [hfirst, Option.some.injEq, Prod.mk.injEq] at hline
  rcases hline with ⟨rfl, rfl⟩
  -- The listener reads the empty line that was left.
  have hempty : Resuming.readSignal.onStream (ascii "\r\n"
      ++ ascii "HTTP/1.0 200 OK\r\n\r\nHTTP/1.0 404 Gone\r\n\r\n")
        = .error (.threw (.signaling (Text.ofString "Server failure.")))
            (ascii "HTTP/1.0 200 OK\r\n\r\n" ++ ascii "HTTP/1.0 404 Gone\r\n\r\n") := by
    decide +kernel
  -- The phone hangs up, and one response is there.
  have hcounter : ((callerSocket.setRinging 7).construct callerSocket none).2 = some 2 := by
    decide +kernel
  have hcounter' : ((callerSocket.setHangup 7).construct callerSocket (some 2)).2 = some 3 := by
    decide +kernel
  have hhung : (callerSocket.setHangup 7).text callerSocket (some 2) = .ok text' := htext'
  refine ⟨text, text', h.trans ?_⟩
  rw [hcounter, converse_cons, Session.play, wait_stream, converse_cons, Session.play,
    hear_threw hempty, converse_cons, Session.play, exchange_answered hhung hanswer, hcounter']
  rfl

end RedPhone
