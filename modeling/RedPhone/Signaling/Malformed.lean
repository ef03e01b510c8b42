import Mathlib.Data.List.TakeWhile
import RedPhone.Lib.Parsing
import RedPhone.Signaling.SignalReader

/-!
# Signals That Cannot Be Read

The listener catches one exception, the one `readSignal` declares. What is in a
signal is converted in three places: a length that is not a number is caught
where it is converted, one that is negative is not, and neither is a session
that is not a number, because the constructor of the signal converts it and no
longer the reader.

What a signal comes to is computed from the bytes here, so that both can be said
of a stream: its request and its headers are all there, and then the length is
negative, or the body is there too and the target names no session.

## Main definitions

* `SignalingFailure.Declared`: What `readSignal` declares.
* `takeLine`, `takeHeaders`, `takeBody`, `takeSignal`: The parts of a signal, from
  the bytes.
* `Malformed`: The streams the listener does not survive.

## Theorems

* `parses_readSignal`: `readSignal` ends as the bytes say.
* `malformed_iff`: Which exceptions a stream calls for.
* `declared_iff`: `readSignal` throws what it declares, unless the stream is
  malformed.
* `declared_fails`: Two signals that are.
-/

namespace RedPhone

open Reading LineReader SignalReader

/-- What `readSignal` declares. -/
def SignalingFailure.Declared : SignalingFailure → Prop
  | .signaling _ => True
  | .signalingIo _ => True
  | .io _ => False
  | .numberFormat => False
  | .negativeArraySize => False

/-- An `IOException`, which `readSignal` catches. -/
def SignalingFailure.Io (e : SignalingFailure) : Prop := ∃ message, e = .io message

/-- The first line of a stream. -/
def takeLine (w : Bytes) : Option (List Nat × Bytes) :=
  (chompLine w).map fun p => (Text.decodeUtf8 p.1, p.2)

theorem takeLine_some {w left : Bytes} {line : List Nat} (h : takeLine w = some (line, left)) :
    ∃ bytes, chompLine w = some (bytes, left) ∧ line = Text.decodeUtf8 bytes := by
  rw [takeLine, Option.map_eq_some_iff] at h
  rcases h with ⟨⟨bytes, left'⟩, hchomp, hsame⟩
  rw [Prod.mk.injEq] at hsame
  exact ⟨bytes, hsame.2 ▸ hchomp, hsame.1.symm⟩

theorem takeLine_shorter {w left : Bytes} {line : List Nat} (h : takeLine w = some (line, left)) :
    left.length < w.length := by
  rcases takeLine_some h with ⟨bytes, hchomp, _⟩
  rw [(finds_chompLine hchomp).1, List.length_append, List.length_append]
  have hlast : CRLF.length = 2 := rfl
  omega

/-- The headers up to an empty line. -/
def takeHeaders (headers : List (List Nat × List Nat)) (w : Bytes) :
    Option (List (List Nat × List Nat) × Bytes) :=
  match _h : takeLine w with
  | none => none
  | some (header, left) =>
    if header.length = 0 then some (headers, left) else takeHeaders (putHeader headers header) left
termination_by w.length
decreasing_by exact takeLine_shorter ‹_›

/-- The length of the body, and 0 if there is none that can be read. -/
def contentLength (headers : List (List Nat × List Nat)) : Int :=
  ((headers.lookup (Text.ofString "Content-Length")).bind Text.parseInt).getD 0

/-- A target that should name a session and does not. -/
def NoSession (target : List Nat) : Prop :=
  ServerSignal.SESSION <+: target ∧
    Text.parseLong (Text.trim (target.drop ServerSignal.SESSION.length)) = none

/-- A stream begins with a request of three words and headers, and its body has
    a negative length, or is there and its target names no session. -/
def Malformed (w : Bytes) : Prop :=
  ∃ requestLine rest headers left, takeLine w = some (requestLine, rest) ∧ requestLine ≠ [] ∧
    (Text.split requestLine).length = 3 ∧ takeHeaders [] rest = some (headers, left) ∧
    (contentLength headers < 0 ∨ (contentLength headers).toNat ≤ left.length ∧
      NoSession (Text.trim ((Text.split requestLine).getD 1 [])))

/-! ## The parts of a signal, from the bytes -/

/-- The words of the request line. -/
def takeRequest : Parse SignalingFailure UInt8 (List (List Nat)) :=
  (Parse.ofFound takeLine).andThen fun requestLine w =>
    if requestLine.length = 0 then some (.error (.signaling (Text.ofString "Server failure.")))
    else if (Text.split requestLine).length ≠ 3 then
      some (.error (.signaling (Text.ofString "Got strange request: " ++ requestLine)))
    else some (.ok (Text.split requestLine, w))

def takeBody (size : Int) : Parse SignalingFailure UInt8 Bytes := fun w =>
  if size < 0 then some (.error .negativeArraySize)
  else if size.toNat ≤ w.length then some (.ok (w.take size.toNat, w.drop size.toNat))
  else none

/-- A signal, with the exceptions `readSignal` makes of those inside it. -/
def takeSignal : Parse SignalingFailure UInt8 ServerSignal :=
  (takeRequest.andThen fun request =>
    (Parse.ofFound (takeHeaders [])).andThen fun headers =>
      (takeBody (contentLength headers)).andThen fun body w =>
        some ((ServerSignal.create (Text.trim (request.getD 0 [])) (Text.trim (request.getD 1 []))
          body).map (·, w))).mapThrown SignalingFailure.wrapped

theorem takeHeaders_eq (headers : List (List Nat × List Nat)) (w : Bytes) :
    takeHeaders headers w = match takeLine w with
      | none => none
      | some (header, left) =>
        if header.length = 0 then some (headers, left)
        else takeHeaders (putHeader headers header) left := by
  rw [takeHeaders]
  split
  · rename_i h
    rw [h]
  · rename_i h
    rw [h]

/-- A line ends at its first newline, and there is one message for a stream
    that ends before it. -/
theorem parses_readLine_exact : Parses readLine (.ofFound takeLine)
    (· = .io "Stream closed before newline found...") := by
  have hline : Parses readLineBytes (.ofFound chompLine)
      (· = .io "Stream closed before newline found...") := by
    refine parses_readUntil _ _ (fun x line left more hfound => ?_)
    rcases finds_chompLine hfound with ⟨rfl, hfinds⟩
    rw [List.append_assoc]
    exact hfinds.there (left ++ more)
  have hboth := parses_bind hline (fun line => parses_pure _ (Text.decodeUtf8 line))
  have hparse : ((Parse.ofFound chompLine : Parse SignalingFailure UInt8 Bytes).andThen
      fun line w => some (.ok (Text.decodeUtf8 line, w))) = .ofFound takeLine := by
    funext w
    unfold Parse.andThen Parse.ofFound takeLine
    cases chompLine w with
    | none => rfl
    | some p => rfl
  rw [← hparse]
  exact hboth

theorem parses_readLine : Parses readLine (.ofFound takeLine) SignalingFailure.Io :=
  parses_mono parses_readLine_exact (fun _ he => ⟨_, he⟩)

theorem parses_readSignalRequest :
    Parses readSignalRequest takeRequest SignalingFailure.Io := by
  refine parses_bind parses_readLine (fun requestLine => ?_)
  by_cases hempty : requestLine.length = 0
  · simp only [if_pos hempty]
    exact parses_threw _ _
  · simp only [if_neg hempty]
    by_cases hstrange : (Text.split requestLine).length ≠ 3
    · simp only [if_pos hstrange]
      exact parses_threw _ _
    · simp only [if_neg hstrange]
      exact parses_pure _ _

/-- Line by line, and each line leaves less to read. -/
theorem parses_readHeadersFrom (headers : List (List Nat × List Nat)) :
    Parses (readHeadersFrom headers : ByteReader _) (.ofFound (takeHeaders headers))
      SignalingFailure.Io := by
  intro buffered reads hflowing
  induction hleft : (Source.remaining ⟨buffered, reads⟩) using Nat.strongRecOn
    generalizing headers buffered reads with
  | ind n ih =>
      -- A header is one line, and the headers end with an empty one.
      have hparse : (Parse.ofFound (takeHeaders headers) : Parse SignalingFailure UInt8 _)
          = (Parse.ofFound takeLine).andThen fun header =>
              if header.length = 0 then fun w => some (.ok (headers, w))
              else .ofFound (takeHeaders (putHeader headers header)) := by
        funext w
        unfold Parse.andThen Parse.ofFound
        rw [takeHeaders_eq]
        cases takeLine w with
        | none => rfl
        | some p =>
            rcases p with ⟨header, left⟩
            by_cases hempty : header.length = 0
            · simp only [Option.map_some, if_pos hempty]
            · simp only [Option.map_some, if_neg hempty]
      rw [readHeadersFrom_eq, hparse]
      refine (parses_readLine buffered reads hflowing).bind (fun header left rest hline hrest => ?_)
      by_cases hempty : header.length = 0
      · rw [if_pos hempty, if_pos hempty]
        exact parses_pure _ _ left rest (hflowing.suffix hrest)
      · rw [if_neg hempty, if_neg hempty]
        -- A line has been taken, so less remains.
        exact ih _ (hleft ▸ readLine_shorter hline) _ left rest (hflowing.suffix hrest) rfl

theorem parses_readFully_exact (size : Int) : Parses (readFully size) (takeBody size)
    (· = .io "Socket closed before buffer filled...") := by
  unfold readFully
  by_cases hnegative : size < 0
  · have hparse : takeBody size = fun _ => some (.error .negativeArraySize) := by
      funext w
      exact if_pos hnegative
    rw [if_pos hnegative, hparse]
    exact parses_threw _ _
  · have hparse : takeBody size = .ofFound fun w =>
        if size.toNat ≤ w.length then some (w.take size.toNat, w.drop size.toNat) else none := by
      funext w
      unfold takeBody Parse.ofFound
      rw [if_neg hnegative]
      by_cases hlong : size.toNat ≤ w.length
      · simp only [if_pos hlong, Option.map_some]
      · simp only [if_neg hlong, Option.map_none]
    rw [if_neg hnegative, hparse]
    refine parses_readUntil _ _ (fun x body left more hfound => ?_)
    rw [Option.ite_none_right_eq_some, Option.some.injEq, Prod.mk.injEq] at hfound
    rcases hfound with ⟨hlong, rfl, rfl⟩
    rw [if_pos (by rw [List.length_append]; omega), List.take_append_of_le_length hlong,
      List.drop_append_of_le_length hlong]

theorem parses_readFully (size : Int) :
    Parses (readFully size) (takeBody size) SignalingFailure.Io :=
  parses_mono (parses_readFully_exact size) (fun _ he => ⟨_, he⟩)

/-- A body of no length is empty, and so is one whose length cannot be read. -/
theorem parses_readSignalBody (headers : List (List Nat × List Nat)) :
    Parses (readSignalBody headers) (takeBody (contentLength headers)) SignalingFailure.Io := by
  have hempty : takeBody 0 = fun w => some (.ok ([], w)) := rfl
  unfold readSignalBody contentLength
  cases headers.lookup (Text.ofString "Content-Length") with
  | none =>
      simp only [Option.bind_none, Option.getD_none]
      rw [hempty]
      exact parses_pure _ _
  | some contentLengthString =>
      simp only [Option.bind_some]
      cases Text.parseInt contentLengthString with
      | none =>
          simp only [Option.getD_none]
          rw [hempty]
          exact parses_pure _ _
      | some n =>
          simp only [Option.getD_some]
          by_cases hzero : n ≠ 0
          · rw [if_pos hzero]
            exact parses_readFully n
          · rw [if_neg hzero, Classical.not_not.mp hzero, hempty]
            exact parses_pure _ _

/-- `readSignal` ends as the bytes say. -/
theorem parses_readSignal : Parses readSignal takeSignal SignalingFailure.Declared := by
  have hparts := parses_bind parses_readSignalRequest (fun request =>
    parses_bind (parses_readHeadersFrom []) (fun headers =>
      parses_bind (parses_readSignalBody headers) (fun body =>
        parses_ofExcept SignalingFailure.Io (ServerSignal.create (Text.trim (request.getD 0 []))
          (Text.trim (request.getD 1 [])) body))))
  refine parses_mono (parses_mapThrown SignalingFailure.wrapped hparts) ?_
  rintro e ⟨e', ⟨message, rfl⟩, rfl⟩
  trivial

/-- The constructor of a signal fails where the target names no session. -/
theorem create_error (verb target : List Nat) (body : Bytes) (e : SignalingFailure) :
    ServerSignal.create verb target body = .error e ↔ NoSession target ∧ e = .numberFormat := by
  unfold ServerSignal.create NoSession
  by_cases hsession : ServerSignal.SESSION <+: target
  · rw [if_pos hsession]
    cases Text.parseLong (Text.trim (target.drop ServerSignal.SESSION.length)) with
    | none =>
        simp only [Except.error.injEq, hsession, true_and, @eq_comm _ _ e]
    | some sessionId => simp only [reduceCtorEq, and_false, false_and]
  · rw [if_neg hsession]
    simp only [reduceCtorEq, hsession, false_and]

/-- What comes after the request and the headers of a stream. -/
theorem takeBody_create (headers : List (List Nat × List Nat)) (verb target : List Nat)
    (left : Bytes) (e : SignalingFailure) :
    ((takeBody (contentLength headers)).andThen fun body w =>
        some ((ServerSignal.create verb target body).map (·, w))) left = some (.error e) ↔
      contentLength headers < 0 ∧ e = .negativeArraySize ∨
      ¬ contentLength headers < 0 ∧ (contentLength headers).toNat ≤ left.length ∧
        NoSession target ∧ e = .numberFormat := by
  unfold Parse.andThen takeBody
  by_cases hnegative : contentLength headers < 0
  · rw [if_pos hnegative]
    simp only [Option.some.injEq, Except.error.injEq, hnegative, true_and, not_true_eq_false,
      false_and, or_false, @eq_comm _ _ e]
  · rw [if_neg hnegative]
    simp only [hnegative, false_and, false_or, not_false_eq_true, true_and]
    by_cases hlong : (contentLength headers).toNat ≤ left.length
    · rw [if_pos hlong]
      simp only [Option.some.injEq, hlong, true_and]
      rw [← create_error verb target (left.take (contentLength headers).toNat) e]
      cases ServerSignal.create verb target (left.take (contentLength headers).toNat) with
      | ok signal => exact ⟨nofun, nofun⟩
      | error e' => simp only [Except.map, Except.error.injEq]
    · rw [if_neg hlong]
      simp only [reduceCtorEq, hlong, false_and]

/-- A request is a line of three words. -/
theorem takeRequest_ok (w left : Bytes) (request : List (List Nat)) :
    takeRequest w = some (.ok (request, left)) ↔ ∃ requestLine,
      takeLine w = some (requestLine, left) ∧ requestLine ≠ [] ∧
        (Text.split requestLine).length = 3 ∧ request = Text.split requestLine := by
  unfold takeRequest Parse.andThen Parse.ofFound
  cases takeLine w with
  | none => simp only [Option.map_none, reduceCtorEq, false_and, exists_false]
  | some p =>
      rcases p with ⟨requestLine, rest⟩
      simp only [Option.map_some, Option.some.injEq, Prod.mk.injEq]
      -- The empty line and one that has not three parts are no request.
      by_cases hempty : requestLine.length = 0
      · rw [if_pos hempty]
        refine ⟨nofun, ?_⟩
        rintro ⟨_, ⟨rfl, _⟩, hne, _⟩
        exact absurd (List.length_eq_zero_iff.mp hempty) hne
      · rw [if_neg hempty]
        have hne : requestLine ≠ [] := fun hnil => hempty (List.length_eq_zero_iff.mpr hnil)
        by_cases hstrange : (Text.split requestLine).length ≠ 3
        · rw [if_pos hstrange]
          refine ⟨nofun, ?_⟩
          rintro ⟨_, ⟨rfl, _⟩, _, hthree, _⟩
          exact absurd hthree hstrange
        · rw [if_neg hstrange, Option.some.injEq, Except.ok.injEq, Prod.mk.injEq]
          constructor
          · rintro ⟨rfl, rfl⟩
            exact ⟨requestLine, ⟨rfl, rfl⟩, hne, Classical.not_not.mp hstrange, rfl⟩
          · rintro ⟨_, ⟨rfl, rfl⟩, _, _, rfl⟩
            exact ⟨rfl, rfl⟩

/-- A request that is none is reported. -/
theorem takeRequest_error (w : Bytes) (e : SignalingFailure)
    (h : takeRequest w = some (.error e)) : e.wrapped.Declared := by
  rcases (Parse.andThen_error _ _ w e).mp h with hfound | ⟨requestLine, left, _, herror⟩
  · exact absurd hfound (Parse.ofFound_error w e)
  · by_cases hempty : requestLine.length = 0
    · rw [if_pos hempty, Option.some.injEq, Except.error.injEq] at herror
      rw [← herror]
      trivial
    · rw [if_neg hempty] at herror
      by_cases hstrange : (Text.split requestLine).length ≠ 3
      · rw [if_pos hstrange, Option.some.injEq, Except.error.injEq] at herror
        rw [← herror]
        trivial
      · rw [if_neg hstrange] at herror
        exact nomatch herror

/-- What a stream with a request and headers comes to, where it comes to an
    exception. -/
theorem takeSignal_error (w : Bytes) (e : SignalingFailure) :
    takeSignal w = some (.error e) ↔ ∃ e', e = e'.wrapped ∧ (takeRequest w = some (.error e') ∨
      ∃ request rest headers left, takeRequest w = some (.ok (request, rest)) ∧
        takeHeaders [] rest = some (headers, left) ∧
        (contentLength headers < 0 ∧ e' = .negativeArraySize ∨
          ¬ contentLength headers < 0 ∧ (contentLength headers).toNat ≤ left.length ∧
            NoSession (Text.trim (request.getD 1 [])) ∧ e' = .numberFormat)) := by
  unfold takeSignal
  rw [Parse.mapThrown_error]
  simp only [Parse.andThen_error takeRequest, Parse.andThen_error (.ofFound _), Parse.ofFound_error,
    Parse.ofFound_ok, false_or]
  constructor
  · rintro ⟨e', hfound | ⟨request, rest, hrequest, headers, left, hheaders, hrest⟩, rfl⟩
    · exact ⟨e', rfl, Or.inl hfound⟩
    · rw [takeBody_create] at hrest
      exact ⟨e', rfl, Or.inr ⟨request, rest, headers, left, hrequest, hheaders, hrest⟩⟩
  · rintro ⟨e', rfl, hfound | ⟨request, rest, headers, left, hrequest, hheaders, hrest⟩⟩
    · exact ⟨e', Or.inl hfound, rfl⟩
    · rw [← takeBody_create headers (Text.trim (request.getD 0 []))] at hrest
      exact ⟨e', Or.inr ⟨request, rest, hrequest, headers, left, hheaders, hrest⟩, rfl⟩

/-- The exceptions a stream calls for that are not declared are those of the
    malformed streams. -/
theorem malformed_iff (w : Bytes) :
    Malformed w ↔ ∃ e, takeSignal w = some (.error e) ∧ ¬ e.Declared := by
  simp only [takeSignal_error]
  constructor
  · rintro ⟨requestLine, rest, headers, left, hline, hne, hthree, hheaders, hrest⟩
    have hrequest := (takeRequest_ok w rest _).mpr ⟨requestLine, hline, hne, hthree, rfl⟩
    by_cases hnegative : contentLength headers < 0
    · exact ⟨.negativeArraySize, ⟨.negativeArraySize, rfl, Or.inr ⟨_, rest, headers, left, hrequest,
        hheaders, Or.inl ⟨hnegative, rfl⟩⟩⟩, fun h => h⟩
    · rcases hrest.resolve_left hnegative with ⟨hlong, hsession⟩
      exact ⟨.numberFormat, ⟨.numberFormat, rfl, Or.inr ⟨_, rest, headers, left, hrequest, hheaders,
        Or.inr ⟨hnegative, hlong, hsession, rfl⟩⟩⟩, fun h => h⟩
  · rintro ⟨_, ⟨e', rfl, hfound | ⟨request, rest, headers, left, hrequest, hheaders, hrest⟩⟩,
      hdeclared⟩
    · exact absurd (takeRequest_error w e' hfound) hdeclared
    · rcases (takeRequest_ok w rest request).mp hrequest with ⟨requestLine, hline, hne, hthree, rfl⟩
      refine ⟨requestLine, rest, headers, left, hline, hne, hthree, hheaders, ?_⟩
      rcases hrest with ⟨hnegative, _⟩ | ⟨_, hlong, hsession, _⟩
      · exact Or.inl hnegative
      · exact Or.inr ⟨hlong, hsession⟩

/-! ## `readSignal` -/

/-- The reads before the end of the connection. -/
def beforeEnd (reads : List (Read UInt8)) : List (Read UInt8) := reads.takeWhile (· ≠ .eof)

theorem flowing_beforeEnd (reads : List (Read UInt8)) : Flowing (beforeEnd reads) := by
  intro heof
  have hne := List.mem_takeWhile_imp heof
  exact absurd hne (by decide)

/-- A connection is open, or was open and is closed. -/
theorem beforeEnd_cases (reads : List (Read UInt8)) :
    reads = beforeEnd reads ∨ ∃ more, reads = beforeEnd reads ++ .eof :: more := by
  induction reads with
  | nil => exact Or.inl rfl
  | cons r reads ih =>
      by_cases heof : r = .eof
      · subst heof
        exact Or.inr ⟨reads, rfl⟩
      · have hstep : beforeEnd (r :: reads) = r :: beforeEnd reads :=
          List.takeWhile_cons_of_pos (decide_eq_true heof)
        rw [hstep]
        rcases ih with ih | ⟨more, ih⟩
        · exact Or.inl (congrArg (r :: ·) ih)
        · exact Or.inr ⟨more, congrArg (r :: ·) ih⟩

/-- What `readSignal` throws for a stream is what the stream calls for, or the
    end of the connection. -/
theorem readSignal_threw (s : Source UInt8) (e : SignalingFailure) (hdeclared : ¬ e.Declared)
    (hpossible : readSignal s ≠ .error .impossible) :
    readSignal s = .error (.threw e) ↔
      takeSignal (s.buffered ++ arriving (beforeEnd s.reads)) = some (.error e) := by
  rcases s with ⟨buffered, reads⟩
  have houtcome := parses_readSignal buffered (beforeEnd reads) (flowing_beforeEnd reads)
  -- Behind the end nothing is read any more.
  have hmore : ∃ more, reads = beforeEnd reads ++ more := by
    rcases beforeEnd_cases reads with hopen | ⟨more, hclosed⟩
    · exact ⟨[], by rw [List.append_nil]; exact hopen⟩
    · exact ⟨.eof :: more, hclosed⟩
  rcases hmore with ⟨more, hreads⟩
  cases houtcome with
  | impossible _ _ hend =>
      refine absurd ?_ hpossible
      rw [hreads]
      exact hend more
  | waits hfound hend hclosed =>
      rw [hfound]
      refine ⟨fun hthrew => ?_, nofun⟩
      rcases beforeEnd_cases reads with hopen | ⟨rest, hclosedAt⟩
      · rw [hopen, hend] at hthrew
        exact nomatch hthrew
      · -- The end of the connection is reported as what it is.
        rcases hclosed rest with ⟨e', hshort, hend'⟩
        rw [← hclosedAt] at hend'
        rw [hend', Except.error.injEq, Stop.threw.injEq] at hthrew
        exact absurd (hthrew ▸ hshort) hdeclared
  -- The exception was thrown before the end was seen.
  | threw e' hfound hend =>
      have hend' := hend more
      rw [← hreads] at hend'
      rw [hfound, hend', Except.error.injEq, Stop.threw.injEq, Option.some.injEq,
        Except.error.injEq]
  | returns signal left rest hfound _ hend =>
      have hend' := hend more
      rw [← hreads] at hend'
      rw [hfound, hend']
      exact ⟨nofun, nofun⟩

/-- `readSignal` throws nothing but what it declares exactly when what comes
    before the end of the connection is not malformed. -/
theorem declared_iff (s : Source UInt8) (hpossible : readSignal s ≠ .error .impossible) :
    (∀ e, readSignal s = .error (.threw e) → e.Declared) ↔
      ¬ Malformed (s.buffered ++ arriving (beforeEnd s.reads)) := by
  rw [malformed_iff]
  constructor
  · rintro h ⟨e, hfound, hdeclared⟩
    exact hdeclared (h e ((readSignal_threw s e hdeclared hpossible).mpr hfound))
  · intro h e hthrew
    by_contra hdeclared
    exact h ⟨e, (readSignal_threw s e hdeclared hpossible).mp hthrew, hdeclared⟩

/-- A signal about a session that is no number. -/
def strangeSession : Bytes := ascii "RING /session/x HTTP/1.0\r\n\r\n"

/-- A signal whose body has a negative length. -/
def negativeLength : Bytes := ascii "GET /keepalive HTTP/1.0\r\nContent-Length: -1\r\n\r\n"

/-- A signal in two pieces, and then the end. -/
def pieces : List (Read UInt8) :=
  [.data (ascii "RING /session/7 HT"), .data (ascii "TP/1.0\r\n\r\n"), .eof]

theorem declared_iff_pieces :
    (∀ e, readSignal ⟨[], pieces⟩ = .error (.threw e) → e.Declared) ↔
      ¬ Malformed (([] : Bytes) ++ arriving (beforeEnd pieces)) :=
  declared_iff ⟨[], pieces⟩ (by decide +kernel)

/-- Two signals that end the listener by an exception it does not catch. -/
theorem declared_fails :
    readSignal ⟨[], [.data strangeSession]⟩ = .error (.threw .numberFormat) ∧
      readSignal ⟨[], [.data negativeLength]⟩ = .error (.threw .negativeArraySize) ∧
      ¬ ∀ s e, readSignal s = .error (.threw e) → e.Declared := by
  have hnumber : readSignal ⟨[], [.data strangeSession]⟩ = .error (.threw .numberFormat) := by
    decide +kernel
  refine ⟨hnumber, by decide +kernel, fun h => ?_⟩
  exact h _ _ hnumber

end RedPhone
