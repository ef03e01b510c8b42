import RedPhone.Call.SignalManager
import RedPhone.Signaling.Delivery
import RedPhone.Signaling.Malformed

/-!
# The End of the Connection

When the server closes the connection every read returns at once, and says so.
Reading a line or a body throws then. Asking whether something has arrived does
not: it returns what it returns after a second and a half in which nothing came,
and the listener asks again, for ever.

So it matters where the listener is when the connection ends. It learns of the
end while it reads a signal, and it asks whether there is one only when it has
processed the one before. It therefore leaves if some portion comes after the
last signal has been processed, which it then takes for the beginning of a
signal. A response that cannot be written makes it leave as well.

## Main definitions

* `sendOkResponse`: A response is written or not.
* `nextSignal`: Wait for a signal, and read it.
* `ends`: Why the listener stops, with its responses.
* `closed`: The connection is closed, and read so many times after that.
* `Reported`, `ReportsEnd`: The end is reported to the call.
* `Divided`: The signals of a stream, and what comes behind them.
* `EndMet`: The end is met while a signal is read.

## Theorems

* `reported_iff`: What a declared exception leads to.
* `exists_divided`: Every stream is divided.
* `end_reported_iff`: When the end of the connection is reported.
* `end_spins`: A server that closes the connection after a signal.
-/

namespace RedPhone

open Reading Framing

/-- The exception makes the listener report the call as disconnected. -/
def SignalingFailure.Reported (e : SignalingFailure) : Prop :=
  ∀ (sessionId : Int) (m : SignalManager) (o : ListenerOutcome),
    (m.thrown e).work sessionId o = .ok { m with
      notified := m.notified ++ [.notifyCallDisconnected]
      pc := .callback true }

theorem SignalingFailure.reported_iff (e : SignalingFailure) : e.Reported ↔ e.Declared := by
  -- An exception that is not caught leaves the queue without a task to do.
  have hescaped (hidle : ∀ m : SignalManager, m.thrown e = m.goto .idle) : ¬ e.Reported := by
    intro h
    have hwork := h 0 { SignalManager.create with queue := [] }
      ⟨.ok true, .error .numberFormat, .ok ()⟩
    rw [hidle] at hwork
    exact nomatch hwork
  cases e with
  | signaling message => exact ⟨fun _ => trivial, fun _ _ _ _ => rfl⟩
  | signalingIo message => exact ⟨fun _ => trivial, fun _ _ _ _ => rfl⟩
  | io message => exact ⟨fun h => hescaped (fun _ => rfl) h, nofun⟩
  | numberFormat => exact ⟨fun h => hescaped (fun _ => rfl) h, nofun⟩
  | negativeArraySize => exact ⟨fun h => hescaped (fun _ => rfl) h, nofun⟩

namespace SignalListener

/-- `SignalingSocket.sendOkResponse`, where writing may throw an
    `IOException`. -/
def sendOkResponse : Option String → Except SignalingFailure Unit
  | none => .ok ()
  | some message => .error (.signalingIo message)

/-- Wait for a signal, and read it. -/
def nextSignal : ByteReader ServerSignal := fun s => match awaitSignal s with
  | .error e => .error e
  | .ok s' => readSignal s'

theorem nextSignal_shorter {s s' : Source UInt8} {signal : ServerSignal}
    (h : nextSignal s = .ok (signal, s')) : s'.reads.length < s.reads.length := by
  unfold nextSignal at h
  cases hawait : awaitSignal s with
  | error e =>
      rw [hawait] at h
      exact nomatch h
  | ok t =>
      rw [hawait] at h
      exact Nat.lt_of_le_of_lt (consumes_readSignal t signal s' h).length_le
        (awaitSignal_shorter hawait)

/-- Why the listener stops that nobody interrupts, where `writes` says what
    writing each response comes to. -/
def ends (writes : Nat → Option String) (answered : Nat) (s : Source UInt8) :
    Stop SignalingFailure :=
  match _h : nextSignal s with
  | .error e => e
  | .ok (_, s') => match sendOkResponse (writes answered) with
    | .error e => .threw e
    | .ok () => ends writes (answered + 1) s'
termination_by s.reads.length
decreasing_by exact nextSignal_shorter ‹_›

theorem ends_eq (writes : Nat → Option String) (answered : Nat) (s : Source UInt8) :
    ends writes answered s = match nextSignal s with
      | .error e => e
      | .ok (_, s') => match sendOkResponse (writes answered) with
        | .error e => .threw e
        | .ok () => ends writes (answered + 1) s' := by
  rw [ends]
  split
  · rename_i h
    rw [h]
  · rename_i h
    rw [h]

/-- The server has closed the connection, from which so many reads are made
    after what it has sent. -/
def closed (s : Source UInt8) (n : Nat) : Source UInt8 :=
  ⟨s.buffered, s.reads ++ List.replicate n .eof⟩

/-- After finitely many reads of the closed connection the listener has left,
    and reports the call as disconnected. -/
def ReportsEnd (writes : Nat → Option String) (answered : Nat) (s : Source UInt8) : Prop :=
  ∃ n e, ends writes answered (closed s n) = .threw e ∧ e.Reported

/-- The complete signals at the front of a stream, and what comes behind them,
    with no complete signal at its front. -/
structure Divided (w : Bytes) (frames : List Frame) (tail : Bytes) : Prop where
  bytes : w = stream frames ++ tail
  last : ∀ f : Frame, ¬ f.bytes <+: tail

/-- The end of the connection is met, or something strange, while a signal is
    read: a portion comes after all signals have been processed, and what is
    behind them can be reported. -/
def EndMet (frames : List Frame) (tail : Bytes) (s : Source UInt8) : Prop :=
  Outlasts (lengths frames) s.buffered.length (portions s.reads) ∧ ¬ Malformed tail

/-! ## The stream -/

theorem readSignal_possible (w : Bytes) : readSignal ⟨w, []⟩ ≠ .error .impossible := by
  cases parses_readSignal w [] nofun with
  | impossible hreads _ _ => exact absurd rfl hreads
  | waits _ hend _ =>
      rw [hend]
      exact nofun
  | threw e _ hend =>
      rw [show readSignal ⟨w, []⟩ = .error (.threw e) from hend []]
      exact nofun
  | returns signal left rest _ _ hend =>
      rw [show readSignal ⟨w, []⟩ = .ok (signal, ⟨left, rest ++ []⟩) from hend []]
      exact nofun

/-- A signal that has been read is read as well if there are more reads. -/
theorem readSignal_more {w left : Bytes} {rest rest' : List (Read UInt8)} {signal : ServerSignal}
    (hflowing : Flowing rest) (hread : readSignal ⟨w, rest⟩ = .ok (signal, ⟨left, rest'⟩))
    (more : List (Read UInt8)) :
    readSignal ⟨w, rest ++ more⟩ = .ok (signal, ⟨left, rest' ++ more⟩) := by
  -- The same bytes are taken whatever comes behind them, so the outcome is the
  -- one known.
  cases parses_readSignal w rest hflowing with
  | impossible _ hend _ =>
      rw [hread] at hend
      exact nomatch hend
  | waits _ hend _ =>
      rw [hread] at hend
      exact nomatch hend
  | threw e _ hend =>
      have hsame := hend []
      rw [List.append_nil, hread] at hsame
      exact nomatch hsame
  | returns signal' left' rest'' _ _ hend =>
      have hsame := hend []
      rw [List.append_nil, List.append_nil, hread, Except.ok.injEq, Prod.mk.injEq,
        Source.mk.injEq] at hsame
      rcases hsame with ⟨rfl, rfl, rfl⟩
      exact hend more

/-- What `readSignal` makes of bytes in one piece. -/
theorem takeSignal_ok (w left : Bytes) (signal : ServerSignal) :
    takeSignal w = some (.ok (signal, left)) ↔ readSignal ⟨w, []⟩ = .ok (signal, ⟨left, []⟩) := by
  have houtcome := parses_readSignal w [] nofun
  rw [arriving_nil, List.append_nil] at houtcome
  cases houtcome with
  | impossible hreads _ _ => exact absurd rfl hreads
  | waits hfound hend _ =>
      rw [hfound, hend]
      exact ⟨nofun, nofun⟩
  | threw e hfound hend =>
      rw [hfound, show readSignal ⟨w, []⟩ = .error (.threw e) from hend []]
      exact ⟨nofun, nofun⟩
  | returns signal' left' rest hfound hrest hend =>
      rw [List.suffix_nil] at hrest
      subst hrest
      rw [hfound, show readSignal ⟨w, []⟩ = .ok (signal', ⟨left', []⟩) from hend [], arriving_nil,
        List.append_nil, Option.some.injEq, Except.ok.injEq, Except.ok.injEq, Prod.mk.injEq,
        Prod.mk.injEq, Source.mk.injEq]
      simp only [and_true]

/-- The signal a stream comes to is a frame at its front. -/
theorem frame_of_takeSignal {w left : Bytes} {signal : ServerSignal}
    (h : takeSignal w = some (.ok (signal, left))) : ∃ f : Frame, w = f.bytes ++ left := by
  rcases steady_readSignal w signal _ ((takeSignal_ok w left signal).mp h) with
    ⟨taken, left', hleft, rfl, htakes⟩
  have hsame : left = left' := (Source.mk.inj hleft).1
  -- What was taken is a whole signal, which needs nothing behind it.
  have hwhole := htakes.whole [] (readSignal_possible _)
  rw [List.append_nil] at hwhole
  rw [hsame]
  exact ⟨⟨taken, signal, hwhole⟩, rfl⟩

/-- Where there is no frame at the front of a stream, nothing is read of it. -/
theorem takeSignal_of_last {tail : Bytes} (hlast : ∀ f : Frame, ¬ f.bytes <+: tail) :
    takeSignal tail = none ∨ ∃ e, takeSignal tail = some (.error e) := by
  cases htake : takeSignal tail with
  | none => exact Or.inl rfl
  | some found =>
      cases found with
      | error e => exact Or.inr ⟨e, rfl⟩
      | ok r =>
          rcases frame_of_takeSignal htake with ⟨f, hf⟩
          exact absurd ⟨r.2, hf.symm⟩ (hlast f)

/-- Every stream is divided. -/
theorem exists_divided (w : Bytes) : ∃ frames tail, Divided w frames tail := by
  -- One signal is taken off the front after the other, and each is some bytes
  -- long.
  induction hlength : w.length using Nat.strongRecOn generalizing w with
  | ind n ih =>
      by_cases hframe : ∃ f : Frame, f.bytes <+: w
      · rcases hframe with ⟨f, left, rfl⟩
        have hless : left.length < n := by
          have hpos := f.length_pos
          rw [← hlength, List.length_append]
          omega
        rcases ih left.length hless left rfl with ⟨frames, tail, hdivided⟩
        refine ⟨f :: frames, tail, ?_, hdivided.last⟩
        rw [stream_cons, List.append_assoc, ← hdivided.bytes]
      · exact ⟨[], w, rfl, fun f hf => hframe ⟨f, hf⟩⟩

/-! ## The listener at the end of the stream -/

theorem portions_eof (n : Nat) : portions (List.replicate n (Read.eof : Read UInt8)) = [] := by
  induction n with
  | zero => rfl
  | succ n ih => exact ih

theorem closed_zero (s : Source UInt8) : closed s 0 = s := by
  rcases s with ⟨buffered, reads⟩
  exact congrArg (Source.mk buffered) (List.append_nil reads)

/-- What one turn of the listener comes to, on a stream that is divided, and
    once it has been closed. -/
inductive Turn (frames : List Frame) (tail : Bytes) (s : Source UInt8) : Prop
  /-- Nothing comes any more. -/
  | quiet (hquiet : portions s.reads = []) (hend : ∀ n, nextSignal (closed s n) = .error .waits)
  | impossible (hend : nextSignal s = .error .impossible)
  /-- What comes behind the last signal is not enough for another. -/
  | short (hframes : frames = []) (hportions : portions s.reads ≠ [])
      (htail : takeSignal tail = none)
      (hend : ∀ n, ∃ e, e.Declared ∧ nextSignal (closed s (n + 1)) = .error (.threw e))
  | threw (e : SignalingFailure) (hframes : frames = []) (hportions : portions s.reads ≠ [])
      (htail : takeSignal tail = some (.error e))
      (hend : ∀ n, nextSignal (closed s n) = .error (.threw e))
  | signal (f : Frame) (fs : List Frame) (s' : Source UInt8) (hframes : frames = f :: fs)
      (hend : ∀ n, nextSignal (closed s n) = .ok (f.signal, closed s' n))
      (hflowing : Flowing s'.reads) (hless : s'.reads.length < s.reads.length)
      (hrest : s'.buffered ++ arriving s'.reads = stream fs ++ tail) (used : List Nat)
      (hused : used ≠ []) (hportions : portions s.reads = used ++ portions s'.reads)
      (hstep : ∀ rest, deliver (lengths (f :: fs)) s.buffered.length (used ++ rest)
        = 1 + deliver (lengths fs) s'.buffered.length rest)
      (hbefore : deliver (lengths (f :: fs)) s.buffered.length used.dropLast = 0)

/-- A turn is the first portion, and then what `readSignal` does. -/
theorem nextSignal_portion (buffered portion : Bytes) (idle rest : List (Read UInt8))
    (hidle : portions idle = []) (hfits : Fits 500 portion) (n : Nat) :
    nextSignal (closed ⟨buffered, idle ++ .data portion :: rest⟩ n)
      = readSignal ⟨buffered ++ portion, rest ++ List.replicate n .eof⟩ := by
  unfold nextSignal closed
  simp only []
  rw [List.append_assoc, List.cons_append, awaitSignal_portion _ _ _ _ hidle, if_pos hfits]

/-- The turn behind the last signal. -/
theorem turn_last {tail held : Bytes} {rest : List (Read UInt8)} {s : Source UInt8}
    (hlast : ∀ f : Frame, ¬ f.bytes <+: tail) (hportions : portions s.reads ≠ [])
    (hflowing : Flowing rest) (hbytes : held ++ arriving rest = tail)
    (hturn : ∀ n, nextSignal (closed s n) = readSignal ⟨held, rest ++ List.replicate n .eof⟩) :
    Turn [] tail s := by
  have hopen := hturn 0
  rw [closed_zero, List.replicate_zero, List.append_nil] at hopen
  have houtcome := parses_readSignal held rest hflowing
  rw [hbytes] at houtcome
  -- There is no whole signal in the tail, so reading it waits, or throws.
  cases houtcome with
  | impossible _ hread _ => exact .impossible (hopen.trans hread)
  | waits hfound _ hclosed =>
      refine .short rfl hportions hfound (fun n => ?_)
      -- The closed connection is met in the middle of it, which is an exception.
      rcases hclosed (List.replicate n .eof) with ⟨e, hdeclared, hthrew⟩
      exact ⟨e, hdeclared, (hturn (n + 1)).trans hthrew⟩
  | threw e hfound hread =>
      exact .threw e rfl hportions hfound (fun n => (hturn n).trans (hread _))
  | returns signal left rest' hfound _ _ =>
      rcases takeSignal_of_last hlast with hnone | ⟨e, herror⟩
      · rw [hnone] at hfound
        exact nomatch hfound
      · rw [herror] at hfound
        exact nomatch hfound

/-- The turn of a signal. -/
theorem turn_signal {f : Frame} {fs : List Frame} {tail held portion : Bytes}
    {idle rest : List (Read UInt8)} (hidle : portions idle = []) (hfits : Fits 500 portion)
    (hflowing : Flowing rest)
    (hbytes : (held ++ portion) ++ arriving rest = stream (f :: fs) ++ tail) :
    Turn (f :: fs) tail ⟨held, idle ++ .data portion :: rest⟩ := by
  have hturn := nextSignal_portion held portion idle rest hidle hfits
  have hopen := hturn 0
  rw [closed_zero, List.replicate_zero, List.append_nil] at hopen
  rw [stream_cons, List.append_assoc f.bytes] at hbytes
  have htaken := takes_of_wellFormed f.wellFormed ⟨held ++ portion, rest⟩ hflowing
    (Or.inr ⟨stream fs ++ tail, hbytes.symm⟩)
  cases htaken with
  | impossible hread => exact .impossible (hopen.trans hread)
  | waits _ hshort =>
      -- All of the signal is there, so nothing is waited for.
      change ((held ++ portion) ++ arriving rest).length < _ at hshort
      rw [hbytes, List.length_append] at hshort
      omega
  | returns used rest' left hreads hread hleft hneeded =>
      have hsplit : rest = used ++ rest' := hreads
      change (held ++ portion) ++ arriving used = f.bytes ++ left at hleft
      rcases deliver_turn f fs hleft hneeded with ⟨hstep, hbefore⟩
      refine .signal f fs ⟨left, rest'⟩ rfl
        (fun n => (hturn n).trans (readSignal_more hflowing hread _))
        (hflowing.suffix (hsplit ▸ List.suffix_append used rest')) ?_ ?_
        (portion.length :: portions used) (List.cons_ne_nil _ _) ?_ hstep hbefore
      · rw [hsplit]
        simp only [List.length_append, List.length_cons]
        omega
      · rw [hsplit, arriving_append, ← List.append_assoc, hleft, List.append_assoc] at hbytes
        exact List.append_cancel_left hbytes
      · rw [portions_append, hidle, hsplit]
        exact congrArg (portion.length :: ·) (portions_append used rest')

theorem turn_cases {frames : List Frame} {tail : Bytes} (s : Source UInt8)
    (hflowing : Flowing s.reads)
    (hdivided : Divided (s.buffered ++ arriving s.reads) frames tail) : Turn frames tail s := by
  rcases s with ⟨buffered, reads⟩
  simp only at hflowing hdivided
  rcases portions_cases reads with hquiet | ⟨idle, portion, rest, rfl, hidle⟩
  · refine .quiet hquiet (fun n => ?_)
    have hall : portions (reads ++ List.replicate n .eof) = [] := by
      rw [portions_append, hquiet, portions_eof]
      rfl
    unfold nextSignal closed
    rw [awaitSignal_quiet _ _ hall]
  by_cases hfits : Fits 500 portion
  · -- The wait ends with the first portion, and a signal is read.
    have hidle' : arriving idle = [] := by
      rw [← List.length_eq_zero_iff, ← sum_portions, hidle]
      rfl
    have hbytes : (buffered ++ portion) ++ arriving rest = stream frames ++ tail := by
      rw [← hdivided.bytes, arriving_append, hidle', arriving_cons, List.nil_append,
        List.append_assoc]
      rfl
    have hflowing' : Flowing rest :=
      hflowing.suffix ((List.suffix_cons _ _).trans (List.suffix_append idle _))
    cases frames with
    | nil =>
        have hsome : portions (idle ++ .data portion :: rest) ≠ [] := by
          rw [portions_append, hidle]
          exact List.cons_ne_nil _ _
        exact turn_last hdivided.last hsome hflowing' hbytes
          (nextSignal_portion buffered portion idle rest hidle hfits)
    | cons f fs => exact turn_signal hidle hfits hflowing' hbytes
  · refine .impossible ?_
    unfold nextSignal
    rw [awaitSignal_portion _ _ _ _ hidle, if_neg hfits]

/-- A turn that does not return is the last. -/
theorem ends_error (writes : Nat → Option String) (answered : Nat) {s : Source UInt8}
    {e : Stop SignalingFailure} (h : nextSignal s = .error e) : ends writes answered s = e := by
  rw [ends_eq, h]

theorem ends_signal (writes : Nat → Option String) (answered : Nat) {s s' : Source UInt8}
    {signal : ServerSignal} (h : nextSignal s = .ok (signal, s')) :
    ends writes answered s = match writes answered with
      | some message => .threw (.signalingIo message)
      | none => ends writes (answered + 1) s' := by
  rw [ends_eq, h]
  simp only []
  cases writes answered with
  | none => rfl
  | some message => rfl

theorem deliver_no_portions (frames : List Nat) (held : Nat) : deliver frames held [] = 0 := by
  cases frames with
  | nil => rfl
  | cons w ws => rfl

/-- The first response has been written, and what is said of the others is said
    of the ones after it. -/
theorem unwritten_succ {writes : Nat → Option String} {answered : Nat} (k : Nat)
    (hwrite : writes answered = none) :
    (∃ i < 1 + k, writes (answered + i) ≠ none) ↔ ∃ i < k, writes (answered + 1 + i) ≠ none := by
  constructor
  · rintro ⟨i, hi, hne⟩
    cases i with
    | zero => exact absurd hwrite hne
    | succ i =>
        refine ⟨i, by omega, ?_⟩
        rw [show answered + 1 + i = answered + (i + 1) by omega]
        exact hne
  · rintro ⟨i, hi, hne⟩
    refine ⟨i + 1, by omega, ?_⟩
    rw [show answered + (i + 1) = answered + 1 + i by omega]
    exact hne

/-- When the end of the connection is reported by a listener that has written
    some responses already. -/
theorem ends_closed (writes : Nat → Option String) (answered : Nat) (s : Source UInt8)
    (frames : List Frame) (tail : Bytes) (hflowing : Flowing s.reads)
    (hdivided : Divided (s.buffered ++ arriving s.reads) frames tail)
    (hpossible : ends writes answered s ≠ .impossible) :
    ReportsEnd writes answered s ↔
      (∃ i < deliver (lengths frames) s.buffered.length (portions s.reads),
        writes (answered + i) ≠ none) ∨ EndMet frames tail s := by
  induction hlength : s.reads.length using Nat.strongRecOn generalizing s frames answered with
  | ind n ih =>
    cases turn_cases s hflowing hdivided with
    | quiet hquiet hend =>
        -- The listener asks a closed connection for ever.
        constructor
        · rintro ⟨n, e, hthrew, _⟩
          rw [ends_error writes answered (hend n)] at hthrew
          exact nomatch hthrew
        · rintro (⟨i, hi, _⟩ | ⟨⟨hsome, _⟩, _⟩)
          · rw [hquiet, deliver_no_portions] at hi
            exact absurd hi (Nat.not_lt_zero i)
          · exact absurd hquiet hsome
    | impossible hend => exact absurd (ends_error writes answered hend) hpossible
    -- What is left over is read up to the end of the connection.
    | short hframes hportions htail hend =>
        subst hframes
        constructor
        · intro _
          refine Or.inr ⟨(outlasts_nil _ _).mpr hportions, ?_⟩
          rw [malformed_iff, htail]
          exact fun ⟨_, hfound, _⟩ => nomatch hfound
        · intro _
          rcases hend 0 with ⟨e, hdeclared, hthrew⟩
          exact ⟨1, e, ends_error writes answered hthrew, e.reported_iff.mpr hdeclared⟩
    | threw e hframes hportions htail hend =>
        subst hframes
        -- The exception is reported exactly if it is one of the two that are caught.
        have hmalformed : Malformed tail ↔ ¬ e.Declared := by
          rw [malformed_iff, htail]
          simp only [Option.some.injEq, Except.error.injEq, exists_eq_left']
        constructor
        · rintro ⟨n, e', hthrew, hreported⟩
          rw [ends_error writes answered (hend n), Stop.threw.injEq] at hthrew
          rw [← hthrew] at hreported
          refine Or.inr ⟨(outlasts_nil _ _).mpr hportions, ?_⟩
          rw [hmalformed]
          exact fun hnot => hnot (e.reported_iff.mp hreported)
        · rintro (⟨i, hi, _⟩ | ⟨_, hmet⟩)
          · rw [show lengths [] = [] from rfl, deliver_nil] at hi
            exact absurd hi (Nat.not_lt_zero i)
          · rw [hmalformed, Classical.not_not] at hmet
            exact ⟨0, e, ends_error writes answered (hend 0), e.reported_iff.mpr hmet⟩
    | signal f fs s' hframes hend hflowing' hless hrest used hused hportions hstep hbefore =>
        subst hframes
        have hopen := hend 0
        rw [closed_zero, closed_zero] at hopen
        have houtlasts : Outlasts (lengths (f :: fs)) s.buffered.length
            (used ++ portions s'.reads) ↔ Outlasts (lengths fs) s'.buffered.length
              (portions s'.reads) := outlasts_cons hused hstep hbefore _
        unfold EndMet
        rw [hportions, hstep, houtlasts]
        cases hwrite : writes answered with
        | some message =>
            -- The response to this signal is not written.
            constructor
            · intro _
              refine Or.inl ⟨0, by omega, ?_⟩
              rw [Nat.add_zero, hwrite]
              exact Option.some_ne_none message
            · intro _
              refine ⟨0, .signalingIo message, ?_, (SignalingFailure.reported_iff _).mpr trivial⟩
              rw [ends_signal writes answered (hend 0), hwrite]
        | none =>
            have hnext : ends writes answered s = ends writes (answered + 1) s' := by
              rw [ends_signal writes answered hopen, hwrite]
            -- It is written, and the listener goes on behind the signal.
            have hreports : ReportsEnd writes answered s ↔ ReportsEnd writes (answered + 1) s' := by
              unfold ReportsEnd
              simp only [ends_signal writes answered (hend _), hwrite]
            rw [hnext] at hpossible
            rw [hreports, ih s'.reads.length (hlength ▸ hless) (answered + 1) s' fs hflowing'
              ⟨hrest, hdivided.last⟩ hpossible rfl]
            exact or_congr_left (unwritten_succ _ hwrite).symm

/-- The listener reports the end of the connection exactly if a response to a
    signal cannot be written, or if a portion comes after the last signal has
    been processed and what is behind the signals can be reported. Asking a
    closed connection whether something has arrived never says that it is
    closed. -/
theorem end_reported_iff (writes : Nat → Option String) (s : Source UInt8)
    (hflowing : Flowing s.reads) (hpossible : ends writes 0 s ≠ .impossible) :
    (∃ frames tail, Divided (s.buffered ++ arriving s.reads) frames tail) ∧
    (∀ frames tail, Divided (s.buffered ++ arriving s.reads) frames tail →
      (ReportsEnd writes 0 s ↔
        (∃ i < deliver (lengths frames) s.buffered.length (portions s.reads), writes i ≠ none) ∨
        EndMet frames tail s)) ∧
    ∀ buffered reads, waitForSignal ⟨buffered, .eof :: reads⟩ = .ok (false, ⟨buffered, reads⟩) := by
  refine ⟨exists_divided _, fun frames tail hdivided => ?_, fun _ _ => rfl⟩
  have hiff := ends_closed writes 0 s frames tail hflowing hdivided hpossible
  simp only [Nat.zero_add] at hiff
  exact hiff

/-- A server that says that the phone rings and closes the connection in the
    middle of the next signal. -/
def interruptedSignal : Source UInt8 :=
  ⟨[], [.data ringing.bytes, .timeout, .data (hungUp.bytes.take 10)]⟩

theorem end_reported_iff_interrupted :
    (∃ frames tail, Divided (interruptedSignal.buffered ++ arriving interruptedSignal.reads) frames
      tail) ∧
    (∀ frames tail, Divided (interruptedSignal.buffered ++ arriving interruptedSignal.reads) frames
        tail →
      (ReportsEnd (fun _ => none) 0 interruptedSignal ↔
        (∃ i < deliver (lengths frames) interruptedSignal.buffered.length
          (portions interruptedSignal.reads), (fun _ => none : Nat → Option String) i ≠ none) ∨
        EndMet frames tail interruptedSignal)) ∧
    ∀ buffered reads, waitForSignal ⟨buffered, .eof :: reads⟩ = .ok (false, ⟨buffered, reads⟩) :=
  end_reported_iff (fun _ => none) interruptedSignal (by unfold Flowing; decide +kernel)
    (by decide +kernel)

/-- A server that closes the connection after a signal that has been processed:
    the listener goes on asking, however often it is told that it is closed. -/
theorem end_spins :
    (∀ n, ends (fun _ => none) 0 (closed ⟨[], [.data ringing.bytes]⟩ n) = .waits) ∧
      ¬ ReportsEnd (fun _ => none) 0 ⟨[], [.data ringing.bytes]⟩ := by
  have hspins : ∀ n, ends (fun _ => none) 0 (closed ⟨[], [.data ringing.bytes]⟩ n) = .waits := by
    intro n
    have hturn : nextSignal (closed ⟨[], [.data ringing.bytes]⟩ n)
        = .ok (ringing.signal, ⟨[], List.replicate n .eof⟩) := by
      unfold nextSignal closed
      simp only [List.cons_append, List.nil_append]
      rw [awaitSignal_data, if_pos (by decide +kernel)]
      exact readSignal_more List.not_mem_nil ringing.wellFormed _
    have hquiet : nextSignal ⟨[], List.replicate n .eof⟩ = .error .waits := by
      unfold nextSignal
      rw [awaitSignal_quiet _ _ (portions_eof n)]
    rw [ends_signal _ _ hturn]
    exact ends_error _ _ hquiet
  refine ⟨hspins, ?_⟩
  rintro ⟨n, e, hthrew, _⟩
  rw [hspins n] at hthrew
  exact nomatch hthrew

end SignalListener

end RedPhone
