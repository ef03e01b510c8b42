import Mathlib.Data.List.Infix
import RedPhone.Lib.Framing
import RedPhone.Signaling.SignalReader

/-!
# Signals in One Portion

The signal listener asks the socket whether something has arrived, and if so it
reads a signal. Asking brings bytes, at most five hundred, into the line
reader's buffer, and so does reading a line. They may hold the next signals as
well. The listener then asks the socket again, which has nothing more, and not
the buffer.

So one signal is processed for each read that brings the last byte of one, and
of signals that end in one portion all but the first wait for the server to say
something more.

## Main definitions

* `waitForSignal`: Ask whether something has arrived.
* `awaitSignal`, `listen`: The listener.
* `Frame`: A signal and its bytes.
* `Splits`: A way a stream of signals arrives.
* `Prompt`: Each signal is processed when its last byte is there.
* `OneSignalEach`: No portion brings the last bytes of two signals.

## Theorems

* `awaitSignal_ends`: What the listener waits for.
* `listen_eq`: It processes one signal for each portion that ends one.
* `signals_prefix`: In the order in which they were sent.
* `prompt_iff`: When all of them are processed at once.
* `delivery_iff`: Two ways a stream arrives.
* `delivery_delayed`: Two signals in one portion.
-/

namespace RedPhone

open Reading LineReader

namespace SignalListener

/-- `SignalingSocket.waitForSignal`, with a timeout of a second and a half. -/
def waitForSignal : ByteReader Bool := waitForAvailable

theorem waitForSignal_data (buffered portion : Bytes) (reads : List (Read UInt8)) :
    waitForSignal ⟨buffered, .data portion :: reads⟩
      = if Fits 500 portion then .ok (true, ⟨buffered ++ portion, reads⟩)
        else .error .impossible := rfl

theorem waitForSignal_shorter {s s' : Source UInt8} {b : Bool}
    (h : waitForSignal s = .ok (b, s')) : s'.reads.length < s.reads.length := by
  rcases s with ⟨buffered, reads⟩
  cases reads with
  | nil => exact absurd h nofun
  | cons r reads =>
      cases r with
      | timeout =>
          rw [← (Prod.mk.inj (Except.ok.inj h)).2]
          exact Nat.lt_succ_self _
      | eof =>
          rw [← (Prod.mk.inj (Except.ok.inj h)).2]
          exact Nat.lt_succ_self _
      | data portion =>
          rw [waitForSignal_data] at h
          by_cases hfits : Fits 500 portion
          · rw [if_pos hfits] at h
            rw [← (Prod.mk.inj (Except.ok.inj h)).2]
            exact Nat.lt_succ_self _
          · rw [if_neg hfits] at h
            exact absurd h nofun

/-- `while (!interrupted) if (waitForSignal()) break;`, with nobody to
    interrupt it. -/
def awaitSignal (s : Source UInt8) : Except (Stop SignalingFailure) (Source UInt8) :=
  match _h : waitForSignal s with
  | .error e => .error e
  | .ok (true, s') => .ok s'
  | .ok (false, s') => awaitSignal s'
termination_by s.reads.length
decreasing_by exact waitForSignal_shorter ‹_›

/-- One turn of the loop. -/
theorem awaitSignal_eq (s : Source UInt8) : awaitSignal s = match waitForSignal s with
    | .error e => .error e
    | .ok (true, s') => .ok s'
    | .ok (false, s') => awaitSignal s' := by
  rw [awaitSignal]
  split
  · rename_i h
    rw [h]
  · rename_i h
    rw [h]
  · rename_i h
    rw [h]

theorem awaitSignal_timeout (buffered : Bytes) (reads : List (Read UInt8)) :
    awaitSignal ⟨buffered, .timeout :: reads⟩ = awaitSignal ⟨buffered, reads⟩ :=
  awaitSignal_eq _

theorem awaitSignal_eof (buffered : Bytes) (reads : List (Read UInt8)) :
    awaitSignal ⟨buffered, .eof :: reads⟩ = awaitSignal ⟨buffered, reads⟩ :=
  awaitSignal_eq _

theorem awaitSignal_data (buffered portion : Bytes) (reads : List (Read UInt8)) :
    awaitSignal ⟨buffered, .data portion :: reads⟩
      = if Fits 500 portion then .ok ⟨buffered ++ portion, reads⟩ else .error .impossible := by
  rw [awaitSignal_eq, waitForSignal_data]
  by_cases hfits : Fits 500 portion
  · rw [if_pos hfits, if_pos hfits]
  · rw [if_neg hfits, if_neg hfits]

/-- Without a portion the listener waits, for ever if the connection is
    closed. -/
theorem awaitSignal_quiet (buffered : Bytes) (reads : List (Read UInt8))
    (hquiet : portions reads = []) : awaitSignal ⟨buffered, reads⟩ = .error .waits := by
  induction reads with
  | nil =>
      rw [awaitSignal_eq]
      rfl
  | cons r reads ih =>
      cases r with
      | data portion => exact nomatch hquiet
      | timeout =>
          rw [awaitSignal_timeout]
          exact ih hquiet
      | eof =>
          rw [awaitSignal_eof]
          exact ih hquiet

/-- The first portion ends the wait, whatever comes after it. -/
theorem awaitSignal_portion (buffered portion : Bytes) (idle rest : List (Read UInt8))
    (hidle : portions idle = []) : awaitSignal ⟨buffered, idle ++ .data portion :: rest⟩
      = if Fits 500 portion then .ok ⟨buffered ++ portion, rest⟩ else .error .impossible := by
  induction idle with
  | nil => exact awaitSignal_data buffered portion rest
  | cons r idle ih =>
      cases r with
      | data portion' => exact nomatch hidle
      | timeout =>
          rw [List.cons_append, awaitSignal_timeout]
          exact ih hidle
      | eof =>
          rw [List.cons_append, awaitSignal_eof]
          exact ih hidle

/-- What the listener waits for: a portion. Until then it uses up timeouts, and
    what a closed connection returns. -/
theorem awaitSignal_ends (buffered : Bytes) (reads : List (Read UInt8)) :
    (awaitSignal ⟨buffered, reads⟩ = .error .waits ∧ portions reads = []) ∨
    awaitSignal ⟨buffered, reads⟩ = .error .impossible ∨
    ∃ idle portion rest, reads = idle ++ .data portion :: rest ∧ portions idle = [] ∧
      portion ≠ [] ∧ awaitSignal ⟨buffered, reads⟩ = .ok ⟨buffered ++ portion, rest⟩ := by
  rcases portions_cases reads with hquiet | ⟨idle, portion, rest, rfl, hidle⟩
  · exact Or.inl ⟨awaitSignal_quiet buffered reads hquiet, hquiet⟩
  · right
    rw [awaitSignal_portion buffered portion idle rest hidle]
    by_cases hfits : Fits 500 portion
    · rw [if_pos hfits]
      exact Or.inr ⟨idle, portion, rest, rfl, hidle, hfits.1, rfl⟩
    · rw [if_neg hfits]
      exact Or.inl rfl

theorem awaitSignal_shorter {s s' : Source UInt8} (h : awaitSignal s = .ok s') :
    s'.reads.length < s.reads.length := by
  rcases s with ⟨buffered, reads⟩
  rcases awaitSignal_ends buffered reads with ⟨hend, -⟩ | hend | ⟨idle, portion, rest, hreads, -,
    -, hend⟩
  · rw [hend] at h
    exact absurd h nofun
  · rw [hend] at h
    exact absurd h nofun
  · rw [hend, Except.ok.injEq] at h
    rw [← h]
    change rest.length < reads.length
    rw [hreads, List.length_append, List.length_cons]
    omega

/-- The listener, uninterrupted: the signals it processes, and why it does not
    process another. -/
def listen (s : Source UInt8) : List ServerSignal × Stop SignalingFailure :=
  match _hawait : awaitSignal s with
  | .error e => ([], e)
  | .ok s' => match _hread : readSignal s' with
    | .error e => ([], e)
    | .ok (signal, s'') => (signal :: (listen s'').1, (listen s'').2)
termination_by s.reads.length
decreasing_by all_goals
  exact Nat.lt_of_le_of_lt (consumes_readSignal _ _ _ _hread).length_le
    (awaitSignal_shorter _hawait)

/-- The listener without the proofs it ends by. -/
theorem listen_unfold (s : Source UInt8) : listen s = match awaitSignal s with
    | .error e => ([], e)
    | .ok s' => match readSignal s' with
      | .error e => ([], e)
      | .ok (signal, s'') => (signal :: (listen s'').1, (listen s'').2) := by
  rw [listen]
  split
  · rename_i hawait
    rw [hawait]
  · rename_i hawait
    rw [hawait]
    dsimp only
    split
    · rename_i hread
      rw [hread]
    · rename_i hread
      rw [hread]

theorem listen_waits {s : Source UInt8} {e : Stop SignalingFailure}
    (h : awaitSignal s = .error e) : listen s = ([], e) := by
  rw [listen_unfold, h]

theorem listen_stops {s s' : Source UInt8} {e : Stop SignalingFailure}
    (h : awaitSignal s = .ok s') (hread : readSignal s' = .error e) : listen s = ([], e) := by
  rw [listen_unfold, h]
  dsimp only
  rw [hread]

theorem listen_signal {s s' s'' : Source UInt8} {signal : ServerSignal}
    (h : awaitSignal s = .ok s') (hread : readSignal s' = .ok (signal, s'')) :
    listen s = (signal :: (listen s'').1, (listen s'').2) := by
  rw [listen_unfold, h]
  dsimp only
  rw [hread]

/-- A signal and its bytes. -/
structure Frame where
  bytes : Bytes
  signal : ServerSignal
  wellFormed : WellFormed bytes signal

/-- The bytes of some signals. -/
def stream (frames : List Frame) : Bytes := frames.flatMap Frame.bytes

def lengths (frames : List Frame) : List Nat := frames.map fun f => f.bytes.length

theorem stream_cons (f : Frame) (fs : List Frame) : stream (f :: fs) = f.bytes ++ stream fs :=
  List.flatMap_cons

theorem lengths_cons (f : Frame) (fs : List Frame) :
    lengths (f :: fs) = f.bytes.length :: lengths fs := rfl

theorem length_stream (frames : List Frame) : (stream frames).length = (lengths frames).sum := by
  induction frames with
  | nil => rfl
  | cons f fs ih =>
      rw [stream_cons, List.length_append, ih]
      exact List.sum_cons.symm

/-- A signal is not empty. -/
theorem Frame.length_pos (f : Frame) : 0 < f.bytes.length := by
  rcases f with ⟨bytes, signal, hwell⟩
  cases bytes with
  | nil => exact absurd hwell nofun
  | cons b bytes => exact Nat.succ_pos _

/-- The last of the reads a signal took brought some of it. -/
theorem used_cases {w b left : Bytes} {used : List (Read UInt8)}
    (hleft : b ++ arriving used = w ++ left)
    (hneeded : used = [] ∨ (b ++ arriving used.dropLast).length < w.length) :
    used = [] ∨ ∃ before portion, used = before ++ [.data portion] ∧
      (b ++ arriving before).length < w.length := by
  rcases List.eq_nil_or_concat used with hnil | ⟨before, last, hused⟩
  · exact Or.inl hnil
  rw [List.concat_eq_append] at hused
  rw [hused] at hneeded hleft ⊢
  rw [List.dropLast_concat] at hneeded
  rcases hneeded with hnil | hshort
  · exact absurd hnil (List.append_ne_nil_of_right_ne_nil _ (List.cons_ne_nil _ _))
  right
  -- With nothing from the last read the signal would not be there.
  have hempty (hlast : last.bytes = []) : False := by
    have hlength := congrArg List.length hleft
    rw [arriving_append, arriving_cons, hlast, arriving_nil, List.append_nil,
      List.append_nil] at hlength
    rw [hlength, List.length_append] at hshort
    omega
  cases last with
  | data portion => exact ⟨before, portion, rfl, hshort⟩
  | timeout => exact (hempty rfl).elim
  | eof => exact (hempty rfl).elim

open Framing

/-- One turn of the listener: the first signal is handed over for the last of
    the portions the turn uses. -/
theorem deliver_turn (f : Frame) (fs : List Frame) {buffered portion left : Bytes}
    {used : List (Read UInt8)} (hleft : (buffered ++ portion) ++ arriving used = f.bytes ++ left)
    (hneeded : used = [] ∨ ((buffered ++ portion) ++ arriving used.dropLast).length
      < f.bytes.length) :
    (∀ rest, deliver (lengths (f :: fs)) buffered.length (portion.length :: (portions used ++ rest))
        = 1 + deliver (lengths fs) left.length rest) ∧
      deliver (lengths (f :: fs)) buffered.length
        (portion.length :: portions used).dropLast = 0 := by
  have hsizes := congrArg List.length hleft
  rw [lengths_cons]
  -- The signal is in what has come, or a last portion brings its end.
  rcases used_cases hleft hneeded with rfl | ⟨before, last, rfl, hshort⟩
  · simp only [arriving_nil, List.append_nil, List.length_append] at hsizes
    refine ⟨fun rest => ?_, rfl⟩
    refine (deliver_first _ _ (by omega)).trans ?_
    rw [hsizes, Nat.add_sub_cancel_left]
    rfl
  · simp only [arriving_append, arriving_cons, arriving_nil, Read.bytes, List.append_nil,
      List.length_append] at hsizes hshort
    -- Before that portion the signal is not whole.
    have hsum : (portion.length :: portions before).sum
        = portion.length + (arriving before).length := by
      rw [List.sum_cons, sum_portions]
    have hbefore : buffered.length + (portion.length :: portions before).sum < f.bytes.length := by
      rw [hsum]
      omega
    have hthere : f.bytes.length ≤ buffered.length
        + (portion.length :: portions before).sum + last.length := by
      rw [hsum]
      omega
    have hportions : portions (before ++ [.data last]) = portions before ++ [last.length] :=
      portions_append before [.data last]
    refine ⟨fun rest => ?_, ?_⟩
    · have hlast := deliver_used (lengths fs) last.length rest hbefore hthere
      have hleft' : buffered.length + (portion.length :: portions before).sum
          + last.length - f.bytes.length = left.length := by
        rw [hsum]
        omega
      rw [hleft'] at hlast
      rw [hportions, List.append_assoc]
      exact hlast
    · rw [hportions, ← List.cons_append, List.dropLast_concat]
      exact deliver_eq_zero (lengths fs) hbefore

/-- The listener processes one signal for each portion with the last byte of
    one, the first that it has not processed. -/
theorem listen_eq (frames : List Frame) (s : Source UInt8) (hflowing : Flowing s.reads)
    (hstream : s.buffered ++ arriving s.reads <+: stream frames)
    (hpossible : (listen s).2 ≠ .impossible) :
    (listen s).1 = (frames.take
      (deliver (lengths frames) s.buffered.length (portions s.reads))).map Frame.signal := by
  induction hlength : s.reads.length using Nat.strongRecOn generalizing frames s with
  | ind n ih =>
    rcases s with ⟨buffered, reads⟩
    rcases awaitSignal_ends buffered reads with ⟨hend, hnone⟩ | hend |
      ⟨idle, portion, rest, hreads, hidle, hportion, hend⟩
    · -- Nothing has come.
      rw [listen_waits hend, hnone]
      have hzero : deliver (lengths frames) buffered.length [] = 0 := by
        cases lengths frames with
        | nil => rfl
        | cons w ws => rfl
      rw [hzero]
      rfl
    · rw [listen_waits hend] at hpossible
      exact absurd rfl hpossible
    -- The listener wakes for the first portion that brings something.
    have hidle' : arriving idle = [] := by
      rw [← List.length_eq_zero_iff, ← sum_portions, hidle]
      rfl
    have hall : buffered ++ arriving reads = (buffered ++ portion) ++ arriving rest := by
      rw [hreads, arriving_append, hidle', arriving_cons, List.nil_append, List.append_assoc]
      rfl
    have hportions : portions reads = portion.length :: portions rest := by
      rw [hreads, portions_append, hidle]
      rfl
    have hflowing' : Flowing rest := by
      intro heof
      refine hflowing ?_
      change Read.eof ∈ reads
      rw [hreads]
      exact List.mem_append_right idle (List.mem_cons_of_mem _ heof)
    -- What it holds with that portion is still the beginning of the stream.
    change buffered ++ arriving reads <+: stream frames at hstream
    change _ = (frames.take (deliver (lengths frames) buffered.length (portions reads))).map _
    rw [hall] at hstream
    cases frames with
    | nil =>
        -- There is no portion of an empty stream.
        have hnil := List.prefix_nil.mp hstream
        rw [List.append_assoc, List.append_eq_nil_iff, List.append_eq_nil_iff] at hnil
        exact absurd hnil.2.1 hportion
    | cons f fs =>
        rw [stream_cons] at hstream
        have htaken := takes_of_wellFormed f.wellFormed ⟨buffered ++ portion, rest⟩ hflowing'
          (Comparable.left (Or.inl hstream))
        cases htaken with
        | impossible hread =>
            rw [listen_stops hend hread] at hpossible
            exact absurd rfl hpossible
        -- It reads on within this signal, and is not back before the end.
        | waits hread hshort =>
            rw [listen_stops hend hread, hportions]
            have hzero : deliver (lengths (f :: fs)) buffered.length
                (portion.length :: portions rest) = 0 := by
              refine deliver_eq_zero (lengths fs) ?_
              rw [List.sum_cons, sum_portions, ← Nat.add_assoc, ← List.length_append,
                ← List.length_append]
              exact hshort
            rw [hzero]
            rfl
        | returns used rest' left hreads' hread hleft hneeded =>
            have hused : rest = used ++ rest' := hreads'
            rw [listen_signal hend hread] at hpossible ⊢
            -- What the listener holds and what is to come is what the signal left.
            have hnext : left ++ arriving rest' <+: stream fs := by
              rw [hused, arriving_append, ← List.append_assoc, hleft, List.append_assoc] at hstream
              exact (List.prefix_append_right_inj f.bytes).mp hstream
            have hless : rest'.length < n := by
              rw [← hlength, hreads, hused]
              simp only [List.length_append, List.length_cons]
              omega
            have hflowing'' : Flowing rest' := fun heof =>
              hflowing' (hused ▸ List.mem_append_right used heof)
            -- One signal less is left, and some reads fewer.
            have hrest := ih rest'.length hless fs ⟨left, rest'⟩ hflowing'' hnext hpossible rfl
            have hdeliver : deliver (lengths (f :: fs)) buffered.length (portions reads)
                = 1 + deliver (lengths fs) left.length (portions rest') := by
              rw [hportions, hused, portions_append]
              exact (deliver_turn f fs hleft hneeded).1 (portions rest')
            rw [hdeliver, Nat.add_comm, List.take_succ_cons, List.map_cons, hrest]

/-- A way a stream of signals arrives while the listener reads it: timeouts
    where it waits for a signal, and portions no longer than each read asks
    for. -/
structure Splits (frames : List Frame) (reads : List (Read UInt8)) : Prop where
  arrives : arriving reads = stream frames
  flowing : Flowing reads
  possible : ∀ pre, pre <+: reads → (listen ⟨[], pre⟩).2 ≠ .impossible

/-- The signals whose last byte is among the first bytes of a stream. -/
def completed (frames : List Frame) (received : Nat) : List ServerSignal :=
  (frames.take (complete (lengths frames) received)).map Frame.signal

/-- Whenever the listener waits, it has processed the signals whose last byte
    has arrived, and no other. -/
def Prompt (frames : List Frame) (reads : List (Read UInt8)) : Prop :=
  ∀ pre, pre <+: reads → (listen ⟨[], pre⟩).1 = completed frames (arriving pre).length

/-- No read brings the last bytes of two signals. -/
def OneSignalEach (frames : List Frame) (reads : List (Read UInt8)) : Prop :=
  OneEach (lengths frames) 0 (portions reads)

theorem Splits.listen_eq {frames : List Frame} {reads pre : List (Read UInt8)}
    (h : Splits frames reads) (hpre : pre <+: reads) : (listen ⟨[], pre⟩).1
      = (frames.take (deliver (lengths frames) 0 (portions pre))).map Frame.signal := by
  rcases hpre with ⟨post, hpost⟩
  refine SignalListener.listen_eq frames ⟨[], pre⟩ ?_ ?_ (h.possible pre ⟨post, hpost⟩)
  · exact fun heof => h.flowing (hpost ▸ List.mem_append_left post heof)
  · rw [List.nil_append, ← h.arrives, ← hpost, arriving_append]
    exact List.prefix_append _ _

/-- Signals are processed in the order in which they were sent, however they
    arrive. -/
theorem signals_prefix {frames : List Frame} {reads : List (Read UInt8)}
    (h : Splits frames reads) : (listen ⟨[], reads⟩).1 <+: frames.map Frame.signal := by
  rw [h.listen_eq (List.prefix_refl reads), List.map_take]
  exact List.take_prefix _ _

/-- No signal waits for a byte that is not its own exactly if no read brings
    the last bytes of two. -/
theorem prompt_iff {frames : List Frame} {reads : List (Read UInt8)} (h : Splits frames reads) :
    Prompt frames reads ↔ OneSignalEach frames reads := by
  -- No signal is empty.
  have hframes : 0 ∉ lengths frames := by
    intro hzero
    rcases List.mem_map.mp hzero with ⟨f, -, hf⟩
    exact absurd f.length_pos (Nat.not_lt.mpr (Nat.le_of_eq hf))
  have hcount : (lengths frames).length = frames.length := List.length_map _
  rw [OneSignalEach, ← keeps_up_iff hframes]
  constructor
  · intro hprompt p hp
    rcases hp with ⟨q, hpq⟩
    -- The portions are those of a beginning of the reads.
    rcases List.filterMap_eq_append_iff.mp hpq.symm with ⟨pre, post, hreads, rfl, -⟩
    have hpre : pre <+: reads := ⟨post, hreads.symm⟩
    have hsame := (h.listen_eq hpre).symm.trans (hprompt pre hpre)
    have hlengths := congrArg List.length hsame
    change deliver (lengths frames) 0 (portions pre) = complete _ (portions pre).sum
    rw [completed, List.length_map, List.length_map, List.length_take, List.length_take,
      ← sum_portions] at hlengths
    -- Neither count is more than the signals there are, so both are the same.
    have hdeliver := deliver_le (lengths frames) 0 (portions pre)
    have hcomplete := complete_le (lengths frames) (portions pre).sum
    omega
  · intro hkeeps pre hpre
    rcases hpre with ⟨post, hpost⟩
    have hportions : portions pre <+: portions reads :=
      ⟨portions post, by rw [← hpost, portions_append]⟩
    rw [h.listen_eq ⟨post, hpost⟩, hkeeps _ hportions, sum_portions]
    rfl

/-- All signals of a stream are complete when it has arrived. -/
theorem completed_all {frames : List Frame} {reads : List (Read UInt8)} (h : Splits frames reads) :
    completed frames (arriving reads).length = frames.map Frame.signal := by
  have hcount : (lengths frames).length = frames.length := List.length_map _
  rw [completed, h.arrives, length_stream, complete_sum, hcount, List.take_length]

/-- However a stream of signals arrives in two ways, the listener processes
    the same signals in the same order, and each as soon as its last byte is
    there, if and only if in neither of them a read brings the last bytes of
    two signals. -/
theorem delivery_iff (frames : List Frame) (first second : List (Read UInt8))
    (hfirst : Splits frames first) (hsecond : Splits frames second) :
    ((listen ⟨[], first⟩).1 = (listen ⟨[], second⟩).1 ∧
      Prompt frames first ∧ Prompt frames second) ↔
    OneSignalEach frames first ∧ OneSignalEach frames second := by
  rw [← prompt_iff hfirst, ← prompt_iff hsecond]
  constructor
  · intro h
    exact h.2
  · intro h
    refine ⟨?_, h⟩
    rw [h.1 first (List.prefix_refl _), h.2 second (List.prefix_refl _), completed_all hfirst,
      completed_all hsecond]

/-- The server says that the phone rings. -/
def ringing : Frame where
  bytes := ascii "RING /session/7 HTTP/1.0\r\nContent-Length: 0\r\n\r\n"
  signal := ⟨Text.ofString "RING", Text.ofString "/session/7", [], 7⟩
  wellFormed := by
    unfold WellFormed
    decide +kernel

/-- The server says that the other side has hung up. -/
def hungUp : Frame where
  bytes := ascii "DELETE /session/7 HTTP/1.0\r\n\r\n"
  signal := ⟨Text.ofString "DELETE", Text.ofString "/session/7", [], 7⟩
  wellFormed := by
    unfold WellFormed
    decide +kernel

/-- A way a stream arrives that can be tried out. -/
theorem splits_of_check {frames : List Frame} {reads : List (Read UInt8)}
    (harrives : arriving reads = stream frames) (hflowing : Flowing reads)
    (hpossible : ∀ pre ∈ reads.inits, (listen ⟨[], pre⟩).2 ≠ .impossible) :
    Splits frames reads :=
  ⟨harrives, hflowing, fun pre hpre => hpossible pre ((List.mem_inits pre reads).mpr hpre)⟩

/-- One after the other, with a timeout between them. -/
def separate : List (Read UInt8) := [.data ringing.bytes, .timeout, .data hungUp.bytes]

/-- One after the other, the first in two pieces. -/
def broken : List (Read UInt8) :=
  [.data (ringing.bytes.take 20), .data (ringing.bytes.drop 20), .data hungUp.bytes]

/-- Both at once. -/
def coalesced : List (Read UInt8) := [.data (ringing.bytes ++ hungUp.bytes)]

theorem splits_separate : Splits [ringing, hungUp] separate :=
  splits_of_check (by decide +kernel) (by unfold Flowing; decide +kernel) (by decide +kernel)

theorem splits_broken : Splits [ringing, hungUp] broken :=
  splits_of_check (by decide +kernel) (by unfold Flowing; decide +kernel) (by decide +kernel)

theorem splits_coalesced : Splits [ringing, hungUp] coalesced :=
  splits_of_check (by decide +kernel) (by unfold Flowing; decide +kernel) (by decide +kernel)

theorem delivery_iff_broken :
    ((listen ⟨[], separate⟩).1 = (listen ⟨[], broken⟩).1 ∧
      Prompt [ringing, hungUp] separate ∧ Prompt [ringing, hungUp] broken) ↔
    OneSignalEach [ringing, hungUp] separate ∧ OneSignalEach [ringing, hungUp] broken :=
  delivery_iff [ringing, hungUp] separate broken splits_separate splits_broken

/-- A hangup that arrives together with the signal before it is not
    processed, and the call it ends goes on. -/
theorem delivery_delayed : Splits [ringing, hungUp] coalesced ∧
    listen ⟨[], coalesced⟩ = ([ringing.signal], .waits) ∧
    listen ⟨[], separate⟩ = ([ringing.signal, hungUp.signal], .waits) ∧
    ¬ Prompt [ringing, hungUp] coalesced := by
  have hlisten : listen ⟨[], coalesced⟩ = ([ringing.signal], .waits) := by decide +kernel
  refine ⟨splits_coalesced, hlisten, by decide +kernel, fun h => ?_⟩
  have hall := h coalesced (List.prefix_refl _)
  rw [completed_all splits_coalesced, hlisten] at hall
  exact absurd (congrArg List.length hall) (by decide)

end SignalListener

end RedPhone
