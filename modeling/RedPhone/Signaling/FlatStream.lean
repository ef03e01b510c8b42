import RedPhone.Signaling.Malformed

/-!
# The Line Reader and the Flat Stream

Three calls share the buffer of a `LineReader`. A line is looked for in it and
what lies behind the line is put back; a body is filled from it and the rest is
put back; and a wait puts in what the socket has. Between the calls, what is
buffered and what is still to come make up the part of the stream that no call
has returned, in its order, and that is all a call depends on: it returns what
a reader of the stream in one piece would return, or throws where that reader
would.

What a wait answers is the exception, as it asks for something that is not in
the stream: whether a portion has come. It takes nothing from the stream, and
says yes exactly when it has put a portion in the buffer.

A connection is a list of reads here that ends with the end of the stream, as
often as it is asked for. A list in which a read returns more than its call
asks for, or nothing, cannot be.

## Main definitions

* `Call`, `Result`: The calls, and what they return.
* `runCalls`: Calls one after the other, up to the first exception.
* `FlatStep`, `FlatFails`: A reader of the stream in one piece.
* `FlatRun`: The same calls to it.

## Theorems

* `infix_of_findNewline`: A newline is found if there is one.
* `call_flat`: What a call returns, of the part of the stream that is left.
* `flatRun_runCalls`: A run of calls is a run on the flat stream.
* `flatRun_deterministic`: That is one run, but for the waits.
* `flat_stream`: Both, for every connection.
-/

namespace RedPhone

open Reading LineReader

namespace LineReader

/-- The calls of a `LineReader`. -/
inductive Call
  | readLine
  | readFully (size : Nat)
  | waitForAvailable
  deriving DecidableEq, Repr

/-- What a call returns. -/
inductive Result
  | line (text : List Nat)
  | body (bytes : Bytes)
  | available (answer : Bool)
  deriving DecidableEq, Repr

/-- A call, by its method. -/
def Call.run : Call → ByteReader Result
  | .readLine => do
    let text ← LineReader.readLine
    return .line text
  | .readFully size => do
    let bytes ← LineReader.readFully size
    return .body bytes
  | .waitForAvailable => do
    let answer ← LineReader.waitForAvailable
    return .available answer

/-- The results of calls up to the first one that does not return, and how the
    last one made ended. -/
def runCalls : List Call → Source UInt8 →
    List Result × Except (Stop SignalingFailure) (Source UInt8)
  | [], s => ([], .ok s)
  | call :: calls, s => match call.run s with
    | .error e => ([], .error e)
    | .ok (result, s') => (result :: (runCalls calls s').1, (runCalls calls s').2)

/-- What calls have left of the stream, or the exception that ended them. -/
def outcome : Except (Stop SignalingFailure) (Source UInt8) →
    Option (Except SignalingFailure Bytes)
  | .ok s => some (.ok (s.buffered ++ arriving s.reads))
  | .error (.threw e) => some (.error e)
  | .error _ => none

/-- A connection that delivers some reads and is at its end then. -/
def closing (reads : List (Read UInt8)) (calls : List Call) : Source UInt8 :=
  ⟨[], reads ++ List.replicate calls.length .eof⟩

/-! ## The flat stream -/

/-- What a call to a reader of the whole stream returns and leaves: the bytes
    before the first newline, the bytes asked for, or an answer, which is only
    yes if there is something to come. -/
inductive FlatStep : Bytes → Call → Result → Bytes → Prop
  | line (line left : Bytes) (hfirst : ¬ CRLF <:+: line ++ [0x0d]) :
      FlatStep (line ++ CRLF ++ left) .readLine (.line (Text.decodeUtf8 line)) left
  | body (body left : Bytes) :
      FlatStep (body ++ left) (.readFully body.length) (.body body) left
  | available (w : Bytes) (answer : Bool) (hmore : answer = true → w ≠ []) :
      FlatStep w .waitForAvailable (.available answer) w

/-- Where such a call throws: there is no newline, or there are too few bytes. -/
inductive FlatFails : Bytes → Call → SignalingFailure → Prop
  | line (w : Bytes) (hnone : ¬ CRLF <:+: w) :
      FlatFails w .readLine (.io "Stream closed before newline found...")
  | body (w : Bytes) (size : Nat) (hshort : w.length < size) :
      FlatFails w (.readFully size) (.io "Socket closed before buffer filled...")

/-- Calls to a reader of the whole stream, with their results, and the stream
    they leave or the exception that ended them. -/
inductive FlatRun : Bytes → List Call → List Result → Except SignalingFailure Bytes → Prop
  | nil (w : Bytes) : FlatRun w [] [] (.ok w)
  | cons {w w' : Bytes} {call : Call} {calls : List Call} {result : Result}
      {results : List Result} {outcome : Except SignalingFailure Bytes}
      (hstep : FlatStep w call result w') (hrest : FlatRun w' calls results outcome) :
      FlatRun w (call :: calls) (result :: results) outcome
  | throws {w : Bytes} {call : Call} {calls : List Call} {e : SignalingFailure}
      (hfails : FlatFails w call e) : FlatRun w (call :: calls) [] (.error e)

/-- The results without the answers of the waits. -/
def Result.ofStream : Result → Option Result
  | .available _ => none
  | result => some result

/-- The newline is where it is first. -/
theorem infix_of_findNewline (w : Bytes) : findNewline w = none ↔ ¬ CRLF <:+: w := by
  induction w with
  | nil => exact iff_of_true rfl (by decide)
  | cons c w ih =>
      cases w with
      | nil =>
          refine iff_of_true rfl (fun h => ?_)
          have hle : 2 ≤ 1 := h.length_le
          exact absurd hle (by decide)
      | cons d w =>
          -- A newline stands at the front if the first two bytes are one.
          have hfront : CRLF <+: c :: d :: w ↔ d = 0x0a ∧ c = 0x0d := by
            unfold CRLF
            rw [List.cons_prefix_cons, List.cons_prefix_cons]
            constructor
            · rintro ⟨hc, hd, _⟩
              exact ⟨hd.symm, hc.symm⟩
            · rintro ⟨hd, hc⟩
              exact ⟨hc.symm, hd.symm, List.nil_prefix⟩
          rw [findNewline_none, ih, ← hfront, ← not_or]
          exact not_congr List.infix_cons_iff.symm

/-- A line that is taken ends at the first newline. -/
theorem takeLine_flat {w left : Bytes} {text : List Nat} (h : takeLine w = some (text, left)) :
    FlatStep w .readLine (.line text) left := by
  rcases takeLine_some h with ⟨line, hchomp, rfl⟩
  rw [chompLine, Option.map_eq_some_iff] at hchomp
  rcases hchomp with ⟨i, hi, hparts⟩
  rcases findNewline_some hi with ⟨line', left', rfl, rfl, hnone⟩
  rw [List.take_left, ← List.drop_drop, List.drop_left, Prod.mk.injEq] at hparts
  rcases hparts with ⟨rfl, rfl⟩
  rw [← List.append_assoc]
  exact .line line' left' ((infix_of_findNewline _).mp hnone)

theorem takeLine_none {w : Bytes} (h : takeLine w = none) : ¬ CRLF <:+: w := by
  rw [takeLine, Option.map_eq_none_iff, chompLine, Option.map_eq_none_iff] at h
  exact (infix_of_findNewline w).mp h

/-! ## One call -/

/-- How a call ends, given the part of the stream that is left and how often
    the end of the connection can still be read. -/
inductive CallEnds (call : Call) (w : Bytes) (n : Nat) (s : Source UInt8) : Prop
  | impossible (hend : call.run s = .error .impossible)
  | throws (e : SignalingFailure) (hfails : FlatFails w call e)
      (hend : call.run s = .error (.threw e))
  | returns (result : Result) (left : Bytes) (rest : List (Read UInt8)) (k : Nat) (hk : n ≤ k + 1)
      (hflowing : Flowing rest) (hstep : FlatStep w call result (left ++ arriving rest))
      (hend : call.run s = .ok (result, ⟨left, rest ++ List.replicate k .eof⟩))

/-- A reader that parses the stream, as a call. -/
theorem callEnds_of_parses {α : Type} {f : ByteReader α} {found : Bytes → Option (α × Bytes)}
    {message : SignalingFailure} {call : Call} {wrap : α → Result}
    (hparses : Parses f (.ofFound found) (· = message))
    (hrun : ∀ s, call.run s = (f >>= fun a => (return wrap a : ByteReader Result)) s)
    (hstep : ∀ w a left, found w = some (a, left) → FlatStep w call (wrap a) left)
    (hfails : ∀ w, found w = none → FlatFails w call message)
    (buffered : Bytes) (reads : List (Read UInt8)) (hflowing : Flowing reads) (n : Nat) :
    CallEnds call (buffered ++ arriving reads) (n + 1)
      ⟨buffered, reads ++ List.replicate (n + 1) .eof⟩ := by
  cases hparses buffered reads hflowing with
  | impossible _ _ hmore =>
      refine .impossible ?_
      rw [hrun, bind_eq, hmore]
  | waits hfound _ hclosed =>
      -- Where more would be waited for, the end of the connection comes.
      rcases hclosed (List.replicate n .eof) with ⟨e, rfl, hthrew⟩
      refine .throws e (hfails _ (Option.map_eq_none_iff.mp hfound)) ?_
      rw [hrun, bind_eq, List.replicate_succ, hthrew]
  | threw e hfound _ => exact absurd hfound (Parse.ofFound_error _ e)
  | returns a left rest hfound hrest hend =>
      refine .returns (wrap a) left rest (n + 1) (by omega) (hflowing.suffix hrest)
        (hstep _ _ _ ((Parse.ofFound_ok _ _ _).mp hfound)) ?_
      rw [hrun, bind_eq, hend]
      rfl

/-- A wait asks the socket, and takes nothing from the stream. -/
theorem callEnds_wait (buffered : Bytes) (reads : List (Read UInt8)) (hflowing : Flowing reads)
    (n : Nat) : CallEnds .waitForAvailable (buffered ++ arriving reads) (n + 1)
      ⟨buffered, reads ++ List.replicate (n + 1) .eof⟩ := by
  cases reads with
  | nil =>
      exact .returns (.available false) buffered [] n (Nat.le_refl _) hflowing
        (.available _ false (fun h => nomatch h)) rfl
  | cons r reads =>
      have hrest : Flowing reads := hflowing.suffix (List.suffix_cons r reads)
      cases r with
      | eof => exact absurd List.mem_cons_self hflowing
      | timeout =>
          exact .returns (.available false) buffered reads (n + 1) (by omega) hrest
            (.available _ false (fun h => nomatch h)) rfl
      | data portion =>
          have hall : buffered ++ arriving (.data portion :: reads)
              = (buffered ++ portion) ++ arriving reads := by
            rw [arriving_cons, List.append_assoc]
            rfl
          have hrun : ∀ more, Call.waitForAvailable.run ⟨buffered, .data portion :: more⟩
              = if Fits 500 portion then
                  .ok (.available true, ⟨buffered ++ portion, more⟩)
                else .error .impossible := by
            intro more
            rw [Call.run, bind_eq, waitForAvailable]
            by_cases hfits : Fits 500 portion
            · simp only [if_pos hfits]
              rfl
            · simp only [if_neg hfits]
          by_cases hfits : Fits 500 portion
          · -- The portion that came goes from the socket to the buffer.
            refine .returns (.available true) (buffered ++ portion) reads (n + 1) (by omega) hrest
              ?_ ((hrun _).trans (if_pos hfits))
            rw [hall]
            refine .available _ true (fun _ hnil => hfits.1 ?_)
            rw [List.append_assoc, List.append_eq_nil_iff, List.append_eq_nil_iff] at hnil
            exact hnil.2.1
          · exact .impossible ((hrun _).trans (if_neg hfits))

/-- Every call ends as it would on the part of the stream that is left. -/
theorem call_flat (call : Call) (buffered : Bytes) (reads : List (Read UInt8))
    (hflowing : Flowing reads) (n : Nat) :
    CallEnds call (buffered ++ arriving reads) (n + 1)
      ⟨buffered, reads ++ List.replicate (n + 1) .eof⟩ := by
  cases call with
  | readLine =>
      exact callEnds_of_parses parses_readLine_exact (fun _ => rfl)
        (fun _ _ _ h => takeLine_flat h) (fun _ h => .line _ (takeLine_none h)) buffered reads
        hflowing n
  | readFully size =>
      -- A body is found when there are enough bytes.
      have hparse : takeBody (size : Int) = .ofFound fun w : Bytes =>
          if size ≤ w.length then some (w.take size, w.drop size) else none := by
        funext w
        unfold takeBody Parse.ofFound
        rw [if_neg (Int.not_lt.mpr (Int.natCast_nonneg size)), Int.toNat_natCast]
        by_cases hlong : size ≤ w.length
        · simp only [if_pos hlong, Option.map_some]
        · simp only [if_neg hlong, Option.map_none]
      have hparses := parses_readFully_exact (size : Int)
      rw [hparse] at hparses
      refine callEnds_of_parses hparses (fun _ => rfl) (fun w body left h => ?_) (fun w h => ?_)
        buffered reads hflowing n
      · rw [Option.ite_none_right_eq_some, Option.some.injEq, Prod.mk.injEq] at h
        rcases h with ⟨hlong, rfl, rfl⟩
        have hlength : (w.take size).length = size := List.length_take_of_le hlong
        have hbody := FlatStep.body (w.take size) (w.drop size)
        rw [List.take_append_drop, hlength] at hbody
        exact hbody
      · refine .body w size (Nat.lt_of_not_le fun hlong => ?_)
        rw [if_pos hlong] at h
        exact nomatch h
  | waitForAvailable => exact callEnds_wait buffered reads hflowing n

/-! ## Runs -/

theorem arriving_eof (k : Nat) : arriving (List.replicate k (.eof : Read UInt8)) = [] := by
  induction k with
  | zero => rfl
  | succ k ih =>
      rw [List.replicate_succ, arriving_cons, ih]
      rfl

/-- Every run that can be is a run on the flat stream. What is buffered and
    what is still to come make up what it leaves. -/
theorem flatRun_runCalls (calls : List Call) (buffered : Bytes) (reads : List (Read UInt8))
    (hflowing : Flowing reads) (k : Nat) (hk : calls.length ≤ k)
    (hpossible : (runCalls calls ⟨buffered, reads ++ List.replicate k .eof⟩).2
      ≠ .error .impossible) :
    ∃ end', outcome (runCalls calls ⟨buffered, reads ++ List.replicate k .eof⟩).2 = some end' ∧
      FlatRun (buffered ++ arriving reads) calls
        (runCalls calls ⟨buffered, reads ++ List.replicate k .eof⟩).1 end' := by
  induction calls generalizing buffered reads k with
  | nil =>
      refine ⟨_, rfl, ?_⟩
      rw [arriving_append, arriving_eof, List.append_nil]
      exact .nil _
  | cons call calls ih =>
      cases k with
      | zero => exact absurd hk (Nat.not_succ_le_zero _)
      | succ k =>
          rw [runCalls] at hpossible ⊢
          cases call_flat call buffered reads hflowing k with
          | impossible hend =>
              rw [hend] at hpossible
              exact absurd rfl hpossible
          | throws e hfails hend =>
              rw [hend]
              exact ⟨_, rfl, .throws hfails⟩
          | returns result left rest k' hk' hrest hstep hend =>
              rw [hend] at hpossible ⊢
              rw [List.length_cons] at hk
              -- The rest of the calls goes on with what this one has left.
              rcases ih left rest hrest k' (by omega) hpossible with ⟨end', hend', hrun⟩
              exact ⟨end', hend', .cons hstep hrun⟩

/-- A line or a body is determined by the stream. -/
theorem flatStep_deterministic {w left left' : Bytes} {call : Call} {result result' : Result}
    (h : FlatStep w call result left) (h' : FlatStep w call result' left') :
    left = left' ∧ result.ofStream = result'.ofStream := by
  -- The first end of a line is at one place only.
  have hline : ∀ line left : Bytes, ¬ CRLF <:+: line ++ [0x0d] →
      chompLine (line ++ CRLF ++ left) = some (line, left) := by
    intro line left hfirst
    rw [List.append_assoc]
    exact chompLine_line ((infix_of_findNewline _).mpr hfirst) left
  cases h with
  | line line left hfirst =>
      generalize hw : line ++ CRLF ++ left = w at h'
      cases h' with
      | line line' left' hfirst' =>
          have hsame := hline line left hfirst
          rw [hw, hline line' left' hfirst', Option.some.injEq, Prod.mk.injEq] at hsame
          rw [hsame.1, hsame.2]
          exact ⟨rfl, rfl⟩
  | body body left =>
      generalize hw : body ++ left = w at h'
      generalize hsize : body.length = size at h'
      cases h' with
      | body body' left' =>
          rcases List.append_inj hw hsize with ⟨rfl, rfl⟩
          exact ⟨rfl, rfl⟩
  | available w answer hmore =>
      cases h' with
      | available w' answer' hmore' => exact ⟨rfl, rfl⟩

/-- A call that returns on the flat stream does not throw on it. -/
theorem not_flatFails_of_flatStep {w left : Bytes} {call : Call} {result : Result}
    {e : SignalingFailure} (h : FlatStep w call result left) : ¬ FlatFails w call e := by
  intro hfails
  cases h with
  | line line left hfirst =>
      generalize hw : line ++ CRLF ++ left = w at hfails
      cases hfails with
      | line hnone => exact hnone ⟨line, left, hw⟩
  | body body left =>
      generalize hw : body ++ left = w at hfails
      generalize hsize : body.length = size at hfails
      cases hfails with
      | body size hshort =>
          rw [← hw, ← hsize, List.length_append] at hshort
          omega
  | available w answer hmore => cases hfails

/-- But for the answers of the waits, there is one run of the calls. -/
theorem flatRun_deterministic {w : Bytes} {calls : List Call} {results results' : List Result}
    {outcome outcome' : Except SignalingFailure Bytes} (h : FlatRun w calls results outcome)
    (h' : FlatRun w calls results' outcome') :
    results.map Result.ofStream = results'.map Result.ofStream ∧ outcome = outcome' := by
  induction h generalizing results' outcome' with
  | nil w =>
      cases h'
      exact ⟨rfl, rfl⟩
  | cons hstep hrest ih =>
      cases h' with
      | cons hstep' hrest' =>
          rcases flatStep_deterministic hstep hstep' with ⟨rfl, hresult⟩
          rcases ih hrest' with ⟨hresults, houtcome⟩
          refine ⟨?_, houtcome⟩
          rw [List.map_cons, List.map_cons, hresult, hresults]
      | throws hfails => exact absurd hfails (not_flatFails_of_flatStep hstep)
  | throws hfails =>
      cases h' with
      | cons hstep' hrest' => exact absurd hfails (not_flatFails_of_flatStep hstep')
      | throws hfails' =>
          refine ⟨rfl, ?_⟩
          cases hfails with
          | line => cases hfails'; rfl
          | body => cases hfails'; rfl

/-- What a wait does: it takes nothing from the stream, and says yes exactly if
    a portion comes next, which it puts in the buffer. -/
theorem waitForAvailable_ok {s s' : Source UInt8} {answer : Bool}
    (h : waitForAvailable s = .ok (answer, s')) :
    s'.buffered ++ arriving s'.reads = s.buffered ++ arriving s.reads ∧
      (answer = true ↔ ∃ portion rest, s.reads = .data portion :: rest) ∧
      ∀ portion rest, s.reads = .data portion :: rest → s' = ⟨s.buffered ++ portion, rest⟩ := by
  rcases s with ⟨buffered, reads⟩
  cases reads with
  | nil => exact nomatch h
  | cons r reads =>
      cases r with
      | data portion =>
          rw [waitForAvailable] at h
          simp only [] at h
          -- A portion goes into the buffer, and nothing else takes or adds a
          -- byte.
          by_cases hfits : Fits 500 portion
          · rw [if_pos hfits, Except.ok.injEq, Prod.mk.injEq] at h
            rcases h with ⟨rfl, rfl⟩
            refine ⟨?_, iff_of_true rfl ⟨portion, reads, rfl⟩, fun portion' rest hreads => ?_⟩
            · rw [arriving_cons, List.append_assoc]
              rfl
            · rcases List.cons.inj hreads with ⟨hportion, hrest⟩
              rw [Read.data.inj hportion, hrest]
          · rw [if_neg hfits] at h
            exact nomatch h
      | timeout =>
          rcases Prod.mk.inj (Except.ok.inj h) with ⟨rfl, rfl⟩
          refine ⟨rfl, iff_of_false Bool.false_ne_true ?_, fun portion rest hreads => ?_⟩
          · rintro ⟨portion, rest, hreads⟩
            exact nomatch hreads
          · exact nomatch hreads
      | eof =>
          rcases Prod.mk.inj (Except.ok.inj h) with ⟨rfl, rfl⟩
          refine ⟨rfl, iff_of_false Bool.false_ne_true ?_, fun portion rest hreads => ?_⟩
          · rintro ⟨portion, rest, hreads⟩
            exact nomatch hreads
          · exact nomatch hreads

/-- For every stream, however it is cut into reads, and for all calls up to the
    first exception: the results are those of a reader of the flat stream, and
    so is the exception or what is left, buffer and socket together. Cut in
    another way the stream gives the same, but for what the waits answer. A wait
    takes nothing from the stream, says yes exactly if its read of the socket
    returns a portion, and puts that in the buffer. -/
theorem flat_stream (calls : List Call) (reads : List (Read UInt8)) (hflowing : Flowing reads)
    (hpossible : (runCalls calls (closing reads calls)).2 ≠ .error .impossible) :
    (∃ end', outcome (runCalls calls (closing reads calls)).2 = some end' ∧
      FlatRun (arriving reads) calls (runCalls calls (closing reads calls)).1 end') ∧
    (∀ reads', Flowing reads' → arriving reads' = arriving reads →
      (runCalls calls (closing reads' calls)).2 ≠ .error .impossible →
      (runCalls calls (closing reads' calls)).1.map Result.ofStream
          = (runCalls calls (closing reads calls)).1.map Result.ofStream ∧
        outcome (runCalls calls (closing reads' calls)).2
          = outcome (runCalls calls (closing reads calls)).2) ∧
    ∀ (s s' : Source UInt8) (answer : Bool),
      Call.waitForAvailable.run s = .ok (.available answer, s') →
      s'.buffered ++ arriving s'.reads = s.buffered ++ arriving s.reads ∧
        (answer = true ↔ ∃ portion rest, s.reads = .data portion :: rest) ∧
        ∀ portion rest, s.reads = .data portion :: rest → s' = ⟨s.buffered ++ portion, rest⟩ := by
  rcases flatRun_runCalls calls [] reads hflowing _ (Nat.le_refl _) hpossible with
    ⟨end', hend, hrun⟩
  refine ⟨⟨end', hend, hrun⟩, ?_, ?_⟩
  · intro reads' hflowing' hsame hpossible'
    rcases flatRun_runCalls calls [] reads' hflowing' _ (Nat.le_refl _) hpossible' with
      ⟨end'', hend'', hrun'⟩
    -- Both are runs of one reader over one stream.
    rw [hsame] at hrun'
    rcases flatRun_deterministic hrun' hrun with ⟨hresults, houtcome⟩
    refine ⟨hresults, ?_⟩
    unfold closing
    rw [hend'', hend, houtcome]
  · intro s s' answer h
    rw [Call.run, bind_eq] at h
    cases hwait : waitForAvailable s with
    | error e =>
        rw [hwait] at h
        exact nomatch h
    | ok p =>
        rw [hwait] at h
        rcases Prod.mk.inj (Except.ok.inj h) with ⟨hanswer, hs⟩
        rw [← hs, ← Result.available.inj hanswer]
        exact waitForAvailable_ok hwait

/-- A newline that is cut in two, behind a body. -/
theorem flat_stream_cut :
    ∃ end', outcome (runCalls [.readFully 2, .waitForAvailable, .readLine]
        (closing [.data [0x61, 0x62], .data [0x63, 0x0d], .data [0x0a, 0x64]]
          [.readFully 2, .waitForAvailable, .readLine])).2 = some end' ∧
      FlatRun [0x61, 0x62, 0x63, 0x0d, 0x0a, 0x64] [.readFully 2, .waitForAvailable, .readLine]
        (runCalls [.readFully 2, .waitForAvailable, .readLine]
          (closing [.data [0x61, 0x62], .data [0x63, 0x0d], .data [0x0a, 0x64]]
            [.readFully 2, .waitForAvailable, .readLine])).1 end' :=
  (flat_stream [.readFully 2, .waitForAvailable, .readLine]
    [.data [0x61, 0x62], .data [0x63, 0x0d], .data [0x0a, 0x64]] (by unfold Flowing; decide)
    (by decide +kernel)).1

end LineReader

end RedPhone
