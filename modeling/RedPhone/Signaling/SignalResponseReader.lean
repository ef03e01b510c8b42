import RedPhone.Directory.BloomFilter
import RedPhone.Java.Words
import RedPhone.Signaling.Malformed

/-!
# Responses from the Server

A response is a line with a status, headers down to an empty line and a body,
and the headers and the body are read as those of a signal. Nothing marks a
response as one. Where a signal of the server stands in its place the request
line is taken for the line with the status, and what should be the status is
the location.

## Main definitions

* `SignalResponseReader.readSignalResponseCode`, `readSignalResponse`: Reading
  one.
* `takeResponse`: What it comes to, from the bytes.
* `IsResponse`: The bytes of a response.

## Theorems

* `parses_readSignalResponse`: Responses do not depend on the portions they
  arrive in.
* `takeResponse_append`: Nor on what follows them.
* `statusOf_crossed`: A signal about a session in the place of a response.
-/

namespace RedPhone

open Reading LineReader SignalReader

namespace Text

/-- `s.split(" ", limit)`: at most so many parts, and the last one is all that
    is left. -/
def splitLimit : Nat → List Nat → List (List Nat)
  | 0, s => [s]
  | 1, s => [s]
  | limit + 2, s =>
    if 0x20 ∈ s then
      s.takeWhile (· ≠ 0x20) :: splitLimit (limit + 1) (s.dropWhile (· ≠ 0x20)).tail
    else [s]

/-- A number in the text of a message. -/
def ofInt (n : Int) : List Nat := if n < 0 then 0x2d :: decimal n.natAbs else decimal n.natAbs

theorem splitLimit_append (limit : Nat) (part rest : List Nat) (hpart : 0x20 ∉ part) :
    splitLimit (limit + 2) (part ++ 0x20 :: rest) = part :: splitLimit (limit + 1) rest := by
  have hkeep : ∀ c ∈ part, decide (c ≠ 0x20) = true := by
    intro c hc
    exact decide_eq_true fun h => hpart (h ▸ hc)
  rw [splitLimit, if_pos (List.mem_append_right _ List.mem_cons_self),
    List.takeWhile_append_of_pos hkeep, List.dropWhile_append_of_pos hkeep]
  simp only [List.takeWhile_cons, List.dropWhile_cons, ne_eq, not_true_eq_false, decide_false,
    Bool.false_eq_true, if_false, List.append_nil, List.tail_cons]

/-- Where there are two parts there is a space between the first and the
    rest. -/
theorem parts_cons (s p q : List Nat) (ps : List (List Nat)) (h : parts s = p :: q :: ps) :
    ∃ rest, s = p ++ 0x20 :: rest ∧ 0x20 ∉ p ∧ parts rest = q :: ps := by
  induction s generalizing p with
  | nil => simp only [parts, List.cons.injEq, reduceCtorEq, and_false] at h
  | cons c s ih =>
      rw [parts] at h
      by_cases hspace : c = 0x20
      · rw [if_pos hspace, List.cons.injEq] at h
        refine ⟨s, ?_, ?_, h.2⟩
        · rw [← h.1, hspace, List.nil_append]
        · rw [← h.1]
          exact List.not_mem_nil
      · rw [if_neg hspace] at h
        cases hparts : parts s with
        | nil =>
            rw [hparts] at h
            simp only [List.cons.injEq, reduceCtorEq, and_false] at h
        | cons p' ps' =>
            rw [hparts] at h
            simp only [List.cons.injEq] at h
            rcases ih p' (by rw [hparts, h.2]) with ⟨rest, hs, hnot, hrest⟩
            refine ⟨rest, ?_, ?_, hrest⟩
            · rw [hs, ← h.1, List.cons_append]
            · rw [← h.1, List.mem_cons, not_or]
              exact ⟨fun hc => hspace hc.symm, hnot⟩

/-- A line of three words begins with the first two of them. -/
theorem splitLimit_split (line : List Nat) (h : (split line).length = 3) :
    ∃ third, splitLimit 3 line = [(split line).getD 0 [], (split line).getD 1 [], third] := by
  have hspace : 0x20 ∈ line := by
    by_contra hnone
    rw [split, if_neg hnone] at h
    simp only [List.length_singleton, OfNat.one_ne_ofNat] at h
  rw [split, if_pos hspace] at h ⊢
  -- Only parts at the end are dropped.
  have hprefix : ((parts line).reverse.dropWhile List.isEmpty).reverse <+: parts line := by
    have hsuffix := List.reverse_prefix.mpr (List.dropWhile_suffix List.isEmpty
      (l := (parts line).reverse))
    rw [List.reverse_reverse] at hsuffix
    exact hsuffix
  rcases List.length_eq_three.mp h with ⟨a, b, c, hwords⟩
  rw [hwords] at hprefix ⊢
  rcases hprefix with ⟨rest, hparts⟩
  rcases parts_cons line a b (c :: rest) hparts.symm with ⟨line', hline, ha, hparts'⟩
  rcases parts_cons line' b c rest hparts' with ⟨line'', hline', hb, _⟩
  refine ⟨line'', ?_⟩
  rw [hline, splitLimit_append 1 a line' ha, hline', splitLimit_append 0 b line'' hb]
  rfl

/-- What has a slash in it is no number. -/
theorem parseInt_slash (s : List Nat) (h : 0x2f ∈ s) : parseInt s = none := by
  have hdigits : ∀ s : List Nat, 0x2f ∈ s → digits s = none := by
    intro s h
    unfold digits
    rw [if_neg (List.ne_nil_of_mem h)]
    -- Once a character is not a digit nothing is a number any more.
    have hnone : ∀ s : List Nat, s.foldl (fun acc c => acc.bind fun v =>
        (digit c).map fun d => v * 10 + d) (none : Option Nat) = none := by
      intro s
      induction s with
      | nil => rfl
      | cons c s ih => exact ih
    have hslash : ∀ (s : List Nat) (acc : Option Nat), 0x2f ∈ s → s.foldl (fun acc c => acc.bind
        fun v => (digit c).map fun d => v * 10 + d) acc = none := by
      intro s
      induction s with
      | nil => exact fun _ h => absurd h List.not_mem_nil
      | cons c s ih =>
          intro acc h
          rw [List.foldl_cons]
          rcases List.mem_cons.mp h with rfl | h
          · have hdigit : digit 0x2f = none := by decide
            have hstop : (acc.bind fun v => (digit 0x2f).map fun d => v * 10 + d) = none := by
              rw [hdigit]
              cases acc with
              | none => rfl
              | some v => rfl
            rw [hstop]
            exact hnone s
          · exact ih _ h
    exact hslash s _ h
  unfold parseInt
  split
  · rename_i t
    rw [hdigits t ((List.mem_cons.mp h).resolve_left (by decide)), Option.bind_none]
  · rename_i t
    rw [hdigits t ((List.mem_cons.mp h).resolve_left (by decide)), Option.bind_none]
  · rw [hdigits s h, Option.bind_none]

end Text

/-- The status in a line. -/
def statusOf (responseLine : List Nat) : Except SignalingFailure Int :=
  if responseLine.length = 0 then .error (.signaling (Text.ofString "Failed to read response."))
  else if (Text.splitLimit 3 responseLine).length ≠ 3 then
    .error (.signaling (Text.ofString "Failed to parse response line: " ++ responseLine))
  else match Text.parseInt ((Text.splitLimit 3 responseLine).getD 1 []) with
    | some statusCode => .ok statusCode
    | none =>
      .error (.signaling (Text.ofString "Failed to parse status code from: " ++ responseLine))

def SignalResponseReader.readSignalResponseCode : ByteReader Int := do
  let responseLine ← readLine
  ofExcept (statusOf responseLine)

open SignalResponseReader

/-- `SignalingSocket.readSignalResponse`. -/
def readSignalResponse : ByteReader SignalResponse := mapThrown SignalingFailure.wrapped do
  let responseCode ← readSignalResponseCode
  let headers ← readSignalHeaders
  let body ← readSignalBody headers
  return ⟨responseCode, headers, body⟩

/-! ## Responses, from the bytes -/

/-- The status, in the first line. -/
def takeResponseCode : Parse SignalingFailure UInt8 Int :=
  (Parse.ofFound takeLine).andThen fun responseLine w => some ((statusOf responseLine).map (·, w))

/-- A response, with the exceptions `readSignalResponse` makes of those inside
    it. -/
def takeResponse : Parse SignalingFailure UInt8 SignalResponse :=
  (takeResponseCode.andThen fun responseCode =>
    (Parse.ofFound (takeHeaders [])).andThen fun headers =>
      (takeBody (contentLength headers)).andThen fun body w =>
        some (.ok (⟨responseCode, headers, body⟩, w))).mapThrown SignalingFailure.wrapped

/-- `readSignalResponse` ends as the bytes say. -/
theorem parses_readSignalResponse :
    Parses readSignalResponse takeResponse SignalingFailure.Declared := by
  have hcode : Parses readSignalResponseCode takeResponseCode SignalingFailure.Io :=
    parses_bind parses_readLine fun responseLine =>
      parses_ofExcept SignalingFailure.Io (statusOf responseLine)
  have hparts := parses_bind hcode (fun responseCode =>
    parses_bind (parses_readHeadersFrom []) (fun headers =>
      parses_bind (parses_readSignalBody headers) (fun body =>
        parses_pure SignalingFailure.Io (SignalResponse.mk responseCode headers body))))
  refine parses_mono (parses_mapThrown SignalingFailure.wrapped hparts) ?_
  rintro e ⟨e', ⟨message, rfl⟩, rfl⟩
  trivial

/-- The bytes of a response: all that is read of them, and nothing is
    missing. -/
def IsResponse (bytes : Bytes) (response : SignalResponse) : Prop :=
  takeResponse bytes = some (.ok (response, []))

instance (bytes : Bytes) (response : SignalResponse) : Decidable (IsResponse bytes response) :=
  inferInstanceAs (Decidable (_ = _))

/-- A response is there whatever follows it. -/
theorem takeResponse_append {bytes : Bytes} {response : SignalResponse}
    (h : IsResponse bytes response) (following : Bytes) :
    takeResponse (bytes ++ following) = some (.ok (response, following)) :=
  parses_readSignalResponse.extends h following

/-- Three words are no status if the second is not a number. -/
theorem statusOf_words {line : List Nat} (hwords : (Text.split line).length = 3)
    (hnumber : Text.parseInt ((Text.split line).getD 1 []) = none) : statusOf line =
      .error (.signaling (Text.ofString "Failed to parse status code from: " ++ line)) := by
  have hfull : line.length ≠ 0 := by
    intro hempty
    rw [List.length_eq_zero_iff.mp hempty] at hwords
    exact absurd hwords (by decide)
  rcases Text.splitLimit_split line hwords with ⟨third, hsplit⟩
  unfold statusOf
  rw [if_neg hfull, hsplit, if_neg (fun h => h rfl)]
  simp only [List.getD_cons_succ, List.getD_cons_zero]
  rw [hnumber]

/-- Nothing but what is trimmed is missing of a text. -/
theorem Text.mem_of_mem_trim {c : Nat} {s : List Nat} (h : c ∈ Text.trim s) : c ∈ s := by
  unfold Text.trim at h
  rw [List.mem_reverse] at h
  have hinner := (List.dropWhile_suffix _).subset h
  rw [List.mem_reverse] at hinner
  exact (List.dropWhile_suffix _).subset hinner

/-- The first line of a signal about a session has three words, and taken for
    the line of a response it has no status, as there is a slash in the
    second. -/
theorem statusOf_crossed {w left : Bytes} {signal : ServerSignal}
    (h : takeSignal w = some (.ok (signal, left))) (hsession : signal.sessionId ≠ -1) :
    ∃ line rest, takeLine w = some (line, rest) ∧ statusOf line =
      .error (.signaling (Text.ofString "Failed to parse status code from: " ++ line)) := by
  unfold takeSignal at h
  rw [Parse.mapThrown_ok, Parse.andThen_ok] at h
  rcases h with ⟨request, rest, hrequest, h⟩
  rcases (Parse.andThen_ok _ _ _ _).mp h with ⟨headers, rest', _, h⟩
  rcases (Parse.andThen_ok _ _ _ _).mp h with ⟨body, rest'', _, h⟩
  rcases (takeRequest_ok w rest request).mp hrequest with ⟨line, hline, _, hwords, rfl⟩
  refine ⟨line, rest, hline, statusOf_words hwords ?_⟩
  refine Text.parseInt_slash _ (Text.mem_of_mem_trim ?_)
  -- The location names the session, so there is a slash in it.
  rw [Option.some.injEq] at h
  unfold ServerSignal.create at h
  split at h
  · rename_i hprefix
    exact hprefix.subset (by decide +kernel)
  · simp only [Except.map, Except.ok.injEq, Prod.mk.injEq] at h
    rw [← h.1] at hsession
    exact absurd rfl hsession

end RedPhone
