import RedPhone.Signaling.FlatStream
import RedPhone.Signaling.Signal

/-!
# Signals Read Back

The text of a signal is made by one class and a signal is read by another, and
the two have only the bytes between them in common. They are put together here:
the bytes of a text, with whatever is sent behind them, are read with the three
parts of the reader.

The request line and the headers come out as they were put in. The body is
where the two disagree. It is announced by the length of its string and sent as
bytes in UTF-8, and the reader takes as many bytes as were announced. A body
with a character of more than one byte is cut, and what is cut off stays on the
connection, in front of the next signal.

## Main definitions

* `SignalReader.readFrame`: The three parts of a signal.
* `takeFrame`: What they come to, from the bytes.
* `Signal.IsWord`: What can be a method or a location.
* `Signal.ComesBack`: A signal is read as what it was made of.

## Theorems

* `takeFrame_serialize`: What is read of any signal.
* `Signal.comesBack_iff`: The signals that come back.
* `Signal.comesBack_fails`: One that does not.
-/

namespace RedPhone

open Reading LineReader SignalReader JavaString

/-- The parts of a signal, as `readSignal` reads them one after the other. -/
def SignalReader.readFrame : ByteReader (List (List Nat) × Bytes) := do
  let request ← readSignalRequest
  let headers ← readSignalHeaders
  let body ← readSignalBody headers
  return (request, body)

/-- The parts of a signal, from the bytes. -/
def takeFrame : Parse SignalingFailure UInt8 (List (List Nat) × Bytes) :=
  takeRequest.andThen fun request =>
    (Parse.ofFound (takeHeaders [])).andThen fun headers =>
      (takeBody (contentLength headers)).andThen fun body w => some (.ok ((request, body), w))

theorem parses_readFrame : Parses readFrame takeFrame SignalingFailure.Io :=
  parses_bind parses_readSignalRequest fun request =>
    parses_bind (parses_readHeadersFrom []) fun headers =>
      parses_bind (parses_readSignalBody headers) fun body => parses_pure _ (request, body)

/-! ## Lines -/

/-- The bytes of a text in ASCII, in front of another. -/
theorem getBytes_ascii_append (s t : JavaString) (hs : ∀ u ∈ s, u.toNat < 0x80) :
    getBytes (s ++ t) = (s.map UInt16.toNat).flatMap encodeUtf8 ++ getBytes t := by
  induction s with
  | nil => rfl
  | cons u s ih =>
      rw [List.forall_mem_cons] at hs
      rw [List.cons_append, getBytes, codePoints_cons (by omega), List.flatMap_cons,
        List.map_cons, List.flatMap_cons, List.append_assoc, ← ih hs.2]
      rfl

/-- A line without a line feed inside is read up to its end. -/
theorem takeLine_chars (cs : List Nat) (hcs : ∀ c ∈ cs, c < 0x110000 ∧ c ≠ 0x0a) (w : Bytes) :
    takeLine (cs.flatMap encodeUtf8 ++ (CRLF ++ w)) = some (cs.map written, w) := by
  have hnone : findNewline (cs.flatMap encodeUtf8 ++ [0x0d]) = none := by
    rw [infix_of_findNewline]
    intro hinfix
    -- The newline would need a line feed, and no character has that byte.
    have hmem : (0x0a : UInt8) ∈ cs.flatMap encodeUtf8 ++ [0x0d] :=
      hinfix.subset (by decide)
    rcases List.mem_append.mp hmem with hmem | hmem
    · rcases List.mem_flatMap.mp hmem with ⟨c, hc, hbyte⟩
      have hwritten := mem_encodeUtf8 c (hcs c hc).1 0x0a hbyte (by decide)
      have hten : (0x0a : UInt8).toNat = 0x0a := rfl
      rw [hten] at hwritten
      have hne := (hcs c hc).2
      unfold written at hwritten
      split_ifs at hwritten <;> omega
    · exact absurd hmem (by decide)
  rw [takeLine, chompLine_line hnone, Option.map_some,
    decodeUtf8_written cs (fun c hc => (hcs c hc).1)]

/-- ASCII is read as it is. -/
theorem map_written_ascii (cs : List Nat) (hcs : ∀ c ∈ cs, c < 0x80) : cs.map written = cs := by
  refine (List.map_congr_left fun c hc => ?_).trans (List.map_id cs)
  exact (written_eq_iff c (by have := hcs c hc; omega)).mpr (Or.inl (by have := hcs c hc; omega))

/-- A character below the surrogates is a unit of its own. -/
theorem mem_codePoints (s : JavaString) (c : Nat) (hc : c ∈ codePoints s) (hlow : c < 0xd800) :
    ∃ u ∈ s, u.toNat = c := by
  induction s using codePoints.induct with
  | case1 => exact absurd hc List.not_mem_nil
  | case2 u => exact ⟨u, List.mem_cons_self, (List.mem_singleton.mp hc).symm⟩
  | case3 u v s hpair ih =>
      rw [codePoints_pair hpair] at hc
      rcases List.mem_cons.mp hc with rfl | hc
      · exact absurd (toCodePoint_bounds hpair).1 (by omega)
      · rcases ih hc with ⟨w, hw, hsame⟩
        exact ⟨w, List.mem_cons_of_mem u (List.mem_cons_of_mem v hw), hsame⟩
  | case4 u v s hpair ih =>
      rw [codePoints_single hpair] at hc
      rcases List.mem_cons.mp hc with rfl | hc
      · exact ⟨u, List.mem_cons_self, rfl⟩
      · rcases ih hc with ⟨w, hw, hsame⟩
        exact ⟨w, List.mem_cons_of_mem u hw, hsame⟩

/-! ## Headers -/

/-- A header is a line with a name and a value. -/
theorem takeHeaders_header (headers : List (List Nat × List Nat)) (name value rest : JavaString)
    (hname : ∀ u ∈ name, 0x20 ≤ u.toNat ∧ u.toNat < 0x80 ∧ u.toNat ≠ 0x3a)
    (hvalue : Signal.IsValue value) (w : Bytes) :
    takeHeaders headers (getBytes (name ++ 0x3a :: (value ++ 0x0d :: 0x0a :: rest)) ++ w)
      = takeHeaders ((Text.trim (name.map UInt16.toNat), Text.trim (value.map UInt16.toNat))
          :: headers.filter (·.1 ≠ Text.trim (name.map UInt16.toNat))) (getBytes rest ++ w) := by
  have hline : ∀ u ∈ name ++ 0x3a :: value, 0x20 ≤ u.toNat ∧ u.toNat < 0x80 := by
    intro u hu
    rcases List.mem_append.mp hu with hu | hu
    · exact ⟨(hname u hu).1, (hname u hu).2.1⟩
    · rcases List.mem_cons.mp hu with rfl | hu
      · decide
      · exact ⟨(hvalue.2 u hu).1, (hvalue.2 u hu).2.1⟩
  have hchars : ∀ c ∈ (name ++ 0x3a :: value).map UInt16.toNat, 0x20 ≤ c ∧ c < 0x80 := by
    intro c hc
    rcases List.mem_map.mp hc with ⟨u, hu, rfl⟩
    exact hline u hu
  have hbytes : getBytes (name ++ 0x3a :: (value ++ 0x0d :: 0x0a :: rest)) ++ w
      = ((name ++ 0x3a :: value).map UInt16.toNat).flatMap encodeUtf8
          ++ (CRLF ++ (getBytes rest ++ w)) := by
    have hsplit : name ++ 0x3a :: (value ++ 0x0d :: 0x0a :: rest)
        = (name ++ 0x3a :: value) ++ ([0x0d, 0x0a] ++ rest) := by
      simp only [List.append_assoc, List.cons_append, List.nil_append]
    rw [hsplit, getBytes_ascii_append _ _ (fun u hu => (hline u hu).2),
      getBytes_ascii_append _ _ (by decide), List.append_assoc, List.append_assoc]
    rfl
  rw [hbytes, takeHeaders_eq, takeLine_chars _ (fun c hc => by have := hchars c hc; omega),
    map_written_ascii _ (fun c hc => (hchars c hc).2)]
  -- The line is not empty, and comes apart at its only colon.
  have hcolon : ∀ s : JavaString, (∀ u ∈ s, u.toNat ≠ 0x3a) → 0x3a ∉ s.map UInt16.toNat := by
    intro s hs hmem
    rcases List.mem_map.mp hmem with ⟨u, hu, hsame⟩
    exact hs u hu hsame
  have hparts : Text.splitAt 0x3a ((name ++ 0x3a :: value).map UInt16.toNat)
      = [name.map UInt16.toNat, value.map UInt16.toNat] := by
    rw [List.map_append]
    refine Text.splitAt_two _ _ _ (hcolon name fun u hu => (hname u hu).2.2)
      (hcolon value fun u hu => (hvalue.2 u hu).2.2) ?_
    rw [ne_eq, List.map_eq_nil_iff]
    exact hvalue.1
  have hfull : ((name ++ 0x3a :: value).map UInt16.toNat).length ≠ 0 := by
    rw [List.length_map, List.length_append, List.length_cons]
    omega
  simp only []
  rw [if_neg hfull, putHeader, hparts]

/-- The headers end with an empty line. -/
theorem takeHeaders_end (headers : List (List Nat × List Nat)) (rest : JavaString) (w : Bytes) :
    takeHeaders headers (getBytes (0x0d :: 0x0a :: rest) ++ w)
      = some (headers, getBytes rest ++ w) := by
  have hbytes : getBytes (0x0d :: 0x0a :: rest) ++ w
      = ([] : List Nat).flatMap encodeUtf8 ++ (CRLF ++ (getBytes rest ++ w)) := by
    have hend := getBytes_ascii_append [0x0d, 0x0a] rest (by decide)
    rw [List.cons_append, List.cons_append, List.nil_append] at hend
    rw [hend, List.append_assoc]
    rfl
  rw [hbytes, takeHeaders_eq, takeLine_chars [] nofun]
  rfl

/-- The number in a header is read as itself. -/
theorem trim_ofNat (n : Nat) :
    Text.trim ((0x20 :: ofNat n).map UInt16.toNat) = Text.decimal n := by
  have hunits : (ofNat n).map UInt16.toNat = Text.decimal n := by
    unfold ofNat
    rw [List.map_map]
    refine (List.map_congr_left fun c hc => ?_).trans (List.map_id _)
    have hdigit := Text.mem_decimal n c hc
    exact UInt16.toNat_ofNat_of_lt' (by simp only [UInt16.size]; omega)
  rw [List.map_cons, hunits]
  exact (Text.trim_space _).trans
    (Text.trim_visible _ fun c hc => by have := Text.mem_decimal n c hc; omega)

namespace Signal

/-- What can be a method or a location. -/
def IsWord (s : JavaString) : Prop :=
  ∀ u ∈ s, u.toNat ≠ 0x20 ∧ u.toNat ≠ 0x0d ∧ u.toNat ≠ 0x0a

instance (s : JavaString) : Decidable (IsWord s) := inferInstanceAs (Decidable (∀ u ∈ s, _))

/-- No character of a word is one that ends a word or a line. -/
theorem IsWord.chars {s : JavaString} (h : IsWord s) :
    ∀ c ∈ codePoints s, c < 0x110000 ∧ c ≠ 0x20 ∧ c ≠ 0x0a := by
  intro c hc
  refine ⟨codePoints_lt s c hc, ?_, ?_⟩
  · rintro rfl
    rcases mem_codePoints s 0x20 hc (by decide) with ⟨u, hu, hsame⟩
    exact (h u hu).1 hsame
  · rintro rfl
    rcases mem_codePoints s 0x0a hc (by decide) with ⟨u, hu, hsame⟩
    exact (h u hu).2.2 hsame

/-- The characters of the request line. -/
def requestLine (signal : Signal) : List Nat :=
  codePoints signal.getMethod
    ++ 0x20 :: (codePoints signal.getLocation ++ 0x20 :: Text.ofString "HTTP/1.0")

/-- The characters of the protocol's name and version. -/
theorem version_chars : ∀ c ∈ Text.ofString "HTTP/1.0", 0x20 < c ∧ c < 0x80 := by decide +kernel

theorem requestLine_chars (signal : Signal) (hmethod : IsWord signal.getMethod)
    (hlocation : IsWord signal.getLocation) :
    ∀ c ∈ signal.requestLine, c < 0x110000 ∧ c ≠ 0x0a := by
  intro c hc
  rcases List.mem_append.mp hc with hc | hc
  · exact ⟨(hmethod.chars c hc).1, (hmethod.chars c hc).2.2⟩
  · rcases List.mem_cons.mp hc with rfl | hc
    · decide
    · rcases List.mem_append.mp hc with hc | hc
      · exact ⟨(hlocation.chars c hc).1, (hlocation.chars c hc).2.2⟩
      · rcases List.mem_cons.mp hc with rfl | hc
        · decide
        · have hchar := version_chars c hc
          omega

/-- The bytes of the request line, with the lines behind it. -/
theorem getBytes_buildRequest (signal : Signal) (rest : JavaString) :
    getBytes (signal.buildRequest ++ rest)
      = signal.requestLine.flatMap encodeUtf8 ++ (CRLF ++ getBytes rest) := by
  have htext : signal.buildRequest ++ rest = signal.getMethod ++ 0x20 :: (signal.getLocation
      ++ 0x20 :: (ofString "HTTP/1.0\r\n" ++ rest)) := by
    have hspace : ofString " HTTP/1.0\r\n" = 0x20 :: ofString "HTTP/1.0\r\n" := by
      decide +kernel
    have hone : ofString " " = [0x20] := by decide +kernel
    unfold buildRequest
    rw [hspace, hone]
    simp only [List.append_assoc, List.cons_append, List.nil_append]
  have hend : ((ofString "HTTP/1.0\r\n").map UInt16.toNat).flatMap encodeUtf8
      = (Text.ofString "HTTP/1.0").flatMap encodeUtf8 ++ CRLF := by
    decide +kernel
  have hlast := getBytes_ascii_append (ofString "HTTP/1.0\r\n") rest (by decide +kernel)
  rw [getBytes, hend] at hlast
  -- The spaces keep the characters of the two words apart from what is around them.
  rw [htext, getBytes, codePoints_append_cons _ _ _ (by decide),
    codePoints_append_cons _ _ _ (by decide), List.flatMap_append, List.flatMap_cons,
    List.flatMap_append, List.flatMap_cons, hlast]
  simp only [requestLine, List.flatMap_append, List.flatMap_cons, List.append_assoc]
  rfl

/-- The words of the request line, as they are read. -/
def words (signal : Signal) : List (List Nat) :=
  [(codePoints signal.getMethod).map written, (codePoints signal.getLocation).map written,
    Text.ofString "HTTP/1.0"]

theorem split_requestLine (signal : Signal) (hmethod : IsWord signal.getMethod)
    (hlocation : IsWord signal.getLocation) :
    Text.split (signal.requestLine.map written) = signal.words := by
  have hspace : ∀ s : JavaString, IsWord s → 0x20 ∉ (codePoints s).map written := by
    intro s hs hmem
    rcases List.mem_map.mp hmem with ⟨c, hc, hsame⟩
    have hne := (hs.chars c hc).2.1
    unfold written at hsame
    split_ifs at hsame <;> omega
  have hwritten : signal.requestLine.map written = (codePoints signal.getMethod).map written
      ++ 0x20 :: ((codePoints signal.getLocation).map written
      ++ 0x20 :: Text.ofString "HTTP/1.0") := by
    simp only [requestLine, List.map_append, List.map_cons,
      map_written_ascii _ (fun c hc => (version_chars c hc).2)]
    rfl
  rw [hwritten]
  exact Text.split_three _ _ _ (hspace _ hmethod) (hspace _ hlocation) (by decide +kernel)
    (by decide +kernel)

/-- The words of a request line, and the lines behind it. -/
theorem takeRequest_buildRequest (signal : Signal) (hmethod : IsWord signal.getMethod)
    (hlocation : IsWord signal.getLocation) (rest : JavaString) (w : Bytes) :
    takeRequest (getBytes (signal.buildRequest ++ rest) ++ w)
      = some (.ok (signal.words, getBytes rest ++ w)) := by
  have hline := takeLine_chars _ (requestLine_chars signal hmethod hlocation) (getBytes rest ++ w)
  have hfull : (signal.requestLine.map written).length ≠ 0 := by
    rw [List.length_map, requestLine, List.length_append, List.length_cons]
    omega
  rw [getBytes_buildRequest, List.append_assoc, List.append_assoc, takeRequest, Parse.andThen,
    Parse.ofFound_some hline]
  simp only []
  rw [if_neg hfull, split_requestLine signal hmethod hlocation, if_neg (fun h => h rfl)]

/-! ## Signals -/

/-- The authorization is one header or none, and does not say a length. -/
theorem takeHeaders_authorization {signal : Signal} {authorization : JavaString}
    (h : signal.buildAuthorization = .ok authorization) :
    ∃ headers : List (List Nat × List Nat),
      headers.lookup (Text.ofString "Content-Length") = none ∧ ∀ rest w,
        takeHeaders [] (getBytes (authorization ++ rest) ++ w)
          = takeHeaders headers (getBytes rest ++ w) := by
  rcases buildAuthorization_ok h with rfl | ⟨value, hvalue, rfl⟩
  · exact ⟨[], rfl, fun rest w => rfl⟩
  · have hname : Text.trim ((ofString "Authorization").map UInt16.toNat)
        = Text.ofString "Authorization" := by
      decide +kernel
    -- The one header there is has another name.
    have hother : (Text.ofString "Content-Length" == Text.ofString "Authorization") = false := by
      decide +kernel
    refine ⟨[(Text.ofString "Authorization", Text.trim (value.map UInt16.toNat))], ?_,
      fun rest w => ?_⟩
    · rw [List.lookup_cons, hother]
      rfl
    · have htext : ofString "Authorization:" ++ value ++ ofString "\r\n" ++ rest
          = ofString "Authorization" ++ 0x3a :: (value ++ 0x0d :: 0x0a :: rest) := by
        have hcolon : ofString "Authorization:" = ofString "Authorization" ++ [0x3a] := by
          decide +kernel
        have hcrlf : ofString "\r\n" = [0x0d, 0x0a] := by decide +kernel
        rw [hcolon, hcrlf]
        simp only [List.append_assoc, List.cons_append, List.nil_append]
      rw [htext, takeHeaders_header [] (ofString "Authorization") value rest (by decide +kernel)
        hvalue w, hname]
      rfl

/-- What stands in front of a body: its length, if it has one, and an empty
    line. -/
theorem buildBody_eq (signal : Signal) : signal.buildBody
    = if signal.body = [] then 0x0d :: 0x0a :: signal.body
      else ofString "Content-Length" ++ 0x3a :: (0x20 :: ofNat signal.body.length
        ++ 0x0d :: 0x0a :: (0x0d :: 0x0a :: signal.body)) := by
  have hcrlf : ofString "\r\n" = [0x0d, 0x0a] := by decide +kernel
  have hname : ofString "Content-Length: " = ofString "Content-Length" ++ [0x3a, 0x20] := by
    decide +kernel
  unfold buildBody body
  cases signal.getBody with
  | none =>
      simp only [Option.getD_none, if_true]
      exact hcrlf
  | some body =>
      simp only [Option.getD_some]
      by_cases hempty : body = []
      · rw [if_pos hempty, hempty]
        exact hcrlf
      · rw [if_pos (List.length_pos_iff.mpr hempty), if_neg hempty, hname, hcrlf]
        simp only [List.append_assoc, List.cons_append, List.nil_append]

theorem length_body (signal : Signal) : signal.body.length < 2147483648 := by
  unfold body
  cases hbody : signal.getBody with
  | none => decide
  | some body => exact signal.length_getBody body hbody

/-- The length that is read is that of the body as a string. -/
theorem takeHeaders_buildBody (signal : Signal) (headers : List (List Nat × List Nat))
    (hnone : headers.lookup (Text.ofString "Content-Length") = none) (w : Bytes) :
    ∃ headers', takeHeaders headers (getBytes signal.buildBody ++ w)
        = some (headers', getBytes signal.body ++ w) ∧
      contentLength headers' = signal.body.length := by
  rw [buildBody_eq]
  by_cases hempty : signal.body = []
  · -- No length is announced for an empty body.
    rw [if_pos hempty]
    refine ⟨headers, takeHeaders_end headers signal.body w, ?_⟩
    rw [contentLength, hnone, hempty]
    rfl
  · have hvalue : IsValue (0x20 :: ofNat signal.body.length) := by
      refine ⟨List.cons_ne_nil _ _, fun u hu => ?_⟩
      rcases List.mem_cons.mp hu with rfl | hu
      · decide
      · rcases List.mem_map.mp hu with ⟨c, hc, rfl⟩
        have hdigit := Text.mem_decimal signal.body.length c hc
        rw [UInt16.toNat_ofNat_of_lt' (by simp only [UInt16.size]; omega)]
        omega
    have hname : Text.trim ((ofString "Content-Length").map UInt16.toNat)
        = Text.ofString "Content-Length" := by
      decide +kernel
    rw [if_neg hempty, takeHeaders_header headers (ofString "Content-Length") _ _
      (by decide +kernel) hvalue w, hname, trim_ofNat, takeHeaders_end]
    refine ⟨_, rfl, ?_⟩
    rw [contentLength, List.lookup_cons, beq_self_eq_true]
    simp only [Option.bind_some]
    rw [Text.parseInt_decimal _ signal.length_body, Option.getD_some]

/-- What is read of a signal, and what is left: the body is cut at the length
    of its string. -/
theorem takeFrame_serialize {signal : Signal} (hmethod : IsWord signal.getMethod)
    (hlocation : IsWord signal.getLocation) {text : JavaString}
    (h : signal.serialize = .ok text) (w : Bytes) :
    takeFrame (getBytes text ++ w)
      = some (.ok ((signal.words, (getBytes signal.body).take signal.body.length),
          (getBytes signal.body).drop signal.body.length ++ w)) := by
  rcases (Java.bind_ok _ _ _).mp h with ⟨authorization, hauthorization, h⟩
  rw [← Except.ok.inj h]
  rcases takeHeaders_authorization hauthorization with ⟨before, hnone, hbefore⟩
  rcases takeHeaders_buildBody signal before hnone w with ⟨headers, hheaders, hlength⟩
  have hrequest := takeRequest_buildRequest signal hmethod hlocation
    (authorization ++ signal.buildBody) w
  -- A string has at least as many bytes as units, so the body is all there.
  have hlong : signal.body.length ≤ (getBytes signal.body).length :=
    (length_getBytes signal.body).1
  rw [List.append_assoc, takeFrame, Parse.andThen, hrequest]
  simp only []
  rw [Parse.andThen, Parse.ofFound_some ((hbefore _ _).trans hheaders)]
  simp only []
  rw [Parse.andThen, hlength, takeBody, if_neg (by omega), Int.toNat_natCast,
    if_pos (by rw [List.length_append]; omega), List.take_append_of_le_length hlong,
    List.drop_append_of_le_length hlong]

/-! ## Signals that come back -/

/-- However its bytes are cut into reads and whatever follows them, a signal is
    read as its method, its location and the bytes of its body, and what
    follows is left. -/
def ComesBack (signal : Signal) : Prop :=
  ∃ text, signal.serialize = .ok text ∧
    ∀ following buffered reads, Flowing reads →
      buffered ++ arriving reads = getBytes text ++ following →
      readFrame ⟨buffered, reads⟩ ≠ .error .impossible →
      ∃ s', readFrame ⟨buffered, reads⟩
          = .ok (([codePoints signal.getMethod, codePoints signal.getLocation,
              Text.ofString "HTTP/1.0"], getBytes signal.body), s') ∧
        s'.buffered ++ arriving s'.reads = following

/-- Its characters come back: none of the method and the location is a
    surrogate that is alone, and every one of the body has as many bytes as
    units. -/
def Representable (signal : Signal) : Prop :=
  (∀ c ∈ codePoints signal.getMethod, IsScalar c) ∧
    (∀ c ∈ codePoints signal.getLocation, IsScalar c) ∧
    ∀ c ∈ codePoints signal.body, OneByte c

instance (signal : Signal) : Decidable signal.Representable :=
  inferInstanceAs (Decidable (_ ∧ _ ∧ _))

/-- A word is read as itself if it has no surrogate that is alone. -/
theorem map_written_iff (s : JavaString) :
    (codePoints s).map written = codePoints s ↔ ∀ c ∈ codePoints s, IsScalar c := by
  have hsame := List.map_inj_left (f := written) (g := id) (l := codePoints s)
  rw [List.map_id] at hsame
  rw [hsame]
  exact forall₂_congr fun c hc => written_eq_iff c (codePoints_lt s c hc)

/-- How the reader ends on a signal. -/
theorem readFrame_serialize {signal : Signal} (hmethod : IsWord signal.getMethod)
    (hlocation : IsWord signal.getLocation) {text : JavaString}
    (h : signal.serialize = .ok text) {following buffered : Bytes} {reads : List (Read UInt8)}
    (hflowing : Flowing reads) (hbytes : buffered ++ arriving reads = getBytes text ++ following)
    (hpossible : readFrame ⟨buffered, reads⟩ ≠ .error .impossible) :
    ∃ s', readFrame ⟨buffered, reads⟩
        = .ok ((signal.words, (getBytes signal.body).take signal.body.length), s') ∧
      s'.buffered ++ arriving s'.reads
        = (getBytes signal.body).drop signal.body.length ++ following := by
  have hfound := takeFrame_serialize hmethod hlocation h following
  rw [← hbytes] at hfound
  -- The frame is in the stream, so the reader neither waits nor throws.
  cases parses_readFrame buffered reads hflowing with
  | impossible _ hend _ => exact absurd hend hpossible
  | waits hnone _ _ =>
      rw [hfound] at hnone
      exact nomatch hnone
  | threw e herror _ =>
      rw [hfound] at herror
      exact nomatch herror
  | returns a left rest hsome _ hend =>
      rw [hfound, Option.some.injEq, Except.ok.injEq, Prod.mk.injEq] at hsome
      rcases hsome with ⟨rfl, hleft⟩
      have hrun := hend []
      rw [List.append_nil, List.append_nil] at hrun
      exact ⟨⟨left, rest⟩, hrun, hleft.symm⟩

/-- One delivery, with all of the bytes at once, can be. -/
theorem readFrame_possible (text : JavaString) :
    readFrame ⟨getBytes text, []⟩ ≠ .error .impossible := by
  intro himpossible
  cases parses_readFrame (getBytes text) [] List.not_mem_nil with
  | impossible hreads _ _ => exact hreads rfl
  | waits _ hend _ =>
      rw [himpossible] at hend
      exact nomatch hend
  | threw e _ hend =>
      have hend := himpossible.symm.trans (hend [])
      exact nomatch hend
  | returns a left rest _ _ hend =>
      have hend := himpossible.symm.trans (hend [])
      exact nomatch hend

/-- What has come back was not cut, and had no character that was replaced. -/
theorem representable_of_comesBack {signal : Signal} (hmethod : IsWord signal.getMethod)
    (hlocation : IsWord signal.getLocation) (h : signal.ComesBack) : signal.Representable := by
  rcases h with ⟨text, htext, hback⟩
  have hbytes : getBytes text ++ arriving [] = getBytes text ++ [] := rfl
  have hpossible := readFrame_possible text
  rcases hback [] (getBytes text) [] List.not_mem_nil hbytes hpossible with ⟨s, hrun, _⟩
  rcases readFrame_serialize hmethod hlocation htext List.not_mem_nil hbytes hpossible with
    ⟨s', hrun', _⟩
  rw [hrun', Except.ok.injEq, Prod.mk.injEq, Prod.mk.injEq, words, List.cons.injEq,
    List.cons.injEq] at hrun
  rcases hrun with ⟨⟨⟨hm, hl, _⟩, hbody⟩, _⟩
  refine ⟨(map_written_iff _).mp hm, (map_written_iff _).mp hl, ?_⟩
  have hlength := congrArg List.length hbody
  have hle := (length_getBytes signal.body).1
  rw [List.length_take] at hlength
  exact (length_getBytes signal.body).2.mp (by omega)

theorem comesBack_of_representable {signal : Signal} (hmethod : IsWord signal.getMethod)
    (hlocation : IsWord signal.getLocation) (hauthorizes : signal.Authorizes)
    (h : signal.Representable) : signal.ComesBack := by
  rcases h with ⟨hm, hl, hbody⟩
  rcases (exists_serialize signal).mpr hauthorizes with ⟨text, htext⟩
  refine ⟨text, htext, fun following buffered reads hflowing hbytes hpossible => ?_⟩
  have hlength := (length_getBytes signal.body).2.mpr hbody
  rcases readFrame_serialize hmethod hlocation htext hflowing hbytes hpossible with
    ⟨s', hrun, hleft⟩
  rw [← hlength, List.drop_length, List.nil_append] at hleft
  rw [← hlength, List.take_length, words, (map_written_iff _).mpr hm,
    (map_written_iff _).mpr hl] at hrun
  exact ⟨s', hrun, hleft⟩

/-- A signal comes back exactly if its authorization can be made and its
    characters come back: those of the method and the location as the bytes they
    are written with, and those of the body one by one, since the length that is
    sent counts characters. -/
theorem comesBack_iff (signal : Signal) (hmethod : IsWord signal.getMethod)
    (hlocation : IsWord signal.getLocation) :
    signal.ComesBack ↔ signal.Authorizes ∧ signal.Representable := by
  constructor
  · intro h
    rcases h with ⟨text, htext, hback⟩
    exact ⟨(exists_serialize signal).mp ⟨text, htext⟩,
      representable_of_comesBack hmethod hlocation ⟨text, htext, hback⟩⟩
  · rintro ⟨hauthorizes, hrepresentable⟩
    exact comesBack_of_representable hmethod hlocation hauthorizes hrepresentable

/-- The signal that verifies an account, with a challenge that was typed in. -/
def verification (challenge : JavaString) (h : challenge.length < 1000) : Signal where
  localNumber := some (ofString "+14155550101")
  password := some (ofString "secret")
  counter := -1
  getMethod := ofString "PUT"
  getLocation := ofString "/users/verification/+14155550101"
  getBody := some (ofString "\x7b\"key\":\"k\",\"challenge\":\"" ++ challenge ++ ofString "\"\x7d")
  length_getBody := by
    intro body hbody
    rw [← Option.some.inj hbody, List.length_append, List.length_append]
    have hfirst : (ofString "\x7b\"key\":\"k\",\"challenge\":\"").length = 24 := by decide +kernel
    have hlast : (ofString "\"\x7d").length = 2 := by decide +kernel
    omega

theorem comesBack_iff_verification :
    (verification (ofString "123456") (by decide +kernel)).ComesBack ↔
      (verification (ofString "123456") (by decide +kernel)).Authorizes ∧
        (verification (ofString "123456") (by decide +kernel)).Representable :=
  comesBack_iff (verification (ofString "123456") (by decide +kernel)) (by decide +kernel)
    (by decide +kernel)

/-- A challenge with an accent: the last byte of the body is left on the
    connection. -/
theorem comesBack_fails :
    IsWord (verification [0xe9] (by decide)).getMethod ∧
      IsWord (verification [0xe9] (by decide)).getLocation ∧
      ¬ (verification [0xe9] (by decide)).ComesBack ∧
      ∃ text, (verification [0xe9] (by decide)).serialize = .ok text ∧
        takeFrame (getBytes text) = some (.ok ((
          [Text.ofString "PUT", Text.ofString "/users/verification/+14155550101",
            Text.ofString "HTTP/1.0"],
          (ofString "\x7b\"key\":\"k\",\"challenge\":\"").getBytes ++ [0xc3, 0xa9, 0x22]),
          [0x7d])) := by
  have hmethod : IsWord (verification [0xe9] (by decide)).getMethod := by decide +kernel
  have hlocation : IsWord (verification [0xe9] (by decide)).getLocation := by decide +kernel
  refine ⟨hmethod, hlocation, fun h => ?_, ?_⟩
  · exact absurd (representable_of_comesBack hmethod hlocation h) (by decide +kernel)
  · have hauthorizes : (verification [0xe9] (by decide)).Authorizes := Or.inl rfl
    rcases (exists_serialize _).mpr hauthorizes with ⟨text, htext⟩
    have hframe := takeFrame_serialize hmethod hlocation htext []
    rw [List.append_nil] at hframe
    refine ⟨text, htext, hframe.trans ?_⟩
    decide +kernel

end Signal

end RedPhone
