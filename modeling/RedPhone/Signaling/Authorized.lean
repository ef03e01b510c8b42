import RedPhone.Signaling.Conversation

/-!
# What the Server Is Sent

The authorization of a request is a header with a text in Base64. It holds the
number and the password, or the number, the code of a counter under the
password, and that counter. A counter is taken from the preference once for
each signal that is made, so the counters of the codes a client sends only
grow.

What a client writes in a dialogue can be read back, by the parts of its own
reader, as the requests it was made of and the acknowledgements of the signals
in between, each where it is due and with nothing left over.

The server is not part of the program. It is a parameter here, of which two
things are asked: that it accepts the number with the password, and that it
accepts the code of a counter above the last one it has accepted. A server that
does accepts every request of a dialogue. An account with a last counter is
one, and shows that this can be asked.

## Main definitions

* `ClientRequest`: A request, as it is read back.
* `readBack`: The requests and acknowledgements in what a client has written.
* `IsMethod`: The methods of a socket.
* `Server`: What a server makes of an authorization.
* `Server.Knows`: It knows the number and the password.
* `Account`: A server that does.

## Theorems

* `takeClientRequest_serialize`: What is read back of a signal.
* `construct_counter`: A counter is used once.
* `readBack_dialogue`: What a client has written in a dialogue, and that a
  server which knows the password accepts it.
* `Account.knows`: An account is such a server.
* `dialogue_agrees`: Both sides of a dialogue.
-/

namespace RedPhone

open Reading JavaString Signal

/-! ## Texts -/

namespace Text

/-- Nothing is trimmed of a text that begins and ends with visible
    characters. -/
theorem trim_ends (c : Nat) (s : List Nat) (hfirst : 0x20 < c) (hlast : ∀ d, (c :: s).getLast? =
    some d → 0x20 < d) : trim (c :: s) = c :: s := by
  have hkeep : ∀ (d : Nat) (t : List Nat), 0x20 < d →
      (d :: t).dropWhile (fun c => decide (c ≤ 0x20)) = d :: t := by
    intro d t hd
    rw [List.dropWhile_cons, if_neg (by simpa using hd)]
  unfold trim
  rw [hkeep c s hfirst]
  cases hreverse : (c :: s).reverse with
  | nil => simp only [List.reverse_eq_nil_iff, reduceCtorEq] at hreverse
  | cons d t =>
      have hd : (c :: s).getLast? = some d := by
        rw [← List.head?_reverse, hreverse]
        rfl
      rw [hkeep d t (hlast d hd), ← hreverse, List.reverse_reverse]

/-- A number that is written out is read as itself. -/
theorem parseLong_decimal (n : Nat) (h : n < 9223372036854775808) :
    parseLong (decimal n) = some (n : Int) := by
  have hdigits := digits_decimal n
  have hmem := mem_decimal n
  generalize decimal n = s at hdigits hmem
  unfold parseLong
  -- There is no sign in front of it.
  split
  · exact absurd (hmem 0x2d List.mem_cons_self) (by decide)
  · exact absurd (hmem 0x2b List.mem_cons_self) (by decide)
  · rw [hdigits, Option.bind_some, if_pos h]

end Text

namespace JavaString

/-- The bytes of a text in ASCII are its characters. -/
theorem decodeUtf8_ascii (s : JavaString) (hs : ∀ u ∈ s, u.toNat < 0x80) :
    Text.decodeUtf8 s.getBytes = s.map UInt16.toNat := by
  have hbytes := getBytes_ascii_append s [] hs
  rw [List.append_nil, show getBytes [] = [] from rfl, List.append_nil] at hbytes
  rw [hbytes]
  refine decodeUtf8_flatMap _ fun c hc => ?_
  rcases List.mem_map.mp hc with ⟨u, hu, rfl⟩
  exact Or.inl (Nat.lt_trans (hs u hu) (by decide))

theorem map_toNat_ofAscii (bytes : Bytes) :
    (ofAscii bytes).map UInt16.toNat = bytes.map UInt8.toNat := by
  unfold ofAscii
  rw [List.map_map]
  refine List.map_congr_left fun b _ => ?_
  exact UInt16.toNat_ofNat_of_lt' (Nat.lt_trans b.toNat_lt (by decide))

theorem map_toNat_ofNat (n : Nat) : (ofNat n).map UInt16.toNat = Text.decimal n := by
  unfold ofNat
  rw [List.map_map]
  refine (List.map_congr_left fun c hc => ?_).trans (List.map_id _)
  have hdigit := Text.mem_decimal n c hc
  exact UInt16.toNat_ofNat_of_lt' (by simp only [UInt16.size]; omega)

end JavaString

/-! ## A request, as it is read back -/

/-- A request of the client, as it is read by the parts of its own reader. -/
structure ClientRequest where
  words : List (List Nat)
  authorization : Option (List Nat)
  body : Bytes
  deriving DecidableEq, Repr

/-- What is asked for. -/
def ClientRequest.content (request : ClientRequest) : List (List Nat) × Bytes :=
  (request.words, request.body)

def takeClientRequest : Parse SignalingFailure UInt8 ClientRequest :=
  -- In the order in which the client's own reader takes them.
  takeRequest.andThen fun words =>
    (Parse.ofFound (takeHeaders [])).andThen fun headers =>
      (takeBody (contentLength headers)).andThen fun body w =>
        some (.ok (⟨words, headers.lookup (Text.ofString "Authorization"), body⟩, w))

namespace Signal

/-- What the header of the authorization says. -/
def credentials (signal : Signal) (password : JavaString) : Java (List Nat) :=
  if signal.counter = -1 then
    .ok (Text.ofString "Basic " ++ (Base64.encodeBytes
      (orNull signal.localNumber ++ ofString ":" ++ password).getBytes).map UInt8.toNat)
  else do
    let otp ← Otp.calculateOtp password signal.counter
    .ok (Text.ofString "OTP " ++ (Base64.encodeBytes
      (orNull signal.localNumber ++ ofString ":" ++ otp ++ ofString ":"
        ++ ofInt signal.counter).getBytes).map UInt8.toNat)

/-- A header with a scheme and a text in Base64 is read as it was put
    together. -/
theorem trim_scheme (c : Nat) (scheme : List Nat) (hc : 0x20 < c) {bytes : Bytes}
    (hbytes : bytes ≠ []) : Text.trim (0x20 :: (c :: scheme
      ++ (Base64.encodeBytes bytes).map UInt8.toNat))
        = c :: scheme ++ (Base64.encodeBytes bytes).map UInt8.toNat := by
  have halphabet : ∀ b ∈ Base64.EQUALS_SIGN :: Base64.STANDARD_ALPHABET, 0x20 < b.toNat := by
    decide
  have hlong := (Base64.length_encodeBytes bytes).resolve_left hbytes
  have hne : (Base64.encodeBytes bytes).map UInt8.toNat ≠ [] := by
    intro hnil
    rw [List.map_eq_nil_iff] at hnil
    rw [hnil] at hlong
    exact absurd hlong (by decide)
  rw [Text.trim_space, List.cons_append]
  refine Text.trim_ends c _ hc fun d hd => ?_
  -- The last character is one of the alphabet.
  rw [← List.cons_append, List.getLast?_append_of_ne_nil _ hne] at hd
  rcases List.mem_map.mp (List.mem_of_getLast? hd) with ⟨b, hb, rfl⟩
  exact halphabet b (Base64.mem_encodeBytes bytes b hb)

/-- The header of an authorization, with the lines behind it. -/
theorem takeHeaders_scheme (kind : JavaString) (hkind : IsValue kind) (bytes : Bytes)
    (rest : JavaString) (w : Bytes) :
    takeHeaders [] (getBytes (ofString "Authorization:" ++ (kind
        ++ ofAscii (Base64.encodeBytes bytes)) ++ ofString "\r\n" ++ rest) ++ w)
      = takeHeaders [(Text.ofString "Authorization",
          Text.trim (kind.map UInt16.toNat ++ (Base64.encodeBytes bytes).map UInt8.toNat))]
          (getBytes rest ++ w) := by
  have hname : Text.trim ((ofString "Authorization").map UInt16.toNat)
      = Text.ofString "Authorization" := by
    decide +kernel
  have htext : ofString "Authorization:" ++ (kind ++ ofAscii (Base64.encodeBytes bytes))
      ++ ofString "\r\n" ++ rest = ofString "Authorization" ++ 0x3a ::
        ((kind ++ ofAscii (Base64.encodeBytes bytes)) ++ 0x0d :: 0x0a :: rest) := by
    have hcolon : ofString "Authorization:" = ofString "Authorization" ++ [0x3a] := by
      decide +kernel
    have hcrlf : ofString "\r\n" = [0x0d, 0x0a] := by decide +kernel
    rw [hcolon, hcrlf]
    simp only [List.append_assoc, List.cons_append, List.nil_append]
  rw [htext, takeHeaders_header [] (ofString "Authorization") _ rest (by decide +kernel)
    (isValue_base64 kind hkind bytes) w, hname, List.map_append, map_toNat_ofAscii]
  rfl

/-- The header of the authorization is what is said in it. -/
theorem takeHeaders_credentials {signal : Signal} {authorization password : JavaString}
    (h : signal.buildAuthorization = .ok authorization)
    (hpassword : signal.password = some password) :
    ∃ value, signal.credentials password = .ok value ∧ ∀ rest w,
      takeHeaders [] (getBytes (authorization ++ rest) ++ w)
        = takeHeaders [(Text.ofString "Authorization", value)] (getBytes rest ++ w) := by
  -- There is a colon in what is encoded.
  have hfull : ∀ s t : JavaString, (s ++ ofString ":" ++ t).getBytes ≠ [] := by
    intro s t hnil
    have hempty := (getBytes_eq_nil _).mp hnil
    simp only [List.append_eq_nil_iff] at hempty
    exact absurd hempty.1.2 (by decide +kernel)
  unfold buildAuthorization at h
  rw [hpassword] at h
  simp only [] at h
  unfold credentials
  -- With no counter the password itself is sent, and with one a code made of
  -- both.
  by_cases hcounter : signal.counter = -1
  · rw [if_pos hcounter, Except.ok.injEq] at h
    rw [if_pos hcounter]
    refine ⟨_, rfl, fun rest w => ?_⟩
    have hscheme : (ofString " Basic ").map UInt16.toNat
        = 0x20 :: 0x42 :: [0x61, 0x73, 0x69, 0x63, 0x20] := by
      decide +kernel
    have htext := takeHeaders_scheme (ofString " Basic ") (by unfold IsValue; decide)
      (orNull signal.localNumber ++ ofString ":" ++ password).getBytes rest w
    rw [hscheme, List.cons_append, trim_scheme 0x42 _ (by decide) (hfull _ _)] at htext
    rw [← h]
    refine Eq.trans ?_ htext
    rw [← List.append_assoc (ofString "Authorization:")]
    rfl
  · rw [if_neg hcounter] at h ⊢
    rcases (Java.bind_ok _ _ _).mp h with ⟨otp, hotp, h⟩
    rw [Except.ok.injEq] at h
    refine ⟨_, (Java.bind_ok _ _ _).mpr ⟨otp, hotp, rfl⟩, fun rest w => ?_⟩
    have hscheme : (ofString " OTP ").map UInt16.toNat = 0x20 :: 0x4f :: [0x54, 0x50, 0x20] := by
      decide +kernel
    have htext := takeHeaders_scheme (ofString " OTP ") (by unfold IsValue; decide)
      (orNull signal.localNumber ++ ofString ":" ++ otp ++ ofString ":"
        ++ ofInt signal.counter).getBytes rest w
    rw [hscheme, List.cons_append, trim_scheme 0x4f _ (by decide) (hfull _ _)] at htext
    rw [← h]
    refine Eq.trans ?_ htext
    rw [← List.append_assoc (ofString "Authorization:")]
    rfl

/-- What stands in front of the body hides no other header. -/
theorem takeHeaders_body (signal : Signal) (value : List Nat) (w : Bytes) :
    ∃ headers, takeHeaders [(Text.ofString "Authorization", value)]
        (getBytes signal.buildBody ++ w) = some (headers, getBytes signal.body ++ w) ∧
      contentLength headers = signal.body.length ∧
      headers.lookup (Text.ofString "Authorization") = some value := by
  have hother : (Text.ofString "Content-Length" == Text.ofString "Authorization") = false := by
    decide +kernel
  have hother' : (Text.ofString "Authorization" == Text.ofString "Content-Length") = false := by
    decide +kernel
  have hnone : List.lookup (Text.ofString "Content-Length")
      [(Text.ofString "Authorization", value)] = none := by
    rw [List.lookup_cons, hother]
    rfl
  rcases takeHeaders_buildBody signal _ hnone w with ⟨headers, hheaders, hlength⟩
  refine ⟨headers, hheaders, hlength, ?_⟩
  rw [buildBody_eq] at hheaders
  -- Without a body there is no header for its length.
  by_cases hempty : signal.body = []
  · rw [if_pos hempty, takeHeaders_end, Option.some.injEq, Prod.mk.injEq] at hheaders
    rw [← hheaders.1, List.lookup_cons, beq_self_eq_true]
  · have hvalue : IsValue (0x20 :: ofNat signal.body.length) := by
      refine ⟨List.cons_ne_nil _ _, fun u hu => ?_⟩
      rcases List.mem_cons.mp hu with rfl | hu
      · decide
      · have hmem := List.mem_map_of_mem (f := UInt16.toNat) hu
        rw [map_toNat_ofNat] at hmem
        have hdigit := Text.mem_decimal _ _ hmem
        omega
    have hname : Text.trim ((ofString "Content-Length").map UInt16.toNat)
        = Text.ofString "Content-Length" := by
      decide +kernel
    rw [if_neg hempty, takeHeaders_header _ (ofString "Content-Length") _ _ (by decide +kernel)
      hvalue w, hname, takeHeaders_end, Option.some.injEq, Prod.mk.injEq] at hheaders
    have hkept : (Text.ofString "Authorization" ≠ Text.ofString "Content-Length") := by
      decide +kernel
    rw [← hheaders.1, List.lookup_cons, hother']
    simp only [List.filter_cons, hkept, ne_eq, not_false_eq_true, decide_true, if_true,
      List.lookup_cons, beq_self_eq_true]

/-- A request is read back as the signal it was made of, with its credentials. -/
theorem takeClientRequest_serialize {signal : Signal} (hmethod : IsWord signal.getMethod)
    (hlocation : IsWord signal.getLocation) {text password : JavaString}
    (h : signal.serialize = .ok text) (hpassword : signal.password = some password) (w : Bytes) :
    ∃ value, signal.credentials password = .ok value ∧
      takeClientRequest (getBytes text ++ w) = some (.ok (⟨signal.words, some value,
        (getBytes signal.body).take signal.body.length⟩,
          (getBytes signal.body).drop signal.body.length ++ w)) := by
  rcases (Java.bind_ok _ _ _).mp h with ⟨authorization, hauthorization, h⟩
  rw [← Except.ok.inj h]
  rcases takeHeaders_credentials hauthorization hpassword with ⟨value, hvalue, hbefore⟩
  rcases takeHeaders_body signal value w with ⟨headers, hheaders, hlength, hlookup⟩
  have hrequest := takeRequest_buildRequest signal hmethod hlocation
    (authorization ++ signal.buildBody) w
  have hlong : signal.body.length ≤ (getBytes signal.body).length :=
    (length_getBytes signal.body).1
  refine ⟨value, hvalue, ?_⟩
  -- The first line, the headers and the body are taken one after the other.
  rw [List.append_assoc, takeClientRequest, Parse.andThen, hrequest]
  simp only []
  rw [Parse.andThen, Parse.ofFound_some ((hbefore _ _).trans hheaders)]
  simp only []
  rw [Parse.andThen, hlength, takeBody, if_neg (by omega), Int.toNat_natCast,
    if_pos (by rw [List.length_append]; omega), List.take_append_of_le_length hlong,
    List.drop_append_of_le_length hlong, hlookup]

end Signal

/-! ## Dialogues -/

/-- The methods of a socket. -/
inductive IsMethod (c : SignalingSocket) : Exchange → Prop
  | initiateConnection {PhoneNumber : Type} (util : PhoneNumberUtil PhoneNumber)
      (preference : Option JavaString) (gson : Gson) (remoteNumber : JavaString) :
      IsMethod c (c.initiateConnection util preference gson remoteNumber)
  | setRinging (sessionId : Int) : IsMethod c (c.setRinging sessionId)
  | setHangup (sessionId : Int) : IsMethod c (c.setHangup sessionId)
  | setBusy (sessionId : Int) : IsMethod c (c.setBusy sessionId)
  | registerSignalingPreference (preference : JavaString) :
      IsMethod c (c.registerSignalingPreference preference)
  | registerGcm (registrationId : JavaString) : IsMethod c (c.registerGcm registrationId)
  | unregisterGcm (registrationId : JavaString) : IsMethod c (c.unregisterGcm registrationId)
  | registerC2dm (registrationId : JavaString) : IsMethod c (c.registerC2dm registrationId)
  | unregisterC2dm : IsMethod c c.unregisterC2dm
  | getNumberFilter : IsMethod c c.getNumberFilter
  | createAccount (voice : Bool) : IsMethod c (c.createAccount voice)
  | verifyAccount (gson : Gson) (challenge key : JavaString) :
      IsMethod c (c.verifyAccount gson challenge key)

/-- The signal of a method is one of its socket, with the counter it was
    given if it takes one. -/
structure Signs (c : SignalingSocket) (x : Exchange) (counter : Int) (signal : Signal) : Prop where
  localNumber : signal.localNumber = c.localNumber
  password : signal.password = c.password
  counter : signal.counter = if x.counted then counter else -1

theorem IsMethod.signs {c : SignalingSocket} {x : Exchange} (h : IsMethod c x) {counter : Int}
    {signal : Signal} (hsignal : x.signal counter = .ok signal) : Signs c x counter signal := by
  cases h with
  | initiateConnection util preference gson remoteNumber =>
      rcases (Java.bind_ok _ _ _).mp hsignal with ⟨number, _, hsignal⟩
      rw [← Except.ok.inj hsignal]
      exact ⟨rfl, rfl, rfl⟩
  | setRinging _ => exact Except.ok.inj hsignal ▸ ⟨rfl, rfl, rfl⟩
  | setHangup _ => exact Except.ok.inj hsignal ▸ ⟨rfl, rfl, rfl⟩
  | setBusy _ => exact Except.ok.inj hsignal ▸ ⟨rfl, rfl, rfl⟩
  | registerSignalingPreference _ => exact Except.ok.inj hsignal ▸ ⟨rfl, rfl, rfl⟩
  | registerGcm _ => exact Except.ok.inj hsignal ▸ ⟨rfl, rfl, rfl⟩
  | unregisterGcm _ => exact Except.ok.inj hsignal ▸ ⟨rfl, rfl, rfl⟩
  | registerC2dm _ => exact Except.ok.inj hsignal ▸ ⟨rfl, rfl, rfl⟩
  | unregisterC2dm => exact Except.ok.inj hsignal ▸ ⟨rfl, rfl, rfl⟩
  | getNumberFilter => exact Except.ok.inj hsignal ▸ ⟨rfl, rfl, rfl⟩
  | createAccount _ => exact Except.ok.inj hsignal ▸ ⟨rfl, rfl, rfl⟩
  | verifyAccount _ _ _ => exact Except.ok.inj hsignal ▸ ⟨rfl, rfl, rfl⟩

/-- The counter that is next. -/
def nextCounter (preference : Option Int) : Int := preference.getD 1

/-- A counter is used once, or not at all. -/
theorem construct_counter (c : SignalingSocket) (x : Exchange) (preference : Option Int)
    (hlow : 0 ≤ nextCounter preference)
    (hhigh : nextCounter preference < 9223372036854775807) :
    nextCounter (x.construct c preference).2
      = if x.counted ∧ c.counterProvider then nextCounter preference + 1
        else nextCounter preference := by
  unfold nextCounter at *
  unfold Exchange.construct OtpCounterProvider.getOtpCounter
  -- A signal without a counter leaves the preference alone, and one with a
  -- counter needs a provider.
  cases x.counted with
  | false => simp only [Bool.false_eq_true, if_false, false_and]
  | true =>
      cases c.counterProvider with
      | false => simp only [if_true, Bool.false_eq_true, if_false, and_false]
      | true =>
          simp only [if_true, and_self, Option.getD_some]
          exact Int.bmod_eq_of_le (by omega) (by omega)

/-- What the constructor of a signal has been given. -/
theorem construct_signal {c : SignalingSocket} {x : Exchange} {preference : Option Int}
    {signal : Signal} (h : (x.construct c preference).1 = .ok signal) :
    ∃ counter, x.signal counter = .ok signal ∧
      (x.counted → c.counterProvider ∧ counter = nextCounter preference) := by
  unfold Exchange.construct at h
  cases hcounted : x.counted with
  | false =>
      rw [hcounted] at h
      exact ⟨-1, h, fun h => absurd h Bool.false_ne_true⟩
  | true =>
      rw [hcounted] at h
      cases hprovider : c.counterProvider with
      -- There is no provider to ask for one.
      | false =>
          rw [hprovider] at h
          simp only [if_true, Bool.false_eq_true, if_false, Java.raise, reduceCtorEq] at h
      | true =>
          rw [hprovider] at h
          exact ⟨_, h, fun _ => ⟨rfl, rfl⟩⟩

/-! ## Read back -/

/-- What is due in what a client has written. -/
inductive Expected
  | request
  | acknowledgement
  deriving DecidableEq, Repr

/-- The requests in what a client has written, if every acknowledgement in it is
    where it is due, and what is left. -/
def readBack : List Expected → Bytes → Option (List ClientRequest × Bytes)
  | [], w => some ([], w)
  | .request :: expected, w =>
    match takeClientRequest w with
    -- What is left of this request is read as the next.
    | some (.ok (request, w)) =>
      (readBack expected w).map fun r => (request :: r.1, r.2)
    | _ => none
  | .acknowledgement :: expected, w =>
    match takeResponse w with
    | some (.ok (response, w)) => if response.statusCode = 200 then readBack expected w else none
    | _ => none

/-- What a server makes of the authorization of a request, by what it
    remembers. -/
structure Server (σ : Type) where
  accepts : σ → List Nat → Option σ
  /-- The last counter it has accepted. -/
  last : σ → Int

namespace Server

variable {σ : Type}

/-- The server knows a number and its password: it accepts them, and it accepts
    the code of a counter that is above the last one. -/
structure Knows (server : Server σ) (number password : JavaString) : Prop where
  accepts_password : ∀ (state : σ) (signal : Signal) (value : List Nat),
    signal.localNumber = some number → signal.counter = -1 →
      signal.credentials password = .ok value →
        ∃ state', server.accepts state value = some state' ∧
          server.last state' = server.last state
  -- The code of any counter above the last is accepted, so that one may be
  -- skipped.
  accepts_code : ∀ (state : σ) (signal : Signal) (k : Nat) (value : List Nat),
    signal.localNumber = some number → signal.counter = k → k < 9223372036854775808 →
      server.last state < k → signal.credentials password = .ok value →
        ∃ state', server.accepts state value = some state' ∧ server.last state' = k

/-- One request after the other, if the server accepts them all. -/
def acceptsAll (server : Server σ) : σ → List ClientRequest → Option σ
  | state, [] => some state
  | state, request :: requests =>
    (request.authorization.bind (server.accepts state)).bind fun state' =>
      server.acceptsAll state' requests

end Server

namespace Sent

def expected : Sent → Expected
  | .request _ _ _ => .request
  | .acknowledgement => .acknowledgement

/-- A request that is read is its words and its body. -/
def content : Sent → Option (List (List Nat) × Bytes)
  | .request signal _ _ =>
    some ([codePoints signal.getMethod, codePoints signal.getLocation,
      Text.ofString "HTTP/1.0"], getBytes signal.body)
  | .acknowledgement => none

/-- A request whose text can be read as it was meant. -/
def Legible : Sent → Prop
  | .request signal _ _ =>
    IsWord signal.getMethod ∧ IsWord signal.getLocation ∧ signal.Representable
  | .acknowledgement => True

end Sent

/-- The acknowledgement of the client is a response. -/
theorem isResponse_ok : IsResponse OK_RESPONSE
    ⟨200, [(Text.ofString "Content-Length", Text.ofString "0")], []⟩ := by
  decide +kernel

/-- A legible request is read as what it was made of. -/
theorem takeClientRequest_legible {signal : Signal} {text password : JavaString}
    {htext : signal.serialize = .ok text}
    (hlegible : Sent.Legible (.request signal text htext))
    (hpassword : signal.password = some password) (w : Bytes) :
    ∃ value, signal.credentials password = .ok value ∧
      takeClientRequest (getBytes text ++ w) = some (.ok (⟨[codePoints signal.getMethod,
        codePoints signal.getLocation, Text.ofString "HTTP/1.0"], some value,
        getBytes signal.body⟩, w)) := by
  rcases hlegible with ⟨hmethod, hlocation, hm, hl, hbody⟩
  rcases takeClientRequest_serialize hmethod hlocation htext hpassword w with ⟨value, hvalue, h⟩
  have hlength := (length_getBytes signal.body).2.mpr hbody
  rw [← hlength, List.take_length, List.drop_length, List.nil_append, words,
    (map_written_iff _).mpr hm, (map_written_iff _).mpr hl] at h
  exact ⟨value, hvalue, h⟩

/-- What a client has written in a dialogue is read back as the requests it was
    made of, and a server that knows the password accepts each, as none has a
    counter that was there before. -/
theorem readBack_dialogue {c : SignalingSocket} {counter counter' : Option Int}
    {parts : List Part} {incoming : Bytes} {sent : List Sent}
    {outcomes : List (Except SocketFailure Answer)}
    (h : Dialogue c counter parts incoming sent outcomes counter')
    (hmethods : ∀ x broken, Part.call x broken ∈ parts → IsMethod c x)
    (hlegible : ∀ s ∈ sent, s.Legible) {number password : JavaString}
    (hnumber : c.localNumber = some number) (hpassword : c.password = some password) {σ : Type}
    (server : Server σ) (hknows : server.Knows number password) (state : σ)
    (hlow : 0 ≤ nextCounter counter) (hnew : server.last state < nextCounter counter)
    (hhigh : nextCounter counter + parts.length < 9223372036854775808) (more : Bytes) :
    ∃ requests state', readBack (sent.map Sent.expected) (sent.flatMap Sent.bytes ++ more)
        = some (requests, more) ∧
      requests.map ClientRequest.content = sent.filterMap Sent.content ∧
      server.acceptsAll state requests = some state' ∧
      server.last state ≤ server.last state' ∧ server.last state' < nextCounter counter' := by
  induction h generalizing state with
  | nil counter => exact ⟨[], state, rfl, rfl, rfl, Int.le_refl _, hnew⟩
  | @answered x counter counter' signal hsignal text htext _ _ _ _ parts sent _ _ ih =>
      rw [List.length_cons] at hhigh
      have hnext := construct_counter c x counter hlow (by omega)
      rcases construct_signal hsignal with ⟨k, hmade, hcounted⟩
      have hsigns := (hmethods x none List.mem_cons_self).signs hmade
      rcases takeClientRequest_legible (hlegible _ List.mem_cons_self)
        (hsigns.password.trans hpassword) (sent.flatMap Sent.bytes ++ more) with
        ⟨value, hvalue, htake⟩
      -- The request is accepted, and the last counter is below the next.
      have hauthorized : ∃ state', server.accepts state value = some state' ∧
          server.last state ≤ server.last state' ∧
          server.last state' < nextCounter (x.construct c counter).2 := by
        have hlocal := hsigns.localNumber.trans hnumber
        by_cases hx : x.counted = true
        · rcases hcounted hx with ⟨hprovider, rfl⟩
          have hcode : signal.counter = ((nextCounter counter).toNat : Int) := by
            rw [hsigns.counter, if_pos hx]
            omega
          rcases hknows.accepts_code state signal _ value hlocal hcode (by omega) (by omega)
            hvalue with ⟨state', haccepts, hlast⟩
          refine ⟨state', haccepts, by omega, ?_⟩
          rw [hnext, if_pos ⟨hx, hprovider⟩]
          omega
        · have hnone : signal.counter = -1 := by rw [hsigns.counter, if_neg hx]
          rcases hknows.accepts_password state signal value hlocal hnone hvalue with
            ⟨state', haccepts, hlast⟩
          refine ⟨state', haccepts, by omega, ?_⟩
          rw [hnext, if_neg (fun h => hx h.1)]
          omega
      rcases hauthorized with ⟨state', haccepts, hle, hlt⟩
      have hbound : nextCounter (x.construct c counter).2 ≤ nextCounter counter + 1 := by
        rw [hnext]
        split_ifs <;> omega
      rcases ih (fun y broken hy => hmethods y broken (List.mem_cons_of_mem _ hy))
        (fun s hs => hlegible s (List.mem_cons_of_mem _ hs)) state'
        (by rw [hnext]; split_ifs <;> omega) hlt (by omega) with
        ⟨requests, state'', hread, hcontent, haccepts', hle', hlt'⟩
      refine ⟨⟨[codePoints signal.getMethod, codePoints signal.getLocation,
        Text.ofString "HTTP/1.0"], some value, getBytes signal.body⟩ :: requests, state'', ?_, ?_,
        ?_, Int.le_trans hle hle', hlt'⟩
      · rw [List.flatMap_cons, Sent.bytes, List.append_assoc, List.map_cons, Sent.expected,
          readBack, htake]
        simp only [hread, Option.map_some]
      · rw [List.map_cons, hcontent, List.filterMap_cons, Sent.content]
        rfl
      · simp only [Server.acceptsAll, Option.bind_some, haccepts, haccepts']
  | @refused x counter counter' _ _ _ parts _ sent _ _ ih =>
      rw [List.length_cons] at hhigh
      have hnext := construct_counter c x counter hlow (by omega)
      refine ih (fun y broken hy => hmethods y broken (List.mem_cons_of_mem _ hy)) hlegible state
        ?_ ?_ ?_
      all_goals rw [hnext]; split_ifs <;> omega
  | @unsent x counter counter' _ _ _ parts _ sent _ _ ih =>
      rw [List.length_cons] at hhigh
      have hnext := construct_counter c x counter hlow (by omega)
      refine ih (fun y broken hy => hmethods y broken (List.mem_cons_of_mem _ hy)) hlegible state
        ?_ ?_ ?_
      all_goals rw [hnext]; split_ifs <;> omega
  | @waited counter counter' parts _ sent _ _ ih =>
      rw [List.length_cons] at hhigh
      exact ih (fun y broken hy => hmethods y broken (List.mem_cons_of_mem _ hy)) hlegible state
        hlow hnew (by omega)
  | @unwaited _ counter counter' parts _ sent _ _ ih =>
      rw [List.length_cons] at hhigh
      exact ih (fun y broken hy => hmethods y broken (List.mem_cons_of_mem _ hy)) hlegible state
        hlow hnew (by omega)
  | @acknowledged _ counter counter' parts _ sent _ _ ih =>
      rw [List.length_cons] at hhigh
      rcases ih (fun y broken hy => hmethods y broken (List.mem_cons_of_mem _ hy))
        (fun s hs => hlegible s (List.mem_cons_of_mem _ hs)) state hlow hnew (by omega) with
        ⟨requests, state', hread, hcontent, hbounds⟩
      refine ⟨requests, state', ?_, ?_, hbounds⟩
      · rw [List.flatMap_cons, Sent.bytes, List.append_assoc, List.map_cons, Sent.expected,
          readBack, takeResponse_append isResponse_ok]
        simp only [if_true, hread]
      · rw [hcontent, List.filterMap_cons, Sent.content]
  | @unacknowledged _ _ counter counter' parts _ sent _ _ ih =>
      rw [List.length_cons] at hhigh
      exact ih (fun y broken hy => hmethods y broken (List.mem_cons_of_mem _ hy)) hlegible state
        hlow hnew (by omega)

/-- Both sides of a dialogue. However the bytes of the server are cut into
    portions, each method judges its own response and each signal is heard. What
    the client has written is read back as the requests it has made, in their
    order and with nothing left, and a server that knows the password and has
    not accepted a counter from the preference on accepts every one. -/
theorem dialogue_agrees {c : SignalingSocket} {counter counter' : Option Int} {parts : List Part}
    {incoming : Bytes} {sent : List Sent} {outcomes : List (Except SocketFailure Answer)}
    (h : Dialogue c counter parts incoming sent outcomes counter')
    (hmethods : ∀ x broken, Part.call x broken ∈ parts → IsMethod c x)
    (hlegible : ∀ s ∈ sent, s.Legible) {number password : JavaString}
    (hnumber : c.localNumber = some number) (hpassword : c.password = some password) {σ : Type}
    (server : Server σ) (hknows : server.Knows number password) (state : σ)
    (hlow : 0 ≤ nextCounter counter) (hnew : server.last state < nextCounter counter)
    (hhigh : nextCounter counter + parts.length < 9223372036854775808)
    (source : Source UInt8) (hflowing : Flowing source.reads) (following : Bytes)
    (hpending : source.pending = incoming ++ following)
    (hpossible : (converse socketWire c ⟨.ok source, [], counter, []⟩ parts).source
      ≠ .error .impossible) :
    ∃ left requests state', converse socketWire c ⟨.ok source, [], counter, []⟩ parts
        = ⟨.ok left, sent.flatMap Sent.bytes, counter', outcomes⟩ ∧
      left.pending = following ∧
      readBack (sent.map Sent.expected) (sent.flatMap Sent.bytes) = some (requests, []) ∧
      requests.map ClientRequest.content = sent.filterMap Sent.content ∧
      server.acceptsAll state requests = some state' ∧
      server.last state ≤ server.last state' ∧ server.last state' < nextCounter counter' := by
  rcases converse_of_dialogue h hflowing hpending hpossible with ⟨left, hrun, hleft, _⟩
  rcases readBack_dialogue h hmethods hlegible hnumber hpassword server hknows state hlow hnew
    hhigh [] with ⟨requests, state', hread, hrest⟩
  rw [List.append_nil] at hread
  exact ⟨left, requests, state', hrun, hleft, hread, hrest⟩

/-! ## An account -/

/-- An account, with the last counter that was accepted. It stands for a server
    where one is needed, and says nothing about the one there is. -/
structure Account where
  number : JavaString
  password : JavaString
  /-- The last counter it has accepted. -/
  last : Int
  deriving DecidableEq

namespace Account

/-- The text behind a scheme. -/
def decoded (scheme : String) (value : List Nat) : Option Bytes :=
  if Text.ofString scheme <+: value then
    (Base64.decode (fun _ => none)
      ((value.drop (Text.ofString scheme).length).map UInt8.ofNat)).toOption
  else none

/-- The number and the password are those of the account. -/
def acceptsPassword (a : Account) (bytes : Bytes) : Option Account :=
  if bytes = (a.number ++ ofString ":" ++ a.password).getBytes then some a else none

/-- The code is that of the counter, which has not been accepted yet. -/
def acceptsCode (a : Account) (bytes : Bytes) : Option Account :=
  match Text.partsAt 0x3a (Text.decodeUtf8 bytes) with
  | [number, otp, counter] => do
    let counter ← Text.parseLong counter
    let code ← (Otp.calculateOtp a.password counter).toOption
    if number = a.number.map UInt16.toNat ∧ otp = code.map UInt16.toNat ∧ a.last < counter then
      some { a with last := counter }
    else none
  | _ => none

/-- A request is accepted, or it is not. -/
def authorize (a : Account) : Option (List Nat) → Option Account
  | none => none
  | some value =>
    match decoded "Basic " value with
    | some bytes => a.acceptsPassword bytes
    | none => (decoded "OTP " value).bind a.acceptsCode

/-- The account as a server. -/
def server (number password : JavaString) : Server Int where
  accepts last value := ((Account.mk number password last).authorize (some value)).map Account.last
  last := id

/-- What is encoded behind a scheme is decoded. -/
theorem decoded_scheme (scheme : String) (bytes : Bytes) :
    decoded scheme (Text.ofString scheme ++ (Base64.encodeBytes bytes).map UInt8.toNat)
      = some bytes := by
  have hbytes : ((Base64.encodeBytes bytes).map UInt8.toNat).map UInt8.ofNat
      = Base64.encodeBytes bytes := by
    rw [List.map_map]
    exact (List.map_congr_left fun b _ => UInt8.ofNat_toNat).trans (List.map_id _)
  have hdecode : Base64.decode (fun _ => none) (Base64.encodeBytes bytes) = .ok bytes := by
    rw [Base64.decode_encodeBytes]
    unfold Base64.inflate
    split
    · rfl
    · rfl
  unfold decoded
  rw [if_pos (List.prefix_append _ _), List.drop_left, hbytes, hdecode]
  rfl

/-- A text of one scheme is none of the other. -/
theorem decoded_other (encoded : List Nat) :
    decoded "Basic " (Text.ofString "OTP " ++ encoded) = none := by
  have hbasic : Text.ofString "Basic " = 0x42 :: Text.ofString "asic " := by decide +kernel
  have hotp : Text.ofString "OTP " = 0x4f :: Text.ofString "TP " := by decide +kernel
  unfold decoded
  rw [if_neg]
  rw [hbasic, hotp, List.cons_append, List.cons_prefix_cons]
  rintro ⟨h, _⟩
  exact absurd h (by decide)

/-- The text of a code, in its three parts. -/
theorem partsAt_code {number : JavaString} (hnumber : ∀ u ∈ number, PhoneNumberFormatter.IsKept u)
    (password : JavaString) {counter : Int} {otp : JavaString}
    (hotp : Otp.calculateOtp password counter = .ok otp) (k : Nat) :
    Text.partsAt 0x3a (Text.decodeUtf8
      (number ++ ofString ":" ++ otp ++ ofString ":" ++ ofInt k).getBytes)
        = [number.map UInt16.toNat, otp.map UInt16.toNat, Text.decimal k] := by
  have halphabet : ∀ b ∈ Base64.EQUALS_SIGN :: Base64.STANDARD_ALPHABET,
      b.toNat < 0x80 ∧ b.toNat ≠ 0x3a := by
    decide
  -- Neither the number nor the code has a colon.
  have hnumber' : ∀ u ∈ number, u.toNat < 0x80 ∧ u.toNat ≠ 0x3a := by
    intro u hu
    have hkept := hnumber u hu
    unfold PhoneNumberFormatter.IsKept at hkept
    rcases hkept with ⟨hlow, hhigh⟩ | rfl
    · rw [UInt16.le_iff_toNat_le] at hlow hhigh
      have h39 : (0x39 : UInt16).toNat = 0x39 := rfl
      omega
    · decide
  have hotp' : ∀ c ∈ otp.map UInt16.toNat, c < 0x80 ∧ c ≠ 0x3a := by
    unfold Otp.calculateOtp at hotp
    split at hotp
    · simp only [Java.raise, reduceCtorEq] at hotp
    · rw [← Except.ok.inj hotp, map_toNat_ofAscii]
      intro c hc
      rcases List.mem_map.mp hc with ⟨b, hb, rfl⟩
      exact halphabet b (Base64.mem_encodeBytes _ b hb)
  have hcounter : (ofInt (k : Int)).map UInt16.toNat = Text.decimal k := by
    unfold ofInt
    rw [if_neg (by omega), Int.natAbs_natCast, map_toNat_ofNat]
  have hcolon : (ofString ":").map UInt16.toNat = [0x3a] := by decide +kernel
  have hascii : ∀ u ∈ number ++ ofString ":" ++ otp ++ ofString ":" ++ ofInt k,
      u.toNat < 0x80 := by
    intro u hu
    simp only [List.mem_append] at hu
    rcases hu with (((hu | hu) | hu) | hu) | hu
    · exact (hnumber' u hu).1
    · have hmem := List.mem_map_of_mem (f := UInt16.toNat) hu
      rw [hcolon, List.mem_singleton] at hmem
      omega
    · exact (hotp' _ (List.mem_map_of_mem hu)).1
    · have hmem := List.mem_map_of_mem (f := UInt16.toNat) hu
      rw [hcolon, List.mem_singleton] at hmem
      omega
    · have hmem := List.mem_map_of_mem (f := UInt16.toNat) hu
      rw [hcounter] at hmem
      have hdigit := Text.mem_decimal _ _ hmem
      omega
  rw [decodeUtf8_ascii _ hascii]
  simp only [List.map_append, hcolon, hcounter, List.append_assoc, List.singleton_append]
  rw [Text.partsAt_append _ _ _ (fun hmem => ?_), Text.partsAt_append _ _ _ (fun hmem => ?_),
    Text.partsAt_last _ _ (fun hmem => ?_)]
  · have hdigit := Text.mem_decimal _ _ hmem
    omega
  · exact (hotp' _ hmem).2 rfl
  · rcases List.mem_map.mp hmem with ⟨u, hu, hsame⟩
    exact (hnumber' u hu).2 hsame

/-- A signal of the account with the password is accepted. -/
theorem authorize_password (a : Account) {signal : Signal} (hnumber : signal.localNumber
    = some a.number) (hcounter : signal.counter = -1) {value : List Nat}
    (hvalue : signal.credentials a.password = .ok value) : a.authorize (some value) = some a := by
  unfold Signal.credentials at hvalue
  rw [if_pos hcounter, Except.ok.injEq, hnumber] at hvalue
  unfold authorize acceptsPassword
  rw [← hvalue]
  simp only [decoded_scheme, orNull, Option.getD_some, if_true]

/-- A signal of the account with a new counter is accepted, and its counter is
    the last one then. -/
theorem authorize_code (a : Account) {signal : Signal}
    (hkept : ∀ u ∈ a.number, PhoneNumberFormatter.IsKept u)
    (hnumber : signal.localNumber = some a.number) {k : Nat} (hcounter : signal.counter = k)
    (hnew : a.last < k) (hrange : k < 9223372036854775808) {value : List Nat}
    (hvalue : signal.credentials a.password = .ok value) :
    a.authorize (some value) = some { a with last := k } := by
  unfold Signal.credentials at hvalue
  rw [if_neg (by omega), hcounter, hnumber] at hvalue
  rcases (Java.bind_ok _ _ _).mp hvalue with ⟨otp, hotp, hvalue⟩
  rw [Except.ok.injEq] at hvalue
  unfold authorize acceptsCode
  rw [← hvalue]
  simp only [decoded_other, decoded_scheme, Option.bind_some, orNull, Option.getD_some,
    partsAt_code hkept a.password hotp k, Text.parseLong_decimal k hrange, hotp, Except.toOption,
    true_and, hnew, bind, if_true]

/-- An account knows its number and its password. -/
theorem knows (number : JavaString) (hkept : ∀ u ∈ number, PhoneNumberFormatter.IsKept u)
    (password : JavaString) : (server number password).Knows number password where
  accepts_password last signal value hnumber hcounter hvalue := by
    refine ⟨last, ?_, rfl⟩
    have haccepted := authorize_password ⟨number, password, last⟩ hnumber hcounter hvalue
    simp only [server, haccepted, Option.map_some]
  accepts_code last signal k value hnumber hcounter hrange hnew hvalue := by
    refine ⟨k, ?_, rfl⟩
    have haccepted := authorize_code ⟨number, password, last⟩ hkept hnumber hcounter hnew hrange
      hvalue
    simp only [server, haccepted, Option.map_some]

end Account

/-- The number that is called is formatted as it is. -/
theorem askForSession_construct (counter : Option Int) :
    (askForSession.construct callerSocket counter).1 = .ok (callerSocket.initiateSignal
      (OtpCounterProvider.getOtpCounter counter).1 (ofString "+14155550102")) := by
  have hformat : PhoneNumberFormatter.formatNumber PhoneNumberFormatter.parsesNothing none
      (ofString "+14155550102") = .ok (ofString "+14155550102") := by
    decide +kernel
  unfold Exchange.construct askForSession SignalingSocket.initiateConnection
  simp only [hformat, Java.ok_bind]
  rfl

/-- The caller's dialogue. -/
theorem dialogue_agrees_caller : ∃ text text' left requests last,
    converse socketWire callerSocket ⟨.ok ⟨[], callerReads⟩, [], none, []⟩ callerParts
        = ⟨.ok left, getBytes text ++ (OK_RESPONSE ++ getBytes text'), some 3,
          [.ok (.session (some ⟨31337, 7, some "relay", 1⟩)),
            .ok (.heard SignalListener.ringing.signal), .ok .done]⟩ ∧
      left.pending = [] ∧
      readBack [.request, .acknowledgement, .request]
          (getBytes text ++ (OK_RESPONSE ++ getBytes text')) = some (requests, []) ∧
      requests.map ClientRequest.content
        = [([Text.ofString "GET", Text.ofString "/session/1/+14155550102",
            Text.ofString "HTTP/1.0"], []),
          ([Text.ofString "DELETE", Text.ofString "/session/7", Text.ofString "HTTP/1.0"], [])] ∧
      (Account.server (ofString "+14155550101") (ofString "secret")).acceptsAll 0 requests
        = some last ∧ 0 ≤ last ∧ last < 3 := by
  have hask : (callerSocket.initiateSignal 1 (ofString "+14155550102")).Authorizes :=
    Or.inr (by decide)
  have hhangup : (callerSocket.hangupSignal 2 7).Authorizes := Or.inr (by decide)
  rcases (exists_serialize _).mpr hask with ⟨text, htext⟩
  rcases (exists_serialize _).mpr hhangup with ⟨text', htext'⟩
  have hresponse : IsResponse sessionResponse
      ⟨200, [(Text.ofString "Content-Length", Text.ofString "66")], ascii sessionText⟩ := by
    decide +kernel
  have hgone : IsResponse (ascii "HTTP/1.0 200 OK\r\n\r\n") ⟨200, [], []⟩ := by decide +kernel
  -- The counters are one and two, and three is left.
  have hfirst : (askForSession.construct callerSocket none).2 = some 2 := by decide +kernel
  have hsecond : ((callerSocket.setHangup 7).construct callerSocket (some 2)).2 = some 3 := by
    decide +kernel
  have hend : Dialogue callerSocket (some 2) [.call (callerSocket.setHangup 7) none] _ _ _
      (some 3) := .answered rfl htext' hgone (by rw [hsecond]; exact .nil _)
  have hdialogue : Dialogue callerSocket none callerParts _ _ _ (some 3) :=
    .answered (askForSession_construct none) htext hresponse
      (by rw [hfirst]; exact .waited (.acknowledged SignalListener.ringing hend))
  have hmethods : ∀ x broken, Part.call x broken ∈ callerParts → IsMethod callerSocket x := by
    intro x broken hx
    simp only [callerParts, List.mem_cons, Part.call.injEq, reduceCtorEq, List.not_mem_nil,
      or_false, false_or] at hx
    rcases hx with ⟨rfl, -⟩ | ⟨rfl, -⟩
    · exact .initiateConnection _ _ _ _
    · exact .setHangup 7
  have hlegible : ∀ s ∈ [Sent.request _ text htext, .acknowledgement, .request _ text' htext'],
      s.Legible := by
    intro s hs
    simp only [List.mem_cons, List.not_mem_nil, or_false] at hs
    rcases hs with rfl | rfl | rfl
    · exact ⟨by decide +kernel, by decide +kernel, by decide +kernel⟩
    · trivial
    · exact ⟨by decide +kernel, by decide +kernel, by decide +kernel⟩
  have hknows := Account.knows (ofString "+14155550101") (by decide +kernel)
    (ofString "secret")
  rcases dialogue_agrees hdialogue hmethods hlegible rfl rfl _ hknows 0 (by decide) (by decide)
    (by decide) ⟨[], callerReads⟩ flowing_callerReads [] (by decide +kernel)
    (by decide +kernel) with
    ⟨left, requests, last, hrun, hleft, hread, hcontent, haccepts, hle, hlt⟩
  have hjudged : askForSession.finish (askForSession.judge ⟨200, [(Text.ofString "Content-Length",
      Text.ofString "66")], ascii sessionText⟩)
        = .ok (.session (some ⟨31337, 7, some "relay", 1⟩)) := by
    decide +kernel
  have hwords : codePoints (ofString "GET") = Text.ofString "GET" ∧
      codePoints (ofString "/session/1/" ++ ofString "+14155550102")
        = Text.ofString "/session/1/+14155550102" ∧
      codePoints (ofString "DELETE") = Text.ofString "DELETE" ∧
      codePoints (ofString "/session/" ++ ofInt 7) = Text.ofString "/session/7" := by
    decide +kernel
  rw [hjudged] at hrun
  simp only [List.map_cons, List.map_nil, Sent.expected, List.flatMap_cons, List.flatMap_nil,
    Sent.bytes, List.append_nil] at hrun hread
  simp only [List.filterMap_cons, List.filterMap_nil, Sent.content,
    SignalingSocket.initiateSignal, SignalingSocket.hangupSignal, SignalingSocket.ofSession,
    SignalingSocket.bodiless, hwords.1, hwords.2.1, hwords.2.2.1, hwords.2.2.2] at hcontent
  exact ⟨text, text', left, requests, last, hrun, hleft, hread, hcontent, haccepts, hle, hlt⟩

end RedPhone
