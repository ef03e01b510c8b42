import RedPhone.Java.Words
import RedPhone.Lib.Sha

/-!
# Signals to the Server

A signal of the client is a request line, at most two headers and a body. Its
class says what the method, the location and the body are, and the constructor
of the base class is given the number and the password for the authorization.
There are three forms of that: none without a password, the password itself
where there is no counter, and otherwise a code of the counter under the
password.

The text is put together as a string and written to the connection as its
bytes. The length that is announced for the body is that of the string.

## Main definitions

* `Signal`: What a signal is made of.
* `Otp.calculateOtp`: The code of a counter.
* `buildRequest`, `buildAuthorization`, `buildBody`: The parts of the text.
* `serialize`: The text.

## Theorems

* `buildAuthorization_ok`: The header for the authorization, if there is one.
* `exists_serialize`: When there is a text.
-/

namespace RedPhone

namespace JavaString

/-- The text of a number. -/
def ofNat (n : Nat) : JavaString := (Text.decimal n).map UInt16.ofNat

@[inherit_doc ofNat]
def ofInt (n : Int) : JavaString := if n < 0 then 0x2d :: ofNat n.natAbs else ofNat n.natAbs

/-- The text of bytes in ASCII. -/
def ofAscii (bytes : Bytes) : JavaString := bytes.map fun b => UInt16.ofNat b.toNat

/-- What a reference is in a text it is appended to. -/
def orNull (s : Option JavaString) : JavaString := s.getD (ofString "null")

end JavaString

open JavaString

/-- `Otp.calculateOtp`. There is no key without a byte. -/
def Otp.calculateOtp (password : JavaString) (counter : Int) : Java JavaString :=
  if password.getBytes = [] then Java.raise .illegalArgument
  else .ok (ofAscii (Base64.encodeBytes
    (Sha.hmac Sha.Sha1.sha1 password.getBytes (ofInt counter).getBytes)))

/-- A signal, with what its class answers. Strings have the length of an `int`. -/
structure Signal where
  localNumber : Option JavaString
  password : Option JavaString
  counter : Int
  getMethod : JavaString
  getLocation : JavaString
  getBody : Option JavaString
  length_getBody : ∀ body ∈ getBody, body.length < 2147483648

namespace Signal

def buildRequest (signal : Signal) : JavaString :=
  signal.getMethod ++ ofString " " ++ signal.getLocation ++ ofString " HTTP/1.0\r\n"

def buildAuthorization (signal : Signal) : Java JavaString :=
  match signal.password with
  | none => .ok []
  | some password =>
    if signal.counter = -1 then
      .ok (ofString "Authorization: Basic " ++ ofAscii (Base64.encodeBytes
        (orNull signal.localNumber ++ ofString ":" ++ password).getBytes) ++ ofString "\r\n")
    else do
      let otp ← Otp.calculateOtp password signal.counter
      .ok (ofString "Authorization: OTP " ++ ofAscii (Base64.encodeBytes
        (orNull signal.localNumber ++ ofString ":" ++ otp ++ ofString ":"
          ++ ofInt signal.counter).getBytes) ++ ofString "\r\n")

def buildBody (signal : Signal) : JavaString :=
  match signal.getBody with
  | none => ofString "\r\n"
  | some body =>
    (if 0 < body.length then
      ofString "Content-Length: " ++ ofNat body.length ++ ofString "\r\n" else [])
      ++ ofString "\r\n" ++ body

def serialize (signal : Signal) : Java JavaString := do
  let authorization ← signal.buildAuthorization
  .ok (signal.buildRequest ++ authorization ++ signal.buildBody)

/-- The body, which is empty where there is none. -/
def body (signal : Signal) : JavaString := signal.getBody.getD []

/-- An authorization that can be made: a code needs a password with a byte. -/
def Authorizes (signal : Signal) : Prop :=
  signal.counter = -1 ∨ signal.password ≠ some []

/-- A value of a header: printable characters in ASCII, without a colon. -/
def IsValue (value : JavaString) : Prop :=
  value ≠ [] ∧ ∀ u ∈ value, 0x20 ≤ u.toNat ∧ u.toNat < 0x80 ∧ u.toNat ≠ 0x3a

theorem isValue_base64 (kind : JavaString) (hkind : IsValue kind) (bytes : Bytes) :
    IsValue (kind ++ ofAscii (Base64.encodeBytes bytes)) := by
  have halphabet : ∀ b ∈ Base64.EQUALS_SIGN :: Base64.STANDARD_ALPHABET,
      0x20 ≤ (UInt16.ofNat b.toNat).toNat ∧ (UInt16.ofNat b.toNat).toNat < 0x80 ∧
        (UInt16.ofNat b.toNat).toNat ≠ 0x3a := by
    decide
  refine ⟨fun hnil => hkind.1 (List.append_eq_nil_iff.mp hnil).1, fun u hu => ?_⟩
  rcases List.mem_append.mp hu with hu | hu
  · exact hkind.2 u hu
  · rcases List.mem_map.mp hu with ⟨b, hb, rfl⟩
    exact halphabet b (Base64.mem_encodeBytes bytes b hb)

/-- The authorization is nothing, or a header line. -/
theorem buildAuthorization_ok {signal : Signal} {authorization : JavaString}
    (h : signal.buildAuthorization = .ok authorization) :
    authorization = [] ∨ ∃ value, IsValue value ∧
      authorization = ofString "Authorization:" ++ value ++ ofString "\r\n" := by
  unfold buildAuthorization at h
  cases hpassword : signal.password with
  | none =>
      rw [hpassword] at h
      exact Or.inl (Except.ok.inj h).symm
  | some password =>
      rw [hpassword] at h
      simp only [] at h
      right
      -- The two forms differ in what is encoded and in the word before it.
      by_cases hcounter : signal.counter = -1
      · rw [if_pos hcounter, Except.ok.injEq] at h
        refine ⟨_, isValue_base64 (ofString " Basic ") (by unfold IsValue; decide)
          (orNull signal.localNumber ++ ofString ":" ++ password).getBytes, ?_⟩
        rw [← h, ← List.append_assoc]
        rfl
      · rw [if_neg hcounter] at h
        rcases (Java.bind_ok _ _ _).mp h with ⟨otp, _, h⟩
        rw [Except.ok.injEq] at h
        refine ⟨_, isValue_base64 (ofString " OTP ") (by unfold IsValue; decide)
          (orNull signal.localNumber ++ ofString ":" ++ otp ++ ofString ":"
            ++ ofInt signal.counter).getBytes, ?_⟩
        rw [← h, ← List.append_assoc]
        rfl

/-- Only the empty string has no bytes. -/
theorem getBytes_eq_nil (s : JavaString) : s.getBytes = [] ↔ s = [] := by
  have hlength := (length_getBytes s).1
  constructor
  · intro h
    rw [h] at hlength
    exact List.length_eq_zero_iff.mp (Nat.le_zero.mp hlength)
  · rintro rfl
    rfl

/-- There is a text exactly if the authorization can be made. -/
theorem exists_serialize (signal : Signal) :
    (∃ text, signal.serialize = .ok text) ↔ signal.Authorizes := by
  have hparts : (∃ text, signal.serialize = .ok text)
      ↔ ∃ authorization, signal.buildAuthorization = .ok authorization := by
    constructor
    · rintro ⟨text, h⟩
      rcases (Java.bind_ok _ _ _).mp h with ⟨authorization, hauthorization, _⟩
      exact ⟨authorization, hauthorization⟩
    · rintro ⟨authorization, hauthorization⟩
      exact ⟨_, (Java.bind_ok _ _ _).mpr ⟨authorization, hauthorization, rfl⟩⟩
  rw [hparts]
  unfold buildAuthorization Authorizes
  cases hpassword : signal.password with
  | none => exact iff_of_true ⟨[], rfl⟩ (Or.inr nofun)
  | some password =>
      simp only []
      by_cases hcounter : signal.counter = -1
      · rw [if_pos hcounter]
        exact iff_of_true ⟨_, rfl⟩ (Or.inl hcounter)
      · rw [if_neg hcounter]
        -- The code is the one part that can fail.
        unfold Otp.calculateOtp
        by_cases hempty : password = []
        · rw [if_pos ((getBytes_eq_nil password).mpr hempty), hempty]
          refine iff_of_false ?_ (not_or.mpr ⟨hcounter, not_not.mpr rfl⟩)
          rintro ⟨_, h⟩
          exact nomatch h
        · rw [if_neg (fun h => hempty ((getBytes_eq_nil password).mp h))]
          exact iff_of_true ⟨_, rfl⟩ (Or.inr fun h => hempty (Option.some.inj h))

end Signal

end RedPhone
