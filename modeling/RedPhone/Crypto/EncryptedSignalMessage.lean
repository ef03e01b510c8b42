import RedPhone.Java.Utf8
import RedPhone.Lib.Sha
import RedPhone.Util.Conversions

/-!
# Encrypted Signals

An incoming call is announced by a message of SMS or push: Base64 of a version,
an initialization vector, a ciphertext and a code over all of that. Whoever can
send a message can send any string, and the receivers catch one exception only,
`InvalidEncryptedSignalException`.

A plaintext is never returned that the code does not vouch for. The exception
is another matter. Three lengths are found by subtraction: that of what the
code covers, that of the ciphertext, and where the code begins. Only one test
of a length is made, that a message is not shorter than a vector, and it is off
by the byte of the version and too late for the code. The decoder before it
throws unchecked exceptions for text that is too short or has a delete
character in it, and the version is read of a message that may be empty.

## Main definitions

* `SignalFailure`: What reading a message can throw.
* `EncryptedSignalMessage.getPlaintext`: The plaintext.
* `Authentic`: A decoded message of version 0 whose code verifies.
* `Conforms`: What a receiver relies on.
* `Crashes`: The messages it cannot survive.

## Theorems

* `verifyMac_eq`, `doFinal_eq`: The two subtractions.
* `getPlaintext_decoded`: What a decoded message comes to.
* `conforms_iff`: Every message conforms, but for those.
* `conforms_fails`: Three zero bytes.
-/

namespace RedPhone

open Slice

/-- `s.getBytes("US-ASCII")`: a unit outside is written as a question mark. -/
def JavaString.getAsciiBytes (s : JavaString) : Bytes :=
  s.map fun u => if u.toNat < 0x80 then UInt8.ofNat u.toNat else 0x3f

/-- What a cipher declares for the last block. -/
inductive CipherFailure
  | illegalBlockSize
  | badPadding
  deriving DecidableEq, Repr

/-- What reading a message can throw. -/
inductive SignalFailure
  /-- An `InvalidEncryptedSignalException`. -/
  | invalid (message : String)
  /-- An `InvalidEncryptedSignalException` around another exception. -/
  | invalidBecause (cause : SignalFailure)
  | java (e : JavaException)
  | cipher (e : CipherFailure)
  deriving DecidableEq, Repr

/-- What `getPlaintext` declares, and all that its callers catch. -/
def SignalFailure.Declared : SignalFailure → Prop
  | .invalid _ => True
  | .invalidBecause _ => True
  | .java _ => False
  | .cipher _ => False

/-- A message with the key that is stored in the preferences. Such messages
    have some thousand characters. From 715827883 on the estimate the decoder
    makes of its output is no longer an `int`. -/
structure EncryptedSignalMessage where
  message : JavaString
  keyPreference : Option JavaString
  length_message : message.length < 715827883
  length_keyPreference : ∀ key ∈ keyPreference, key.length < 715827883

/-- `len * 3 / 4`, the estimate, with the product an `int`. -/
def len34 (len : Nat) : Int := (Int.bmod (len * 3) 4294967296).tdiv 4

/-- Up to that length the estimate is what it should be. -/
theorem len34_eq (len : Nat) (h : len < 715827883) : len34 len = ((len * 3 / 4 : Nat) : Int) := by
  -- Three times the length does not reach 2^31.
  have hsmall : Int.bmod ((len : Int) * 3) 4294967296 = (len : Int) * 3 := by
    rw [Int.bmod_def]
    omega
  have hdiv : ((len : Int) * 3).tdiv 4 = ((len * 3 / 4 : Nat) : Int) := by
    rw [Int.tdiv_eq_ediv_of_nonneg (by omega)]
    omega
  exact (congrArg (Int.tdiv · 4) hsmall).trans hdiv

namespace EncryptedSignalMessage

/-- Neither the message nor the key overflows it. -/
theorem len34_of_message (m : EncryptedSignalMessage) :
    len34 m.message.length = ((m.message.length * 3 / 4 : Nat) : Int) ∧
      ∀ key ∈ m.keyPreference, len34 key.length = ((key.length * 3 / 4 : Nat) : Int) :=
  ⟨len34_eq _ m.length_message, fun key hkey => len34_eq _ (m.length_keyPreference key hkey)⟩

def VERSION_OFFSET : Nat := 0
def IV_OFFSET : Nat := VERSION_OFFSET + 1
def CIPHERTEXT_OFFSET : Nat := IV_OFFSET + 16
def MAC_LENGTH : Nat := 10

/-- A statement that can throw what any does. -/
def ofJava {α : Type} : Java α → Except SignalFailure α
  | .ok a => .ok a
  | .error e => .error (.java e)

/-- `mac.update(bytes, 0, len)`. -/
def update (bytes : Bytes) (len : Int) : Java Bytes :=
  if len < 0 ∨ bytes.length < len then Java.raise .illegalArgument else .ok (bytes.take len.toNat)

section Message

-- The decompression of the decoder, and the cipher: AES in CBC mode with
-- padding, by its key, its vector and the ciphertext.
variable (gunzip : Bytes → Option Bytes)
  (cbcDecrypt : Bytes → Bytes → Bytes → Except CipherFailure Bytes)

def getCombinedKey (m : EncryptedSignalMessage) : Except SignalFailure Bytes :=
  match m.keyPreference with
  -- No key is stored before the registration.
  | none => .error (.invalid "No combined key available!")
  | some key => do
    let keyBytes ← ofJava (Base64.decode gunzip key.getAsciiBytes)
    if keyBytes.length ≠ 40 then .error (.invalid "Local cipher+mac key != 40 bytes?")
    else .ok keyBytes

def getCipherKey (m : EncryptedSignalMessage) : Except SignalFailure Bytes := do
  let keyBytes ← m.getCombinedKey gunzip
  ofJava (Java.arraycopy keyBytes 0 16)

def getMacKey (m : EncryptedSignalMessage) : Except SignalFailure Bytes := do
  let keyBytes ← m.getCombinedKey gunzip
  ofJava (Java.arraycopy keyBytes 16 20)

/-- Half of the digest is compared, the last ten bytes. -/
def verifyMac (m : EncryptedSignalMessage) (messageBytes : Bytes) : Except SignalFailure Bool := do
  let macKey ← m.getMacKey gunzip
  let covered ← ofJava (update messageBytes (messageBytes.length - MAC_LENGTH))
  let ourDigestComplete := Sha.hmac Sha.Sha1.sha1 macKey covered
  let ourDigest ← ofJava (Java.arraycopy ourDigestComplete 10 10)
  -- The difference is no longer negative here.
  let theirDigest ← ofJava (Java.arraycopy messageBytes (messageBytes.length - MAC_LENGTH) 10)
  .ok (ourDigest = theirDigest)

def isValidVersion (messageBytes : Bytes) : Java Bool := do
  let version ← Java.byteAt messageBytes VERSION_OFFSET
  .ok (version = 0)

/-- The key and the vector of the cipher. -/
def getCipher (m : EncryptedSignalMessage) (messageBytes : Bytes) :
    Except SignalFailure (Bytes × Bytes) := do
  let cipherKey ← m.getCipherKey gunzip
  if messageBytes.length < 16 then .error (.invalid "Message shorter than IV length.")
  else
    let iv ← ofJava (Java.arraycopy messageBytes IV_OFFSET 16)
    .ok (cipherKey, iv)

/-- `cipher.doFinal(bytes, CIPHERTEXT_OFFSET, len)`. -/
def doFinal (cipher : Bytes × Bytes) (bytes : Bytes) (len : Int) : Except SignalFailure Bytes :=
  if len < 0 ∨ bytes.length < CIPHERTEXT_OFFSET + len then
    ofJava (Java.raise .illegalArgument)
  else match cbcDecrypt cipher.1 cipher.2 (slice CIPHERTEXT_OFFSET len.toNat bytes) with
    | .ok plaintext => .ok plaintext
    | .error e => .error (.cipher e)

/-- The byte of a version as it is printed. -/
def printed (version : UInt8) : String := toString version.toInt8.toInt

/-- The body of the `try` statement. -/
def getPlaintextBody (m : EncryptedSignalMessage) : Except SignalFailure Bytes := do
  let messageBytes ← ofJava (Base64.decode gunzip m.message.getAsciiBytes)
  let validVersion ← ofJava (isValidVersion messageBytes)
  if ¬ validVersion then
    let version ← ofJava (Java.byteAt messageBytes VERSION_OFFSET)
    .error (.invalid ("Unknown version: " ++ printed version))
  else
    let verified ← m.verifyMac gunzip messageBytes
    if ¬ verified then .error (.invalid "Bad MAC")
    else
      let cipher ← m.getCipher gunzip messageBytes
      doFinal cbcDecrypt cipher messageBytes
        (messageBytes.length - CIPHERTEXT_OFFSET - MAC_LENGTH)

/-- The `catch` clauses: what is declared by the code that is called becomes an
    `InvalidEncryptedSignalException`. Of the exceptions that become an
    `AssertionError` none can be thrown. -/
def caught : SignalFailure → SignalFailure
  | .java (.io message) => .invalidBecause (.java (.io message))
  | .cipher e => .invalidBecause (.cipher e)
  | e => e

def getPlaintext (m : EncryptedSignalMessage) : Except SignalFailure Bytes :=
  (m.getPlaintextBody gunzip cbcDecrypt).mapError caught

/-- A key of forty bytes is stored. -/
def Stores (m : EncryptedSignalMessage) (key : Bytes) : Prop :=
  ∃ text ∈ m.keyPreference, Base64.decode gunzip text.getAsciiBytes = .ok key ∧ key.length = 40

/-- The code of a message under the second part of the key. -/
def macOf (key covered : Bytes) : Bytes :=
  slice 10 10 (Sha.hmac Sha.Sha1.sha1 (slice 16 20 key) covered)

/-- A decoded message of version 0, with the code of all bytes before it behind
    them. -/
def Authentic (key messageBytes : Bytes) : Prop :=
  ∃ covered, messageBytes = covered ++ macOf key covered ∧ messageBytes[0]? = some 0

/-- A plaintext is that of an authentic message, and whatever is thrown is what
    `getPlaintext` declares. -/
def Conforms (m : EncryptedSignalMessage) (key : Bytes) : Prop :=
  (∀ plaintext, m.getPlaintext gunzip cbcDecrypt = .ok plaintext →
    ∃ messageBytes, Base64.decode gunzip m.message.getAsciiBytes = .ok messageBytes ∧
      Authentic key messageBytes) ∧
    ∀ e, m.getPlaintext gunzip cbcDecrypt = .error e → e.Declared

/-- The text cannot be decoded, or nothing is in it, or there is no room for
    the code, or the code verifies and there is none for a vector and the code
    behind it. -/
def Crashes (m : EncryptedSignalMessage) (key : Bytes) : Prop :=
  Base64.Undecodable m.message.getAsciiBytes ∨
    ∃ messageBytes, Base64.decode gunzip m.message.getAsciiBytes = .ok messageBytes ∧
      (messageBytes = [] ∨ messageBytes[0]? = some 0 ∧ messageBytes.length < 10 ∨
        Authentic key messageBytes ∧ 16 ≤ messageBytes.length ∧ messageBytes.length ≤ 26)

/-! ## The methods -/

theorem ofJava_bind {α β : Type} (a : α) (f : α → Except SignalFailure β) :
    (ofJava (.ok a) >>= f) = f a := rfl

theorem length_macOf (key covered : Bytes) : (macOf key covered).length = 10 := by
  have hlength : (Sha.hmac Sha.Sha1.sha1 (slice 16 20 key) covered).length = 20 :=
    Sha.Sha1.length_sha1 _
  exact length_slice 10 10 _ (by omega)

/-- There is one way to take the code off a message. -/
theorem authentic_iff (key messageBytes : Bytes) (hlong : 10 ≤ messageBytes.length) :
    Authentic key messageBytes ↔ messageBytes[0]? = some 0 ∧
      macOf key (messageBytes.take (messageBytes.length - 10))
        = slice (messageBytes.length - 10) 10 messageBytes := by
  have hmac := length_macOf key
  have hdrop : (messageBytes.drop (messageBytes.length - 10)).length = 10 := by
    rw [List.length_drop]
    omega
  unfold slice
  rw [List.take_of_length_le (Nat.le_of_eq hdrop)]
  -- The code has ten bytes, so the message can be cut in one place only.
  constructor
  · rintro ⟨covered, hsplit, hversion⟩
    have hlength := congrArg List.length hsplit
    rw [List.length_append, hmac] at hlength
    have hcovered : messageBytes.length - 10 = covered.length := by omega
    have htake := (congrArg (List.take covered.length) hsplit).trans List.take_left
    have hrest := (congrArg (List.drop covered.length) hsplit).trans List.drop_left
    exact ⟨hversion, by rw [hcovered, htake, hrest]⟩
  · rintro ⟨hversion, hcode⟩
    exact ⟨_, by rw [hcode, List.take_append_drop], hversion⟩

section Stored

variable {gunzip : Bytes → Option Bytes} {m : EncryptedSignalMessage} {key : Bytes}
  (hstores : m.Stores gunzip key)

include hstores

theorem getCombinedKey_eq : m.getCombinedKey gunzip = .ok key := by
  rcases hstores with ⟨text, htext, hdecode, hlength⟩
  rw [getCombinedKey, htext]
  simp only [hdecode]
  rw [ofJava_bind, if_neg (not_not.mpr hlength)]

theorem length_key : key.length = 40 := by
  rcases hstores with ⟨_, _, _, hlength⟩
  exact hlength

theorem getCipherKey_eq : m.getCipherKey gunzip = .ok (slice 0 16 key) := by
  have hlength := length_key hstores
  rw [getCipherKey, getCombinedKey_eq hstores]
  exact congrArg ofJava (Java.region_of_le _ key 0 16 (by omega))

theorem getMacKey_eq : m.getMacKey gunzip = .ok (slice 16 20 key) := by
  have hlength := length_key hstores
  rw [getMacKey, getCombinedKey_eq hstores]
  exact congrArg ofJava (Java.region_of_le _ key 16 20 (by omega))

/-- The code is compared if there is room for it. -/
theorem verifyMac_eq (messageBytes : Bytes) : m.verifyMac gunzip messageBytes
    = if messageBytes.length < 10 then .error (.java (.unchecked .illegalArgument))
      else .ok (decide (macOf key (messageBytes.take (messageBytes.length - 10))
        = slice (messageBytes.length - 10) 10 messageBytes)) := by
  rw [verifyMac, getMacKey_eq hstores]
  change (ofJava (update messageBytes (messageBytes.length - (10 : Nat))) >>= _) = _
  unfold update
  -- Without room for the code the length to be covered is negative.
  by_cases hshort : messageBytes.length < 10
  · rw [if_pos (Or.inl (by omega)), if_pos hshort]
    rfl
  · have hcovered : ((messageBytes.length : Int) - (10 : Nat)).toNat
        = messageBytes.length - 10 := by
      omega
    -- The digest has twenty bytes, and its second half is what is compared.
    have hdigest : ∀ covered,
        Java.arraycopy (Sha.hmac Sha.Sha1.sha1 (slice 16 20 key) covered) 10 10
          = .ok (macOf key covered) := by
      intro covered
      have hlength : (Sha.hmac Sha.Sha1.sha1 (slice 16 20 key) covered).length = 20 :=
        Sha.Sha1.length_sha1 _
      exact Java.region_of_le _ _ 10 10 (by omega)
    have htheirs : Java.arraycopy messageBytes (messageBytes.length - MAC_LENGTH) 10
        = .ok (slice (messageBytes.length - 10) 10 messageBytes) :=
      Java.region_of_le _ messageBytes (messageBytes.length - 10) 10 (by omega)
    rw [if_neg (by omega), if_neg hshort, ofJava_bind, hcovered]
    simp only [hdigest, htheirs, ofJava_bind]

/-- The vector has sixteen bytes behind the version. -/
theorem getCipher_eq (messageBytes : Bytes) : m.getCipher gunzip messageBytes
    = if messageBytes.length < 16 then .error (.invalid "Message shorter than IV length.")
      else if messageBytes.length = 16 then .error (.java (.unchecked .arrayIndexOutOfBounds))
      else .ok (slice 0 16 key, slice 1 16 messageBytes) := by
  rw [getCipher, getCipherKey_eq hstores]
  change (if messageBytes.length < 16 then _
    else ofJava (Java.arraycopy messageBytes 1 16) >>= _) = _
  by_cases hshort : messageBytes.length < 16
  · rw [if_pos hshort, if_pos hshort]
  · rw [if_neg hshort, if_neg hshort]
    unfold Java.arraycopy Java.region
    -- Sixteen bytes pass the test, but the vector starts at the second.
    by_cases hsixteen : messageBytes.length = 16
    · rw [if_pos hsixteen, if_neg (by omega)]
      rfl
    · rw [if_neg hsixteen, if_pos (by omega)]
      rfl

end Stored

/-- The ciphertext is what is between the vector and the code. -/
theorem doFinal_eq (cipher : Bytes × Bytes) (messageBytes : Bytes) :
    doFinal cbcDecrypt cipher messageBytes
        (messageBytes.length - CIPHERTEXT_OFFSET - MAC_LENGTH)
      = if messageBytes.length < 27 then .error (.java (.unchecked .illegalArgument))
        else (cbcDecrypt cipher.1 cipher.2
          (slice 17 (messageBytes.length - 27) messageBytes)).mapError .cipher := by
  change doFinal cbcDecrypt cipher messageBytes (messageBytes.length - (17 : Nat) - (10 : Nat)) = _
  unfold doFinal
  have hoffset : CIPHERTEXT_OFFSET = 17 := rfl
  rw [hoffset]
  -- The ciphertext would have a negative length.
  by_cases hshort : messageBytes.length < 27
  · rw [if_pos (Or.inl (by omega)), if_pos hshort]
    rfl
  · have hlength : ((messageBytes.length : Int) - (17 : Nat) - (10 : Nat)).toNat
        = messageBytes.length - 27 := by
      omega
    rw [if_neg (by omega), if_neg hshort, hlength]
    cases cbcDecrypt cipher.1 cipher.2 (slice 17 (messageBytes.length - 27) messageBytes) with
    | ok plaintext => rfl
    | error e => rfl

/-- What comes behind the code: there must be room for the vector, and for the
    code behind that. -/
theorem decipher_eq {gunzip : Bytes → Option Bytes} {m : EncryptedSignalMessage} {key : Bytes}
    (hstores : m.Stores gunzip key) (messageBytes : Bytes) :
    (m.getCipher gunzip messageBytes >>= fun cipher => doFinal cbcDecrypt cipher messageBytes
        (messageBytes.length - CIPHERTEXT_OFFSET - MAC_LENGTH))
      = if messageBytes.length < 16 then .error (.invalid "Message shorter than IV length.")
        else if messageBytes.length = 16 then .error (.java (.unchecked .arrayIndexOutOfBounds))
        else if messageBytes.length < 27 then .error (.java (.unchecked .illegalArgument))
        else (cbcDecrypt (slice 0 16 key) (slice 1 16 messageBytes)
          (slice 17 (messageBytes.length - 27) messageBytes)).mapError .cipher := by
  rw [getCipher_eq hstores]
  -- The length is tested before the vector is copied, and one byte too low.
  by_cases hshort : messageBytes.length < 16
  · rw [if_pos hshort, if_pos hshort]
    rfl
  · rw [if_neg hshort, if_neg hshort]
    by_cases hsixteen : messageBytes.length = 16
    · rw [if_pos hsixteen, if_pos hsixteen]
      rfl
    · rw [if_neg hsixteen, if_neg hsixteen]
      exact doFinal_eq cbcDecrypt (slice 0 16 key, slice 1 16 messageBytes) messageBytes

/-! ## The plaintext -/

/-- What a decoded message comes to, by its version, its code and its length. -/
theorem getPlaintext_decoded {gunzip : Bytes → Option Bytes} {m : EncryptedSignalMessage}
    {key messageBytes : Bytes} (hstores : m.Stores gunzip key)
    (hdecode : Base64.decode gunzip m.message.getAsciiBytes = .ok messageBytes) :
    (messageBytes = [] ∧ m.getPlaintext gunzip cbcDecrypt
        = .error (.java (.unchecked .arrayIndexOutOfBounds))) ∨
      (∃ version, messageBytes[0]? = some version ∧ version ≠ 0 ∧ m.getPlaintext gunzip cbcDecrypt
        = .error (.invalid ("Unknown version: " ++ printed version))) ∨
      (messageBytes[0]? = some 0 ∧ m.getPlaintext gunzip cbcDecrypt
        = if messageBytes.length < 10 then .error (.java (.unchecked .illegalArgument))
          else if macOf key (messageBytes.take (messageBytes.length - 10))
              ≠ slice (messageBytes.length - 10) 10 messageBytes then .error (.invalid "Bad MAC")
          else if messageBytes.length < 16 then
            .error (.invalid "Message shorter than IV length.")
          else if messageBytes.length = 16 then .error (.java (.unchecked .arrayIndexOutOfBounds))
          else if messageBytes.length < 27 then .error (.java (.unchecked .illegalArgument))
          else (cbcDecrypt (slice 0 16 key) (slice 1 16 messageBytes)
            (slice 17 (messageBytes.length - 27) messageBytes)).mapError
              fun e => .invalidBecause (.cipher e)) := by
  have hbody : m.getPlaintextBody gunzip cbcDecrypt
      = (ofJava (isValidVersion messageBytes) >>= fun validVersion =>
        if ¬ validVersion then do
          let version ← ofJava (Java.byteAt messageBytes VERSION_OFFSET)
          .error (.invalid ("Unknown version: " ++ printed version))
        else do
          let verified ← m.verifyMac gunzip messageBytes
          if ¬ verified then .error (.invalid "Bad MAC")
          else
            let cipher ← m.getCipher gunzip messageBytes
            doFinal cbcDecrypt cipher messageBytes
              (messageBytes.length - CIPHERTEXT_OFFSET - MAC_LENGTH)) := by
    rw [getPlaintextBody, hdecode]
    rfl
  -- The version is the first byte, which an empty message does not have.
  cases hversion : messageBytes[0]? with
  | none =>
      refine Or.inl ⟨?_, ?_⟩
      · rw [List.getElem?_eq_none_iff] at hversion
        exact List.length_eq_zero_iff.mp (Nat.le_zero.mp hversion)
      · rw [getPlaintext, hbody, isValidVersion, Java.byteAt, VERSION_OFFSET, hversion]
        rfl
  | some version =>
      have hbyte : Java.byteAt messageBytes VERSION_OFFSET = .ok version :=
        (Java.byteAt_ok _ _ _).mpr hversion
      have hvalid : isValidVersion messageBytes = .ok (decide (version = 0)) := by
        rw [isValidVersion, hbyte]
        rfl
      right
      rw [getPlaintext, hbody, hvalid, ofJava_bind, hbyte]
      by_cases hzero : version = 0
      · right
        refine ⟨congrArg some hzero, ?_⟩
        rw [decide_eq_true hzero, if_neg (not_not.mpr rfl), verifyMac_eq hstores]
        by_cases hroom : messageBytes.length < 10
        · rw [if_pos hroom, if_pos hroom]
          rfl
        · rw [if_neg hroom, if_neg hroom]
          by_cases hcode : macOf key (messageBytes.take (messageBytes.length - 10))
              = slice (messageBytes.length - 10) 10 messageBytes
          · rw [if_neg (not_not.mpr hcode), decide_eq_true hcode]
            change (m.getCipher gunzip messageBytes >>= fun cipher => doFinal cbcDecrypt cipher
              messageBytes (messageBytes.length - CIPHERTEXT_OFFSET - MAC_LENGTH)).mapError caught
                = _
            rw [decipher_eq cbcDecrypt hstores]
            -- What is thrown without being declared is not caught.
            split_ifs
            · rfl
            · rfl
            · rfl
            · cases cbcDecrypt (slice 0 16 key) (slice 1 16 messageBytes)
                (slice 17 (messageBytes.length - 27) messageBytes) with
              | ok plaintext => rfl
              | error e => rfl
          · rw [if_pos hcode, decide_eq_false hcode]
            rfl
      · left
        refine ⟨version, rfl, hzero, ?_⟩
        rw [decide_eq_false hzero, if_pos Bool.false_ne_true]
        rfl

/-- Text that cannot be decoded: an `IOException` is caught, and nothing else. -/
theorem getPlaintext_undecoded {gunzip : Bytes → Option Bytes} {m : EncryptedSignalMessage}
    {e : JavaException} (hdecode : Base64.decode gunzip m.message.getAsciiBytes = .error e) :
    m.getPlaintext gunzip cbcDecrypt = .error (caught (.java e)) := by
  rw [getPlaintext, getPlaintextBody, hdecode]
  rfl

/-- A decoded message conforms unless one of the lengths goes wrong. -/
theorem conforms_decoded {gunzip : Bytes → Option Bytes} {m : EncryptedSignalMessage}
    {key messageBytes : Bytes} (hstores : m.Stores gunzip key)
    (hdecode : Base64.decode gunzip m.message.getAsciiBytes = .ok messageBytes) :
    m.Conforms gunzip cbcDecrypt key ↔
      ¬ (messageBytes = [] ∨ messageBytes[0]? = some 0 ∧ messageBytes.length < 10 ∨
        Authentic key messageBytes ∧ 16 ≤ messageBytes.length ∧ messageBytes.length ≤ 26) := by
  have hthrows : ∀ e, m.getPlaintext gunzip cbcDecrypt = .error e →
      (m.Conforms gunzip cbcDecrypt key ↔ e.Declared) := by
    intro e he
    unfold Conforms
    rw [he]
    simp only [reduceCtorEq, false_implies, implies_true, true_and, Except.error.injEq,
      forall_eq']
  have hversion : ∀ version, messageBytes[0]? = some version → messageBytes ≠ [] := by
    rintro version hversion rfl
    exact nomatch hversion
  rcases getPlaintext_decoded cbcDecrypt hstores hdecode with
    ⟨hempty, hrun⟩ | ⟨version, hother, hne, hrun⟩ | ⟨hzero, hrun⟩
  · rw [hthrows _ hrun]
    exact iff_of_false id (not_not.mpr (Or.inl hempty))
  · rw [hthrows _ hrun]
    refine iff_of_true trivial ?_
    have hnot : messageBytes[0]? ≠ some 0 := by
      rw [hother]
      exact fun h => hne (Option.some.inj h)
    rintro (hempty | ⟨hzero, _⟩ | ⟨⟨_, _, hzero⟩, _⟩)
    · exact hversion version hother hempty
    · exact hnot hzero
    · exact hnot hzero
  · have hfull := hversion 0 hzero
    by_cases hroom : messageBytes.length < 10
    · rw [if_pos hroom] at hrun
      rw [hthrows _ hrun]
      exact iff_of_false id (not_not.mpr (Or.inr (Or.inl ⟨hzero, hroom⟩)))
    · rw [if_neg hroom] at hrun
      have hauthentic := authentic_iff key messageBytes (Nat.le_of_not_lt hroom)
      by_cases hcode : macOf key (messageBytes.take (messageBytes.length - 10))
          = slice (messageBytes.length - 10) 10 messageBytes
      · have hproved : Authentic key messageBytes := hauthentic.mpr ⟨hzero, hcode⟩
        rw [if_neg (not_not.mpr hcode)] at hrun
        -- The code verifies, and the length decides.
        simp only [hfull, hroom, and_false, false_or, hproved, true_and]
        split_ifs at hrun with hshort hsixteen hnegative
        · rw [hthrows _ hrun]
          exact iff_of_true trivial (by omega)
        · rw [hthrows _ hrun]
          exact iff_of_false id (by omega)
        · rw [hthrows _ hrun]
          exact iff_of_false id (by omega)
        · refine iff_of_true ?_ (by omega)
          cases hcbc : cbcDecrypt (slice 0 16 key) (slice 1 16 messageBytes)
              (slice 17 (messageBytes.length - 27) messageBytes) with
          | ok plaintext =>
              rw [hcbc] at hrun
              refine ⟨fun _ _ => ⟨messageBytes, hdecode, hproved⟩, fun e he => ?_⟩
              exact nomatch hrun.symm.trans he
          | error e =>
              rw [hcbc] at hrun
              exact (hthrows _ hrun).mpr trivial
      · have hforged : ¬ Authentic key messageBytes := fun h => hcode (hauthentic.mp h).2
        rw [if_pos hcode] at hrun
        rw [hthrows _ hrun]
        refine iff_of_true trivial ?_
        simp only [hfull, hroom, hforged, and_false, false_and, or_self, not_false_eq_true]

/-- For every string and every stored key: a plaintext is that of an authentic
    message, and all else is an `InvalidEncryptedSignalException`, exactly if
    the message is none of those that crash the receiver. -/
theorem conforms_iff (m : EncryptedSignalMessage) (key : Bytes) (hstores : m.Stores gunzip key) :
    m.Conforms gunzip cbcDecrypt key ↔ ¬ m.Crashes gunzip key := by
  unfold Crashes
  rcases Base64.decode_ends gunzip m.message.getAsciiBytes with
    ⟨hdecodable, messageBytes, hdecode⟩ | ⟨hdecodable, message, hdecode⟩ |
    ⟨hundecodable, u, hdecode⟩
  · rw [conforms_decoded cbcDecrypt hstores hdecode]
    simp only [hdecodable, false_or, hdecode, Except.ok.injEq, exists_eq_left']
  · simp only [hdecodable, false_or, hdecode, reduceCtorEq, false_and, exists_false,
      not_false_eq_true, iff_true]
    have hrun := getPlaintext_undecoded cbcDecrypt hdecode
    refine ⟨fun plaintext hok => ?_, fun e he => ?_⟩
    · exact nomatch hrun.symm.trans hok
    · rw [← Except.error.inj (hrun.symm.trans he)]
      trivial
  · refine iff_of_false (fun hconforms => ?_) (not_not.mpr (Or.inl hundecodable))
    -- It is no exception that is caught.
    exact hconforms.2 _ (getPlaintext_undecoded cbcDecrypt hdecode)

end Message

/-- A message to a phone whose key has forty zero bytes. -/
def toZeroKey (message : JavaString) (h : message.length < 715827883) :
    EncryptedSignalMessage where
  message := message
  keyPreference := some (List.replicate 54 0x41 ++ [0x3d, 0x3d])
  length_message := h
  length_keyPreference := by
    intro key hkey
    rw [← Option.some.inj hkey]
    decide

theorem stores_toZeroKey (message : JavaString) (h : message.length < 715827883) :
    (toZeroKey message h).Stores (fun _ => none) (List.replicate 40 0) :=
  ⟨_, rfl, by decide +kernel, rfl⟩

/-- A message of thirty zero bytes, whose code does not verify. -/
theorem conforms_iff_forged :
    (toZeroKey (List.replicate 40 0x41) (by decide)).Conforms (fun _ => none)
        (fun _ _ _ => .error .badPadding) (List.replicate 40 0) ↔
      ¬ (toZeroKey (List.replicate 40 0x41) (by decide)).Crashes (fun _ => none)
        (List.replicate 40 0) :=
  conforms_iff (fun _ => none) (fun _ _ _ => .error .badPadding)
    (toZeroKey (List.replicate 40 0x41) (by decide)) (List.replicate 40 0) (stores_toZeroKey _ _)

/-- Four letters, which are three zero bytes, and no letter at all. -/
theorem conforms_fails :
    (toZeroKey [0x41, 0x41, 0x41, 0x41] (by decide)).getPlaintext (fun _ => none)
        (fun _ _ _ => .error .badPadding) = .error (.java (.unchecked .illegalArgument)) ∧
      (toZeroKey [] (by decide)).getPlaintext (fun _ => none)
        (fun _ _ _ => .error .badPadding) = .error (.java (.unchecked .arrayIndexOutOfBounds)) ∧
      ¬ (toZeroKey [0x41, 0x41, 0x41, 0x41] (by decide)).Conforms (fun _ => none)
        (fun _ _ _ => .error .badPadding) (List.replicate 40 0) := by
  have hletters : Base64.decode (fun _ => none)
      (toZeroKey [0x41, 0x41, 0x41, 0x41] (by decide)).message.getAsciiBytes = .ok [0, 0, 0] := by
    decide +kernel
  have hstores := stores_toZeroKey [0x41, 0x41, 0x41, 0x41] (by decide)
  refine ⟨?_, ?_, fun hconforms => ?_⟩
  · rcases getPlaintext_decoded (fun _ _ _ => .error .badPadding) hstores hletters with
      ⟨hempty, _⟩ | ⟨version, hversion, hne, _⟩ | ⟨_, hrun⟩
    · exact nomatch hempty
    · exact absurd (Option.some.inj hversion).symm hne
    · exact hrun
  · rcases getPlaintext_decoded (fun _ _ _ => .error .badPadding)
        (stores_toZeroKey [] (by decide)) rfl with
      ⟨_, hrun⟩ | ⟨version, hversion, _⟩ | ⟨hversion, _⟩
    · exact hrun
    · exact nomatch hversion
    · exact nomatch hversion
  · exact (conforms_decoded _ hstores hletters).mp hconforms (Or.inr (Or.inl ⟨rfl, by decide⟩))

end EncryptedSignalMessage

end RedPhone
