import RedPhone.Zrtp.DHPacket

/-!
# From the Key Agreement to the Keys

What both parties derive once each has the other's public value: the result of
the agreement, a hash over the four packets it rests on, and from these the
shared secret, the keys of both directions, the SAS and the secret to retain.

Everything here is a function of what goes in. That the two parties put the
same things in is the subject of the modules about the handshake.

## Main definitions

* `KeyPairs`: The private keys of a party, and the public values it sends.
* `calculateKeyAgreement`: The result of either key agreement.
* `calculateTotalHash`, `calculateSharedSecret`: The inputs of the derivation.
* `MasterSecret`: The keys derived.
* `AudioKeys`: The keys the audio of a call manager uses.

## Theorems

* `length_publicKey`: A public value fills its field.
* `length_calculateKDF`: What is derived has the length asked for.
* `calculateTotalHash_ok`: The hash of four messages that are all there.
-/

namespace RedPhone

/-- The private keys of the two key agreements. -/
structure KeyPairs where
  dh3k : Nat
  ec25 : Nat

namespace KeyPairs

/-- `ZRTPSocket.getPublicKey`: the public value of a key agreement, big-endian
    in a field of its own length. -/
def getPublicKey (C : Crypto) (keys : KeyPairs) : AgreementType → Bytes
  | .dh3k => Endian.toBE 384 (C.dhPublic keys.dh3k)
  | .ec25 =>
    Endian.toBE 32 (C.ecPublic keys.ec25).1 ++ Endian.toBE 32 (C.ecPublic keys.ec25).2

theorem length_publicKey (C : Crypto) (keys : KeyPairs) (t : AgreementType) :
    (keys.getPublicKey C t).length = t.pvrLength := by
  cases t with
  | dh3k => exact Endian.length_toBE _ _
  | ec25 =>
      rw [getPublicKey, List.length_append, Endian.length_toBE, Endian.length_toBE]
      rfl

end KeyPairs

namespace SecretCalculator

/-- `calculateKeyAgreement` of `DH3KSecretCalculator` and of
    `EC25SecretCalculator`, which reads the two coordinates out of the value. -/
def calculateKeyAgreement (C : Crypto) (keys : KeyPairs) (t : AgreementType)
    (publicKeyBytes : Bytes) : Java Bytes :=
  match t with
  | .dh3k => (C.dhAgree keys.dh3k (Endian.ofBE publicKeyBytes)).mapError .unchecked
  -- A field that is too short for two coordinates throws in the copies.
  | .ec25 => do
    let x ← Java.arraycopy publicKeyBytes 0 32
    let y ← Java.arraycopy publicKeyBytes 32 32
    (C.ecAgree keys.ec25 (Endian.ofBE x, Endian.ofBE y)).mapError .unchecked

def calculateTotalHash (C : Crypto) (responderHello commit : HandshakePacket)
    (dhPartOne dhPartTwo : DHPacket) : Java Bytes := do
  let hello ← responderHello.getMessageBytes
  let commit ← commit.getMessageBytes
  let one ← dhPartOne.packet.getMessageBytes
  let two ← dhPartTwo.packet.getMessageBytes
  .ok (C.sha256 (hello ++ commit ++ one ++ two))

/-- The digest of counter, agreement, label, ZIDs, total hash and three
    secrets with their lengths, of which this code only ever has the first. -/
def calculateSharedSecret (C : Crypto) (dhResult totalHash : Bytes) (s1 : Option Bytes)
    (zidi zidr : Bytes) : Bytes :=
  let s1Length := Conversions.intToByteArray (s1.elim 0 List.length)
  -- The last two lengths are those of `s2` and `s3`, which are never there.
  C.sha256 (Conversions.intToByteArray 1 ++ dhResult ++ ascii "ZRTP-HMAC-KDF" ++ zidi ++ zidr ++
    totalHash ++ s1Length ++ s1.getD [] ++ Conversions.intToByteArray 0 ++
    Conversions.intToByteArray 0)

theorem calculateTotalHash_ok (C : Crypto) (hello commit : HandshakePacket) (one two : DHPacket)
    (digest : Bytes) :
    calculateTotalHash C hello commit one two = .ok digest ↔ ∃ h c o t,
      hello.getMessageBytes = .ok h ∧ commit.getMessageBytes = .ok c ∧
      one.packet.getMessageBytes = .ok o ∧ two.packet.getMessageBytes = .ok t ∧
      digest = C.sha256 (h ++ c ++ o ++ t) := by
  simp only [calculateTotalHash, Java.bind_ok, Except.ok.injEq, exists_and_left, @eq_comm _ digest]

end SecretCalculator

/-- What a completed key agreement derives. -/
structure MasterSecret where
  srtpKeyI : Bytes
  srtpKeyR : Bytes
  srtpSaltI : Bytes
  srtpSaltR : Bytes
  macI : Bytes
  macR : Bytes
  zrtpKeyI : Bytes
  zrtpKeyR : Bytes
  sas : Bytes
  rs1 : Bytes
  deriving DecidableEq

namespace MasterSecret

/-- The key derivation function. The shared secret is a digest, so it is never
    an empty key. -/
def calculateKDF (C : Crypto) (sharedSecret totalHash zidi zidr : Bytes) (label : String)
    (truncatedLength : Nat) : Bytes :=
  (C.hmacSha256 sharedSecret (Conversions.intToByteArray 1 ++ ascii label ++ [0] ++ zidi ++ zidr ++
    totalHash ++ Conversions.intToByteArray truncatedLength)).take truncatedLength

theorem length_calculateKDF (C : Crypto) (sharedSecret totalHash zidi zidr : Bytes) (label : String)
    {truncatedLength : Nat} (h : truncatedLength ≤ 32) :
    (calculateKDF C sharedSecret totalHash zidi zidr label truncatedLength).length
      = truncatedLength := by
  -- The code has 32 bytes, so that a cut of no more than these is exact.
  unfold calculateKDF
  rw [List.length_take, C.hmacSha256_length]
  omega

def create (C : Crypto) (sharedSecret totalHash zidi zidr : Bytes) : MasterSecret :=
  let kdf := calculateKDF C sharedSecret totalHash zidi zidr
  { srtpKeyI := kdf "Initiator SRTP master key" 16
    srtpKeyR := kdf "Responder SRTP master key" 16
    srtpSaltI := kdf "Initiator SRTP master salt" 14
    srtpSaltR := kdf "Responder SRTP master salt" 14
    macI := kdf "Initiator HMAC key" 20
    macR := kdf "Responder HMAC key" 20
    zrtpKeyI := kdf "Initiator ZRTP key" 16
    zrtpKeyR := kdf "Responder ZRTP key" 16
    sas := kdf "SAS" 4
    rs1 := kdf "retained secret" 32 }

end MasterSecret

/-- The keys a call manager gives its audio. -/
structure AudioKeys where
  senderCipherKey : Bytes
  senderMacKey : Bytes
  senderSalt : Bytes
  receiverCipherKey : Bytes
  receiverMacKey : Bytes
  receiverSalt : Bytes

namespace MasterSecret

/-- `InitiatingCallManager.runAudio`. -/
def initiatingAudioKeys (m : MasterSecret) : AudioKeys :=
  ⟨m.srtpKeyI, m.macI, m.srtpSaltI, m.srtpKeyR, m.macR, m.srtpSaltR⟩

/-- `ResponderCallManager.runAudio`. -/
def responderAudioKeys (m : MasterSecret) : AudioKeys :=
  ⟨m.srtpKeyR, m.macR, m.srtpSaltR, m.srtpKeyI, m.macI, m.srtpSaltI⟩

end MasterSecret

end RedPhone
