import RedPhone.Zrtp.Undisturbed

/-!
# The Retained Secret of a Handshake

Both parties look for a retained secret in common by the ids in each other's
DHPart. `Retained.Calculator` has the comparisons; here they are made on the
packets, as a party made them and its peer received them.

The two sides walk the four comparisons in the same order and each returns a
secret of its own, so what has to be kept apart is what an id can be mistaken
for. Ids of different secrets differ, and an id made up for a secret that is
not there differs from all of those. Nothing is asked of bytes that are not
sent: a party that has a secret never draws the filler for it, which is what
`sentFillers` makes of the four random fields.

## Main definitions

* `receivedS1`, `receivedContinuity`: What a party makes of a DHPart.
* `Distinct`: The ids sent, and those compared with them, do not collide.
* `sentFillers`: The made-up ids that are sent.

## Theorems

* `Distinct.noCollision`: No filler that is sent meets the id of a secret.
* `s1_agrees`: Both parties find the secret in common.
* `s1_agrees_crosswise`: Two parties whose caches are out of step.
-/

namespace RedPhone

open HandshakePacket RetainedSecretsCalculator

variable (C : Crypto)

/-- `getS1` of the ids in a DHPart. -/
def receivedS1 (role : Role) (secrets : RetainedSecrets) (foreignDH : DHPacket) :
    Java (Option Bytes) := do
  let rs1ID ← foreignDH.getDerivativeSecretOne
  let rs2ID ← foreignDH.getDerivativeSecretTwo
  getS1 C role secrets (some rs1ID) (some rs2ID)

/-- `hasContinuity` of the ids in a DHPart. -/
def receivedContinuity (role : Role) (secrets : RetainedSecrets) (foreignDH : DHPacket) :
    Java Bool := do
  let rs1ID ← foreignDH.getDerivativeSecretOne
  let rs2ID ← foreignDH.getDerivativeSecretTwo
  hasContinuity C role secrets (some rs1ID) (some rs2ID)

/-- The ids of the secrets involved are as distinct as the secrets, and no id
    that is made up for an absent one is one of them. -/
structure Distinct (a b : RetainedSecrets) (randomI randomR : DHPacket.RandomBytes) : Prop where
  derivative_inj : ∀ role x y, Involved a b x → Involved a b y →
    derivative C role x = derivative C role y → x = y
  initiatorOne : a.rs1 = none → ∀ x, Involved a b x → derivative C .initiator x ≠ randomI.rs1
  initiatorTwo : a.rs2 = none → ∀ x, Involved a b x → derivative C .initiator x ≠ randomI.rs2
  responderOne : b.rs1 = none → ∀ x, Involved a b x → derivative C .responder x ≠ randomR.rs1
  responderTwo : b.rs2 = none → ∀ x, Involved a b x → derivative C .responder x ≠ randomR.rs2

/-- The filler for a secret, if it is sent. -/
def sentFiller (secret : Option Bytes) (filler : Bytes) : Bytes :=
  if secret = none then filler else []

/-- The fillers of two parties that are sent. -/
def sentFillers (a b : RetainedSecrets) (randomI randomR : DHPacket.RandomBytes) : Fillers :=
  ⟨sentFiller a.rs1 randomI.rs1, sentFiller a.rs2 randomI.rs2, sentFiller b.rs1 randomR.rs1,
    sentFiller b.rs2 randomR.rs2⟩

variable {C}

/-- What is sent for a secret has no other filler in it. -/
theorem transmitted_sentFiller (role : Role) (secret : Option Bytes) (filler : Bytes) :
    transmitted C role (sentFiller secret filler) secret
      = (secret.map (derivative C role)).getD filler := by
  cases secret with
  | none => rfl
  | some x => rfl

/-- An id is not a filler that is not sent. -/
theorem derivative_ne_sentFiller (role : Role) (x : Bytes) (secret : Option Bytes) (filler : Bytes)
    (h : secret = none → derivative C role x ≠ filler) :
    derivative C role x ≠ sentFiller secret filler := by
  cases secret with
  | none => exact h rfl
  | some y =>
      intro heq
      have hlen := congrArg List.length heq
      have hnil : (sentFiller (some y) filler).length = 0 := rfl
      rw [derivative, List.length_take, C.hmacSha256_length, hnil] at hlen
      omega

/-- No filler that is sent meets the id of a secret. -/
theorem Distinct.noCollision {a b : RetainedSecrets} {randomI randomR : DHPacket.RandomBytes}
    (h : Distinct C a b randomI randomR) :
    NoCollision C a b (sentFillers a b randomI randomR) where
  derivative_inj := h.derivative_inj
  initiator_filler x hx :=
    ⟨derivative_ne_sentFiller _ x _ _ (fun hnone => h.initiatorOne hnone x hx),
      derivative_ne_sentFiller _ x _ _ (fun hnone => h.initiatorTwo hnone x hx)⟩
  responder_filler x hx :=
    ⟨derivative_ne_sentFiller _ x _ _ (fun hnone => h.responderOne hnone x hx),
      derivative_ne_sentFiller _ x _ _ (fun hnone => h.responderTwo hnone x hx)⟩

/-- Continuity is that a secret was found. -/
theorem receivedContinuity_of_s1 (role : Role) (secrets : RetainedSecrets) (foreignDH : DHPacket)
    (s1 : Option Bytes) (h : receivedS1 C role secrets foreignDH = .ok s1) :
    receivedContinuity C role secrets foreignDH = .ok s1.isSome := by
  rcases (Java.bind_ok _ _ _).mp h with ⟨rs1ID, hrs1, h⟩
  rcases (Java.bind_ok _ _ _).mp h with ⟨rs2ID, hrs2, hs1⟩
  unfold receivedContinuity hasContinuity
  rw [hrs1, Java.ok_bind, hrs2, Java.ok_bind, hs1]
  rfl

/-- The ids a party receives are those its peer made. -/
theorem receivedS1_made {type : Bytes} {t : AgreementType} {chain : HashChain} {pvr : Bytes}
    {ids : RetainedSecretsDerivatives} {random : DHPacket.RandomBytes} {legacy : Bool}
    (role : Role) (secrets : RetainedSecrets) (made received : DHPacket)
    (hmade : DHPacket.Made C type t chain pvr ids random legacy made)
    (hsame : SameMessage made.packet received.packet) :
    receivedS1 C role secrets received
      = getS1 C role secrets (some (ids.rs1ID.getD random.rs1))
          (some (ids.rs2ID.getD random.rs2)) := by
  unfold receivedS1
  rw [DHPacket.getDerivativeSecretOne_made made received hmade hsame, Java.ok_bind,
    DHPacket.getDerivativeSecretTwo_made made received hmade hsame, Java.ok_bind]

/-- Both parties find the secret in common, each in the other's DHPart as it
    received it: the initiator's first if the responder has it, else its second
    if the responder has it, else none. They have continuity if there is one. -/
theorem s1_agrees (C : Crypto) (cfgI cfgR : Config) (a b : RetainedSecrets)
    (idsI idsR : RetainedSecretsDerivatives)
    (hidsI : calculateDerivatives C .initiator a = .ok idsI)
    (hidsR : calculateDerivatives C .responder b = .ok idsR)
    (hdistinct : Distinct C a b cfgI.random cfgR.random)
    (tI tR : AgreementType) (legacyI legacyR : Bool) (receivedOne receivedTwo : DHPacket)
    (hone : SameMessage (DHPacket.create C DHPacket.TYPE_ONE tR (cfgR.hashChain C)
      (cfgR.keys.getPublicKey C tR) idsR cfgR.random legacyR).packet receivedOne.packet)
    (htwo : SameMessage (DHPacket.create C DHPacket.TYPE_TWO tI (cfgI.hashChain C)
      (cfgI.keys.getPublicKey C tI) idsI cfgI.random legacyI).packet receivedTwo.packet) :
    receivedS1 C .initiator a receivedOne = .ok (commonSecret a b) ∧
    receivedS1 C .responder b receivedTwo = .ok (commonSecret a b) ∧
    receivedContinuity C .initiator a receivedOne = .ok (commonSecret a b).isSome ∧
    receivedContinuity C .responder b receivedTwo = .ok (commonSecret a b).isSome := by
  have hmadeI := cfgI.dh_made C .initiator _ DHPacket.length_TYPE_TWO tI a idsI hidsI legacyI
  have hmadeR := cfgR.dh_made C .responder _ DHPacket.length_TYPE_ONE tR b idsR hidsR legacyR
  rcases (calculateDerivatives_ok C _ _ _).mp hidsI with ⟨hkeya, hidsI'⟩
  rcases (calculateDerivatives_ok C _ _ _).mp hidsR with ⟨hkeyb, hidsR'⟩
  -- Each reads the ids of the other as they were sent.
  have hinitiator : receivedS1 C .initiator a receivedOne = .ok (commonSecret a b) := by
    have hs1 := (initiatorGetS1_ok C a b _ hdistinct.noCollision _).mpr ⟨hkeya, rfl⟩
    simp only [sentFillers, transmitted_sentFiller] at hs1
    rw [receivedS1_made .initiator a _ receivedOne hmadeR hone, hidsR']
    exact hs1
  have hresponder : receivedS1 C .responder b receivedTwo = .ok (commonSecret a b) := by
    have hs1 := (responderGetS1_ok C a b _ hdistinct.noCollision _).mpr ⟨hkeyb, rfl⟩
    simp only [sentFillers, transmitted_sentFiller] at hs1
    rw [receivedS1_made .responder b _ receivedTwo hmadeI htwo, hidsI']
    exact hs1
  exact ⟨hinitiator, hresponder, receivedContinuity_of_s1 _ _ _ _ hinitiator,
    receivedContinuity_of_s1 _ _ _ _ hresponder⟩

/-! ## Caches out of step -/

/-- The secrets of two earlier calls, the way one party has them. -/
def inOrder : RetainedSecrets := ⟨some (List.replicate 32 1), some (List.replicate 32 2)⟩

/-- The same secrets, the other way round. -/
def outOfOrder : RetainedSecrets := ⟨some (List.replicate 32 2), some (List.replicate 32 1)⟩

/-- The ids of a party that has both. -/
def idsOf (role : Role) (secrets : RetainedSecrets) : RetainedSecretsDerivatives :=
  ⟨secrets.rs1.map (derivative jce role), secrets.rs2.map (derivative jce role)⟩

/-- Either of the two secrets could be settled on, and both parties settle on
    the initiator's first. -/
theorem s1_agrees_crosswise :
    receivedS1 jce .initiator inOrder (DHPacket.create jce DHPacket.TYPE_ONE .ec25
        (Undisturbed.callee.hashChain jce) (Undisturbed.callee.keys.getPublicKey jce .ec25)
        (idsOf .responder outOfOrder) Undisturbed.callee.random false)
      = .ok (some (List.replicate 32 1)) ∧
    receivedS1 jce .responder outOfOrder (DHPacket.create jce DHPacket.TYPE_TWO .ec25
        (Undisturbed.caller.hashChain jce) (Undisturbed.caller.keys.getPublicKey jce .ec25)
        (idsOf .initiator inOrder) Undisturbed.caller.random false)
      = .ok (some (List.replicate 32 1)) := by
  have hids : ∀ role secrets, Keyable secrets →
      calculateDerivatives jce role secrets = .ok (idsOf role secrets) :=
    fun role secrets hkey => (calculateDerivatives_ok jce role secrets _).mpr ⟨hkey, rfl⟩
  have hinvolved : ∀ x, Involved inOrder outOfOrder x →
      x = List.replicate 32 1 ∨ x = List.replicate 32 2 := by
    rintro x (h | h | h | h)
    · exact Or.inl (Option.some.inj h).symm
    · exact Or.inr (Option.some.inj h).symm
    · exact Or.inr (Option.some.inj h).symm
    · exact Or.inl (Option.some.inj h).symm
  -- Two secrets, so two ids are to be told apart for each role.
  have hne : ∀ role, derivative jce role (List.replicate 32 1)
      ≠ derivative jce role (List.replicate 32 2) := by
    intro role
    cases role with
    | initiator => decide +kernel
    | responder => decide +kernel
  have hdistinct : Distinct jce inOrder outOfOrder Undisturbed.caller.random
      Undisturbed.callee.random := by
    refine ⟨?_, nofun, nofun, nofun, nofun⟩
    intro role x y hx hy heq
    rcases hinvolved x hx with rfl | rfl
    · rcases hinvolved y hy with rfl | rfl
      · rfl
      · exact absurd heq (hne role)
    · rcases hinvolved y hy with rfl | rfl
      · exact absurd heq.symm (hne role)
      · rfl
  have hagrees := s1_agrees jce Undisturbed.caller Undisturbed.callee inOrder outOfOrder _ _
    (hids .initiator inOrder ⟨by decide, by decide⟩)
    (hids .responder outOfOrder ⟨by decide, by decide⟩) hdistinct .ec25 .ec25 false false _ _
    (.refl _) (.refl _)
  exact ⟨hagrees.1, hagrees.2.1⟩

end RedPhone
