import RedPhone.Java.Crypto
import RedPhone.Retained.Database

/-!
# Finding a Retained Secret in Common

Each party sends eight bytes for each of its two cached secrets: a keyed
digest of its role under the secret, or random filler where it has none. Each
then compares what it received with what the *other* role's digests of its own
secrets would be, and the first match decides `s1`.

The two sides walk the four comparisons in the same order but return a secret
of their own, so what has to be shown is that the same comparison succeeds on
both sides and that a comparison that succeeds compared a secret with itself.
Both follow from one lemma about a single comparison, `match_iff`, and the
agreement is then a case analysis over the four.

## Main definitions

* `Role`: The label a digest is made under.
* `derivative`: The eight bytes that stand for a secret.
* `RetainedSecretsDerivatives`: The two digests, absent with their secrets.
* `initiatorGetS1`, `responderGetS1`: The comparisons of each side.
* `hasContinuity`: Whether a comparison succeeded.
* `transmitted`: What is sent for a secret that may be absent.
* `commonSecret`: The secret both sides settle on.
* `NoCollision`: No digest of a secret involved meets another by accident.

## Theorems

* `calculateDerivatives_ok`: The digests, when no secret is the empty key.
* `match_iff`: A comparison succeeds on a secret in common only.
* `commonSecret_eq`: The common secret as the four comparisons find it.
* `initiatorGetS1_ok`, `responderGetS1_ok`: Both sides find `commonSecret`.
-/

namespace RedPhone

/-- The two roles of a handshake, by the labels their digests are made under. -/
inductive Role
  | initiator
  | responder
  deriving DecidableEq

namespace Role

def label : Role → Bytes
  | .initiator => ascii "Initiator"
  | .responder => ascii "Responder"

end Role

structure RetainedSecretsDerivatives where
  rs1ID : Option Bytes
  rs2ID : Option Bytes

namespace RetainedSecretsCalculator

/-- The eight bytes that stand for a secret in a role. -/
def derivative (C : Crypto) (role : Role) (secret : Bytes) : Bytes :=
  (C.hmacSha256 secret role.label).take 8

def calculateDerivative (C : Crypto) (role : Role) (secret : Bytes) : Java Bytes := do
  let digest ← C.mac secret role.label
  .ok (digest.take 8)

/-- `if (rs != null) rsID = calculateDerivative(role, rs);`. -/
def calculateOptional (C : Crypto) (role : Role) : Option Bytes → Java (Option Bytes)
  | some secret => do
    let id ← calculateDerivative C role secret
    .ok (some id)
  | none => .ok none

def calculateDerivatives (C : Crypto) (role : Role) (secrets : RetainedSecrets) :
    Java RetainedSecretsDerivatives := do
  let rs1ID ← calculateOptional C role secrets.rs1
  let rs2ID ← calculateOptional C role secrets.rs2
  .ok ⟨rs1ID, rs2ID⟩

/-- `InitiatorRetainedSecretsCalculator.getS1`. -/
def initiatorGetS1 (C : Crypto) (secrets : RetainedSecrets) (rs1IDr rs2IDr : Option Bytes) :
    Java (Option Bytes) := do
  let derivatives ← calculateDerivatives C .responder secrets
  let rs1IDi := derivatives.rs1ID
  let rs2IDi := derivatives.rs2ID
  -- The first own secret is tried with both ids before the second.
  .ok (if rs1IDr ≠ none ∧ rs1IDi = rs1IDr then secrets.rs1
    else if rs2IDr ≠ none ∧ rs1IDi = rs2IDr then secrets.rs1
    else if rs1IDr ≠ none ∧ rs2IDi = rs1IDr then secrets.rs2
    else if rs2IDr ≠ none ∧ rs2IDi = rs2IDr then secrets.rs2
    else none)

/-- `ResponderRetainedSecretsCalculator.getS1`. -/
def responderGetS1 (C : Crypto) (secrets : RetainedSecrets) (rs1IDi rs2IDi : Option Bytes) :
    Java (Option Bytes) := do
  let derivatives ← calculateDerivatives C .initiator secrets
  let rs1IDr := derivatives.rs1ID
  let rs2IDr := derivatives.rs2ID
  -- Here the first id received is tried with both own secrets before the second.
  .ok (if rs1IDr ≠ none ∧ rs1IDi = rs1IDr then secrets.rs1
    else if rs2IDr ≠ none ∧ rs1IDi = rs2IDr then secrets.rs2
    else if rs1IDr ≠ none ∧ rs2IDi = rs1IDr then secrets.rs1
    else if rs2IDr ≠ none ∧ rs2IDi = rs2IDr then secrets.rs2
    else none)

/-- The comparison of the calculator a role holds. -/
def getS1 (C : Crypto) : Role → RetainedSecrets → Option Bytes → Option Bytes →
    Java (Option Bytes)
  | .initiator => initiatorGetS1 C
  | .responder => responderGetS1 C

def hasContinuity (C : Crypto) (role : Role) (secrets : RetainedSecrets)
    (receivedRs1ID receivedRs2ID : Option Bytes) : Java Bool := do
  let s1 ← getS1 C role secrets receivedRs1ID receivedRs2ID
  .ok s1.isSome

/-! ## The comparisons without the exceptions -/

/-- No secret is the empty key. -/
def Keyable (secrets : RetainedSecrets) : Prop :=
  secrets.rs1 ≠ some [] ∧ secrets.rs2 ≠ some []

theorem calculateOptional_ok (C : Crypto) (role : Role) (secret id : Option Bytes) :
    calculateOptional C role secret = .ok id
      ↔ secret ≠ some [] ∧ id = secret.map (derivative C role) := by
  cases secret with
  | none => simp only [calculateOptional, Except.ok.injEq, ne_eq, reduceCtorEq, not_false_eq_true,
      Option.map_none, true_and, eq_comm]
  | some x =>
      simp only [calculateOptional, calculateDerivative, Java.bind_ok, Crypto.mac_ok,
        Except.ok.injEq, ne_eq, Option.some.injEq, Option.map_some, derivative]
      constructor
      · rintro ⟨_, ⟨_, ⟨hx, rfl⟩, rfl⟩, rfl⟩
        exact ⟨hx, rfl⟩
      · rintro ⟨hx, rfl⟩
        exact ⟨_, ⟨_, ⟨hx, rfl⟩, rfl⟩, rfl⟩

theorem calculateDerivatives_ok (C : Crypto) (role : Role) (secrets : RetainedSecrets)
    (d : RetainedSecretsDerivatives) :
    calculateDerivatives C role secrets = .ok d
      ↔ Keyable secrets ∧ d = ⟨secrets.rs1.map (derivative C role),
        secrets.rs2.map (derivative C role)⟩ := by
  simp only [calculateDerivatives, Java.bind_ok, calculateOptional_ok, Except.ok.injEq, Keyable]
  constructor
  · rintro ⟨_, ⟨h1, rfl⟩, _, ⟨h2, rfl⟩, rfl⟩
    exact ⟨⟨h1, h2⟩, rfl⟩
  · rintro ⟨⟨h1, h2⟩, rfl⟩
    exact ⟨_, ⟨h1, rfl⟩, _, ⟨h2, rfl⟩, rfl⟩

/-- What is sent for a secret: its digest, or filler when there is none. -/
def transmitted (C : Crypto) (role : Role) (filler : Bytes) : Option Bytes → Bytes
  | some secret => derivative C role secret
  | none => filler

/-- What is sent for a secret, as the digests have it. -/
theorem transmitted_eq (C : Crypto) (role : Role) (filler : Bytes) (secret : Option Bytes) :
    (secret.map (derivative C role)).getD filler = transmitted C role filler secret := by
  cases secret with
  | none => rfl
  | some x => rfl

/-- The secret both sides settle on: the initiator's first that the responder
    has, else its second that the responder has. -/
def commonSecret (initiator responder : RetainedSecrets) : Option Bytes :=
  if initiator.rs1 ≠ none ∧ (initiator.rs1 = responder.rs1 ∨ initiator.rs1 = responder.rs2) then
    initiator.rs1
  else if initiator.rs2 ≠ none
      ∧ (initiator.rs2 = responder.rs1 ∨ initiator.rs2 = responder.rs2) then
    initiator.rs2
  else none

/-- A secret one of the two parties has. -/
def Involved (a b : RetainedSecrets) (x : Bytes) : Prop :=
  a.rs1 = some x ∨ a.rs2 = some x ∨ b.rs1 = some x ∨ b.rs2 = some x

/-- The four fillers a handshake may send for absent secrets. -/
structure Fillers where
  initiator1 : Bytes
  initiator2 : Bytes
  responder1 : Bytes
  responder2 : Bytes

/-- The digests of the secrets involved are as distinct as the secrets, and
    no filler is one of them. -/
structure NoCollision (C : Crypto) (initiator responder : RetainedSecrets) (f : Fillers) :
    Prop where
  derivative_inj : ∀ role x y, Involved initiator responder x → Involved initiator responder y →
    derivative C role x = derivative C role y → x = y
  initiator_filler : ∀ x, Involved initiator responder x →
    derivative C .initiator x ≠ f.initiator1 ∧ derivative C .initiator x ≠ f.initiator2
  responder_filler : ∀ x, Involved initiator responder x →
    derivative C .responder x ≠ f.responder1 ∧ derivative C .responder x ≠ f.responder2

/-- One comparison: the digest of a secret held is what was sent for another
    exactly when both are there and equal. -/
theorem match_iff (C : Crypto) (role : Role) (filler : Bytes) (held sent : Option Bytes)
    (hinj : ∀ x y, held = some x → sent = some y →
      derivative C role x = derivative C role y → x = y)
    (hfill : ∀ x, held = some x → derivative C role x ≠ filler) :
    held.map (derivative C role) = some (transmitted C role filler sent)
      ↔ held ≠ none ∧ held = sent := by
  cases held with
  | none => simp only [Option.map_none, reduceCtorEq, ne_eq, not_true_eq_false, false_and]
  | some x =>
      cases sent with
      | none =>
          simp only [Option.map_some, transmitted, Option.some.injEq, ne_eq, reduceCtorEq,
            not_false_eq_true, and_false, iff_false]
          exact hfill x rfl
      | some y =>
          simp only [Option.map_some, transmitted, Option.some.injEq, ne_eq, reduceCtorEq,
            not_false_eq_true, true_and]
          exact ⟨fun h => hinj x y rfl rfl h, fun h => by rw [h]⟩

/-- Returning either of two equal secrets is the same. -/
theorem ite_held (held sent rest : Option Bytes) :
    (if held ≠ none ∧ held = sent then held else rest)
      = if sent ≠ none ∧ sent = held then sent else rest := by
  by_cases h : held = sent
  · rw [h]
  · rw [if_neg (fun hp => h hp.2), if_neg (fun hp => h hp.2.symm)]

/-- The initiator's four comparisons, on the secrets themselves. -/
theorem commonSecret_eq (a b : RetainedSecrets) :
    commonSecret a b
      = if a.rs1 ≠ none ∧ a.rs1 = b.rs1 then a.rs1
        else if a.rs1 ≠ none ∧ a.rs1 = b.rs2 then a.rs1
        else if a.rs2 ≠ none ∧ a.rs2 = b.rs1 then a.rs2
        else if a.rs2 ≠ none ∧ a.rs2 = b.rs2 then a.rs2
        else none := by
  simp only [commonSecret, and_or_left, ite_or]

/-- The initiator finds the common secret. -/
theorem initiatorGetS1_ok (C : Crypto) (a b : RetainedSecrets) (f : Fillers)
    (hnc : NoCollision C a b f) (s1 : Option Bytes) :
    initiatorGetS1 C a (some (transmitted C .responder f.responder1 b.rs1))
        (some (transmitted C .responder f.responder2 b.rs2)) = .ok s1
      ↔ Keyable a ∧ s1 = commonSecret a b := by
  -- Each comparison is one of secrets, as no derivative meets a filler.
  have m11 := match_iff C .responder f.responder1 a.rs1 b.rs1
    (fun x y hx hy => hnc.derivative_inj _ x y (Or.inl hx) (Or.inr (Or.inr (Or.inl hy))))
    (fun x hx => (hnc.responder_filler x (Or.inl hx)).1)
  have m12 := match_iff C .responder f.responder2 a.rs1 b.rs2
    (fun x y hx hy => hnc.derivative_inj _ x y (Or.inl hx) (Or.inr (Or.inr (Or.inr hy))))
    (fun x hx => (hnc.responder_filler x (Or.inl hx)).2)
  have m21 := match_iff C .responder f.responder1 a.rs2 b.rs1
    (fun x y hx hy => hnc.derivative_inj _ x y (Or.inr (Or.inl hx)) (Or.inr (Or.inr (Or.inl hy))))
    (fun x hx => (hnc.responder_filler x (Or.inr (Or.inl hx))).1)
  have m22 := match_iff C .responder f.responder2 a.rs2 b.rs2
    (fun x y hx hy => hnc.derivative_inj _ x y (Or.inr (Or.inl hx)) (Or.inr (Or.inr (Or.inr hy))))
    (fun x hx => (hnc.responder_filler x (Or.inr (Or.inl hx))).2)
  simp only [initiatorGetS1, Java.bind_ok, calculateDerivatives_ok, and_assoc, exists_and_left,
    exists_eq_left, Except.ok.injEq, m11, m12, m21, m22, commonSecret_eq, ne_eq, reduceCtorEq,
    not_false_eq_true, true_and]
  exact and_congr_right (fun _ => eq_comm)

/-- The responder finds the common secret. -/
theorem responderGetS1_ok (C : Crypto) (a b : RetainedSecrets) (f : Fillers)
    (hnc : NoCollision C a b f) (s1 : Option Bytes) :
    responderGetS1 C b (some (transmitted C .initiator f.initiator1 a.rs1))
        (some (transmitted C .initiator f.initiator2 a.rs2)) = .ok s1
      ↔ Keyable b ∧ s1 = commonSecret a b := by
  -- Each comparison finds the same secret, as no derivative meets a filler.
  have m11 := match_iff C .initiator f.initiator1 b.rs1 a.rs1
    (fun x y hx hy => hnc.derivative_inj _ x y (Or.inr (Or.inr (Or.inl hx))) (Or.inl hy))
    (fun x hx => (hnc.initiator_filler x (Or.inr (Or.inr (Or.inl hx)))).1)
  have m12 := match_iff C .initiator f.initiator1 b.rs2 a.rs1
    (fun x y hx hy => hnc.derivative_inj _ x y (Or.inr (Or.inr (Or.inr hx))) (Or.inl hy))
    (fun x hx => (hnc.initiator_filler x (Or.inr (Or.inr (Or.inr hx)))).1)
  have m21 := match_iff C .initiator f.initiator2 b.rs1 a.rs2
    (fun x y hx hy => hnc.derivative_inj _ x y (Or.inr (Or.inr (Or.inl hx))) (Or.inr (Or.inl hy)))
    (fun x hx => (hnc.initiator_filler x (Or.inr (Or.inr (Or.inl hx)))).2)
  have m22 := match_iff C .initiator f.initiator2 b.rs2 a.rs2
    (fun x y hx hy => hnc.derivative_inj _ x y (Or.inr (Or.inr (Or.inr hx))) (Or.inr (Or.inl hy)))
    (fun x hx => (hnc.initiator_filler x (Or.inr (Or.inr (Or.inr hx)))).2)
  -- A null derivative is compared with nothing.
  have hsent : ∀ (o sent : Option Bytes) (filler : Bytes),
      (o.map (derivative C .initiator) ≠ none
        ∧ some (transmitted C .initiator filler sent) = o.map (derivative C .initiator))
      ↔ o.map (derivative C .initiator) = some (transmitted C .initiator filler sent) := by
    intro o sent filler
    constructor
    · rintro ⟨_, h⟩
      exact h.symm
    · intro h
      exact ⟨by rw [h]; exact Option.some_ne_none _, h.symm⟩
  simp only [responderGetS1, Java.bind_ok, calculateDerivatives_ok, and_assoc, exists_and_left,
    exists_eq_left, Except.ok.injEq, hsent, m11, m12, m21, m22, commonSecret_eq]
  refine and_congr_right (fun _ => ?_)
  -- What is equal may be returned from either side.
  rw [ite_held b.rs1 a.rs1, ite_held b.rs2 a.rs1, ite_held b.rs1 a.rs2, ite_held b.rs2 a.rs2]
  exact eq_comm

end RetainedSecretsCalculator

end RedPhone
