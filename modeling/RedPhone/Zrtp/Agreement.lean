import RedPhone.Zrtp.Undisturbed

/-!
# Two Honest Parties Agree

Over a network that may lose, duplicate, reorder and delay what the two
parties send, whenever both hold a master secret they hold the same one, and
the call managers make the same keys of it for the two directions.

## Theorems

* `key_agreement`: The master secrets are the same, and the audio keys cross.
* `key_agreement_undisturbed`: A handshake in which both hold one.
-/

namespace RedPhone

open RetainedSecretsCalculator Undisturbed

/-- Whenever two honest parties both hold a master secret, it is the same one,
    and so are the SAS and the secret to retain; and the keys one call manager
    sends audio with are those the other receives with. -/
theorem key_agreement (C : Crypto) (cfgI cfgR : Config)
    (databaseI databaseR : RetainedSecretsDatabase) (legacy : Bool) (now : Int) (n : Network)
    (hreach : Network.Reaches C cfgI cfgR Honest
      (Network.start C cfgR databaseI databaseR legacy now) n)
    (hcommute : cfgI.keys.Commute C cfgR.keys)
    (hnc : ∀ a b, n.initiator.role.retainedSecrets = some a →
      n.responder.role.retainedSecrets = some b → NoCollision C a b (fillers cfgI cfgR))
    (mI mR : MasterSecret) (hI : n.initiator.masterSecret = some mI)
    (hR : n.responder.masterSecret = some mR) :
    mI = mR ∧ mI.sas = mR.sas ∧ mI.rs1 = mR.rs1 ∧
      mI.initiatingAudioKeys.senderCipherKey = mR.responderAudioKeys.receiverCipherKey ∧
      mI.initiatingAudioKeys.senderMacKey = mR.responderAudioKeys.receiverMacKey ∧
      mI.initiatingAudioKeys.senderSalt = mR.responderAudioKeys.receiverSalt ∧
      mR.responderAudioKeys.senderCipherKey = mI.initiatingAudioKeys.receiverCipherKey ∧
      mR.responderAudioKeys.senderMacKey = mI.initiatingAudioKeys.receiverMacKey ∧
      mR.responderAudioKeys.senderSalt = mI.initiatingAudioKeys.receiverSalt := by
  have hpaired := paired_of_reaches databaseI databaseR legacy now hreach
  have hsame := hpaired.masterSecret_eq hcommute hnc mI mR hI hR
  subst hsame
  exact ⟨rfl, rfl, rfl, rfl, rfl, rfl, rfl, rfl, rfl⟩

/-- Two parties with nothing retained, when both have their keys. -/
theorem key_agreement_undisturbed :
    ∃ n m, Network.Reaches jce caller callee Honest
        (Network.start jce callee .empty .empty false 0) n ∧
      n.initiator.masterSecret = some m ∧ n.responder.masterSecret = some m ∧
      m.initiatingAudioKeys.senderCipherKey = m.responderAudioKeys.receiverCipherKey := by
  rcases reaches_confirmOne (c := ⟨0, 0, 0, 0, 0⟩) (ready 0) false 0 with ⟨n, m, _, _, hreach, h⟩
  refine ⟨n, m, hreach, h.initiatorKey, h.responderKey, ?_⟩
  refine (key_agreement jce caller callee .empty .empty false 0 n hreach commute ?_ m m
    h.initiatorKey h.responderKey).2.2.2.1
  intro a b ha hb
  simp only [h.initiator.role_eq, Option.some.injEq] at ha
  simp only [h.responder.role_eq, Option.some.injEq] at hb
  rw [← ha, ← hb]
  exact (ready 0).noCollision

end RedPhone
