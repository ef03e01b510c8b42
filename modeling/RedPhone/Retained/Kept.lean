import RedPhone.Retained.Conducted

/-!
# Continuity from Call to Call

What the next handshake makes of the caches is read off the packets, not off the
caches: each party looks for the secret in common in the ids of its peer. That
it finds the one both caches have is what carries over from call to call, and
with it the mark that the user has compared the authentication strings.

The caches stay in step as `Resync` has it, one half-completed call at a time.
Nothing is assumed about when the next handshake reads them but that what it
gets has not expired.

## Main definitions

* `HalvesApart`: No two half-completed handshakes without a completed between.

## Theorems

* `current_common`: Caches in step have a secret in common.
* `Conducts.read`: What each party has looked up.
* `Conducts.isVerified_eq`: With continuity the mark stays.
* `continuity_kept`: The next handshake has continuity.
-/

namespace RedPhone

open HandshakePacket RetainedSecretsCalculator RetainedSecretsDatabase

namespace Resync

open Handshake

/-! ## Half-completed handshakes -/

/-- Two handshakes that only the responder completed have one that both did
    between them. -/
def HalvesApart (outcomes : List Outcome) : Prop :=
  ∀ before mid after, outcomes = before ++ .halfCompleted :: mid ++ .halfCompleted :: after →
    .completed ∈ mid

section

variable {C : Crypto} {P : Party → Platform} {who : Party → Endpoint} {hs : List Handshake}
  {calls : List Call}

/-- The outcomes of the calls are those of the handshakes. -/
theorem map_outcome (hcalls : List.Forall₂ (Records P who) hs calls) :
    calls.map Call.outcome = hs.map Handshake.outcome := by
  induction hcalls with
  | nil => rfl
  | cons hc _ ih => rw [List.map_cons, List.map_cons, ih, hc.outcome_eq]

theorem halvesSeparated_of_apart (h : HalvesApart (calls.map Call.outcome)) :
    HalvesSeparated calls := by
  intro before mid after c d hsplit hc hd
  rw [hsplit] at h
  have hmem := h (before.map Call.outcome) (mid.map Call.outcome) (after.map Call.outcome)
    (by simp only [List.map_append, List.map_cons, hc, hd])
  exact List.mem_map.mp hmem

end

/-! ## What the next handshake finds -/

/-- The secrets of a party whose newest is still there: the last two it stored,
    and before it stored any the last it has from before. -/
theorem current_of_fresh {P : Platform} {who : Party → Endpoint} {p : Party} {now : Int} {c : Call}
    {older : List Call} {past : List StoreCall}
    (hfresh : (current P now ((c :: older).map (Call.storeCall who p) ++ past)).rs1 ≠ none) :
    current P now ((c :: older).map (Call.storeCall who p) ++ past)
      = ⟨some (Base64.inflate P.gunzip c.secret),
        (older.map (Call.storeCall who p) ++ past).head?.bind (recovered P)⟩ := by
  rw [List.map_cons, List.cons_append, current_cons] at hfresh ⊢
  -- Were the newest expired, nothing would be returned.
  by_cases hlate : now > (c.storeCall who p).expiration
  · rw [if_pos hlate] at hfresh
    exact absurd rfl hfresh
  · rw [if_neg hlate, recovered_storeCall]

/-- Caches in step have a secret in common, if neither has expired. -/
theorem current_common {P : Party → Platform} {who : Party → Endpoint} {calls : List Call}
    {now : Party → Int} {past : Party → List StoreCall} (hin : InStep calls)
    (hgunzip : ∀ p q, (P p).gunzip = (P q).gunzip)
    (hfresh : ∀ p, (current (P p) (now p)
      ((stored p calls).map (Call.storeCall who p) ++ past p)).rs1 ≠ none) :
    ∃ x, ∀ p, (current (P p) (now p)
        ((stored p calls).map (Call.storeCall who p) ++ past p)).rs1 = some x ∨
      (current (P p) (now p)
        ((stored p calls).map (Call.storeCall who p) ++ past p)).rs2 = some x := by
  rcases hin with ⟨c, hc⟩ | ⟨_, ahead, c, d, ⟨older, hahead⟩, hbehind⟩
  -- Both have stored the same call last.
  · refine ⟨Base64.inflate (P .alice).gunzip c.secret, fun p => Or.inl ?_⟩
    rcases List.head?_eq_some_iff.mp (hc p) with ⟨older, holder⟩
    have hp := hfresh p
    rw [holder] at hp ⊢
    rw [current_of_fresh hp, hgunzip p]
  · refine ⟨Base64.inflate (P .alice).gunzip c.secret, fun p => ?_⟩
    have hp := hfresh p
    rcases peer_cases ahead p with rfl | rfl
    · -- The one that is ahead has it second.
      right
      rw [hahead] at hp ⊢
      rw [current_of_fresh hp, List.map_cons, List.cons_append, List.head?_cons, Option.bind_some,
        recovered_storeCall, hgunzip p]
    · left
      rcases List.head?_eq_some_iff.mp hbehind with ⟨older, holder⟩
      rw [holder] at hp ⊢
      rw [current_of_fresh hp, hgunzip ahead.peer]

/-- A store with continuity leaves the mark of an endpoint that has a row. -/
theorem isVerified_completeHandshake (P : Platform) (db : RetainedSecretsDatabase)
    (number : String) (zid rs1 : Bytes) (cacheTime : Nat) (readTime storeTime : Int)
    (hrow : db.lookup (encodedKey P number zid) ≠ none) :
    (db.completeHandshake P number zid rs1 cacheTime true readTime storeTime).isVerified P number
      zid = db.isVerified P number zid := by
  rcases Option.ne_none_iff_exists'.mp hrow with ⟨r, hr⟩
  unfold completeHandshake
  by_cases hlate : storeTime < readTime + cacheTime * 1000
  -- The row is the old one with other secrets, and continuity keeps its flag.
  · have hiff := isVerified_eq P (db.setRetainedSecret P number zid rs1
      (readTime + cacheTime * 1000) true storeTime) number zid
    rw [lookup_setRetainedSecret P db number zid rs1 _ true storeTime hlate, if_pos rfl] at hiff
    rw [Bool.eq_iff_iff, hiff, isVerified_eq]
    simp only [storedRow, hr, updateValues, if_true, Option.some.injEq, exists_eq_left']
  · rw [setRetainedSecret_expired P db number zid rs1 _ true storeTime (by omega)]

/-- A party that gets a secret back has a row. -/
theorem lookup_of_fresh {P : Platform} {db : RetainedSecretsDatabase} {number : String}
    {zid : Bytes} {now : Int} {secrets : RetainedSecrets}
    (hread : db.getRetainedSecrets P number zid now = .ok secrets) (hfresh : secrets.rs1 ≠ none) :
    db.lookup (encodedKey P number zid) ≠ none := by
  intro hnone
  rw [getRetainedSecrets_eq, hnone] at hread
  exact hfresh (congrArg RetainedSecrets.rs1 (Except.ok.inj hread).symm)

namespace Handshake

variable {C : Crypto} {P : Party → Platform} {who : Party → Endpoint} {h : Handshake}
  {a b : RetainedSecrets}

/-- Each party has looked up its peer in its own cache. -/
theorem Conducts.read (hc : h.Conducts C P who) (hlooked : Looked h.network a b) (p : Party) :
    ∃ now, (h.before p).getRetainedSecrets (P p) (who p).number (who p).zid now
      = .ok (bySide h.initiator a b p) := by
  have hrun := hc.running
  have hI := hc.knows h.initiator
  have hR := hc.knows h.initiator.peer
  have hzidI := hI.zid_eq
  have hzidR := hR.zid_eq
  rw [peer_peer] at hzidR
  -- Each looks up the other's identity, under the number it knows the other by.
  rcases peer_cases h.initiator p with rfl | rfl
  · rcases hrun.initiator_read hlooked.initiator with ⟨now, hread⟩
    rw [hI.platform_eq, hI.number_eq, hzidR] at hread
    exact ⟨now, hread.trans (congrArg _ (bySide_initiator _ a b).symm)⟩
  · rcases hrun.responder_read hlooked.responder with ⟨now, hread⟩
    rw [hR.platform_eq, hR.number_eq, hzidI] at hread
    exact ⟨now, hread.trans (congrArg _ (bySide_responder _ a b).symm)⟩

/-- Whoever has a master secret has it of the secret in common. -/
theorem Conducts.restsOn (hc : h.Conducts C P who) (hlooked : Looked h.network a b)
    {m : MasterSecret}
    (hm : h.network.initiator.masterSecret = some m ∨ h.network.responder.masterSecret = some m) :
    RestsOn C m (commonSecret a b) := by
  rcases hm with hm | hm
  · rcases hc.running.initiator_restsOn hc.noCollision hm with ⟨_, _, _, hlooked', _, _, hrests⟩
    rcases hlooked.unique hlooked' with ⟨rfl, rfl⟩
    exact hrests
  · rcases hc.running.responder_restsOn hc.noCollision hm with ⟨_, _, _, hlooked', _, _, hrests⟩
    rcases hlooked.unique hlooked' with ⟨rfl, rfl⟩
    exact hrests

/-- With continuity the mark stays, whether the handshake completes or not. -/
theorem Conducts.isVerified_eq (hc : h.Conducts C P who) (hlooked : Looked h.network a b)
    (hfound : (commonSecret a b).isSome = true) (p : Party)
    (hrow : (h.before p).lookup (encodedKey (P p) (who p).number (who p).zid) ≠ none) :
    (h.after p).isVerified (P p) (who p).number (who p).zid
      = (h.before p).isVerified (P p) (who p).number (who p).zid := by
  rcases hc.exists_records with ⟨c, hrecords⟩
  rw [hrecords.after_eq p]
  unfold callStep
  -- Who stored nothing has the cache it had, and who did stored with continuity.
  by_cases hstores : c.Stores p = true
  · have hfailed : c.outcome ≠ .failed := by
      intro hfailed
      unfold Call.Stores at hstores
      rw [hfailed] at hstores
      exact absurd hstores Bool.false_ne_true
    rw [if_pos hstores, hrecords.continuity_eq a b hfailed hlooked p, hfound]
    exact isVerified_completeHandshake _ _ _ _ _ _ _ _ hrow
  · rw [if_neg hstores]

end Handshake

/-- After a handshake that both parties completed, and any after it in which one
    that both did is between any two that only the responder did, the next has
    continuity while what was stored has not expired: whoever derives a master
    secret in it derives it of a retained one, and a peer that was marked as
    verified stays so. -/
theorem continuity_kept (C : Crypto) (P : Party → Platform) (who : Party → Endpoint)
    (past : Party → List StoreCall) (caches : Party → RetainedSecretsDatabase) (first : Handshake)
    (rest : List Handshake) (next : Handshake)
    (hgunzip : ∀ p q, (P p).gunzip = (P q).gunzip)
    (hcourse : Course C P who (fun p => cacheAfter (P p) (past p)) (first :: rest) caches)
    (hfirst : first.outcome = .completed)
    (hapart : HalvesApart ((first :: rest).map Handshake.outcome))
    (heffective : ∀ h ∈ first :: rest, h.Effective) (hnext : next.Conducts C P who)
    (hbefore : next.before = caches) (a b : RetainedSecrets) (hlooked : Looked next.network a b)
    (hfresh : a.rs1 ≠ none ∧ b.rs1 ≠ none) :
    ∃ s1, commonSecret a b = some s1 ∧
      (∀ m, next.network.initiator.masterSecret = some m ∨
        next.network.responder.masterSecret = some m → RestsOn C m (some s1)) ∧
      ∀ p, (next.after p).isVerified (P p) (who p).number (who p).zid
        = (caches p).isVerified (P p) (who p).number (who p).zid := by
  rcases hcourse.exists_records with ⟨calls, hcalls⟩
  have hexpired := hcourse.unexpired heffective hcalls
  have hsep : HalvesSeparated calls := halvesSeparated_of_apart (map_outcome hcalls ▸ hapart)
  obtain ⟨c, calls', rfl⟩ : ∃ c calls', calls = c :: calls' := by
    cases hcalls with
    | @cons _ c _ calls' hc hcalls => exact ⟨c, calls', rfl⟩
  have houtcome : c.outcome = .completed := by
    cases hcalls with
    | cons hc hcalls => exact hc.outcome_eq.trans hfirst
  -- What either has looked up is what the calls have left it.
  choose now hread using hnext.read hlooked
  have hcurrent : ∀ p, bySide next.initiator a b p = current (P p) (now p)
      ((stored p (c :: calls')).map (Call.storeCall who p)
        ++ (RetainedSecretsDatabase.stores (P p) (encodedKey (P p) (who p).number (who p).zid)
          (past p)).reverse) := by
    intro p
    have hp := hread p
    rw [hbefore, (hcourse.after_same hcalls p).getRetainedSecrets_eq] at hp
    have hafter := read_afterCalls (P p) who (fun _ => past p) (c :: calls') now p
      (fun c hc => hexpired c hc p)
    have hsame : SameSecrets (afterCalls (P p) who (fun q => cacheAfter (P q) (past q))
        (c :: calls') p) (afterCalls (P p) who (fun _ => cacheAfter (P p) (past p))
        (c :: calls') p) := afterCalls_same (P p) (.refl _)
    rw [hsame.getRetainedSecrets_eq] at hp
    exact Except.ok.inj (hp.symm.trans hafter)
  -- Something is returned, so the newest of each has not expired.
  have hnone : ∀ p, (bySide next.initiator a b p).rs1 ≠ none := by
    intro p
    unfold bySide
    by_cases hp : p = next.initiator
    · rw [if_pos hp]
      exact hfresh.1
    · rw [if_neg hp]
      exact hfresh.2
  -- The caches are in step after calls of this kind, which gives a secret in
  -- common.
  rcases current_common (in_step c calls' houtcome hsep) hgunzip
    (fun p => hcurrent p ▸ hnone p) with ⟨x, hx⟩
  have hI := hx next.initiator
  have hR := hx next.initiator.peer
  rw [← hcurrent, bySide_initiator] at hI
  rw [← hcurrent, bySide_responder] at hR
  rcases commonSecret_isSome a b x hI hR with ⟨s1, hs1⟩
  refine ⟨s1, hs1, fun m hm => hs1 ▸ hnext.restsOn hlooked hm, fun p => ?_⟩
  rw [← hbefore]
  exact hnext.isVerified_eq hlooked (by rw [hs1]; rfl) p (lookup_of_fresh (hread p) (hnone p))

/-- The second call has continuity. -/
theorem continuity_kept_secondCall :
    ∃ (h next : Handshake) (x s1 : Bytes), h.outcome = .completed ∧ next.before = h.after ∧
      Looked next.network ⟨some x, none⟩ ⟨some x, none⟩ ∧
      commonSecret ⟨some x, none⟩ ⟨some x, none⟩ = some s1 ∧
      ∀ p, (next.after p).isVerified .plain (acquaintances p).number (acquaintances p).zid
        = (h.after p).isVerified .plain (acquaintances p).number (acquaintances p).zid := by
  rcases exists_firstCall with ⟨h, hconducts, houtcome, heffective, hbefore⟩
  rcases read_firstCall hconducts houtcome heffective hbefore with ⟨x, now, hx, hread⟩
  rcases exists_nextCall hx hread with ⟨next, hnext, hbetween, _, hlooked⟩
  have hcourse : Course jce (fun _ => .plain) acquaintances (fun p => cacheAfter .plain []) [h]
      h.after := by
    have hone := Course.handshake h [] h.after hconducts (.nil _)
    rw [hbefore] at hone
    exact hone
  have hapart : HalvesApart ([h].map Handshake.outcome) := by
    intro before mid after hsplit
    have hlen := congrArg List.length hsplit
    simp only [List.map_singleton, List.length_append, List.length_cons, List.length_nil] at hlen
    omega
  rcases continuity_kept jce (fun _ => .plain) acquaintances (fun _ => []) h.after h [] next
    (fun _ _ => rfl) hcourse houtcome hapart
    (fun h' hh' => List.mem_singleton.mp hh' ▸ heffective) hnext hbetween _ _ hlooked
    ⟨Option.some_ne_none x, Option.some_ne_none x⟩ with ⟨s1, hs1, _, hverified⟩
  exact ⟨h, next, x, s1, houtcome, hbetween, hlooked, hs1, hverified⟩

end Resync

end RedPhone
