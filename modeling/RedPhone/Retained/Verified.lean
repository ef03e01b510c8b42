import RedPhone.Lib.Run
import RedPhone.Retained.Database

/-!
# When the Cache Vouches for a Peer

`isVerified` is what lets a call skip the spoken comparison of the SAS, so it
should hold only if the user made that comparison after the last handshake
that could have been with somebody else. This file says exactly when it does.

The cache clears the flag as a side effect of storing a secret. A handshake
without continuity that stores nothing therefore clears nothing, and whether
it stores is the peer's choice: the cache interval it sends in its Confirm
packet is added to one clock reading and compared with the next, and an
interval of zero is already over. `isVerified_sound_iff` shows that this is
the only way the flag outlives its meaning.

## Main definitions

* `CacheEvent`: A completed handshake, or the user verifying the SAS.
* `history`: The cache after a list of events.
* `LacksContinuity`: A handshake with none of the cached secrets in common.
* `VerifiedSince`: The user verified after the last such handshake.
* `Clears`: An event leaves no stale flag behind.

## Theorems

* `isVerified_of_store`: A flag that survives a store was set before it.
* `isVerified_step`: What one event can do to the flag.
* `isVerified_sound_iff`: When the flag means what it says.
* `isVerified_unsound`: A history in which it does not.
-/

namespace RedPhone

namespace RetainedSecretsDatabase

/-- What happens to one endpoint: a handshake completes, with the secret it
    derived, the cache interval its peer chose, whether it had continuity and
    the two clock readings it made, or the user verifies the SAS. -/
inductive CacheEvent
  | handshake (rs1 : Bytes) (cacheTime : UInt32) (continuity : Bool) (readTime storeTime : Int)
  | verify
  deriving DecidableEq

/-- One event at the endpoint. -/
def cacheStep (P : Platform) (number : String) (zid : Bytes) (db : RetainedSecretsDatabase) :
    CacheEvent → RetainedSecretsDatabase
  | .handshake rs1 cacheTime continuity readTime storeTime =>
    db.completeHandshake P number zid rs1 cacheTime.toNat continuity readTime storeTime
  | .verify => db.setVerified P number zid

/-- The cache after a list of events, from an empty one. -/
def history (P : Platform) (number : String) (zid : Bytes) (events : List CacheEvent) :
    RetainedSecretsDatabase :=
  events.foldl (cacheStep P number zid) empty

/-- A completed handshake that had none of the cached secrets in common. -/
def LacksContinuity : CacheEvent → Prop
  | .handshake _ _ continuity _ _ => continuity = false
  | .verify => False

/-- The user verified after the last handshake without continuity. -/
def VerifiedSince (events : List CacheEvent) : Prop :=
  ∃ before after, events = before ++ CacheEvent.verify :: after ∧
    ∀ e ∈ after, ¬ LacksContinuity e

/-- A handshake without continuity stores its secret, or finds no flag to
    clear. -/
def Clears (P : Platform) (number : String) (zid : Bytes) (db : RetainedSecretsDatabase) :
    CacheEvent → Prop
  | .handshake _ cacheTime false readTime storeTime =>
    storeTime < readTime + cacheTime.toNat * 1000 ∨ db.isVerified P number zid = false
  | _ => True

/-- A flag that survives a store was set before it, and the handshake had
    continuity. -/
theorem isVerified_of_store (P : Platform) (db : RetainedSecretsDatabase) (number : String)
    (zid rs1 : Bytes) (expiration : Int) (continuity : Bool) (now : Int) (h : now < expiration)
    (hv : (db.setRetainedSecret P number zid rs1 expiration continuity now).isVerified P number zid
      = true) :
    continuity = true ∧ db.isVerified P number zid = true := by
  rcases (isVerified_eq P _ number zid).mp hv with ⟨r, hr, hflag⟩
  rw [lookup_setRetainedSecret P db number zid rs1 expiration continuity now h, if_pos rfl,
    Option.some.injEq] at hr
  rw [← hr] at hflag
  unfold storedRow at hflag
  cases hrow : db.lookup (encodedKey P number zid) with
  | none =>
      -- An inserted row starts unverified.
      rw [hrow] at hflag
      simp only [insertValues] at hflag
      omega
  | some r' =>
      rw [hrow] at hflag
      simp only [updateValues] at hflag
      cases continuity with
      | false =>
          simp only [Bool.false_eq_true, if_false] at hflag
          omega
      | true => exact ⟨rfl, (isVerified_eq P db number zid).mpr ⟨r', hrow, hflag⟩⟩

/-- One event: either it is the user verifying, or a flag seen after it was
    there before it and the event was not a clearing handshake. -/
theorem isVerified_step (P : Platform) (number : String) (zid : Bytes)
    (db : RetainedSecretsDatabase) (e : CacheEvent) (hclears : Clears P number zid db e)
    (hv : (cacheStep P number zid db e).isVerified P number zid = true) :
    e = .verify ∨ (¬ LacksContinuity e ∧ db.isVerified P number zid = true) := by
  cases e with
  | verify => exact Or.inl rfl
  | handshake rs1 cacheTime continuity readTime storeTime =>
      right
      simp only [cacheStep, completeHandshake] at hv
      by_cases h : storeTime < readTime + cacheTime.toNat * 1000
      · rcases isVerified_of_store P db number zid rs1 _ continuity storeTime h hv with ⟨hc, hdb⟩
        exact ⟨by simp only [LacksContinuity, hc, Bool.true_eq_false, not_false_eq_true], hdb⟩
      · rw [setRetainedSecret_expired P db number zid rs1 _ continuity storeTime (by omega)] at hv
        cases continuity with
        | true => exact ⟨by simp only [LacksContinuity, Bool.true_eq_false, not_false_eq_true], hv⟩
        | false =>
            rcases hclears with hlt | hdb
            · exact absurd hlt h
            · rw [hdb] at hv
              exact absurd hv Bool.false_ne_true

theorem verifiedSince_concat (events : List CacheEvent) (e : CacheEvent)
    (h : VerifiedSince events) (he : ¬ LacksContinuity e) : VerifiedSince (events ++ [e]) := by
  rcases h with ⟨before, after, hsplit, hafter⟩
  refine ⟨before, after ++ [e], by rw [hsplit, List.append_assoc, List.cons_append], ?_⟩
  intro e' he'
  rcases List.mem_append.mp he' with hmem | hmem
  · exact hafter e' hmem
  · rw [List.mem_singleton.mp hmem]
    exact he

/-- A list that ends in a handshake without continuity was not verified since. -/
theorem not_verifiedSince_concat (events : List CacheEvent) (e : CacheEvent)
    (he : LacksContinuity e) : ¬ VerifiedSince (events ++ [e]) := by
  rintro ⟨before, after, hsplit, hafter⟩
  induction after using List.reverseRecOn with
  | nil =>
      have hlast := List.append_inj_right' hsplit rfl
      rw [List.singleton_inj] at hlast
      rw [hlast] at he
      exact he
  | append_singleton after e' _ =>
      have hsplit' : events ++ [e] = (before ++ CacheEvent.verify :: after) ++ [e'] := by
        rw [hsplit, List.append_assoc, List.cons_append]
      have hlast := List.append_inj_right' hsplit' rfl
      rw [List.singleton_inj] at hlast
      exact hafter e' (List.mem_append_right _ (List.mem_singleton_self e')) (hlast ▸ he)

/-- The flag means what it says at every moment of a history exactly when no
    handshake without continuity arrives already expired at a verified
    endpoint. -/
theorem isVerified_sound_iff (P : Platform) (number : String) (zid : Bytes)
    (events : List CacheEvent) :
    (∀ before, before <+: events →
        (history P number zid before).isVerified P number zid = true → VerifiedSince before)
      ↔ ∀ before e, before ++ [e] <+: events →
        Clears P number zid (history P number zid before) e := by
  constructor
  · intro hsound before e hpre
    -- An event that leaves the flag up belies it right after.
    by_contra hnot
    cases e with
    | verify => exact hnot trivial
    | handshake rs1 cacheTime continuity readTime storeTime =>
        cases continuity with
        | true => exact hnot trivial
        | false =>
            simp only [Clears, not_or, Bool.not_eq_false] at hnot
            -- Nothing was stored, so the flag is still up after the handshake.
            have hsame : history P number zid
                (before ++ [.handshake rs1 cacheTime false readTime storeTime])
                = history P number zid before := by
              unfold history
              rw [List.foldl_append, List.foldl_cons, List.foldl_nil]
              exact setRetainedSecret_expired P _ number zid rs1 _ false storeTime (by omega)
            refine not_verifiedSince_concat before
              (.handshake rs1 cacheTime false readTime storeTime) rfl (hsound _ hpre ?_)
            rw [hsame]
            exact hnot.2
  · intro hclears before hpre
    induction before using List.reverseRecOn with
    | nil =>
        intro hv
        rcases (isVerified_eq P _ number zid).mp hv with ⟨r, hr, _⟩
        simp only [history, List.foldl_nil, lookup, empty, KeyedList.lookup, List.find?_nil,
          reduceCtorEq] at hr
    | append_singleton before e ih =>
        intro hv
        have hbefore : before <+: events := (List.prefix_append before [e]).trans hpre
        have hv' : (cacheStep P number zid (history P number zid before) e).isVerified P number zid
            = true := by
          unfold history at hv
          rw [List.foldl_append, List.foldl_cons, List.foldl_nil] at hv
          exact hv
        -- The flag was raised now, or is up since before.
        rcases isVerified_step P number zid _ e (hclears before e hpre) hv' with hverify | hkeep
        · exact ⟨before, [], by rw [hverify], fun e' he' => absurd he' List.not_mem_nil⟩
        · exact verifiedSince_concat before e (ih hbefore hkeep.2) hkeep.1

/-- A peer met once and verified comes back with nothing in common and a cache
    interval of zero, and is still reported as verified. -/
theorem isVerified_unsound :
    ¬ ∀ (P : Platform) (number : String) (zid : Bytes) (events : List CacheEvent),
      (history P number zid events).isVerified P number zid = true → VerifiedSince events := by
  intro hsound
  refine not_verifiedSince_concat
    [.handshake (List.replicate 32 7) 0xffffffff false 0 0, .verify]
    (.handshake (List.replicate 32 9) 0 false 1000 1000) rfl
    (hsound ⟨fun n => n, fun _ => none⟩ "+15550100" (List.replicate 12 1) _ ?_)
  decide

end RetainedSecretsDatabase

end RedPhone
