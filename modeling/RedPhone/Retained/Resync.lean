import RedPhone.Java.Jce
import RedPhone.Retained.Calculator
import RedPhone.Retained.Expiration

/-!
# Two Caches in Step

A call that completes stores the same new secret in the caches of both
parties. A call that breaks off after the responder has stored and before the
initiator has leaves the responder one secret ahead, and the slot for a second
secret is there so that the two still have one in common afterwards: the
responder's older secret is then the initiator's newer.

One slot absorbs one such call. `in_step` is the invariant that says so, over
every sequence of calls in which two half-completed ones always have a
completed one between them: either both caches have the same newest secret, or
one is exactly one secret ahead and a half-completed call is still pending.
`resynchronises` turns it into what the next handshake finds.

The histories of the two caches are arbitrary before the first completed call,
so nothing is assumed about what the parties shared earlier.

## Main definitions

* `Call`: One call between the parties, and how far it came.
* `callStep`, `afterCalls`: The two caches after a call, and after a list.
* `HalvesSeparated`: No two half-completed calls without a completed between.
* `PendingHalf`: A half-completed call since the last completed one.
* `handshake`: What both sides of the next handshake find.

## Theorems

* `afterCalls_eq`: The caches are those of the stores each party made.
* `in_step`: The caches stay in step after a completed first call.
* `handshake_ok`: A handshake finds the common secret of the two caches.
* `read_common`: What the two caches return has a secret in common.
* `resynchronises`: Both sides of the next handshake find the same secret.
-/

namespace RedPhone

namespace Resync

open RetainedSecretsDatabase RetainedSecretsCalculator

/-- The two parties of every call. -/
inductive Party
  | alice
  | bob
  deriving DecidableEq

def Party.peer : Party → Party
  | .alice => .bob
  | .bob => .alice

/-- How a party knows its peer. -/
structure Endpoint where
  number : String
  zid : Bytes

/-- How far a call came: nobody stored, only the responder did, or both. -/
inductive Outcome
  | failed
  | halfCompleted
  | completed
  deriving DecidableEq

/-- One call. The secret is the one both master secrets yield; the interval
    each side stores with is its peer's, and each has clock readings of its
    own. -/
structure Call where
  initiator : Party
  outcome : Outcome
  secret : Bytes
  secret_length : secret.length = 32
  cacheTime : Party → UInt32
  continuity : Party → Bool
  readTime : Party → Int
  storeTime : Party → Int

namespace Call

/-- Whether a party stores the secret of a call. -/
def Stores (c : Call) (p : Party) : Bool :=
  match c.outcome with
  | .failed => false
  | .halfCompleted => p ≠ c.initiator
  | .completed => true

/-- The expiration a party stores the secret with. -/
def expiration (c : Call) (p : Party) : Int := c.readTime p + (c.cacheTime p).toNat * 1000

/-- The store a party makes. -/
def storeCall (who : Party → Endpoint) (p : Party) (c : Call) : StoreCall :=
  ⟨(who p).number, (who p).zid, c.secret, c.expiration p, c.continuity p, c.storeTime p⟩

end Call

/-- The two caches after one call. -/
def callStep (P : Platform) (who : Party → Endpoint) (caches : Party → RetainedSecretsDatabase)
    (c : Call) : Party → RetainedSecretsDatabase := fun p =>
  if c.Stores p then
    (caches p).completeHandshake P (who p).number (who p).zid c.secret (c.cacheTime p).toNat
      (c.continuity p) (c.readTime p) (c.storeTime p)
  else caches p

/-- The two caches after a list of calls. -/
def afterCalls (P : Platform) (who : Party → Endpoint) (caches : Party → RetainedSecretsDatabase)
    (calls : List Call) : Party → RetainedSecretsDatabase :=
  calls.foldl (callStep P who) caches

/-- Between two half-completed calls there is a completed one. -/
def HalvesSeparated (calls : List Call) : Prop :=
  ∀ before mid after c d, calls = before ++ c :: mid ++ d :: after →
    c.outcome = .halfCompleted → d.outcome = .halfCompleted → ∃ e ∈ mid, e.outcome = .completed

/-- A half-completed call came after the last completed one. -/
def PendingHalf (calls : List Call) : Prop :=
  ∃ before mid c, calls = before ++ c :: mid ∧ c.outcome = .halfCompleted ∧
    ∀ e ∈ mid, e.outcome ≠ .completed

/-- The secrets a party stored, newest first. -/
def stored (p : Party) (calls : List Call) : List Call :=
  (calls.filter (fun c => c.Stores p)).reverse

/-! ## The caches as histories of stores -/

/-- The caches after a list of calls are those of the stores each party made. -/
theorem afterCalls_eq (P : Platform) (who : Party → Endpoint) (past : Party → List StoreCall)
    (calls : List Call) (p : Party) :
    afterCalls P who (fun p => cacheAfter P (past p)) calls p
      = cacheAfter P (past p ++ (stored p calls).reverse.map (Call.storeCall who p)) := by
  -- The induction is on the calls, from the front, as the caches are folded.
  refine Run.foldl_invariant (callStep P who)
    (fun calls caches => caches p
      = cacheAfter P (past p ++ (stored p calls).reverse.map (Call.storeCall who p)))
    _ (by simp only [stored, List.filter_nil, List.reverse_nil, List.map_nil, List.append_nil])
    ?_ calls
  intro calls caches c ih
  unfold stored at ih ⊢
  rw [List.reverse_reverse] at ih ⊢
  rw [List.filter_append, List.filter_singleton, callStep]
  cases hc : c.Stores p with
  | false =>
      simp only [Bool.false_eq_true, if_false, cond_false, List.append_nil]
      exact ih
  | true =>
      simp only [if_true, cond_true, List.map_append, List.map_cons, List.map_nil]
      rw [← List.append_assoc, cacheAfter, List.foldl_append, List.foldl_cons, List.foldl_nil, ih]
      rfl

/-! ## The invariant -/

theorem stored_concat (p : Party) (calls : List Call) (c : Call) :
    stored p (calls ++ [c]) = if c.Stores p then c :: stored p calls else stored p calls := by
  unfold stored
  rw [List.filter_append, List.filter_singleton, List.reverse_append]
  cases c.Stores p with
  | false => rfl
  | true => rfl

theorem halvesSeparated_of_concat (calls : List Call) (c : Call)
    (h : HalvesSeparated (calls ++ [c])) : HalvesSeparated calls := by
  intro before mid after d e hsplit hd he
  refine h before mid (after ++ [c]) d e ?_ hd he
  rw [hsplit]
  simp only [List.append_assoc, List.cons_append]

/-- Separated halves leave no room for a second pending one. -/
theorem not_pendingHalf (calls : List Call) (c : Call) (h : HalvesSeparated (calls ++ [c]))
    (hc : c.outcome = .halfCompleted) : ¬ PendingHalf calls := by
  rintro ⟨before, mid, d, hsplit, hd, hmid⟩
  rcases h before mid [] d c (by rw [hsplit]) hd hc with ⟨e, he, hdone⟩
  exact hmid e he hdone

/-- Either both newest secrets are those of one call, or a half-completed call
    is pending and one party's second secret is the other's newest. -/
def InStep (calls : List Call) : Prop :=
  (∃ c, ∀ p, (stored p calls).head? = some c) ∨
    (PendingHalf calls ∧ ∃ ahead c d,
      (∃ older, stored ahead calls = d :: c :: older) ∧
      (stored ahead.peer calls).head? = some c)

theorem peer_cases (p q : Party) : q = p ∨ q = p.peer := by
  cases p with
  | alice =>
      cases q with
      | alice => exact Or.inl rfl
      | bob => exact Or.inr rfl
  | bob =>
      cases q with
      | alice => exact Or.inr rfl
      | bob => exact Or.inl rfl

theorem peer_ne (p : Party) : p.peer ≠ p := by
  cases p with
  | alice => exact nofun
  | bob => exact nofun

/-- A completed call puts both caches in step, whatever was before. -/
theorem inStep_of_completed (calls : List Call) (c : Call) (hc : c.outcome = .completed) :
    InStep (calls ++ [c]) := by
  refine Or.inl ⟨c, fun p => ?_⟩
  rw [stored_concat, if_pos (by simp only [Call.Stores, hc])]
  rfl

/-- A failed call leaves the caches as they were. -/
theorem inStep_of_failed (calls : List Call) (c : Call) (hc : c.outcome = .failed)
    (h : InStep calls) : InStep (calls ++ [c]) := by
  have hstored : ∀ p, stored p (calls ++ [c]) = stored p calls := by
    intro p
    rw [stored_concat, if_neg (by simp only [Call.Stores, hc, Bool.false_eq_true,
      not_false_eq_true])]
  unfold InStep
  simp only [hstored]
  -- A half-completed call that was pending still is.
  rcases h with h | ⟨⟨before, mid, d, hsplit, hd, hmid⟩, h⟩
  · exact Or.inl h
  · refine Or.inr ⟨⟨before, mid ++ [c], d, by rw [hsplit]; simp only [List.append_assoc,
      List.cons_append], hd, ?_⟩, h⟩
    intro e he
    rcases List.mem_append.mp he with he | he
    · exact hmid e he
    · rw [List.mem_singleton.mp he, hc]
      exact nofun

/-- A half-completed call, when none was pending, puts the responder one
    secret ahead. -/
theorem inStep_of_half (calls : List Call) (c : Call) (hc : c.outcome = .halfCompleted)
    (hnone : ¬ PendingHalf calls) (h : InStep calls) : InStep (calls ++ [c]) := by
  rcases h with ⟨d, hd⟩ | ⟨hpending, _⟩
  -- The responder has stored one more, and its second secret is the initiator's
  -- newest.
  · refine Or.inr ⟨⟨calls, [], c, rfl, hc, fun e he => absurd he List.not_mem_nil⟩,
      c.initiator.peer, d, c, ?_, ?_⟩
    · rw [stored_concat, if_pos (by simp only [Call.Stores, hc, ne_eq, peer_ne,
        not_false_eq_true, decide_true])]
      cases hs : stored c.initiator.peer calls with
      | nil =>
          have := hd c.initiator.peer
          rw [hs] at this
          exact nomatch this
      | cons e older =>
          have := hd c.initiator.peer
          rw [hs, List.head?_cons, Option.some.injEq] at this
          exact ⟨older, by rw [this]⟩
    · have hback : c.initiator.peer.peer = c.initiator := by
        cases c.initiator with
        | alice => rfl
        | bob => rfl
      rw [hback, stored_concat, if_neg (by simp only [Call.Stores, hc, ne_eq, not_true_eq_false,
        decide_false, Bool.false_eq_true, not_false_eq_true])]
      exact hd c.initiator
  · exact absurd hpending hnone

/-- After a completed first call the caches stay in step. -/
theorem in_step (first : Call) (rest : List Call) (hfirst : first.outcome = .completed)
    (hsep : HalvesSeparated (first :: rest)) : InStep (first :: rest) := by
  induction rest using List.reverseRecOn with
  | nil => exact inStep_of_completed [] first hfirst
  | append_singleton rest c ih =>
      rw [← List.cons_append] at hsep ⊢
      have hih := ih (halvesSeparated_of_concat _ c hsep)
      -- The last call decides.
      cases hc : c.outcome with
      | completed => exact inStep_of_completed _ c hc
      | failed => exact inStep_of_failed _ c hc hih
      | halfCompleted => exact inStep_of_half _ c hc (not_pendingHalf _ c hsep hc) hih

/-! ## What the next handshake finds -/

/-- A secret each side has is found by the comparisons. -/
theorem commonSecret_isSome (a b : RetainedSecrets) (x : Bytes)
    (ha : a.rs1 = some x ∨ a.rs2 = some x) (hb : b.rs1 = some x ∨ b.rs2 = some x) :
    ∃ s1, commonSecret a b = some s1 := by
  unfold commonSecret
  by_cases h1 : a.rs1 ≠ none ∧ (a.rs1 = b.rs1 ∨ a.rs1 = b.rs2)
  · rw [if_pos h1]
    exact Option.ne_none_iff_exists'.mp h1.1
  · rw [if_neg h1]
    -- The first comparison has failed, so the secret in common is the second of
    -- the one.
    rcases ha with ha | ha
    · refine absurd ⟨by rw [ha]; exact Option.some_ne_none x, ?_⟩ h1
      rcases hb with hb | hb
      · exact Or.inl (by rw [ha, hb])
      · exact Or.inr (by rw [ha, hb])
    · rw [if_pos]
      · exact ⟨x, ha⟩
      · refine ⟨by rw [ha]; exact Option.some_ne_none x, ?_⟩
        rcases hb with hb | hb
        · exact Or.inl (by rw [ha, hb])
        · exact Or.inr (by rw [ha, hb])

/-- What both sides of a handshake find. -/
structure Found where
  initiatorS1 : Option Bytes
  responderS1 : Option Bytes
  initiatorContinuity : Bool
  responderContinuity : Bool

/-- What a party's cache returns for its peer. -/
def read (P : Platform) (who : Party → Endpoint) (caches : Party → RetainedSecretsDatabase)
    (now : Party → Int) (p : Party) : Java RetainedSecrets :=
  (caches p).getRetainedSecrets P (who p).number (who p).zid (now p)

/-- The retained secrets in one handshake: both sides read their caches, send
    digests or filler for what they read, and compare what they receive. -/
def handshake (P : Platform) (C : Crypto) (who : Party → Endpoint)
    (caches : Party → RetainedSecretsDatabase) (initiator : Party) (now : Party → Int)
    (f : Fillers) : Java Found := do
  let responder := initiator.peer
  let a ← read P who caches now initiator
  let b ← read P who caches now responder
  let sent2 ← calculateDerivatives C .initiator a
  let sent1 ← calculateDerivatives C .responder b
  let rs1IDi := some (sent2.rs1ID.getD f.initiator1)
  let rs2IDi := some (sent2.rs2ID.getD f.initiator2)
  let rs1IDr := some (sent1.rs1ID.getD f.responder1)
  let rs2IDr := some (sent1.rs2ID.getD f.responder2)
  -- Each compares its own with the ids the other has sent.
  let initiatorS1 ← getS1 C .initiator a rs1IDr rs2IDr
  let responderS1 ← getS1 C .responder b rs1IDi rs2IDi
  let initiatorContinuity ← hasContinuity C .initiator a rs1IDr rs2IDr
  let responderContinuity ← hasContinuity C .responder b rs1IDi rs2IDi
  .ok ⟨initiatorS1, responderS1, initiatorContinuity, responderContinuity⟩

/-- A handshake finds the common secret of what the caches returned. -/
theorem handshake_ok (P : Platform) (C : Crypto) (who : Party → Endpoint)
    (caches : Party → RetainedSecretsDatabase) (initiator : Party) (now : Party → Int)
    (f : Fillers) (a b : RetainedSecrets)
    (ha : read P who caches now initiator = .ok a)
    (hb : read P who caches now initiator.peer = .ok b)
    (hkeya : Keyable a) (hkeyb : Keyable b) (hnc : NoCollision C a b f) :
    handshake P C who caches initiator now f
      = .ok ⟨commonSecret a b, commonSecret a b, (commonSecret a b).isSome,
        (commonSecret a b).isSome⟩ := by
  have hda := (calculateDerivatives_ok C .initiator a _).mpr ⟨hkeya, rfl⟩
  have hdb := (calculateDerivatives_ok C .responder b _).mpr ⟨hkeyb, rfl⟩
  have hia := (initiatorGetS1_ok C a b f hnc _).mpr ⟨hkeya, rfl⟩
  have hrb := (responderGetS1_ok C a b f hnc _).mpr ⟨hkeyb, rfl⟩
  simp only [handshake, ha, hb, Java.ok_bind, hda, hdb, transmitted_eq, getS1, hia, hrb,
    hasContinuity]

/-- The secrets a party has after a list of calls are those it stored last. -/
theorem read_afterCalls (P : Platform) (who : Party → Endpoint) (past : Party → List StoreCall)
    (calls : List Call) (now : Party → Int) (p : Party)
    (hstore : ∀ c ∈ calls, c.Stores p = true → c.storeTime p < c.expiration p) :
    read P who (afterCalls P who (fun p => cacheAfter P (past p)) calls) now p
      = .ok (current P (now p) ((stored p calls).map (Call.storeCall who p)
        ++ (stores P (encodedKey P (who p).number (who p).zid) (past p)).reverse)) := by
  -- None of the stores of the calls was made expired, and all are at the
  -- endpoint that is read.
  have hall : ((stored p calls).reverse.map (Call.storeCall who p)).filter (fun c =>
      encodedKey P c.number c.zid = encodedKey P (who p).number (who p).zid ∧
        c.now < c.expiration) = (stored p calls).reverse.map (Call.storeCall who p) := by
    rw [List.filter_eq_self]
    intro s hs
    rcases List.mem_map.mp hs with ⟨c, hc, rfl⟩
    unfold stored at hc
    rw [List.reverse_reverse, List.mem_filter] at hc
    exact decide_eq_true ⟨rfl, hstore c hc.1 hc.2⟩
  unfold read
  rw [afterCalls_eq, getRetainedSecrets_history]
  unfold stores
  rw [List.filter_append, hall, List.reverse_append, List.map_reverse, List.reverse_reverse]

/-- A stored secret reads back as something. -/
theorem recovered_storeCall (P : Platform) (who : Party → Endpoint) (p : Party) (c : Call) :
    recovered P (c.storeCall who p) = some (Base64.inflate P.gunzip c.secret) := by
  unfold recovered
  rw [if_neg]
  · rfl
  · intro hnil
    change Base64.encodeBytes c.secret = [] at hnil
    have hlen := c.secret_length
    rcases Base64.length_encodeBytes c.secret with h0 | h4
    · rw [h0, List.length_nil] at hlen
      omega
    · rw [hnil, List.length_nil] at h4
      omega

/-- While the newest stored secret has not expired, it is `rs1`. -/
theorem current_rs1 (P : Platform) (who : Party → Endpoint) (p : Party) (now : Int) (c : Call)
    (calls : List Call) (past : List StoreCall) (hc : calls.head? = some c)
    (hnow : now < c.expiration p) :
    (current P now (calls.map (Call.storeCall who p) ++ past)).rs1
      = some (Base64.inflate P.gunzip c.secret) := by
  rcases List.head?_eq_some_iff.mp hc with ⟨older, rfl⟩
  rw [List.map_cons, List.cons_append, current_cons, if_neg, recovered_storeCall]
  change ¬ now > c.expiration p
  omega

/-- While the newest stored secret has not expired, the one before is `rs2`. -/
theorem current_rs2 (P : Platform) (who : Party → Endpoint) (p : Party) (now : Int) (c d : Call)
    (older : List Call) (past : List StoreCall) (hnow : now < d.expiration p) :
    (current P now ((d :: c :: older).map (Call.storeCall who p) ++ past)).rs2
      = some (Base64.inflate P.gunzip c.secret) := by
  rw [List.map_cons, List.cons_append, current_cons, if_neg]
  · simp only [List.map_cons, List.cons_append, List.head?_cons, Option.bind_some,
      recovered_storeCall]
  · change ¬ now > d.expiration p
    omega

/-- What the parties' caches return has a secret in common. -/
theorem read_common (P : Platform) (who : Party → Endpoint) (past : Party → List StoreCall)
    (calls : List Call) (now : Party → Int) (hin : InStep calls)
    (hfuture : ∀ c ∈ calls, ∀ p, c.Stores p = true → now p < c.expiration p) :
    ∃ x, ∀ p, let secrets := current P (now p) ((stored p calls).map (Call.storeCall who p)
        ++ (stores P (encodedKey P (who p).number (who p).zid) (past p)).reverse)
      secrets.rs1 = some x ∨ secrets.rs2 = some x := by
  have hnow : ∀ p c, c ∈ stored p calls → now p < c.expiration p := by
    intro p c hc
    unfold stored at hc
    rw [List.mem_reverse, List.mem_filter] at hc
    exact hfuture c hc.1 p hc.2
  -- In step both have it first; behind a half-completed call the party ahead has
  -- it second.
  rcases hin with ⟨c, hc⟩ | ⟨_, ahead, c, d, ⟨older, hahead⟩, hbehind⟩
  · exact ⟨_, fun p => Or.inl (current_rs1 P who p (now p) c _ _ (hc p)
      (hnow p c (List.mem_of_head? (hc p))))⟩
  · refine ⟨Base64.inflate P.gunzip c.secret, fun p => ?_⟩
    rcases peer_cases ahead p with rfl | rfl
    · right
      have hd : now p < d.expiration p := hnow p d (by rw [hahead]; exact List.mem_cons_self)
      rw [hahead]
      exact current_rs2 P who p (now p) c d older _ hd
    · exact Or.inl (current_rs1 P who ahead.peer (now ahead.peer) c _ _ hbehind
        (hnow ahead.peer c (List.mem_of_head? hbehind)))

/-- Whichever party calls next, both sides find the same retained secret and
    have continuity: after any calls that began with a completed one, in which
    half-completed calls are separated by completed ones, while what was
    stored has not expired. -/
theorem resynchronises (P : Platform) (C : Crypto) (who : Party → Endpoint)
    (past : Party → List StoreCall) (first : Call) (rest : List Call) (initiator : Party)
    (now : Party → Int) (f : Fillers) (hfirst : first.outcome = .completed)
    (hsep : HalvesSeparated (first :: rest))
    (hstore : ∀ c ∈ first :: rest, ∀ p, c.Stores p = true → c.storeTime p < c.expiration p)
    (hfuture : ∀ c ∈ first :: rest, ∀ p, c.Stores p = true → now p < c.expiration p)
    (hdistinct : ∀ a b,
      read P who (afterCalls P who (fun p => cacheAfter P (past p)) (first :: rest)) now initiator
        = .ok a →
      read P who (afterCalls P who (fun p => cacheAfter P (past p)) (first :: rest)) now
        initiator.peer = .ok b →
      Keyable a ∧ Keyable b ∧ NoCollision C a b f) :
    ∃ s1, handshake P C who (afterCalls P who (fun p => cacheAfter P (past p)) (first :: rest))
      initiator now f = .ok ⟨some s1, some s1, true, true⟩ := by
  have ha := read_afterCalls P who past (first :: rest) now initiator
    (fun c hc => hstore c hc initiator)
  have hb := read_afterCalls P who past (first :: rest) now initiator.peer
    (fun c hc => hstore c hc initiator.peer)
  -- What they read has a secret in common, and both comparisons find it.
  rcases hdistinct _ _ ha hb with ⟨hkeya, hkeyb, hnc⟩
  rcases read_common P who past (first :: rest) now (in_step first rest hfirst hsep) hfuture
    with ⟨x, hx⟩
  rcases commonSecret_isSome _ _ x (hx initiator) (hx initiator.peer) with ⟨s1, hs1⟩
  refine ⟨s1, ?_⟩
  rw [handshake_ok P C who _ initiator now f _ _ ha hb hkeya hkeyb hnc, hs1, Option.isSome_some]

/-- Two parties that call each other. -/
def endpoints : Party → Endpoint
  | .alice => ⟨"+15550001", List.replicate 12 2⟩
  | .bob => ⟨"+15550002", List.replicate 12 1⟩

theorem length_completed : (List.replicate 32 (1 : UInt8)).length = 32 := List.length_replicate

theorem length_halfCompleted : (List.replicate 32 (2 : UInt8)).length = 32 := List.length_replicate

/-- A call that both complete. -/
def completedCall : Call :=
  ⟨.alice, .completed, List.replicate 32 1, length_completed, fun _ => 0xffffffff,
    fun _ => false, fun _ => 0, fun _ => 0⟩

/-- A call after it that only the responder completes. -/
def halfCompletedCall : Call :=
  ⟨.alice, .halfCompleted, List.replicate 32 2, length_halfCompleted, fun _ => 0xffffffff,
    fun _ => true, fun _ => 1000, fun _ => 1000⟩

/-- The next call after a half-completed one, from the party that is ahead. -/
theorem resynchronises_halfCompleted :
    ∃ s1, handshake .plain jce endpoints (afterCalls .plain endpoints
        (fun _ => cacheAfter .plain []) [completedCall, halfCompletedCall]) .bob
        (fun _ => 2000) ⟨List.replicate 8 0, List.replicate 8 0, List.replicate 8 0,
          List.replicate 8 0⟩ = .ok ⟨some s1, some s1, true, true⟩ := by
  refine resynchronises .plain jce endpoints (fun _ => []) completedCall
    [halfCompletedCall] .bob (fun _ => 2000) _ rfl ?_ ?_ ?_ ?_
  · -- Of two calls one cannot be between the others.
    rintro before mid after c d hcalls hc hd
    cases before with
    | nil =>
        rw [List.nil_append, List.cons_append, List.cons.injEq] at hcalls
        rw [← hcalls.1] at hc
        exact nomatch hc
    | cons b before =>
        have hlen := congrArg List.length hcalls
        simp only [List.length_cons, List.length_append, List.length_nil] at hlen
        omega
  · intro c hc p _
    rcases List.mem_pair.mp hc with rfl | rfl <;> cases p <;> decide
  · intro c hc p _
    rcases List.mem_pair.mp hc with rfl | rfl <;> cases p <;> decide
  · intro a b ha hb
    -- One party has stored a secret that the other has not.
    have hbob : read .plain endpoints (afterCalls .plain endpoints
        (fun _ => cacheAfter .plain []) [completedCall, halfCompletedCall])
        (fun _ => 2000) .bob = .ok ⟨some (List.replicate 32 2), some (List.replicate 32 1)⟩ := by
      decide +kernel
    have halice : read .plain endpoints (afterCalls .plain endpoints
        (fun _ => cacheAfter .plain []) [completedCall, halfCompletedCall])
        (fun _ => 2000) .alice = .ok ⟨some (List.replicate 32 1), none⟩ := by
      decide +kernel
    have hdistinct : ∀ role, derivative jce role (List.replicate 32 1)
          ≠ derivative jce role (List.replicate 32 2) ∧
        derivative jce role (List.replicate 32 1) ≠ List.replicate 8 0 ∧
        derivative jce role (List.replicate 32 2) ≠ List.replicate 8 0 := by
      intro role
      cases role <;> decide +kernel
    rw [← Except.ok.inj (hbob.symm.trans ha), ← Except.ok.inj (halice.symm.trans hb)]
    have hinvolved : ∀ x, Involved ⟨some (List.replicate 32 2), some (List.replicate 32 1)⟩
        ⟨some (List.replicate 32 1), none⟩ x →
          x = List.replicate 32 1 ∨ x = List.replicate 32 2 := by
      rintro x (h | h | h | h)
      · exact Or.inr (Option.some.inj h).symm
      · exact Or.inl (Option.some.inj h).symm
      · exact Or.inl (Option.some.inj h).symm
      · exact nomatch h
    refine ⟨⟨by decide, by decide⟩, ⟨by decide, nofun⟩, ?_, fun x hx => ?_, fun x hx => ?_⟩
    · intro role x y hx hy heq
      rcases hinvolved x hx with rfl | rfl <;> rcases hinvolved y hy with rfl | rfl
      · rfl
      · exact absurd heq (hdistinct role).1
      · exact absurd heq.symm (hdistinct role).1
      · rfl
    · rcases hinvolved x hx with rfl | rfl
      · exact ⟨(hdistinct .initiator).2.1, (hdistinct .initiator).2.1⟩
      · exact ⟨(hdistinct .initiator).2.2, (hdistinct .initiator).2.2⟩
    · rcases hinvolved x hx with rfl | rfl
      · exact ⟨(hdistinct .responder).2.1, (hdistinct .responder).2.1⟩
      · exact ⟨(hdistinct .responder).2.2, (hdistinct .responder).2.2⟩

end Resync

end RedPhone
