import RedPhone.Retained.Resync
import RedPhone.Zrtp.Completion
import RedPhone.Zrtp.Storing

/-!
# Calls as They Are Conducted

A handshake between two parties, whatever the network made of it and however
far it came, does to their caches what one `Call` does: nothing, a store on the
responder's side, or a store on both sides of the same secret. So a course of
handshakes does what the list of their calls does, and what is known of the
lists holds of the handshakes.

Between the handshakes the users mark each other as verified. The list of calls
knows nothing of the marks, and the two caches are compared by their secrets.

## Main definitions

* `SameSecrets`: Caches that differ in their marks only.
* `Knows`: A party with an identity and a peer.
* `Handshake`: A handshake, and what it was begun with.
* `Conducts`: It is between the two, as far as it came.
* `Records`: The call that a handshake was.
* `Course`: Handshakes and marks, one after the other.
* `Effective`: Whoever completed has stored something.

## Theorems

* `Conducts.exists_records`: Every handshake was a call.
* `Course.after_same`: A course does what the list of its calls does.
* `course_refines`: So it refines the calls.
-/

namespace RedPhone

open HandshakePacket RetainedSecretsCalculator RetainedSecretsDatabase

/-! ## The secrets of a cache -/

namespace RetainedSecretsDatabase

/-- Two caches with the same secrets, whatever they have marked as verified. -/
def SameSecrets (db db' : RetainedSecretsDatabase) : Prop :=
  ∀ k, (db.lookup k).map Row.columns = (db'.lookup k).map Row.columns

namespace SameSecrets

variable {db db' db'' : RetainedSecretsDatabase}

theorem refl (db : RetainedSecretsDatabase) : SameSecrets db db := fun _ => rfl

theorem trans (h : SameSecrets db db') (h' : SameSecrets db' db'') : SameSecrets db db'' :=
  fun k => (h k).trans (h' k)

/-- Both have a row for an endpoint, or neither has. -/
theorem rows (h : SameSecrets db db') (k : String × Bytes) :
    (db.lookup k = none ∧ db'.lookup k = none) ∨
      ∃ r r', db.lookup k = some r ∧ db'.lookup k = some r' ∧
        Row.columns r = Row.columns r' := by
  have hk := h k
  cases hr : db.lookup k with
  | none =>
      rw [hr, Option.map_none] at hk
      exact Or.inl ⟨rfl, Option.map_eq_none_iff.mp hk.symm⟩
  | some r =>
      rw [hr, Option.map_some] at hk
      rcases Option.map_eq_some_iff.mp hk.symm with ⟨r', hr', hcolumns⟩
      exact Or.inr ⟨r, r', rfl, hr', hcolumns.symm⟩

theorem setVerified (P : Platform) (db : RetainedSecretsDatabase) (number : String) (zid : Bytes) :
    SameSecrets (db.setVerified P number zid) db := by
  intro k
  rw [lookup_setVerified]
  by_cases hk : k = encodedKey P number zid
  · rw [if_pos hk, Option.map_map]
    rfl
  · rw [if_neg hk]

/-- Storing the same secret keeps them so. -/
theorem completeHandshake (h : SameSecrets db db') (P : Platform) (number : String)
    (zid rs1 : Bytes) (cacheTime : Nat) (continuity : Bool) (readTime storeTime : Int) :
    SameSecrets (db.completeHandshake P number zid rs1 cacheTime continuity readTime storeTime)
      (db'.completeHandshake P number zid rs1 cacheTime continuity readTime storeTime) := by
  unfold RetainedSecretsDatabase.completeHandshake
  by_cases hlate : storeTime < readTime + cacheTime * 1000
  · intro k
    rw [lookup_setRetainedSecret P db _ _ _ _ _ _ hlate,
      lookup_setRetainedSecret P db' _ _ _ _ _ _ hlate]
    by_cases hk : k = encodedKey P number zid
    · -- The row stored is made of the secrets of the row before.
      rw [if_pos hk, if_pos hk]
      unfold storedRow
      rcases h.rows (encodedKey P number zid) with ⟨hr, hr'⟩ | ⟨r, r', hr, hr', hcolumns⟩
      · rw [hr, hr']
        rfl
      · simp only [Row.columns, Prod.mk.injEq] at hcolumns
        simp only [hr, hr', Option.map_some, Row.columns, updateValues, hcolumns.2.1]
    · rw [if_neg hk, if_neg hk]
      exact h k
  · rw [setRetainedSecret_expired P db _ _ _ _ _ _ (by omega),
      setRetainedSecret_expired P db' _ _ _ _ _ _ (by omega)]
    exact h

/-- They return the same. -/
theorem getRetainedSecrets_eq (h : SameSecrets db db') (P : Platform) (number : String)
    (zid : Bytes) (now : Int) :
    db.getRetainedSecrets P number zid now = db'.getRetainedSecrets P number zid now := by
  rw [RetainedSecretsDatabase.getRetainedSecrets_eq, RetainedSecretsDatabase.getRetainedSecrets_eq]
  rcases h.rows (encodedKey P number zid) with ⟨hr, hr'⟩ | ⟨r, r', hr, hr', hcolumns⟩
  · rw [hr, hr']
  · simp only [Row.columns, Prod.mk.injEq] at hcolumns
    simp only [hr, hr', Option.toList, readSecrets, hcolumns.1, hcolumns.2.1, hcolumns.2.2]

end SameSecrets

end RetainedSecretsDatabase

/-! ## Handshakes as calls -/

namespace Resync

/-- A party that knows its peer by a number, and by an identity it has. -/
structure Knows (P : Platform) (who : Party → Endpoint) (cfg : Config) (p : Party) : Prop where
  platform_eq : cfg.platform = P
  number_eq : cfg.remoteNumber = (who p).number
  zid_eq : cfg.localZid = (who p.peer).zid

/-- A handshake: what the parties began it with, and how far it has come. -/
structure Handshake where
  cfg : Party → Config
  initiator : Party
  before : Party → RetainedSecretsDatabase
  network : Network

namespace Handshake

/-- The caches it has left. -/
def after (h : Handshake) (p : Party) : RetainedSecretsDatabase :=
  if p = h.initiator then h.network.initiator.database else h.network.responder.database

def outcome (h : Handshake) : Outcome :=
  if h.network.initiator.state = .handshakeComplete then .completed
  else if h.network.responder.state = .handshakeComplete then .halfCompleted
  else .failed

/-- It is between the two parties, over a network that loses, duplicates,
    reorders and delays, with keys the key agreement commutes on and secrets
    whose ids are not mistaken for others. -/
structure Conducts (C : Crypto) (P : Party → Platform) (who : Party → Endpoint) (h : Handshake) :
    Prop where
  knows : ∀ p, Knows (P p) who (h.cfg p) p
  reaches : ∃ legacy now, Network.Reaches C (h.cfg h.initiator) (h.cfg h.initiator.peer) Honest
    (Network.start C (h.cfg h.initiator.peer) (h.before h.initiator) (h.before h.initiator.peer)
      legacy now) h.network
  commute : (h.cfg h.initiator).keys.Commute C (h.cfg h.initiator.peer).keys
  noCollision : ∀ a b, Looked h.network a b →
    NoCollision C a b (fillers (h.cfg h.initiator) (h.cfg h.initiator.peer))

/-- A call has done to the caches what a handshake did, and says what the
    handshake was. -/
structure Records (P : Party → Platform) (who : Party → Endpoint) (h : Handshake) (c : Call) :
    Prop where
  initiator_eq : c.initiator = h.initiator
  outcome_eq : c.outcome = h.outcome
  secret_eq : ∀ m, c.outcome ≠ .failed → h.network.responder.masterSecret = some m →
    c.secret = m.rs1
  continuity_eq : ∀ a b, c.outcome ≠ .failed → Looked h.network a b →
    ∀ p, c.continuity p = (commonSecret a b).isSome
  after_eq : ∀ p, h.after p = callStep (P p) who h.before c p

variable {C : Crypto} {P : Party → Platform} {who : Party → Endpoint} {h : Handshake}

/-- A call in which the responder has stored. -/
theorem Records.of_stored {c : Call} {m : MasterSecret} {a b : RetainedSecrets}
    (hm : h.network.responder.masterSecret = some m) (hlooked : Looked h.network a b)
    (hinitiator : c.initiator = h.initiator) (houtcome : c.outcome = h.outcome)
    (hsecret : c.secret = m.rs1) (hcontinuity : ∀ p, c.continuity p = (commonSecret a b).isSome)
    (hafter : ∀ p, h.after p = callStep (P p) who h.before c p) : Records P who h c := by
  refine ⟨hinitiator, houtcome, fun m' _ hm' => ?_, fun a' b' _ hab p => ?_, hafter⟩
  · rw [hsecret, Option.some.inj (hm.symm.trans hm')]
  · rcases hlooked.unique hab with ⟨rfl, rfl⟩
    exact hcontinuity p

theorem peer_peer (p : Party) : p.peer.peer = p := by
  cases p with
  | alice => rfl
  | bob => rfl

/-- The invariant of the two, in a handshake. -/
theorem Conducts.running (hc : Conducts C P who h) :
    Running C (h.cfg h.initiator) (h.cfg h.initiator.peer) (h.before h.initiator)
      (h.before h.initiator.peer) h.network := by
  rcases hc.reaches with ⟨legacy, now, hreach⟩
  exact running_of_reaches legacy now hreach

/-- The responder completes first. -/
theorem Conducts.completesFirst (hc : Conducts C P who h)
    (hcomplete : h.network.initiator.state = .handshakeComplete) :
    h.network.responder.state = .handshakeComplete := by
  rcases hc.reaches with ⟨legacy, now, hreach⟩
  exact (completesFirst_of_reaches _ _ legacy now
    (hreach.mono (fun _ _ => Or.inl) (fun _ _ => Or.inl))).first hcomplete

/-- The master secrets are the same. -/
theorem Conducts.masterSecret_eq (hc : Conducts C P who h) {mI mR : MasterSecret}
    (hI : h.network.initiator.masterSecret = some mI)
    (hR : h.network.responder.masterSecret = some mR) : mI = mR :=
  hc.running.paired.masterSecret_eq hc.commute (fun a b ha hb => hc.noCollision a b ⟨ha, hb⟩) mI mR
    hI hR

/-- What a party stores under its configuration is what a call makes it store. -/
theorem Conducts.stored_eq (hc : Conducts C P who h) {p q : Party} (hpeer : q.peer = p)
    {secret : Bytes} {continuity : Bool} {before after : RetainedSecretsDatabase}
    (hstored : StoredAs (h.cfg p) (h.cfg q).localZid secret continuity before after) :
    ∃ (cacheTime : UInt32) (readTime storeTime : Int),
      after = before.completeHandshake (P p) (who p).number (who p).zid secret cacheTime.toNat
        continuity readTime storeTime := by
  rcases hstored with ⟨cacheTime, readTime, storeTime, hafter⟩
  have hknows := hc.knows p
  rw [hknows.platform_eq, hknows.number_eq, (hc.knows q).zid_eq, hpeer] at hafter
  exact ⟨cacheTime, readTime, storeTime, hafter⟩

/-- One value for the initiator of a call, and one for its responder. -/
def bySide {α : Type} (initiator : Party) (x y : α) (p : Party) : α :=
  if p = initiator then x else y

theorem bySide_initiator {α : Type} (initiator : Party) (x y : α) :
    bySide initiator x y initiator = x := if_pos rfl

theorem bySide_responder {α : Type} (initiator : Party) (x y : α) :
    bySide initiator x y initiator.peer = y := if_neg (peer_ne initiator)

/-- Every handshake was a call, whatever the network made of it and however far
    it has come. -/
theorem Conducts.exists_records (hc : Conducts C P who h) : ∃ c, Records P who h c := by
  have hrun := hc.running
  by_cases hresponder : h.network.responder.state = .handshakeComplete
  -- The responder has stored: the secret is that of its master secret, and both
  -- parties have looked.
  · rcases hrun.responder_stores hc.noCollision hresponder with
      ⟨m, a, b, hm, hlooked, hrests, hstoredR⟩
    rcases hc.stored_eq rfl hstoredR with ⟨cacheR, readR, storeR, hdbR⟩
    by_cases hinitiator : h.network.initiator.state = .handshakeComplete
    · rcases hrun.initiator_stores hc.noCollision hinitiator with
        ⟨m', a', b', hm', hlooked', _, hstoredI⟩
      rcases hlooked.unique hlooked' with ⟨rfl, rfl⟩
      rw [hc.masterSecret_eq hm' hm] at hstoredI
      rcases hc.stored_eq (peer_peer h.initiator) hstoredI with ⟨cacheI, readI, storeI, hdbI⟩
      refine ⟨⟨h.initiator, .completed, m.rs1, hrests.length_rs1, bySide h.initiator cacheI cacheR,
        fun _ => (commonSecret a' b').isSome, bySide h.initiator readI readR,
        bySide h.initiator storeI storeR⟩,
        .of_stored hm hlooked rfl (if_pos hinitiator).symm rfl (fun _ => rfl) (fun p => ?_)⟩
      -- Each side has an interval and clock readings of its own.
      unfold callStep
      simp only [Call.Stores, if_true]
      rcases peer_cases h.initiator p with rfl | rfl
      · simp only [after, if_true, bySide_initiator]
        exact hdbI
      · simp only [after, peer_ne, if_false, bySide_responder]
        exact hdbR
    -- The initiator has not come that far, and its cache is as it was.
    · refine ⟨⟨h.initiator, .halfCompleted, m.rs1, hrests.length_rs1, fun _ => cacheR,
        fun _ => (commonSecret a b).isSome, fun _ => readR, fun _ => storeR⟩,
        .of_stored hm hlooked rfl ?_ rfl (fun _ => rfl) (fun p => ?_)⟩
      · unfold outcome
        rw [if_neg hinitiator, if_pos hresponder]
      · unfold callStep
        rcases peer_cases h.initiator p with rfl | rfl
        · simp only [after, if_true, Call.Stores, ne_eq, not_true_eq_false, decide_false,
            Bool.false_eq_true, if_false]
          exact hrun.initiator_unstored hinitiator
        · simp only [after, peer_ne, if_false, Call.Stores, ne_eq, not_false_eq_true,
            decide_true, if_true]
          exact hdbR
  -- Nobody has stored anything, and the fields of the call do not matter.
  · have hinitiator : h.network.initiator.state ≠ .handshakeComplete :=
      fun hs => hresponder (hc.completesFirst hs)
    refine ⟨⟨h.initiator, .failed, List.replicate 32 0, List.length_replicate, fun _ => 0,
      fun _ => false, fun _ => 0, fun _ => 0⟩, rfl, ?_, fun _ hfailed => absurd rfl hfailed,
      fun _ _ hfailed => absurd rfl hfailed, fun p => ?_⟩
    · unfold outcome
      rw [if_neg hinitiator, if_neg hresponder]
    · unfold callStep
      simp only [Call.Stores, Bool.false_eq_true, if_false]
      rcases peer_cases h.initiator p with rfl | rfl
      · simp only [after, if_true]
        exact hrun.initiator_unstored hinitiator
      · simp only [after, peer_ne, if_false]
        exact hrun.responder_unstored hresponder

end Handshake

open Handshake

/-! ## One handshake after the other -/

/-- The caches after a party has marked its peer as verified. -/
def verified (P : Party → Platform) (who : Party → Endpoint) (q : Party)
    (caches : Party → RetainedSecretsDatabase) (p : Party) : RetainedSecretsDatabase :=
  if p = q then (caches p).setVerified (P p) (who p).number (who p).zid else caches p

/-- Handshakes that follow each other, each over the caches the one before has
    left, and between them the marks the two users make. -/
inductive Course (C : Crypto) (P : Party → Platform) (who : Party → Endpoint) :
    (Party → RetainedSecretsDatabase) → List Handshake → (Party → RetainedSecretsDatabase) → Prop
  | nil (caches : Party → RetainedSecretsDatabase) : Course C P who caches [] caches
  | handshake (h : Handshake) (hs : List Handshake) (caches : Party → RetainedSecretsDatabase)
      (hconducts : h.Conducts C P who) (hcourse : Course C P who h.after hs caches) :
      Course C P who h.before (h :: hs) caches
  | verify (q : Party) (before : Party → RetainedSecretsDatabase) (hs : List Handshake)
      (caches : Party → RetainedSecretsDatabase)
      (hcourse : Course C P who (verified P who q before) hs caches) :
      Course C P who before hs caches

section

variable {C : Crypto} {P : Party → Platform} {who : Party → Endpoint}
  {caches₀ caches : Party → RetainedSecretsDatabase} {hs : List Handshake} {calls : List Call}

theorem Course.exists_records (hcourse : Course C P who caches₀ hs caches) :
    ∃ calls, List.Forall₂ (Records P who) hs calls := by
  induction hcourse with
  | nil caches => exact ⟨[], .nil⟩
  | handshake h hs caches hconducts _ ih =>
      rcases hconducts.exists_records with ⟨c, hc⟩
      rcases ih with ⟨calls, hcalls⟩
      exact ⟨c :: calls, .cons hc hcalls⟩
  | verify _ _ _ _ _ ih => exact ih

/-- What calls do to the secrets of a cache depends on those only. -/
theorem afterCalls_same (P : Platform) {p : Party} {caches caches' :
      Party → RetainedSecretsDatabase} (hsame : SameSecrets (caches p) (caches' p)) :
    SameSecrets (afterCalls P who caches calls p) (afterCalls P who caches' calls p) := by
  -- Each call stores the same secret in both, or nothing in either.
  induction calls generalizing caches caches' with
  | nil => exact hsame
  | cons c calls ih =>
      refine ih ?_
      unfold callStep
      by_cases hstores : c.Stores p = true
      · rw [if_pos hstores, if_pos hstores]
        exact hsame.completeHandshake P _ _ _ _ _ _ _
      · rw [if_neg hstores, if_neg hstores]
        exact hsame

/-- The secrets in the caches after a course are those after its calls. -/
theorem Course.after_same (hcourse : Course C P who caches₀ hs caches)
    (hcalls : List.Forall₂ (Records P who) hs calls) (p : Party) :
    SameSecrets (caches p) (afterCalls (P p) who caches₀ calls p) := by
  -- The induction is on the course: a handshake takes the first of the calls, a
  -- mark takes none.
  induction hcourse generalizing calls with
  | nil caches =>
      cases hcalls with
      | nil => exact .refl _
  | handshake h hs caches _ _ ih =>
      cases hcalls with
      | @cons _ c _ calls hc hcalls =>
          refine (ih hcalls).trans (afterCalls_same (P p) ?_)
          rw [hc.after_eq p]
          exact .refl _
  | verify q before hs caches _ ih =>
      refine (ih hcalls).trans (afterCalls_same (P p) ?_)
      unfold verified
      by_cases hq : p = q
      · rw [if_pos hq]
        exact .setVerified _ _ _ _
      · rw [if_neg hq]
        exact .refl _

end

/-- After a course of handshakes, over whatever the network made of each and
    however far each came, the caches have the secrets that a list of calls
    leaves, and each call says what its handshake was. -/
theorem course_refines (C : Crypto) (P : Party → Platform) (who : Party → Endpoint)
    (caches₀ caches : Party → RetainedSecretsDatabase) (hs : List Handshake)
    (hcourse : Course C P who caches₀ hs caches) :
    ∃ calls, List.Forall₂ (Records P who) hs calls ∧
      ∀ p, SameSecrets (caches p) (afterCalls (P p) who caches₀ calls p) := by
  rcases hcourse.exists_records with ⟨calls, hcalls⟩
  exact ⟨calls, hcalls, hcourse.after_same hcalls⟩

/-! ## Stores that take effect -/

/-- A party has come to the end of a handshake. -/
def Handshake.Completed (h : Handshake) (p : Party) : Prop :=
  (if p = h.initiator then h.network.initiator.state else h.network.responder.state)
    = .handshakeComplete

/-- Whoever completed has something new in its cache: the secret had not expired
    when it was stored. -/
def Handshake.Effective (h : Handshake) : Prop := ∀ p, h.Completed p → h.after p ≠ h.before p

section

variable {C : Crypto} {P : Party → Platform} {who : Party → Endpoint}
  {caches₀ caches : Party → RetainedSecretsDatabase} {hs : List Handshake} {calls : List Call}

theorem Handshake.Records.completed {h : Handshake} {c : Call} (hc : Records P who h c)
    (hconducts : h.Conducts C P who) (p : Party) (hstores : c.Stores p = true) : h.Completed p := by
  have houtcome := hc.outcome_eq
  unfold Handshake.outcome at houtcome
  unfold Handshake.Completed
  unfold Call.Stores at hstores
  by_cases hinitiator : h.network.initiator.state = .handshakeComplete
  · -- Both have.
    rw [hinitiator, hconducts.completesFirst hinitiator, ite_self]
  -- Only the responder can have stored.
  · rw [if_neg hinitiator] at houtcome
    by_cases hresponder : h.network.responder.state = .handshakeComplete
    · rw [if_pos hresponder] at houtcome
      rw [houtcome, hc.initiator_eq] at hstores
      rw [if_neg (of_decide_eq_true hstores)]
      exact hresponder
    · rw [if_neg hresponder] at houtcome
      rw [houtcome] at hstores
      exact absurd hstores Bool.false_ne_true

theorem Handshake.Effective.unexpired {h : Handshake} (heffective : h.Effective) {c : Call}
    (hc : Records P who h c) (hconducts : h.Conducts C P who) (p : Party)
    (hstores : c.Stores p = true) : c.storeTime p < c.expiration p := by
  -- A store that comes too late leaves the cache as it was.
  by_contra hlate
  refine heffective p (hc.completed hconducts p hstores) ?_
  rw [hc.after_eq p, callStep, if_pos hstores]
  refine setRetainedSecret_expired _ _ _ _ _ _ _ _ ?_
  change c.expiration p ≤ c.storeTime p
  omega

/-- In a course whose stores take effect no secret was stored expired. -/
theorem Course.unexpired (hcourse : Course C P who caches₀ hs caches)
    (heffective : ∀ h ∈ hs, h.Effective) (hcalls : List.Forall₂ (Records P who) hs calls) :
    ∀ c ∈ calls, ∀ p, c.Stores p = true → c.storeTime p < c.expiration p := by
  induction hcourse generalizing calls with
  | nil caches =>
      cases hcalls with
      | nil => exact fun c hc => absurd hc List.not_mem_nil
  | verify _ _ _ _ _ ih => exact ih heffective hcalls
  | handshake h hs caches hconducts _ ih =>
      cases hcalls with
      | @cons _ c _ calls hc hcalls =>
          intro c' hc' p hstores
          rcases List.mem_cons.mp hc' with rfl | hc'
          · exact (heffective h List.mem_cons_self).unexpired hc hconducts p hstores
          · exact ih (fun h' hh' => heffective h' (List.mem_cons_of_mem h hh')) hcalls c' hc' p
              hstores

end

/-! ## Calls that both complete -/

/-- How the caller and the callee know each other. -/
def acquaintances : Party → Endpoint :=
  bySide .alice ⟨"+15550002", List.replicate 12 2⟩ ⟨"+15550001", List.replicate 12 1⟩

/-- A store that has not expired is one. -/
theorem completeHandshake_ne_empty (number : String) (zid rs1 : Bytes) (continuity : Bool) :
    RetainedSecretsDatabase.empty.completeHandshake .plain number zid rs1 ConfirmPacket.CACHE_TIME
      continuity 0 0 ≠ .empty := by
  intro hempty
  have hlookup := lookup_setRetainedSecret .plain .empty number zid rs1
    (0 + (ConfirmPacket.CACHE_TIME : Nat) * 1000) continuity 0 (by decide)
    (encodedKey .plain number zid)
  rw [if_pos rfl] at hlookup
  unfold RetainedSecretsDatabase.completeHandshake at hempty
  rw [hempty] at hlookup
  exact absurd hlookup (Option.some_ne_none _).symm

/-- The first call of two parties, which both complete. -/
theorem exists_firstCall :
    ∃ h : Handshake, h.Conducts jce (fun _ => .plain) acquaintances ∧ h.outcome = .completed ∧
      h.Effective ∧ h.before = fun _ => .empty := by
  rcases Undisturbed.reaches_stored (c := ⟨0, 0, 0, 0, 0⟩) (Undisturbed.ready 0) false 0 with
    ⟨n, zidI, rs1I, continuityI, zidR, rs1R, continuityR, hreach, hI, hR, _, hdbI, hdbR⟩
  have hrun := running_of_reaches false 0 hreach
  refine ⟨⟨bySide .alice Undisturbed.caller Undisturbed.callee, .alice, fun _ => .empty, n⟩,
    ⟨fun p => ?_, ⟨false, 0, hreach⟩, Undisturbed.commute, fun a b hlooked => ?_⟩, if_pos hI, ?_,
    rfl⟩
  · cases p with
    | alice => exact ⟨rfl, rfl, rfl⟩
    | bob => exact ⟨rfl, rfl, rfl⟩
  · exact hrun.noCollision compatible_strangers a b hlooked.initiator hlooked.responder
  -- Both caches were empty, and have a row each.
  · intro p _
    cases p with
    | alice =>
        change n.initiator.database ≠ .empty
        rw [hdbI]
        exact completeHandshake_ne_empty _ _ _ _
    | bob =>
        change n.responder.database ≠ .empty
        rw [hdbR]
        exact completeHandshake_ne_empty _ _ _ _

/-- A first call leaves both parties its secret. -/
theorem read_firstCall {h : Handshake} (hconducts : h.Conducts jce (fun _ => .plain) acquaintances)
    (houtcome : h.outcome = .completed) (heffective : h.Effective)
    (hbefore : h.before = fun _ => .empty) :
    ∃ x now, x ≠ [] ∧ ∀ p, (h.after p).getRetainedSecrets .plain (acquaintances p).number
      (acquaintances p).zid now = .ok ⟨some x, none⟩ := by
  rcases hconducts.exists_records with ⟨c, hrecords⟩
  have hstores : ∀ p, c.Stores p = true := by
    intro p
    unfold Call.Stores
    rw [hrecords.outcome_eq, houtcome]
  have hstore := fun p => heffective.unexpired hrecords hconducts p (hstores p)
  refine ⟨c.secret, min (c.expiration .alice) (c.expiration .bob), ?_, fun p => ?_⟩
  · intro hnil
    have hlen := c.secret_length
    rw [hnil] at hlen
    exact absurd hlen (by decide)
  -- The earlier of the two expirations is a moment at which neither has passed.
  · have hread := read_afterCalls .plain acquaintances (fun _ => []) [c]
      (fun _ => min (c.expiration .alice) (c.expiration .bob)) p
      (fun c' hc' _ => List.mem_singleton.mp hc' ▸ hstore p)
    have hstored : stored p [c] = [c] := by
      have hconcat := stored_concat p [] c
      rw [if_pos (hstores p)] at hconcat
      exact hconcat
    have hlast : ¬ min (c.expiration .alice) (c.expiration .bob)
        > (c.storeCall acquaintances p).expiration := by
      change ¬ _ > c.expiration p
      cases p with
      | alice => omega
      | bob => omega
    have hinflate : Base64.inflate Platform.plain.gunzip c.secret = c.secret := by
      unfold Base64.inflate
      exact ite_self _
    rw [hstored, List.map_singleton, List.singleton_append, current_cons, if_neg hlast,
      recovered_storeCall, hinflate] at hread
    rw [hrecords.after_eq p, hbefore]
    exact hread

/-- Eight bytes that are neither of two. -/
theorem exists_filler (x y : Bytes) : ∃ r : Bytes, r.length = 8 ∧ x ≠ r ∧ y ≠ r := by
  by_cases h0 : x = List.replicate 8 0 ∨ y = List.replicate 8 0
  · by_cases h1 : x = List.replicate 8 1 ∨ y = List.replicate 8 1
    · refine ⟨List.replicate 8 2, rfl, ?_, ?_⟩
      · rintro rfl
        rcases h0 with h0 | rfl
        · exact absurd h0 (by decide)
        · exact absurd h1 (by decide)
      · rintro rfl
        rcases h0 with rfl | h0
        · exact absurd h1 (by decide)
        · exact absurd h0 (by decide)
    · exact ⟨_, rfl, fun h => h1 (Or.inl h), fun h => h1 (Or.inr h)⟩
  · exact ⟨_, rfl, fun h => h0 (Or.inl h), fun h => h0 (Or.inr h)⟩

/-- A call of two who have a secret from before, with made-up ids that are not
    that of the secret. Both complete it. -/
theorem exists_nextCall {before : Party → RetainedSecretsDatabase} {x : Bytes} {now : Int}
    (hx : x ≠ []) (hread : ∀ p, (before p).getRetainedSecrets .plain (acquaintances p).number
      (acquaintances p).zid now = .ok ⟨some x, none⟩) :
    ∃ next : Handshake, next.Conducts jce (fun _ => .plain) acquaintances ∧
      next.before = before ∧ next.outcome = .completed ∧
      Looked next.network ⟨some x, none⟩ ⟨some x, none⟩ := by
  rcases exists_filler (derivative jce .initiator x) (derivative jce .responder x) with
    ⟨r, hr, hrI, hrR⟩
  -- The first secret is the only one that either has.
  have hinvolved : ∀ y, Involved ⟨some x, none⟩ ⟨some x, none⟩ y → y = x := by
    rintro y (hy | hy | hy | hy)
    · exact (Option.some.inj hy).symm
    · exact absurd hy (Option.some_ne_none y).symm
    · exact (Option.some.inj hy).symm
    · exact absurd hy (Option.some_ne_none y).symm
  -- Both fill the ids they have no secret for with the same eight bytes.
  let caller : Config := { Undisturbed.caller with random := ⟨r, r, r, r, hr, hr, hr, hr⟩ }
  let callee : Config := { Undisturbed.callee with random := ⟨r, r, r, r, hr, hr, hr, hr⟩ }
  have hkeyable : Keyable ⟨some x, none⟩ :=
    ⟨fun hnil => hx (Option.some.inj hnil), (Option.some_ne_none _).symm⟩
  have hnc : NoCollision jce ⟨some x, none⟩ ⟨some x, none⟩ (fillers caller callee) := by
    refine ⟨fun _ y z hy hz _ => (hinvolved y hy).trans (hinvolved z hz).symm, fun y hy => ?_,
      fun y hy => ?_⟩
    · rw [hinvolved y hy]
      exact ⟨hrI, hrI⟩
    · rw [hinvolved y hy]
      exact ⟨hrR, hrR⟩
  have hready : Undisturbed.Ready jce caller callee (before .alice) (before .bob) now
      ⟨some x, none⟩ ⟨some x, none⟩ :=
    ⟨hread .alice, hread .bob, hkeyable, hkeyable, Undisturbed.commute,
      (Undisturbed.ready 0).accepts, hnc⟩
  rcases Undisturbed.reaches_stored (c := ⟨0, 0, now, 0, 0⟩) hready false 0 with
    ⟨n, _, _, _, _, _, _, hreach, hI, _, hlooked, _, _⟩
  refine ⟨⟨bySide .alice caller callee, .alice, before, n⟩,
    ⟨fun p => ?_, ⟨false, 0, hreach⟩, Undisturbed.commute, fun a b hlooked' => ?_⟩, rfl, if_pos hI,
    hlooked⟩
  · cases p with
    | alice => exact ⟨rfl, rfl, rfl⟩
    | bob => exact ⟨rfl, rfl, rfl⟩
  · rw [(hlooked.unique hlooked').1, (hlooked.unique hlooked').2]
    exact hnc

/-- Two calls, with a mark in between that the caller makes. Both parties
    complete both, and the second call begins with the secret of the first. -/
theorem course_refines_secondCall : ∃ (h next : Handshake) (x : Bytes) (calls : List Call),
    h.outcome = .completed ∧ next.outcome = .completed ∧
    next.before = verified (fun _ => .plain) acquaintances .alice h.after ∧
    Looked next.network ⟨some x, none⟩ ⟨some x, none⟩ ∧
    List.Forall₂ (Records (fun _ => .plain) acquaintances) [h, next] calls ∧
    ∀ p, SameSecrets (next.after p) (afterCalls .plain acquaintances h.before calls p) := by
  rcases exists_firstCall with ⟨h, hconducts, houtcome, heffective, hbefore⟩
  rcases read_firstCall hconducts houtcome heffective hbefore with ⟨x, now, hx, hread⟩
  -- The mark changes nothing of what is looked up.
  have hmarked : ∀ p, (verified (fun _ => .plain) acquaintances .alice h.after p).getRetainedSecrets
      .plain (acquaintances p).number (acquaintances p).zid now = .ok ⟨some x, none⟩ := by
    intro p
    rw [← hread p]
    refine SameSecrets.getRetainedSecrets_eq ?_ _ _ _ _
    unfold verified
    by_cases hp : p = .alice
    · rw [if_pos hp]
      exact .setVerified _ _ _ _
    · rw [if_neg hp]
      exact .refl _
  rcases exists_nextCall hx hmarked with ⟨next, hnext, hbetween, hcompleted, hlooked⟩
  have hcourse : Course jce (fun _ => .plain) acquaintances
      (verified (fun _ => .plain) acquaintances .alice h.after) [next] next.after := by
    rw [← hbetween]
    exact .handshake next [] _ hnext (.nil _)
  rcases course_refines jce (fun _ => .plain) acquaintances h.before next.after [h, next]
    (.handshake h [next] _ hconducts (.verify .alice _ _ _ hcourse)) with ⟨calls, hcalls, hsame⟩
  exact ⟨h, next, x, calls, houtcome, hcompleted, hbetween, hlooked, hcalls, hsame⟩

end Resync

end RedPhone
