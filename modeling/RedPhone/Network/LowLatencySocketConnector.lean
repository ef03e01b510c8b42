import Mathlib.Data.List.Perm.Basic
import Mathlib.Logic.Function.Basic

/-!
# The First Connection That Completes

A server has several addresses. A channel is opened for each, all of them are
connected at once, and the first connection that completes is used. A selector
waits for them: each call returns the channels that became connectable or
failed since the last one, and none if nothing happened for ten seconds.

A connection that fails later is taken out of the running, and its channel is
closed by the failure. What is left to the code is to close the others when one
has completed, and it does. There are three ways out that were forgotten. If a
connection throws as soon as it is begun, that is the end of all of them, and
nobody closes the channels. Nobody closes them after a timeout either. And the
channels of one call are met in the order of a hash set, so that of two that
have completed since the last call the second one may be used.

## Main definitions

* `ConnectOutcome`: What becomes of the connection to an address.
* `Batch`: What one call of the selector returns.
* `LowLatencySocketConnector.connect`: The result, and the channels it leaves.
* `Possible`: What a selector can return.
* `Conforms`: The first connection that completes, and no other channel.
* `FailsOver`: The ways this can go right.

## Theorems

* `iterate_spec`, `waitForFirstChannel_spec`: What is returned and what is
  closed, for one call and for all.
* `failover_iff`: Both directions.
* `failover_fails`: The three ways out.
-/

namespace RedPhone

/-- What becomes of the connection to an address. -/
inductive ConnectOutcome
  /-- `connect` throws, and closes the channel. -/
  | throws (message : String)
  | fails
  | succeeds
  | silent
  deriving DecidableEq, Repr

/-- What a call of `select` returns: the addresses that completed or failed
    since the last one, and the order in which their keys are met. -/
structure Batch where
  arrived : List Nat
  met : List Nat
  met_perm : met.Perm arrived
  arrived_ne : arrived ≠ []

/-- A channel, and its key with the selector. -/
structure Channel where
  isOpen : Bool
  /-- The key is in the set of the selector. -/
  registered : Bool
  cancelled : Bool
  deriving DecidableEq, Repr

/-- `key.isValid()`. Closing a channel cancels its key. -/
def Channel.isValid (c : Channel) : Bool := c.isOpen && !c.cancelled

/-- A channel that was opened and registered. -/
def Channel.pending : Channel := ⟨true, true, false⟩

/-- The channels, one for each address. -/
structure LowLatencySocketConnector where
  count : Nat
  channel : Nat → Channel

namespace LowLatencySocketConnector

def constructSocketChannels (count : Nat) : LowLatencySocketConnector :=
  ⟨count, fun _ => .pending⟩

def close (s : LowLatencySocketConnector) (i : Nat) : LowLatencySocketConnector :=
  { s with channel := Function.update s.channel i { s.channel i with isOpen := false } }

/-- `key.cancel()`. -/
def cancel (s : LowLatencySocketConnector) (i : Nat) : LowLatencySocketConnector :=
  { s with channel := Function.update s.channel i { s.channel i with cancelled := true } }

/-- What `select` does to the keys: those that are not valid are taken out. -/
def select (s : LowLatencySocketConnector) : LowLatencySocketConnector :=
  { s with channel := fun i =>
      { s.channel i with registered := (s.channel i).registered && (s.channel i).isValid } }

def hasValidKeys (s : LowLatencySocketConnector) : Bool :=
  (List.range s.count).any fun i => (s.channel i).registered && (s.channel i).isValid

def closeAllButChannel (s : LowLatencySocketConnector) (kept : Nat) : LowLatencySocketConnector :=
  { s with channel := fun i =>
      if (s.channel i).registered ∧ i ≠ kept then { s.channel i with isOpen := false }
      else s.channel i }

variable (outcomes : List ConnectOutcome)

/-- `finishConnect`, which closes the channel when it throws. -/
def isChannelConnected (s : LowLatencySocketConnector) (i : Nat) :
    LowLatencySocketConnector × Bool :=
  match outcomes[i]? with
  | some .succeeds => (s, true)
  | some .fails => (s.close i, false)
  | _ => (s, false)

/-- Connect one after the other, up to the first exception. -/
def connectChannels (s : LowLatencySocketConnector) :
    List Nat → Except String Unit × LowLatencySocketConnector
  | [] => (.ok (), s)
  | i :: is => match outcomes[i]? with
    -- The exception leaves the loop, and the channels before it stay open.
    | some (.throws message) => (.error message, s.close i)
    | _ => connectChannels s is

/-- The keys of one call. -/
def iterate (s : LowLatencySocketConnector) : List Nat → LowLatencySocketConnector × Option Nat
  | [] => (s, none)
  | key :: keys =>
    -- A key that was closed meanwhile is passed over.
    if (s.channel key).isValid then
      match s.isChannelConnected outcomes key with
      | (s, true) => (s.closeAllButChannel key, some key)
      | (s, false) => iterate (s.cancel key) keys
    else iterate s keys

/-- The loop, with what each call of `select` returns. When there is nothing
    more to return, it times out. -/
def waitForFirstChannel (s : LowLatencySocketConnector) :
    List Batch → Except String Nat × LowLatencySocketConnector
  | [] =>
    if s.hasValidKeys then (.error "Connect timed out!", s.select)
    else (.error "All connections failed!", s)
  | batch :: batches =>
    if s.hasValidKeys then
      match s.select.iterate outcomes batch.met with
      | (s, some key) => (.ok key, s)
      | (s, none) => waitForFirstChannel s batches
    else (.error "All connections failed!", s)

/-- The address of the socket that is returned, or the exception, and the
    channels as they are left. -/
def connect (batches : List Batch) : Except String Nat × LowLatencySocketConnector :=
  let s := constructSocketChannels outcomes.length
  match s.connectChannels outcomes (List.range outcomes.length) with
  | (.error message, s) => (.error message, s)
  | (.ok _, s) => s.waitForFirstChannel outcomes batches

/-- The connection to an address completes. -/
def completes (i : Nat) : Bool := outcomes[i]? = some .succeeds

/-- Every address is returned at most once, and it has failed or completed. -/
def Possible (batches : List Batch) : Prop :=
  (batches.flatMap Batch.arrived).Nodup ∧ ∀ i ∈ batches.flatMap Batch.arrived,
    outcomes[i]? = some .fails ∨ outcomes[i]? = some .succeeds

/-- The first address whose connection completes before a timeout. -/
def firstCompleted (batches : List Batch) : Option Nat :=
  (batches.flatMap Batch.arrived).find? (completes outcomes)

/-- The socket of the first address whose connection completes is returned, and
    an exception is thrown if there is none. No other channel is left open. -/
def Conforms (batches : List Batch) : Prop :=
  (match firstCompleted outcomes batches with
    | some i => (connect outcomes batches).1 = .ok i ∧
      ((connect outcomes batches).2.channel i).isOpen
    | none => ∃ message, (connect outcomes batches).1 = .error message) ∧
    ∀ i < outcomes.length, ((connect outcomes batches).2.channel i).isOpen →
      (connect outcomes batches).1 = .ok i

/-- The only address throws, or none does, some connection completes or all of
    them fail before a timeout, and the one that is met first of those that
    complete is the first of them. -/
def FailsOver (batches : List Batch) : Prop :=
  (∃ message, outcomes = [.throws message]) ∨
    (∀ message, .throws message ∉ outcomes) ∧
      ((∃ i, firstCompleted outcomes batches = some i) ∨
        ∀ i < outcomes.length, i ∈ batches.flatMap Batch.arrived) ∧
      (batches.flatMap Batch.met).find? (completes outcomes) = firstCompleted outcomes batches

/-! ## One call of the selector -/

/-- Some of the connections have failed, and the others are pending. -/
structure Waiting (n : Nat) (s : LowLatencySocketConnector) (done : List Nat) : Prop where
  count : s.count = n
  closed : ∀ i ∈ done, (s.channel i).isOpen = false
  pending : ∀ i < n, i ∉ done → s.channel i = .pending

theorem waiting_select {n : Nat} {s : LowLatencySocketConnector} {done : List Nat}
    (h : Waiting n s done) : Waiting n s.select done where
  count := h.count
  closed := h.closed
  pending := by
    intro i hi hdone
    have hpending := h.pending i hi hdone
    simp only [select, hpending]
    rfl

/-- A connection that fails is taken out. -/
theorem waiting_cancel {n : Nat} {s : LowLatencySocketConnector} {done : List Nat} {key : Nat}
    (h : Waiting n s done) : Waiting n ((s.close key).cancel key) (done ++ [key]) where
  count := h.count
  closed := by
    intro i hi
    -- The channel that has just failed is closed too, the others are as before.
    by_cases hkey : i = key
    · rw [hkey]
      simp only [cancel, close, Function.update_self]
    · have hdone : i ∈ done := by
        rcases List.mem_append.mp hi with hi | hi
        · exact hi
        · exact absurd (List.mem_singleton.mp hi) hkey
      simp only [cancel, close, Function.update_of_ne hkey]
      exact h.closed i hdone
  pending := by
    intro i hi hdone
    rw [List.mem_append, List.mem_singleton, not_or] at hdone
    simp only [cancel, close, Function.update_of_ne hdone.2]
    exact h.pending i hi hdone.1

/-- Keys the selector can return now. -/
def Fresh (n : Nat) (done keys : List Nat) : Prop :=
  keys.Nodup ∧ ∀ i ∈ keys, i < n ∧ i ∉ done ∧
    (outcomes[i]? = some .fails ∨ outcomes[i]? = some .succeeds)

/-- The first key that has completed is returned and the other channels are
    closed, and if there is none all of them are taken out. -/
theorem iterate_spec {n : Nat} {s : LowLatencySocketConnector} {done keys : List Nat}
    (h : Waiting n s done) (hkeys : Fresh outcomes n done keys) :
    match keys.find? (completes outcomes) with
    | some k => (s.iterate outcomes keys).2 = some k ∧
        ∀ i < n, ((s.iterate outcomes keys).1.channel i).isOpen ↔ i = k
    | none => (s.iterate outcomes keys).2 = none ∧
        Waiting n (s.iterate outcomes keys).1 (done ++ keys) := by
  -- On the keys in the order they are met; the failed ones pile up in `done`.
  induction keys generalizing s done with
  | nil =>
      rw [List.append_nil]
      exact ⟨rfl, h⟩
  | cons key keys ih =>
      rcases hkeys with ⟨hnodup, hkeys⟩
      rw [List.nodup_cons] at hnodup
      rcases hkeys key List.mem_cons_self with ⟨hkey, hnew, houtcome⟩
      have hpending := h.pending key hkey hnew
      have hvalid : (s.channel key).isValid = true := by
        rw [hpending]
        rfl
      rw [iterate, if_pos hvalid]
      rcases houtcome with hfails | hsucceeds
      · -- The key is taken out, and is in no other place.
        have hnot : completes outcomes key = false := by
          unfold completes
          rw [hfails]
          rfl
        have hrest : Fresh outcomes n (done ++ [key]) keys := by
          refine ⟨hnodup.2, fun i hi => ?_⟩
          rcases hkeys i (List.mem_cons_of_mem key hi) with ⟨hlt, hdone, hends⟩
          refine ⟨hlt, ?_, hends⟩
          rw [List.mem_append, List.mem_singleton, not_or]
          exact ⟨hdone, fun hsame => hnodup.1 (hsame ▸ hi)⟩
        have hlast := ih (waiting_cancel h) hrest
        rw [List.append_assoc, List.singleton_append] at hlast
        rw [List.find?_cons, hnot]
        simp only [isChannelConnected, hfails]
        exact hlast
      · have hdone : completes outcomes key = true := by
          unfold completes
          rw [hsucceeds]
          rfl
        rw [List.find?_cons, hdone]
        simp only [isChannelConnected, hsucceeds]
        refine ⟨trivial, fun i hi => ?_⟩
        -- Every other channel is closed now, or failed before and was closed then.
        unfold closeAllButChannel
        by_cases hsame : i = key
        · simp only [hsame, ne_eq, not_true_eq_false, and_false, if_false, hpending, iff_true]
          rfl
        · simp only [hsame, ne_eq, not_false_eq_true, and_true, iff_false, Bool.not_eq_true]
          by_cases hover : i ∈ done
          · have hclosed := h.closed i hover
            split_ifs
            · rfl
            · exact hclosed
          · rw [h.pending i hi hover]
            rfl

/-! ## All calls -/

/-- There is a key as long as not every connection has failed. -/
theorem hasValidKeys_iff {n : Nat} {s : LowLatencySocketConnector} {done : List Nat}
    (h : Waiting n s done) : s.hasValidKeys = true ↔ ∃ i < n, i ∉ done := by
  unfold hasValidKeys
  rw [List.any_eq_true, h.count]
  constructor
  · rintro ⟨i, hi, hvalid⟩
    refine ⟨i, List.mem_range.mp hi, fun hdone => ?_⟩
    rw [Channel.isValid, h.closed i hdone, Bool.false_and, Bool.and_false] at hvalid
    exact Bool.false_ne_true hvalid
  · rintro ⟨i, hi, hdone⟩
    refine ⟨i, List.mem_range.mpr hi, ?_⟩
    rw [h.pending i hi hdone]
    rfl

/-- How the loop ends: with the connection that is met first of those that
    complete, with every channel closed, or with one that is still open. -/
theorem waitForFirstChannel_spec {n : Nat} {s : LowLatencySocketConnector} {done : List Nat}
    {batches : List Batch} (h : Waiting n s done)
    (hbatches : Fresh outcomes n done (batches.flatMap Batch.met)) :
    match (batches.flatMap Batch.met).find? (completes outcomes) with
    | some k => (s.waitForFirstChannel outcomes batches).1 = .ok k ∧
        ∀ i < n, ((s.waitForFirstChannel outcomes batches).2.channel i).isOpen ↔ i = k
    | none => (∃ message, (s.waitForFirstChannel outcomes batches).1 = .error message) ∧
        ((∃ i < n, ((s.waitForFirstChannel outcomes batches).2.channel i).isOpen) ↔
          ∃ i < n, i ∉ done ++ batches.flatMap Batch.met) := by
  induction batches generalizing s done with
  | nil =>
      rw [waitForFirstChannel, List.flatMap_nil, List.append_nil]
      -- The timeout leaves open what is still pending; with no key left nothing is.
      by_cases hvalid : s.hasValidKeys = true
      · rw [if_pos hvalid]
        rcases (hasValidKeys_iff h).mp hvalid with ⟨i, hi, hdone⟩
        refine ⟨⟨_, rfl⟩, iff_of_true ⟨i, hi, ?_⟩ ⟨i, hi, hdone⟩⟩
        rw [(waiting_select h).pending i hi hdone]
        rfl
      · rw [if_neg hvalid]
        rw [hasValidKeys_iff h] at hvalid
        refine ⟨⟨_, rfl⟩, iff_of_false ?_ hvalid⟩
        rintro ⟨i, hi, hopen⟩
        refine hvalid ⟨i, hi, fun hdone => ?_⟩
        rw [h.closed i hdone] at hopen
        exact Bool.false_ne_true hopen
  | cons batch batches ih =>
      rw [List.flatMap_cons] at hbatches ⊢
      rcases hbatches with ⟨hnodup, hkeys⟩
      have hfirst : Fresh outcomes n done batch.met :=
        ⟨(List.nodup_append.mp hnodup).1, fun i hi => hkeys i (List.mem_append_left _ hi)⟩
      -- What is returned is a key that is valid.
      have hvalid : s.hasValidKeys = true := by
        rw [hasValidKeys_iff h]
        have hne : batch.met ≠ [] := fun hnil =>
          batch.arrived_ne (List.nil_perm.mp (hnil ▸ batch.met_perm))
        rcases List.exists_mem_of_ne_nil _ hne with ⟨i, hi⟩
        exact ⟨i, (hfirst.2 i hi).1, (hfirst.2 i hi).2.1⟩
      have hcall := iterate_spec outcomes (waiting_select h) hfirst
      rw [waitForFirstChannel, if_pos hvalid, List.find?_append]
      cases hrun : s.select.iterate outcomes batch.met with
      | mk s' found =>
          rw [hrun] at hcall
          -- A call that finds no completed connection leaves the rest to the next.
          cases hfind : batch.met.find? (completes outcomes) with
          | some k =>
              rw [hfind] at hcall
              rcases hcall with ⟨hfound, hopen⟩
              simp only [] at hfound
              rw [hfound]
              exact ⟨rfl, hopen⟩
          | none =>
              rw [hfind] at hcall
              rcases hcall with ⟨hfound, hwaiting⟩
              simp only [] at hfound
              rw [hfound, Option.none_or]
              have hrest : Fresh outcomes n (done ++ batch.met) (batches.flatMap Batch.met) := by
                rw [List.nodup_append] at hnodup
                refine ⟨hnodup.2.1, fun i hi => ?_⟩
                rcases hkeys i (List.mem_append_right _ hi) with ⟨hlt, hdone, hends⟩
                refine ⟨hlt, fun hmem => ?_, hends⟩
                rcases List.mem_append.mp hmem with hmem | hmem
                · exact hdone hmem
                · exact hnodup.2.2 i hmem i hi rfl
              have hlast := ih hwaiting hrest
              rw [List.append_assoc] at hlast
              exact hlast

/-- Without an exception all of the channels are connected. -/
theorem connectChannels_ok (s : LowLatencySocketConnector) (is : List Nat)
    (h : ∀ message, .throws message ∉ outcomes) : s.connectChannels outcomes is = (.ok (), s) := by
  induction is with
  | nil => rfl
  | cons i is ih =>
      rw [connectChannels]
      split
      · rename_i message hthrows
        exact absurd (List.mem_of_getElem? hthrows) (h message)
      · exact ih

/-- With one it is thrown on, and no channel is closed but its own. -/
theorem connectChannels_error (s : LowLatencySocketConnector) (is : List Nat)
    (h : ∃ i ∈ is, ∃ message, outcomes[i]? = some (.throws message)) :
    ∃ i message, outcomes[i]? = some (.throws message) ∧
      s.connectChannels outcomes is = (.error message, s.close i) := by
  induction is with
  | nil =>
      rcases h with ⟨i, hi, _⟩
      exact absurd hi List.not_mem_nil
  | cons i is ih =>
      rw [connectChannels]
      split
      · rename_i message hthrows
        exact ⟨i, message, hthrows, rfl⟩
      · rename_i hother
        -- The one that throws is further back.
        refine ih ?_
        rcases h with ⟨j, hj, message, hthrows⟩
        rcases List.mem_cons.mp hj with rfl | hj
        · exact absurd hthrows (hother message)
        · exact ⟨j, hj, message, hthrows⟩

/-! ## The connector -/

/-- The keys of all calls are the addresses that have arrived. -/
theorem met_perm_arrived (batches : List Batch) :
    (batches.flatMap Batch.met).Perm (batches.flatMap Batch.arrived) := by
  induction batches with
  | nil => exact List.Perm.refl []
  | cons batch batches ih =>
      rw [List.flatMap_cons, List.flatMap_cons]
      exact batch.met_perm.append ih

variable {outcomes}

theorem fresh_of_possible {batches : List Batch} (h : Possible outcomes batches) :
    Fresh outcomes outcomes.length [] (batches.flatMap Batch.met) := by
  -- A selector hands out the keys of a call in any order, and it is the arrival
  -- that is distinct.
  have hperm := met_perm_arrived batches
  refine ⟨hperm.nodup_iff.mpr h.1, fun i hi => ?_⟩
  have hends := h.2 i (hperm.mem_iff.mp hi)
  refine ⟨?_, List.not_mem_nil, hends⟩
  rcases hends with hends | hends <;> exact (List.getElem?_eq_some_iff.mp hends).1

theorem waiting_constructSocketChannels (n : Nat) : Waiting n (constructSocketChannels n) [] where
  count := rfl
  closed := fun _ h => absurd h List.not_mem_nil
  pending := fun _ _ _ => rfl

/-- With no exception at once: the connection that is met first has to be the
    first, or all of them have to fail. -/
theorem conforms_of_connected {batches : List Batch} (h : Possible outcomes batches)
    (hnone : ∀ message, .throws message ∉ outcomes) : Conforms outcomes batches ↔
      ((∃ i, firstCompleted outcomes batches = some i) ∨
        ∀ i < outcomes.length, i ∈ batches.flatMap Batch.arrived) ∧
      (batches.flatMap Batch.met).find? (completes outcomes)
        = firstCompleted outcomes batches := by
  have hperm := met_perm_arrived batches
  have hconnect : connect outcomes batches
      = (constructSocketChannels outcomes.length).waitForFirstChannel outcomes batches := by
    rw [connect, connectChannels_ok outcomes _ _ hnone]
  have hspec := waitForFirstChannel_spec outcomes (waiting_constructSocketChannels _)
    (fresh_of_possible h)
  rw [← hconnect] at hspec
  unfold Conforms
  cases hmet : (batches.flatMap Batch.met).find? (completes outcomes) with
  | some k =>
      rw [hmet] at hspec
      rcases hspec with ⟨hresult, hopen⟩
      have hk : k < outcomes.length :=
        ((fresh_of_possible h).2 k (List.mem_of_find?_eq_some hmet)).1
      cases hfirst : firstCompleted outcomes batches with
      | none =>
          -- What is met has arrived.
          have hcompletes := List.find?_some hmet
          have harrived := hperm.mem_iff.mp (List.mem_of_find?_eq_some hmet)
          exact absurd hcompletes (List.find?_eq_none.mp hfirst k harrived)
      | some j =>
          rw [hresult]
          simp only [Except.ok.injEq, Option.some.injEq]
          constructor
          · rintro ⟨⟨hsame, _⟩, _⟩
            exact ⟨Or.inl ⟨j, rfl⟩, hsame⟩
          · rintro ⟨_, rfl⟩
            exact ⟨⟨rfl, (hopen k hk).mpr rfl⟩, fun i hi hisOpen => ((hopen i hi).mp hisOpen).symm⟩
  | none =>
      rw [hmet] at hspec
      rcases hspec with ⟨⟨message, hresult⟩, hopen⟩
      have hfirst : firstCompleted outcomes batches = none := by
        refine List.find?_eq_none.mpr fun i hi => ?_
        exact List.find?_eq_none.mp hmet i (hperm.mem_iff.mpr hi)
      rw [hfirst, hresult]
      simp only [reduceCtorEq, exists_false, false_or, and_true, Except.error.injEq, exists_eq',
        true_and, imp_false]
      rw [List.nil_append] at hopen
      -- A channel is left open exactly if its connection has not failed.
      constructor
      · intro hclosed i hi
        by_contra hmissing
        rcases hopen.mpr ⟨i, hi, fun hmem => hmissing (hperm.mem_iff.mp hmem)⟩ with ⟨j, hj, hisOpen⟩
        exact hclosed j hj hisOpen
      · intro hall i hi hisOpen
        rcases hopen.mp ⟨i, hi, hisOpen⟩ with ⟨j, hj, hmissing⟩
        exact hmissing (hperm.mem_iff.mpr (hall j hj))

/-- With an exception at once there must be no other address. -/
theorem conforms_of_thrown {batches : List Batch} (h : Possible outcomes batches)
    (hthrows : ∃ message, .throws message ∈ outcomes) :
    Conforms outcomes batches ↔ outcomes.length = 1 := by
  have hexists : ∃ i ∈ List.range outcomes.length, ∃ message,
      outcomes[i]? = some (.throws message) := by
    rcases hthrows with ⟨message, hmem⟩
    rcases List.getElem?_of_mem hmem with ⟨i, hi⟩
    exact ⟨i, List.mem_range.mpr (List.getElem?_eq_some_iff.mp hi).1, message, hi⟩
  rcases connectChannels_error outcomes (constructSocketChannels outcomes.length)
    (List.range outcomes.length) hexists with ⟨i, message, hi, hrun⟩
  have hlt : i < outcomes.length := (List.getElem?_eq_some_iff.mp hi).1
  have hconnect : connect outcomes batches
      = (.error message, (constructSocketChannels outcomes.length).close i) := by
    rw [connect, hrun]
  have hopen : ∀ j, (((constructSocketChannels outcomes.length).close i).channel j).isOpen
      ↔ j ≠ i := by
    intro j
    by_cases hsame : j = i
    · simp only [close, hsame, Function.update_self, Bool.false_eq_true, ne_eq, not_true_eq_false]
    · simp only [close, Function.update_of_ne hsame, ne_eq, hsame, not_false_eq_true, iff_true]
      rfl
  unfold Conforms
  rw [hconnect]
  simp only [hopen, reduceCtorEq, imp_false, false_and]
  constructor
  · rintro ⟨_, hclosed⟩
    by_contra hmore
    -- Another address has a channel that is open.
    by_cases hzero : i = 0
    · exact hclosed 1 (by omega) (by omega)
    · exact hclosed 0 (by omega) (by omega)
  · intro hone
    refine ⟨?_, fun j hj hne => hne (by omega)⟩
    have hfirst : firstCompleted outcomes batches = none := by
      refine List.find?_eq_none.mpr fun j hj hcompletes => ?_
      have hends := h.2 j hj
      have hjlt : j < outcomes.length := by
        rcases hends with hends | hends <;> exact (List.getElem?_eq_some_iff.mp hends).1
      have hsame : j = i := by omega
      rw [completes, hsame, hi] at hcompletes
      exact nomatch of_decide_eq_true hcompletes
    rw [hfirst]
    exact ⟨message, rfl⟩

variable (outcomes)

/-- For every list of addresses, every pattern of outcomes, every order of
    arrival and every way the selector can report it: the socket of the
    connection that completes first is returned, or an exception if there is
    none, with no other channel left open, exactly if no address throws at once
    but an only one, some connection completes or all of them fail before a
    timeout, and the completed one that is met first is the first. -/
theorem failover_iff (batches : List Batch) (h : Possible outcomes batches) :
    Conforms outcomes batches ↔ FailsOver outcomes batches := by
  unfold FailsOver
  by_cases hthrows : ∃ message, .throws message ∈ outcomes
  · rw [conforms_of_thrown h hthrows]
    rcases hthrows with ⟨message, hmem⟩
    constructor
    · intro hone
      rcases List.length_eq_one_iff.mp hone with ⟨outcome, rfl⟩
      exact Or.inl ⟨message, congrArg (fun o => [o]) (List.mem_singleton.mp hmem).symm⟩
    · rintro (⟨message, rfl⟩ | ⟨hnone, _⟩)
      · rfl
      · exact absurd hmem (hnone message)
  · have hnone : ∀ message, .throws message ∉ outcomes := fun message hmem =>
      hthrows ⟨message, hmem⟩
    rw [conforms_of_connected h hnone]
    constructor
    · exact fun hboth => Or.inr ⟨hnone, hboth⟩
    · rintro (⟨message, rfl⟩ | ⟨_, hboth⟩)
      · exact absurd (List.mem_singleton_self _) (hnone message)
      · exact hboth

/-- One connection fails, the next one completes, and one never answers. -/
theorem failover_iff_second :
    Conforms [.fails, .succeeds, .silent]
        [⟨[0], [0], List.Perm.refl _, by decide⟩, ⟨[1], [1], List.Perm.refl _, by decide⟩] ↔
      FailsOver [.fails, .succeeds, .silent]
        [⟨[0], [0], List.Perm.refl _, by decide⟩, ⟨[1], [1], List.Perm.refl _, by decide⟩] :=
  failover_iff [.fails, .succeeds, .silent]
    [⟨[0], [0], List.Perm.refl _, by decide⟩, ⟨[1], [1], List.Perm.refl _, by decide⟩]
    (by unfold Possible; decide)

/-- The first address refuses at once, though the second one would answer; the
    only address never answers; and two connections complete between two calls
    of the selector, of which the second is met first. -/
theorem failover_fails :
    (∃ batches, Possible [.throws "Connection refused", .succeeds] batches ∧
      firstCompleted [.throws "Connection refused", .succeeds] batches = some 1 ∧
      (connect [.throws "Connection refused", .succeeds] batches).1
        = .error "Connection refused" ∧
      ((connect [.throws "Connection refused", .succeeds] batches).2.channel 1).isOpen = true ∧
      ¬ Conforms [.throws "Connection refused", .succeeds] batches) ∧
    (Possible [.silent] [] ∧ (connect [.silent] []).1 = .error "Connect timed out!" ∧
      ((connect [.silent] []).2.channel 0).isOpen = true ∧ ¬ Conforms [.silent] []) ∧
    ∃ batches, Possible [.succeeds, .succeeds] batches ∧
      firstCompleted [.succeeds, .succeeds] batches = some 0 ∧
      (connect [.succeeds, .succeeds] batches).1 = .ok 1 ∧
      ¬ Conforms [.succeeds, .succeeds] batches := by
  have hrefused : Possible [.throws "Connection refused", .succeeds]
      [⟨[1], [1], List.Perm.refl _, by decide⟩] := by
    unfold Possible
    decide
  have hsilent : Possible [.silent] [] := by
    unfold Possible
    decide
  -- Both have completed, and the hash set names the second one first.
  have hswapped : Possible [.succeeds, .succeeds]
      [⟨[0, 1], [1, 0], List.Perm.swap _ _ _, by decide⟩] := by
    unfold Possible
    decide
  refine ⟨⟨_, hrefused, rfl, rfl, rfl, fun h => ?_⟩, ⟨hsilent, rfl, rfl, fun h => ?_⟩,
    _, hswapped, rfl, rfl, fun h => ?_⟩
  · exact nomatch h.1.1
  · exact nomatch h.2 0 (by decide) rfl
  · exact nomatch h.1.1

end LowLatencySocketConnector

end RedPhone
