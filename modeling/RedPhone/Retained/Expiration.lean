import RedPhone.Lib.Run
import RedPhone.Retained.Database

/-!
# How Long a Secret Is Kept

A row has room for two secrets but only one expiration, which every store
replaces. The newer secret is therefore governed by its own expiration, and
the older one by the expiration of the secret that displaced it, whatever its
own was. `getRetainedSecrets_history` says this for every history, by naming
the secrets an endpoint returns outright: the last two stores that took
effect there, while the last one's expiration has not passed.

## Main definitions

* `StoreCall`: The arguments of one `setRetainedSecret`, and its clock.
* `cacheAfter`: The cache after a list of stores.
* `stores`: The stores that took effect at an endpoint.
* `recovered`: What reading a stored secret back gives.
* `current`: The secrets an endpoint has at a clock reading.

## Theorems

* `lookup_cacheAfter`: The row an endpoint has after a history.
* `getRetainedSecrets_history`: The secrets an endpoint returns.
* `getRetainedSecrets_current`: No secret outlives the last expiration.
* `getRetainedSecrets_outlives`: The older secret can outlive its own.
-/

namespace RedPhone

namespace RetainedSecretsDatabase

/-- One call of `setRetainedSecret`. -/
structure StoreCall where
  number : String
  zid : Bytes
  rs1 : Bytes
  expiration : Int
  continuity : Bool
  now : Int

/-- The cache after a list of stores, from an empty one. -/
def cacheAfter (P : Platform) (calls : List StoreCall) : RetainedSecretsDatabase :=
  calls.foldl (fun db c => db.setRetainedSecret P c.number c.zid c.rs1 c.expiration c.continuity
    c.now) empty

/-- The stores that took effect at an endpoint, oldest first. -/
def stores (P : Platform) (k : String × Bytes) (calls : List StoreCall) : List StoreCall :=
  calls.filter (fun c => encodedKey P c.number c.zid = k ∧ c.now < c.expiration)

/-- What reading a stored secret back gives: an empty one reads as absent, and
    one that begins like a gzip stream is inflated. -/
def recovered (P : Platform) (c : StoreCall) : Option Bytes :=
  if Base64.encodeBytes c.rs1 = [] then none else some (Base64.inflate P.gunzip c.rs1)

/-- The columns a history leaves at an endpoint, given its stores newest first. -/
def columnsOf : List StoreCall → Option (Int × Option Bytes × Option Bytes)
  | [] => none
  | last :: older =>
    some (last.expiration, some (Base64.encodeBytes last.rs1),
      older.head?.map (fun c => Base64.encodeBytes c.rs1))

def Row.columns (r : Row) : Int × Option Bytes × Option Bytes := (r.expires, r.rs1, r.rs2)

/-- The secrets an endpoint has at a clock reading, given its stores newest
    first. -/
def current (P : Platform) (now : Int) : List StoreCall → RetainedSecrets
  | [] => ⟨none, none⟩
  | last :: older =>
    if now > last.expiration then ⟨none, none⟩
    else ⟨recovered P last, older.head?.bind (recovered P)⟩

theorem current_cons (P : Platform) (now : Int) (last : StoreCall) (older : List StoreCall) :
    current P now (last :: older) = if now > last.expiration then ⟨none, none⟩
      else ⟨recovered P last, older.head?.bind (recovered P)⟩ := rfl

/-- A store that takes effect pushes its secret in front of the row's. -/
theorem columns_storedRow (P : Platform) (db : RetainedSecretsDatabase) (c : StoreCall)
    (older : List StoreCall)
    (h : (db.lookup (encodedKey P c.number c.zid)).map Row.columns = columnsOf older) :
    Row.columns (storedRow P db c.number c.zid c.rs1 c.expiration c.continuity)
      = (c.expiration, some (Base64.encodeBytes c.rs1),
        older.head?.map (fun c => Base64.encodeBytes c.rs1)) := by
  unfold storedRow
  cases hrow : db.lookup (encodedKey P c.number c.zid) with
  | none =>
      rw [hrow] at h
      cases older with
      | nil => rfl
      | cons last older => simp only [columnsOf, Option.map_none, reduceCtorEq] at h
  | some r =>
      rw [hrow] at h
      cases older with
      | nil => simp only [columnsOf, Option.map_some, reduceCtorEq] at h
      | cons last older =>
          simp only [columnsOf, Option.map_some, Option.some.injEq, Row.columns,
            Prod.mk.injEq] at h
          simp only [updateValues, Row.columns, List.head?_cons, Option.map_some, h.2.1]

/-- The row an endpoint has after a history is made of its last two stores. -/
theorem lookup_cacheAfter (P : Platform) (k : String × Bytes) (calls : List StoreCall) :
    ((cacheAfter P calls).lookup k).map Row.columns = columnsOf (stores P k calls).reverse := by
  refine Run.foldl_invariant _
    (fun calls db => ∀ k, (db.lookup k).map Row.columns = columnsOf (stores P k calls).reverse)
    empty (fun _ => rfl) ?_ calls k
  intro calls db c ih k
  unfold stores
  rw [List.filter_append, List.reverse_append, List.filter_singleton]
  by_cases heff : c.now < c.expiration
  · rw [lookup_setRetainedSecret P db c.number c.zid c.rs1 c.expiration c.continuity c.now heff]
    by_cases hk : k = encodedKey P c.number c.zid
    · subst hk
      simp only [if_true, heff, and_self, decide_true, Option.map_some, columnsOf]
      rw [columns_storedRow P db c _ (ih _)]
      rfl
    · simp only [if_neg hk, Ne.symm hk, false_and, decide_false]
      exact ih k
  · rw [setRetainedSecret_expired P db c.number c.zid c.rs1 c.expiration c.continuity c.now
      (by omega)]
    simp only [heff, and_false, decide_false]
    exact ih k

/-- A column this cache wrote always decodes. -/
theorem decodeSecret_encode (P : Platform) (c : StoreCall) :
    decodeSecret P (some (Base64.encodeBytes c.rs1)) = .ok (recovered P c) := by
  unfold decodeSecret recovered
  by_cases h : Base64.encodeBytes c.rs1 = []
  · simp only [if_pos h]
  · simp only [if_neg h, Base64.decode_encodeBytes, Except.map]

theorem decodeSecret_map (P : Platform) (o : Option StoreCall) :
    decodeSecret P (o.map (fun c => Base64.encodeBytes c.rs1)) = .ok (o.bind (recovered P)) := by
  cases o with
  | none => rfl
  | some c => exact decodeSecret_encode P c

/-- The secrets an endpoint returns are its last two stores, read back, until
    the last one expires. -/
theorem getRetainedSecrets_history (P : Platform) (calls : List StoreCall) (number : String)
    (zid : Bytes) (now : Int) :
    (cacheAfter P calls).getRetainedSecrets P number zid now
      = .ok (current P now (stores P (encodedKey P number zid) calls).reverse) := by
  -- The row and the history hold the same columns, or neither holds any.
  have hcolumns := lookup_cacheAfter P (encodedKey P number zid) calls
  rw [getRetainedSecrets_eq]
  cases hrow : (cacheAfter P calls).lookup (encodedKey P number zid) with
  | none =>
      rw [hrow] at hcolumns
      cases hs : (stores P (encodedKey P number zid) calls).reverse with
      | nil => rfl
      | cons last older =>
          rw [hs] at hcolumns
          simp only [columnsOf, Option.map_none, reduceCtorEq] at hcolumns
  | some r =>
      rw [hrow] at hcolumns
      cases hs : (stores P (encodedKey P number zid) calls).reverse with
      | nil =>
          rw [hs] at hcolumns
          simp only [columnsOf, Option.map_some, reduceCtorEq] at hcolumns
      | cons last older =>
          rw [hs] at hcolumns
          simp only [columnsOf, Option.map_some, Option.some.injEq, Row.columns,
            Prod.mk.injEq] at hcolumns
          rcases hcolumns with ⟨hexp, hrs1, hrs2⟩
          simp only [Option.toList, readSecrets, current, hexp, hrs1, hrs2,
            decodeSecret_encode, decodeSecret_map, Java.ok_bind]
          -- Both expire at the same moment.
          by_cases hnow : now > last.expiration
          · rw [if_pos hnow, if_pos hnow]
          · rw [if_neg hnow, if_neg hnow]

/-- No secret is returned once the expiration last stored at its endpoint has
    passed: the newer is the last store there and has not expired, the older
    is the store before it. -/
theorem getRetainedSecrets_current (P : Platform) (calls : List StoreCall) (number : String)
    (zid : Bytes) (now : Int) :
    ∃ secrets, (cacheAfter P calls).getRetainedSecrets P number zid now = .ok secrets ∧
      (∀ x, secrets.rs1 = some x → ∃ before last,
        stores P (encodedKey P number zid) calls = before ++ [last] ∧
        recovered P last = some x ∧ now ≤ last.expiration) ∧
      (∀ y, secrets.rs2 = some y → ∃ before older last,
        stores P (encodedKey P number zid) calls = before ++ [older, last] ∧
        recovered P older = some y ∧ now ≤ last.expiration) := by
  refine ⟨_, getRetainedSecrets_history P calls number zid now, ?_⟩
  -- The history is looked at from its newest call.
  generalize hs : stores P (encodedKey P number zid) calls = kept
  rw [← List.reverse_reverse kept]
  generalize kept.reverse = newest
  rw [List.reverse_reverse]
  match newest with
  | [] => exact ⟨fun x hx => (nomatch hx), fun y hy => (nomatch hy)⟩
  | last :: older =>
      rw [current_cons]
      by_cases hnow : now > last.expiration
      · rw [if_pos hnow]
        exact ⟨fun x hx => (nomatch hx), fun y hy => (nomatch hy)⟩
      · rw [if_neg hnow]
        constructor
        · intro x hx
          exact ⟨older.reverse, last, List.reverse_cons, hx, by omega⟩
        · intro y hy
          match older with
          -- The second secret is that of the call before, if there was one.
          | [] => exact nomatch hy
          | prev :: older =>
              refine ⟨older.reverse, prev, last, ?_, hy, by omega⟩
              rw [List.reverse_cons, List.reverse_cons, List.append_assoc]
              rfl

/-- A secret that was to be forgotten at 1000 is still returned at 2000, after
    a later handshake stored another with a longer expiration. -/
theorem getRetainedSecrets_outlives :
    ¬ ∀ (P : Platform) (calls : List StoreCall) (number : String) (zid : Bytes) (now : Int)
      (secrets : RetainedSecrets),
      (calls.map StoreCall.now ++ [now]).Pairwise (· ≤ ·) →
      (cacheAfter P calls).getRetainedSecrets P number zid now = .ok secrets →
      ∀ x, (secrets.rs1 = some x ∨ secrets.rs2 = some x) →
        ∃ c ∈ stores P (encodedKey P number zid) calls,
          recovered P c = some x ∧ now ≤ c.expiration := by
  intro hclaim
  have h := hclaim ⟨fun n => n, fun _ => none⟩
    [⟨"+15550100", List.replicate 12 1, List.replicate 32 7, 1000, false, 0⟩,
      ⟨"+15550100", List.replicate 12 1, List.replicate 32 9, 1000000, true, 500⟩]
    "+15550100" (List.replicate 12 1) 2000 ⟨some (List.replicate 32 9), some (List.replicate 32 7)⟩
    (by decide) (by rw [getRetainedSecrets_history]; decide) (List.replicate 32 7) (Or.inr rfl)
  rcases h with ⟨c, hmem, hx, hnow⟩
  have hall : ∀ c ∈ [(⟨"+15550100", List.replicate 12 1, List.replicate 32 7, 1000, false, 0⟩ :
      StoreCall), ⟨"+15550100", List.replicate 12 1, List.replicate 32 9, 1000000, true, 500⟩],
      recovered ⟨fun n => n, fun _ => none⟩ c = some (List.replicate 32 7) →
        ¬ (2000 ≤ c.expiration) := by decide
  exact hall c (List.mem_of_mem_filter hmem) hx hnow

end RetainedSecretsDatabase

end RedPhone
