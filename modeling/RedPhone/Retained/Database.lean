import RedPhone.Lib.KeyedList
import RedPhone.Util.Base64

/-!
# The Retained-Secret Cache

The SQLite table behind `RetainedSecretsDatabase`: one row for each
(number, ZID) endpoint, holding the two most recent retained secrets, one
expiration for both, and the flag that says the user has verified the SAS.

A row is selected by its encoded number and ZID but rewritten by its `_id`.
Both are distinct over the table, and the table carries that as fields, so
every operation addresses one row and `lookup` says everything there is to
know about an endpoint. The three `lookup_` theorems are the specification
the rest of the development uses; nothing after this file looks at rows.

`completeHandshake` is the store with which both roles end a handshake. It
lives here because the two clock readings it makes, one to compute the
expiration and one for the check against it, are what decides whether the
cache changes at all.

## Main definitions

* `Platform`: What the cache takes from the libraries around it.
* `Row`: One row of the table.
* `RetainedSecretsDatabase`: The table, its keys and ids distinct.
* `setVerified`, `isVerified`, `setRetainedSecret`, `getRetainedSecrets`: The
  operations of the class.
* `completeHandshake`: The store that ends a handshake.

## Theorems

* `lookup_setVerified`: What marking an endpoint verified does.
* `lookup_setRetainedSecret`: What storing a secret does.
* `setRetainedSecret_expired`: A secret already expired is not stored.
* `isVerified_eq`: The flag read is the row's.
* `getRetainedSecrets_eq`: The secrets read are the row's.
-/

namespace RedPhone

/-- What the cache takes from outside: the canonical form of a phone number,
    and the gzip reader its Base64 decoder tries. -/
structure Platform where
  formatNumber : String → String
  gunzip : Bytes → Option Bytes

/-- A platform that keeps numbers as they are and inflates nothing. -/
def Platform.plain : Platform := ⟨id, fun _ => none⟩

/-- One row of the `retained_secrets` table. -/
structure Row where
  id : Nat
  number : String
  zid : Bytes
  expires : Int
  rs1 : Option Bytes
  rs2 : Option Bytes
  verified : Int
  deriving DecidableEq, Repr

/-- The columns an endpoint is selected by. -/
def Row.key (r : Row) : String × Bytes := (r.number, r.zid)

/-- The two secrets handed to a handshake, each present or absent. -/
structure RetainedSecrets where
  rs1 : Option Bytes
  rs2 : Option Bytes
  deriving DecidableEq, Repr

structure RetainedSecretsDatabase where
  rows : List Row
  key_nodup : (rows.map Row.key).Nodup
  id_nodup : (rows.map Row.id).Nodup

namespace RetainedSecretsDatabase

open KeyedList

/-- The table `onCreate` makes. -/
def empty : RetainedSecretsDatabase := ⟨[], List.nodup_nil, List.nodup_nil⟩

/-- The selection arguments for an endpoint. -/
def encodedKey (P : Platform) (number : String) (zid : Bytes) : String × Bytes :=
  (P.formatNumber number, Base64.encodeBytes zid)

/-- `SELECT * WHERE number = ? AND zid = ?`. -/
def query (db : RetainedSecretsDatabase) (k : String × Bytes) : List Row :=
  db.rows.filter (fun r => r.key = k)

/-- The row of an endpoint. -/
def lookup (db : RetainedSecretsDatabase) (k : String × Bytes) : Option Row :=
  KeyedList.lookup Row.key k db.rows

theorem query_eq (db : RetainedSecretsDatabase) (k : String × Bytes) :
    db.query k = (db.lookup k).toList :=
  filter_eq_of_lookup Row.key k db.rows db.key_nodup

/-- The id SQLite gives a new row. -/
def nextId (rows : List Row) : Nat :=
  (rows.map Row.id).foldr max 0 + 1

theorem lt_nextId (rows : List Row) : ∀ i ∈ rows.map Row.id, i < nextId rows := by
  unfold nextId
  induction rows.map Row.id with
  | nil =>
      intro i hi
      exact absurd hi List.not_mem_nil
  | cons j ids ih =>
      intro i hi
      rw [List.foldr_cons]
      rcases List.mem_cons.mp hi with rfl | hi
      · omega
      · have := ih i hi
        omega

/-- `UPDATE` of the rows a column selects, by values that leave the key and
    the id alone. -/
def update {κ : Type} [DecidableEq κ] (db : RetainedSecretsDatabase) (column : Row → κ) (k : κ)
    (f : Row → Row) (hkey : ∀ r, (f r).key = r.key) (hid : ∀ r, (f r).id = r.id) :
    RetainedSecretsDatabase where
  rows := modify column k f db.rows
  key_nodup := by
    rw [map_modify column Row.key k f hkey]
    exact db.key_nodup
  id_nodup := by
    rw [map_modify column Row.id k f hid]
    exact db.id_nodup

/-- `INSERT` of a row for an endpoint the table does not have. -/
def insert (db : RetainedSecretsDatabase) (r : Row) (hkey : r.key ∉ db.rows.map Row.key)
    (hid : r.id = nextId db.rows) : RetainedSecretsDatabase where
  rows := db.rows ++ [r]
  key_nodup := nodup_concat Row.key db.rows r db.key_nodup hkey
  id_nodup := nodup_concat Row.id db.rows r db.id_nodup (fun hmem => by
    have := lt_nextId db.rows r.id hmem
    omega)

/-- The value `setVerified` writes. -/
def verifiedValues (r : Row) : Row := { r with verified := 1 }

theorem verifiedValues_key (r : Row) : (verifiedValues r).key = r.key := rfl

theorem verifiedValues_id (r : Row) : (verifiedValues r).id = r.id := rfl

def setVerified (P : Platform) (db : RetainedSecretsDatabase) (number : String) (zid : Bytes) :
    RetainedSecretsDatabase :=
  db.update Row.key (encodedKey P number zid) verifiedValues verifiedValues_key verifiedValues_id

def isVerified (P : Platform) (db : RetainedSecretsDatabase) (number : String) (zid : Bytes) :
    Bool :=
  match db.query (encodedKey P number zid) with
  -- The cursor is asked for its first row only.
  | r :: _ => r.verified == 1
  | [] => false

/-- The values an update of an existing row writes. The old `rs1` moves to
    `rs2`, the expiration covers both, and the flag survives continuity. -/
def updateValues (encodedRs1 : Bytes) (expiration : Int) (continuity : Bool) (r : Row) : Row :=
  { r with
    rs2 := r.rs1
    rs1 := some encodedRs1
    expires := expiration
    verified := if continuity then r.verified else 0 }

theorem updateValues_key (encodedRs1 : Bytes) (expiration : Int) (continuity : Bool) (r : Row) :
    (updateValues encodedRs1 expiration continuity r).key = r.key := rfl

theorem updateValues_id (encodedRs1 : Bytes) (expiration : Int) (continuity : Bool) (r : Row) :
    (updateValues encodedRs1 expiration continuity r).id = r.id := rfl

/-- The values an insertion writes. -/
def insertValues (id : Nat) (k : String × Bytes) (encodedRs1 : Bytes) (expiration : Int) : Row where
  id := id
  number := k.1
  zid := k.2
  expires := expiration
  rs1 := some encodedRs1
  rs2 := none
  verified := 0

theorem insertValues_key (id : Nat) (k : String × Bytes) (encodedRs1 : Bytes) (expiration : Int) :
    (insertValues id k encodedRs1 expiration).key = k := rfl

def setRetainedSecret (P : Platform) (db : RetainedSecretsDatabase) (number : String) (zid : Bytes)
    (rs1 : Bytes) (expiration : Int) (continuity : Bool) (now : Int) : RetainedSecretsDatabase :=
  -- What would be stored expired is not stored, and what is there stays.
  if now ≥ expiration then db
  else
    match hrow : db.lookup (encodedKey P number zid) with
    | some r =>
      db.update Row.id r.id (updateValues (Base64.encodeBytes rs1) expiration continuity)
        (updateValues_key _ _ _) (updateValues_id _ _ _)
    | none =>
      db.insert (insertValues (nextId db.rows) (encodedKey P number zid) (Base64.encodeBytes rs1)
        expiration) ((lookup_eq_none Row.key _ db.rows).mp hrow) rfl

/-- A column's secret: absent when the text is null or empty. -/
def decodeSecret (P : Platform) : Option Bytes → Java (Option Bytes)
  | some encoded => if encoded = [] then .ok none else (Base64.decode P.gunzip encoded).map some
  | none => .ok none

/-- The cursor loop: expired rows and rows that do not decode are passed over. -/
def readSecrets (P : Platform) (now : Int) : List Row → Java RetainedSecrets
  | [] => .ok ⟨none, none⟩
  | r :: rows =>
    if now > r.expires then readSecrets P now rows
    else
      match (do
        let rs1 ← decodeSecret P r.rs1
        let rs2 ← decodeSecret P r.rs2
        .ok ⟨rs1, rs2⟩ : Java RetainedSecrets) with
      -- An `IOException` of the decoder goes to the next row, any other exception is
      -- thrown.
      | .error (.io _) => readSecrets P now rows
      | result => result

def getRetainedSecrets (P : Platform) (db : RetainedSecretsDatabase) (number : String)
    (zid : Bytes) (now : Int) : Java RetainedSecrets :=
  readSecrets P now (db.query (encodedKey P number zid))

/-- The store that ends a handshake: the expiration is a clock reading plus
    the peer's cache interval in seconds. -/
def completeHandshake (P : Platform) (db : RetainedSecretsDatabase) (number : String) (zid : Bytes)
    (rs1 : Bytes) (cacheTime : Nat) (continuity : Bool) (readTime storeTime : Int) :
    RetainedSecretsDatabase :=
  db.setRetainedSecret P number zid rs1 (readTime + cacheTime * 1000) continuity storeTime

/-! ## What each operation does to an endpoint -/

theorem lookup_update {κ : Type} [DecidableEq κ] (db : RetainedSecretsDatabase) (column : Row → κ)
    (f : Row → Row) (hkey : ∀ r, (f r).key = r.key) (hid : ∀ r, (f r).id = r.id) (r : Row)
    (k k' : String × Bytes) (hr : db.lookup k = some r)
    (hcol : (db.rows.map column).Nodup) :
    (db.update column (column r) f hkey hid).lookup k'
      = if k' = k then some (f r) else db.lookup k' := by
  have hmem := lookup_mem Row.key k db.rows r hr
  have hk : r.key = k := lookup_key Row.key k db.rows r hr
  unfold lookup update
  simp only []
  -- The column is another key of the table, so the row it selects is the one
  -- selected by the endpoint.
  rw [modify_eq_modify column Row.key f db.rows hcol db.key_nodup r hmem, hk,
    lookup_modify Row.key k k' f hkey]
  unfold lookup at hr
  rw [hr, Option.map_some]

theorem lookup_setVerified (P : Platform) (db : RetainedSecretsDatabase) (number : String)
    (zid : Bytes) (k : String × Bytes) :
    (db.setVerified P number zid).lookup k
      = if k = encodedKey P number zid then (db.lookup k).map verifiedValues
        else db.lookup k := by
  unfold setVerified lookup update
  simp only []
  rw [lookup_modify Row.key _ k _ verifiedValues_key]
  by_cases hk : k = encodedKey P number zid
  · rw [if_pos hk, if_pos hk, hk]
  · rw [if_neg hk, if_neg hk]

/-- A secret whose expiration has come is not stored. -/
theorem setRetainedSecret_expired (P : Platform) (db : RetainedSecretsDatabase) (number : String)
    (zid rs1 : Bytes) (expiration : Int) (continuity : Bool) (now : Int) (h : expiration ≤ now) :
    db.setRetainedSecret P number zid rs1 expiration continuity now = db := by
  unfold setRetainedSecret
  rw [if_pos h]

/-- The row left by a store that takes effect. -/
def storedRow (P : Platform) (db : RetainedSecretsDatabase) (number : String) (zid rs1 : Bytes)
    (expiration : Int) (continuity : Bool) : Row :=
  match db.lookup (encodedKey P number zid) with
  | some r => updateValues (Base64.encodeBytes rs1) expiration continuity r
  | none => insertValues (nextId db.rows) (encodedKey P number zid) (Base64.encodeBytes rs1)
      expiration

theorem lookup_setRetainedSecret (P : Platform) (db : RetainedSecretsDatabase) (number : String)
    (zid rs1 : Bytes) (expiration : Int) (continuity : Bool) (now : Int) (h : now < expiration)
    (k : String × Bytes) :
    (db.setRetainedSecret P number zid rs1 expiration continuity now).lookup k
      = if k = encodedKey P number zid
        then some (storedRow P db number zid rs1 expiration continuity) else db.lookup k := by
  unfold setRetainedSecret storedRow
  rw [if_neg (by omega)]
  -- An endpoint has a row already, which is updated by its id, or gets a new
  -- one.
  split
  · rename_i r hr
    rw [lookup_update db Row.id _ _ _ r _ k hr db.id_nodup, hr]
  · rename_i hr
    have hkey := insertValues_key (nextId db.rows) (encodedKey P number zid)
      (Base64.encodeBytes rs1) expiration
    unfold lookup insert
    simp only []
    rw [lookup_concat Row.key k db.rows _ (by rw [hkey]; exact hr), hkey]
    unfold lookup at hr
    rw [hr]

theorem isVerified_eq (P : Platform) (db : RetainedSecretsDatabase) (number : String)
    (zid : Bytes) :
    db.isVerified P number zid = true
      ↔ ∃ r, db.lookup (encodedKey P number zid) = some r ∧ r.verified = 1 := by
  unfold isVerified
  rw [query_eq]
  cases db.lookup (encodedKey P number zid) with
  | none => simp only [Option.toList, Bool.false_eq_true, reduceCtorEq, false_and, exists_false]
  | some r => simp only [Option.toList, beq_iff_eq, Option.some.injEq, exists_eq_left']

/-- The secrets of a row that is there and has not expired. -/
theorem getRetainedSecrets_eq (P : Platform) (db : RetainedSecretsDatabase) (number : String)
    (zid : Bytes) (now : Int) :
    db.getRetainedSecrets P number zid now
      = readSecrets P now (db.lookup (encodedKey P number zid)).toList := by
  unfold getRetainedSecrets
  rw [query_eq]

end RetainedSecretsDatabase

end RedPhone
