import RedPhone.Srtp.SequenceCounter

/-!
# Whole Streams of Sequence Numbers

A counter is fed the low sixteen bits of one number after another, and hands
out long numbers. What it makes of them does not depend on how many times the
short ones have rolled over, nor on whether they went forwards or backwards:
a long number is right when it is a short step away from the one before it,
and then the next is measured from there.

So the numbers a counter hands out are the only ones of their kind. They have
the short numbers it was fed as their low bits, and each is a step of a signed
short away from the last. A list of numbers that moves in such steps comes back
as it was, and for any other list the counter hands out one that does.

Sums of the counter are of sixty-four bits. A step adds at most half of the
short range, so it takes more than 2^48 steps to leave them.

## Main definitions

* `shortId`: The low bits of a number.
* `Near`: A step of a signed short.
* `convertAll`: The numbers handed out for a list of short ones.

## Theorems

* `next_eq_iff`: The number a step leads to is the one nearby.
* `convertAll_ok`: What is handed out, and when.
* `exists_longIds`: Short numbers always stand for long ones.
* `sequence_reconstructed`: Numbers that move in short steps come back.
-/

namespace RedPhone

namespace SequenceCounter

/-- The low bits of a number, which are what is sent of it. -/
def shortId (longId : Int) : UInt16 := UInt16.ofNat (longId % 65536).toNat

/-- A step of a signed short. -/
def Near (prev next : Int) : Prop := -32768 ≤ next - prev ∧ next - prev ≤ 32767

instance (prev next : Int) : Decidable (Near prev next) := inferInstanceAs (Decidable (_ ∧ _))

/-- The numbers handed out for short ones, and the counter behind them. -/
def convertAll : SequenceCounter → List UInt16 → Cpp (List Int × SequenceCounter)
  | s, [] => .ok ([], s)
  | s, nextShortId :: shortIds => do
    let (longId, s) ← s.convertNext nextShortId
    let (longIds, s) ← convertAll s shortIds
    .ok (longId :: longIds, s)

theorem toNat_shortId (longId : Int) : ((shortId longId).toNat : Int) = longId % 65536 := by
  unfold shortId
  rw [UInt16.toNat_ofNat']
  omega

theorem shortId_eq_iff (longId : Int) (nextShortId : UInt16) :
    shortId longId = nextShortId ↔ longId % 65536 = nextShortId.toNat := by
  rw [← toNat_shortId]
  constructor
  · intro h
    rw [h]
  · intro h
    exact UInt16.toNat.inj (Int.ofNat.inj h)

/-- The window of sixteen bits is the range of a signed short. -/
theorem near_iff_inWindow (prev next : Int) : Near prev next ↔ Window.InWindow 65536 prev next := by
  unfold Near Window.InWindow
  omega

/-- Of all numbers with the low bits received, a step leads to the one nearby. -/
theorem next_eq_iff (s : SequenceCounter) (nextShortId : UInt16) (longId : Int) :
    (s.next nextShortId).prevLongId = longId
      ↔ shortId longId = nextShortId ∧ Near s.prevLongId longId := by
  rw [shortId_eq_iff, near_iff_inWindow]
  constructor
  · rintro rfl
    refine ⟨(s.next nextShortId).prevShortId_eq, ?_⟩
    rw [next_prevLongId]
    exact Window.inWindow_nearest 65536 (by omega) _ _
  · rintro ⟨hshort, hwindow⟩
    -- The low bits are all that is looked at, so the number itself may stand
    -- for them, and it is its own nearest one.
    have hcongr : (nextShortId.toNat : Int) % (65536 : Nat) = longId % (65536 : Nat) := by
      rw [← hshort]
      exact Int.emod_emod _ _
    rw [next_prevLongId, Window.nearest_congr _ _ _ _ hcongr]
    exact (Window.nearest_eq_iff 65536 (by omega) _ _).mpr hwindow

/-- A number is handed out for a short one when it is nearby and fits. -/
theorem exists_convertNext (s : SequenceCounter) (nextShortId : UInt16) (longId : Int) :
    (∃ s', s.convertNext nextShortId = .ok (longId, s'))
      ↔ shortId longId = nextShortId ∧ Near s.prevLongId longId ∧ Cpp.IsInt64 longId := by
  rw [← and_assoc, ← next_eq_iff]
  constructor
  · rintro ⟨s', h⟩
    rcases (convertNext_ok s nextShortId longId s').mp h with ⟨rfl, rfl, hrange⟩
    exact ⟨rfl, hrange⟩
  · rintro ⟨rfl, hrange⟩
    exact ⟨_, (convertNext_ok s nextShortId _ _).mpr ⟨rfl, rfl, hrange⟩⟩

theorem convertNext_prevLongId (s s' : SequenceCounter) (nextShortId : UInt16) (longId : Int)
    (h : s.convertNext nextShortId = .ok (longId, s')) : s'.prevLongId = longId :=
  ((convertNext_ok s nextShortId longId s').mp h).2.1.symm

/-- What is handed out for a list of short numbers: the long ones that have
    these low bits and move in short steps, as long as they fit. -/
theorem convertAll_ok (shortIds : List UInt16) (longIds : List Int) (s : SequenceCounter) :
    (∃ s', s.convertAll shortIds = .ok (longIds, s'))
      ↔ longIds.map shortId = shortIds ∧ List.IsChain Near (s.prevLongId :: longIds) ∧
        ∀ longId ∈ longIds, Cpp.IsInt64 longId := by
  induction shortIds generalizing s longIds with
  | nil =>
      constructor
      · rintro ⟨s', h⟩
        rw [convertAll, Except.ok.injEq, Prod.mk.injEq] at h
        rw [← h.1]
        exact ⟨rfl, List.IsChain.singleton _, fun _ hmem => absurd hmem List.not_mem_nil⟩
      · rintro ⟨hmap, _, _⟩
        rw [List.map_eq_nil_iff.mp hmap]
        exact ⟨s, rfl⟩
  | cons nextShortId shortIds ih =>
      constructor
      · rintro ⟨s', h⟩
        rcases (Run.bind_ok _ _ _).mp h with ⟨⟨longId, t⟩, hnext, h⟩
        rcases (Run.bind_ok _ _ _).mp h with ⟨⟨rest, u⟩, hrest, h⟩
        rw [Except.ok.injEq, Prod.mk.injEq] at h
        rw [← h.1]
        rcases (exists_convertNext s nextShortId longId).mp ⟨t, hnext⟩ with ⟨hshort, hnear, hfits⟩
        -- The rest is measured from the number handed out last.
        rcases (ih rest t).mp ⟨u, hrest⟩ with ⟨hmap, hchain, hall⟩
        rw [convertNext_prevLongId s t _ _ hnext] at hchain
        refine ⟨?_, List.IsChain.cons_cons hnear hchain, List.forall_mem_cons.mpr ⟨hfits, hall⟩⟩
        rw [List.map_cons, hshort, hmap]
      · rintro ⟨hmap, hchain, hall⟩
        cases longIds with
        | nil => exact nomatch hmap
        | cons longId rest =>
            rw [List.map_cons, List.cons.injEq] at hmap
            rcases List.forall_mem_cons.mp hall with ⟨hfits, hall⟩
            rcases List.isChain_cons_cons.mp hchain with ⟨hnear, hchain⟩
            rcases (exists_convertNext s nextShortId longId).mpr ⟨hmap.1, hnear, hfits⟩ with
              ⟨t, hnext⟩
            rw [← convertNext_prevLongId s t _ _ hnext] at hchain
            rcases (ih rest t).mpr ⟨hmap.2, hchain, hall⟩ with ⟨u, hrest⟩
            exact ⟨u, (Run.bind_ok _ _ _).mpr ⟨_, hnext, (Run.bind_ok _ _ _).mpr ⟨_, hrest, rfl⟩⟩⟩

/-- Short numbers always stand for long ones that move in short steps. -/
theorem exists_longIds (shortIds : List UInt16) (s : SequenceCounter) :
    ∃ longIds, longIds.map shortId = shortIds ∧ List.IsChain Near (s.prevLongId :: longIds) := by
  induction shortIds generalizing s with
  | nil => exact ⟨[], rfl, List.IsChain.singleton _⟩
  | cons nextShortId shortIds ih =>
      rcases ih (s.next nextShortId) with ⟨longIds, hmap, hchain⟩
      rcases (next_eq_iff s nextShortId _).mp rfl with ⟨hshort, hnear⟩
      refine ⟨(s.next nextShortId).prevLongId :: longIds, ?_,
        List.IsChain.cons_cons hnear hchain⟩
      rw [List.map_cons, hshort, hmap]

/-- Short steps do not lead further than half the short range each. -/
theorem near_of_chain (longIds : List Int) (prev : Int) (h : List.IsChain Near (prev :: longIds)) :
    ∀ longId ∈ longIds, prev - 32768 * longIds.length ≤ longId ∧
      longId ≤ prev + 32767 * longIds.length := by
  induction longIds generalizing prev with
  | nil => exact fun _ hmem => absurd hmem List.not_mem_nil
  | cons next longIds ih =>
      rcases List.isChain_cons_cons.mp h with ⟨⟨hlo, hhi⟩, hchain⟩
      intro longId hmem
      rw [List.length_cons]
      rcases List.mem_cons.mp hmem with rfl | hmem
      · omega
      · have hrest := ih next hchain longId hmem
        omega

/-- Numbers that move in steps of a signed short from zero come back from their
    low bits as they were. Whatever the short numbers are, those handed out
    have them as their low bits and move in such steps, they are the only ones
    that do, and the counter remembers the last of them; and they are handed
    out, at the least until 2^48 of them have been. -/
theorem sequence_reconstructed :
    (∀ longIds : List Int, List.IsChain Near (0 :: longIds) →
      (∀ longId ∈ longIds, Cpp.IsInt64 longId) →
      ∃ s', start.convertAll (longIds.map shortId) = .ok (longIds, s')) ∧
    (∀ (shortIds : List UInt16) (longIds : List Int) (s : SequenceCounter),
      start.convertAll shortIds = .ok (longIds, s) →
      s.prevLongId % 65536 = s.prevShortId.toNat ∧
      ∀ nextShortId longId s', s.convertNext nextShortId = .ok (longId, s') →
        ∀ n : Int, n = longId ↔ n % 65536 = nextShortId.toNat ∧ Near s.prevLongId n) ∧
    (∀ (shortIds : List UInt16) (longIds : List Int),
      (∃ s, start.convertAll shortIds = .ok (longIds, s)) ↔
        longIds.map shortId = shortIds ∧ List.IsChain Near (0 :: longIds) ∧
          ∀ longId ∈ longIds, Cpp.IsInt64 longId) ∧
    (∀ shortIds : List UInt16, shortIds.length ≤ 2 ^ 48 →
      ∃ longIds s, start.convertAll shortIds = .ok (longIds, s)) := by
  refine ⟨fun longIds hchain hall => ?_, fun shortIds longIds s _ => ⟨s.prevShortId_eq, ?_⟩,
    fun shortIds longIds => convertAll_ok shortIds longIds start, fun shortIds hfew => ?_⟩
  · exact (convertAll_ok _ longIds start).mpr ⟨rfl, hchain, hall⟩
  · intro nextShortId longId s' hnext n
    rcases (convertNext_ok s nextShortId longId s').mp hnext with ⟨rfl, rfl, _⟩
    rw [← shortId_eq_iff, ← next_eq_iff]
    exact eq_comm
  · rcases exists_longIds shortIds start with ⟨longIds, hmap, hchain⟩
    have hlength : longIds.length = shortIds.length := by
      rw [← hmap, List.length_map]
    refine ⟨longIds, (convertAll_ok shortIds longIds start).mpr ⟨hmap, hchain, ?_⟩⟩
    intro longId hmem
    -- Each step is at most 2^15, so 2^48 of them stay inside 64 bits.
    have hbounds := near_of_chain longIds 0 hchain longId hmem
    unfold Cpp.IsInt64
    omega

/-- Back across a rollover, and twice half the short range ahead. -/
theorem sequence_reconstructed_rollover :
    ∃ s', start.convertAll ([3, -5, 32762, 65529].map shortId)
      = .ok ([3, -5, 32762, 65529], s') :=
  sequence_reconstructed.1 [3, -5, 32762, 65529] (by decide) (by decide)

end SequenceCounter

end RedPhone
