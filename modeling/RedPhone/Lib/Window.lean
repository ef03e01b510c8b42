import Mathlib.Data.Int.ModEq
import Mathlib.Tactic.Common

/-!
# Numbers Sent by Their Low Digits

A number sent modulo `w` is recovered from the one before it: of the numbers
congruent to what arrived, the nearest is taken. The nearest one is the number
sent exactly when that is less than half of `w` away, so a receiver that keeps
following stays right for as long as every step is short, however far the
numbers get.

A receiver follows whatever it is handed. What it makes of a list is `track`,
and being right about one number of it says nothing about where a list with
others between them leads.

## Main definitions

* `InWindow`: Less than half the modulus away.
* `nearest`: The congruent number nearest to the last.
* `track`: Where a list of numbers leads.
* `Follows`: Each number of a list is in the window of the one before it.

## Theorems

* `nearest_congr`: What is recovered depends on the low digits only.
* `inWindow_nearest`: It is in the window.
* `nearest_eq_iff`: It is the number sent exactly when that is in the window.
* `track_of_follows`: Short steps are followed however far they lead.
* `track_mem_of_follows`: They lead to one of the numbers.
-/

namespace Window

/-- Less than half the modulus away, the lower half being the longer. -/
def InWindow (w : Nat) (prev n : Int) : Prop :=
  -(w / 2 : Int) ≤ n - prev ∧ n - prev < (w + 1) / 2

instance (w : Nat) (prev n : Int) : Decidable (InWindow w prev n) :=
  inferInstanceAs (Decidable (_ ∧ _))

/-- The number congruent to `n` nearest to `prev`. -/
def nearest (w : Nat) (prev n : Int) : Int :=
  prev + Int.bmod (n - prev) w

/-- Where a list of numbers leads. -/
def track (w : Nat) (prev : Int) (ns : List Int) : Int :=
  ns.foldl (nearest w) prev

/-- Each number is in the window of the one before it. -/
def Follows (w : Nat) : Int → List Int → Prop
  | _, [] => True
  | prev, n :: ns => InWindow w prev n ∧ Follows w n ns

/-- What is recovered depends on the low digits only. -/
theorem nearest_congr (w : Nat) (prev n m : Int) (h : n % w = m % w) :
    nearest w prev n = nearest w prev m := by
  unfold nearest
  rw [← Int.emod_sub_bmod n, h, Int.emod_sub_bmod]

theorem inWindow_nearest (w : Nat) (hw : 0 < w) (prev n : Int) :
    InWindow w prev (nearest w prev n) := by
  have hle := Int.le_bmod (x := n - prev) hw
  have hlt := Int.bmod_lt (x := n - prev) hw
  unfold InWindow nearest
  omega

/-- The number sent is recovered exactly when it is in the window. -/
theorem nearest_eq_iff (w : Nat) (hw : 0 < w) (prev n : Int) :
    nearest w prev n = n ↔ InWindow w prev n := by
  constructor
  · intro h
    have hin := inWindow_nearest w hw prev n
    rw [h] at hin
    exact hin
  · rintro ⟨hle, hlt⟩
    unfold nearest
    rw [Int.bmod_eq_of_le hle hlt]
    omega

theorem track_append (w : Nat) (prev : Int) (ns ms : List Int) :
    track w prev (ns ++ ms) = track w (track w prev ns) ms :=
  List.foldl_append

theorem track_concat (w : Nat) (prev n : Int) (ns : List Int) :
    track w prev (ns ++ [n]) = nearest w (track w prev ns) n := by
  rw [track_append]
  rfl

theorem follows_append_left (w : Nat) (ns ms : List Int) (prev : Int)
    (h : Follows w prev (ns ++ ms)) : Follows w prev ns := by
  induction ns generalizing prev with
  | nil => trivial
  | cons n ns ih => exact ⟨h.1, ih n h.2⟩

/-- Short steps are followed however far they lead. -/
theorem track_of_follows (w : Nat) (hw : 0 < w) (ns : List Int) (n prev : Int)
    (h : Follows w prev (ns ++ [n])) :
    InWindow w (track w prev ns) n := by
  induction ns generalizing prev with
  | nil => exact h.1
  | cons m ns ih =>
      have hm : nearest w prev m = m := (nearest_eq_iff w hw prev m).mpr h.1
      change InWindow w (track w (nearest w prev m) ns) n
      rw [hm]
      exact ih m h.2

/-- Short steps lead to one of the numbers. -/
theorem track_mem_of_follows (w : Nat) (hw : 0 < w) (ns : List Int) (prev : Int)
    (h : Follows w prev ns) : track w prev ns ∈ prev :: ns := by
  induction ns generalizing prev with
  | nil => exact List.mem_cons_self
  | cons n ns ih =>
      have hn : nearest w prev n = n := (nearest_eq_iff w hw prev n).mpr h.1
      change track w (nearest w prev n) ns ∈ prev :: n :: ns
      rw [hn]
      exact List.mem_cons_of_mem prev (ih n h.2)

/-- Numbers within half the modulus of each other follow in any order. -/
theorem follows_of_lt (w : Nat) (ns : List Int) (prev : Int)
    (hprev : 0 ≤ prev ∧ prev < (w / 2 : Int))
    (h : ∀ n ∈ ns, 0 ≤ n ∧ n < (w / 2 : Int)) : Follows w prev ns := by
  induction ns generalizing prev with
  | nil => trivial
  | cons n ns ih =>
      have hn := h n List.mem_cons_self
      refine ⟨?_, ih n hn fun m hm => h m (List.mem_cons_of_mem n hm)⟩
      unfold InWindow
      omega

end Window
