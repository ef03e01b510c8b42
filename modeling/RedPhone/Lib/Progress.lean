import Mathlib.Logic.Relation

/-!
# Progress

A system that is never stuck before its goal, and comes nearer with each step
it is known to be able to take, can get there from wherever it is. The measure
of how far it is also bounds the steps it needs.

This is about what can happen, not about what must: of the steps a state has
only one need come nearer, and who takes the others may never get there.

## Main definitions

* `ReachesWithin`: Reached in so many steps or fewer.

## Theorems

* `ReachesWithin.reaches`: What is reached in a number of steps is reached.
* `ReachesWithin.mono`, `ReachesWithin.trans`: More steps, and one run after another.
* `reachesWithin_of_measure`: The goal is within the measure.
-/

namespace Progress

open Relation

variable {α : Type*} {r : α → α → Prop}

/-- The second is reached from the first in so many steps or fewer. -/
inductive ReachesWithin (r : α → α → Prop) : Nat → α → α → Prop
  | here (n : Nat) (a : α) : ReachesWithin r n a a
  | step {n : Nat} {a b c : α} (hstep : r a b) (hrest : ReachesWithin r n b c) :
      ReachesWithin r (n + 1) a c

theorem ReachesWithin.reaches {n : Nat} {a b : α} (h : ReachesWithin r n a b) :
    ReflTransGen r a b := by
  induction h with
  | here n a => exact .refl
  | step hstep _ ih => exact .head hstep ih

theorem ReachesWithin.mono {m n : Nat} {a b : α} (h : ReachesWithin r m a b) (hmn : m ≤ n) :
    ReachesWithin r n a b := by
  induction h generalizing n with
  | here m a => exact .here n a
  | step hstep _ ih =>
      cases n with
      | zero => exact absurd hmn (Nat.not_succ_le_zero _)
      | succ n => exact .step hstep (ih (Nat.le_of_succ_le_succ hmn))

theorem ReachesWithin.trans {m n : Nat} {a b c : α} (h : ReachesWithin r m a b)
    (h' : ReachesWithin r n b c) :
    ReachesWithin r (m + n) a c := by
  induction h with
  | here m a => exact h'.mono (Nat.le_add_left n m)
  | step hstep _ ih =>
      rw [Nat.add_right_comm]
      exact .step hstep (ih h')

/-- Where some step comes nearer as long as the goal is not reached, it is
    within the measure. -/
theorem reachesWithin_of_measure {I Goal : α → Prop} (measure : α → Nat)
    (hnearer : ∀ a, I a → ¬ Goal a → ∃ b, r a b ∧ I b ∧ measure b < measure a) (a : α) (ha : I a) :
    ∃ b, ReachesWithin r (measure a) a b ∧ I b ∧ Goal b := by
  induction hn : measure a using Nat.strongRecOn generalizing a with
  | _ n ih =>
      by_cases hgoal : Goal a
      · exact ⟨a, .here n a, ha, hgoal⟩
      · rcases hnearer a ha hgoal with ⟨b, hstep, hb, hless⟩
        rcases ih (measure b) (hn ▸ hless) b hb rfl with ⟨c, hrest, hc, hdone⟩
        refine ⟨c, ?_, hc, hdone⟩
        exact (ReachesWithin.step hstep hrest).mono (hn ▸ hless)

end Progress
