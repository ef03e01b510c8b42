import Mathlib.Tactic.Common

/-!
# Two Runs of a Fallible Computation

What one computation does on two states is compared by comparing what it ends
in: two values that are in a relation, or the same failure. The comparison goes
along a sequence one step at a time. Where both sides take the same step they
get the same value, and otherwise the values they get are related, and what is
left to compare begins with them.

## Main definitions

* `Related`: Two results are related values or the same failure.

## Theorems

* `related_bind`: Comparing sequences whose first steps are related.
* `related_bind_same`: Comparing sequences that begin with the same step.
* `related_error`: The same failure.
-/

namespace Relational

variable {ε α β α' β' : Type}

/-- Two results are related values or the same failure. -/
def Related (R : α → β → Prop) : Except ε α → Except ε β → Prop
  | .ok a, .ok b => R a b
  | .error e, .error e' => e = e'
  | _, _ => False

/-- The same failure. -/
theorem related_error (R : α → β → Prop) (e : ε) :
    Related R (.error e : Except ε α) (.error e) := rfl

/-- Sequences whose first steps are related are related if what follows is. -/
theorem related_bind {Q : α → β → Prop} {R : α' → β' → Prop} {x : Except ε α} {y : Except ε β}
    {f : α → Except ε α'} {g : β → Except ε β'} (h : Related Q x y)
    (hrest : ∀ a b, Q a b → Related R (f a) (g b)) : Related R (x >>= f) (y >>= g) := by
  cases x with
  | ok a =>
      cases y with
      | ok b => exact hrest a b h
      | error e' => exact absurd h (fun hf => hf)
  | error e =>
      cases y with
      | ok b => exact absurd h (fun hf => hf)
      | error e' => exact h

/-- Sequences that begin with the same step are related if what follows is. -/
theorem related_bind_same {R : α' → β' → Prop} {x : Except ε α} {f : α → Except ε α'}
    {g : α → Except ε β'} (hrest : ∀ a, x = .ok a → Related R (f a) (g a)) :
    Related R (x >>= f) (x >>= g) := by
  cases x with
  | ok a => exact hrest a rfl
  | error e => exact related_error R e

end Relational
