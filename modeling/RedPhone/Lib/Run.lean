import Mathlib.Data.List.Induction
import Mathlib.Tactic.Common

/-!
# Runs of a Fallible Machine

A machine that consumes a list of inputs one at a time, where each step either
yields the next state or fails for good. A failure ends the run, so the states
a run passes through are exactly those of its completed prefixes.

An invariant is allowed to mention the inputs consumed so far. Most invariants
do not, and pass a constant; the ones that say a state holds something *because
of* an earlier input need the history, and threading it here spares every
machine a ghost field for it.

## Main definitions

* `run`: The state after consuming a list of inputs, or the failure.

## Theorems

* `run_append`: A run over an append is a run continued.
* `run_concat`: Peeling off the last step of a run.
* `run_cons`: Peeling off the first step of a run.
* `invariant_of_run`: A step-preserved property holds after every run.
* `invariant_of_reached`: The same, with the run up to the step at hand.
* `error_of_run`: A failed run has a failing step after a completed prefix.
* `foldl_invariant`: The same rule for a machine that cannot fail.
* `bind_ok`: A sequence of steps returns when its parts do.
-/

namespace Run

variable {σ ε ι : Type*}

/-- Consume the inputs in order, stopping at the first failure. -/
def run (step : σ → ι → Except ε σ) : σ → List ι → Except ε σ
  | s, [] => .ok s
  | s, i :: is => match step s i with
    | .ok s' => run step s' is
    | .error e => .error e

theorem run_append (step : σ → ι → Except ε σ) (s : σ) (is js : List ι) :
    run step s (is ++ js) = match run step s is with
      | .ok s' => run step s' js
      | .error e => .error e := by
  induction is generalizing s with
  | nil => rfl
  | cons i is ih =>
      rw [List.cons_append, run, run]
      cases step s i with
      | ok s' => exact ih s'
      | error e => rfl

/-- The last step of a completed run. -/
theorem run_concat (step : σ → ι → Except ε σ) (s t : σ) (is : List ι) (i : ι) :
    run step s (is ++ [i]) = .ok t ↔ ∃ s', run step s is = .ok s' ∧ step s' i = .ok t := by
  rw [run_append]
  cases hrun : run step s is with
  | ok s' =>
      simp only [run, Except.ok.injEq]
      cases hstep : step s' i with
      | ok t' => simp only [Except.ok.injEq, exists_eq_left', hstep]
      | error e => simp only [reduceCtorEq, exists_eq_left', hstep]
  | error e => simp only [reduceCtorEq, false_and, exists_false]

/-- The first step of a completed run. -/
theorem run_cons (step : σ → ι → Except ε σ) (s t : σ) (i : ι) (is : List ι) :
    run step s (i :: is) = .ok t ↔ ∃ s', step s i = .ok s' ∧ run step s' is = .ok t := by
  rw [run]
  cases hstep : step s i with
  | ok s' => simp only [Except.ok.injEq, exists_eq_left']
  | error e => simp only [reduceCtorEq, false_and, exists_false]

/-- A property of the inputs consumed and the state reached, true at the start
    and kept by every step, holds after every run. -/
theorem invariant_of_run (step : σ → ι → Except ε σ) (I : List ι → σ → Prop) (s₀ : σ)
    (h0 : I [] s₀)
    (hstep : ∀ is s i s', I is s → step s i = .ok s' → I (is ++ [i]) s') :
    ∀ (is : List ι) (s : σ), run step s₀ is = .ok s → I is s := by
  intro is
  induction is using List.reverseRecOn with
  | nil =>
      intro s h
      simp only [run, Except.ok.injEq] at h
      rw [← h]
      exact h0
  | append_singleton is i ih =>
      intro s h
      rcases (run_concat step s₀ s is i).mp h with ⟨s', hrun, hs⟩
      exact hstep is s' i s (ih s' hrun) hs

/-- The same rule for a property whose step needs to know how its state was
    reached. -/
theorem invariant_of_reached (step : σ → ι → Except ε σ) (I : List ι → σ → Prop) (s₀ : σ)
    (h0 : I [] s₀)
    (hstep : ∀ is s i s', run step s₀ is = .ok s → I is s → step s i = .ok s' → I (is ++ [i]) s')
    (is : List ι) (s : σ) (hrun : run step s₀ is = .ok s) : I is s := by
  have hboth : run step s₀ is = .ok s ∧ I is s := by
    refine invariant_of_run step (fun is s => run step s₀ is = .ok s ∧ I is s) s₀ ⟨rfl, h0⟩ ?_ is s
      hrun
    rintro is s i s' ⟨hrun, hI⟩ hs
    exact ⟨(run_concat step s₀ s' is i).mpr ⟨s, hrun, hs⟩, hstep is s i s' hrun hI hs⟩
  exact hboth.2

/-- A failed run completed some prefix and failed at the next input. -/
theorem error_of_run (step : σ → ι → Except ε σ) (e : ε) :
    ∀ (is : List ι) (s₀ : σ), run step s₀ is = .error e →
      ∃ pre i post s, is = pre ++ i :: post ∧ run step s₀ pre = .ok s ∧ step s i = .error e := by
  intro is
  induction is with
  | nil =>
      intro s₀ h
      simp only [run, reduceCtorEq] at h
  | cons i is ih =>
      intro s₀ h
      rw [run] at h
      cases hstep : step s₀ i with
      | error e' =>
          rw [hstep] at h
          -- The first step is the one that failed.
          refine ⟨[], i, is, s₀, rfl, rfl, ?_⟩
          rw [hstep]
          exact h
      | ok s' =>
          rw [hstep] at h
          rcases ih s' h with ⟨pre, j, post, s, hsplit, hrun, hfail⟩
          refine ⟨i :: pre, j, post, s, by rw [hsplit, List.cons_append], ?_, hfail⟩
          rw [run, hstep]
          exact hrun

/-- The invariant rule for a machine that cannot fail. -/
theorem foldl_invariant (step : σ → ι → σ) (I : List ι → σ → Prop) (s₀ : σ)
    (h0 : I [] s₀) (hstep : ∀ is s i, I is s → I (is ++ [i]) (step s i)) (is : List ι) :
    I is (is.foldl step s₀) := by
  induction is using List.reverseRecOn with
  | nil => exact h0
  | append_singleton is i ih =>
      rw [List.foldl_append, List.foldl_cons, List.foldl_nil]
      exact hstep is _ i ih

/-- A sequence of two steps that returned is a first that returned, followed
    by a second that did. -/
theorem bind_ok {ε α β : Type} (x : Except ε α) (f : α → Except ε β) (b : β) :
    (x >>= f) = .ok b ↔ ∃ a, x = .ok a ∧ f a = .ok b := by
  cases x with
  | ok a => simp only [bind, Except.bind, Except.ok.injEq, exists_eq_left']
  | error e => simp only [bind, Except.bind, reduceCtorEq, false_and, exists_false]

end Run
