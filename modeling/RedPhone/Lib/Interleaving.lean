import RedPhone.Lib.Run

/-!
# Interleavings

Threads that share a state, taken together, are one machine: its inputs say
whose turn it is and what that thread meets, and its states hold the shared
variables and where each thread is. An input whose thread cannot go on is
`blocked`, so the schedules of the threads are the lists of inputs that run.

Laws about threads rarely hold of every schedule. They hold of those in which
no thread does a certain thing at a certain moment, and `Meets` is how such a
condition is put on a run: of each step, in the state it is taken in.

## Main definitions

* `Blocked`: Why a thread cannot go on.
* `Meets`: Every step of a run meets a condition.
* `Always`: Every state of a run has a property.

## Theorems

* `run_append_ok`: A completed run is a completed run continued.
* `invariant`: The rule for properties of states alone.
* `meets_cons`, `meets_append`: A condition on the steps of a longer run.
* `kept_of_meets`: A property that steps keep while they meet a condition.
* `bounded_of_meets`: Steps that use up a measure are no more than it.
* `always_of_meets`: A property all through a run.
* `always_iff_meets_of_invariant`, `always_iff_meets`: A property that one
  condition keeps and its failure ends.
* `reaches_alone`: A thread that waits for nobody.
-/

namespace Interleaving

open Run

/-- A thread cannot go on. -/
inductive Blocked
  | blocked
  deriving DecidableEq, Repr

variable {σ ι : Type*}

/-- A run that completes has completed each of its parts. -/
theorem run_append_ok {step : σ → ι → Except Blocked σ} {s t : σ} {pre post : List ι} :
    run step s (pre ++ post) = .ok t ↔ ∃ u, run step s pre = .ok u ∧ run step u post = .ok t := by
  rw [run_append]
  cases run step s pre with
  | ok u => simp only [Except.ok.injEq, exists_eq_left']
  | error e => simp only [reduceCtorEq, false_and, exists_false]

/-- A property of states, true at the start and kept by every step. -/
theorem invariant {step : σ → ι → Except Blocked σ} (I : σ → Prop) {s₀ : σ} (h0 : I s₀)
    (hstep : ∀ s i s', I s → step s i = .ok s' → I s') {is : List ι} {s : σ}
    (hrun : run step s₀ is = .ok s) : I s :=
  invariant_of_run step (fun _ s => I s) s₀ h0 (fun _ s i s' => hstep s i s') is s hrun

/-- Every step of a run meets a condition in the state it is taken in. -/
def Meets (step : σ → ι → Except Blocked σ) (P : σ → ι → Prop) (s : σ) (is : List ι) : Prop :=
  ∀ pre i post u, is = pre ++ i :: post → run step s pre = .ok u → P u i

variable {step : σ → ι → Except Blocked σ} {P : σ → ι → Prop}

theorem meets_nil (s : σ) : Meets step P s [] := by
  intro pre i post u hsplit
  exact absurd hsplit (by simp only [List.nil_eq, List.append_eq_nil_iff, reduceCtorEq, and_false,
    not_false_eq_true])

theorem meets_cons {s s' : σ} {i : ι} {is : List ι} (hstep : step s i = .ok s') :
    Meets step P s (i :: is) ↔ P s i ∧ Meets step P s' is := by
  constructor
  · intro h
    refine ⟨h [] i is s rfl rfl, fun pre j post u hsplit hrun => ?_⟩
    refine h (i :: pre) j post u (by rw [hsplit, List.cons_append]) ?_
    rw [run, hstep]
    exact hrun
  · rintro ⟨hfirst, hrest⟩ pre j post u hsplit hrun
    -- With nothing before it the step in question is the first one.
    cases pre with
    | nil =>
        rw [List.nil_append, List.cons.injEq] at hsplit
        rw [← hsplit.1, ← Except.ok.inj hrun]
        exact hfirst
    | cons k pre =>
        rw [List.cons_append, List.cons.injEq] at hsplit
        rw [← hsplit.1, run, hstep] at hrun
        exact hrest pre j post u hsplit.2 hrun

/-- Behind a step that is not taken there are no more. -/
theorem meets_cons_error {s : σ} {i : ι} {is : List ι} {e : Blocked} (hstep : step s i = .error e) :
    Meets step P s (i :: is) ↔ P s i := by
  -- The run does not get past the first step, so no later one is asked about.
  refine ⟨fun h => h [] i is s rfl rfl, fun h pre j post u hsplit hrun => ?_⟩
  cases pre with
  | nil =>
      rw [List.nil_append, List.cons.injEq] at hsplit
      rw [← hsplit.1, ← Except.ok.inj hrun]
      exact h
  | cons k pre =>
      rw [List.cons_append, List.cons.injEq] at hsplit
      rw [← hsplit.1, run, hstep] at hrun
      simp only [reduceCtorEq] at hrun

/-- A condition that can be decided of a step can be decided of a run. -/
instance decidableMeets [hP : ∀ s i, Decidable (P s i)] :
    (s : σ) → (is : List ι) → Decidable (Meets step P s is)
  | s, [] => .isTrue (meets_nil s)
  | s, i :: is =>
    -- The run itself is followed to the step that is not taken.
    match hstep : step s i with
    | .error _ => decidable_of_iff (P s i) (meets_cons_error hstep).symm
    | .ok s' =>
      have : Decidable (Meets step P s' is) := decidableMeets s' is
      decidable_of_iff (P s i ∧ Meets step P s' is) (meets_cons hstep).symm

theorem meets_append {s u : σ} {pre post : List ι} (hrun : run step s pre = .ok u)
    (h : Meets step P s (pre ++ post)) : Meets step P s pre ∧ Meets step P u post := by
  constructor
  · intro pre' i post' v hsplit hrun'
    exact h pre' i (post' ++ post) v (by rw [hsplit, List.append_assoc, List.cons_append]) hrun'
  · intro pre' i post' v hsplit hrun'
    refine h (pre ++ pre') i post' v (by rw [hsplit, List.append_assoc]) ?_
    exact run_append_ok.mpr ⟨u, hrun, hrun'⟩

/-- A condition on the steps of two runs is one on those of both in turn. -/
theorem Meets.append {s u : σ} {pre post : List ι} (hrun : run step s pre = .ok u)
    (hpre : Meets step P s pre) (hpost : Meets step P u post) : Meets step P s (pre ++ post) := by
  induction pre generalizing s with
  | nil =>
      rw [← Except.ok.inj hrun] at hpost
      exact hpost
  | cons i pre ih =>
      rcases (run_cons step s u i pre).mp hrun with ⟨s', hstep, hrest⟩
      rcases (meets_cons hstep).mp hpre with ⟨hfirst, hthen⟩
      exact (meets_cons hstep).mpr ⟨hfirst, ih hrest hthen⟩

theorem Meets.mono {Q : σ → ι → Prop} {s : σ} {is : List ι} (h : Meets step P s is)
    (hPQ : ∀ u i, P u i → Q u i) : Meets step Q s is :=
  fun pre i post u hsplit hrun => hPQ u i (h pre i post u hsplit hrun)

/-- What steps keep while they meet a condition, a run keeps whose steps all
    meet it. -/
theorem kept_of_meets {Q : σ → Prop} (hkeep : ∀ s i s', Q s → P s i → step s i = .ok s' → Q s')
    {is : List ι} {s t : σ} (hs : Q s) (hmeets : Meets step P s is) (hrun : run step s is = .ok t) :
    Q t := by
  induction is generalizing s with
  | nil =>
      rw [← Except.ok.inj hrun]
      exact hs
  | cons i is ih =>
      rcases (run_cons step s t i is).mp hrun with ⟨s', hstep, hrest⟩
      rcases (meets_cons hstep).mp hmeets with ⟨hP, hmeets'⟩
      exact ih (hkeep s i s' hs hP hstep) hmeets' hrest

/-- Where each step that counts uses up some of a measure, and the others add
    nothing to it, no more steps count than the measure was. -/
theorem bounded_of_meets {Q : σ → Prop} (counts : ι → Bool) (measure : σ → Nat)
    (hkeep : ∀ s i s', Q s → P s i → step s i = .ok s' →
      Q s' ∧ measure s' + (if counts i then 1 else 0) ≤ measure s)
    {is : List ι} {s t : σ} (hs : Q s) (hmeets : Meets step P s is) (hrun : run step s is = .ok t) :
    measure t + is.countP counts ≤ measure s := by
  induction is generalizing s with
  | nil =>
      rw [← Except.ok.inj hrun, List.countP_nil]
      exact Nat.le_refl _
  | cons i is ih =>
      rcases (run_cons step s t i is).mp hrun with ⟨s', hstep, hrest⟩
      rcases (meets_cons hstep).mp hmeets with ⟨hP, hmeets'⟩
      rcases hkeep s i s' hs hP hstep with ⟨hs', hless⟩
      have hih := ih hs' hmeets' hrest
      rw [List.countP_cons]
      omega

/-- Every state a run passes through has a property, the last one included. -/
def Always (step : σ → ι → Except Blocked σ) (Q : σ → Prop) (s : σ) (is : List ι) : Prop :=
  ∀ pre post u, is = pre ++ post → run step s pre = .ok u → Q u

theorem always_cons {Q : σ → Prop} {s s' : σ} {i : ι} {is : List ι} (hstep : step s i = .ok s') :
    Always step Q s (i :: is) ↔ Q s ∧ Always step Q s' is := by
  constructor
  · intro h
    refine ⟨h [] (i :: is) s rfl rfl, fun pre post u hsplit hrun => ?_⟩
    refine h (i :: pre) post u (by rw [hsplit, List.cons_append]) ?_
    rw [run, hstep]
    exact hrun
  · intro h pre post u hsplit hrun
    cases pre with
    | nil =>
        rw [← Except.ok.inj hrun]
        exact h.1
    | cons k pre =>
        rw [List.cons_append, List.cons.injEq] at hsplit
        rw [← hsplit.1, run, hstep] at hrun
        exact h.2 pre post u hsplit.2 hrun

/-- What steps keep while they meet a condition is true all through a run
    whose steps all meet it. -/
theorem always_of_meets {Q : σ → Prop} (hkeep : ∀ s i s', Q s → P s i → step s i = .ok s' → Q s')
    {is : List ι} {s : σ} (hs : Q s) (hmeets : Meets step P s is) : Always step Q s is := by
  intro pre post u hsplit hrun
  refine kept_of_meets hkeep hs (fun pre' i post' v hsplit' hrun' => ?_) hrun
  refine hmeets pre' i (post' ++ post) v ?_ hrun'
  rw [hsplit, hsplit', List.append_assoc, List.cons_append]

theorem Always.mono {Q R : σ → Prop} {s : σ} {is : List ι} (h : Always step Q s is)
    (hQR : ∀ u, Q u → R u) : Always step R s is :=
  fun pre post u hsplit hrun => hQR u (h pre post u hsplit hrun)

/-- Where an invariant is kept by the steps that meet a condition, and the
    property it implies is lost at the others, the states of a run all have the
    property exactly if the steps all meet the condition. -/
theorem always_iff_meets_of_invariant {I Q : σ → Prop}
    (hkeep : ∀ s i s', I s → P s i → step s i = .ok s' → I s') (himp : ∀ s, I s → Q s)
    (hlost : ∀ s i s', I s → ¬ P s i → step s i = .ok s' → ¬ Q s')
    {is : List ι} {s t : σ} (hs : I s) (hrun : run step s is = .ok t) :
    Always step Q s is ↔ Meets step P s is := by
  constructor
  · intro h
    induction is generalizing s with
    | nil => exact meets_nil s
    | cons i is ih =>
        rcases (run_cons step s t i is).mp hrun with ⟨s', hstep, hrest⟩
        rw [always_cons hstep] at h
        have hP : P s i := by
          by_contra hP
          exact hlost s i s' hs hP hstep (h.2 [] is s' rfl rfl)
        exact (meets_cons hstep).mpr ⟨hP, ih (hkeep s i s' hs hP hstep) hrest h.2⟩
  · intro h
    exact (always_of_meets hkeep hs h).mono himp

/-- Where a step keeps a property exactly if it meets a condition, the property
    is its own invariant. -/
theorem always_iff_meets {Q : σ → Prop}
    (hkeep : ∀ s i s', Q s → step s i = .ok s' → (Q s' ↔ P s i))
    {is : List ι} {s t : σ} (hs : Q s) (hrun : run step s is = .ok t) :
    Always step Q s is ↔ Meets step P s is :=
  always_iff_meets_of_invariant (fun s i s' hs hP hstep => (hkeep s i s' hs hstep).mpr hP)
    (fun _ h => h) (fun s i s' hs hP hstep h => hP ((hkeep s i s' hs hstep).mp h)) hs hrun

/-- A thread that can go on until it is done, and comes nearer at each step,
    gets there by its own steps. -/
theorem reaches_alone {I Done : σ → Prop} (measure : σ → Nat) (i : ι)
    (hgoes : ∀ s, I s → ¬ Done s → ∃ s', step s i = .ok s' ∧ I s' ∧ measure s' < measure s)
    (s : σ) (hs : I s) : ∃ n t, run step s (List.replicate n i) = .ok t ∧ Done t := by
  induction hn : measure s using Nat.strongRecOn generalizing s with
  | _ m ih =>
      by_cases hdone : Done s
      · exact ⟨0, s, rfl, hdone⟩
      · rcases hgoes s hs hdone with ⟨s', hstep, hs', hless⟩
        rcases ih (measure s') (hn ▸ hless) s' hs' rfl with ⟨n, t, hrun, ht⟩
        refine ⟨n + 1, t, ?_, ht⟩
        rw [List.replicate_succ, run, hstep]
        exact hrun

end Interleaving
