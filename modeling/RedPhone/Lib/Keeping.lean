import RedPhone.Lib.Parsing

/-!
# Readers That Go On After an Exception

A reader that throws is done, but the connection it has read from is not, and
who catches the exception may read on. What is read then depends on how far
the reader has come: what it had in its buffer when it threw, and which reads
it had made. A `Reader` has no answer to that, as it forgets the source where
it does not return.

A `Keeper` is a reader that leaves a source behind however it ends. `forget`
makes a reader of it again, and takes composition to composition, so that a
keeper written after a reader can be shown to be that reader, step by step.

`Seamless` is to keepers what `Parses` is to readers. On a connection that is
not closed, a seamless keeper ends the same way if it is given all the bytes
in one piece, and leaves the same bytes, whether it has returned or thrown.

## Main definitions

* `Keeper`: A computation that reads, and always leaves a source.
* `Keeper.forget`: The reader it is.
* `keeping`: A reader, with what it leaves where it throws.
* `Source.whole`: A source in one piece.
* `Seamless`: What a keeper comes to and leaves does not depend on the
  portions.
* `Keeper.onStream`: A keeper of the bytes in one piece.

## Theorems

* `forget_keeping`, `forget_bind`, `forget_mapThrown`: Keepers as readers.
* `Parses.whole`: A reader of the bytes in one piece.
* `seamless_pure`, `seamless_bind`, `seamless_mapThrown`: Seamless keepers.
* `seamless_keeping`: A reader that throws at its start, or not at all.
* `Seamless.refines`: A seamless keeper is one of the stream.
-/

namespace Reading

variable {ε β α γ : Type}

/-- A computation that reads, and leaves a source however it ends. -/
abbrev Keeper (ε β α : Type) := EStateM (Stop ε) (Source β) α

instance instDecidableEqResult {σ : Type} [DecidableEq ε] [DecidableEq σ] [DecidableEq α] :
    DecidableEq (EStateM.Result ε σ α) := fun r r' => match r, r' with
  | .ok a s, .ok a' s' =>
    decidable_of_iff (a = a' ∧ s = s') (by simp only [EStateM.Result.ok.injEq])
  | .error e s, .error e' s' =>
    decidable_of_iff (e = e' ∧ s = s') (by simp only [EStateM.Result.error.injEq])
  | .ok _ _, .error _ _ => .isFalse (by simp only [reduceCtorEq, not_false_eq_true])
  | .error _ _, .ok _ _ => .isFalse (by simp only [reduceCtorEq, not_false_eq_true])

/-- The computation without what it leaves where it does not return. -/
def Keeper.forget (f : Keeper ε β α) : Reader ε β α := fun s => match f s with
  | .ok a s' => .ok (a, s')
  | .error e _ => .error e

/-- A reader, with what it leaves where it throws. One that waits has not come
    to an end, and the source it began with stands for that. -/
def keeping (after : Source β → Source β) (f : Reader ε β α) : Keeper ε β α := fun s =>
  match f s with
  | .ok (a, s') => .ok a s'
  | .error (.threw e) => .error (.threw e) (after s)
  | .error stop => .error stop s

/-- What needs no bytes. -/
def Keeper.ofExcept (r : Except ε α) : Keeper ε β α := keeping id (Reading.ofExcept r)

/-- Replace the exceptions. -/
def Keeper.mapThrown (g : ε → ε) (f : Keeper ε β α) : Keeper ε β α := fun s => match f s with
  | .error (.threw e) s' => .error (.threw (g e)) s'
  | r => r

theorem forget_keeping (after : Source β → Source β) (f : Reader ε β α) :
    (keeping after f).forget = f := by
  funext s
  unfold Keeper.forget keeping
  cases f s with
  | ok r => rfl
  | error stop =>
      cases stop with
      | _ => rfl

theorem forget_ofExcept (r : Except ε α) :
    (Keeper.ofExcept r : Keeper ε β α).forget = ofExcept r := forget_keeping id _

theorem forget_pure (a : α) : (pure a : Keeper ε β α).forget = pure a := rfl

theorem Keeper.bind_eq (f : Keeper ε β α) (g : α → Keeper ε β γ) (s : Source β) :
    (f >>= g) s = match f s with
      | .ok a s' => g a s'
      | .error e s' => .error e s' := by
  change EStateM.bind f g s = _
  unfold EStateM.bind
  -- The second is only reached where the first returns.
  cases f s with
  | ok a s' => rfl
  | error e s' => rfl

theorem Keeper.forget_eq (f : Keeper ε β α) (s : Source β) : f.forget s = match f s with
    | .ok a s' => .ok (a, s')
    | .error e _ => .error e := rfl

/-- One keeper after the other is one reader after the other. -/
theorem forget_bind (f : Keeper ε β α) (g : α → Keeper ε β γ) :
    (f >>= g).forget = f.forget >>= fun a => (g a).forget := by
  funext s
  rw [Reading.bind_eq, Keeper.forget_eq, Keeper.forget_eq, Keeper.bind_eq]
  cases f s with
  | ok a s' => rfl
  | error e s' => rfl

theorem forget_mapThrown (g : ε → ε) (f : Keeper ε β α) :
    (f.mapThrown g).forget = mapThrown g f.forget := by
  funext s
  rw [Keeper.forget_eq, Keeper.mapThrown, mapThrown, Keeper.forget_eq]
  cases f s with
  | ok a s' => rfl
  | error e s' =>
      cases e with
      | _ => rfl

/-- Where a keeper returns its reader does. -/
theorem Keeper.forget_ok {f : Keeper ε β α} {s s' : Source β} {a : α} :
    f.forget s = .ok (a, s') ↔ f s = .ok a s' := by
  unfold Keeper.forget
  cases f s with
  | ok a' t => simp only [Except.ok.injEq, Prod.mk.injEq, EStateM.Result.ok.injEq]
  | error e t => simp only [reduceCtorEq]

/-! ## In one piece -/

/-- The source, with all that is to come in its buffer. -/
def Source.whole (s : Source β) : Source β := ⟨s.pending, []⟩

@[simp] theorem Source.pending_nil (w : List β) : (⟨w, []⟩ : Source β).pending = w := by
  rw [pending, arriving_nil, List.append_nil]

/-- What a keeper leaves. -/
def leftOf {σ : Type} : EStateM.Result (Stop ε) σ α → σ
  | .ok _ s => s
  | .error _ s => s

/-- An end with another source. -/
def mapLeft {σ τ : Type} (g : σ → τ) :
    EStateM.Result (Stop ε) σ α → EStateM.Result (Stop ε) τ α
  | .ok a s => .ok a (g s)
  | .error e s => .error e (g s)

/-- No read was made that cannot be. -/
def Possible {σ : Type} (r : EStateM.Result (Stop ε) σ α) : Prop :=
  ∀ s, r ≠ .error .impossible s

/-- From a source that is not closed, a keeper does to the portions what it
    does to all of the bytes in one piece, and leaves the same of them. -/
def SeamlessAt (f : Keeper ε β α) (s : Source β) : Prop :=
  Flowing s.reads → Possible (f s) →
    f s.whole = mapLeft Source.whole (f s) ∧ Flowing (leftOf (f s)).reads

/-- What a keeper comes to and leaves does not depend on the portions. -/
def Seamless (f : Keeper ε β α) : Prop := ∀ s, SeamlessAt f s

theorem seamless_pure (a : α) : Seamless (pure a : Keeper ε β α) := by
  intro s hflowing _
  exact ⟨rfl, hflowing⟩

theorem seamlessAt_bind {f : Keeper ε β α} {g : α → Keeper ε β γ} {s : Source β}
    (hf : SeamlessAt f s) (hg : ∀ a s', f s = .ok a s' → SeamlessAt (g a) s') :
    SeamlessAt (f >>= g) s := by
  intro hflowing hpossible
  have hrun := Keeper.bind_eq f g s
  have hwhole := Keeper.bind_eq f g s.whole
  cases hend : f s with
  -- The first leaves the same on both sources, and the second goes on from
  -- there.
  | ok a s' =>
      rw [hend] at hrun
      have hfirst := hf hflowing (fun t => by rw [hend]; exact nofun)
      rw [hend] at hfirst
      rw [hfirst.1] at hwhole
      rw [hrun] at hpossible ⊢
      rw [hwhole]
      exact hg a s' hend hfirst.2 hpossible
  | error e s' =>
      rw [hend] at hrun
      -- The second keeper is not reached, on either source.
      have hfirst := hf hflowing (fun t ht => hpossible t (by rw [Keeper.bind_eq, ht]))
      rw [hend] at hfirst
      rw [hfirst.1] at hwhole
      rw [hrun, hwhole]
      exact ⟨rfl, hfirst.2⟩

theorem seamless_bind {f : Keeper ε β α} {g : α → Keeper ε β γ} (hf : Seamless f)
    (hg : ∀ a, Seamless (g a)) : Seamless (f >>= g) :=
  fun s => seamlessAt_bind (hf s) fun a s' _ => hg a s'

theorem seamless_mapThrown {f : Keeper ε β α} (g : ε → ε) (hf : Seamless f) :
    Seamless (f.mapThrown g) := by
  intro s hflowing hpossible
  unfold Keeper.mapThrown at hpossible ⊢
  cases hend : f s with
  | ok a s' =>
      have hsame := hf s hflowing (fun t => by rw [hend]; exact nofun)
      rw [hend] at hsame
      rw [hsame.1]
      exact ⟨rfl, hsame.2⟩
  | error e s' =>
      rw [hend] at hpossible
      have hsame := hf s hflowing (fun t ht => by
        rw [hend] at ht
        cases ht
        exact hpossible _ rfl)
      rw [hend] at hsame
      rw [hsame.1]
      cases e with
      | _ => exact ⟨rfl, hsame.2⟩

/-- A reader that has all the bytes ends as they say. -/
theorem Parses.whole {f : Reader ε β α} {p : Parse ε β α} {short : ε → Prop}
    (hf : Parses f p short) (w : List β) :
    f ⟨w, []⟩ = (p.run w).map fun r => (r.1, ⟨r.2, []⟩) := by
  have hnone : w ++ arriving [] = w := by rw [arriving_nil, List.append_nil]
  have houtcome := hf w [] List.not_mem_nil
  rw [hnone] at houtcome
  unfold Parse.run
  -- All reads are over, so what is found is found in the buffer.
  cases houtcome with
  | impossible hreads _ _ => exact absurd rfl hreads
  | waits hfound hend _ =>
      rw [hfound, hend]
      rfl
  | threw e hfound hend =>
      have hend := hend []
      rw [List.append_nil] at hend
      rw [hfound, hend]
      rfl
  | returns a left rest hfound hrest hend =>
      have hend := hend []
      rw [List.suffix_nil.mp hrest] at hfound hend
      rw [arriving_nil, List.append_nil] at hfound
      rw [hfound]
      exact hend

/-- A reader that parses the bytes is seamless, if it leaves a connection that
    is not closed as it was where it throws. -/
theorem seamless_keeping {f : Reader ε β α} {p : Parse ε β α} {short : ε → Prop}
    {after : Source β → Source β} (hf : Parses f p short)
    (hafter : ∀ s e, Flowing s.reads → f s = .error (.threw e) → after s = s) :
    Seamless (keeping after f) := by
  intro s hflowing hpossible
  have hwhole := hf.whole s.pending
  have hopen : Flowing s.whole.reads := List.not_mem_nil
  -- What does not end on the portions does not end on the whole.
  have hstop : ∀ stop : Stop ε, f s = .error stop → f s.whole = .error stop := by
    intro stop hend
    have hrefines := hf.refines s hflowing (fun himpossible => by
      refine hpossible s ?_
      unfold keeping
      rw [himpossible])
    rw [hend] at hrefines
    rw [Source.whole, hwhole, ← hrefines]
    rfl
  cases hend : f s with
  | error stop =>
      have hsame := hstop stop hend
      unfold keeping
      rw [hend, hsame]
      cases stop with
      | waits => exact ⟨rfl, hflowing⟩
      | impossible =>
          refine absurd ?_ (hpossible s)
          unfold keeping
          rw [hend]
      -- Where it throws what is left is what there was, portions or whole.
      | threw e =>
          simp only [hafter s e hflowing hend, hafter s.whole e hopen hsame]
          exact ⟨rfl, hflowing⟩
  | ok r =>
      rcases r with ⟨a, t⟩
      have hrefines := hf.refines s hflowing (by rw [hend]; exact nofun)
      rw [hend] at hrefines
      have hsame : f s.whole = .ok (a, t.whole) := by
        rw [Source.whole, hwhole, ← hrefines]
        rfl
      unfold keeping
      rw [hend, hsame]
      exact ⟨rfl, hf.flowing hflowing hend⟩

theorem seamless_ofExcept (r : Except ε α) : Seamless (Keeper.ofExcept r : Keeper ε β α) :=
  seamless_keeping (parses_ofExcept (fun _ => True) r) (fun _ _ _ _ => rfl)

/-- A keeper of the bytes in one piece. -/
def Keeper.onStream (f : Keeper ε β α) : EStateM (Stop ε) (List β) α := fun w =>
  mapLeft Source.pending (f ⟨w, []⟩)

/-- A seamless keeper is one of the stream, and leaves its connection open. -/
theorem Seamless.refines {f : Keeper ε β α} (hf : Seamless f) {s : Source β}
    (hflowing : Flowing s.reads) (hpossible : Possible (f s)) :
    f.onStream s.pending = mapLeft Source.pending (f s) ∧ Flowing (leftOf (f s)).reads := by
  rcases hf s hflowing hpossible with ⟨hwhole, hopen⟩
  refine ⟨?_, hopen⟩
  have hpending : ∀ t : Source β, t.whole.pending = t.pending := by
    intro t
    rw [Source.whole, Source.pending_nil]
  rw [Keeper.onStream, ← Source.whole, hwhole]
  cases f s with
  | ok a t => rw [mapLeft, mapLeft, mapLeft, hpending]
  | error e t => rw [mapLeft, mapLeft, mapLeft, hpending]

end Reading
