import RedPhone.Lib.Reading

/-!
# What a Reader Makes of All That Comes

However a stream is cut into portions, a reader ends in one of four ways: with
a value, with an exception the bytes call for, waiting for more of them, or, if
the connection is closed then, with the exception it has for that. Which of the
four it is, and what is left over, is computed here from the bytes alone, by a
`Parse`, and `Parses` says that a reader ends as its `Parse` says.

Reads that are not made do not matter. That is part of `Parses` too: an outcome
but waiting is the same whatever the reads after it return, and a reader that
waits is one that throws when it is told that nothing more will come.

## Main definitions

* `Parse`: What some bytes come to, with what lies behind it.
* `Parse.run`: A reader of the bytes in one piece.
* `Outcome`: The ways a reader ends.
* `Parses`: A reader ends as a `Parse` says.

## Theorems

* `parses_pure`, `parses_threw`, `parses_ofExcept`: Readers that need no bytes.
* `parses_mono`: More exceptions for the end of the connection.
* `Outcome.bind`, `parses_bind`: Two readers, one after the other.
* `parses_mapThrown`: A reader whose exceptions are replaced.
* `parses_readUntil`: A reader that looks for something.
* `Parses.refines`: A reader does what the one does that has all in one piece.
* `Parses.extends`: What lies behind does not matter.
-/

namespace Reading

variable {ε β α γ : Type}

/-- What some bytes come to: nothing yet, an exception, or a value and what
    lies behind it. -/
abbrev Parse (ε β α : Type) := List β → Option (Except ε (α × List β))

/-- One after the other. -/
def Parse.andThen (p : Parse ε β α) (q : α → Parse ε β γ) : Parse ε β γ := fun w =>
  match p w with
  | none => none
  | some (.error e) => some (.error e)
  | some (.ok (a, left)) => q a left

/-- With other exceptions. -/
def Parse.mapThrown (g : ε → ε) (p : Parse ε β α) : Parse ε β α := fun w =>
  match p w with
  | some (.error e) => some (.error (g e))
  | found => found

theorem Parse.andThen_error (p : Parse ε β α) (q : α → Parse ε β γ) (w : List β) (e : ε) :
    p.andThen q w = some (.error e) ↔ p w = some (.error e) ∨
      ∃ a left, p w = some (.ok (a, left)) ∧ q a left = some (.error e) := by
  unfold andThen
  cases hp : p w with
  | none => simp only [reduceCtorEq, false_and, exists_false, or_self]
  | some found =>
      cases found with
      | error e' =>
          simp only [Option.some.injEq, Except.error.injEq, reduceCtorEq, false_and, exists_false,
            or_false]
      | ok r =>
          rcases r with ⟨a, left⟩
          simp only [Option.some.injEq, reduceCtorEq, Except.ok.injEq, Prod.mk.injEq, false_or]
          constructor
          · intro h
            exact ⟨a, left, ⟨rfl, rfl⟩, h⟩
          · rintro ⟨_, _, ⟨rfl, rfl⟩, h⟩
            exact h

theorem Parse.andThen_ok (p : Parse ε β α) (q : α → Parse ε β γ) (w : List β)
    (r : γ × List β) : p.andThen q w = some (.ok r) ↔
      ∃ a left, p w = some (.ok (a, left)) ∧ q a left = some (.ok r) := by
  unfold andThen
  cases hp : p w with
  | none => simp only [reduceCtorEq, false_and, exists_false]
  | some found =>
      cases found with
      | error e => simp only [Option.some.injEq, reduceCtorEq, false_and, exists_false]
      | ok r' =>
          rcases r' with ⟨a, left⟩
          simp only [Option.some.injEq, Except.ok.injEq, Prod.mk.injEq, and_assoc,
            exists_eq_left', exists_and_left]

theorem Parse.mapThrown_ok (g : ε → ε) (p : Parse ε β α) (w : List β) (r : α × List β) :
    p.mapThrown g w = some (.ok r) ↔ p w = some (.ok r) := by
  unfold mapThrown
  cases hp : p w with
  | none => simp only [reduceCtorEq]
  | some found =>
      cases found with
      | ok r' => simp only [Option.some.injEq]
      | error e => simp only [Option.some.injEq, reduceCtorEq]

theorem Parse.mapThrown_error (g : ε → ε) (p : Parse ε β α) (w : List β) (e : ε) :
    p.mapThrown g w = some (.error e) ↔ ∃ e', p w = some (.error e') ∧ e = g e' := by
  unfold mapThrown
  cases hp : p w with
  | none => simp only [reduceCtorEq, false_and, exists_false]
  | some found =>
      cases found with
      | ok r => simp only [Option.some.injEq, reduceCtorEq, false_and, exists_false]
      | error e' => simp only [Option.some.injEq, Except.error.injEq, exists_eq_left', @eq_comm _ e]

/-- A reader of the bytes in one piece. -/
def Parse.run (p : Parse ε β α) (w : List β) : Except (Stop ε) (α × List β) :=
  match p w with
  | none => .error .waits
  | some (.error e) => .error (.threw e)
  | some (.ok r) => .ok r

theorem Parse.run_ok {p : Parse ε β α} {w : List β} {r : α × List β} :
    p.run w = .ok r ↔ p w = some (.ok r) := by
  unfold run
  cases p w with
  | none => simp only [reduceCtorEq]
  | some found =>
      cases found with
      | error e => simp only [reduceCtorEq, Option.some.injEq]
      | ok r' => simp only [Except.ok.injEq, Option.some.injEq]

/-- What is found in them. -/
def Parse.ofFound (found : List β → Option (α × List β)) : Parse ε β α := fun w =>
  (found w).map .ok

theorem Parse.ofFound_some {found : List β → Option (α × List β)} {w left : List β} {a : α}
    (h : found w = some (a, left)) : (ofFound found : Parse ε β α) w = some (.ok (a, left)) := by
  rw [ofFound, h]
  rfl

theorem Parse.ofFound_none {found : List β → Option (α × List β)} {w : List β}
    (h : found w = none) : (ofFound found : Parse ε β α) w = none := by
  rw [ofFound, h]
  rfl

theorem Parse.ofFound_ok {found : List β → Option (α × List β)} (w left : List β) (a : α) :
    (ofFound found : Parse ε β α) w = some (.ok (a, left)) ↔ found w = some (a, left) := by
  unfold ofFound
  rw [Option.map_eq_some_iff]
  constructor
  · rintro ⟨p, hp, hsame⟩
    rw [← Except.ok.inj hsame]
    exact hp
  · intro h
    exact ⟨(a, left), h, rfl⟩

/-- Looking for something does not fail. -/
theorem Parse.ofFound_error {found : List β → Option (α × List β)} (w : List β) (e : ε) :
    (ofFound found : Parse ε β α) w ≠ some (.error e) := by
  unfold ofFound
  cases found w with
  | none => exact nofun
  | some p => exact nofun

/-- How a reader ends that has got some bytes and reads from a connection that
    is still open, where the bytes come to `found`. The exceptions a reader has
    for the end of the connection are `short`. -/
inductive Outcome (f : Reader ε β α) (found : Option (Except ε (α × List β))) (short : ε → Prop)
    (buffered : List β) (reads : List (Read β)) : Prop
  | impossible (hreads : reads ≠ []) (hend : f ⟨buffered, reads⟩ = .error .impossible)
      (hmore : ∀ more, f ⟨buffered, reads ++ more⟩ = .error .impossible)
  | waits (hfound : found = none) (hend : f ⟨buffered, reads⟩ = .error .waits)
      (hclosed : ∀ more, ∃ e, short e ∧ f ⟨buffered, reads ++ .eof :: more⟩ = .error (.threw e))
  | threw (e : ε) (hfound : found = some (.error e))
      (hend : ∀ more, f ⟨buffered, reads ++ more⟩ = .error (.threw e))
  | returns (a : α) (left : List β) (rest : List (Read β))
      (hfound : found = some (.ok (a, left ++ arriving rest))) (hrest : rest <:+ reads)
      (hend : ∀ more, f ⟨buffered, reads ++ more⟩ = .ok (a, ⟨left, rest ++ more⟩))

/-- A reader ends as a `Parse` of all that comes says. -/
def Parses (f : Reader ε β α) (p : Parse ε β α) (short : ε → Prop) : Prop :=
  ∀ buffered reads, Flowing reads → Outcome f (p (buffered ++ arriving reads)) short buffered reads

/-- What is left of a connection that is open is open. -/
theorem Flowing.suffix {reads rest : List (Read β)} (h : Flowing reads) (hrest : rest <:+ reads) :
    Flowing rest :=
  fun heof => h (hrest.subset heof)

theorem parses_pure (short : ε → Prop) (a : α) :
    Parses (pure a : Reader ε β α) (fun w => some (.ok (a, w))) short := by
  intro buffered reads _
  exact .returns a buffered reads rfl (List.suffix_refl reads) (fun _ => rfl)

theorem parses_threw (short : ε → Prop) (e : ε) :
    Parses (threw e : Reader ε β α) (fun _ => some (.error e)) short := by
  intro buffered reads _
  exact .threw e rfl (fun _ => rfl)

theorem parses_ofExcept (short : ε → Prop) (r : Except ε α) :
    Parses (ofExcept r : Reader ε β α) (fun w => some (r.map (·, w))) short := by
  cases r with
  | ok a => exact parses_pure short a
  | error e => exact parses_threw short e

/-- The exceptions for the end of the connection may be more. -/
theorem parses_mono {f : Reader ε β α} {p : Parse ε β α} {short short' : ε → Prop}
    (hf : Parses f p short) (hmono : ∀ e, short e → short' e) : Parses f p short' := by
  intro buffered reads hflowing
  cases hf buffered reads hflowing with
  | impossible hreads hend hmore => exact .impossible hreads hend hmore
  | waits hfound hend hclosed =>
      refine .waits hfound hend (fun more => ?_)
      rcases hclosed more with ⟨e, hshort, hthrew⟩
      exact ⟨e, hmono e hshort, hthrew⟩
  | threw e hfound hend => exact .threw e hfound hend
  | returns a left rest hfound hrest hend => exact .returns a left rest hfound hrest hend

/-- A reader that goes on where the first has returned. -/
theorem Outcome.bind {f : Reader ε β α} {g : α → Reader ε β γ} {p : Parse ε β α}
    {q : α → Parse ε β γ} {short : ε → Prop} {buffered : List β} {reads : List (Read β)}
    (hf : Outcome f (p (buffered ++ arriving reads)) short buffered reads)
    (hg : ∀ a left rest, f ⟨buffered, reads⟩ = .ok (a, ⟨left, rest⟩) → rest <:+ reads →
      Outcome (g a) (q a (left ++ arriving rest)) short left rest) :
    Outcome (f >>= g) ((p.andThen q) (buffered ++ arriving reads)) short buffered reads := by
  cases hf with
  | impossible hreads hend hmore =>
      refine .impossible hreads ?_ (fun more => ?_)
      · rw [bind_eq, hend]
      · rw [bind_eq, hmore more]
  | waits hfound hend hclosed =>
      refine .waits ?_ ?_ (fun more => ?_)
      · rw [Parse.andThen, hfound]
      · rw [bind_eq, hend]
      · rcases hclosed more with ⟨e, hshort, hthrew⟩
        refine ⟨e, hshort, ?_⟩
        rw [bind_eq, hthrew]
  | threw e hfound hend =>
      refine .threw e ?_ (fun more => ?_)
      · rw [Parse.andThen, hfound]
      · rw [bind_eq, hend more]
  -- Where the first reader returns, the second one decides.
  | returns a left rest hfound hrest hend =>
      have hrun : ∀ more, (f >>= g) ⟨buffered, reads ++ more⟩ = g a ⟨left, rest ++ more⟩ := by
        intro more
        rw [bind_eq, hend more]
      have hnone := hend []
      rw [List.append_nil, List.append_nil] at hnone
      have hrunNone := hrun []
      rw [List.append_nil, List.append_nil] at hrunNone
      have hparse : (p.andThen q) (buffered ++ arriving reads) = q a (left ++ arriving rest) := by
        rw [Parse.andThen, hfound]
      rw [hparse]
      cases hg a left rest hnone hrest with
      | impossible hreads hend' hmore =>
          refine .impossible ?_ (hrunNone.trans hend') (fun more => (hrun more).trans (hmore more))
          -- A source that cannot be has a read, and so has the one before it.
          intro hnil
          rw [hnil] at hrest
          exact hreads (List.suffix_nil.mp hrest)
      | waits hfound' hend' hclosed =>
          refine .waits hfound' (hrunNone.trans hend') (fun more => ?_)
          rcases hclosed more with ⟨e, hshort, hthrew⟩
          exact ⟨e, hshort, (hrun _).trans hthrew⟩
      | threw e hfound' hend' =>
          exact .threw e hfound' (fun more => (hrun more).trans (hend' more))
      | returns c left' rest' hfound' hrest' hend' =>
          exact .returns c left' rest' hfound' (hrest'.trans hrest)
            (fun more => (hrun more).trans (hend' more))

theorem parses_bind {f : Reader ε β α} {g : α → Reader ε β γ} {p : Parse ε β α}
    {q : α → Parse ε β γ} {short : ε → Prop} (hf : Parses f p short)
    (hg : ∀ a, Parses (g a) (q a) short) : Parses (f >>= g) (p.andThen q) short := by
  intro buffered reads hflowing
  refine (hf buffered reads hflowing).bind (fun a left rest _ hrest => ?_)
  exact hg a left rest (hflowing.suffix hrest)

theorem parses_mapThrown {f : Reader ε β α} {p : Parse ε β α} {short : ε → Prop} (g : ε → ε)
    (hf : Parses f p short) :
    Parses (mapThrown g f) (p.mapThrown g) (fun e => ∃ e', short e' ∧ e = g e') := by
  intro buffered reads hflowing
  cases hf buffered reads hflowing with
  | impossible hreads hend hmore =>
      refine .impossible hreads ?_ (fun more => ?_)
      · rw [mapThrown, hend]
      · rw [mapThrown, hmore more]
  | waits hfound hend hclosed =>
      refine .waits ?_ ?_ (fun more => ?_)
      · rw [Parse.mapThrown, hfound]
      · rw [mapThrown, hend]
      · rcases hclosed more with ⟨e, hshort, hthrew⟩
        refine ⟨g e, ⟨e, hshort, rfl⟩, ?_⟩
        rw [mapThrown, hthrew]
  | threw e hfound hend =>
      refine .threw (g e) ?_ (fun more => ?_)
      · rw [Parse.mapThrown, hfound]
      · rw [mapThrown, hend more]
  | returns a left rest hfound hrest hend =>
      refine .returns a left rest ?_ hrest (fun more => ?_)
      · rw [Parse.mapThrown, hfound]
      · rw [mapThrown, hend more]

/-- Looking for something parses what it looks for, if more bytes do not change
    what is found. -/
theorem parses_readUntil [DecidableEq β] (limit : List β → Nat) (e : ε)
    {found : List β → Option (α × List β)}
    (hextends : ∀ x a left more, found x = some (a, left) →
      found (x ++ more) = some (a, left ++ more)) :
    Parses (readUntil limit e found) (.ofFound found) (· = e) := by
  intro buffered reads hflowing
  induction reads generalizing buffered with
  | nil =>
      rw [arriving_nil, List.append_nil]
      cases hfound : found buffered with
      | some p =>
          rcases p with ⟨a, left⟩
          refine .returns a left [] ?_ (List.suffix_refl []) (readUntil_some hfound)
          rw [arriving_nil, List.append_nil]
          exact Parse.ofFound_some hfound
      | none =>
          exact .waits (Parse.ofFound_none hfound) (readUntil_nil hfound)
            (fun more => ⟨e, rfl, readUntil_eof hfound more⟩)
  | cons r reads ih =>
      cases hfound : found buffered with
      | some p =>
          rcases p with ⟨a, left⟩
          -- It is there already, and no read is used.
          refine .returns a left (r :: reads) ?_ (List.suffix_refl _) (fun more => ?_)
          · exact Parse.ofFound_some (hextends buffered a left _ hfound)
          · exact readUntil_some hfound _
      | none =>
          -- One more read is needed.
          have hrest : Flowing reads := hflowing.suffix (List.suffix_cons r reads)
          cases r with
          | eof => exact absurd List.mem_cons_self hflowing
          | timeout =>
              exact .impossible (List.cons_ne_nil _ _) (readUntil_timeout hfound reads)
                (fun more => readUntil_timeout hfound (reads ++ more))
          | data portion =>
              by_cases hfits : Fits (limit buffered) portion
              · -- The portion goes behind what is held, whatever comes after it.
                have hstep : ∀ reads, readUntil limit e found ⟨buffered, .data portion :: reads⟩
                    = readUntil limit e found ⟨buffered ++ portion, reads⟩ := by
                  intro reads
                  rw [readUntil_data hfound, if_pos hfits]
                have hall : buffered ++ arriving (.data portion :: reads)
                    = (buffered ++ portion) ++ arriving reads := by
                  rw [arriving_cons, List.append_assoc]
                  rfl
                rw [hall]
                cases ih (buffered ++ portion) hrest with
                | impossible _ hend hmore =>
                    exact .impossible (List.cons_ne_nil _ _) ((hstep _).trans hend)
                      (fun more => (hstep _).trans (hmore more))
                | waits hnone hend hclosed =>
                    refine .waits hnone ((hstep _).trans hend) (fun more => ?_)
                    rcases hclosed more with ⟨e', hshort, hthrew⟩
                    exact ⟨e', hshort, (hstep _).trans hthrew⟩
                | threw e' hfound' hend =>
                    exact .threw e' hfound' (fun more => (hstep _).trans (hend more))
                | returns a left rest hfound' hsuffix hend =>
                    exact .returns a left rest hfound' (hsuffix.trans (List.suffix_cons _ _))
                      (fun more => (hstep _).trans (hend more))
              · -- A read that returns more than was asked for.
                have hnot : ∀ reads, readUntil limit e found ⟨buffered, .data portion :: reads⟩
                    = .error .impossible := by
                  intro reads
                  rw [readUntil_data hfound, if_neg hfits]
                exact .impossible (List.cons_ne_nil _ _) (hnot reads)
                  (fun more => hnot (reads ++ more))

/-- A reader does to what is held and what comes the same as the one that has
    all of it in one piece. -/
theorem Parses.refines {f : Reader ε β α} {p : Parse ε β α} {short : ε → Prop}
    (hf : Parses f p short) (s : Source β) (hflowing : Flowing s.reads)
    (hpossible : f s ≠ .error .impossible) :
    (f s).map (fun r => (r.1, r.2.pending)) = p.run s.pending := by
  unfold Parse.run Source.pending
  cases hf s.buffered s.reads hflowing with
  | impossible _ hend _ => exact absurd hend hpossible
  | waits hfound hend _ =>
      rw [hfound, hend]
      rfl
  | threw e hfound hend =>
      have hend := hend []
      rw [List.append_nil] at hend
      rw [hfound, hend]
      rfl
  | returns a left rest hfound _ hend =>
      have hend := hend []
      rw [List.append_nil, List.append_nil] at hend
      rw [hfound, hend]
      rfl

/-- What a reader leaves of an open connection is open. -/
theorem Parses.flowing {f : Reader ε β α} {p : Parse ε β α} {short : ε → Prop}
    (hf : Parses f p short) {s s' : Source β} {a : α} (hflowing : Flowing s.reads)
    (hreturns : f s = .ok (a, s')) : Flowing s'.reads := by
  cases hf s.buffered s.reads hflowing with
  | impossible _ hend _ => exact absurd (hreturns.symm.trans hend) (by simp only [reduceCtorEq,
      not_false_eq_true])
  | waits _ hend _ => exact absurd (hreturns.symm.trans hend) (by simp only [reduceCtorEq,
      not_false_eq_true])
  | threw e _ hend =>
      have hend := hend []
      rw [List.append_nil, hreturns] at hend
      simp only [reduceCtorEq] at hend
  | returns a' left rest _ hrest hend =>
      have hend := hend []
      rw [List.append_nil, List.append_nil, hreturns, Except.ok.injEq, Prod.mk.injEq] at hend
      rw [hend.2]
      exact hflowing.suffix hrest

/-- What is found in some bytes is found in more of them, and what lies behind
    is left. -/
theorem Parses.extends {f : Reader ε β α} {p : Parse ε β α} {short : ε → Prop}
    (hf : Parses f p short) {w left : List β} {a : α} (hfound : p w = some (.ok (a, left)))
    (more : List β) : p (w ++ more) = some (.ok (a, left ++ more)) := by
  have hnone : w ++ arriving [] = w := by rw [arriving_nil, List.append_nil]
  have hall : w ++ arriving [.data more] = w ++ more := by
    rw [arriving_cons, arriving_nil, List.append_nil]
    rfl
  have hflowing : Flowing [Read.data more] := by
    intro heof
    simp only [List.mem_singleton, reduceCtorEq] at heof
  -- The reader does not make the read that brings the rest.
  have hrun : f ⟨w, [.data more]⟩ = .ok (a, ⟨left, [.data more]⟩) := by
    have houtcome := hf w [] List.not_mem_nil
    rw [hnone, hfound] at houtcome
    cases houtcome with
    | impossible hreads _ _ => exact absurd rfl hreads
    | waits hnone _ _ => simp only [reduceCtorEq] at hnone
    | threw e herror _ => simp only [Option.some.injEq, reduceCtorEq] at herror
    | returns a' left' rest hsame hrest hend =>
        rw [List.suffix_nil.mp hrest, arriving_nil, List.append_nil, Option.some.injEq,
          Except.ok.injEq, Prod.mk.injEq] at hsame
        rw [hsame.1, hsame.2]
        have hend := hend [.data more]
        rw [List.suffix_nil.mp hrest] at hend
        exact hend
  have hrefines := hf.refines ⟨w, [.data more]⟩ hflowing (by
    rw [hrun]
    simp only [ne_eq, reduceCtorEq, not_false_eq_true])
  rw [hrun, Source.pending, hall] at hrefines
  have hleft : (⟨left, [.data more]⟩ : Source β).pending = left ++ more := by
    rw [Source.pending, arriving_cons, arriving_nil, List.append_nil]
    rfl
  rw [Except.map, hleft] at hrefines
  unfold Parse.run at hrefines
  cases hmore : p (w ++ more) with
  | none =>
      rw [hmore] at hrefines
      simp only [reduceCtorEq] at hrefines
  | some r =>
      rw [hmore] at hrefines
      cases r with
      | error e => simp only [reduceCtorEq] at hrefines
      | ok r =>
          simp only [Except.ok.injEq] at hrefines
          rw [hrefines]

end Reading
