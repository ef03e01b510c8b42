import Mathlib.Data.List.Basic
import Mathlib.Tactic.Common
import Mathlib.Tactic.Ring

/-!
# Reading What Has Arrived

A connection delivers its bytes in whatever portions the network makes of them.
A reader keeps what it has been given too much of and asks for more when it has
too little; it returns when it has enough, and waits when nothing more has
arrived. The portions are a list here, one entry for what each read of the
socket returns, so a computation that reads is a function, and one that waits
is one that ran out of entries.

A read cannot return more than was asked for, nor an empty portion. A list with
such an entry is a history that cannot be, and a reader that meets it says so.

`Takes` is what a reader does for one message: it returns as soon as the
message is there, with exactly what lies behind it left over, and waits before.
`Steady` says that how a reader takes a message follows from what it does to
the message in one piece, and is what makes it independent of the portions.

## Main definitions

* `Read`: What one read returns.
* `Stop`: Why a reader does not return.
* `Source`: What is left over, and what the reads to come return.
* `Reader`: A computation that reads.
* `readUntil`: Read until something is found.
* `Takes`: A reader takes a message.
* `Steady`: What a reader takes does not depend on the portions.
* `Consumes`: A reader uses reads up.
* `portions`: The lengths of the portions.

## Theorems

* `Comparable.cases`: What has come is short of a message, or has it all.
* `takes_bind`: Two messages, one after the other.
* `Takes.whole`: A message in one piece.
* `readUntil_ok`: `readUntil` loses nothing.
* `takes_readUntil`: What it takes.
* `steady_pure`, `steady_bind`, `steady_readUntil`: Steady readers.
* `consumes_pure`, `consumes_bind`, `consumes_readUntil`: They all use reads up.
* `sum_portions`: The portions make up what arrives.
-/

namespace Reading

variable {ε β α γ : Type}

/-- What one read of a socket returns. -/
inductive Read (β : Type)
  | data (portion : List β)
  | timeout
  | eof
  deriving DecidableEq, Repr

def Read.bytes : Read β → List β
  | .data portion => portion
  | .timeout => []
  | .eof => []

/-- Why a reader does not return. -/
inductive Stop (ε : Type)
  /-- Nothing more has arrived. -/
  | waits
  /-- No read of it returns what comes next. -/
  | impossible
  | threw (e : ε)
  deriving DecidableEq, Repr

/-- What has been read and not used, and what the reads to come return. -/
structure Source (β : Type) where
  buffered : List β
  reads : List (Read β)
  deriving DecidableEq, Repr

/-- A computation that reads, and keeps what it has not used. -/
abbrev Reader (ε β α : Type) := StateT (Source β) (Except (Stop ε)) α

/-- Leave by an exception. -/
def threw (e : ε) : Reader ε β α := fun _ => .error (.threw e)

/-- What needs no bytes. -/
def ofExcept : Except ε α → Reader ε β α
  | .ok a => pure a
  | .error e => threw e

/-- Replace the exceptions of a reader. -/
def mapThrown (g : ε → ε) (f : Reader ε β α) : Reader ε β α := fun s => match f s with
  | .error (.threw e) => .error (.threw (g e))
  | r => r

/-- A portion fits a read that asks for at most so many. -/
def Fits (limit : Nat) (portion : List β) : Prop := portion ≠ [] ∧ portion.length ≤ limit

instance (limit : Nat) (portion : List β) [DecidableEq β] : Decidable (Fits limit portion) :=
  inferInstanceAs (Decidable (_ ∧ _))

/-- Read until something is found in what is buffered, without a timeout. A
    read asks for as many as the buffer says. -/
def readUntilLoop [DecidableEq β] (limit : List β → Nat) (e : ε)
    (found : List β → Option (α × List β)) :
    List β → List (Read β) → Except (Stop ε) (α × Source β)
  | buffered, [] => match found buffered with
    | some (a, left) => .ok (a, ⟨left, []⟩)
    | none => .error .waits
  | buffered, r :: reads => match found buffered, r with
    | some (a, left), _ => .ok (a, ⟨left, r :: reads⟩)
    | none, .data portion =>
      if Fits (limit buffered) portion then
        readUntilLoop limit e found (buffered ++ portion) reads
      else .error .impossible
    | none, .timeout => .error .impossible
    | none, .eof => .error (.threw e)

@[inherit_doc readUntilLoop]
def readUntil [DecidableEq β] (limit : List β → Nat) (e : ε)
    (found : List β → Option (α × List β)) : Reader ε β α :=
  fun s => readUntilLoop limit e found s.buffered s.reads

/-- The bytes some reads return. -/
def arriving (reads : List (Read β)) : List β := reads.flatMap Read.bytes

@[simp] theorem arriving_nil : arriving ([] : List (Read β)) = [] := rfl

@[simp] theorem arriving_cons (r : Read β) (reads : List (Read β)) :
    arriving (r :: reads) = r.bytes ++ arriving reads := List.flatMap_cons

@[simp] theorem arriving_append (reads reads' : List (Read β)) :
    arriving (reads ++ reads') = arriving reads ++ arriving reads' := List.flatMap_append

/-- What a source still has, held or to come. -/
def Source.pending (s : Source β) : List β := s.buffered ++ arriving s.reads

/-- How many bytes a source still has. -/
def Source.remaining (s : Source β) : Nat := (s.buffered ++ arriving s.reads).length

/-- The connection is not closed. -/
def Flowing (reads : List (Read β)) : Prop := Read.eof ∉ reads

/-- Neither says anything the other denies. -/
def Comparable (x w : List β) : Prop := x <+: w ∨ w <+: x

theorem Comparable.left {x w w' : List β} (h : Comparable x (w ++ w')) : Comparable x w := by
  rcases h with h | h
  · exact List.prefix_or_prefix_of_prefix h (List.prefix_append w w')
  · exact Or.inr ((List.prefix_append w w').trans h)

theorem Comparable.right {x w w' : List β} (h : Comparable (w ++ x) (w ++ w')) :
    Comparable x w' := by
  rcases h with h | h
  · exact Or.inl ((List.prefix_append_right_inj w).mp h)
  · exact Or.inr ((List.prefix_append_right_inj w).mp h)

/-- What has come first is short of the message, or has it all. -/
theorem Comparable.cases {b x w : List β} (h : Comparable (b ++ x) w) :
    w <+: b ∨ (b <+: w ∧ b.length < w.length) := by
  by_cases hlong : w.length ≤ b.length
  · left
    rcases h with h | h
    · have hbegins : b <+: w := (List.prefix_append _ _).trans h
      have heq := hbegins.eq_of_length (Nat.le_antisymm hbegins.length_le hlong)
      exact heq ▸ List.prefix_refl w
    · exact List.prefix_of_prefix_length_le h (List.prefix_append _ _) hlong
  · have hshort := Nat.lt_of_not_le hlong
    right
    refine ⟨?_, hshort⟩
    rcases h with h | h
    · exact (List.prefix_append _ _).trans h
    · exact List.prefix_of_prefix_length_le (List.prefix_append _ _) h (Nat.le_of_lt hshort)

/-- How a reader can end that is to take a message: by a read that cannot be,
    waiting for the rest of it, or with what lies behind it left over. In the
    last case the last read it made was needed. -/
inductive Taken (f : Reader ε β α) (w : List β) (a : α) (s : Source β) : Prop
  | impossible (hend : f s = .error .impossible)
  | waits (hend : f s = .error .waits)
      (hshort : (s.buffered ++ arriving s.reads).length < w.length)
  | returns (used rest : List (Read β)) (left : List β) (hreads : s.reads = used ++ rest)
      (hend : f s = .ok (a, ⟨left, rest⟩)) (hleft : s.buffered ++ arriving used = w ++ left)
      (hneeded : used = [] ∨ (s.buffered ++ arriving used.dropLast).length < w.length)

/-- A reader takes a message, from every source that does not deny it. -/
def Takes (f : Reader ε β α) (w : List β) (a : α) : Prop :=
  ∀ s : Source β, Flowing s.reads → Comparable (s.buffered ++ arriving s.reads) w →
    Taken f w a s

theorem bind_eq (f : Reader ε β α) (g : α → Reader ε β γ) (s : Source β) :
    (f >>= g) s = match f s with
      | .ok (a, s') => g a s'
      | .error e => .error e := by
  change (f s >>= fun p => g p.1 p.2) = _
  cases f s with
  | ok p => rfl
  | error e => rfl

theorem takes_pure (a : α) : Takes (pure a : Reader ε β α) [] a := by
  intro s _ _
  refine .returns [] s.reads s.buffered rfl rfl ?_ (Or.inl rfl)
  rw [arriving_nil, List.append_nil, List.nil_append]

/-- A reader that takes one message and goes on as one that takes another. -/
theorem takes_bind {f : Reader ε β α} {g : α → Reader ε β γ} {w w' : List β} {a : α} {c : γ}
    (hf : Takes f w a) (hg : Takes (g a) w' c) : Takes (f >>= g) (w ++ w') c := by
  intro s hflowing hsame
  have hsum : (w ++ w').length = w.length + w'.length := List.length_append
  cases hf s hflowing hsame.left with
  | impossible hend =>
      refine .impossible ?_
      rw [bind_eq, hend]
  | waits hend hshort =>
      refine .waits ?_ ?_
      · rw [bind_eq, hend]
      · omega
  | returns used rest left hreads hend hleft hneeded =>
      -- The second reader starts where the first one stopped.
      have hrun : (f >>= g) s = g a ⟨left, rest⟩ := by rw [bind_eq, hend]
      have hflowing' : Flowing rest := by
        intro heof
        exact hflowing (hreads ▸ List.mem_append_right used heof)
      have hall : s.buffered ++ arriving s.reads = w ++ (left ++ arriving rest) := by
        rw [hreads, arriving_append, ← List.append_assoc, hleft, List.append_assoc]
      have hsame' : Comparable (left ++ arriving rest) w' := by
        rw [hall] at hsame
        exact hsame.right
      cases hg ⟨left, rest⟩ hflowing' hsame' with
      | impossible hend' => exact .impossible (hrun.trans hend')
      | waits hend' hshort =>
          refine .waits (hrun.trans hend') ?_
          rw [hall, hsum, List.length_append]
          exact Nat.add_lt_add_left hshort _
      | returns used' rest' left' hreads' hend' hleft' hneeded' =>
          refine .returns (used ++ used') rest' left' ?_ (hrun.trans hend') ?_ ?_
          · rw [hreads, List.append_assoc]
            exact congrArg (used ++ ·) hreads'
          · rw [arriving_append, ← List.append_assoc, hleft, List.append_assoc,
              List.append_assoc]
            exact congrArg (w ++ ·) hleft'
          · -- The last read was made by the second reader, or by the first.
            by_cases hused' : used' = []
            · rw [hused', List.append_nil, hsum]
              rcases hneeded with hneeded | hneeded
              · exact Or.inl hneeded
              · exact Or.inr (Nat.lt_of_lt_of_le hneeded (Nat.le_add_right _ _))
            · right
              rw [List.dropLast_append_of_ne_nil hused', arriving_append, ← List.append_assoc,
                hleft, List.append_assoc, List.length_append, hsum]
              exact Nat.add_lt_add_left (hneeded'.resolve_left hused') _

/-- A message that is there in one piece. -/
theorem Takes.whole {f : Reader ε β α} {w : List β} {a : α} (h : Takes f w a) (left : List β)
    (hpossible : f ⟨w ++ left, []⟩ ≠ .error .impossible) :
    f ⟨w ++ left, []⟩ = .ok (a, ⟨left, []⟩) := by
  have hbegins : Comparable ((w ++ left) ++ arriving []) w := by
    rw [arriving_nil, List.append_nil]
    exact Or.inr (List.prefix_append w left)
  cases h ⟨w ++ left, []⟩ nofun hbegins with
  | impossible hend => exact absurd hend hpossible
  | waits _ hshort =>
      rw [arriving_nil, List.append_nil, List.length_append] at hshort
      omega
  | returns used rest left' hreads hend hleft _ =>
      rcases List.append_eq_nil_iff.mp hreads.symm with ⟨rfl, rfl⟩
      rw [arriving_nil, List.append_nil] at hleft
      rw [hend, List.append_cancel_left hleft]

theorem takes_mapThrown {f : Reader ε β α} {w : List β} {a : α} (g : ε → ε) (hf : Takes f w a) :
    Takes (mapThrown g f) w a := by
  intro s hflowing hsame
  cases hf s hflowing hsame with
  | impossible hend =>
      refine .impossible ?_
      rw [mapThrown, hend]
  | waits hend hshort =>
      refine .waits ?_ hshort
      rw [mapThrown, hend]
  | returns used rest left hreads hend hleft hneeded =>
      refine .returns used rest left hreads ?_ hleft hneeded
      rw [mapThrown, hend]

/-- What is found in a message stands behind it, and is not found before the
    message is there. -/
structure Finds (found : List β → Option (α × List β)) (w : List β) (a : α) : Prop where
  there : ∀ left, found (w ++ left) = some (a, left)
  before : ∀ x, x <+: w → x.length < w.length → found x = none

section ReadUntil

variable [DecidableEq β] {limit : List β → Nat} {e : ε} {found : List β → Option (α × List β)}

theorem readUntil_some {buffered left : List β} {a : α} (h : found buffered = some (a, left))
    (reads : List (Read β)) :
    readUntil limit e found ⟨buffered, reads⟩ = .ok (a, ⟨left, reads⟩) := by
  cases reads with
  | nil => simp only [readUntil, readUntilLoop, h]
  | cons r reads => simp only [readUntil, readUntilLoop, h]

theorem readUntil_nil {buffered : List β} (h : found buffered = none) :
    readUntil limit e found ⟨buffered, []⟩ = .error .waits := by
  simp only [readUntil, readUntilLoop, h]

theorem readUntil_data {buffered : List β} (h : found buffered = none) (portion : List β)
    (reads : List (Read β)) : readUntil limit e found ⟨buffered, .data portion :: reads⟩
      = if Fits (limit buffered) portion then readUntil limit e found ⟨buffered ++ portion, reads⟩
        else .error .impossible := by
  simp only [readUntil, readUntilLoop, h]

theorem readUntil_timeout {buffered : List β} (h : found buffered = none)
    (reads : List (Read β)) :
    readUntil limit e found ⟨buffered, .timeout :: reads⟩ = .error .impossible := by
  simp only [readUntil, readUntilLoop, h]

theorem readUntil_eof {buffered : List β} (h : found buffered = none) (reads : List (Read β)) :
    readUntil limit e found ⟨buffered, .eof :: reads⟩ = .error (.threw e) := by
  simp only [readUntil, readUntilLoop, h]

/-- A reader that found something found it in what it had and what arrived,
    and left the rest. -/
theorem readUntil_ok {buffered : List β} {reads : List (Read β)} {a : α} {s : Source β}
    (h : readUntil limit e found ⟨buffered, reads⟩ = .ok (a, s)) :
    ∃ x, found x = some (a, s.buffered) ∧
      x ++ arriving s.reads = buffered ++ arriving reads ∧ s.reads <:+ reads := by
  induction reads generalizing buffered with
  | nil =>
      cases hfound : found buffered with
      | none =>
          rw [readUntil_nil hfound] at h
          exact absurd h nofun
      | some p =>
          rw [readUntil_some hfound] at h
          rcases Prod.mk.inj (Except.ok.inj h) with ⟨rfl, rfl⟩
          exact ⟨buffered, hfound, rfl, List.suffix_refl _⟩
  | cons r reads ih =>
      cases hfound : found buffered with
      | some p =>
          rw [readUntil_some hfound] at h
          rcases Prod.mk.inj (Except.ok.inj h) with ⟨rfl, rfl⟩
          exact ⟨buffered, hfound, rfl, List.suffix_refl _⟩
      | none =>
          cases r with
          | timeout =>
              rw [readUntil_timeout hfound] at h
              exact absurd h nofun
          | eof =>
              rw [readUntil_eof hfound] at h
              exact absurd h nofun
          | data portion =>
              rw [readUntil_data hfound] at h
              by_cases hfits : Fits (limit buffered) portion
              · rw [if_pos hfits] at h
                -- One portion more is held, and the induction is over what is
                -- left to read.
                rcases ih h with ⟨x, hx, hall, hsuffix⟩
                refine ⟨x, hx, ?_, hsuffix.trans (List.suffix_cons _ _)⟩
                rw [hall, arriving_cons, List.append_assoc]
                rfl
              · rw [if_neg hfits] at h
                exact absurd h nofun

variable (limit e)

/-- A message that is there is taken without a read. -/
theorem taken_readUntil {w : List β} {a : α} (hfinds : Finds found w a) {s : Source β}
    (hthere : w <+: s.buffered) : Taken (readUntil limit e found) w a s := by
  rcases hthere with ⟨left, hleft⟩
  refine .returns [] s.reads left rfl ?_ ?_ (Or.inl rfl)
  · exact readUntil_some (hleft ▸ hfinds.there left) s.reads
  · rw [arriving_nil, List.append_nil, hleft]

/-- `readUntil` takes a message in which it finds something. -/
theorem takes_readUntil {w : List β} {a : α} (hfinds : Finds found w a) :
    Takes (readUntil limit e found) w a := by
  rintro ⟨buffered, reads⟩ hflowing hsame
  induction reads generalizing buffered with
  | nil =>
      -- Either the message is held, or what is held is a part of it.
      rcases hsame.cases with hthere | ⟨hbegins, hshort⟩
      · exact taken_readUntil limit e hfinds hthere
      · refine .waits (readUntil_nil (hfinds.before buffered hbegins hshort)) ?_
        rw [arriving_nil, List.append_nil]
        exact hshort
  | cons r reads ih =>
      rcases hsame.cases with hthere | ⟨hbegins, hshort⟩
      · exact taken_readUntil limit e hfinds hthere
      -- Nothing is found in a part of the message.
      have hnone := hfinds.before buffered hbegins hshort
      cases r with
      | eof => exact absurd List.mem_cons_self hflowing
      | timeout => exact .impossible (readUntil_timeout hnone reads)
      | data portion =>
          by_cases hfits : Fits (limit buffered) portion
          · have hstep : readUntil limit e found ⟨buffered, .data portion :: reads⟩
                = readUntil limit e found ⟨buffered ++ portion, reads⟩ := by
              rw [readUntil_data hnone, if_pos hfits]
            have hall : buffered ++ arriving (.data portion :: reads)
                = (buffered ++ portion) ++ arriving reads := by
              rw [arriving_cons, List.append_assoc]
              rfl
            have hflowing' : Flowing reads := fun heof => hflowing (List.mem_cons_of_mem _ heof)
            have hrest := ih (buffered ++ portion) hflowing' (by rw [← hall]; exact hsame)
            cases hrest with
            | impossible hend => exact .impossible (hstep.trans hend)
            | waits hend hless => exact .waits (hstep.trans hend) (by rw [hall]; exact hless)
            | returns used rest left hreads hend hleft hneeded =>
                refine .returns (.data portion :: used) rest left ?_ (hstep.trans hend) ?_ ?_
                · exact congrArg (Read.data portion :: ·) hreads
                · rw [arriving_cons, ← List.append_assoc]
                  exact hleft
                · -- The portion was asked for, since the message was not there.
                  right
                  cases used with
                  | nil =>
                      rw [List.dropLast_singleton, arriving_nil, List.append_nil]
                      exact hshort
                  | cons r' used =>
                      rcases hneeded with hneeded | hneeded
                      · exact absurd hneeded (List.cons_ne_nil _ _)
                      · rw [List.dropLast_cons_cons, arriving_cons, ← List.append_assoc]
                        exact hneeded
          · refine .impossible ?_
            rw [readUntil_data hnone, if_neg hfits]

end ReadUntil

/-- Given a message and more in one piece, a reader that returns has taken the
    message, and takes it from any source. -/
def SteadyAt (f : Reader ε β α) (w : List β) : Prop :=
  ∀ a s, f ⟨w, []⟩ = .ok (a, s) →
    ∃ taken left, s = ⟨left, []⟩ ∧ w = taken ++ left ∧ Takes f taken a

/-- What a reader takes does not depend on the portions. -/
def Steady (f : Reader ε β α) : Prop := ∀ w, SteadyAt f w

theorem steady_pure (a : α) : Steady (pure a : Reader ε β α) := by
  intro w b s h
  rw [← (Prod.mk.inj (Except.ok.inj h)).1, ← (Prod.mk.inj (Except.ok.inj h)).2]
  exact ⟨[], w, rfl, rfl, takes_pure a⟩

theorem steady_threw (e : ε) : Steady (threw e : Reader ε β α) := by
  intro w b s h
  exact absurd h nofun

theorem steady_ofExcept (r : Except ε α) : Steady (ofExcept r : Reader ε β α) := by
  cases r with
  | ok a => exact steady_pure a
  | error e => exact steady_threw e

theorem steadyAt_bind {f : Reader ε β α} {g : α → Reader ε β γ} {w : List β}
    (hf : SteadyAt f w)
    (hg : ∀ a left, f ⟨w, []⟩ = .ok (a, ⟨left, []⟩) → SteadyAt (g a) left) :
    SteadyAt (f >>= g) w := by
  intro c s h
  rw [bind_eq] at h
  cases hrun : f ⟨w, []⟩ with
  | error e =>
      rw [hrun] at h
      exact absurd h nofun
  | ok p =>
      rcases p with ⟨a, s'⟩
      rw [hrun] at h
      rcases hf a s' hrun with ⟨taken, left, rfl, rfl, htakes⟩
      rcases hg a left hrun c s h with ⟨taken', left', rfl, rfl, htakes'⟩
      exact ⟨taken ++ taken', left', rfl, (List.append_assoc _ _ _).symm,
        takes_bind htakes htakes'⟩

theorem steady_bind {f : Reader ε β α} {g : α → Reader ε β γ} (hf : Steady f)
    (hg : ∀ a, Steady (g a)) : Steady (f >>= g) :=
  fun w => steadyAt_bind (hf w) fun a left _ => hg a left

/-- Failures are renamed, and nothing else. -/
theorem ok_of_mapThrown {f : Reader ε β α} {g : ε → ε} {s : Source β} {r : α × Source β}
    (h : mapThrown g f s = .ok r) : f s = .ok r := by
  rw [mapThrown] at h
  cases hrun : f s with
  | error e =>
      rw [hrun] at h
      cases e with
      | waits => exact absurd h nofun
      | impossible => exact absurd h nofun
      | threw e => exact absurd h nofun
  | ok p =>
      rw [hrun] at h
      exact h

theorem steady_mapThrown {f : Reader ε β α} (g : ε → ε) (hf : Steady f) :
    Steady (mapThrown g f) := by
  intro w a s h
  rcases hf w a s (ok_of_mapThrown h) with ⟨taken, left, hs, hw, htakes⟩
  exact ⟨taken, left, hs, hw, takes_mapThrown g htakes⟩

theorem steady_readUntil [DecidableEq β] (limit : List β → Nat) (e : ε)
    {found : List β → Option (α × List β)}
    (hfound : ∀ w a left, found w = some (a, left) →
      ∃ taken, w = taken ++ left ∧ Finds found taken a) :
    Steady (readUntil limit e found) := by
  intro w a s h
  cases hw : found w with
  | none =>
      rw [readUntil_nil hw] at h
      exact absurd h nofun
  | some p =>
      rcases p with ⟨b, left⟩
      rw [readUntil_some hw, Except.ok.injEq, Prod.mk.injEq] at h
      rw [h.1] at hw
      rcases hfound w a left hw with ⟨taken, htaken, hfinds⟩
      exact ⟨taken, left, h.2.symm, htaken, takes_readUntil limit e hfinds⟩

/-- A reader uses reads up, the first ones first. -/
def Consumes (f : Reader ε β α) : Prop := ∀ s a s', f s = .ok (a, s') → s'.reads <:+ s.reads

theorem consumes_pure (a : α) : Consumes (pure a : Reader ε β α) := by
  intro s b s' h
  have heq := (Prod.mk.inj (Except.ok.inj h)).2
  exact heq ▸ List.suffix_refl _

theorem consumes_threw (e : ε) : Consumes (threw e : Reader ε β α) := by
  intro s b s' h
  exact absurd h nofun

theorem consumes_ofExcept (r : Except ε α) : Consumes (ofExcept r : Reader ε β α) := by
  cases r with
  | ok a => exact consumes_pure a
  | error e => exact consumes_threw e

theorem consumes_bind {f : Reader ε β α} {g : α → Reader ε β γ} (hf : Consumes f)
    (hg : ∀ a, Consumes (g a)) : Consumes (f >>= g) := by
  intro s c s' h
  rw [bind_eq] at h
  cases hrun : f s with
  | error e =>
      rw [hrun] at h
      exact absurd h nofun
  | ok p =>
      rw [hrun] at h
      exact (hg p.1 p.2 c s' h).trans (hf s p.1 p.2 hrun)

theorem consumes_mapThrown {f : Reader ε β α} (g : ε → ε) (hf : Consumes f) :
    Consumes (mapThrown g f) := by
  intro s a s' h
  exact hf s a s' (ok_of_mapThrown h)

theorem consumes_readUntil [DecidableEq β] (limit : List β → Nat) (e : ε)
    (found : List β → Option (α × List β)) : Consumes (readUntil limit e found) := by
  intro s a s' h
  rcases readUntil_ok h with ⟨x, -, -, hsuffix⟩
  exact hsuffix

/-- The lengths of the portions that reads return. -/
def portions (reads : List (Read β)) : List Nat :=
  reads.filterMap fun r => match r with
    | .data portion => some portion.length
    | _ => none

theorem portions_append (reads reads' : List (Read β)) :
    portions (reads ++ reads') = portions reads ++ portions reads' := List.filterMap_append

theorem sum_portions (reads : List (Read β)) : (portions reads).sum = (arriving reads).length := by
  induction reads with
  | nil => rfl
  | cons r reads ih =>
      rw [arriving_cons, List.length_append, ← ih]
      cases r with
      | data portion => exact List.sum_cons
      | timeout => exact (Nat.zero_add _).symm
      | eof => exact (Nat.zero_add _).symm

/-- Reads bring nothing, or there is a first portion. -/
theorem portions_cases (reads : List (Read β)) :
    portions reads = [] ∨
      ∃ idle portion rest, reads = idle ++ .data portion :: rest ∧ portions idle = [] := by
  induction reads with
  | nil => exact Or.inl rfl
  | cons r reads ih =>
      cases r with
      | data portion => exact Or.inr ⟨[], portion, reads, rfl, rfl⟩
      | timeout =>
          rcases ih with hnone | ⟨idle, portion, rest, rfl, hidle⟩
          · exact Or.inl hnone
          · exact Or.inr ⟨.timeout :: idle, portion, rest, rfl, hidle⟩
      | eof =>
          rcases ih with hnone | ⟨idle, portion, rest, rfl, hidle⟩
          · exact Or.inl hnone
          · exact Or.inr ⟨.eof :: idle, portion, rest, rfl, hidle⟩

end Reading
