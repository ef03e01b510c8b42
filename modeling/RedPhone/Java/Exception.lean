import RedPhone.Lib.Run

/-!
# Java Computations

What a Java method can do instead of returning. Handlers and getters return
into `Java`, where a failure is one of the exceptions the negotiation code
declares or catches, or an unchecked one that nothing on the negotiation
thread handles.

The unchecked exceptions keep their class and drop their text, which the
runtime writes. The others keep the message the source passes.

`bind_ok` is the inversion every handler proof starts from: a sequence of
statements that returned is a statement that returned, followed by a
continuation that did.

## Main definitions

* `Unchecked`: The unchecked exceptions the code can raise.
* `JavaException`: An exception leaving a method.
* `Java`: A computation that returns a value or throws.
* `orNull`: Dereferencing a reference that may be null.
* `throwIf`: The statement `if (c) throw e;`.

## Theorems

* `bind_ok`: A sequence returns when its parts do.
* `bind_error`: A sequence throws when one of its parts does.
* `orNull_ok`: A dereference returns on a reference that is not null.
* `throwIf_ok`: A guarded throw falls through when the guard is false.
-/

namespace RedPhone

/-- The unchecked exceptions the modelled code can raise. -/
inductive Unchecked
  | arrayIndexOutOfBounds
  | stringIndexOutOfBounds
  | negativeArraySize
  | illegalArgument
  | nullPointer
  | assertionError
  | arithmetic
  deriving DecidableEq, Repr

/-- An exception leaving a method, with the message the source gives it. -/
inductive JavaException
  | io (message : String)
  | invalidPacket (message : String)
  | negotiationFailed (message : String)
  | recipientUnavailable (message : String)
  | unchecked (e : Unchecked)
  deriving DecidableEq, Repr

/-- A computation that returns a value or throws. -/
abbrev Java (α : Type) := Except JavaException α

namespace Java

variable {α β : Type}

/-- Dereference a reference that may be null. -/
def orNull : Option α → Java α
  | some a => .ok a
  | none => .error (.unchecked .nullPointer)

/-- The statement `if (c) throw e;`. -/
def throwIf (c : Bool) (e : JavaException) : Java Unit :=
  if c then .error e else .ok ()

/-- Raise an unchecked exception. -/
def raise (e : Unchecked) : Java α :=
  .error (.unchecked e)

theorem bind_ok (x : Java α) (f : α → Java β) (b : β) :
    (x >>= f) = .ok b ↔ ∃ a, x = .ok a ∧ f a = .ok b := Run.bind_ok x f b

theorem bind_error (x : Java α) (f : α → Java β) (e : JavaException) :
    (x >>= f) = .error e ↔ x = .error e ∨ ∃ a, x = .ok a ∧ f a = .error e := by
  cases x with
  | ok a => simp only [bind, Except.bind, Except.ok.injEq, exists_eq_left', reduceCtorEq, false_or]
  | error e' =>
      simp only [bind, Except.bind, Except.error.injEq, reduceCtorEq, false_and, exists_false,
        or_false]

theorem ok_bind (a : α) (f : α → Java β) : ((Except.ok a : Java α) >>= f) = f a := rfl

theorem error_bind (e : JavaException) (f : α → Java β) :
    ((Except.error e : Java α) >>= f) = .error e := rfl

@[simp] theorem orNull_ok (o : Option α) (a : α) : orNull o = .ok a ↔ o = some a := by
  cases o with
  | none => simp only [orNull, reduceCtorEq]
  | some b => simp only [orNull, Except.ok.injEq, Option.some.injEq]

@[simp] theorem throwIf_ok (c : Bool) (e : JavaException) (u : Unit) :
    throwIf c e = .ok u ↔ c = false := by
  cases c with
  | false => simp only [throwIf, Bool.false_eq_true, if_false]
  | true => simp only [throwIf, if_true, reduceCtorEq, Bool.true_eq_false]

/-- A loop that cannot fail. -/
theorem mapM_ok (f : α → Java β) (g : α → β) :
    ∀ l : List α, (∀ a ∈ l, f a = .ok (g a)) → l.mapM f = .ok (l.map g) := by
  intro l
  induction l with
  | nil =>
      intro _
      rfl
  | cons a l ih =>
      intro h
      rw [List.mapM_cons, h a List.mem_cons_self, ok_bind,
        ih (fun b hb => h b (List.mem_cons_of_mem a hb)), ok_bind]
      rfl

end Java

end RedPhone
