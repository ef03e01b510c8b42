import Mathlib.Data.List.Nodup
import Mathlib.Tactic.Common

/-!
# Lists of Records under a Key

A table whose records are told apart by a key, kept as a plain list. Looking a
key up takes the first record that has it, updating rewrites every record that
has it, and inserting appends; with distinct keys each of the three touches at
most one record, and the lookup after an update or an insertion is the obvious
one.

The key is a function of the record, so one list can be read under two keys.
`modify_eq_modify` is what makes that useful: a record found under one key and
rewritten under another is rewritten alone, as long as both keys are distinct
over the list.

## Main definitions

* `lookup`: The first record with a key.
* `modify`: The list with every record of a key rewritten.

## Theorems

* `lookup_mem`: A record looked up is in the list.
* `lookup_key`: A record looked up has the key.
* `lookup_modify`: Looking up after an update.
* `lookup_concat`: Looking up after an insertion under a fresh key.
* `map_modify`: A rewrite that keeps a field keeps its column.
* `nodup_concat`: Inserting under a fresh key keeps the keys distinct.
* `modify_eq_modify`: Rewriting under either of two keys of one record.
* `filter_eq_of_lookup`: The records of a key are the one looked up.
-/

namespace KeyedList

variable {α κ κ' : Type*} [DecidableEq κ] [DecidableEq κ']

/-- The first record with the key. -/
def lookup (key : α → κ) (k : κ) (l : List α) : Option α :=
  l.find? (fun a => key a = k)

/-- The list with every record of the key rewritten. -/
def modify (key : α → κ) (k : κ) (f : α → α) (l : List α) : List α :=
  l.map (fun a => if key a = k then f a else a)

theorem lookup_cons (key : α → κ) (k : κ) (a : α) (l : List α) :
    lookup key k (a :: l) = if key a = k then some a else lookup key k l := by
  unfold lookup
  by_cases h : key a = k
  · rw [if_pos h, List.find?_cons_of_pos (by simp only [h, decide_true])]
  · rw [if_neg h, List.find?_cons_of_neg (by simp only [h, decide_false, Bool.false_eq_true,
      not_false_eq_true])]

theorem lookup_mem (key : α → κ) (k : κ) (l : List α) (a : α) (h : lookup key k l = some a) :
    a ∈ l :=
  List.mem_of_find?_eq_some h

theorem lookup_key (key : α → κ) (k : κ) (l : List α) (a : α) (h : lookup key k l = some a) :
    key a = k := by
  have hp := List.find?_some h
  exact of_decide_eq_true hp

theorem lookup_eq_none (key : α → κ) (k : κ) (l : List α) :
    lookup key k l = none ↔ k ∉ l.map key := by
  induction l with
  | nil => simp only [lookup, List.find?_nil, List.map_nil, List.not_mem_nil, not_false_eq_true]
  | cons a l ih =>
      rw [lookup_cons, List.map_cons, List.mem_cons, not_or]
      by_cases h : key a = k
      · rw [if_pos h]
        simp only [reduceCtorEq, h, not_true_eq_false, false_and]
      · rw [if_neg h, ih]
        simp only [Ne.symm h, not_false_eq_true, true_and]

/-- Looking up after a rewrite that keeps the key. -/
theorem lookup_modify (key : α → κ) (k k' : κ) (f : α → α) (hf : ∀ a, key (f a) = key a)
    (l : List α) :
    lookup key k' (modify key k f l)
      = if k' = k then (lookup key k l).map f else lookup key k' l := by
  induction l with
  | nil => simp only [modify, lookup, List.map_nil, List.find?_nil, Option.map_none, ite_self]
  | cons a l ih =>
      have hcons : modify key k f (a :: l)
          = (if key a = k then f a else a) :: modify key k f l := rfl
      rw [hcons, lookup_cons, ih, lookup_cons, lookup_cons]
      by_cases hk : k' = k
      · subst hk
        by_cases ha : key a = k'
        · simp only [hf, ha, if_true, Option.map_some]
        · simp only [if_neg ha, if_true]
      · by_cases ha : key a = k
        · have hne : ¬ key a = k' := fun hc => hk (hc.symm.trans ha)
          simp only [if_pos ha, hf, if_neg hne, if_neg hk]
        · simp only [if_neg ha, if_neg hk]

/-- Looking up after inserting under a key the list does not have. -/
theorem lookup_concat (key : α → κ) (k' : κ) (l : List α) (a : α)
    (hfresh : lookup key (key a) l = none) :
    lookup key k' (l ++ [a]) = if k' = key a then some a else lookup key k' l := by
  induction l with
  | nil =>
      rw [List.nil_append, lookup_cons]
      simp only [eq_comm]
  | cons b l ih =>
      rw [lookup_cons] at hfresh
      by_cases hb : key b = key a
      · rw [if_pos hb] at hfresh
        simp only [reduceCtorEq] at hfresh
      · rw [if_neg hb] at hfresh
        rw [List.cons_append, lookup_cons, lookup_cons, ih hfresh]
        by_cases hbk : key b = k'
        · have hne : ¬ k' = key a := fun hc => hb (hbk.trans hc)
          rw [if_pos hbk, if_neg hne, if_pos hbk]
        · rw [if_neg hbk, if_neg hbk]

/-- A rewrite that keeps a field keeps the column of that field. -/
theorem map_modify {β : Type*} (key : α → κ) (g : α → β) (k : κ) (f : α → α)
    (hf : ∀ a, g (f a) = g a) (l : List α) : (modify key k f l).map g = l.map g := by
  unfold modify
  rw [List.map_map]
  refine List.map_congr_left (fun a _ => ?_)
  by_cases h : key a = k
  · simp only [Function.comp_apply, if_pos h, hf]
  · simp only [Function.comp_apply, if_neg h]

theorem nodup_concat {β : Type*} (g : α → β) (l : List α) (a : α) (h : (l.map g).Nodup)
    (hfresh : g a ∉ l.map g) : ((l ++ [a]).map g).Nodup := by
  rw [List.map_append, List.map_singleton]
  refine List.Nodup.append h (List.nodup_singleton _) ?_
  intro b hb hb'
  rw [List.mem_singleton] at hb'
  rw [hb'] at hb
  exact hfresh hb

/-- Two members of a list with distinct keys are equal when their keys are. -/
theorem eq_of_key_eq {β : Type*} (g : α → β) (l : List α) (h : (l.map g).Nodup) (a b : α)
    (ha : a ∈ l) (hb : b ∈ l) (hab : g a = g b) : a = b :=
  List.inj_on_of_nodup_map h ha hb hab

/-- Rewriting one record under either of two keys distinct over the list. -/
theorem modify_eq_modify (key : α → κ) (key' : α → κ') (f : α → α) (l : List α)
    (h : (l.map key).Nodup) (h' : (l.map key').Nodup) (a : α) (ha : a ∈ l) :
    modify key (key a) f l = modify key' (key' a) f l := by
  unfold modify
  refine List.map_congr_left (fun b hb => ?_)
  by_cases hab : a = b
  · rw [hab, if_pos rfl, if_pos rfl]
  · rw [if_neg (fun hc => hab (eq_of_key_eq key l h a b ha hb hc.symm)),
      if_neg (fun hc => hab (eq_of_key_eq key' l h' a b ha hb hc.symm))]

/-- With distinct keys the records of a key are the one looked up, if any. -/
theorem filter_eq_of_lookup (key : α → κ) (k : κ) (l : List α) (h : (l.map key).Nodup) :
    l.filter (fun a => key a = k) = (lookup key k l).toList := by
  induction l with
  | nil => rfl
  | cons a l ih =>
      rw [List.map_cons, List.nodup_cons] at h
      rw [lookup_cons]
      by_cases ha : key a = k
      · have hnone : lookup key k l = none := (lookup_eq_none key k l).mpr (ha ▸ h.1)
        rw [if_pos ha, List.filter_cons_of_pos (by simp only [ha, decide_true]), ih h.2, hnone]
        rfl
      · rw [if_neg ha, List.filter_cons_of_neg (by simp only [ha, decide_false,
          Bool.false_eq_true, not_false_eq_true]), ih h.2]

end KeyedList
