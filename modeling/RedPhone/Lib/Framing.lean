import Mathlib.Tactic.Common
import Mathlib.Algebra.Order.Group.Nat
import Mathlib.Tactic.Ring

/-!
# Messages and the Reads That Bring Them

A stream of messages, of which only the lengths matter, and the lengths of the
portions it arrives in. A receiver that hands over at most one message for each
portion keeps up with the stream as long as no portion completes two, and it
falls behind at the first that does.

## Main definitions

* `complete`: How many messages a number of bytes completes.
* `deliver`: How many a receiver hands over that is given some portions.
* `OneEach`: No portion completes two messages.
* `Outlasts`: A portion comes after the last message was handed over.

## Theorems

* `deliver_concat`: One more portion, and at most one more message.
* `deliver_eq_complete`: A receiver that keeps up.
* `keeps_up_iff`: It keeps up exactly if no portion completes two messages.
* `outlasts_cons`: One message is handed over, and the others are to come.
-/

namespace Framing

/-- How many of the messages are complete within a number of bytes. -/
def complete : List Nat → Nat → Nat
  | [], _ => 0
  | w :: ws, n => if w ≤ n then 1 + complete ws (n - w) else 0

/-- How many messages are handed over by a receiver that holds a number of
    bytes, gets some portions, and hands over one message at most for each. -/
def deliver : List Nat → Nat → List Nat → Nat
  | _, _, [] => 0
  | [], _, _ :: _ => 0
  | w :: ws, held, r :: rs =>
    if w ≤ held + r then 1 + deliver ws (held + r - w) rs else deliver (w :: ws) (held + r) rs

/-- No portion completes two messages. -/
def OneEach (frames : List Nat) (held : Nat) (portions : List Nat) : Prop :=
  ∀ pre r post, portions = pre ++ r :: post →
    complete frames (held + pre.sum + r) ≤ complete frames (held + pre.sum) + 1

/-- A portion comes after the last message was handed over. -/
def Outlasts (frames : List Nat) (held : Nat) (portions : List Nat) : Prop :=
  portions ≠ [] ∧ deliver frames held portions.dropLast = frames.length

theorem complete_nil (n : Nat) : complete [] n = 0 := rfl

theorem complete_of_le {w n : Nat} (h : w ≤ n) (ws : List Nat) :
    complete (w :: ws) n = 1 + complete ws (n - w) := by
  rw [complete, if_pos h]

theorem complete_of_lt {w n : Nat} (h : n < w) (ws : List Nat) : complete (w :: ws) n = 0 := by
  rw [complete, if_neg (Nat.not_le.mpr h)]

/-- All of them are complete within their own length. -/
theorem complete_sum (frames : List Nat) : complete frames frames.sum = frames.length := by
  induction frames with
  | nil => rfl
  | cons w ws ih =>
      rw [List.sum_cons, complete_of_le (Nat.le_add_right w ws.sum), Nat.add_sub_cancel_left, ih,
        List.length_cons, Nat.add_comm]

theorem complete_le (frames : List Nat) (n : Nat) : complete frames n ≤ frames.length := by
  induction frames generalizing n with
  | nil => exact Nat.le_refl 0
  | cons w ws ih =>
      by_cases h : w ≤ n
      · rw [complete_of_le h, List.length_cons, Nat.add_comm]
        exact Nat.add_le_add_right (ih (n - w)) 1
      · rw [complete_of_lt (Nat.lt_of_not_le h)]
        exact Nat.zero_le _

theorem deliver_nil (held : Nat) (portions : List Nat) : deliver [] held portions = 0 := by
  cases portions with
  | nil => rfl
  | cons r rs => rfl

theorem deliver_le (frames : List Nat) (held : Nat) (portions : List Nat) :
    deliver frames held portions ≤ frames.length := by
  induction portions generalizing frames held with
  | nil => exact Nat.zero_le _
  | cons r rs ih =>
      cases frames with
      | nil => exact Nat.zero_le _
      | cons w ws =>
          rw [deliver]
          split
          · rw [List.length_cons, Nat.add_comm]
            exact Nat.add_le_add_right (ih ws _) 1
          · exact ih (w :: ws) _

/-- Nothing is handed over before the first message is there. -/
theorem deliver_eq_zero {w held : Nat} (ws : List Nat) {portions : List Nat}
    (h : held + portions.sum < w) : deliver (w :: ws) held portions = 0 := by
  induction portions generalizing held with
  | nil => rfl
  | cons r rs ih =>
      rw [List.sum_cons] at h
      rw [deliver, if_neg (by omega)]
      exact ih (by omega)

theorem deliver_first {w held r : Nat} (ws rest : List Nat) (h : w ≤ held + r) :
    deliver (w :: ws) held (r :: rest) = 1 + deliver ws (held + r - w) rest := by
  rw [deliver, if_pos h]

/-- The first message is handed over for the portion that completes it. -/
theorem deliver_used {w held : Nat} (ws : List Nat) {used : List Nat} (r : Nat) (rest : List Nat)
    (hbefore : held + used.sum < w) (hthere : w ≤ held + used.sum + r) :
    deliver (w :: ws) held (used ++ r :: rest)
      = 1 + deliver ws (held + used.sum + r - w) rest := by
  induction used generalizing held with
  | nil => exact deliver_first ws rest hthere
  | cons p used ih =>
      rw [List.sum_cons] at hbefore hthere ⊢
      rw [List.cons_append, deliver, if_neg (by omega), ih (by omega) (by omega)]
      congr 2
      omega

theorem deliver_concat (frames : List Nat) (held : Nat) (portions : List Nat) (r : Nat) :
    deliver frames held (portions ++ [r]) ≤ deliver frames held portions + 1 := by
  induction portions generalizing frames held with
  | nil =>
      cases frames with
      | nil => exact Nat.zero_le _
      | cons w ws =>
          simp only [List.nil_append, deliver]
          split
          · exact Nat.le_refl 1
          · exact Nat.zero_le 1
  | cons p portions ih =>
      cases frames with
      | nil => exact Nat.zero_le _
      | cons w ws =>
          rw [List.cons_append, deliver, deliver]
          split
          · rw [Nat.add_assoc]
            exact Nat.add_le_add_left (ih ws _) 1
          · exact ih (w :: ws) _

/-- A receiver keeps up that holds no complete message and gets no portion
    that completes two. -/
theorem deliver_eq_complete {frames : List Nat} {held : Nat} {portions : List Nat}
    (hheld : complete frames held = 0) (hone : OneEach frames held portions) :
    deliver frames held portions = complete frames (held + portions.sum) := by
  induction portions generalizing frames held with
  | nil => exact hheld.symm
  | cons r rs ih =>
      cases frames with
      | nil => rw [deliver_nil, complete_nil]
      | cons w ws =>
          -- The first portion completes one frame at most.
          have hfirst := hone [] r rs rfl
          rw [List.sum_nil, Nat.add_zero, hheld, Nat.zero_add] at hfirst
          -- What is said of the other portions holds with the first one held.
          have hrest (pre : List Nat) (p : Nat) (post : List Nat) (hsplit : rs = pre ++ p :: post) :
              complete (w :: ws) (held + r + pre.sum + p)
                ≤ complete (w :: ws) (held + r + pre.sum) + 1 := by
            have := hone (r :: pre) p post (by rw [hsplit, List.cons_append])
            rw [List.sum_cons, ← Nat.add_assoc] at this
            exact this
          rw [deliver, List.sum_cons, ← Nat.add_assoc]
          by_cases hthere : w ≤ held + r
          · rw [if_pos hthere, complete_of_le (by omega)]
            rw [complete_of_le hthere] at hfirst
            -- It completed this frame, so none is complete behind it.
            have hnext : complete ws (held + r - w) = 0 := by omega
            rw [ih hnext ?_, show held + r - w + rs.sum = held + r + rs.sum - w by omega]
            intro pre p post hsplit
            have := hrest pre p post hsplit
            rw [complete_of_le (by omega), complete_of_le (by omega)] at this
            rw [show held + r - w + pre.sum + p = held + r + pre.sum + p - w by omega,
              show held + r - w + pre.sum = held + r + pre.sum - w by omega]
            omega
          · rw [if_neg hthere]
            exact ih (complete_of_lt (Nat.lt_of_not_le hthere) ws) hrest

/-- A receiver that starts with nothing has handed over all that is complete,
    whenever it is asked, exactly if no portion completes two messages. -/
theorem keeps_up_iff {frames : List Nat} (hframes : 0 ∉ frames) (portions : List Nat) :
    (∀ pre, pre <+: portions → deliver frames 0 pre = complete frames pre.sum) ↔
      OneEach frames 0 portions := by
  have hstart : complete frames 0 = 0 := by
    cases frames with
    | nil => rfl
    | cons w ws =>
        refine complete_of_lt (Nat.pos_of_ne_zero fun h => ?_) ws
        exact hframes (h ▸ List.mem_cons_self)
  constructor
  · intro h pre r post hsplit
    -- What it hands over for the portion is at most one more.
    have hbefore := h pre ⟨r :: post, hsplit.symm⟩
    have hafter := h (pre ++ [r]) ⟨post, by rw [hsplit, List.append_assoc]; rfl⟩
    rw [List.sum_append, List.sum_singleton] at hafter
    rw [Nat.zero_add, ← hbefore, ← hafter]
    exact deliver_concat frames 0 pre r
  · rintro h pre ⟨post, rfl⟩
    have hone : OneEach frames 0 pre := by
      intro pre' r post' hsplit
      exact h pre' r (post' ++ post) (by rw [hsplit, List.append_assoc]; rfl)
    rw [deliver_eq_complete hstart hone, Nat.zero_add]

theorem outlasts_nil (held : Nat) (portions : List Nat) :
    Outlasts [] held portions ↔ portions ≠ [] := by
  unfold Outlasts
  rw [deliver_nil]
  exact and_iff_left rfl

/-- The first message is handed over for the last of some portions, and the
    others have those after it. -/
theorem outlasts_cons {w held held' : Nat} {ws used : List Nat} (hused : used ≠ [])
    (hstep : ∀ rest, deliver (w :: ws) held (used ++ rest) = 1 + deliver ws held' rest)
    (hbefore : deliver (w :: ws) held used.dropLast = 0) (rest : List Nat) :
    Outlasts (w :: ws) held (used ++ rest) ↔ Outlasts ws held' rest := by
  unfold Outlasts
  by_cases hrest : rest = []
  · -- The portion that completes the message is the last one.
    subst hrest
    rw [List.append_nil, hbefore, List.length_cons]
    constructor
    · rintro ⟨_, hzero⟩
      omega
    · rintro ⟨hne, _⟩
      exact absurd rfl hne
  · rw [List.dropLast_append_of_ne_nil hrest, hstep, List.length_cons, Nat.add_comm 1]
    constructor
    · rintro ⟨_, hall⟩
      exact ⟨hrest, Nat.add_right_cancel hall⟩
    · rintro ⟨_, hall⟩
      exact ⟨List.append_ne_nil_of_left_ne_nil hused rest, congrArg (· + 1) hall⟩

end Framing
