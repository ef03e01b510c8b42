import Mathlib.Tactic.Common
import Mathlib.Data.List.Basic

/-!
# Slices and Overwrites of a Buffer

Reading a window out of a list and writing a block into one: what `arraycopy`
and its relatives do to an array, away from any bounds check.

A record laid out at fixed offsets is built by a chain of writes and taken
apart by a chain of reads. Two facts carry every such argument: a read inside
the block just written returns the block, and a read that misses it sees
straight through. Both are proved once, position by position, and the rest of
this file is their bookkeeping.

`overwrite` is the special case of a write at the front, which is what a
receive does to a reused buffer: the new contents replace as many leading
elements as they are long, and whatever was there before stays visible behind
them.

## Main definitions

* `slice`: The window of a list at an offset.
* `blit`: A list with a block written at an offset.
* `overwrite`: A list with a block written at its front.

## Theorems

* `getElem?_slice`: Reading a position of a window.
* `getElem?_blit`: Reading a position of a written list.
* `length_slice`: A window inside the list has the asked length.
* `length_blit`: Writing inside the list keeps its length.
* `slice_blit_self`: The window just written holds the block.
* `slice_blit_of_disjoint`: A window the block misses is unchanged.
* `slice_blit_last`: A window whose last position was just written.
* `slice_slice`: A window of a window is a window.
* `slice_append_left`: A window inside the first part of an append.
* `slice_append_right`: A window inside the second part of an append.
* `slice_take`: A window below a truncation survives it.
* `slice_eq_of_getElem?`: Windows agree when their positions do.
* `getElem?_overwrite`: Reading a position of an overwritten buffer.
* `slice_overwrite_of_le`: A window beyond the new block is the old one.
* `slice_overwrite_inside`: A window inside the new block is the block's.
-/

namespace Slice

variable {α : Type*}

/-- The `len` elements at `off`, as many as there are. -/
def slice (off len : Nat) (l : List α) : List α :=
  (l.drop off).take len

/-- The list with `src` written at `off`. -/
def blit (off : Nat) (src l : List α) : List α :=
  l.take off ++ src ++ l.drop (off + src.length)

/-- The list with `src` written at its front. -/
def overwrite (src l : List α) : List α :=
  src ++ l.drop src.length

theorem getElem?_slice (off len i : Nat) (l : List α) :
    (slice off len l)[i]? = if i < len then l[off + i]? else none := by
  unfold slice
  rw [List.getElem?_take, List.getElem?_drop]

theorem getElem?_blit (off i : Nat) (src l : List α) (h : off ≤ l.length) :
    (blit off src l)[i]? = if i < off then l[i]?
      else if i < off + src.length then src[i - off]? else l[i]? := by
  have htake : (l.take off).length = off := by
    rw [List.length_take]
    omega
  unfold blit
  by_cases h1 : i < off
  · rw [if_pos h1, List.append_assoc, List.getElem?_append_left (by omega),
      List.getElem?_take, if_pos h1]
  · rw [if_neg h1]
    by_cases h2 : i < off + src.length
    · rw [if_pos h2, List.append_assoc, List.getElem?_append_right (by omega), htake,
        List.getElem?_append_left (by omega)]
    · rw [if_neg h2, List.getElem?_append_right (by rw [List.length_append]; omega),
        List.length_append, htake, List.getElem?_drop]
      congr 1
      omega

theorem length_slice (off len : Nat) (l : List α) (h : off + len ≤ l.length) :
    (slice off len l).length = len := by
  unfold slice
  rw [List.length_take, List.length_drop]
  omega

theorem length_blit (off : Nat) (src l : List α) (h : off + src.length ≤ l.length) :
    (blit off src l).length = l.length := by
  unfold blit
  simp only [List.length_append, List.length_take, List.length_drop]
  omega

/-- Two windows of one length agree when every position of them does. -/
theorem slice_eq_of_getElem? (off off' len : Nat) (l l' : List α)
    (h : ∀ i, i < len → l[off + i]? = l'[off' + i]?) :
    slice off len l = slice off' len l' := by
  refine List.ext_getElem? (fun i => ?_)
  rw [getElem?_slice, getElem?_slice]
  by_cases hi : i < len
  · rw [if_pos hi, if_pos hi, h i hi]
  · rw [if_neg hi, if_neg hi]

/-- Equal windows agree at every position of them. -/
theorem getElem?_eq_of_slice_eq (off off' len : Nat) (l l' : List α)
    (h : slice off len l = slice off' len l') (i : Nat) (hi : i < len) :
    l[off + i]? = l'[off' + i]? := by
  have hget := congrArg (fun m => m[i]?) h
  simp only [getElem?_slice, if_pos hi] at hget
  exact hget

/-- The window just written holds the block. -/
theorem slice_blit_self (off len : Nat) (src l : List α) (h : off ≤ l.length)
    (hlen : src.length = len) : slice off len (blit off src l) = src := by
  subst hlen
  refine List.ext_getElem? (fun i => ?_)
  rw [getElem?_slice]
  by_cases hi : i < src.length
  · rw [if_pos hi, getElem?_blit off _ src l h, if_neg (by omega), if_pos (by omega)]
    congr 1
    omega
  · rw [if_neg hi, List.getElem?_eq_none (by omega)]

/-- A window the written block misses is unchanged. -/
theorem slice_blit_of_disjoint (off len o : Nat) (src l : List α) (h : off ≤ l.length)
    (hd : o + len ≤ off ∨ off + src.length ≤ o) :
    slice o len (blit off src l) = slice o len l := by
  refine slice_eq_of_getElem? _ _ _ _ _ (fun i hi => ?_)
  rw [getElem?_blit off _ src l h]
  rcases hd with hd | hd
  · rw [if_pos (by omega)]
  · rw [if_neg (by omega), if_neg (by omega)]

/-- A window whose last position is the one just written. -/
theorem slice_blit_last (off len : Nat) (a : α) (l : List α) (h : off + len < l.length) :
    slice off (len + 1) (blit (off + len) [a] l) = slice off len l ++ [a] := by
  refine List.ext_getElem? (fun i => ?_)
  have hlen := length_slice off len l (by omega)
  rw [getElem?_slice, getElem?_blit _ _ _ _ (by omega), List.length_singleton]
  rcases Nat.lt_trichotomy i len with hi | rfl | hi
  · rw [if_pos (by omega), if_pos (by omega), List.getElem?_append_left (by omega),
      getElem?_slice, if_pos hi]
  · rw [if_pos (by omega), if_neg (by omega), if_pos (by omega),
      List.getElem?_append_right (by omega), hlen, Nat.sub_self, Nat.sub_self]
  · rw [if_neg (by omega), List.getElem?_eq_none (by
      rw [List.length_append, hlen, List.length_singleton]
      omega)]

theorem dropLast_slice (off len : Nat) (l : List α) (h : off + len < l.length) :
    (slice off (len + 1) l).dropLast = slice off len l := by
  have hlen := length_slice off (len + 1) l (by omega)
  rw [List.dropLast_eq_take, hlen, Nat.add_sub_cancel]
  unfold slice
  rw [List.take_take, Nat.min_eq_left (by omega)]

theorem slice_slice (a b c d : Nat) (l : List α) (h : a + b ≤ d) :
    slice a b (slice c d l) = slice (c + a) b l := by
  refine List.ext_getElem? (fun i => ?_)
  rw [getElem?_slice, getElem?_slice, getElem?_slice]
  by_cases hi : i < b
  · rw [if_pos hi, if_pos hi, if_pos (by omega), Nat.add_assoc]
  · rw [if_neg hi, if_neg hi]

theorem slice_append_left (off len : Nat) (a b : List α) (h : off + len ≤ a.length) :
    slice off len (a ++ b) = slice off len a := by
  refine slice_eq_of_getElem? _ _ _ _ _ (fun i hi => ?_)
  rw [List.getElem?_append_left (by omega)]

theorem slice_append_right (off len : Nat) (a b : List α) (h : a.length ≤ off) :
    slice off len (a ++ b) = slice (off - a.length) len b := by
  refine slice_eq_of_getElem? _ _ _ _ _ (fun i _ => ?_)
  rw [List.getElem?_append_right (by omega)]
  congr 1
  omega

theorem slice_take (off len n : Nat) (l : List α) (h : off + len ≤ n) :
    slice off len (l.take n) = slice off len l := by
  refine slice_eq_of_getElem? _ _ _ _ _ (fun i hi => ?_)
  rw [List.getElem?_take, if_pos (by omega)]

/-- The whole list is its own window. -/
theorem slice_full (l : List α) : slice 0 l.length l = l := by
  unfold slice
  rw [List.drop_zero, List.take_length]

/-- A window ending inside a shorter one that agrees with another list agrees
    with it too: the smaller of two nested windows is determined by the
    larger. -/
theorem slice_eq_of_slice_eq (off len o n : Nat) (l l' : List α)
    (h : slice off len l = slice off len l') (ho : off ≤ o) (hn : o + n ≤ off + len) :
    slice o n l = slice o n l' := by
  refine slice_eq_of_getElem? _ _ _ _ _ (fun i hi => ?_)
  have hget := getElem?_eq_of_slice_eq off off len l l' h (o - off + i) (by omega)
  rw [show off + (o - off + i) = o + i by omega] at hget
  exact hget

theorem length_overwrite (src l : List α) (h : src.length ≤ l.length) :
    (overwrite src l).length = l.length := by
  unfold overwrite
  rw [List.length_append, List.length_drop]
  omega

theorem getElem?_overwrite (src l : List α) (i : Nat) :
    (overwrite src l)[i]? = if i < src.length then src[i]? else l[i]? := by
  unfold overwrite
  by_cases hi : i < src.length
  · rw [if_pos hi, List.getElem?_append_left hi]
  · rw [if_neg hi, List.getElem?_append_right (by omega), List.getElem?_drop]
    congr 1
    omega

/-- Beyond the new block the old contents show. -/
theorem slice_overwrite_of_le (off len : Nat) (src l : List α) (h : src.length ≤ off) :
    slice off len (overwrite src l) = slice off len l := by
  refine slice_eq_of_getElem? _ _ _ _ _ (fun i _ => ?_)
  rw [getElem?_overwrite, if_neg (by omega)]

/-- Inside the new block only the block shows. -/
theorem slice_overwrite_inside (off len : Nat) (src l : List α) (h : off + len ≤ src.length) :
    slice off len (overwrite src l) = slice off len src := by
  refine slice_eq_of_getElem? _ _ _ _ _ (fun i hi => ?_)
  rw [getElem?_overwrite, if_pos (by omega)]

theorem take_overwrite (src l : List α) : (overwrite src l).take src.length = src := by
  unfold overwrite
  rw [List.take_left]

/-- The middle of three pieces. -/
theorem slice_append_mid (a b c : List α) : slice a.length b.length (a ++ b ++ c) = b := by
  unfold slice
  rw [List.append_assoc, List.drop_left, List.take_left]

/-- Writing over the middle of three pieces. -/
theorem blit_append_mid (a b c src : List α) (h : src.length = b.length) :
    blit a.length src (a ++ b ++ c) = a ++ src ++ c := by
  unfold blit
  rw [h, List.append_assoc a b c, List.take_left, ← List.append_assoc a b c,
    ← List.length_append, List.drop_left]

end Slice
