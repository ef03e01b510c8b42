import RedPhone.Directory.BloomFilter
import RedPhone.Util.PhoneNumberFormatter

/-!
# Numbers in the Directory

A number is looked up in the directory by its form. So for a registered user it
makes no difference whether a number is looked up as it was dialled or as the
formatter has left it, unless the formatter leaves nothing.

## Main definitions

* `containsNumber`: Whether a number is in the directory.

## Theorems

* `containsNumber_formatNumber`: A number and its form are in it together.
-/

namespace RedPhone

namespace NumberFilter

open PhoneNumberFormatter

variable {PhoneNumber : Type} (util : PhoneNumberUtil PhoneNumber)

/-- `NumberFilter.containsNumber`, with a filter and a number that can be
    null. -/
def containsNumber (bloomFilter : Option BloomFilter) (preference number : Option JavaString) :
    Java Bool :=
  match bloomFilter, number with
  | none, _ => .ok false
  | some _, none => .ok false
  | some f, some number =>
    if number.length = 0 then .ok false
    else formatNumber util preference number >>= f.contains

theorem containsNumber_formatNumber (f : BloomFilter) (own number y : JavaString)
    (hown : isValidNumber own = true) (hy : formatNumber util (some own) number = .ok y)
    (hne : y ≠ []) :
    containsNumber util (some f) (some own) (some y)
      = containsNumber util (some f) (some own) (some number) := by
  have hformats : Formats util (some own) number :=
    Or.inr (Or.inr (Or.inr (completes_of_isValidNumber own (strip number) hown)))
  rcases fixed_of_formats util (some own) number hformats with ⟨z, hz, hagain⟩
  have hzy : z = y := by
    rw [hy, Except.ok.injEq] at hz
    exact hz.symm
  rw [hzy] at hagain
  -- Nothing is made of an empty number.
  have hnumber : number.length ≠ 0 := by
    intro hlen
    rw [List.length_eq_zero_iff] at hlen
    rw [hlen, formatNumber_of_empty util (some own) [] rfl, Except.ok.injEq] at hy
    exact hne hy.symm
  have hlen : y.length ≠ 0 := fun hlen => hne (List.length_eq_zero_iff.mp hlen)
  simp only [containsNumber, if_neg hlen, if_neg hnumber, hy, hagain]

end NumberFilter

end RedPhone
