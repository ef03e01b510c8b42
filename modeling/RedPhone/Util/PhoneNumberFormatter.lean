import RedPhone.Java.Utf8

/-!
# Phone Numbers

A number that is dialled, looked up or stored is first brought to one form: a
plus and digits. Everything but digits and pluses is dropped, a number that
begins with a plus is left alone, and any other is completed by the library
that knows the countries' numbers, or by the user's own number where the
library gives up.

The own number is a preference, and nothing is dropped from it. Where the
library gives up and the own number is the longer one, what stands in front of
its last digits is put in front of the number as it is. If the preference is
not set that is the beginning of a text that says so, and formatting the
result again drops the letters.

## Main definitions

* `PhoneNumberUtil`: The library.
* `impreciseFormatNumber`, `formatNumber`: The formatter.
* `Completes`: What the own number puts in front is part of a number.
* `Formats`: The ways out of the formatter that give a number.
* `isValidNumber`: The numbers a user can register with.

## Theorems

* `formatNumber_plus_fixed`: What begins with a plus and stays as it is.
* `fixed_of_formats`, `formats_of_fixed`: Which numbers get a final form.
* `formatNumber_idempotent_iff`: When formatting again changes nothing.
* `completes_of_isValidNumber`: A registered user's number is good enough.
-/

namespace RedPhone

/-- The library of phone numbers, with `none` for a number it does not parse
    and for a region it does not know. -/
structure PhoneNumberUtil (PhoneNumber : Type) where
  parse : JavaString → Option JavaString → Option PhoneNumber
  getRegionCodeForNumber : PhoneNumber → Option JavaString
  formatE164 : PhoneNumber → JavaString
  /-- A plus and digits. -/
  formatE164_digits : ∀ p, ∃ digits : JavaString,
    formatE164 p = 0x2b :: digits ∧ ∀ u ∈ digits, 0x30 ≤ u ∧ u ≤ 0x39

namespace PhoneNumberFormatter

/-- A character the formatter keeps, a digit or a plus. -/
def IsKept (u : UInt16) : Prop := (0x30 ≤ u ∧ u ≤ 0x39) ∨ u = 0x2b

instance (u : UInt16) : Decidable (IsKept u) := inferInstanceAs (Decidable (_ ∨ _))

/-- `number.replaceAll("[^0-9+]", "")`. -/
def strip (number : JavaString) : JavaString := number.filter fun u => decide (IsKept u)

def charAt (s : JavaString) (i : Nat) : Java UInt16 :=
  match s[i]? with
  | some u => .ok u
  | none => Java.raise .stringIndexOutOfBounds

/-- `number.matches("^\\+[0-9]{10,}")`. -/
def isValidNumber : JavaString → Bool
  | [] => false
  | u :: digits => u = 0x2b ∧ 10 ≤ digits.length ∧ ∀ d ∈ digits, 0x30 ≤ d ∧ d ≤ 0x39

def impreciseFormatNumber (number localNumber : JavaString) : Java JavaString := do
  let number := strip number
  if (← charAt number 0) = 0x2b then return number
  -- The first character of the own number is read whether it has one or not.
  let localNumber := if (← charAt localNumber 0) = 0x2b then localNumber.drop 1 else localNumber
  if localNumber.length = number.length ∨ number.length > localNumber.length then
    return 0x2b :: number
  let difference := localNumber.length - number.length
  return 0x2b :: (localNumber.take difference ++ number)

variable {PhoneNumber : Type} (util : PhoneNumberUtil PhoneNumber)

/-- What the library makes of a number, in the region of the own number. -/
def parseLocally (localNumber number : JavaString) : Option PhoneNumber := do
  let localNumberObject ← util.parse localNumber none
  util.parse number (util.getRegionCodeForNumber localNumberObject)

/-- The preference, or what stands for one that is not set. -/
def localNumber (preference : Option JavaString) : JavaString :=
  preference.getD (JavaString.ofString "No Stored Number")

def formatNumber (preference : Option JavaString) (number : JavaString) : Java JavaString := do
  let number := strip number
  if number.isEmpty then return number
  if (← charAt number 0) = 0x2b then return number
  -- An exception of the library, for either number, goes to the other way.
  match parseLocally util (localNumber preference) number with
  | some numberObject => return util.formatE164 numberObject
  | none => impreciseFormatNumber number (localNumber preference)

/-- The own number as it is completed with, less a plus. -/
def national (localNumber : JavaString) : JavaString :=
  if localNumber.head? = some 0x2b then localNumber.drop 1 else localNumber

/-- What stands in front of the last characters of the own number, as many as
    the number has. -/
def lead (localNumber number : JavaString) : JavaString :=
  (national localNumber).take ((national localNumber).length - number.length)

/-- There is an own number, and what is taken from it to complete a number is
    part of a number. -/
def Completes (localNumber number : JavaString) : Prop :=
  localNumber ≠ [] ∧ ∀ u ∈ lead localNumber number, IsKept u

/-! ## What is left -/

theorem strip_eq_self (s : JavaString) : strip s = s ↔ ∀ u ∈ s, IsKept u := by
  unfold strip
  rw [List.filter_eq_self]
  simp only [decide_eq_true_eq]

theorem isKept_of_mem_strip (s : JavaString) (u : UInt16) (h : u ∈ strip s) : IsKept u := by
  unfold strip at h
  rw [List.mem_filter] at h
  exact of_decide_eq_true h.2

theorem strip_strip (s : JavaString) : strip (strip s) = strip s :=
  (strip_eq_self (strip s)).mpr (isKept_of_mem_strip s)

theorem strip_plus (s : JavaString) : strip (0x2b :: s) = 0x2b :: strip s := by
  unfold strip
  rw [List.filter_cons_of_pos (by decide)]

theorem charAt_zero (u : UInt16) (s : JavaString) : charAt (u :: s) 0 = .ok u := rfl

/-! ## The ways out -/

/-- A number with a plus in front is left as it is. -/
theorem formatNumber_of_plus (preference : Option JavaString) (number s : JavaString)
    (h : strip number = 0x2b :: s) : formatNumber util preference number = .ok (0x2b :: s) := by
  unfold formatNumber
  simp only [h, charAt_zero, List.isEmpty_cons, Bool.false_eq_true, if_false, Java.ok_bind, if_true]
  rfl

theorem formatNumber_of_empty (preference : Option JavaString) (number : JavaString)
    (h : strip number = []) : formatNumber util preference number = .ok [] := by
  unfold formatNumber
  rw [h]
  rfl

/-- Any other number goes to the library. -/
theorem formatNumber_of_digit (preference : Option JavaString) (number s : JavaString) (u : UInt16)
    (h : strip number = u :: s) (hu : u ≠ 0x2b) :
    formatNumber util preference number
      = match parseLocally util (localNumber preference) (u :: s) with
        | some numberObject => .ok (util.formatE164 numberObject)
        | none => impreciseFormatNumber (u :: s) (localNumber preference) := by
  unfold formatNumber
  simp only [h, charAt_zero, List.isEmpty_cons, Bool.false_eq_true, if_false, Java.ok_bind,
    if_neg hu]
  rfl

/-- Without the library the number is completed, if there is an own number. -/
theorem impreciseFormatNumber_of_digit (localNumber s : JavaString) (u : UInt16)
    (h : strip (u :: s) = u :: s) (hu : u ≠ 0x2b) (hlocal : localNumber ≠ []) :
    impreciseFormatNumber (u :: s) localNumber
      = .ok (0x2b :: (lead localNumber (u :: s) ++ u :: s)) := by
  cases localNumber with
  | nil => exact absurd rfl hlocal
  | cons v l =>
      have hnational : (if v = 0x2b then (v :: l).drop 1 else v :: l) = national (v :: l) := by
        simp only [national, List.head?_cons, Option.some.injEq]
      unfold impreciseFormatNumber lead
      simp only [h, charAt_zero, Java.ok_bind, if_neg hu, hnational]
      -- Where the own number is no longer, nothing of it is put in front.
      by_cases hlong : (national (v :: l)).length = (u :: s).length ∨
          (u :: s).length > (national (v :: l)).length
      · have hnone : (national (v :: l)).length - (u :: s).length = 0 := by omega
        rw [if_pos hlong, hnone, List.take_zero, List.nil_append]
        rfl
      · rw [if_neg hlong]
        rfl

theorem impreciseFormatNumber_of_empty (s : JavaString) (u : UInt16)
    (h : strip (u :: s) = u :: s) (hu : u ≠ 0x2b) :
    impreciseFormatNumber (u :: s) [] = Java.raise .stringIndexOutOfBounds := by
  unfold impreciseFormatNumber
  simp only [h, charAt_zero, Java.ok_bind, if_neg hu]
  rfl

/-! ## Formatting again -/

/-- What begins with a plus is in its final form when nothing is dropped from
    it. -/
theorem formatNumber_plus_fixed (preference : Option JavaString) (s : JavaString) :
    formatNumber util preference (0x2b :: s) = .ok (0x2b :: s) ↔ ∀ u ∈ s, IsKept u := by
  rw [formatNumber_of_plus util preference (0x2b :: s) (strip s) (strip_plus s),
    ← strip_eq_self, Except.ok.injEq, List.cons.injEq, eq_self, true_and]

/-- What the library gives back is in its final form. -/
theorem formatNumber_formatE164 (preference : Option JavaString) (p : PhoneNumber) :
    formatNumber util preference (util.formatE164 p) = .ok (util.formatE164 p) := by
  rcases util.formatE164_digits p with ⟨digits, hp, hdigits⟩
  rw [hp, formatNumber_plus_fixed]
  intro u hu
  exact Or.inl (hdigits u hu)

/-- The number has a way out of the formatter that gives a number: nothing is
    left of it or a plus is in front, the library parses it, or the own number
    completes it. -/
def Formats (preference : Option JavaString) (number : JavaString) : Prop :=
  strip number = [] ∨ (strip number).head? = some 0x2b ∨
    parseLocally util (localNumber preference) (strip number) ≠ none ∨
    Completes (localNumber preference) (strip number)

/-- Each of these ways leads to a final form. -/
theorem fixed_of_formats (preference : Option JavaString) (number : JavaString)
    (h : Formats util preference number) :
    ∃ y, formatNumber util preference number = .ok y ∧
      formatNumber util preference y = .ok y := by
  have hkept := isKept_of_mem_strip number
  have hstripped := strip_strip number
  cases hs : strip number with
  | nil =>
      -- Nothing is left, and nothing is left of that.
      exact ⟨[], formatNumber_of_empty util preference number hs,
        formatNumber_of_empty util preference [] rfl⟩
  | cons u s =>
      unfold Formats at h
      rw [hs] at hkept hstripped h
      by_cases hu : u = 0x2b
      · -- The plus stays in front.
        rw [hu] at hs hkept
        refine ⟨0x2b :: s, formatNumber_of_plus util preference number s hs, ?_⟩
        rw [formatNumber_plus_fixed]
        intro v hv
        exact hkept v (List.mem_cons_of_mem _ hv)
      · rw [formatNumber_of_digit util preference number s u hs hu]
        cases hparse : parseLocally util (localNumber preference) (u :: s) with
        -- The library gives a plus and digits.
        | some p => exact ⟨util.formatE164 p, rfl, formatNumber_formatE164 util preference p⟩
        | none =>
            simp only [reduceCtorEq, List.head?_cons, Option.some.injEq, hu, hparse, ne_eq,
              not_true_eq_false, false_or] at h
            -- The number is completed, and all of it is kept the second time.
            rcases h with ⟨hlocal, hlead⟩
            refine ⟨_, impreciseFormatNumber_of_digit _ s u hstripped hu hlocal, ?_⟩
            rw [formatNumber_plus_fixed]
            intro v hv
            rcases List.mem_append.mp hv with hv | hv
            · exact hlead v hv
            · exact hkept v hv

/-- Without them there is no own number, or its characters are dropped from the
    result. -/
theorem formats_of_fixed (preference : Option JavaString) (number y : JavaString)
    (hy : formatNumber util preference number = .ok y)
    (hagain : formatNumber util preference y = .ok y) : Formats util preference number := by
  have hstripped := strip_strip number
  unfold Formats
  cases hs : strip number with
  | nil => exact Or.inl rfl
  | cons u s =>
      rw [hs] at hstripped
      by_cases hu : u = 0x2b
      · refine Or.inr (Or.inl ?_)
        rw [List.head?_cons, hu]
      · rw [formatNumber_of_digit util preference number s u hs hu] at hy
        cases hparse : parseLocally util (localNumber preference) (u :: s) with
        | some p =>
            refine Or.inr (Or.inr (Or.inl ?_))
            simp only [ne_eq, reduceCtorEq, not_false_eq_true]
        | none =>
            rw [hparse] at hy
            -- Without an own number there would be an exception.
            have hlocal : localNumber preference ≠ [] := by
              intro hempty
              rw [hempty] at hy
              simp only [impreciseFormatNumber_of_empty s u hstripped hu, Java.raise,
                reduceCtorEq] at hy
            simp only [impreciseFormatNumber_of_digit _ s u hstripped hu hlocal,
              Except.ok.injEq] at hy
            rw [← hy, formatNumber_plus_fixed] at hagain
            exact Or.inr (Or.inr (Or.inr
              ⟨hlocal, fun v hv => hagain v (List.mem_append_left _ hv)⟩))

/-- For every number, every own number and every library: formatting a number
    gives one that formats as itself, exactly unless the library gives up on it
    and the own number does not complete it, since then an exception or another
    number comes out. -/
theorem formatNumber_idempotent_iff (preference : Option JavaString) (number : JavaString) :
    (∃ y, formatNumber util preference number = .ok y ∧
      formatNumber util preference y = .ok y) ↔
    strip number = [] ∨ (strip number).head? = some 0x2b ∨
      parseLocally util (localNumber preference) (strip number) ≠ none ∨
      Completes (localNumber preference) (strip number) := by
  constructor
  · rintro ⟨y, hy, hagain⟩
    exact formats_of_fixed util preference number y hy hagain
  · exact fixed_of_formats util preference number

/-- Numbers of ten digits. -/
def TenDigits (s : JavaString) : Prop := s.length = 10 ∧ ∀ u ∈ s, 0x30 ≤ u ∧ u ≤ 0x39

instance (s : JavaString) : Decidable (TenDigits s) := inferInstanceAs (Decidable (_ ∧ _))

theorem digits_american (p : {s : JavaString // TenDigits s}) :
    ∃ digits : JavaString, 0x2b :: 0x31 :: p.val = 0x2b :: digits ∧
      ∀ u ∈ digits, 0x30 ≤ u ∧ u ≤ 0x39 := by
  refine ⟨0x31 :: p.val, rfl, fun u hu => ?_⟩
  rcases List.mem_cons.mp hu with rfl | hu
  · decide
  · exact p.property.2 u hu

/-- A library for the numbers of one country, in full or without its code. -/
def american : PhoneNumberUtil {s : JavaString // TenDigits s} where
  parse number region :=
    let digits := if number.take 2 = JavaString.ofString "+1" then number.drop 2 else number
    if h : TenDigits digits then
      if number.take 2 = JavaString.ofString "+1" ∨ region = some (JavaString.ofString "US") then
        some ⟨digits, h⟩
      else none
    else none
  getRegionCodeForNumber _ := some (JavaString.ofString "US")
  formatE164 p := 0x2b :: 0x31 :: p.val
  formatE164_digits := digits_american

example : formatNumber american (some (JavaString.ofString "+14155550101"))
    (JavaString.ofString "(555) 123-4567") = .ok (JavaString.ofString "+15551234567") := by
  decide +kernel

/-- A library that parses nothing, as none parses the text that stands for a
    preference that is not set. -/
def parsesNothing : PhoneNumberUtil Unit where
  parse _ _ := none
  getRegionCodeForNumber _ := none
  formatE164 _ := [0x2b]
  formatE164_digits _ := ⟨[], rfl, by decide⟩

/-- Without the preference a number of ten digits gets letters in front, which
    the second time are dropped. -/
theorem letters_in_front :
    formatNumber parsesNothing none (JavaString.ofString "5551234567")
      = .ok (JavaString.ofString "+No Sto5551234567") ∧
    formatNumber parsesNothing none (JavaString.ofString "+No Sto5551234567")
      = .ok (JavaString.ofString "+5551234567") ∧
    JavaString.ofString "+5551234567" ≠ JavaString.ofString "+No Sto5551234567" := by
  decide +kernel

/-- The number of a registered user completes every number. -/
theorem completes_of_isValidNumber (own number : JavaString) (h : isValidNumber own = true) :
    Completes own number := by
  cases own with
  | nil => exact absurd h (by decide)
  | cons u digits =>
      unfold isValidNumber at h
      rw [decide_eq_true_eq] at h
      rcases h with ⟨hu, _, hdigits⟩
      refine ⟨List.cons_ne_nil u digits, ?_⟩
      intro v hv
      have hnational : national (u :: digits) = digits := by
        unfold national
        rw [List.head?_cons, hu, if_pos rfl, List.drop_one, List.tail_cons]
      unfold lead at hv
      rw [hnational] at hv
      exact Or.inl (hdigits v (List.mem_of_mem_take hv))

end PhoneNumberFormatter

end RedPhone
