import Mathlib.Algebra.Group.Nat.Defs
import Stylesheet.Text.Numeral

/-!
# What numerals stand for

A numeral is a digit or more behind an optional plus sign. Its value is that of its digits by their
places (`Text.placeValue`), which is what adding digit after digit comes to, and it has to fit into
sixty-four bits; leading zeros add nothing to it. `Text.numeral?_eq_some_iff` says that nothing else
is read as a number, and `Text.isDigits_decimal` that every such number is written as a numeral.
-/
namespace Stylesheet.Text

variable {text : Text} {value : Nat}

/-- The value of digits by their places: a digit counts tenfold for each digit behind it. -/
def placeValue : Text → Nat
  | [] => 0
  | digit :: digits => (digit.toNat - '0'.toNat) * 10 ^ digits.length + placeValue digits

/-- Digits with a value of at most sixty-four bits. -/
structure IsDigits (digits : Text) (value : Nat) : Prop where
  nonempty : digits ≠ []
  isDigit : ∀ c ∈ digits, c.isDigit = true
  placeValue_eq : placeValue digits = value
  lt : value < 2 ^ 64

/-- A text that stands for a number. -/
inductive IsNumeral : Text → Nat → Prop
  /-- Digits alone. -/
  | plain {digits : Text} {value : Nat} (isDigits : IsDigits digits value) : IsNumeral digits value
  /-- Digits behind a plus sign. -/
  | signed {digits : Text} {value : Nat} (isDigits : IsDigits digits value) :
    IsNumeral ('+' :: digits) value

/-- Adding digit after digit comes to the value of all digits by their places. -/
theorem ofDigitChars_eq_placeValue (digits : Text) :
    Nat.ofDigitChars 10 digits 0 = placeValue digits := by
  induction digits with
  | nil => rfl
  | cons digit digits ih =>
    rw [Nat.ofDigitChars_cons, Nat.ofDigitChars_eq_ofDigitChars_zero, ih, placeValue, Nat.mul_zero,
      Nat.zero_add, Nat.mul_comm]

/-- A number that fits is written in digits with its value. -/
theorem isDigits_decimal (small : value < 2 ^ 64) : IsDigits (decimal value) value where
  nonempty := Nat.toDigits_ne_nil
  isDigit _ isDigit := Nat.isDigit_of_mem_toDigits (by decide) (by decide) isDigit
  placeValue_eq := by rw [← ofDigitChars_eq_placeValue, decimal, Nat.ofDigitChars_ten_toDigits]
  lt := small

/-- What remains of a text without its plus sign is read digit after digit. -/
theorem numeral?_eq_some_iff_dropPlus :
    numeral? text = some value ↔ IsDigits (dropPlus text) value := by
  have limit : numeralLimit = 2 ^ 64 := rfl
  rw [numeral?, Option.ite_none_right_eq_some]
  simp only [Bool.and_eq_true, Bool.not_eq_true', decide_eq_true_eq, List.all_eq_true, limit,
    List.isEmpty_eq_false_iff, Option.some.injEq, ofDigitChars_eq_placeValue]
  constructor
  · rintro ⟨⟨⟨nonempty, isDigit⟩, small⟩, rfl⟩
    exact ⟨nonempty, isDigit, rfl, small⟩
  · rintro ⟨nonempty, isDigit, rfl, small⟩
    exact ⟨⟨⟨nonempty, isDigit⟩, small⟩, rfl⟩

/-- Digits do not start with a plus sign. -/
theorem IsDigits.dropPlus_eq (isDigits : IsDigits text value) : dropPlus text = text := by
  unfold dropPlus
  split
  · next rest =>
    have sign := isDigits.isDigit '+' List.mem_cons_self
    contradiction
  · rfl

/-- Exactly the numerals are read as numbers, as what they stand for. -/
theorem numeral?_eq_some_iff : numeral? text = some value ↔ IsNumeral text value := by
  rw [numeral?_eq_some_iff_dropPlus]
  constructor
  · intro isDigits
    unfold dropPlus at isDigits
    split at isDigits
    · exact .signed isDigits
    · exact .plain isDigits
  · intro isNumeral
    cases isNumeral with
    | plain isDigits => rwa [isDigits.dropPlus_eq]
    | signed isDigits => exact isDigits

/-- A numeral stands for one number. -/
theorem IsNumeral.unique {first second : Nat} (isFirst : IsNumeral text first)
    (isSecond : IsNumeral text second) : first = second := by
  have reads := numeral?_eq_some_iff.mpr isFirst
  exact Option.some.inj (reads.symm.trans (numeral?_eq_some_iff.mpr isSecond))

/-- A text that is no numeral is refused. -/
theorem numeral?_eq_none_iff : numeral? text = none ↔ ∀ value, ¬IsNumeral text value := by
  simp only [Option.eq_none_iff_forall_ne_some, ne_eq, numeral?_eq_some_iff]

/-- The characters of a numeral are digits and a plus sign. -/
theorem IsNumeral.eq_plus_or_isDigit (isNumeral : IsNumeral text value) {c : Char}
    (isChar : c ∈ text) : c = '+' ∨ c.isDigit = true := by
  cases isNumeral with
  | plain isDigits => exact .inr (isDigits.isDigit c isChar)
  | signed isDigits =>
    rcases List.mem_cons.mp isChar with rfl | isDigit
    · exact .inl rfl
    · exact .inr (isDigits.isDigit c isDigit)

/-- A number that is read fits. -/
theorem IsNumeral.lt (isNumeral : IsNumeral text value) : value < 2 ^ 64 := by
  cases isNumeral with
  | plain isDigits => exact isDigits.lt
  | signed isDigits => exact isDigits.lt

/-- A numeral has a character. -/
theorem IsNumeral.ne_nil (isNumeral : IsNumeral text value) : text ≠ [] := by
  cases isNumeral with
  | plain isDigits => exact isDigits.nonempty
  | signed isDigits => exact List.cons_ne_nil _ _

end Stylesheet.Text
