import Stylesheet.Text.Basic

/-!
# Whole numbers in decimal

Numbers are written in decimal without a sign. They are read with an optional plus sign and any
number of leading zeros, as long as the value is below `numeralLimit`: counts of lines and
columns are sixty-four bits wide.
-/
namespace Stylesheet.Text

/-- Values from here on are refused. -/
def numeralLimit : Nat := Nat.pow 2 64

/-- A number in decimal. -/
def decimal (value : Nat) : Text := Nat.toDigits 10 value

/-- A text without the plus sign that may stand in front of it. -/
def dropPlus : Text → Text
  | '+' :: text => text
  | text => text

/-- The number a text stands for; `none` when it is not a numeral or its value is too large. -/
def numeral? (text : Text) : Option Nat :=
  let digits := dropPlus text
  let value := Nat.ofDigitChars 10 digits 0
  if !digits.isEmpty && digits.all Char.isDigit && value < numeralLimit then some value else none

end Stylesheet.Text
