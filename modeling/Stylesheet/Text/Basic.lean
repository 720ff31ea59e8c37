/-!
# Text

A document, a line and a lexeme are lists of characters. This module holds the one notion of
white space that the whole library shares, the Unicode property White_Space, with the leading
runs, the trimming and the case folding that are read off it.
-/
namespace Stylesheet

/-- A document, a line or a lexeme, one entry per character. -/
abbrev Text := List Char

namespace Text

/-- The Unicode property White_Space: twenty-five characters. The zero width space U+200B and
the byte order mark U+FEFF are not among them. -/
def isBlank (c : Char) : Bool :=
  let code := c.toNat
  (0x09 ≤ code && code ≤ 0x0D) || code == 0x20 || code == 0x85 || code == 0xA0 ||
    code == 0x1680 || (0x2000 ≤ code && code ≤ 0x200A) || code == 0x2028 || code == 0x2029 ||
    code == 0x202F || code == 0x205F || code == 0x3000

/-- How many characters at the front of a text belong to a class. -/
def leading (belongs : Char → Bool) (text : Text) : Nat := (text.takeWhile belongs).length

@[simp] theorem leading_nil (belongs : Char → Bool) : leading belongs [] = 0 := rfl

theorem leading_cons (belongs : Char → Bool) (c : Char) (text : Text) :
    leading belongs (c :: text) = if belongs c then leading belongs text + 1 else 0 := by
  by_cases member : belongs c <;> simp [leading, member]

/-- A leading run lies within its text. -/
theorem leading_le_length (belongs : Char → Bool) (text : Text) :
    leading belongs text ≤ text.length := by
  induction text with
  | nil => simp
  | cons c text ih => rw [leading_cons]; split <;> simp; exact ih

/-- Dropping the leading run leaves what `dropWhile` leaves. -/
theorem drop_leading (belongs : Char → Bool) (text : Text) :
    text.drop (leading belongs text) = text.dropWhile belongs := by
  induction text with
  | nil => rfl
  | cons c text ih => by_cases member : belongs c <;> simp [leading_cons, member, ih]

/-- A pattern anchored at the front of a text: the number of characters of its match there. -/
abbrev Pattern := Text → Option Nat

/-- A text without the white space in front of it. -/
def trimStart (text : Text) : Text := text.dropWhile isBlank

/-- A text without the white space around it. -/
def trim (text : Text) : Text := (trimStart (trimStart text).reverse).reverse

/-- Lower case as far as words of ASCII letters can tell: the ASCII capitals, and the Kelvin
sign U+212A, the only other character whose lower case is an ASCII letter. -/
def foldCase (text : Text) : Text :=
  text.map fun c => if c = '\u212A' then 'k' else c.toLower

/-- Equality up to the case of ASCII letters. -/
def equalIgnoringCase (left right : Text) : Bool :=
  left.map Char.toLower == right.map Char.toLower

/-- Whether `piece` stands somewhere in a text. -/
def occurs (piece : Text) : Text → Bool
  | [] => piece.isEmpty
  | c :: rest => piece.isPrefixOf (c :: rest) || occurs piece rest

end Text

end Stylesheet
