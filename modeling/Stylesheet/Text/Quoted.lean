import Stylesheet.Text.Unprintable

/-!
# Quoted text

A listing shows a text between double quotes on one line. The quote and the backslash stand
behind a backslash; line feed, carriage return, tab and the null character have letters of their
own; every other unprintable character is written by its code point.
-/
namespace Stylesheet.Text

/-- One character inside quotes. -/
def quoteChar (c : Char) : Text :=
  if c = '"' then ['\\', '"']
  else if c = '\\' then ['\\', '\\']
  else if c = '\n' then ['\\', 'n']
  else if c = '\r' then ['\\', 'r']
  else if c = '\t' then ['\\', 't']
  else if c = '\x00' then ['\\', '0']
  else if isUnprintable c then ['\\', 'u', '{'] ++ Nat.toDigits 16 c.toNat ++ ['}']
  else [c]

/-- A text between double quotes. -/
def quote (text : Text) : Text := '"' :: text.flatMap quoteChar ++ ['"']

end Stylesheet.Text
