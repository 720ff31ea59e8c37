import Stylesheet.Text.Numeral

/-!
# JSON

The values that the machine-readable listings are made of, and their text: one entry to a line,
each level two spaces deeper, empty lists and records on one line. Characters outside ASCII stand
for themselves.
-/
namespace Stylesheet

/-- A value of JSON. -/
inductive Json where
  | string (text : Text)
  | number (value : Nat)
  | array (items : List Json)
  /-- A record, its fields in order. -/
  | object (fields : List (String × Json))

namespace Json

/-- One character inside a string. -/
def stringChar (c : Char) : Text :=
  if c = '"' then ['\\', '"']
  else if c = '\\' then ['\\', '\\']
  else if c = '\x08' then ['\\', 'b']
  else if c = '\t' then ['\\', 't']
  else if c = '\n' then ['\\', 'n']
  else if c = '\x0c' then ['\\', 'f']
  else if c = '\r' then ['\\', 'r']
  else if c.toNat < 0x10 then "\\u000".toList ++ Nat.toDigits 16 c.toNat
  else if c.toNat < 0x20 then "\\u00".toList ++ Nat.toDigits 16 c.toNat
  else [c]

/-- A string between double quotes. -/
def quoted (text : Text) : Text := '"' :: text.flatMap stringChar ++ ['"']

/-- The start of a line at a level. -/
def newline (level : Nat) : Text := '\n' :: List.replicate (2 * level) ' '

mutual

/-- The text of a value that starts at a level. -/
def pretty (level : Nat) : Json → Text
  | .string text => quoted text
  | .number value => Text.decimal value
  | .array [] => ['[', ']']
  | .array (item :: items) =>
    ['['] ++ newline (level + 1) ++ pretty (level + 1) item ++ prettyItems (level + 1) items ++
      newline level ++ [']']
  | .object [] => ['{', '}']
  | .object ((name, value) :: fields) =>
    ['{'] ++ newline (level + 1) ++ quoted name.toList ++ [':', ' '] ++
      pretty (level + 1) value ++ prettyFields (level + 1) fields ++ newline level ++ ['}']

/-- The items of a list behind the first. -/
def prettyItems (level : Nat) : List Json → Text
  | [] => []
  | item :: items => [','] ++ newline level ++ pretty level item ++ prettyItems level items

/-- The fields of a record behind the first. -/
def prettyFields (level : Nat) : List (String × Json) → Text
  | [] => []
  | (name, value) :: fields =>
    [','] ++ newline level ++ quoted name.toList ++ [':', ' '] ++ pretty level value ++
      prettyFields level fields

end

/-- A string that the program has words for. -/
def ofString (text : String) : Json := .string text.toList

end Json

end Stylesheet
