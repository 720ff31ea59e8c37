import Stylesheet.Text.Basic

/-!
# Columns

A column counts characters from the start of a line, where a tab reaches to the next tab stop.
Tab stops stand a tab size apart, at least one column. Columns have sixty-four bits: a sum that does
not fit starts again at zero.
-/
namespace Stylesheet.Text

/-- The column after one more character. -/
def nextColumn (tabSize column : UInt64) (c : Char) : UInt64 :=
  if c = '\t' then column + (max tabSize 1 - column % max tabSize 1) else column + 1

/-- The column at the end of a text that starts at column zero. -/
def width (tabSize : UInt64) (text : Text) : UInt64 := text.foldl (nextColumn tabSize) 0

/-- The column of the first character of a line that is not blank; of the line's end when it has
none. -/
def indentation (tabSize : UInt64) (line : Text) : UInt64 := width tabSize (line.takeWhile isBlank)

end Stylesheet.Text
