import Stylesheet.Completion
import Stylesheet.Text.Numeral
import Stylesheet.Text.Quoted

/-!
# Listings

Tokens and completions as lines of text. Each token that is not white space has one line of four
fields between tabs: its place, its style, its kind, and its text in quotes.
-/
namespace Stylesheet.Listing

open Text (decimal)

/-- The style of a token in a listing; a dash stands for none. -/
def styleField (style : Style) : Text :=
  if style.isUnstyled then ['-'] else style.label.toList

/-- The place of a token: line, offsets, and the column of its first character. -/
def placeField (lines : List Text) (tabSize : UInt64) (token : DocumentToken) : Text :=
  let line := lines[token.line]?.getD []
  decimal token.line ++ [':'] ++ decimal token.start ++ ['-'] ++ decimal token.stop ++
    [' ', '@'] ++ decimal (Text.width tabSize (Text.before token.start line)).toNat

/-- The line of one token. -/
def tokenLine (lines : List Text) (tabSize : UInt64) (token : DocumentToken) : Text :=
  placeField lines tabSize token ++ ['\t'] ++ styleField token.token.style ++ ['\t'] ++
    token.token.kind.name.toList ++ ['\t'] ++ Text.quote token.text ++ ['\n']

/-- The lines of the tokens of a document that are not white space. -/
def tokens (document : Text) (tokens : List DocumentToken) (tabSize : UInt64) : Text :=
  let lines := Text.lines document
  (tokens.filter (·.token.kind != .whitespace)).flatMap (tokenLine lines tabSize)

/-- A header with the stretch that is replaced, then a line for each word. -/
def completions (line : Nat) (completions : Completions) : Text :=
  decimal line ++ [':'] ++ decimal completions.start ++ ['-'] ++ decimal completions.stop ++
    ['\n'] ++ completions.words.flatMap fun word => word.toList ++ ['\n']

end Stylesheet.Listing
