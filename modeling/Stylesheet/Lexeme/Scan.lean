import Stylesheet.Dialect
import Stylesheet.Lexeme.Pattern
import Stylesheet.Token

/-!
# Scanning one lexeme

`scan` reads one lexeme from the front of what is left of a line. Strings, comments and the raw
argument of functions such as `url` may stay open: the `Continuation` then says how to go on, also
on the next line. Without one, the constructs of the dialect come first and the rules that all
dialects share come second.
-/
namespace Stylesheet

/-- The two quotes that delimit strings. -/
inductive Quote where
  | single
  | double
  deriving DecidableEq, Repr

/-- The character of a quote. -/
def Quote.char : Quote → Char
  | single => '\''
  | double => '"'

/-- What is still open where a lexeme ends. -/
inductive Continuation where
  /-- A string. -/
  | string (quote : Quote)
  /-- A block comment. -/
  | comment
  /-- A function whose argument need not be quoted, in front of its parenthesis. -/
  | argument
  /-- The unquoted argument of such a function. -/
  | rawArgument
  deriving DecidableEq, Repr

/-- A lexeme at the front of a text. -/
structure Scanned where
  /-- How many characters it has. -/
  length : Nat
  /-- What it is. -/
  token : Token
  /-- What it leaves open. -/
  continuation : Option Continuation
  deriving DecidableEq, Repr

namespace Scanned

/-- A lexeme of a display category that leaves nothing open. -/
def styled (category : Category) (kind : Kind) (length : Nat) : Scanned :=
  ⟨length, .styled category kind, none⟩

/-- A lexeme without a style that leaves nothing open. -/
def bare (kind : Kind) (length : Nat) : Scanned := ⟨length, .bare kind, none⟩

/-- The same lexeme with some more characters in front. -/
def behind (count : Nat) (scanned : Scanned) : Scanned :=
  { scanned with length := count + scanned.length }

end Scanned

namespace Scan

open Text (leading isBlank)
open Pattern

/-! ## Text with a delimiter -/

/-- How a delimited text ends. -/
inductive Ending where
  /-- At its delimiter. -/
  | closed
  /-- At the end of the line, behind an open backslash or not. -/
  | unclosed (escaped : Bool)
  deriving DecidableEq, Repr

/-- The length of a text up to its delimiter, and how it ends. A backslash takes the meaning away
from the character behind it. -/
def delimited (delimiter : Char) (escaped : Bool) : Text → Nat × Ending
  | [] => (0, .unclosed escaped)
  | c :: rest =>
    if c = delimiter && !escaped then (0, .closed)
    else
      let (length, ending) := delimited delimiter (!escaped && c == '\\') rest
      (length + 1, ending)

/-- The rest of a string, closing quote included. A backslash at the end of the line carries the
string on to the next line; without one an unclosed string ends with its line. -/
def string (quote : Quote) (text : Text) : Scanned :=
  match delimited quote.char false text with
  | (length, .closed) => .styled .string .string (length + 1)
  | (length, .unclosed true) => ⟨length, .styled .string .string, some (.string quote)⟩
  | (length, .unclosed false) => .styled .string .string length

/-- The rest of an unquoted argument, without the parenthesis that closes it. It goes on until
there is one. -/
def rawArgument (text : Text) : Scanned :=
  match delimited ')' false text with
  | (length, .closed) => .styled .string .string length
  | (length, .unclosed _) => ⟨length, .styled .string .string, some .rawArgument⟩

/-- The length of a comment up to and with its end, and whether it has one on this line. -/
def commentBody (afterStar : Bool) : Text → Nat × Bool
  | [] => (0, false)
  | c :: rest =>
    if afterStar && c == '/' then (1, true)
    else
      let (length, closed) := commentBody (c == '*') rest
      (length + 1, closed)

/-- The rest of a block comment. -/
def comment (text : Text) : Scanned :=
  match commentBody false text with
  | (length, true) => .styled .comment .comment length
  | (length, false) => ⟨length, .styled .comment .comment, some .comment⟩

/-- The parenthesis of a function whose argument need not be quoted. An argument that is neither
quoted nor empty follows as a raw one. -/
def argument (text : Text) : Scanned :=
  ⟨min text.length 1, .bare .parenOpen,
    if quoteOrClose (text.drop 1) then none else some .rawArgument⟩

/-! ## Names and numbers -/

/-- A variable of the given length, which is defined if a colon comes behind it. -/
def variableOf (length : Nat) (text : Text) : Scanned :=
  .styled .variable2
    (if definitionColon (text.drop length) then .variableDefinition else .variableUse) length

/-- The rest of a number with its unit. -/
def number (text : Text) : Scanned := .styled .number .unit (leading isUnitChar text)

/-- What stands behind a dash: a number, a custom property, or a vendor's own name. -/
def dash (text : Text) : Scanned :=
  if text.head?.any fun c => c.isDigit || c == '.' then number text
  else match customProperty? text with
    | some length => variableOf length text
    | none => match vendorTail? text with
      | some length => .styled .vendor .vendor length
      | none => .bare .unclassified 0

/-- What stands behind a dot: the fraction of a number, or a class name. -/
def dot (text : Text) : Scanned :=
  if text.head?.any Char.isDigit then number text
  else match className? text with
    | some length => .styled .qualifier .qualifier length
    | none => .bare .unclassified 0

/-- An identifier, or the name of a function whose argument need not be quoted; the text starts
with its first character. Any other character has no meaning. -/
def identifier (c : Char) (rest : Text) : Scanned :=
  match rawFunction? (c :: rest) with
  | some length => ⟨length, .styled .property .word, some .argument⟩
  | none =>
    if isIdentChar c then .styled .property .word (leading isIdentChar (c :: rest))
    else .bare .unclassified 1

/-! ## Rules -/

/-- The rules that all dialects share, for a character and what comes behind it. -/
def shared (c : Char) (rest : Text) : Scanned :=
  match c with
  | '@' => (Scanned.styled .definition .atRule (leading isIdentChar rest)).behind 1
  | '=' => .bare .compare 1
  | '~' => if rest.head? == some '=' then .bare .compare 2 else .bare .unclassified 1
  | '|' => if rest.head? == some '=' then .bare .compare 2 else .bare .unclassified 1
  | '"' => (string .double rest).behind 1
  | '\'' => (string .single rest).behind 1
  | '#' => (Scanned.styled .atom .hash (leading isIdentChar rest)).behind 1
  | '!' => (Scanned.styled .keyword .important (importantTail rest)).behind 1
  | '-' => (dash rest).behind 1
  | '.' => (dot rest).behind 1
  | ',' => .bare .selectOp 1
  | '+' => .bare .selectOp 1
  | '>' => .bare .selectOp 1
  | '*' => .bare .selectOp 1
  | '/' => .bare .selectOp 1
  | c =>
    if c.isDigit then (number rest).behind 1
    else match Kind.punctuation? c with
      | some kind => .bare kind 1
      | none => identifier c rest

/-- What a dialect reads behind a character of its choice; `none` leaves the character to the
shared rules. -/
def hook (hook : Hook) (rest : Text) : Option Scanned :=
  match hook with
  | .blockComment =>
    if rest.head? == some '*' then some ((comment (rest.drop 1)).behind 1) else none
  | .comments =>
    if rest.head? == some '/' then some (.styled .comment .comment rest.length)
    else if rest.head? == some '*' then some ((comment (rest.drop 1)).behind 1)
    else some (.styled .operator .operator 0)
  | .nestedPropertyColon => (braceAhead? rest).map (Scanned.bare .braceOpen)
  | .dollarVariable => some (variableOf (leading isNameChar rest) rest)
  | .hashInterpolation => if rest.head? == some '{' then some (.bare .interpolation 1) else none
  | .atVariable =>
    if rest.head? == some '{' then some (.bare .interpolation 1)
    else if atRuleName rest then none
    else some (variableOf (leading isIdentChar rest) rest)
  | .parentSelector => some (.styled .atom .atom 0)

/-- One lexeme where nothing is open. At the end of the line there is an empty one. -/
def base (dialect : Dialect) : Text → Scanned
  | [] => .bare .unclassified 0
  | c :: rest =>
    match (dialect.hook? c).bind (hook · rest) with
    | some scanned => scanned.behind 1
    | none => shared c rest

end Scan

/-- One lexeme from the front of what is left of a line. -/
def scan (dialect : Dialect) : Option Continuation → Text → Scanned
  | none => Scan.base dialect
  | some (.string quote) => Scan.string quote
  | some .comment => Scan.comment
  | some .argument => Scan.argument
  | some .rawArgument => Scan.rawArgument

end Stylesheet
