import Stylesheet.Mode
import Stylesheet.Text.Split

/-!
# The tokens of a document

A document is read line by line, and each line token by token from its front to its end. Every
token takes at least one character: a reading without any is tried again with the state it left
behind, a few times, and then a character is passed over as a token without meaning.
-/
namespace Stylesheet

/-- A token and its place in a line. -/
structure PlacedToken where
  /-- The offset of its first character. -/
  start : Nat
  /-- The offset behind its last character. -/
  stop : Nat
  /-- Its text. -/
  text : Text
  /-- What it is. -/
  token : Token
  /-- What to remember behind it. -/
  state : ParseState
  deriving DecidableEq, Repr

/-- A token and its place in a document. -/
structure DocumentToken where
  /-- The number of its line, from zero. -/
  line : Nat
  /-- The offset of its first character in the line. -/
  start : Nat
  /-- The offset behind its last character in the line. -/
  stop : Nat
  /-- Its text. -/
  text : Text
  /-- What it is. -/
  token : Token
  deriving DecidableEq, Repr

/-- A token of a line as a token of the document. -/
def PlacedToken.onLine (line : Nat) (placed : PlacedToken) : DocumentToken :=
  { line, start := placed.start, stop := placed.stop, text := placed.text, token := placed.token }

namespace Mode

/-- How many readings without characters are made before a character is passed over. -/
def attempts : Nat := 10

/-- Read a token that takes at least one character, from text that has one. -/
def readSome (mode : Mode) (indentation : UInt64) (rest : Text) : Nat → ParseState → Reading
  | 0, state => ⟨1, .bare .unclassified, state⟩
  | left + 1, state =>
    let reading := mode.read indentation [] rest state
    if 0 < reading.length then reading else readSome mode indentation rest left reading.state

/-- The tokens of what is left of a line, behind an offset. Characters that belong to the token
just read are skipped. -/
def tokensFrom (mode : Mode) (indentation : UInt64) :
    (skipped : Nat) → Text → (offset : Nat) → ParseState → List PlacedToken
  | _, [], _, _ => []
  | skipped + 1, _ :: rest, offset, state =>
    tokensFrom mode indentation skipped rest offset state
  | 0, c :: rest, offset, state =>
    let reading := mode.readSome indentation (c :: rest) attempts state
    let text := (c :: rest).take reading.length
    let stop := offset + Text.utf8Length text
    { start := offset, stop, text, token := reading.token, state := reading.state } ::
      tokensFrom mode indentation (reading.length - 1) rest stop reading.state

/-- The tokens of a line. -/
def lineTokens (mode : Mode) (line : Text) (state : ParseState) : List PlacedToken :=
  mode.tokensFrom (Text.indentation mode.settings.tabSize line) 0 line 0 state

/-- The state behind tokens that are read from a state on. -/
def stateBehind (tokens : List PlacedToken) (state : ParseState) : ParseState :=
  (tokens.getLast?.map PlacedToken.state).getD state

/-- The state at the end of a line. -/
def lineEnd (mode : Mode) (line : Text) (state : ParseState) : ParseState :=
  stateBehind (mode.lineTokens line state) state

/-- The tokens of lines from a line number on. -/
def linesTokens (mode : Mode) : (number : Nat) → List Text → ParseState → List DocumentToken
  | _, [], _ => []
  | number, line :: lines, state =>
    let tokens := mode.lineTokens line state
    tokens.map (PlacedToken.onLine number) ++
      linesTokens mode (number + 1) lines (stateBehind tokens state)

/-- The state behind lines. -/
def linesEnd (mode : Mode) (lines : List Text) (state : ParseState) : ParseState :=
  lines.foldl (fun state line => mode.lineEnd line state) state

/-- All tokens of a document, white space included. -/
def highlight (mode : Mode) (document : Text) : List DocumentToken :=
  mode.linesTokens 0 (Text.lines document) (mode.startState 0)

/-- The state at the end of a document. -/
def finalState (mode : Mode) (document : Text) : ParseState :=
  mode.linesEnd (Text.lines document) (mode.startState 0)

/-- The token at an offset of a line: the last one that starts before the offset, so it covers
the offset or ends there. In front of the line's first character there is only an empty token.
There is none on a line that the document does not have. -/
def tokenAt? (mode : Mode) (document : Text) (line offset : Nat) : Option PlacedToken :=
  let lines := Text.lines document
  let state := mode.linesEnd (lines.take line) (mode.startState 0)
  lines[line]?.map fun target =>
    let started := (mode.lineTokens target state).takeWhile (·.start < offset)
    started.getLast?.getD ⟨0, 0, [], .bare .unclassified, state⟩

end Mode

end Stylesheet
