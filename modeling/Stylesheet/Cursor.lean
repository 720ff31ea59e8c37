import Stylesheet.Text.Bytes
import Stylesheet.Text.Column

/-!
# A cursor over one line

A host shows a line through a cursor and asks for one token at a time. The cursor is a zipper:
the characters it has passed, nearest first, and those it has yet to read. It remembers where the
current lexeme starts. Reading moves the cursor only; `markLexeme` moves the start of the lexeme.
Offsets are bytes of UTF-8.
-/
namespace Stylesheet

/-- A place in a line and the start of the current lexeme. -/
structure Cursor where
  /-- The whole line, wherever the cursor stands. -/
  line : Text
  /-- The characters before the cursor, nearest first. -/
  passed : Text
  /-- The characters from the cursor on. -/
  rest : Text
  /-- How many characters stand before the current lexeme. -/
  mark : Nat
  /-- The distance between tab stops. -/
  tabSize : UInt64
  /-- The cursor cuts the line in two. -/
  passed_rest : passed.reverse ++ rest = line

namespace Cursor

/-- The start of a line. -/
def ofLine (tabSize : UInt64) (line : Text) : Cursor :=
  { line, passed := [], rest := line, mark := 0, tabSize, passed_rest := rfl }

/-- How many characters the cursor has passed. -/
def index (cursor : Cursor) : Nat := cursor.passed.length

/-- The offset of the cursor. -/
def offset (cursor : Cursor) : Nat := Text.utf8Length cursor.passed

/-- The text before the current lexeme. -/
def beforeLexeme (cursor : Cursor) : Text := cursor.line.take cursor.mark

/-- The offset of the current lexeme. -/
def start (cursor : Cursor) : Nat := Text.utf8Length cursor.beforeLexeme

/-- The current lexeme, up to the cursor; empty when the cursor stands before its start. -/
def lexeme (cursor : Cursor) : Text := (cursor.passed.take (cursor.index - cursor.mark)).reverse

/-- The column of the current lexeme. -/
def column (cursor : Cursor) : UInt64 := Text.width cursor.tabSize cursor.beforeLexeme

/-- The indentation of the line. -/
def indentation (cursor : Cursor) : UInt64 := Text.indentation cursor.tabSize cursor.line

/-- Whether nothing has been passed. -/
def atStart (cursor : Cursor) : Bool := cursor.passed.isEmpty

/-- Whether nothing is left to read. -/
def atEnd (cursor : Cursor) : Bool := cursor.rest.isEmpty

/-- Start a lexeme at the cursor. -/
def markLexeme (cursor : Cursor) : Cursor := { cursor with mark := cursor.index }

/-- Pass some characters; at most those that are left. -/
def advance (count : Nat) (cursor : Cursor) : Cursor :=
  { cursor with
    passed := (cursor.rest.take count).reverse ++ cursor.passed
    rest := cursor.rest.drop count
    passed_rest := by
      rw [List.reverse_append, List.reverse_reverse, List.append_assoc, List.take_append_drop]
      exact cursor.passed_rest }

@[simp] theorem line_markLexeme (cursor : Cursor) : cursor.markLexeme.line = cursor.line := rfl

@[simp] theorem passed_markLexeme (cursor : Cursor) :
    cursor.markLexeme.passed = cursor.passed := rfl

@[simp] theorem rest_markLexeme (cursor : Cursor) : cursor.markLexeme.rest = cursor.rest := rfl

/-- A lexeme that starts at the cursor has no characters yet. -/
@[simp] theorem lexeme_markLexeme (cursor : Cursor) : cursor.markLexeme.lexeme = [] := by
  simp [lexeme, markLexeme, index]

@[simp] theorem line_advance (count : Nat) (cursor : Cursor) :
    (cursor.advance count).line = cursor.line := rfl

@[simp] theorem passed_advance (count : Nat) (cursor : Cursor) :
    (cursor.advance count).passed = (cursor.rest.take count).reverse ++ cursor.passed := rfl

@[simp] theorem rest_advance (count : Nat) (cursor : Cursor) :
    (cursor.advance count).rest = cursor.rest.drop count := rfl

/-- Go back over some characters; at most to the start of the line. -/
def backUp (count : Nat) (cursor : Cursor) : Cursor :=
  { cursor with
    passed := cursor.passed.drop count
    rest := (cursor.passed.take count).reverse ++ cursor.rest
    passed_rest := by
      rw [← List.append_assoc, ← List.reverse_append, List.take_append_drop]
      exact cursor.passed_rest }

/-- The next character. -/
def peek? (cursor : Cursor) : Option Char := cursor.rest.head?

/-- Read the next character. -/
def next (cursor : Cursor) : Option Char × Cursor := (cursor.peek?, cursor.advance 1)

/-- Read the next character if it belongs to a class. -/
def eatIf (belongs : Char → Bool) (cursor : Cursor) : Option Char × Cursor :=
  match cursor.peek? with
  | some c => if belongs c then (some c, cursor.advance 1) else (none, cursor)
  | none => (none, cursor)

/-- Read the next character if it is the expected one, and say whether it was. -/
def eat (expected : Char) (cursor : Cursor) : Bool × Cursor :=
  if cursor.peek? = some expected then (true, cursor.advance 1) else (false, cursor)

/-- Read all characters of a class that come next, and say whether there were any. -/
def eatWhile (belongs : Char → Bool) (cursor : Cursor) : Bool × Cursor :=
  let count := Text.leading belongs cursor.rest
  (count != 0, cursor.advance count)

/-- Read the white space that comes next, and say whether there was any. -/
def eatBlank (cursor : Cursor) : Bool × Cursor := cursor.eatWhile Text.isBlank

/-- Read the rest of the line. -/
def skipToEnd (cursor : Cursor) : Cursor := cursor.advance cursor.rest.length

/-- Say whether a pattern matches what comes next, and read the match if so asked. -/
def matchPattern (pattern : Text.Pattern) (consume : Bool) (cursor : Cursor) : Bool × Cursor :=
  match pattern cursor.rest with
  | some count => (true, if consume then cursor.advance count else cursor)
  | none => (false, cursor)

/-- Say whether a text comes next, and read it if so asked. -/
def matchText (text : Text) (consume : Bool) (cursor : Cursor) : Bool × Cursor :=
  cursor.matchPattern (fun rest => if text.isPrefixOf rest then some text.length else none) consume

end Cursor

end Stylesheet
