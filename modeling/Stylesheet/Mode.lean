import Stylesheet.Cursor
import Stylesheet.Grammar.Step

/-!
# Modes

A mode is a dialect with the settings of a host. It keeps nothing between calls: the host hands
in a `ParseState` with every request and keeps the one that comes back. `Mode.read` is one token
on the text that is left of a line, and `Mode.nextToken` the same behind a cursor.
-/
namespace Stylesheet

/-- What a host decides about its text. -/
structure Settings where
  /-- The columns of one level of indentation. -/
  indentUnit : UInt64 := 2
  /-- The distance between tab stops. -/
  tabSize : UInt64 := 4
  /-- Whether the text is a list of declarations, as in an attribute, and no style sheet. -/
  inline : Bool := false
  deriving DecidableEq, Repr

/-- Why there is no mode for a request. -/
inductive ModeError where
  /-- No dialect has the name. -/
  | unknownDialect (name : Text)
  /-- Levels of indentation have to differ. -/
  | invalidIndentUnit (columns : UInt64)
  /-- Tab stops have to differ. -/
  | invalidTabSize (columns : UInt64)
  deriving DecidableEq, Repr

/-- The cause in words. -/
def ModeError.message : ModeError → String
  | unknownDialect name =>
    let name := String.ofList name
    s!"unknown CSS dialect '{name}' (expected css, scss, less or gss)"
  | invalidIndentUnit columns => s!"indent unit must be at least 1 column, got {columns}"
  | invalidTabSize columns => s!"tab size must be at least 1 column, got {columns}"

/-- The dialect of a name, or the reason why there is none. -/
def Dialect.named (name : Text) : Except ModeError Dialect :=
  match ofName? name with
  | some dialect => .ok dialect
  | none => .error (.unknownDialect name)

/-- Settings that a host can mean. -/
structure Settings.Valid (settings : Settings) : Prop where
  /-- A level has a width. -/
  indentUnit_pos : 0 < settings.indentUnit
  /-- A tab has a width. -/
  tabSize_pos : 0 < settings.tabSize

/-- What is wrong with settings: the unit of indentation comes before the tab size. -/
def Settings.fault? (settings : Settings) : Option ModeError :=
  if settings.indentUnit = 0 then some (.invalidIndentUnit settings.indentUnit)
  else if settings.tabSize = 0 then some (.invalidTabSize settings.tabSize)
  else none

/-- Settings are valid exactly when nothing is wrong with them. -/
theorem Settings.fault?_eq_none_iff {settings : Settings} :
    settings.fault? = none ↔ settings.Valid := by
  unfold fault?
  constructor
  · intro faultless
    split at faultless
    · simp at faultless
    · next unit =>
      split at faultless
      · simp at faultless
      · next tab => exact ⟨UInt64.pos_iff_ne_zero.mpr unit, UInt64.pos_iff_ne_zero.mpr tab⟩
  · rintro ⟨unit, tab⟩
    rw [if_neg (UInt64.pos_iff_ne_zero.mp unit), if_neg (UInt64.pos_iff_ne_zero.mp tab)]

/-- A dialect under valid settings. -/
structure Mode where
  /-- The language. -/
  dialect : Dialect
  /-- The settings. -/
  settings : Settings := {}
  /-- The settings mean something. -/
  valid : settings.Valid := by exact ⟨by decide, by decide⟩

/-- The text of the comment delimiters, of the characters that ask for a new indentation when
typed, and of the way to fold. -/
structure EditorHints where
  /-- Typing one of these indents the line anew. -/
  electricChars : String
  /-- What opens a block comment. -/
  commentStart : String
  /-- What closes a block comment. -/
  commentEnd : String
  /-- How text folds. -/
  fold : String

namespace Mode

/-- What editors are told about every mode. -/
def editorHints : EditorHints :=
  { electricChars := "\x7d", commentStart := "/*", commentEnd := "*/", fold := "brace" }

/-- The mode of a dialect under the settings, if they are valid. -/
def make (dialect : Dialect) (settings : Settings) : Except ModeError Mode :=
  match check : settings.fault? with
  | some fault => .error fault
  | none => .ok ⟨dialect, settings, Settings.fault?_eq_none_iff.mp check⟩

/-- The mode of a dialect under the settings that apply by default. -/
def ofDialect (dialect : Dialect) : Mode := { dialect }

/-- What the outermost list of a text holds. -/
def body (mode : Mode) : Body := if mode.settings.inline then .block else .top

/-- Before the first line of a text whose outermost content is indented to a column. -/
def startState (mode : Mode) (indent : UInt64) : ParseState := .start mode.body indent

/-- A token at the front of the text that is left of a line. -/
structure Reading where
  /-- How many characters it has. -/
  length : Nat
  /-- What it is. -/
  token : Token
  /-- What to remember behind it. -/
  state : ParseState

/-- Read one token of a line that is indented to a column. Where nothing is open, white space is
a token of its own, which the grammar does not see. The lexeme that the grammar does see starts
with the text that the host has read and not yet let go of. -/
def read (mode : Mode) (indentation : UInt64) (carried rest : Text) (state : ParseState) :
    Reading :=
  let blank := Text.leading Text.isBlank rest
  if state.continuation.isNone && 0 < blank then ⟨blank, .bare .whitespace, state⟩
  else
    let scanned := scan mode.dialect state.continuation rest
    let lexeme : Lexeme :=
      { token := scanned.token
        text := carried ++ rest.take scanned.length
        rest := rest.drop scanned.length }
    let (style, context) :=
      state.context.step mode.dialect ⟨indentation, mode.settings.indentUnit⟩ lexeme
    ⟨scanned.length, ⟨style, scanned.token.kind⟩, ⟨scanned.continuation, context⟩⟩

/-- Read one token at a cursor: the token, the cursor behind it and the state behind it. -/
def nextToken (mode : Mode) (cursor : Cursor) (state : ParseState) :
    Token × Cursor × ParseState :=
  let reading := mode.read cursor.indentation cursor.lexeme cursor.rest state
  (reading.token, cursor.advance reading.length, reading.state)

end Mode

end Stylesheet
