import Stylesheet.Mode

/-!
# Indentation of a line

A line is indented to the content of the innermost scope, unless it starts with a delimiter that
closes or opens something. A brace that closes a block stands where the scope around the block is
indented to. A parenthesis that closes parentheses, or a brace behind the header of an at-rule,
stands one unit less deep than the content. In a value, what closes is judged by the scope around
the value.
-/
namespace Stylesheet

/-- Whether a closing brace at the start of a line ends a block of this kind. -/
def Scope.isBlock : Scope → Bool
  | body _ => true
  | descriptors => true
  | interpolation => true
  | _ => false

/-- Whether a closing parenthesis at the start of a line ends parentheses of this kind. -/
def Scope.isParens : Scope → Bool
  | parens => true
  | conditionParens => true
  | _ => false

/-- Whether an opening brace at the start of a line belongs to a header of this kind. -/
def Scope.isHeader : Scope → Bool
  | atRule => true
  | condition => true
  | _ => false

/-- The column one unit in front of the content of a scope, or the first one if there is less than
a unit. -/
def Frame.outdent (unit : UInt64) (frame : Frame) : UInt64 :=
  if unit ≤ frame.indent then frame.indent - unit else 0

/-- The column for a line that starts with a text, its own white space left out. -/
def Nesting.indentFor (unit : UInt64) (text : Text) (nesting : Nesting) : UInt64 :=
  let innermost := nesting.innermost
  let first := text.head?
  let level :=
    if innermost.scope = .value ∧ (first = some '}' ∨ first = some ')') then 1 else 0
  match nesting.ancestor? level, nesting.ancestor? (level + 1) with
  | some frame, some around =>
    if first = some '}' ∧ frame.scope.isBlock then around.indent
    else if first = some ')' ∧ frame.scope.isParens then frame.outdent unit
    else if first = some '{' ∧ frame.scope.isHeader then frame.outdent unit
    else innermost.indent
  | _, _ => innermost.indent

/-- The column for a line whose text behind its white space is given, behind the state at the
end of the line before. -/
def Mode.indent (mode : Mode) (state : ParseState) (text : Text) : UInt64 :=
  state.context.nesting.indentFor mode.settings.indentUnit text

/-- The column for a whole line, behind the state at the end of the line before. -/
def Mode.indentLine (mode : Mode) (state : ParseState) (line : Text) : UInt64 :=
  mode.indent state (Text.trimStart line)

end Stylesheet
