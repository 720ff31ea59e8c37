import Stylesheet.Grammar.Scope
import Stylesheet.Lexeme.Scan

/-!
# What is remembered between tokens

A `ParseState` joins what the scanner has left open and where in the grammar the next token
stands. Hosts keep one for each line and read on from there. Two states that are equal lead to
the same tokens for the same text.
-/
namespace Stylesheet

/-- An at-rule whose block admits certain descriptors only. -/
inductive DescriptorRule where
  /-- A font. -/
  | fontFace
  /-- A counter style. -/
  | counterStyle
  /-- A longer name that starts like one of these. Its descriptors are not checked. -/
  | other
  deriving DecidableEq, Repr

/-- The rule an at-rule's name stands for. -/
def DescriptorRule.ofName? (name : Text) : Option DescriptorRule :=
  let font := "@font-face".toList
  let counter := "@counter-style".toList
  if name = font then some .fontFace
  else if name = counter then some .counterStyle
  else if font.isPrefixOf name || counter.isPrefixOf name then some .other
  else none

/-- Where in the grammar the next token stands. -/
structure Context where
  /-- The open scopes. -/
  nesting : Nesting
  /-- The token that is awaited inside the innermost scope. -/
  awaiting : Option Awaiting
  /-- The rule against which descriptors are checked. -/
  rule : Option DescriptorRule
  deriving DecidableEq, Repr

namespace Context

/-- Before the first token of a list whose content is indented to a column. -/
def start (body : Body) (indent : UInt64) : Context :=
  { nesting := ⟨[], ⟨body, indent⟩⟩, awaiting := none, rule := none }

/-- The state of the grammar. -/
def state (context : Context) : State :=
  match context.awaiting with
  | some token => .awaiting token
  | none => .within context.nesting.innermost.scope

end Context

/-- What is remembered between two tokens. -/
structure ParseState where
  /-- What the scanner goes on with. -/
  continuation : Option Continuation
  /-- Where in the grammar the next token stands. -/
  context : Context
  deriving DecidableEq, Repr

/-- Before the first token of a document. -/
def ParseState.start (body : Body) (indent : UInt64) : ParseState :=
  { continuation := none, context := .start body indent }

end Stylesheet
