import Stylesheet.Grammar.Reaction

/-!
# One step of the grammar

A lexeme is offered to what is awaited, then to the innermost scope, and from there outwards
until a scope settles it. Each scope that does not is closed, so no scope is asked twice and the
root, which settles everything, ends the search.
-/
namespace Stylesheet

/-- The columns that decide where the content of a new scope is indented to. -/
structure Layout where
  /-- The indentation of the line. -/
  indentation : UInt64
  /-- The columns of one level. -/
  unit : UInt64
  deriving DecidableEq, Repr

/-- The frame of a scope opened on a line. -/
def Layout.frame (layout : Layout) (scope : Scope) : Placing → Frame
  | .deeper => ⟨scope, layout.indentation + layout.unit⟩
  | .level => ⟨scope, layout.indentation⟩

namespace Nesting

/-- The scopes that stay open above the root, and the meaning of a lexeme there. The first
`skipped` scopes are closed without being asked. -/
def settle (dialect : Dialect) (rule : Option DescriptorRule) (lexeme : Lexeme) (body : Body) :
    (skipped : Nat) → List Frame → List Frame × Answer
  | _, [] => ([], Grammar.inBody dialect lexeme body)
  | skipped + 1, _ :: below => settle dialect rule lexeme body skipped below
  | 0, frame :: below =>
    match Grammar.react dialect rule lexeme frame.scope with
    | .settle answer => (frame :: below, answer)
    | .yield others => settle dialect rule lexeme body others below

end Nesting

namespace Context

/-- What becomes of a context by a move. Leaving a block of descriptors ends their checking. -/
def apply (layout : Layout) (context : Context) : Move → Context
  | .stay => { context with awaiting := none }
  | .await token => { context with awaiting := some token }
  | .check rule => { context with awaiting := some .descriptorBlock, rule := some rule }
  | .enter scope =>
    { context with
      nesting := context.nesting.push (layout.frame scope .deeper)
      awaiting := none }
  | .replace scope placing =>
    { context with
      nesting := context.nesting.pop.push (layout.frame scope placing)
      awaiting := none }
  | .leave =>
    { nesting := context.nesting.pop
      awaiting := none
      rule := if context.nesting.innermost.scope = .descriptors then none else context.rule }

/-- The meaning of a lexeme where it is awaited. -/
def awaitedAnswer? (context : Context) (lexeme : Lexeme) : Option Answer :=
  context.awaiting.bind (Grammar.awaited context.rule lexeme)

/-- Feed one lexeme to the grammar: the style to paint it with, and the context behind it. -/
def step (dialect : Dialect) (layout : Layout) (context : Context) (lexeme : Lexeme) :
    Style × Context :=
  match context.awaitedAnswer? lexeme with
  | some answer => (answer.style, context.apply layout answer.move)
  | none =>
    let (opened, answer) :=
      Nesting.settle dialect context.rule lexeme context.nesting.root.body 0 context.nesting.opened
    let settled := { context with nesting := { context.nesting with opened := opened } }
    (answer.style, settled.apply layout answer.move)

end Context

end Stylesheet
