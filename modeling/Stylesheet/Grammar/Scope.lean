/-!
# Scopes

While a style sheet is read, scopes are open: blocks, values, parentheses and the headers of
at-rules. They are nested over a root that is never closed. The root is a list of rules or a list
of declarations and nothing else, which its type says. Inside the innermost scope the grammar may
await a certain token; that is never a scope of its own.
-/
namespace Stylesheet

/-- What a list between braces holds. -/
inductive Body where
  /-- Rules and at-rules. -/
  | top
  /-- Declarations. -/
  | block
  deriving DecidableEq, Repr

/-- An open construct. -/
inductive Scope where
  /-- A list of rules or of declarations. -/
  | body (list : Body)
  /-- Properties that share the front of their names. -/
  | propertyBlock
  /-- The value of a declaration. -/
  | value
  /-- Parentheses, as a rule in a value. -/
  | parens
  /-- The header of a rule that chooses documents. -/
  | documentTypes
  /-- The condition of an at-rule. -/
  | condition
  /-- Parentheses in a condition. -/
  | conditionParens
  /-- The header of a component. -/
  | component
  /-- A block that admits certain descriptors only. -/
  | descriptors
  /-- The header of any other at-rule. -/
  | atRule
  /-- An interpolation. -/
  | interpolation
  deriving DecidableEq, Repr

/-- A token that decides how to go on inside the innermost scope. -/
inductive Awaiting where
  /-- The colon behind a property name. -/
  | colon
  /-- The name of a pseudo-class. -/
  | pseudoClass
  /-- The block of an at-rule that admits certain descriptors only. -/
  | descriptorBlock
  /-- The block of an animation. -/
  | keyframesBlock
  deriving DecidableEq, Repr

/-- Where in the grammar the next token is read. -/
inductive State where
  /-- Directly within a scope. -/
  | within (scope : Scope)
  /-- Within a scope, awaiting a token. -/
  | awaiting (token : Awaiting)
  deriving DecidableEq, Repr

/-- The name of a list. -/
def Body.name : Body → String
  | top => "top"
  | block => "block"

/-- The name of a scope. -/
def Scope.name : Scope → String
  | .body list => list.name
  | propertyBlock => "propBlock"
  | value => "prop"
  | parens => "parens"
  | documentTypes => "documentTypes"
  | condition => "atBlock"
  | conditionParens => "atBlock_parens"
  | component => "atComponentBlock"
  | descriptors => "restricted_atBlock"
  | atRule => "at"
  | interpolation => "interpolation"

/-- The name of a state in which a token is awaited. -/
def Awaiting.name : Awaiting → String
  | colon => "maybeprop"
  | pseudoClass => "pseudo"
  | descriptorBlock => "restricted_atBlock_before"
  | keyframesBlock => "keyframes"

/-- The name by which hosts know a state. -/
def State.name : State → String
  | within scope => scope.name
  | awaiting token => token.name

/-- An open scope and the column its content is indented to. -/
structure Frame where
  /-- What is open. -/
  scope : Scope
  /-- The column of its content. -/
  indent : UInt64
  deriving DecidableEq, Repr

/-- The outermost scope. -/
structure Root where
  /-- What a document is a list of. -/
  body : Body
  /-- The column of its content. -/
  indent : UInt64
  deriving DecidableEq, Repr

/-- The root as a frame like the others. -/
def Root.frame (root : Root) : Frame := ⟨.body root.body, root.indent⟩

/-- The open scopes over the root. -/
structure Nesting where
  /-- The scopes above the root, innermost first. -/
  opened : List Frame
  /-- The scope that is never closed. -/
  root : Root
  deriving DecidableEq, Repr

namespace Nesting

/-- All frames, from the innermost to the root. -/
def frames (nesting : Nesting) : List Frame := nesting.opened ++ [nesting.root.frame]

/-- The frame in which the next token stands. -/
def innermost (nesting : Nesting) : Frame := nesting.opened.headD nesting.root.frame

/-- The frame so many levels out, counting the innermost as zero. -/
def ancestor? (level : Nat) (nesting : Nesting) : Option Frame := nesting.frames[level]?

/-- The frame around the innermost one. -/
def parent? (nesting : Nesting) : Option Frame := nesting.ancestor? 1

/-- The number of frames, root included. -/
def depth (nesting : Nesting) : Nat := nesting.frames.length

/-- Open a scope. -/
def push (frame : Frame) (nesting : Nesting) : Nesting :=
  { nesting with opened := frame :: nesting.opened }

/-- Close the innermost scope. The root stays. -/
def pop (nesting : Nesting) : Nesting := { nesting with opened := nesting.opened.tail }

/-- The innermost frame is the first of all. -/
theorem ancestor?_zero (nesting : Nesting) : nesting.ancestor? 0 = some nesting.innermost := by
  obtain ⟨opened, root⟩ := nesting
  cases opened <;> rfl

end Nesting

end Stylesheet
