import Stylesheet.Document.Tokens

/-!
# Completion

Completion offers the words of one table that go on with what stands in front of the cursor. The
state behind the token under the cursor decides which table, and in a value the name of the
property does. Every table is complete, whatever the dialect.
-/
namespace Stylesheet

/-- Words on offer, and the stretch of the line that the chosen one replaces. -/
structure Completions where
  /-- The words, in the order of their table. -/
  words : List String
  /-- The offset of the stretch. -/
  start : Nat
  /-- The offset behind the stretch. -/
  stop : Nat
  deriving DecidableEq, Repr

/-- Where completion is asked for. -/
structure CompletionRequest where
  /-- The line of the cursor. -/
  line : Text
  /-- The offset of the cursor. -/
  offset : Nat
  /-- The token under the cursor. -/
  token : PlacedToken

/-- A table to complete from. -/
inductive CompletionSource where
  | pseudoClasses
  | properties
  | values
  /-- The values that the grammar of a property names. -/
  | grammar (grammar : ValueGrammar)
  | media
  deriving DecidableEq, Repr

namespace Completion

/-- The pseudo-classes and pseudo-elements on offer behind a colon. -/
def pseudoClasses : List String :=
  ["link", "visited", "active", "hover", "focus", "first-letter", "first-line", "first-child",
    "before", "after", "lang"]

/-- The one word on offer behind an exclamation mark. -/
def important : String := "!important"

/-- What a word to complete is made of. -/
def isWordChar (c : Char) : Bool := c.isAlphanum || c == '_' || c == '$' || c == '-'

/-- The name of the property in whose value an offset of a line stands: the last word before the
last colon in front of the offset. Braces and semicolons end words. -/
def propertyName (line : Text) (offset : Nat) : Text :=
  match (Text.before offset line).reverse.dropWhile (· != ':') with
  | [] => []
  | _ :: name =>
    let spaced := name.reverse.flatMap fun c => if c == '{' || c == ';' then [c, ' '] else [c]
    (Text.words spaced).getLast?.getD []

/-- The table for a request, if there is one. -/
def source? (request : CompletionRequest) : Option CompletionSource :=
  let state := request.token.state.context.state
  if state = .awaiting .pseudoClass ∨ request.token.token.style.is .variable3 then
    some .pseudoClasses
  else match state with
    | .within (.body .block) => some .properties
    | .awaiting .colon => some .properties
    | .within .parens => some .values
    | .within .atRule => some .values
    | .within .value =>
      let name := String.ofList (propertyName request.line request.offset)
      match ValueGrammar.find? Words.properties name with
      | some grammar => some (.grammar grammar)
      | none => some .values
    | .within .condition => some .media
    | .within .conditionParens => some .media
    | _ => none

/-- The words of a table. The values of a property are followed by the two that every property
has. -/
def candidates : CompletionSource → List String
  | .pseudoClasses => pseudoClasses
  | .properties => Vocabulary.full.properties.toList
  | .values => Vocabulary.full.values.toList ++ Vocabulary.full.colors.toList
  | .grammar grammar =>
    ((ValueGrammar.expand Words.placeholders grammar).extend ["inherit", "initial"]).toList
  | .media => Vocabulary.full.mediaTypes.toList ++ Vocabulary.full.mediaFeatures.toList

/-- The words of a table that start with a text. -/
def startingWith (word : Text) (table : List String) : List String :=
  table.filter fun candidate => word.isPrefixOf candidate.toList

/-- The completions for a request, if there are any. The word to complete is the token up to the
cursor when it looks like a word, and empty otherwise. -/
def answer? (request : CompletionRequest) : Option Completions :=
  let token := request.token
  if token.token.style.is .keyword && token.text.isPrefixOf important.toList then
    some ⟨[important], token.start, token.stop⟩
  else
    let typed := Text.before (request.offset - token.start) token.text
    let (word, start) := if typed.all isWordChar then (typed, token.start) else ([], request.offset)
    (source? request).bind fun source =>
      let words := startingWith word (candidates source)
      if words.isEmpty then none else some ⟨words, start, request.offset⟩

end Completion

/-- The completions at an offset of a line of a document. -/
def Mode.completions? (mode : Mode) (document : Text) (line offset : Nat) : Option Completions :=
  match (Text.lines document)[line]?, mode.tokenAt? document line offset with
  | some text, some token => Completion.answer? ⟨text, offset, token⟩
  | _, _ => none

end Stylesheet
