import Stylesheet.Document.Tokens
import Stylesheet.Indentation

/-!
# Reindenting a document

Every line is given the indentation that follows from the lines above it, as they stand after
they were indented themselves. Indentation is written in spaces, and blank lines become empty.
-/
namespace Stylesheet.Mode

/-- A line with the indentation that its state asks for. -/
def reindentLine (mode : Mode) (line : Text) (state : ParseState) : Text :=
  let content := Text.trimStart line
  if content.isEmpty then []
  else List.replicate (mode.indent state content).toNat ' ' ++ content

/-- Lines with the indentation that follows from a state and from each other. -/
def reindentLines (mode : Mode) : List Text → ParseState → List Text
  | [], _ => []
  | line :: lines, state =>
    let indented := mode.reindentLine line state
    indented :: reindentLines mode lines (mode.lineEnd indented state)

/-- A document with every line reindented. -/
def reindent (mode : Mode) (document : Text) : Text :=
  Text.join '\n' (mode.reindentLines (Text.lines document) (mode.startState 0))

end Stylesheet.Mode
