import Stylesheet.Text.Split
import Stylesheet.WordSet

/-!
# Value grammars

The values of a property are described by a grammar, a list of keywords and placeholders. A
placeholder such as `<box>` stands for the words of its expansion. Grammars are written with commas
between their items: `text` writes one and `parse` reads one.

A grammar serves two ends. `expand` lists the values of one property for completion, placeholders
replaced in place. `keywords` gathers the keywords of all properties for recognition; colors are
recognised apart from other keywords, so the placeholder of colors adds nothing there.
-/
namespace Stylesheet

namespace ValueGrammar

/-- A part of a grammar. -/
inductive Item where
  /-- A word that is a value. -/
  | keyword (word : String)
  /-- A name, in angle brackets, for words that several grammars share. -/
  | placeholder (name : String)
  deriving DecidableEq, Repr

instance : Coe String Item := ⟨Item.keyword⟩

end ValueGrammar

/-- The values of a property; none are listed where no keyword is one. -/
abbrev ValueGrammar := List ValueGrammar.Item

/-- A property and its values. -/
structure Property where
  /-- The name in a declaration. -/
  name : String
  /-- The grammar of its values. -/
  grammar : ValueGrammar
  deriving DecidableEq

/-- A placeholder and what it stands for. -/
structure Placeholder where
  /-- The name, brackets included. -/
  name : String
  /-- The words it stands for. -/
  expansion : List String
  deriving DecidableEq

namespace ValueGrammar

/-- An item as it is written. -/
def Item.text : Item → String
  | keyword word => word
  | placeholder name => name

/-- A grammar as it is written. -/
def text (grammar : ValueGrammar) : String := ",".intercalate (grammar.map Item.text)

/-- What an item of a written grammar is: an angle bracket makes it a placeholder. -/
def Item.ofText (piece : Text) : Item :=
  if piece.contains '<' then .placeholder (String.ofList piece)
  else .keyword (String.ofList piece)

/-- Read a grammar. Only the empty text has no items. -/
def parse (written : Text) : ValueGrammar :=
  if written.isEmpty then [] else (Text.split ',' written).map Item.ofText

/-- The words a placeholder stands for, by the first entry of its name. -/
def expansion? (placeholders : List Placeholder) (name : String) : Option (List String) :=
  (placeholders.find? (·.name == name)).map Placeholder.expansion

/-- The values one item stands for. An empty keyword is none, and an unknown placeholder stands
for none. -/
def expandItem (placeholders : List Placeholder) : Item → List String
  | .keyword word => if word = "" then [] else [word]
  | .placeholder name => (expansion? placeholders name).getD []

/-- The values a grammar names, each once, in the order of its items. -/
def expand (placeholders : List Placeholder) (grammar : ValueGrammar) : WordSet :=
  .ofList (grammar.flatMap (expandItem placeholders))

/-- The keywords among the items of a grammar. -/
def ownKeywords (grammar : ValueGrammar) : List String :=
  grammar.filterMap fun
    | .keyword word => some word
    | .placeholder _ => none

/-- The placeholder whose words are kept apart from the other keywords. -/
def colorPlaceholder : String := "<color>"

/-- The keywords of every grammar, then the words of every placeholder but that of colors. -/
def keywords (properties : List Property) (placeholders : List Placeholder) : WordSet :=
  let shared := placeholders.filter (·.name != colorPlaceholder)
  .ofList (properties.flatMap (ownKeywords ·.grammar) ++ shared.flatMap Placeholder.expansion)

/-- The grammar of a property, when it is listed. -/
def find? (properties : List Property) (name : String) : Option ValueGrammar :=
  (properties.find? (·.name == name)).map Property.grammar

end ValueGrammar

end Stylesheet
