import Stylesheet.Text.Basic

/-!
# Tokens

A token carries two classifications that do not depend on each other. Its `Kind` drives the
grammar and is never shown. Its `Style` is what a host paints: a category, and a flag for text
that the grammar does not allow. `Style.label` writes a style as hosts name it, and
`Style.ofLabel?` reads every label back.
-/
namespace Stylesheet

/-- What a stretch of text is displayed as. -/
inductive Category where
  | atom
  | attributeName
  | builtin
  | comment
  | definition
  | keyword
  | vendor
  | number
  | operator
  | property
  | qualifier
  | string
  | string2
  | tag
  | variable1
  | variable2
  | variable3
  deriving DecidableEq, Repr

namespace Category

/-- The name hosts know a category by. -/
def name : Category → String
  | atom => "atom"
  | attributeName => "attribute"
  | builtin => "builtin"
  | comment => "comment"
  | definition => "def"
  | keyword => "keyword"
  | vendor => "meta"
  | number => "number"
  | operator => "operator"
  | property => "property"
  | qualifier => "qualifier"
  | string => "string"
  | string2 => "string-2"
  | tag => "tag"
  | variable1 => "variable"
  | variable2 => "variable-2"
  | variable3 => "variable-3"

/-- Every category, in the order of their names. -/
def all : List Category :=
  [atom, attributeName, builtin, comment, definition, keyword, vendor, number, operator, property,
    qualifier, string, string2, tag, variable1, variable2, variable3]

end Category

/-- What a host paints a token with. -/
structure Style where
  /-- The category, if the text has one. -/
  category : Option Category
  /-- Whether the grammar does not allow the text where it stands. -/
  isError : Bool
  deriving DecidableEq, Repr

namespace Style

/-- Text without a classification. -/
def unstyled : Style := ⟨none, false⟩

/-- Text that is only known to be out of place. -/
def error : Style := ⟨none, true⟩

/-- Text of a category, in its place. -/
def plain (category : Category) : Style := ⟨some category, false⟩

instance : Coe Category Style := ⟨plain⟩

/-- The same category, out of place. -/
def flagged (style : Style) : Style := { style with isError := true }

/-- Whether there is nothing to paint. -/
def isUnstyled (style : Style) : Bool := style == unstyled

/-- Whether the text is of a category and in its place. -/
def is (style : Style) (category : Category) : Bool := style == plain category

/-- The style as hosts write it: the category, then the word `error` for text out of place. -/
def label : Style → String
  | ⟨some category, false⟩ => category.name
  | ⟨some category, true⟩ => category.name ++ " error"
  | ⟨none, true⟩ => "error"
  | ⟨none, false⟩ => ""

/-- Every style: all categories in and out of place, then the two without a category. -/
def all : List Style :=
  Category.all.map plain ++ Category.all.map (fun category => (plain category).flagged) ++
    [error, unstyled]

/-- The style that is written as the given label. -/
def ofLabel? (text : String) : Option Style := all.find? (·.label == text)

end Style

/-- What the grammar takes a token for. -/
inductive Kind where
  /-- A run of identifier characters, function names included. -/
  | word
  /-- A number sign and a name: a color or an identifier. -/
  | hash
  | string
  | comment
  /-- A number with its unit. -/
  | unit
  /-- An exclamation mark and the word behind it. -/
  | important
  /-- A comparison in an attribute selector. -/
  | compare
  /-- A combinator of selectors, or the comma between them. -/
  | selectOp
  /-- A dot and a class name. -/
  | qualifier
  /-- What stands in front of a vendor's own names, such as `-moz-`. -/
  | vendor
  | variableUse
  /-- A variable in front of a colon. -/
  | variableDefinition
  /-- The opening of an interpolation. -/
  | interpolation
  | operator
  /-- The parent selector. -/
  | atom
  /-- An at sign and a name. -/
  | atRule
  | colon
  | semicolon
  | braceOpen
  | braceClose
  | bracketOpen
  | bracketClose
  | parenOpen
  | parenClose
  /-- White space between tokens. The grammar never sees it. -/
  | whitespace
  /-- A character of no meaning where it stands. -/
  | unclassified
  deriving DecidableEq, Repr

namespace Kind

/-- The name of a kind; punctuation is named by itself. -/
def name : Kind → String
  | word => "word"
  | hash => "hash"
  | string => "string"
  | comment => "comment"
  | unit => "unit"
  | important => "important"
  | compare => "compare"
  | selectOp => "select-op"
  | qualifier => "qualifier"
  | vendor => "meta"
  | variableUse => "variable"
  | variableDefinition => "variable-definition"
  | interpolation => "interpolation"
  | operator => "operator"
  | atom => "atom"
  | atRule => "at-rule"
  | colon => ":"
  | semicolon => ";"
  | braceOpen => "\x7b"
  | braceClose => "\x7d"
  | bracketOpen => "["
  | bracketClose => "]"
  | parenOpen => "("
  | parenClose => ")"
  | whitespace => "whitespace"
  | unclassified => "unclassified"

/-- The kind of a punctuation mark. -/
def punctuation? : Char → Option Kind
  | ':' => some colon
  | ';' => some semicolon
  | '{' => some braceOpen
  | '}' => some braceClose
  | '[' => some bracketOpen
  | ']' => some bracketClose
  | '(' => some parenOpen
  | ')' => some parenClose
  | _ => none

end Kind

/-- The two classifications of a stretch of text. -/
structure Token where
  /-- What a host paints. -/
  style : Style
  /-- What the grammar sees. -/
  kind : Kind
  deriving DecidableEq, Repr

namespace Token

/-- A token without a style. -/
def bare (kind : Kind) : Token := ⟨.unstyled, kind⟩

/-- A token of a display category. -/
def styled (category : Category) (kind : Kind) : Token := ⟨.plain category, kind⟩

end Token

end Stylesheet
