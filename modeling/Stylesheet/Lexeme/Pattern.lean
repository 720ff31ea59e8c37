import Stylesheet.Text.Basic

/-!
# Patterns of lexemes

Character classes, and the patterns that decide how far a lexeme reaches or what it is. Names,
words and numbers are made of ASCII characters; white space is that of Unicode.
-/
namespace Stylesheet.Pattern

open Text (leading isBlank)

/-- Letters, digits and the underscore. -/
def isWordChar (c : Char) : Bool := c.isAlphanum || c == '_'

/-- What identifiers are made of: word characters, the backslash and the dash. -/
def isIdentChar (c : Char) : Bool := isWordChar c || c == '\\' || c == '-'

/-- What a number and its unit are made of. -/
def isUnitChar (c : Char) : Bool := isWordChar c || c == '.' || c == '%'

/-- What class names and dollar variables are made of. -/
def isNameChar (c : Char) : Bool := isWordChar c || c == '-'

/-- White space, then one expected character. -/
def blankThen (expected : Char) (text : Text) : Bool :=
  (text.dropWhile isBlank).head? == some expected

/-- The word behind an exclamation mark, with the white space in front of it. -/
def importantTail (text : Text) : Nat :=
  let blank := leading isBlank text
  blank + leading isWordChar (text.drop blank)

/-- A second dash and a name: the rest of a custom property. -/
def customProperty? : Text.Pattern
  | '-' :: name =>
    let length := leading isIdentChar name
    if 0 < length then some (length + 1) else none
  | _ => none

/-- A name and a dash: the rest of what stands in front of a vendor's names. -/
def vendorTail? (text : Text) : Option Nat :=
  let length := leading isWordChar text
  if 0 < length && (text.drop length).head? == some '-' then some (length + 1) else none

/-- A class name: a letter or an underscore and name characters, behind a dash or not. -/
def className? (text : Text) : Option Nat :=
  let dash := if text.head? == some '-' then 1 else 0
  match text.drop dash with
  | first :: name =>
    if first.isAlpha || first == '_' then some (dash + 1 + leading isNameChar name) else none
  | [] => none

/-- The functions whose argument need not be quoted. -/
def rawFunctions : List String := ["url", "url-prefix", "domain", "regexp"]

/-- The name of a function whose argument need not be quoted, in front of its parenthesis. The
parenthesis is not part of the match. -/
def rawFunction? (text : Text) : Option Nat :=
  (rawFunctions.find? fun name => (name.toList ++ ['(']).isPrefixOf text).map String.length

/-- A quoted argument or none at all. -/
def quoteOrClose (text : Text) : Bool :=
  blankThen '"' text || blankThen '\'' text || blankThen ')' text

/-- The colon behind the name of something that is being defined. -/
def definitionColon (text : Text) : Bool := blankThen ':' text

/-- The colon behind a property name, as opposed to one in front of a pseudo-class: white space
or the end of the line follows. -/
def propertyColon (text : Text) : Bool :=
  match text.dropWhile isBlank with
  | ':' :: after => after.head?.all isBlank
  | _ => false

/-- The brace of a nested block, with the white space in front of it. -/
def braceAhead? (text : Text) : Option Nat :=
  if blankThen '{' text then some (leading isBlank text + 1) else none

/-- The at-rules whose names are not variables. -/
def atRuleNames : List String :=
  ["charset", "document", "font-face", "import", "keyframes", "-moz-keyframes", "-ms-keyframes",
    "-o-keyframes", "-webkit-keyframes", "media", "namespace", "page", "supports"]

/-- The name of an at-rule, as a whole word. -/
def atRuleName (text : Text) : Bool :=
  atRuleNames.any fun name =>
    name.toList.isPrefixOf text && !(text.drop name.length).head?.any isWordChar

/-- A number sign and three, four, six or eight digits of a color. The class of digits reaches
from `A` to `f` without a gap. -/
def isHexColor : Text → Bool
  | '#' :: digits =>
    [3, 4, 6, 8].contains digits.length &&
      digits.all fun c => c.isDigit || ('A' ≤ c && c ≤ 'f')
  | _ => false

/-- The rules that choose documents. -/
def isDocumentRule (name : Text) : Bool :=
  ["@document", "@-moz-document"].contains (String.ofList name)

/-- The rules with a condition that reads like a media query. -/
def isConditionalRule (name : Text) : Bool :=
  ["@media", "@supports", "@document", "@-moz-document", "@import"].contains (String.ofList name)

/-- The rules of an animation. -/
def isKeyframesRule (name : Text) : Bool :=
  let names :=
    ["@keyframes", "@-moz-keyframes", "@-ms-keyframes", "@-o-keyframes", "@-webkit-keyframes"]
  names.contains (String.ofList name)

/-- The rules of a component. -/
def isComponentRule (name : Text) : Bool := Text.occurs "@component".toList name

end Stylesheet.Pattern
