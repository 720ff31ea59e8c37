import Stylesheet.Text.FileName
import Stylesheet.Vocabulary

/-!
# Dialects

Four languages share one scanner and one grammar. They differ in the tables of words that they
consult, in whether rules may nest inside declaration blocks, in whether component blocks exist,
and in the characters that open a construct of their own.
-/
namespace Stylesheet

/-- A language of style sheets. -/
inductive Dialect where
  | css
  | scss
  | less
  | gss
  deriving DecidableEq, Repr

/-- A construct that a dialect reads behind a character of its choice. -/
inductive Hook where
  /-- A block comment. -/
  | blockComment
  /-- A block comment, a comment to the end of the line, or the division operator. -/
  | comments
  /-- A colon in front of a brace, which opens a block of nested properties. -/
  | nestedPropertyColon
  /-- A variable behind a dollar sign. -/
  | dollarVariable
  /-- An interpolation behind a number sign. -/
  | hashInterpolation
  /-- A variable or an interpolation behind an at sign; the names of at-rules are left alone. -/
  | atVariable
  /-- The parent selector. -/
  | parentSelector
  deriving DecidableEq, Repr

namespace Dialect

/-- Every dialect. -/
def all : List Dialect := [css, scss, less, gss]

/-- The short name, which is also the extension of its files. -/
def name : Dialect → String
  | css => "css"
  | scss => "scss"
  | less => "less"
  | gss => "gss"

/-- The media type. -/
def mediaType : Dialect → String
  | css => "text/css"
  | scss => "text/x-scss"
  | less => "text/x-less"
  | gss => "text/x-gss"

/-- The dialect of files with an extension, whatever the case of its letters. -/
def ofExtension? (extension : Text) : Option Dialect :=
  all.find? fun dialect => Text.equalIgnoringCase extension dialect.name.toList

/-- The dialect of a file, by its extension. -/
def ofPath? (path : Text) : Option Dialect := (Text.extension? path).bind ofExtension?

/-- The dialect of a short name or a media type, whatever the case of its letters. -/
def ofName? (name : Text) : Option Dialect :=
  all.find? fun dialect =>
    Text.equalIgnoringCase name dialect.name.toList ||
      Text.equalIgnoringCase name dialect.mediaType.toList

/-- Whether rules may stand inside declaration blocks. -/
def allowsNesting : Dialect → Bool
  | css => false
  | scss => true
  | less => true
  | gss => false

/-- Whether component blocks exist. -/
def allowsComponents (dialect : Dialect) : Bool := dialect == gss

/-- The characters that open constructs of the dialect. -/
def hooks : Dialect → List (Char × Hook)
  | css => [('/', .blockComment)]
  | scss =>
    [('/', .comments), (':', .nestedPropertyColon), ('$', .dollarVariable),
      ('#', .hashInterpolation)]
  | less => [('/', .comments), ('@', .atVariable), ('&', .parentSelector)]
  | gss => [('/', .blockComment)]

/-- The construct that a character opens. -/
def hook? (dialect : Dialect) (c : Char) : Option Hook := dialect.hooks.lookup c

/-- The tables a dialect consults. The nesting dialects have no document functions and no
counter descriptors; component blocks go without media values. -/
def vocabulary : Dialect → Vocabulary
  | css => .full
  | scss => { Vocabulary.full with documentTypes := .empty, counterDescriptors := .empty }
  | less => { Vocabulary.full with documentTypes := .empty, counterDescriptors := .empty }
  | gss => { Vocabulary.full with mediaValues := .empty }

end Dialect

end Stylesheet
