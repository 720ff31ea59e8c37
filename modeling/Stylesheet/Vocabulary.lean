import Stylesheet.Vocabulary.Properties

/-!
# The vocabulary of style sheets

A `Vocabulary` is the set of tables against which words are recognised and from which they are
completed. `Vocabulary.full` holds every word; a dialect may do without some of the tables.
-/
namespace Stylesheet

/-- The tables of words that a dialect knows. -/
structure Vocabulary where
  /-- Functions that choose documents in a document rule. -/
  documentTypes : WordSet
  /-- Media types of a condition. -/
  mediaTypes : WordSet
  /-- Media features of a condition. -/
  mediaFeatures : WordSet
  /-- Keyword values of media features. -/
  mediaValues : WordSet
  /-- Property names in alphabetical order. -/
  properties : WordSet
  /-- Properties of one vendor, or of the past. -/
  legacyProperties : WordSet
  /-- Descriptors of a font. -/
  fontDescriptors : WordSet
  /-- Descriptors of a counter style. -/
  counterDescriptors : WordSet
  /-- Named colors. -/
  colors : WordSet
  /-- Keywords of property values, colors apart. -/
  values : WordSet
  deriving Inhabited

namespace Vocabulary

/-- Every table with all its words. -/
def full : Vocabulary where
  documentTypes := .ofList Words.documentTypes
  mediaTypes := .ofList Words.mediaTypes
  mediaFeatures := .ofList Words.mediaFeatures
  mediaValues := .ofList Words.mediaValues
  properties := .ofList ((Words.properties.map Property.name).mergeSort (· ≤ ·))
  legacyProperties := .ofList Words.legacyProperties
  fontDescriptors := .ofList Words.fontDescriptors
  counterDescriptors := .ofList Words.counterDescriptors
  colors := .ofList Words.colors
  values := ValueGrammar.keywords Words.properties Words.placeholders

/-- The words for a completer that knows no context: table after table, so a word of two tables
comes twice. Descriptors are left out. -/
def completionWords (vocabulary : Vocabulary) : List String :=
  [vocabulary.documentTypes, vocabulary.mediaTypes, vocabulary.mediaFeatures,
    vocabulary.mediaValues, vocabulary.properties, vocabulary.legacyProperties,
    vocabulary.colors, vocabulary.values].flatMap WordSet.toList

end Vocabulary

end Stylesheet
