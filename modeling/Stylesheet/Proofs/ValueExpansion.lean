import Mathlib.Data.List.Forall2
import Stylesheet.Proofs.WordOrder
import Stylesheet.Vocabulary.ValueGrammar

/-!
# Two readings of the same grammars

A grammar is read once to complete the values of its property and once, with all others, to
recognise keywords. Whatever the tables hold, the readings agree (`ValueGrammar.agree`): what is
offered is a keyword too, but for colors, and what is a keyword stands in a grammar or in an
expansion. Completion reads a grammar from left to right; every item of it stands for the words that
`ValueGrammar.StandsFor` says, and each word is listed where it comes first.
-/
namespace Stylesheet

/-- A property with its grammar as it is written. -/
def Property.ofText (written : String × Text) : Property :=
  ⟨written.1, ValueGrammar.parse written.2⟩

namespace ValueGrammar

variable {placeholders : List Placeholder}

/-- The words that an item of a written grammar stands for. -/
inductive StandsFor (placeholders : List Placeholder) : Text → List String → Prop
  /-- Nothing between two commas is no value. -/
  | empty : StandsFor placeholders [] []
  /-- A word stands for itself. -/
  | word {item : Text} (nonempty : item ≠ []) (plain : '<' ∉ item) :
    StandsFor placeholders item [String.ofList item]
  /-- A placeholder stands for the expansion that is listed first for it. -/
  | listed {before after : List Placeholder} {placeholder : Placeholder}
    (bracket : '<' ∈ placeholder.name.toList)
    (isListed : placeholders = before ++ placeholder :: after)
    (first : ∀ other ∈ before, other.name ≠ placeholder.name) :
    StandsFor placeholders placeholder.name.toList placeholder.expansion
  /-- A placeholder that is not listed stands for nothing. -/
  | unlisted {item : Text} (bracket : '<' ∈ item)
    (unknown : ∀ placeholder ∈ placeholders, placeholder.name.toList ≠ item) :
    StandsFor placeholders item []

/-- The words of the first entry of a name are what the name stands for. -/
theorem standsFor_of_expansion? {name : String} {words : List String}
    (bracket : '<' ∈ name.toList) (found : expansion? placeholders name = some words) :
    StandsFor placeholders name.toList words := by
  obtain ⟨placeholder, isFirst, rfl⟩ := Option.map_eq_some_iff.mp found
  obtain ⟨same, before, after, split, others⟩ := List.find?_eq_some_iff_append.mp isFirst
  obtain rfl : placeholder.name = name := eq_of_beq same
  exact .listed bracket split fun other isOther => by simpa using others other isOther

/-- An item is expanded to what it stands for. -/
theorem standsFor_expandItem (item : Text) :
    StandsFor placeholders item (expandItem placeholders (Item.ofText item)) := by
  by_cases bracket : '<' ∈ item
  · have isPlaceholder : Item.ofText item = .placeholder (String.ofList item) :=
      if_pos (List.contains_iff_mem.mpr bracket)
    rw [isPlaceholder, expandItem]
    cases found : expansion? placeholders (String.ofList item) with
    | some words =>
      have stands := standsFor_of_expansion? (by simpa using bracket) found
      simpa using stands
    | none =>
      refine .unlisted bracket fun placeholder isListed same => ?_
      have other := List.find?_eq_none.mp (Option.map_eq_none_iff.mp found) placeholder isListed
      simp [← same] at other
  · have isKeyword : Item.ofText item = .keyword (String.ofList item) :=
      if_neg (by simpa using bracket)
    rw [isKeyword, expandItem]
    by_cases nonempty : item = []
    · subst nonempty
      exact .empty
    · have some : String.ofList item ≠ "" := by simpa using nonempty
      rw [if_neg some]
      exact .word nonempty bracket

/-- The items of a written grammar are those of its pieces, but for the grammar without any. -/
theorem mem_parse_iff {written : Text} {item : Item} :
    item ∈ parse written ↔
      written ≠ [] ∧ ∃ piece ∈ Text.split ',' written, Item.ofText piece = item := by
  unfold parse
  cases written with
  | nil => simp
  | cons c rest => simp

/-- What a written grammar is expanded to is what its pieces are expanded to. -/
theorem flatMap_expandItem_parse (written : Text) :
    (parse written).flatMap (expandItem placeholders) =
      ((Text.split ',' written).map fun piece =>
        expandItem placeholders (Item.ofText piece)).flatten := by
  unfold parse
  cases written with
  | nil => rfl
  | cons c rest =>
    rw [List.isEmpty_cons, if_neg Bool.false_ne_true, List.flatMap_def, List.map_map]
    rfl

/-- A word belongs to the expansion of a grammar if an item of the grammar stands for it. -/
theorem mem_expand_iff {grammar : ValueGrammar} {word : String} :
    word ∈ (expand placeholders grammar).toList ↔
      ∃ item ∈ grammar, word ∈ expandItem placeholders item := by
  rw [expand, (WordSet.firstOccurrences_ofList _).mem_iff, List.mem_flatMap]

/-- A word is a keyword if it is one in a grammar or a word of a placeholder, but for colors. -/
theorem mem_keywords_iff {properties : List Property} {word : String} :
    word ∈ (keywords properties placeholders).toList ↔
      (∃ property ∈ properties, .keyword word ∈ property.grammar) ∨
        ∃ placeholder ∈ placeholders, placeholder.name ≠ colorPlaceholder ∧
          word ∈ placeholder.expansion := by
  have own : ∀ grammar : ValueGrammar, word ∈ ownKeywords grammar ↔ .keyword word ∈ grammar := by
    intro grammar
    rw [ownKeywords, List.mem_filterMap]
    constructor
    · rintro ⟨_ | _, isItem, same⟩
      · exact Option.some.inj same ▸ isItem
      · contradiction
    · intro isItem
      exact ⟨.keyword word, isItem, rfl⟩
  rw [keywords, (WordSet.firstOccurrences_ofList _).mem_iff]
  simp only [List.mem_append, List.mem_flatMap, own, List.mem_filter, bne_iff_ne, and_assoc]

/-- What an item of a listed grammar stands for is a keyword, or a color. -/
theorem mem_keywords_of_expandItem {properties : List Property} {property : Property}
    (isListed : property ∈ properties) {item : Item} (isItem : item ∈ property.grammar)
    {word : String} (stands : word ∈ expandItem placeholders item) :
    word ∈ (keywords properties placeholders).toList ∨
      ∃ words, expansion? placeholders colorPlaceholder = some words ∧ word ∈ words := by
  cases item with
  | keyword own =>
    rw [expandItem, List.mem_ite_nil_left, List.mem_singleton] at stands
    obtain ⟨-, rfl⟩ := stands
    exact .inl (mem_keywords_iff.mpr (.inl ⟨property, isListed, isItem⟩))
  | placeholder name =>
    rw [expandItem] at stands
    cases found : expansion? placeholders name with
    | none => simp [found] at stands
    | some words =>
      rw [found, Option.getD_some] at stands
      by_cases color : name = colorPlaceholder
      · exact .inr ⟨words, color ▸ found, stands⟩
      · obtain ⟨placeholder, isFirst, rfl⟩ := Option.map_eq_some_iff.mp found
        have named := List.find?_some isFirst
        obtain rfl : placeholder.name = name := eq_of_beq named
        have isListed := List.mem_of_find?_eq_some isFirst
        exact .inl (mem_keywords_iff.mpr (.inr ⟨placeholder, isListed, color, stands⟩))

/-- What the two readings of the grammars of a table have to do with each other. -/
structure Agree (properties : List (String × Text)) (placeholders : List Placeholder) : Prop where
  /-- What is offered for a property is a keyword, or a color. -/
  offered : ∀ name grammar, (name, grammar) ∈ properties →
    ∀ word ∈ (expand placeholders (parse grammar)).toList,
      word ∈ (keywords (properties.map .ofText) placeholders).toList ∨
        ∃ words, StandsFor placeholders colorPlaceholder.toList words ∧ word ∈ words
  /-- The words that the items of a grammar stand for are offered in their order, each once. -/
  ordered : ∀ grammar, ∃ words,
    List.Forall₂ (StandsFor placeholders) (Text.split ',' grammar) words ∧
      FirstOccurrences words.flatten (expand placeholders (parse grammar)).toList
  /-- A keyword is an item of a grammar, or it belongs to a placeholder that is not for colors. -/
  gathered : ∀ word ∈ (keywords (properties.map .ofText) placeholders).toList, word ≠ "" →
    (∃ name grammar, (name, grammar) ∈ properties ∧
      word.toList ∈ Text.split ',' grammar ∧ '<' ∉ word.toList) ∨
    ∃ placeholder ∈ placeholders, placeholder.name ≠ colorPlaceholder ∧
      word ∈ placeholder.expansion

/-- The two readings of the grammars of any table agree, and they are what they are said to be. -/
theorem agree (properties : List (String × Text)) (placeholders : List Placeholder) :
    Agree properties placeholders where
  offered name grammar isListed word isOffered := by
    obtain ⟨item, isItem, stands⟩ := mem_expand_iff.mp isOffered
    have listed : Property.ofText (name, grammar) ∈ properties.map .ofText :=
      List.mem_map_of_mem isListed
    refine (mem_keywords_of_expandItem listed isItem stands).imp_right ?_
    rintro ⟨words, found, isColor⟩
    exact ⟨words, standsFor_of_expansion? (by decide +kernel) found, isColor⟩
  ordered grammar := by
    refine ⟨(Text.split ',' grammar).map fun piece => expandItem placeholders (Item.ofText piece),
      ?_, ?_⟩
    · rw [List.forall₂_map_right_iff]
      exact List.forall₂_same.mpr fun piece _ => standsFor_expandItem piece
    · rw [← flatMap_expandItem_parse]
      exact WordSet.firstOccurrences_ofList _
  gathered word isKeyword nonempty := by
    refine (mem_keywords_iff.mp isKeyword).imp_left ?_
    rintro ⟨property, isProperty, isItem⟩
    obtain ⟨⟨name, grammar⟩, isListed, rfl⟩ := List.mem_map.mp isProperty
    obtain ⟨-, piece, isPiece, same⟩ := mem_parse_iff.mp isItem
    refine ⟨name, grammar, isListed, ?_⟩
    by_cases bracket : '<' ∈ piece
    · rw [Item.ofText, if_pos (List.contains_iff_mem.mpr bracket)] at same
      contradiction
    · rw [Item.ofText, if_neg (by simpa using bracket), Item.keyword.injEq] at same
      subst same
      simpa using ⟨isPiece, bracket⟩

/-- A word that two items stand for is offered where it comes first, a color is no keyword, and a
second entry of a placeholder adds keywords that are not offered. -/
theorem agree_sharedWord :
    let grammar := "x,,<b>,<color>,<c>,x".toList
    let placeholders : List Placeholder :=
      [⟨"<b>", ["y", "x"]⟩, ⟨"<color>", ["red"]⟩, ⟨"<b>", ["z"]⟩]
    let offered := ["x", "y", "red"]
    let kept := keywords [.ofText ("p", grammar)] placeholders
    (expand placeholders (parse grammar)).toList = offered ∧ kept.toList = ["x", "", "y", "z"] ∧
      (∃ words, List.Forall₂ (StandsFor placeholders) (Text.split ',' grammar) words ∧
        FirstOccurrences words.flatten offered) ∧
      ("red" ∈ kept.toList ∨
        ∃ words, StandsFor placeholders colorPlaceholder.toList words ∧ "red" ∈ words) := by
  intro grammar placeholders offered kept
  have isOffered : (expand placeholders (parse grammar)).toList = offered := by decide +kernel
  have agrees := agree [("p", grammar)] placeholders
  have red := agrees.offered "p" grammar List.mem_cons_self "red" (by rw [isOffered]; decide)
  exact ⟨isOffered, by decide +kernel, isOffered ▸ agrees.ordered grammar, red⟩

end ValueGrammar

end Stylesheet
