import Stylesheet.Proofs.HostLoop
import Stylesheet.Proofs.Interpolations
import Stylesheet.Proofs.MaximalLexemes
import Stylesheet.Proofs.Seating

/-!
# The words of values in any case

The tables of values and of colors are searched for a word in lower case. A listed word without
capital letters is found so in any case that it is written in, and a listed word that has some is
never found. Six values are listed with capitals (`Words.capitalised`), so these are painted like
names that nobody knows, and every other word is what the tables say ignoring case.
-/
namespace Stylesheet

/-! ## Lower case -/

/-- Whether a word has a capital letter of ASCII. -/
def hasCapital (word : String) : Bool := word.toList.any Char.isUpper

/-- The capitals stand together. -/
theorem isUpper_iff {c : Char} : c.isUpper = true ↔ 65 ≤ c.toNat ∧ c.toNat ≤ 90 :=
  decide_eq_true_iff

/-- A character that is no capital is its own lower case. -/
theorem toLower_eq_self {c : Char} (small : c.isUpper = false) : c.toLower = c := by
  have outside : ¬(c.val ≥ 'A'.val ∧ c.val ≤ 'Z'.val) := of_decide_eq_false small
  exact dif_neg outside

/-- What is in lower case is no capital. -/
theorem isUpper_toLower (c : Char) : c.toLower.isUpper = false := by
  cases upper : c.isUpper with
  | false => rw [toLower_eq_self upper, upper]
  | true =>
    have capital : c.val ≥ 'A'.val ∧ c.val ≤ 'Z'.val := of_decide_eq_true upper
    obtain ⟨least, most⟩ := isUpper_iff.mp upper
    have moved : c.toLower.toNat = c.toNat + 32 := by
      have lower : c.toLower = _ := dif_pos capital
      rw [lower]
      show (c.val + ('a'.val - 'A'.val)).toNat = c.toNat + 32
      rw [UInt32.toNat_add]
      show (c.toNat + 32) % 2 ^ 32 = c.toNat + 32
      omega
    rw [Bool.eq_false_iff, ne_eq, isUpper_iff, moved]
    omega

/-- A word without capitals is its own lower case. -/
theorem map_toLower_eq_self {word : String} (small : hasCapital word = false) :
    word.toList.map Char.toLower = word.toList := by
  have all : ∀ c ∈ word.toList, c.toLower = id c := fun c isHere =>
    toLower_eq_self (Bool.eq_false_iff.mpr (List.any_eq_false.mp small c isHere))
  rw [List.map_congr_left all, List.map_id]

/-- What is in lower case has no capitals. -/
theorem hasCapital_toLower (text : Text) :
    hasCapital (String.ofList (text.map Char.toLower)) = false := by
  rw [hasCapital, String.toList_ofList, List.any_map, List.any_eq_false]
  exact fun c _ => Bool.eq_false_iff.mp (isUpper_toLower c)

/-- Whether a word has the byte of a capital letter of ASCII. -/
def hasCapitalByte (word : String) : Bool :=
  word.toByteArray.data.toList.any fun byte => 65 ≤ byte && byte ≤ 90

/-- A word that has a capital has its byte. -/
theorem hasCapital_eq_false_of_bytes {word : String} (none : hasCapitalByte word = false) :
    hasCapital word = false := by
  rw [hasCapital, List.any_eq_false]
  intro c isHere upper
  obtain ⟨least, most⟩ := isUpper_iff.mp upper
  have single : String.utf8EncodeChar c = [UInt8.ofNat c.toNat] := by
    have ascii : c.val.toNat ≤ 127 := by
      show c.toNat ≤ 127
      omega
    rw [String.utf8EncodeChar, if_pos ascii]
    rfl
  rw [hasCapitalByte, ← String.utf8Encode_toList, List.utf8Encode, List.toList_data_toByteArray,
    List.any_eq_false] at none
  refine none (UInt8.ofNat c.toNat) (List.mem_flatMap.mpr ⟨c, isHere, by simp [single]⟩) ?_
  have byte : (UInt8.ofNat c.toNat).toNat = c.toNat :=
    UInt8.toNat_ofNat_of_lt' (Nat.lt_of_le_of_lt most (by decide))
  simp only [UInt8.le_iff_toNat_le, byte, Bool.and_eq_true, decide_eq_true_eq]
  exact ⟨least, most⟩

/-! ## Sets of words -/

namespace WordSet

variable {set : WordSet} {text : Text}

/-- Whether one of the words is a text up to the case of its letters. -/
def containsIgnoringCase (set : WordSet) (text : Text) : Bool :=
  set.toList.any fun word => Text.equalIgnoringCase word.toList text

/-- A text is one of the words ignoring case if it is one in lower case, or if it is ignoring case
one of the words that have capitals. -/
theorem containsIgnoringCase_iff :
    set.containsIgnoringCase text = true ↔
      set.contains (String.ofList (text.map Char.toLower)) = true ∨
        ∃ word ∈ set.toList, hasCapital word = true ∧
          Text.equalIgnoringCase word.toList text = true := by
  rw [containsIgnoringCase, List.any_eq_true, contains_iff]
  constructor
  · rintro ⟨word, listed, same⟩
    cases capital : hasCapital word with
    | true => exact .inr ⟨word, listed, capital, same⟩
    | false =>
      have lower := eq_of_beq same
      rw [map_toLower_eq_self capital] at lower
      rw [← lower, String.ofList_toList]
      exact .inl listed
  · rintro (listed | ⟨word, listed, -, same⟩)
    · refine ⟨_, listed, beq_iff_eq.mpr ?_⟩
      rw [map_toLower_eq_self (hasCapital_toLower text), String.toList_ofList]
    · exact ⟨word, listed, same⟩

/-- Where no word has capitals, lower case is enough. -/
theorem containsIgnoringCase_eq (small : ∀ word ∈ set.toList, hasCapital word = false) :
    set.containsIgnoringCase text = set.contains (String.ofList (text.map Char.toLower)) := by
  rw [Bool.eq_iff_iff, containsIgnoringCase_iff, or_iff_left]
  rintro ⟨word, listed, capital, -⟩
  rw [small word listed] at capital
  contradiction

end WordSet

/-! ## The tables -/

namespace Words

/-- The values that are listed with capitals. -/
def capitalised : List String :=
  ["visiblePainted", "visibleFill", "visibleStroke", "optimizeSpeed", "optimizeLegibility",
    "geometricPrecision"]

/-- Whether a text is one of them up to the case of its letters. -/
def isCapitalised (text : Text) : Bool :=
  capitalised.any fun word => Text.equalIgnoringCase word.toList text

/-- The values of all properties. -/
def values : List String :=
  properties.flatMap (ValueGrammar.ownKeywords ·.grammar) ++
    (placeholders.filter (·.name != ValueGrammar.colorPlaceholder)).flatMap Placeholder.expansion

/-- No other value has capitals. The bytes of a word are at hand, where its characters would have to
be decoded. -/
theorem filter_hasCapitalByte_values : values.filter hasCapitalByte = capitalised := by
  decide +kernel

/-- They are listed as values. -/
theorem mem_values_of_mem_capitalised {word : String} (listed : word ∈ capitalised) :
    word ∈ values := by
  rw [← filter_hasCapitalByte_values] at listed
  exact List.mem_of_mem_filter listed

/-- A value that has capitals is one of them. -/
theorem mem_capitalised_of_hasCapital {word : String} (listed : word ∈ values)
    (capital : hasCapital word = true) : word ∈ capitalised := by
  rw [← filter_hasCapitalByte_values]
  refine List.mem_filter.mpr ⟨listed, ?_⟩
  rw [← Bool.not_eq_false]
  intro none
  rw [hasCapital_eq_false_of_bytes none] at capital
  contradiction

/-- No color has capitals. -/
theorem hasCapital_of_mem_colors {word : String} (listed : word ∈ colors) :
    hasCapital word = false := by
  have none : ∀ word ∈ colors, hasCapitalByte word = false := by decide +kernel
  exact hasCapital_eq_false_of_bytes (none word listed)

/-- In lower case they are neither values nor colors. -/
theorem lower_capitalised : ∀ word ∈ capitalised,
    String.ofList (word.toList.map Char.toLower) ∉ values ∧
      String.ofList (word.toList.map Char.toLower) ∉ colors := by
  decide +kernel

end Words

namespace Dialect

variable {dialect : Dialect} {text : Text} {word : String}

/-- Every dialect has the values of all properties. -/
theorem mem_values (dialect : Dialect) :
    word ∈ dialect.vocabulary.values.toList ↔ word ∈ Words.values := by
  have full : dialect.vocabulary.values = Vocabulary.full.values := by
    cases dialect <;> simp only [vocabulary]
  have all : Vocabulary.full.values = .ofList Words.values := by
    simp only [Vocabulary.full, ValueGrammar.keywords, Words.values]
  rw [full, all, WordSet.ofList, WordSet.mem_toList_extend]
  simp [WordSet.empty, WordSet.toList]

/-- Every dialect has all colors. -/
theorem mem_colors (dialect : Dialect) :
    word ∈ dialect.vocabulary.colors.toList ↔ word ∈ Words.colors := by
  have full : dialect.vocabulary.colors = Vocabulary.full.colors := by
    cases dialect <;> simp only [vocabulary]
  have all : Vocabulary.full.colors = .ofList Words.colors := by
    simp only [Vocabulary.full]
  rw [full, all, WordSet.ofList, WordSet.mem_toList_extend]
  simp [WordSet.empty, WordSet.toList]

/-- What a word is in a value, if the tables are searched whatever the case of its letters. -/
def valueCategoryIgnoringCase (dialect : Dialect) (text : Text) : Category :=
  if dialect.vocabulary.values.containsIgnoringCase text then .atom
  else if dialect.vocabulary.colors.containsIgnoringCase text then .keyword
  else .variable1

/-- A value that is listed with capitals is found in no case of its letters. -/
theorem valueCategory_of_isCapitalised (capital : Words.isCapitalised text = true) :
    dialect.valueCategory (String.ofList (text.map Char.toLower)) = .variable1 := by
  obtain ⟨word, listed, same⟩ := List.any_eq_true.mp capital
  obtain ⟨noValue, noColor⟩ := Words.lower_capitalised word listed
  rw [eq_of_beq same, ← mem_values dialect, ← WordSet.contains_iff] at noValue
  rw [eq_of_beq same, ← mem_colors dialect, ← WordSet.contains_iff] at noColor
  rw [valueCategory, if_neg noValue, if_neg noColor]

/-- Every other word is found in any case of its letters. -/
theorem valueCategory_of_not_isCapitalised (other : Words.isCapitalised text = false) :
    dialect.valueCategory (String.ofList (text.map Char.toLower)) =
      dialect.valueCategoryIgnoringCase text := by
  have values : dialect.vocabulary.values.containsIgnoringCase text =
      dialect.vocabulary.values.contains (String.ofList (text.map Char.toLower)) := by
    rw [Bool.eq_iff_iff, WordSet.containsIgnoringCase_iff, or_iff_left]
    rintro ⟨word, listed, capital, same⟩
    have isListed := Words.mem_capitalised_of_hasCapital ((mem_values _).mp listed) capital
    exact List.any_eq_false.mp other word isListed same
  have colors : dialect.vocabulary.colors.containsIgnoringCase text =
      dialect.vocabulary.colors.contains (String.ofList (text.map Char.toLower)) :=
    WordSet.containsIgnoringCase_eq fun word listed =>
      Words.hasCapital_of_mem_colors ((mem_colors _).mp listed)
  rw [valueCategory, valueCategoryIgnoringCase, values, colors]

/-- A value that is listed with capitals is a value ignoring case. -/
theorem valueCategoryIgnoringCase_of_isCapitalised (capital : Words.isCapitalised text = true) :
    dialect.valueCategoryIgnoringCase text = .atom := by
  obtain ⟨word, listed, same⟩ := List.any_eq_true.mp capital
  have isValue := (mem_values dialect).mpr (Words.mem_values_of_mem_capitalised listed)
  have found : dialect.vocabulary.values.containsIgnoringCase text = true :=
    List.any_eq_true.mpr ⟨word, isValue, same⟩
  rw [valueCategoryIgnoringCase, if_pos found]

/-- Whatever value is one of them ignoring case is listed with capitals. -/
theorem hasCapital_of_isCapitalised (capital : Words.isCapitalised text = true)
    (listed : word ∈ dialect.vocabulary.values.toList)
    (same : Text.equalIgnoringCase word.toList text = true) : hasCapital word = true := by
  obtain ⟨other, isListed, alike⟩ := List.any_eq_true.mp capital
  have lower := (Words.lower_capitalised other isListed).1
  rw [eq_of_beq alike, ← eq_of_beq same] at lower
  rw [← Bool.not_eq_false]
  refine fun small => lower ?_
  rw [map_toLower_eq_self small, String.ofList_toList]
  exact (mem_values _).mp listed

end Dialect

/-! ## Words that are read -/

/-- The lower case of ASCII is that of the vocabulary. -/
theorem Text.foldCase_eq_map_toLower {text : Text} (ascii : ∀ c ∈ text, c.isAscii = true) :
    foldCase text = text.map Char.toLower := by
  refine List.map_congr_left fun c isHere => if_neg ?_
  rintro rfl
  exact absurd (ascii _ isHere) (by decide)

/-- The scopes in which words are values. -/
def Scope.ofValues : List Scope := [.value, .parens]

/-- There a word is painted as what it is in a value. -/
theorem Context.Seated.style_step_word {dialect : Dialect} {context : Context}
    (seated : context.Seated dialect) (layout : Layout) {lexeme : Lexeme}
    (valued : context.nesting.innermost.scope ∈ Scope.ofValues)
    (isWord : lexeme.token.kind = .word) :
    (context.step dialect layout lexeme).1 = dialect.valueCategory lexeme.word := by
  have nothing : context.awaiting = none := by
    refine Option.eq_none_iff_forall_ne_some.mpr fun token awaits => ?_
    have seat := seated.awaiting token awaits
    simp only [Scope.ofValues, List.mem_cons, List.not_mem_nil, or_false] at valued
    rcases valued with scope | scope <;> rw [scope] at seat <;> cases token <;>
      exact absurd seat (by decide)
  have reacts : Grammar.react dialect context.rule lexeme context.nesting.innermost.scope =
      .settle ⟨.stay, dialect.valueCategory lexeme.word⟩ := by
    simp only [Scope.ofValues, List.mem_cons, List.not_mem_nil, or_false] at valued
    rcases valued with scope | scope <;> rw [scope]
    · simp only [Grammar.react, Grammar.inValue, isWord]
    · simp only [Grammar.react, Grammar.inParens, isWord]
  rw [Context.step_of_settle layout (Context.awaitedAnswer?_of_awaiting_none nothing) reacts]

namespace Mode

variable {mode : Mode} {state : ParseState}

/-- A word that is read has characters of ASCII. -/
theorem isAscii_of_read_word {indentation : UInt64} {rest : Text}
    (isWord : (mode.read indentation [] rest state).token.kind = .word) :
    ∀ c ∈ rest.take (mode.read indentation [] rest state).length, c.isAscii = true := by
  cases rest with
  | nil => simp
  | cons c rest =>
    have paren : state.continuation = some .argument → c = '(' := by
      intro named
      have black : state.continuation = none → Text.leading Text.isBlank (c :: rest) = 0 := by
        simp [named]
      rw [mode.read_of_lexeme black] at isWord
      simp [readLexeme, named, scan, Scan.argument, Token.bare] at isWord
    have lexed := mode.lexed_read indentation rest paren rfl
    rw [isWord] at lexed
    exact Lexed.isAscii lexed (by decide)

/-- A word that is read in a value is painted as the lower case of its text. -/
theorem Reachable.style_word {indent : UInt64} (reachable : mode.Reachable indent state)
    (valued : state.context.nesting.innermost.scope ∈ Scope.ofValues) {cursor behind : Cursor}
    {token : Token} {after : ParseState}
    (reads : mode.nextToken cursor.markLexeme state = (token, behind, after))
    (isWord : token.kind = .word) :
    token.style =
      mode.dialect.valueCategory (String.ofList (behind.lexeme.map Char.toLower)) := by
  rw [nextToken_markLexeme] at reads
  simp only [Prod.mk.injEq] at reads
  obtain ⟨rfl, rfl, -⟩ := reads
  rw [Cursor.lexeme_advance_markLexeme]
  have ascii := isAscii_of_read_word isWord
  rcases mode.read_cases cursor.indentation [] cursor.rest state with ⟨-, -, passes⟩ | offers
  · rw [passes] at isWord
    contradiction
  · rw [offers] at isWord ascii ⊢
    rw [← Text.foldCase_eq_map_toLower ascii]
    exact reachable.seated.style_step_word (mode.layout cursor) valued isWord

/-- A word that is read in a value is what the tables say ignoring case, exactly if no value that is
listed with capitals is the word ignoring case. So a listed value is painted as one in any case
that it is written in, exactly if it is listed without capitals. -/
theorem Reachable.valueWord_style_iff {indent : UInt64} (reachable : mode.Reachable indent state)
    (valued : state.context.nesting.innermost.scope ∈ Scope.ofValues) {cursor behind : Cursor}
    {token : Token} {after : ParseState}
    (reads : mode.nextToken cursor.markLexeme state = (token, behind, after))
    (isWord : token.kind = .word) :
    (token.style = mode.dialect.valueCategoryIgnoringCase behind.lexeme ↔
        Words.isCapitalised behind.lexeme = false) ∧
      (Words.isCapitalised behind.lexeme = true → token.style = Category.variable1) ∧
      ∀ word ∈ mode.dialect.vocabulary.values.toList,
        Text.equalIgnoringCase word.toList behind.lexeme = true →
          (token.style = Category.atom ↔ hasCapital word = false) := by
  have style := reachable.style_word valued reads isWord
  cases capital : Words.isCapitalised behind.lexeme with
  | true =>
    rw [Dialect.valueCategory_of_isCapitalised capital] at style
    rw [style, Dialect.valueCategoryIgnoringCase_of_isCapitalised capital]
    refine ⟨by decide, fun _ => rfl, fun word listed same => ?_⟩
    have isCapital := Dialect.hasCapital_of_isCapitalised capital listed same
    rw [isCapital]
    decide
  | false =>
    rw [Dialect.valueCategory_of_not_isCapitalised capital] at style
    refine ⟨by simp [style], by simp, fun word listed same => ?_⟩
    have small : hasCapital word = false := by
      refine Bool.eq_false_iff.mpr fun isCapital => ?_
      have isListed := Words.mem_capitalised_of_hasCapital
        ((Dialect.mem_values _).mp listed) isCapital
      exact List.any_eq_false.mp capital word isListed same
    have found : mode.dialect.vocabulary.values.containsIgnoringCase behind.lexeme = true :=
      List.any_eq_true.mpr ⟨word, listed, same⟩
    rw [style, Dialect.valueCategoryIgnoringCase, if_pos found]
    exact ⟨fun _ => small, fun _ => rfl⟩

/-- In the value of a variable a word in capitals is what the same word is in lower case. -/
theorem valueWord_style_openValue :
    let scss := ofDialect .scss
    let read := scss.nextToken (Cursor.ofLine 4 "BLOCK;".toList).markLexeme openValue
    scss.Reachable 0 openValue ∧
      openValue.context.nesting.innermost.scope ∈ Scope.ofValues ∧ read.1.kind = .word ∧
      read.2.1.lexeme = "BLOCK".toList ∧
      (read.1.style = scss.dialect.valueCategoryIgnoringCase read.2.1.lexeme ↔
        Words.isCapitalised read.2.1.lexeme = false) ∧
      (Words.isCapitalised read.2.1.lexeme = true → read.1.style = Category.variable1) ∧
      ∀ word ∈ scss.dialect.vocabulary.values.toList,
        Text.equalIgnoringCase word.toList read.2.1.lexeme = true →
          (read.1.style = Category.atom ↔ hasCapital word = false) := by
  intro scss read
  have valued : openValue.context.nesting.innermost.scope ∈ Scope.ofValues := by decide
  have isWord : read.1.kind = .word := by decide +kernel
  exact ⟨reachable_openValue, valued, isWord, by decide +kernel,
    reachable_openValue.valueWord_style_iff valued rfl isWord⟩

/-- There a value that is listed with capitals is not painted as one, as it is listed. -/
theorem valueWord_style_optimizeSpeed :
    let scss := ofDialect .scss
    let read := scss.nextToken (Cursor.ofLine 4 "optimizeSpeed".toList).markLexeme openValue
    scss.Reachable 0 openValue ∧
      openValue.context.nesting.innermost.scope ∈ Scope.ofValues ∧ read.1.kind = .word ∧
      read.2.1.lexeme = "optimizeSpeed".toList ∧
      "optimizeSpeed" ∈ scss.dialect.vocabulary.values.toList ∧
      read.1.style = Category.variable1 := by
  intro scss read
  have valued : openValue.context.nesting.innermost.scope ∈ Scope.ofValues := by decide
  have isWord : read.1.kind = .word := by decide +kernel
  have text : read.2.1.lexeme = "optimizeSpeed".toList := by decide +kernel
  have capital : Words.isCapitalised read.2.1.lexeme = true := by
    rw [text]
    decide +kernel
  have listed : "optimizeSpeed" ∈ Words.values :=
    Words.mem_values_of_mem_capitalised (by decide)
  have style : read.1.style =
      scss.dialect.valueCategory (String.ofList (read.2.1.lexeme.map Char.toLower)) :=
    reachable_openValue.style_word valued rfl isWord
  rw [Dialect.valueCategory_of_isCapitalised capital] at style
  exact ⟨reachable_openValue, valued, isWord, text, (Dialect.mem_values _).mpr listed, style⟩

end Mode

end Stylesheet
