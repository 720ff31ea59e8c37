import Stylesheet.Completion
import Stylesheet.Proofs.TokenAt

/-!
# Completions go on with what was typed

A completion replaces the stretch of a line between the start of the word that is being typed and
the cursor, and every word on offer starts with that stretch. The words come from one table, which
the state behind the token under the cursor selects (`Completion.Selects`), in the order of the
table. Only behind an exclamation mark the whole token is replaced. `Mode.completions?_eq_some_iff`
says of every offset that falls between two characters of its line what is on offer there.
-/
namespace Stylesheet

open Text (utf8Length takeBytes? lines)

/-! ## Slices up to an offset -/

namespace Text

/-- Of two first parts of a text the one with fewer bytes is a first part of the other. -/
theorem prefix_of_utf8Length_le {left right text : Text} (isLeft : left <+: text)
    (isRight : right <+: text) (short : utf8Length left ≤ utf8Length right) : left <+: right := by
  rcases List.prefix_or_prefix_of_prefix isLeft isRight with shorter | ⟨more, rfl⟩
  · exact shorter
  · rw [utf8Length_append] at short
    have nothing : more = [] := utf8Length_eq_zero_iff.mp (by omega)
    exact ⟨[], by rw [nothing, List.append_nil, List.append_nil]⟩

/-- Up to an offset within a part of a text, between two characters, there is a first part of it. -/
theorem exists_slice?_within {before middle after : Text} {offset : Nat}
    (between : (takeBytes? offset (before ++ (middle ++ after))).isSome)
    (behind : utf8Length before ≤ offset)
    (within : offset ≤ utf8Length before + utf8Length middle) :
    ∃ typed, takeBytes? (offset - utf8Length before) middle = some typed ∧
      slice? (utf8Length before) offset (before ++ (middle ++ after)) = some typed := by
  obtain ⟨front, cut⟩ := Option.isSome_iff_exists.mp between
  obtain ⟨bytes, isFront⟩ := takeBytes?_eq_some_iff.mp cut
  obtain ⟨typed, rfl⟩ := prefix_of_utf8Length_le (List.prefix_append before _) isFront (by omega)
  have isTyped : typed <+: middle ++ after := (List.prefix_append_right_inj before).mp isFront
  rw [utf8Length_append] at bytes
  have inside : typed <+: middle :=
    prefix_of_utf8Length_le isTyped (List.prefix_append middle after) (by omega)
  obtain rfl : offset = utf8Length before + utf8Length typed := bytes.symm
  refine ⟨typed, takeBytes?_eq_some_iff.mpr ⟨by omega, inside⟩, ?_⟩
  obtain ⟨more, rfl⟩ := inside
  rw [List.append_assoc]
  exact slice?_append before typed (more ++ after)

/-- Between an offset and itself there is nothing. -/
theorem slice?_self {offset : Nat} {text : Text} (between : (takeBytes? offset text).isSome) :
    slice? offset offset text = some [] := by
  obtain ⟨front, cut⟩ := Option.isSome_iff_exists.mp between
  rw [slice?, cut, Option.bind_some, Nat.sub_self, takeBytes?]

end Text

/-- Up to an offset within a token of a line, between two characters, there is a first part of the
text of the token. -/
theorem Tiling.exists_slice? {start : Nat} {text : Text} {tokens : List DocumentToken}
    (tiling : Tiling start text tokens) {front : Text} (sized : utf8Length front = start)
    {offset : Nat} (between : (takeBytes? offset (front ++ text)).isSome) :
    ∀ token ∈ tokens, token.start ≤ offset → offset ≤ token.stop →
      ∃ typed, takeBytes? (offset - token.start) token.text = some typed ∧
        Text.slice? token.start offset (front ++ text) = some typed := by
  induction tiling generalizing front with
  | nil => simp
  | @cons start token rest tokens nonempty starts stops tiling ih =>
    refine List.forall_mem_cons.mpr ⟨fun behind within => ?_, ?_⟩
    · rw [starts, ← sized] at behind ⊢
      exact Text.exists_slice?_within between behind (by omega)
    · have stopped : utf8Length (front ++ token.text) = token.stop := by
        rw [Text.utf8Length_append, sized, stops]
      rw [← List.append_assoc] at between ⊢
      exact ih stopped between

/-- At an offset between two characters of a line the token up to the offset is the stretch of the
line between the start of the token and the offset. -/
theorem Mode.exists_tokenAt? (mode : Mode) {document line : Text} {number offset : Nat}
    (isLine : (lines document)[number]? = some line)
    (between : (takeBytes? offset line).isSome) :
    ∃ token typed, mode.tokenAt? document number offset = some token ∧ token.start ≤ offset ∧
      Text.before (offset - token.start) token.text = typed ∧
      Text.slice? token.start offset line = some typed := by
  let entry := mode.linesEnd ((lines document).take number) (mode.startState 0)
  rw [mode.tokenAt?_eq_some isLine offset]
  by_cases inFront : offset = 0
  · subst inFront
    rw [takeWhile_lineTokens_of_inFront (.inl rfl)]
    exact ⟨_, [], rfl, Nat.le_refl 0, rfl, Text.slice?_self between⟩
  · obtain ⟨front, cut⟩ := Option.isSome_iff_exists.mp between
    obtain ⟨bytes, more, rfl⟩ := Text.takeBytes?_eq_some_iff.mp cut
    have within : offset ≤ utf8Length (front ++ more) := by
      rw [Text.utf8Length_append]
      omega
    obtain ⟨placed, isToken, last, covers⟩ :
        ∃ placed ∈ mode.lineTokens (front ++ more) entry, _ :=
      lineTokens_covering (Nat.pos_of_ne_zero inFront) within
    obtain ⟨starts, stops⟩ := (covers placed isToken).mpr rfl
    have tiling := mode.lineTokens_tiling 0 (front ++ more) entry
    obtain ⟨typed, taken, slice⟩ := tiling.exists_slice? Text.utf8Length_nil between
      (placed.onLine 0) (List.mem_map_of_mem isToken) starts.le stops
    refine ⟨placed, typed, by rw [last, Option.getD_some], starts.le, ?_, slice⟩
    have before : takeBytes? (offset - placed.start) placed.text = some typed := taken
    rw [Text.before, before, Option.getD_some]

/-! ## What is on offer -/

/-- The words of a set that is extended by two other words. -/
theorem WordSet.toList_extend_pair (set : WordSet) {first second : String}
    (distinct : first ≠ second) :
    (set.extend [first, second]).toList =
      set.toList ++ [first, second].filter (· ∉ set.toList) := by
  have steps : set.extend [first, second] = (set.insert first).insert second := rfl
  rw [steps, toList_insert, toList_insert]
  by_cases isFirst : first ∈ set.toList <;> by_cases isSecond : second ∈ set.toList <;>
    simp [isFirst, isSecond, distinct.symm]

namespace CompletionRequest

/-- The state behind the token under the cursor. -/
def state (request : CompletionRequest) : State := request.token.state.context.state

/-- Whether the name of a pseudo-class is being typed. -/
def typesPseudoClass (request : CompletionRequest) : Prop :=
  request.state = .awaiting .pseudoClass ∨ request.token.token.style = .plain .variable3

/-- The grammar of the property in whose value the cursor stands, if there is one. -/
def grammar? (request : CompletionRequest) : Option ValueGrammar :=
  ValueGrammar.find? Words.properties
    (String.ofList (Completion.propertyName request.line request.offset))

end CompletionRequest

namespace Completion

variable {request : CompletionRequest} {table : List String}

/-- The table for a request. -/
inductive Selects (request : CompletionRequest) : List String → Prop
  /-- Behind a colon in a selector, pseudo-classes. -/
  | pseudoClasses (pseudo : request.typesPseudoClass) : Selects request pseudoClasses
  /-- Where declarations stand, properties. -/
  | properties (other : ¬request.typesPseudoClass)
    (declares : request.state = .within (.body .block) ∨ request.state = .awaiting .colon) :
    Selects request Vocabulary.full.properties.toList
  /-- In parentheses, in the header of an at-rule and in the value of what is no property, the
  values of all properties and then colors. -/
  | values (other : ¬request.typesPseudoClass)
    (anyValue : request.state = .within .parens ∨ request.state = .within .atRule ∨
      request.state = .within .value ∧ request.grammar? = none) :
    Selects request (Vocabulary.full.values.toList ++ Vocabulary.full.colors.toList)
  /-- In the value of a property, the values that its grammar names, and then those of the two words
  that every property has which it does not name itself. -/
  | grammar {grammar : ValueGrammar} {named : List String} (other : ¬request.typesPseudoClass)
    (inside : request.state = .within .value) (isProperty : request.grammar? = some grammar)
    (expands : (ValueGrammar.expand Words.placeholders grammar).toList = named) :
    Selects request (named ++ ["inherit", "initial"].filter (· ∉ named))
  /-- In a condition, media types and then media features. -/
  | media (other : ¬request.typesPseudoClass)
    (conditional : request.state = .within .condition ∨ request.state = .within .conditionParens) :
    Selects request (Vocabulary.full.mediaTypes.toList ++ Vocabulary.full.mediaFeatures.toList)

/-- Where the name of a pseudo-class is being typed, pseudo-classes are on offer. -/
theorem source?_of_pseudo (pseudo : request.typesPseudoClass) :
    source? request = some .pseudoClasses := by
  have first : request.token.state.context.state = .awaiting .pseudoClass ∨
      request.token.token.style.is .variable3 = true :=
    pseudo.imp_right fun style => by rw [style]; rfl
  rw [source?, if_pos first]

/-- Elsewhere the state decides. -/
theorem source?_of_other (other : ¬request.typesPseudoClass) :
    source? request =
      match request.state with
      | .within (.body .block) => some .properties
      | .awaiting .colon => some .properties
      | .within .parens => some .values
      | .within .atRule => some .values
      | .within .value =>
        match request.grammar? with
        | some grammar => some (.grammar grammar)
        | none => some .values
      | .within .condition => some .media
      | .within .conditionParens => some .media
      | _ => none := by
  have rest : ¬(request.token.state.context.state = .awaiting .pseudoClass ∨
      request.token.token.style.is .variable3 = true) := by
    rintro (awaits | style)
    · exact other (.inl awaits)
    · exact other (.inr (eq_of_beq style))
  rw [source?, if_neg rest]
  rfl

/-- The table is that of the source of completions. -/
theorem Selects.map_source? (selects : Selects request table) :
    (source? request).map candidates = some table := by
  cases selects with
  | pseudoClasses pseudo =>
    rw [source?_of_pseudo pseudo]
    rfl
  | properties other declares =>
    rw [source?_of_other other]
    rcases declares with state | state <;> rw [state] <;> rfl
  | values other anyValue =>
    rw [source?_of_other other]
    rcases anyValue with state | state | ⟨state, unknown⟩
    · rw [state]
      rfl
    · rw [state]
      rfl
    · rw [state, unknown]
      rfl
  | @grammar grammar named other inside isProperty expands =>
    have words : candidates (.grammar grammar) =
        named ++ ["inherit", "initial"].filter (· ∉ named) := by
      rw [candidates, WordSet.toList_extend_pair _ (by decide), expands]
    rw [source?_of_other other, inside, isProperty]
    exact congrArg some words
  | media other conditional =>
    rw [source?_of_other other]
    rcases conditional with state | state <;> rw [state] <;> rfl

/-- The table of a source of completions is the one for the request. -/
theorem selects_of_source? {source : CompletionSource} (found : source? request = some source) :
    Selects request (candidates source) := by
  by_cases pseudo : request.typesPseudoClass
  · rw [source?_of_pseudo pseudo] at found
    obtain rfl := Option.some.inj found
    exact .pseudoClasses pseudo
  · rw [source?_of_other pseudo] at found
    split at found
    case h_1 state =>
      obtain rfl := Option.some.inj found
      exact .properties pseudo (.inl state)
    case h_2 state =>
      obtain rfl := Option.some.inj found
      exact .properties pseudo (.inr state)
    case h_3 state =>
      obtain rfl := Option.some.inj found
      exact .values pseudo (.inl state)
    case h_4 state =>
      obtain rfl := Option.some.inj found
      exact .values pseudo (.inr (.inl state))
    case h_5 state =>
      split at found
      · next grammar isProperty =>
        obtain rfl := Option.some.inj found
        rw [candidates, WordSet.toList_extend_pair _ (by decide)]
        exact .grammar pseudo state isProperty rfl
      · next unknown =>
        obtain rfl := Option.some.inj found
        exact .values pseudo (.inr (.inr ⟨state, unknown⟩))
    case h_6 state =>
      obtain rfl := Option.some.inj found
      exact .media pseudo (.inl state)
    case h_7 state =>
      obtain rfl := Option.some.inj found
      exact .media pseudo (.inr state)
    case h_8 => contradiction

/-- Whether a token is a front of the word behind an exclamation mark. -/
def FrontOfImportant (token : PlacedToken) : Prop :=
  token.token.style = .plain .keyword ∧ token.text <+: "!important".toList

/-- The word that such a token is completed to replaces all of the token. -/
structure CompletesImportant (token : PlacedToken) (completions : Completions) : Prop where
  front : FrontOfImportant token
  whole : completions = ⟨["!important"], token.start, token.stop⟩

/-- Any other completion replaces what was typed of a word up to the cursor, or nothing. -/
structure CompletesWord (line : Text) (offset : Nat) (token : PlacedToken)
    (completions : Completions) : Prop where
  other : ¬FrontOfImportant token
  /-- The stretch ends at the cursor. -/
  stop : completions.stop = offset
  start_le : completions.start ≤ offset
  /-- It starts with the token if the token up to the cursor is made of what words are made of. -/
  start : ∃ upTo, Text.slice? token.start offset line = some upTo ∧
    completions.start = if upTo.all isWordChar then token.start else offset
  /-- The words are those of the table that go on with the stretch, in the order of the table. -/
  words : ∃ typed table, Text.slice? completions.start offset line = some typed ∧
    (∀ c ∈ typed, isWordChar c = true) ∧ (∀ word ∈ completions.words, typed <+: word.toList) ∧
    Selects ⟨line, offset, token⟩ table ∧
    completions.words = table.filter fun word => typed.isPrefixOf word.toList

/-- A token that is a front of that word is completed to it. -/
theorem answer?_of_front (front : FrontOfImportant request.token) :
    answer? request = some ⟨["!important"], request.token.start, request.token.stop⟩ := by
  have isFront : (request.token.token.style.is .keyword &&
      request.token.text.isPrefixOf important.toList) = true := by
    rw [Bool.and_eq_true, List.isPrefixOf_iff_prefix]
    exact ⟨beq_iff_eq.mpr front.1, front.2⟩
  rw [answer?, if_pos isFront]
  rfl

/-- Elsewhere what was typed is completed from the table of the request, if a word goes on with
it. -/
theorem answer?_of_other (other : ¬FrontOfImportant request.token) {typed : Text}
    (before : Text.before (request.offset - request.token.start) request.token.text = typed)
    {word : Text} {start : Nat}
    (replaced : (if typed.all isWordChar then (typed, request.token.start)
      else ([], request.offset)) = (word, start)) {completions : Completions} :
    answer? request = some completions ↔
      ∃ table, Selects request table ∧ startingWith word table ≠ [] ∧
        completions = ⟨startingWith word table, start, request.offset⟩ := by
  have notFront : ¬(request.token.token.style.is .keyword &&
      request.token.text.isPrefixOf important.toList) = true := by
    rw [Bool.and_eq_true, List.isPrefixOf_iff_prefix]
    exact fun front => other ⟨eq_of_beq front.1, front.2⟩
  rw [answer?, if_neg notFront]
  simp only [before, replaced]
  constructor
  · intro answers
    obtain ⟨source, found, offered⟩ := Option.bind_eq_some_iff.mp answers
    obtain ⟨some, same⟩ := Option.ite_none_left_eq_some.mp offered
    exact ⟨_, selects_of_source? found, by simpa using some, (Option.some.inj same).symm⟩
  · rintro ⟨table, selects, some, rfl⟩
    obtain ⟨source, found, rfl⟩ := Option.map_eq_some_iff.mp selects.map_source?
    rw [found, Option.bind_some, if_neg (by simpa using some)]

/-- What is to be completed is the token up to the cursor if it is made of what words are made of,
and nothing otherwise. -/
theorem exists_replaced {line upTo : Text} {first offset : Nat}
    (between : (takeBytes? offset line).isSome) (behind : first ≤ offset)
    (slice : Text.slice? first offset line = some upTo) :
    ∃ typed start, (if upTo.all isWordChar then (upTo, first) else ([], offset)) = (typed, start) ∧
      start = (if upTo.all isWordChar then first else offset) ∧
      Text.slice? start offset line = some typed ∧ start ≤ offset ∧
      ∀ c ∈ typed, isWordChar c = true := by
  by_cases wordLike : upTo.all isWordChar = true
  · exact ⟨upTo, first, if_pos wordLike, (if_pos wordLike).symm, slice, behind,
      List.all_eq_true.mp wordLike⟩
  · exact ⟨[], offset, if_neg wordLike, (if_neg wordLike).symm, Text.slice?_self between,
      Nat.le_refl _, by simp⟩

/-- Such a stretch of the line is completed by the words of the table that go on with it. -/
theorem completesWord_iff {line upTo typed : Text} {offset start : Nat} {token : PlacedToken}
    (other : ¬FrontOfImportant token)
    (slice : Text.slice? token.start offset line = some upTo)
    (chosen : start = if upTo.all isWordChar then token.start else offset)
    (stretch : Text.slice? start offset line = some typed) (within : start ≤ offset)
    (all : ∀ c ∈ typed, isWordChar c = true) (completions : Completions) :
    CompletesWord line offset token completions ↔
      ∃ table, Selects ⟨line, offset, token⟩ table ∧
        completions = ⟨startingWith typed table, start, offset⟩ := by
  constructor
  · rintro ⟨-, stops, -, ⟨read, isRead, starts⟩, word, table, isWord, -, -, selects, filtered⟩
    obtain rfl : read = upTo := Option.some.inj (isRead.symm.trans slice)
    have same : completions.start = start := starts.trans chosen.symm
    rw [same] at isWord
    obtain rfl : word = typed := Option.some.inj (isWord.symm.trans stretch)
    obtain ⟨offered, first, last⟩ := completions
    obtain rfl : first = start := same
    obtain rfl : last = offset := stops
    exact ⟨table, selects, congrArg (Completions.mk · first last) filtered⟩
  · rintro ⟨table, selects, rfl⟩
    refine ⟨other, rfl, within, ⟨upTo, slice, chosen⟩, typed, table, stretch, all,
      fun candidate isWord => ?_, selects, rfl⟩
    exact List.isPrefixOf_iff_prefix.mp (List.mem_filter.mp isWord).2

end Completion

/-- At an offset between two characters of a line there are completions exactly if the token under
the cursor is a front of the word behind an exclamation mark, or if the table that its state
selects has words that go on with what was typed; and these are the completions. -/
theorem Mode.completions?_eq_some_iff (mode : Mode) {document line : Text} {number offset : Nat}
    (isLine : (lines document)[number]? = some line)
    (between : (takeBytes? offset line).isSome) (completions : Completions) :
    mode.completions? document number offset = some completions ↔
      completions.words ≠ [] ∧ ∃ token, mode.tokenAt? document number offset = some token ∧
        (Completion.CompletesImportant token completions ∨
          Completion.CompletesWord line offset token completions) := by
  obtain ⟨token, typed, isToken, behind, before, slice⟩ := mode.exists_tokenAt? isLine between
  have answers : mode.completions? document number offset =
      Completion.answer? ⟨line, offset, token⟩ := by
    rw [completions?, isLine, isToken]
  have only : ∀ {holds : PlacedToken → Prop},
      (∃ token, mode.tokenAt? document number offset = some token ∧ holds token) ↔
        holds token := by
    simp [isToken]
  rw [answers, only]
  by_cases front : Completion.FrontOfImportant token
  · rw [Completion.answer?_of_front front, Option.some_inj]
    constructor
    · rintro rfl
      exact ⟨by simp, .inl ⟨front, rfl⟩⟩
    · rintro ⟨-, ⟨-, rfl⟩ | ⟨other, -⟩⟩
      · rfl
      · contradiction
  · obtain ⟨word, start, replaced, chosen, stretch, within, all⟩ :=
      Completion.exists_replaced between behind slice
    have completes :=
      Completion.completesWord_iff front slice chosen stretch within all completions
    rw [Completion.answer?_of_other front before replaced]
    constructor
    · rintro ⟨table, selects, some, same⟩
      refine ⟨?_, .inr (completes.mpr ⟨table, selects, same⟩)⟩
      rwa [same]
    · rintro ⟨some, ⟨isFront, -⟩ | continues⟩
      · contradiction
      · obtain ⟨table, selects, same⟩ := completes.mp continues
        rw [same] at some
        exact ⟨table, selects, some, same⟩

/-- Where a token is cut by the cursor it is replaced up to the cursor. -/
theorem Mode.completions?_cutPseudoClass :
    let css := ofDialect .css
    let document := "é:fix".toList
    let completions : Completions := ⟨["first-letter", "first-line", "first-child"], 3, 5⟩
    (lines document)[0]? = some document ∧ (takeBytes? 5 document).isSome ∧
      css.completions? document 0 5 = some completions ∧ completions.words ≠ [] ∧
      ∃ token, css.tokenAt? document 0 5 = some token ∧
        (Completion.CompletesImportant token completions ∨
          Completion.CompletesWord document 5 token completions) := by
  intro css document completions
  have isLine : (lines document)[0]? = some document := by decide +kernel
  have between : (takeBytes? 5 document).isSome := by decide +kernel
  have offered : css.completions? document 0 5 = some completions := by decide +kernel
  exact ⟨isLine, between, offered,
    (css.completions?_eq_some_iff isLine between completions).mp offered⟩

end Stylesheet
