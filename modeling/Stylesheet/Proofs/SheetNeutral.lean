import Stylesheet.Proofs.Feeding
import Stylesheet.Proofs.SheetReactions

/-!
# Well-nested style sheets leave no trace

A phrase does nothing to the scope in which it stands (`Phrase.feed`), and a clause opens one scope
at most, which the semicolon or the brace behind it closes (`Clause.feed` and `Context.Reaches`).
So a sheet ends in the context in which it starts: the same scopes with the same columns are open,
nothing is awaited and no descriptors are checked.
-/
namespace Stylesheet

open Grammar (react)

variable {dialect : Dialect} {rule : Option DescriptorRule} {lexeme : Lexeme} {scope : Scope}

/-! ## Phrases -/

/-- What does not start with a kind does not start with it in front of another kind either. -/
theorem exists_cons_of_not_startsWith {kind : Kind} {tokens : List Occurrence} {next : Occurrence}
    (alone : ¬StartsWith kind tokens) (other : next.kind ≠ kind) (rest : List Occurrence) :
    ∃ first later, tokens ++ next :: rest = first :: later ∧ first.kind ≠ kind := by
  cases tokens with
  | nil => exact ⟨next, rest, rfl, other⟩
  | cons first later => exact ⟨first, later ++ next :: rest, rfl, alone⟩

namespace Context.Resting

variable {context : Context} {tokens : List Occurrence}

/-- A name and a colon open a value. -/
theorem feed_declaration {name colon : Occurrence} (resting : context.Resting scope)
    (named : scope.names dialect name.lexeme) (isColon : colon.kind = .colon) :
    ∃ indent, context.feed dialect (name :: colon :: tokens) =
      (context.within .value indent).feed dialect tokens := by
  obtain ⟨style, reacts⟩ := Scope.react_of_names named
  have awaited : (context.apply name.layout (.await .colon)).awaitedAnswer? colon.lexeme =
      some (colon.lexeme.keep (.enter .value)) := if_pos isColon
  rw [resting.feed_of_settle reacts, feed_of_awaited awaited]
  exact ⟨_, rfl⟩

/-- The name of a pseudo-class stands behind its colon, and awaits nothing. -/
theorem feed_pseudoClass {list : Body} {colon word : Occurrence}
    (resting : context.Resting (.body list)) (isColon : colon.kind = .colon)
    (isWord : word.kind = .word) :
    context.feed dialect (colon :: word :: tokens) = context.feed dialect tokens := by
  have awaited : (context.apply colon.layout (.await .pseudoClass)).awaitedAnswer? word.lexeme =
      some ⟨.stay, Category.variable3⟩ := if_pos isWord
  rw [resting.feed_of_settle (react_colon isColon)]
  exact (feed_of_awaited awaited).trans (congrArg (feed dialect · tokens) resting.awaiting_none)

end Context.Resting

open Context in
/-- A phrase in front of a token that may end it is as good as nothing. -/
theorem Phrase.feed {tokens : List Occurrence} (phrase : Phrase dialect scope tokens)
    {context : Context} (resting : context.Resting scope) {next : Occurrence}
    (closes : next.kind ∈ scope.closers) (rest : List Occurrence) :
    context.feed dialect (tokens ++ next :: rest) = context.feed dialect (next :: rest) := by
  induction phrase generalizing context next rest with
  | nil => rfl
  | @token scope token tokens held alone phrase ih =>
    have continues := ih resting closes rest
    rw [List.cons_append]
    by_cases named : scope.names dialect token.lexeme
    · obtain ⟨style, reacts⟩ := Scope.react_of_names named
      have noColon := (Scope.kind_ne_of_mem_closers closes).1
      obtain ⟨first, later, split, other⟩ :=
        exists_cons_of_not_startsWith (alone named) noColon rest
      rw [← continues, split]
      exact resting.feed_of_await reacts (if_neg other)
    · obtain ⟨style, reacts⟩ := Scope.react_of_holds held named
      rw [resting.feed_of_stay reacts, continues]
  | colon isColon alone phrase ih =>
    have noWord := (Scope.kind_ne_of_mem_closers closes).2
    obtain ⟨first, later, split, other⟩ := exists_cons_of_not_startsWith alone noWord rest
    rw [List.cons_append, ← ih resting closes rest, split]
    exact resting.feed_of_await (react_colon isColon) (if_neg other)
  | pseudoClass isColon isWord phrase ih =>
    rw [List.cons_append, List.cons_append, resting.feed_pseudoClass isColon isWord,
      ih resting closes rest]
  | group isOpened grouped isClosed phrase ihGroup ih =>
    obtain ⟨leaves, unchecked⟩ := Scope.react_of_closers isOpened isClosed
    rw [List.cons_append, List.append_assoc, List.cons_append]
    obtain ⟨indent, entered⟩ := resting.feed_of_enter (Scope.react_of_opens isOpened)
    rw [entered, ihGroup (resting_within _ indent) isClosed,
      resting.feed_within_of_leave leaves unchecked, ih resting closes rest]
  | @declaration scope name colon semicolon value tokens list named isColon valued isSemicolon
      phrase ihValue ih =>
    rw [List.cons_append, List.cons_append, List.append_assoc, List.cons_append]
    obtain ⟨indent, entered⟩ := resting.feed_declaration named isColon
    have ends : semicolon.kind ∈ Scope.value.closers := by simp [isSemicolon, Scope.closers]
    rw [entered, ihValue (resting_within _ indent) ends,
      resting.feed_within_of_leave (react_value_semicolon isSemicolon) (by decide),
      ih resting closes rest]
  | lastDeclaration list named isColon valued ihValue =>
    have isClosed : next.kind = .braceClose := by
      rcases list with rfl | rfl <;> simpa [Scope.closers] using closes
    rw [List.cons_append, List.cons_append]
    obtain ⟨indent, entered⟩ := resting.feed_declaration named isColon
    have ends : next.kind ∈ Scope.value.closers := by simp [isClosed, Scope.closers]
    rw [entered, ihValue (resting_within _ indent) ends,
      resting.feed_within_of_yield
        (react_braceClose_of_clauses List.mem_cons_self isClosed)]

/-! ## Clauses -/

/-- Where a clause ends that starts in a list: in the list, or in a scope that it has opened. -/
inductive Context.Reaches (context : Context) : Scope → Context → Prop
  | here (list : Body) : Reaches context (.body list) context
  | within {scope : Scope} (indent : UInt64) (opens : scope ∈ Scope.clauses) :
    Reaches context scope (context.within scope indent)

open Context in
/-- A clause in front of a token that may end it leads to the scope in which it ends. -/
theorem Clause.feed {list : Body} {tokens : List Occurrence}
    (clause : Clause dialect list scope tokens) {context : Context}
    (resting : context.Resting (.body list)) {next : Occurrence}
    (closes : next.kind ∈ scope.closers) (rest : List Occurrence) :
    ∃ ended, context.Reaches scope ended ∧
      context.feed dialect (tokens ++ next :: rest) = ended.feed dialect (next :: rest) := by
  cases clause with
  | selector phrase => exact ⟨context, .here list, phrase.feed resting closes rest⟩
  | declaration named isColon valued =>
    obtain ⟨indent, entered⟩ := resting.feed_declaration named isColon
    refine ⟨context.within .value indent, .within indent List.mem_cons_self, ?_⟩
    rw [List.cons_append, List.cons_append, entered]
    exact valued.feed (resting_within .value indent) closes rest
  | @header name scope header isAtRule enters phrase =>
    have reacts : react dialect context.rule name.lexeme (.body list) =
        .settle (name.lexeme.keep (.enter scope)) := by
      rw [react_atRule isAtRule, enters]
    obtain ⟨indent, entered⟩ := resting.feed_of_enter reacts
    refine ⟨context.within scope indent, .within indent (mem_clauses_of_atRuleMove enters), ?_⟩
    rw [List.cons_append, entered]
    exact phrase.feed (resting_within scope indent) closes rest

namespace Context.Reaches

variable {context ended : Context} {list : Body} {rest : List Occurrence}

/-- A semicolon ends a clause. -/
theorem feed_semicolon (reaches : context.Reaches scope ended)
    (resting : context.Resting (.body list)) {semicolon : Occurrence}
    (isSemicolon : semicolon.kind = .semicolon) (ends : semicolon.kind ∈ scope.closers) :
    ended.feed dialect (semicolon :: rest) = context.feed dialect rest := by
  have skipped : context.feed dialect (semicolon :: rest) = context.feed dialect rest :=
    resting.feed_of_stay (react_semicolon isSemicolon)
  cases reaches with
  | here => exact skipped
  | within indent opens =>
    rw [isSemicolon] at ends
    rcases react_semicolon_of_clauses opens ends isSemicolon with leaves | yields
    · exact resting.feed_within_of_leave leaves (by rintro rfl; simp [Scope.clauses] at opens)
    · rw [resting.feed_within_of_yield yields, skipped]

/-- A closing brace ends a clause, and the block in which it stands. -/
theorem feed_braceClose {indent : UInt64} {outer : Scope}
    (reaches : (context.within (.body list) indent).Reaches scope ended)
    (resting : context.Resting outer) {close : Occurrence}
    (isClosed : close.kind = .braceClose) :
    ended.feed dialect (close :: rest) = context.feed dialect rest := by
  have left : (context.within (.body list) indent).feed dialect (close :: rest) =
      context.feed dialect rest :=
    resting.feed_within_of_leave (react_braceClose isClosed) (by simp)
  cases reaches with
  | here => exact left
  | within column opens =>
    rw [(resting_within _ indent).feed_within_of_yield
      (react_braceClose_of_clauses opens isClosed), left]

/-- An opening brace ends a clause and opens a block. -/
theorem feed_braceOpen (reaches : context.Reaches scope ended)
    (resting : context.Resting (.body list)) {inner : Body} {brace : Occurrence}
    (holds : dialect.blockBody? scope = some inner) (isOpened : brace.kind = .braceOpen) :
    ∃ indent, ended.feed dialect (brace :: rest) =
      (context.within (.body inner) indent).feed dialect rest := by
  have entered : ∃ indent, context.feed dialect (brace :: rest) =
      (context.within (.body .block) indent).feed dialect rest :=
    resting.feed_of_enter (react_braceOpen isOpened)
  cases reaches with
  | here =>
    obtain rfl : .block = inner := by simpa [Dialect.blockBody?] using holds
    exact entered
  | within indent opens =>
    rcases react_braceOpen_of_clauses opens holds isOpened with ⟨yields, rfl⟩ | ⟨placing, replaces⟩
    · rw [resting.feed_within_of_yield yields]
      exact entered
    · rw [(resting_within scope indent).feed_of_settle replaces]
      cases placing <;> exact ⟨_, rfl⟩

end Context.Reaches

/-- A closing brace may end every clause. -/
theorem Clause.braceClose_mem_closers {list : Body} {tokens : List Occurrence}
    (clause : Clause dialect list scope tokens) : .braceClose ∈ scope.closers := by
  cases clause with
  | selector => simp [Scope.closers]
  | declaration => simp [Scope.closers]
  | header isAtRule enters =>
    have opens := mem_clauses_of_atRuleMove enters
    revert opens
    cases scope <;> simp [Scope.clauses, Scope.closers]

/-! ## Statements and blocks -/

open Context in
/-- Words that are awaited again and again are as good as nothing. -/
theorem feed_words {context : Context} {awaiting : Awaiting} {style : Style}
    {words : List Occurrence} (waits : context.awaiting = some awaiting)
    (stays : ∀ word ∈ words,
      Grammar.awaited context.rule word.lexeme awaiting = some ⟨.await awaiting, style⟩)
    (rest : List Occurrence) :
    context.feed dialect (words ++ rest) = context.feed dialect rest := by
  induction words with
  | nil => rfl
  | cons word words ih =>
    have awaited : context.awaitedAnswer? word.lexeme = some ⟨.await awaiting, style⟩ := by
      rw [awaitedAnswer?, waits]
      exact stays word List.mem_cons_self
    have same : context.apply word.layout (.await awaiting) = context := by
      rw [apply, ← waits]
    rw [List.cons_append, feed_of_awaited awaited, same]
    exact ih fun other isOther => stays other (List.mem_cons_of_mem word isOther)

open Context in
/-- The name of an animation, up to what follows its words. -/
theorem feed_animation {context : Context} {list : Body} {name : Occurrence}
    {words : List Occurrence} (resting : context.Resting (.body list))
    (isAtRule : name.kind = .atRule)
    (awaits : Grammar.atRuleMove dialect name.lexeme.text = .await .keyframesBlock)
    (areWords : ∀ word ∈ words, word.kind = .word) (rest : List Occurrence) :
    context.feed dialect (name :: (words ++ rest)) =
      feed dialect { context with awaiting := some .keyframesBlock } rest := by
  have reacts : react dialect context.rule name.lexeme (.body list) =
      .settle (name.lexeme.keep (.await .keyframesBlock)) := by
    rw [react_atRule isAtRule, awaits]
  have stays : ∀ word ∈ words, Grammar.awaited context.rule word.lexeme .keyframesBlock =
      some ⟨.await .keyframesBlock, Category.variable1⟩ := by
    intro word isWord
    have kind : word.lexeme.token.kind = .word := areWords word isWord
    simp only [Grammar.awaited, kind]
  have waits : (context.apply name.layout (.await .keyframesBlock)).awaiting =
      some .keyframesBlock := rfl
  rw [resting.feed_of_settle reacts]
  exact feed_words waits stays rest

open Context in
/-- A block of descriptors leaves a list as it finds it, in which no descriptors are checked. -/
theorem feed_descriptors {context : Context} {list : Body} {name brace close : Occurrence}
    {rule : DescriptorRule} {words tokens : List Occurrence}
    (resting : context.Resting (.body list)) (unchecked : context.rule = none)
    (isAtRule : name.kind = .atRule)
    (checks : Grammar.atRuleMove dialect name.lexeme.text = .check rule)
    (areWords : ∀ word ∈ words, word.kind = .word ∧ rule = .counterStyle)
    (isOpened : brace.kind = .braceOpen) (phrase : Phrase dialect .descriptors tokens)
    (isClosed : close.kind = .braceClose) :
    context.feed dialect (name :: (words ++ brace :: (tokens ++ [close]))) = context := by
  let checked : Context := { context with awaiting := some .descriptorBlock, rule := some rule }
  have reacts : react dialect context.rule name.lexeme (.body list) =
      .settle (name.lexeme.keep (.check rule)) := by
    rw [react_atRule isAtRule, checks]
  have named : ∀ word ∈ words, Grammar.awaited checked.rule word.lexeme .descriptorBlock =
      some ⟨.await .descriptorBlock, Category.variable1⟩ := by
    intro word isWord
    obtain ⟨kind, counter⟩ := areWords word isWord
    have word : word.lexeme.token.kind = .word := kind
    simp only [Grammar.awaited, word, checked, counter, if_true]
  have awaited : checked.awaitedAnswer? brace.lexeme =
      some (brace.lexeme.keep (.enter .descriptors)) := by
    have opens : brace.lexeme.token.kind = .braceOpen := isOpened
    simp only [awaitedAnswer?, checked, Option.bind_some, Grammar.awaited, opens]
  have ends : close.kind ∈ Scope.descriptors.closers := by simp [isClosed, Scope.closers]
  have leaves : react dialect (some rule) close.lexeme .descriptors =
      .settle (close.lexeme.keep .leave) := by
    have closes : close.lexeme.token.kind = .braceClose := isClosed
    simp only [react, Grammar.inDescriptors, closes]
  let column := brace.layout.indentation + brace.layout.unit
  have inside := checked.resting_within .descriptors column
  have left : (checked.within .descriptors column).feed dialect [close] =
      { context with awaiting := none, rule := none } := by
    rw [inside.feed_of_settle leaves]
    rfl
  calc
    _ = checked.feed dialect (words ++ brace :: (tokens ++ [close])) :=
      resting.feed_of_settle reacts
    _ = checked.feed dialect (brace :: (tokens ++ [close])) := feed_words rfl named _
    _ = (checked.within .descriptors column).feed dialect (tokens ++ [close]) :=
      feed_of_awaited awaited
    _ = (checked.within .descriptors column).feed dialect [close] := phrase.feed inside ends []
    _ = { context with awaiting := none, rule := none } := left
    _ = context := by
      rw [← unchecked]
      exact resting.awaiting_none

open Context in
/-- A statement leaves a list as it finds it. -/
theorem Statement.feed {list : Body} {tokens : List Occurrence}
    (statement : Statement dialect list tokens) {context : Context}
    (resting : context.Resting (.body list)) (unchecked : context.rule = none) :
    context.feed dialect tokens = context := by
  induction statement with
  | token held unnamed =>
    obtain ⟨style, reacts⟩ := Scope.react_of_holds held unnamed
    rw [resting.feed_of_stay reacts, feed_nil]
  | group isOpened grouped isClosed =>
    obtain ⟨leaves, unchecked⟩ := Scope.react_of_closers isOpened isClosed
    obtain ⟨indent, entered⟩ := resting.feed_of_enter (Scope.react_of_opens isOpened)
    rw [entered, grouped.feed (context.resting_within _ indent) isClosed,
      resting.feed_within_of_leave leaves unchecked, feed_nil]
  | clause clause isSemicolon ends =>
    obtain ⟨ended, reaches, fed⟩ := clause.feed resting ends []
    rw [fed, reaches.feed_semicolon resting isSemicolon ends, feed_nil]
  | descriptors isAtRule checks areWords isOpened phrase isClosed =>
    exact feed_descriptors resting unchecked isAtRule checks areWords isOpened phrase isClosed
  | @animation name next words tokens isAtRule awaits areWords other statement ih =>
    have notAwaited : awaitedAnswer? { context with awaiting := some .keyframesBlock }
        next.lexeme = none := by
      obtain ⟨noWord, noBrace⟩ := other
      simp only [awaitedAnswer?, Option.bind_some, Grammar.awaited]
      split
      · contradiction
      · contradiction
      · rfl
    rw [feed_animation resting isAtRule awaits areWords, feed_awaiting_none notAwaited]
    exact (congrArg (Context.feed dialect · (next :: tokens)) resting.awaiting_none).trans ih

open Context in
/-- What opens a block leads into it. -/
theorem Opening.feed {list inner : Body} {tokens : List Occurrence}
    (opening : Opening dialect list tokens inner) {context : Context}
    (resting : context.Resting (.body list)) (rest : List Occurrence) :
    ∃ indent, context.feed dialect (tokens ++ rest) =
      (context.within (.body inner) indent).feed dialect rest := by
  cases opening with
  | @clause scope inner tokens brace clause holds isOpened =>
    have ends : brace.kind ∈ scope.closers := by
      cases scope <;> simp [Dialect.blockBody?, Scope.closers, isOpened] at holds ⊢
    obtain ⟨ended, reaches, fed⟩ := clause.feed resting ends rest
    obtain ⟨indent, entered⟩ := reaches.feed_braceOpen resting holds isOpened
    refine ⟨indent, ?_⟩
    rw [List.append_assoc, List.singleton_append, fed, entered]
  | @animation name brace words isAtRule awaits areWords isOpened =>
    have opens : brace.lexeme.token.kind = .braceOpen := isOpened
    have awaited : awaitedAnswer? { context with awaiting := some .keyframesBlock }
        brace.lexeme = some (brace.lexeme.keep (.enter (.body .top))) := by
      simp only [awaitedAnswer?, Option.bind_some, Grammar.awaited, opens]
    rw [List.cons_append, List.append_assoc, List.singleton_append,
      feed_animation resting isAtRule awaits areWords, feed_of_awaited awaited]
    exact ⟨_, rfl⟩

open Context in
/-- A well-nested list leaves the grammar as it finds it. -/
theorem Sheet.feed_eq_self {list : Body} {tokens : List Occurrence}
    (sheet : Sheet dialect list tokens) {context : Context}
    (resting : context.Resting (.body list)) (unchecked : context.rule = none) :
    context.feed dialect tokens = context := by
  induction sheet generalizing context with
  | nil => rfl
  | statement statement sheet ih =>
    rw [feed_append, statement.feed resting unchecked, ih resting unchecked]
  | @block list inner scope opening items last tokens close opened listed ended isClosed sheet
      ihItems ih =>
    obtain ⟨indent, entered⟩ := opened.feed resting (items ++ (last ++ close :: tokens))
    have inside := context.resting_within (.body inner) indent
    have ends : close.kind ∈ scope.closers := isClosed ▸ ended.braceClose_mem_closers
    obtain ⟨behind, reaches, fed⟩ := ended.feed inside ends tokens
    rw [entered, feed_append, ihItems inside unchecked, fed,
      reaches.feed_braceClose resting isClosed, ih resting unchecked]

/-- A token at the start of a line. -/
def Occurrence.first (kind : Kind) (text : Text) : Occurrence :=
  ⟨⟨.bare kind, text, []⟩, ⟨0, 2⟩⟩

open Occurrence (first)

/-- A condition around a rule with a variable, and a font, each token on a line of its own. -/
def nestedSheet : List Occurrence :=
  [first .atRule "@media".toList, first .parenOpen ['('], first .word ['w'],
    first .parenClose [')'], first .braceOpen ['{'],
    first .qualifier ['.', 'a'], first .colon [':'], first .word ['b'], first .braceOpen ['{'],
    first .variableDefinition ['$', 'x'], first .colon [':'],
    first .parenOpen ['('], first .interpolation ['#', '{'], first .variableUse ['$', 'y'],
    first .braceClose ['}'], first .parenClose [')'],
    first .braceClose ['}'], first .braceClose ['}'],
    first .atRule "@font-face".toList, first .braceOpen ['{'],
    first .word ['s', 'r', 'c'], first .colon [':'], first .word ['u'], first .braceClose ['}']]

/-- It is well-nested within a block. -/
theorem sheet_nestedSheet : Sheet .scss .block nestedSheet := by
  have interpolation : Phrase .scss .interpolation [first .variableUse ['$', 'y']] :=
    .token rfl nofun (.nil _)
  have parens : Phrase .scss .parens
      [first .interpolation ['#', '{'], first .variableUse ['$', 'y'], first .braceClose ['}']] :=
    .group rfl interpolation (by decide) (.nil _)
  have value : Phrase .scss .value
      [first .parenOpen ['('], first .interpolation ['#', '{'], first .variableUse ['$', 'y'],
        first .braceClose ['}'], first .parenClose [')']] :=
    .group rfl parens (by decide) (.nil _)
  have unnamed : ¬Scope.names .scss (first .qualifier ['.', 'a']).lexeme (.body .block) :=
    Bool.false_ne_true
  have selector : Phrase .scss (.body .block)
      [first .qualifier ['.', 'a'], first .colon [':'], first .word ['b']] :=
    .token rfl (absurd · unnamed) (.pseudoClass rfl rfl (.nil _))
  have size : Phrase .scss .conditionParens [first .word ['w']] := .token rfl nofun (.nil _)
  have condition : Phrase .scss .condition
      [first .parenOpen ['('], first .word ['w'], first .parenClose [')']] :=
    .group rfl size (by decide) (.nil _)
  have address : Phrase .scss .value [first .word ['u']] := .token rfl nofun (.nil _)
  have source : Phrase .scss .descriptors
      [first .word ['s', 'r', 'c'], first .colon [':'], first .word ['u']] :=
    .lastDeclaration (.inr rfl) rfl rfl address
  have checks : Grammar.atRuleMove .scss "@font-face".toList = .check .fontFace := by decide
  have noWords : ∀ word ∈ ([] : List Occurrence),
      word.kind = .word ∧ DescriptorRule.fontFace = .counterStyle := by simp
  have font : Statement .scss .block
      [first .atRule "@font-face".toList, first .braceOpen ['{'],
        first .word ['s', 'r', 'c'], first .colon [':'], first .word ['u'],
        first .braceClose ['}']] := .descriptors rfl checks noWords rfl source rfl
  have rule : Sheet .scss .block
      [first .qualifier ['.', 'a'], first .colon [':'], first .word ['b'],
        first .braceOpen ['{'], first .variableDefinition ['$', 'x'], first .colon [':'],
        first .parenOpen ['('], first .interpolation ['#', '{'], first .variableUse ['$', 'y'],
        first .braceClose ['}'], first .parenClose [')'], first .braceClose ['}']] :=
    .block (.clause (.selector selector) rfl rfl) (.nil .block) (.declaration rfl rfl value) rfl
      (.nil .block)
  exact .block (.clause (.header rfl (by decide) condition) rfl rfl) rule (.selector (.nil _)) rfl
    (.statement font (.nil .block))

/-- Within a block of a list of rules. -/
def blockContext : Context :=
  { nesting := ⟨[⟨.body .block, 2⟩], ⟨.top, 0⟩⟩, awaiting := none, rule := none }

/-- There the condition, the rule, its value and the font are all left again. -/
theorem Sheet.feed_eq_self_nested :
    Sheet .scss .block nestedSheet ∧ blockContext.Resting (.body .block) ∧
      blockContext.rule = none ∧ blockContext.feed .scss nestedSheet = blockContext :=
  ⟨sheet_nestedSheet, ⟨rfl, rfl⟩, rfl, sheet_nestedSheet.feed_eq_self ⟨rfl, rfl⟩ rfl⟩

end Stylesheet
