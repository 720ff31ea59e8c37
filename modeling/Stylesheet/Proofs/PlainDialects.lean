import Stylesheet.Proofs.Columns

/-!
# The two dialects without nesting

What is read of a text depends on what is open in front of it and on the constructs of the dialect,
and never on the grammar (`Mode.tokensFrom_sameLexeme`). The two dialects without nesting have the
same constructs, so they read the same lexemes of every document. Their grammars differ by the
blocks of components, which one of them lacks, and by the values of media features, which the other
does not know. So while no component is named they move in step, and they paint alike whatever is
not such a value in the condition of an at-rule (`Mode.plain_dialects_agree`).
-/
namespace Stylesheet

open Grammar (react)

/-! ## Lexemes and the grammar -/

/-- The same token of a document, without what it is painted with. -/
def DocumentToken.unpainted (token : DocumentToken) : DocumentToken :=
  { token with token := .bare token.token.kind }

/-- Tokens of a line that differ only by what the grammar makes of them. -/
structure PlacedToken.SameLexeme (token counterpart : PlacedToken) : Prop where
  start_eq : token.start = counterpart.start
  stop_eq : token.stop = counterpart.stop
  text_eq : token.text = counterpart.text
  /-- The grammar takes them for the same. -/
  kind_eq : token.token.kind = counterpart.token.kind
  /-- They leave the same open. -/
  continuation_eq : token.state.continuation = counterpart.state.continuation

/-- Dialects with the same constructs scan alike. -/
theorem scan_eq_of_hooks {left right : Dialect} (hooks : left.hooks = right.hooks) :
    scan left = scan right := by
  funext continuation text
  match continuation with
  | none =>
    cases text with
    | nil => rfl
    | cons c rest => simp only [scan, Scan.base, Dialect.hook?, hooks]
  | some (.string _) | some .comment | some .argument | some .rawArgument => rfl

namespace Mode

/-- Readings that differ only by what the grammar makes of the lexeme. -/
structure Reading.SameLexeme (left right : Reading) : Prop where
  length_eq : left.length = right.length
  kind_eq : left.token.kind = right.token.kind
  continuation_eq : left.state.continuation = right.state.continuation

variable {mode other : Mode} {state counterpart : ParseState}

/-- Modes of dialects with the same constructs read the same lexeme where the same is open. -/
theorem read_sameLexeme (hooks : mode.dialect.hooks = other.dialect.hooks)
    (opened : state.continuation = counterpart.continuation) (indentation column : UInt64)
    (carried rest : Text) :
    (mode.read indentation carried rest state).SameLexeme
      (other.read column carried rest counterpart) := by
  simp only [read, opened, scan_eq_of_hooks hooks]
  split
  · exact ⟨rfl, rfl, opened⟩
  · exact ⟨rfl, rfl, rfl⟩

/-- They read the same lexeme that has characters. -/
theorem readSome_sameLexeme (hooks : mode.dialect.hooks = other.dialect.hooks)
    (opened : state.continuation = counterpart.continuation) (indentation column : UInt64)
    (rest : Text) (tries : Nat) :
    (mode.readSome indentation rest tries state).SameLexeme
      (other.readSome column rest tries counterpart) := by
  induction tries generalizing state counterpart with
  | zero => exact ⟨rfl, rfl, opened⟩
  | succ tries ih =>
    have once := read_sameLexeme hooks opened indentation column [] rest
    simp only [readSome, once.length_eq]
    split
    · exact once
    · exact ih once.continuation_eq

/-- They read the same lexemes of a text. -/
theorem tokensFrom_sameLexeme (hooks : mode.dialect.hooks = other.dialect.hooks)
    (opened : state.continuation = counterpart.continuation)
    (indentation column : UInt64) (skipped : Nat) (rest : Text) (offset : Nat) :
    List.Forall₂ PlacedToken.SameLexeme (mode.tokensFrom indentation skipped rest offset state)
      (other.tokensFrom column skipped rest offset counterpart) := by
  induction rest generalizing skipped offset state counterpart with
  | nil => exact .nil
  | cons c rest ih =>
    cases skipped with
    | succ skipped => exact ih opened skipped offset
    | zero =>
      have first := readSome_sameLexeme hooks opened indentation column (c :: rest) attempts
      simp only [tokensFrom, first.length_eq]
      exact .cons ⟨rfl, rfl, rfl, first.kind_eq, first.continuation_eq⟩
        (ih first.continuation_eq _ _)

/-- Behind the same lexemes the same is open. -/
theorem stateBehind_sameLexeme {tokens counterparts : List PlacedToken}
    (same : List.Forall₂ PlacedToken.SameLexeme tokens counterparts)
    (opened : state.continuation = counterpart.continuation) :
    (stateBehind tokens state).continuation =
      (stateBehind counterparts counterpart).continuation := by
  induction same generalizing state counterpart with
  | nil => exact opened
  | cons first _ ih =>
    rw [stateBehind_cons, stateBehind_cons]
    exact ih first.continuation_eq

/-- They read the same lexemes of lines. -/
theorem map_unpainted_linesTokens (hooks : mode.dialect.hooks = other.dialect.hooks)
    (opened : state.continuation = counterpart.continuation) (number : Nat) (lines : List Text) :
    (mode.linesTokens number lines state).map DocumentToken.unpainted =
      (other.linesTokens number lines counterpart).map DocumentToken.unpainted := by
  induction lines generalizing number state counterpart with
  | nil => rfl
  | cons line lines ih =>
    have same : List.Forall₂ PlacedToken.SameLexeme (mode.lineTokens line state)
        (other.lineTokens line counterpart) := tokensFrom_sameLexeme hooks opened _ _ 0 line 0
    have unpainted : ((mode.lineTokens line state).map (PlacedToken.onLine number)).map
          DocumentToken.unpainted =
        ((other.lineTokens line counterpart).map (PlacedToken.onLine number)).map
          DocumentToken.unpainted := by
      rw [List.map_map, List.map_map, ← List.forall₂_eq_eq_eq, List.forall₂_map_left_iff,
        List.forall₂_map_right_iff]
      refine same.imp fun token counterpart alike => ?_
      simp only [Function.comp_apply, PlacedToken.onLine, DocumentToken.unpainted, alike.start_eq,
        alike.stop_eq, alike.text_eq, alike.kind_eq]
    rw [linesTokens, linesTokens, List.map_append, List.map_append, unpainted,
      ih (stateBehind_sameLexeme same opened)]

end Mode

/-! ## The grammars of the two dialects -/

/-- The headers of at-rules whose words are those of a condition. -/
def Scope.conditions : List Scope := [.documentTypes, .condition, .conditionParens]

/-- What the two dialects paint a word with of a kind, behind which the grammar is in a state: the
same, or what it is in a condition for each of them, if it is the value of a media feature and the
grammar is in a condition. -/
inductive PaintsAlike (kind : Kind) (word : String) (state : State) : (css gss : Style) → Prop
  | same (style : Style) : PaintsAlike kind word state style style
  | mediaValue {scope : Scope} (isWord : kind = .word)
    (isValue : Vocabulary.full.mediaValues.contains word) (condition : scope ∈ Scope.conditions)
    (within : state = .within scope) :
    PaintsAlike kind word state (Dialect.css.conditionStyle word) (Dialect.gss.conditionStyle word)

/-- The vocabularies of the two dialects differ in the values of media features. -/
theorem vocabulary_gss :
    Dialect.gss.vocabulary = { Dialect.css.vocabulary with mediaValues := .empty } := by
  simp only [Dialect.vocabulary]

/-- The empty set has no words. -/
theorem WordSet.contains_empty (word : String) : WordSet.empty.contains word = false := by
  simp [contains, empty]

/-- Any other word is the same in a condition. -/
theorem conditionStyle_eq {word : String} (other : ¬Vocabulary.full.mediaValues.contains word) :
    Dialect.css.conditionStyle word = Dialect.gss.conditionStyle word := by
  have known : Dialect.css.vocabulary.mediaValues.contains word = false :=
    by simpa [Dialect.vocabulary] using other
  have unknown : Dialect.gss.vocabulary.mediaValues.contains word = false :=
    WordSet.contains_empty word
  simp only [Dialect.conditionStyle, known, unknown]
  rw [vocabulary_gss]

/-- A word is the same in a value. -/
theorem valueCategory_eq (word : String) :
    Dialect.css.valueCategory word = Dialect.gss.valueCategory word := by
  unfold Dialect.valueCategory
  rw [vocabulary_gss]

/-- The blocks of rules admit the same descriptors. -/
theorem admits_eq (rule : Option DescriptorRule) (word : String) :
    Dialect.css.admits rule word = Dialect.gss.admits rule word := by
  unfold Dialect.admits
  rw [vocabulary_gss]

/-- The name of an at-rule that is no component opens the same. -/
theorem atRuleMove_eq {name : Text} (other : ¬Pattern.isComponentRule name) :
    Grammar.atRuleMove .css name = Grammar.atRuleMove .gss name := by
  simp [Grammar.atRuleMove, Dialect.allowsComponents, other]

variable {rule : Option DescriptorRule} {lexeme : Lexeme} {scope : Scope}

/-- A header reacts alike to anything but a word. -/
theorem inCondition_eq (other : lexeme.token.kind ≠ .word) :
    Grammar.inCondition .css lexeme = Grammar.inCondition .gss lexeme := by
  simp only [Grammar.inCondition]
  split <;> first | contradiction | rfl

/-- Scopes without conditions react alike, unless a component is named. -/
theorem react_eq (other : scope ∉ Scope.conditions)
    (unnamed : lexeme.token.kind = .atRule → ¬Pattern.isComponentRule lexeme.text) :
    react .css rule lexeme scope = react .gss rule lexeme scope := by
  have rules : Grammar.inRules .css lexeme = Grammar.inRules .gss lexeme := by
    simp only [Grammar.inRules]
    split
    case h_3 isAtRule => rw [atRuleMove_eq (unnamed isAtRule)]
    all_goals rfl
  have nesting : Dialect.gss.allowsNesting = Dialect.css.allowsNesting := rfl
  have declarations : Grammar.inDeclarations .css lexeme = Grammar.inDeclarations .gss lexeme := by
    unfold Grammar.inDeclarations
    rw [vocabulary_gss, nesting, rules]
  cases scope with
  | body list =>
    cases list with
    | top => exact congrArg Reaction.settle rules
    | block => exact congrArg Reaction.settle declarations
  | documentTypes | condition | conditionParens => exact absurd (by decide) other
  | value =>
    simp only [react, Grammar.inValue, valueCategory_eq]
    rfl
  | parens => simp only [react, Grammar.inParens, valueCategory_eq]
  | descriptors => simp only [react, Grammar.inDescriptors, admits_eq]
  | _ => rfl

/-- Whether a word is the value of a media feature. -/
def Lexeme.IsMediaValue (lexeme : Lexeme) : Prop :=
  lexeme.token.kind = .word ∧ Vocabulary.full.mediaValues.contains lexeme.word

/-- Headers react alike to a word that is no such value. -/
theorem inCondition_agrees (lexeme : Lexeme) :
    Grammar.inCondition .css lexeme = Grammar.inCondition .gss lexeme ∨
      lexeme.IsMediaValue ∧
        Grammar.inCondition .css lexeme = .settle ⟨.stay, Dialect.css.conditionStyle lexeme.word⟩ ∧
        Grammar.inCondition .gss lexeme =
          .settle ⟨.stay, Dialect.gss.conditionStyle lexeme.word⟩ := by
  by_cases isWord : lexeme.token.kind = .word
  · have words (dialect : Dialect) : Grammar.inCondition dialect lexeme =
        .settle ⟨.stay, dialect.conditionStyle lexeme.word⟩ := by
      simp only [Grammar.inCondition, isWord]
    by_cases isValue : Vocabulary.full.mediaValues.contains lexeme.word
    · exact .inr ⟨⟨isWord, isValue⟩, words .css, words .gss⟩
    · exact .inl (by rw [words .css, words .gss, conditionStyle_eq isValue])
  · exact .inl (inCondition_eq isWord)

/-- A scope reacts alike in both dialects, unless a component is named, or it is that of a condition
and the lexeme is the value of a media feature. -/
theorem react_agrees (unnamed : lexeme.token.kind = .atRule → ¬Pattern.isComponentRule lexeme.text)
    (rule : Option DescriptorRule) (scope : Scope) :
    react .css rule lexeme scope = react .gss rule lexeme scope ∨
      (lexeme.IsMediaValue ∧ scope ∈ Scope.conditions) ∧
        react .css rule lexeme scope = .settle ⟨.stay, Dialect.css.conditionStyle lexeme.word⟩ ∧
        react .gss rule lexeme scope = .settle ⟨.stay, Dialect.gss.conditionStyle lexeme.word⟩ := by
  by_cases isCondition : scope ∈ Scope.conditions
  · have agrees := inCondition_agrees lexeme
    have types : Dialect.gss.vocabulary.documentTypes = Dialect.css.vocabulary.documentTypes := by
      simp only [Dialect.vocabulary]
    simp only [isCondition, and_true]
    simp only [Scope.conditions, List.mem_cons, List.not_mem_nil, or_false] at isCondition
    rcases isCondition with rfl | rfl | rfl
    · simp only [react, Grammar.inDocumentTypes, types]
      split
      · exact .inl rfl
      · exact agrees
    · exact agrees
    · simp only [react, Grammar.inConditionParens]
      split
      · exact .inl rfl
      · exact .inl rfl
      · exact .inl rfl
      · exact agrees
  · exact .inl (react_eq isCondition unnamed)

/-- A lexeme is settled in the same scope in both dialects, and it is settled alike but for such
values. -/
theorem settle_agrees (unnamed : lexeme.token.kind = .atRule → ¬Pattern.isComponentRule lexeme.text)
    (rule : Option DescriptorRule) (root : Root) (skipped : Nat) (opened : List Frame) :
    let css := Nesting.settle .css rule lexeme root.body skipped opened
    let gss := Nesting.settle .gss rule lexeme root.body skipped opened
    css = gss ∨
      (lexeme.IsMediaValue ∧ (Nesting.mk css.1 root).innermost.scope ∈ Scope.conditions) ∧
        css = (css.1, ⟨.stay, Dialect.css.conditionStyle lexeme.word⟩) ∧
        gss = (css.1, ⟨.stay, Dialect.gss.conditionStyle lexeme.word⟩) := by
  induction opened generalizing skipped with
  | nil =>
    have alike : react .css rule lexeme (.body root.body) =
        react .gss rule lexeme (.body root.body) :=
      react_eq (by cases root.body <;> decide) unnamed
    exact .inl (congrArg (Prod.mk []) (Reaction.settle.inj alike))
  | cons frame below ih =>
    cases skipped with
    | succ skipped => exact ih skipped
    | zero =>
      rcases react_agrees unnamed rule frame.scope with
        alike | ⟨isValue, css, gss⟩
      · cases reacts : react .css rule lexeme frame.scope with
        | settle answer =>
          rw [reacts] at alike
          rw [Nesting.settle_cons_of_settle .css rule lexeme root.body below reacts,
            Nesting.settle_cons_of_settle .gss rule lexeme root.body below alike.symm]
          exact .inl rfl
        | yield others =>
          rw [reacts] at alike
          rw [Nesting.settle_cons_of_yield .css rule lexeme root.body below reacts,
            Nesting.settle_cons_of_yield .gss rule lexeme root.body below alike.symm,
            ← Nesting.settle_skipped, ← Nesting.settle_skipped]
          exact ih others
      · rw [Nesting.settle_cons_of_settle .css rule lexeme root.body below css,
          Nesting.settle_cons_of_settle .gss rule lexeme root.body below gss]
        exact .inr ⟨isValue, rfl, rfl⟩

/-- Both dialects take the same step at a lexeme that names no component, and paint it alike. -/
theorem step_agrees (unnamed : lexeme.token.kind = .atRule → ¬Pattern.isComponentRule lexeme.text)
    (layout : Layout) (context : Context) :
    (context.step .css layout lexeme).2 = (context.step .gss layout lexeme).2 ∧
      PaintsAlike lexeme.token.kind lexeme.word (context.step .css layout lexeme).2.state
        (context.step .css layout lexeme).1 (context.step .gss layout lexeme).1 := by
  cases awaits : context.awaitedAnswer? lexeme with
  | some answer =>
    rw [Context.step_of_awaited layout awaits, Context.step_of_awaited layout awaits]
    exact ⟨rfl, .same answer.style⟩
  | none =>
    have agrees :=
      settle_agrees unnamed context.rule context.nesting.root 0 context.nesting.opened
    simp only [Context.step, awaits]
    rcases agrees with same | ⟨⟨⟨isWord, isValue⟩, within⟩, css, gss⟩
    · rw [same]
      exact ⟨rfl, .same _⟩
    · rw [css, gss]
      exact ⟨rfl, .mediaValue isWord isValue within rfl⟩

/-! ## Documents -/

/-- Tokens of a line that are the same in both dialects, but for what the value of a media feature
is painted with in a condition. -/
structure PlacedToken.AgreesButMedia (css gss : PlacedToken) : Prop where
  start_eq : css.start = gss.start
  stop_eq : css.stop = gss.stop
  text_eq : css.text = gss.text
  /-- The grammar takes them for the same. -/
  kind_eq : css.token.kind = gss.token.kind
  /-- All is the same behind them: what is open, the state of the grammar, the rule that is checked
  against, and the scopes with their columns. -/
  state_eq : css.state = gss.state
  /-- They are painted alike. -/
  paints : PaintsAlike css.token.kind (String.ofList (Text.foldCase css.text))
    css.state.context.state css.token.style gss.token.style

namespace Mode

/-- The same settings for a dialect. -/
def inDialect (dialect : Dialect) (mode : Mode) : Mode := { mode with dialect }

/-- Readings of a text that are the same in both dialects but for the paint of a media value. -/
structure Reading.AgreesButMedia (rest : Text) (css gss : Reading) : Prop where
  length_eq : css.length = gss.length
  kind_eq : css.token.kind = gss.token.kind
  state_eq : css.state = gss.state
  paints : PaintsAlike css.token.kind (String.ofList (Text.foldCase (rest.take css.length)))
    css.state.context.state css.token.style gss.token.style

/-- Whether a reading of a text is not the name of a component. -/
def Reading.Unnamed (rest : Text) (reading : Reading) : Prop :=
  reading.token.kind = .atRule → ¬Pattern.isComponentRule (rest.take reading.length)

variable (mode : Mode)

/-- Both dialects read the same token from a state, unless it names a component. -/
theorem read_agrees (indentation : UInt64) (rest : Text) (state : ParseState)
    (unnamed : ((mode.inDialect .css).read indentation [] rest state).Unnamed rest) :
    ((mode.inDialect .css).read indentation [] rest state).AgreesButMedia rest
      ((mode.inDialect .gss).read indentation [] rest state) := by
  have scans : scan .gss = scan .css := scan_eq_of_hooks rfl
  simp only [read, inDialect, scans, Reading.Unnamed] at unnamed ⊢
  split
  · exact ⟨rfl, rfl, rfl, .same _⟩
  · next offered =>
    rw [if_neg offered] at unnamed
    let found := scan .css state.continuation rest
    let lexeme : Lexeme :=
      ⟨found.token, [] ++ rest.take found.length, rest.drop found.length⟩
    have other : lexeme.token.kind = .atRule → ¬Pattern.isComponentRule lexeme.text := unnamed
    obtain ⟨same, paints⟩ :=
      step_agrees other ⟨indentation, mode.settings.indentUnit⟩ state.context
    exact ⟨rfl, rfl, by rw [same], paints⟩

/-- So they do at a token that has characters. -/
theorem readSome_agrees (indentation : UInt64) (rest : Text) (tries : Nat) (state : ParseState)
    (unnamed : ((mode.inDialect .css).readSome indentation rest tries state).Unnamed rest) :
    ((mode.inDialect .css).readSome indentation rest tries state).AgreesButMedia rest
      ((mode.inDialect .gss).readSome indentation rest tries state) := by
  induction tries generalizing state with
  | zero => exact ⟨rfl, rfl, rfl, .same _⟩
  | succ tries ih =>
    simp only [readSome] at unnamed ⊢
    by_cases taken : 0 < ((mode.inDialect .css).read indentation [] rest state).length
    · rw [if_pos taken] at unnamed ⊢
      have once := mode.read_agrees indentation rest state unnamed
      rw [if_pos (by rw [← once.length_eq]; exact taken)]
      exact once
    · -- A reading without characters names nothing.
      have empty : ((mode.inDialect .css).read indentation [] rest state).Unnamed rest := by
        intro _
        rw [Nat.eq_zero_of_not_pos taken, List.take_zero]
        decide
      have once := mode.read_agrees indentation rest state empty
      rw [if_neg taken] at unnamed ⊢
      rw [if_neg (by rw [← once.length_eq]; exact taken), ← once.state_eq]
      exact ih _ unnamed

/-- They read the same tokens of a text in which no component is named. -/
theorem tokensFrom_agrees (indentation : UInt64) (skipped : Nat) (rest : Text) (offset : Nat)
    (state : ParseState)
    (unnamed : ∀ placed ∈ (mode.inDialect .css).tokensFrom indentation skipped rest offset state,
      placed.token.kind = .atRule → ¬Pattern.isComponentRule placed.text) :
    List.Forall₂ PlacedToken.AgreesButMedia
      ((mode.inDialect .css).tokensFrom indentation skipped rest offset state)
      ((mode.inDialect .gss).tokensFrom indentation skipped rest offset state) := by
  induction rest generalizing skipped offset state with
  | nil => exact .nil
  | cons c rest ih =>
    cases skipped with
    | succ skipped => exact ih skipped offset state unnamed
    | zero =>
      simp only [tokensFrom] at unnamed ⊢
      obtain ⟨here, later⟩ := List.forall_mem_cons.mp unnamed
      have first := mode.readSome_agrees indentation (c :: rest) attempts state here
      rw [← first.length_eq, ← first.state_eq]
      exact .cons ⟨rfl, rfl, rfl, first.kind_eq, rfl, first.paints⟩ (ih _ _ _ later)

/-- They read the same tokens of a line. -/
theorem lineTokens_agrees (line : Text) (state : ParseState)
    (unnamed : ∀ placed ∈ (mode.inDialect .css).lineTokens line state,
      placed.token.kind = .atRule → ¬Pattern.isComponentRule placed.text) :
    List.Forall₂ PlacedToken.AgreesButMedia ((mode.inDialect .css).lineTokens line state)
      ((mode.inDialect .gss).lineTokens line state) :=
  mode.tokensFrom_agrees _ 0 line 0 state unnamed

/-- Behind such tokens all is the same. -/
theorem stateBehind_agrees {css gss : List PlacedToken}
    (agree : List.Forall₂ PlacedToken.AgreesButMedia css gss) (state : ParseState) :
    stateBehind css state = stateBehind gss state := by
  induction agree generalizing state with
  | nil => rfl
  | cons first _ ih => rw [stateBehind_cons, stateBehind_cons, first.state_eq, ih]

/-- The state behind lines is that behind the rest of them, from the state behind the first. -/
theorem linesEnd_cons (line : Text) (lines : List Text) (state : ParseState) :
    mode.linesEnd (line :: lines) state = mode.linesEnd lines (mode.lineEnd line state) := rfl

/-- They read the same tokens of lines, and end them in the same state. -/
theorem linesTokens_agrees (number : Nat) (lines : List Text) (state : ParseState)
    (unnamed : ∀ token ∈ (mode.inDialect .css).linesTokens number lines state,
      token.token.kind = .atRule → ¬Pattern.isComponentRule token.text) :
    (∀ count line, lines[count]? = some line →
      List.Forall₂ PlacedToken.AgreesButMedia
        ((mode.inDialect .css).lineTokens line
          ((mode.inDialect .css).linesEnd (lines.take count) state))
        ((mode.inDialect .gss).lineTokens line
          ((mode.inDialect .gss).linesEnd (lines.take count) state))) ∧
      (mode.inDialect .css).linesEnd lines state = (mode.inDialect .gss).linesEnd lines state := by
  induction lines generalizing number state with
  | nil => exact ⟨by simp, by simp only [linesEnd, List.foldl_nil]⟩
  | cons first lines ih =>
    rw [linesTokens, List.forall_mem_append, List.forall_mem_map] at unnamed
    obtain ⟨here, later⟩ := unnamed
    have agree := mode.lineTokens_agrees first state here
    have behind : (mode.inDialect .css).lineEnd first state =
        (mode.inDialect .gss).lineEnd first state := stateBehind_agrees agree state
    obtain ⟨rest, ends⟩ := ih (number + 1) ((mode.inDialect .css).lineEnd first state) later
    refine ⟨fun count line isLine => ?_, ?_⟩
    · cases count with
      | zero =>
        obtain rfl : first = line := by simpa using isLine
        exact agree
      | succ count =>
        rw [List.take_succ_cons, linesEnd_cons, linesEnd_cons, ← behind]
        exact rest count line isLine
    · rw [linesEnd_cons, linesEnd_cons, ← behind]
      exact ends

/-- Both dialects read the same lexemes of every document. If none of them is the name of an at-rule
for a component, all is the same behind each of them and at the end, and they are painted alike but
for the values of media features in conditions. -/
theorem plain_dialects_agree (document : Text) :
    let css := mode.inDialect .css
    let gss := mode.inDialect .gss
    let lines := Text.lines document
    (css.highlight document).map DocumentToken.unpainted =
        (gss.highlight document).map DocumentToken.unpainted ∧
      ((∀ token ∈ css.highlight document, token.token.kind = .atRule →
          ¬Pattern.isComponentRule token.text) →
        (∀ number line, lines[number]? = some line →
          List.Forall₂ PlacedToken.AgreesButMedia
            (css.lineTokens line (css.linesEnd (lines.take number) (css.startState 0)))
            (gss.lineTokens line (gss.linesEnd (lines.take number) (gss.startState 0)))) ∧
          css.finalState document = gss.finalState document) := by
  intro css gss lines
  have hooks : css.dialect.hooks = gss.dialect.hooks := rfl
  have opened : (css.startState 0).continuation = (gss.startState 0).continuation := rfl
  refine ⟨map_unpainted_linesTokens hooks opened 0 lines, fun unnamed => ?_⟩
  exact mode.linesTokens_agrees 0 lines (css.startState 0) unnamed

/-- A condition on the pointer names no component: the two dialects agree on its rule, but for the
paint of the value. -/
theorem plain_dialects_agree_pointer :
    let css := (ofDialect .css).inDialect .css
    let gss := (ofDialect .css).inDialect .gss
    let document := "@media (pointer: fine) { a { top: 0 } }".toList
    let lines := Text.lines document
    (∀ token ∈ css.highlight document, token.token.kind = .atRule →
        ¬Pattern.isComponentRule token.text) ∧
      (∀ number line, lines[number]? = some line →
        List.Forall₂ PlacedToken.AgreesButMedia
          (css.lineTokens line (css.linesEnd (lines.take number) (css.startState 0)))
          (gss.lineTokens line (gss.linesEnd (lines.take number) (gss.startState 0)))) ∧
      css.finalState document = gss.finalState document :=
  have unnamed := by decide
  ⟨unnamed, ((ofDialect .css).plain_dialects_agree _).2 unnamed⟩

end Mode

end Stylesheet
