import Stylesheet.Proofs.SheetGrammar

/-!
# How scopes react to the tokens of a sheet

The tokens of a phrase, by what they do within their scope: a name awaits a colon, any other token
that the scope holds changes nothing, an opening token opens a scope and a closing one leaves it.
Behind a clause, the scope that it has opened closes at a semicolon or a brace, or leaves it to the
list.
-/
namespace Stylesheet

open Grammar (react)

variable {dialect : Dialect} {rule : Option DescriptorRule} {lexeme : Lexeme} {scope : Scope}

/-! ## In lists -/

/-- Rules and declarations differ in words and in what may not stand among declarations; any other
token means the same in both lists. -/
theorem react_body {list : Body}
    (common : lexeme.token.kind ∉ [Kind.word, .vendor, .hash, .qualifier]) :
    react dialect rule lexeme (.body list) = .settle (Grammar.inRules dialect lexeme) := by
  cases list with
  | top => rfl
  | block =>
    simp only [react, Grammar.inBody, Grammar.inDeclarations]
    split <;> simp_all

/-- The colon of a pseudo-class, in a list. -/
theorem react_colon {list : Body} (isColon : lexeme.token.kind = .colon) :
    react dialect rule lexeme (.body list) = .settle (lexeme.keep (.await .pseudoClass)) := by
  rw [react_body (by simp [isColon])]
  simp only [Grammar.inRules, isColon]

/-- A list stays at a semicolon. -/
theorem react_semicolon {list : Body} (isSemicolon : lexeme.token.kind = .semicolon) :
    react dialect rule lexeme (.body list) = .settle (lexeme.keep .stay) := by
  rw [react_body (by simp [isSemicolon])]
  simp only [Grammar.inRules, isSemicolon]

/-- A list opens a block at a brace. -/
theorem react_braceOpen {list : Body} (isOpened : lexeme.token.kind = .braceOpen) :
    react dialect rule lexeme (.body list) = .settle (lexeme.keep (.enter (.body .block))) := by
  rw [react_body (by simp [isOpened])]
  simp only [Grammar.inRules, isOpened]

/-- A list is left at a brace. -/
theorem react_braceClose {list : Body} (isClosed : lexeme.token.kind = .braceClose) :
    react dialect rule lexeme (.body list) = .settle (lexeme.keep .leave) := by
  rw [react_body (by simp [isClosed])]
  simp only [Grammar.inRules, isClosed]

/-- What the name of an at-rule does in a list. -/
theorem react_atRule {list : Body} (isAtRule : lexeme.token.kind = .atRule) :
    react dialect rule lexeme (.body list) =
      .settle (lexeme.keep (Grammar.atRuleMove dialect lexeme.text)) := by
  rw [react_body (by simp [isAtRule])]
  simp only [Grammar.inRules, isAtRule]

/-! ## Within phrases -/

namespace Scope

/-- A name awaits a colon. -/
theorem react_of_names (named : scope.names dialect lexeme) :
    ∃ style, react dialect rule lexeme scope = .settle ⟨.await .colon, style⟩ := by
  cases scope with
  | body list =>
    simp only [names] at named
    split at named
    · next definition =>
      rw [react_body (by simp [definition])]
      simp [Grammar.inRules, Lexeme.keep, definition]
    · next word =>
      simp only [react, Grammar.inBody, Grammar.inDeclarations, word]
      repeat' split
      all_goals first
        | exact ⟨_, rfl⟩
        | simp_all
    · contradiction
  | propertyBlock =>
    have word : lexeme.token.kind = .word := by simpa [names] using named
    simp [react, Grammar.inPropertyBlock, word]
  | descriptors =>
    have word : lexeme.token.kind = .word := by simpa [names] using named
    simp [react, Grammar.inDescriptors, word]
  | _ => simp [names] at named

/-- In a list of rules any other token stays. -/
theorem inRules_of_holds {list : Body} (held : holds dialect lexeme.token.kind (body list))
    (unnamed : lexeme.token.kind ≠ .variableDefinition) :
    ∃ style, Grammar.inRules dialect lexeme = ⟨.stay, style⟩ := by
  unfold Grammar.inRules
  split
  case h_9 paren =>
    have flat : dialect.allowsNesting = false := by simpa [holds, Kind.isPlain, paren] using held
    simp [Lexeme.keep, flat]
  all_goals first
    | exact ⟨_, rfl⟩
    | simp_all [holds, Kind.isPlain]

/-- Any other token that a scope holds leaves it as it is. -/
theorem react_of_holds (held : scope.holds dialect lexeme.token.kind)
    (unnamed : ¬scope.names dialect lexeme) :
    ∃ style, react dialect rule lexeme scope = .settle ⟨.stay, style⟩ := by
  cases scope with
  | body list =>
    have noDefinition : lexeme.token.kind ≠ .variableDefinition := by
      intro definition
      simp [names, definition] at unnamed
    have rules := inRules_of_holds held noDefinition
    cases list with
    | top => simpa [react, Grammar.inBody] using rules
    | block =>
      simp only [react, Grammar.inBody, Grammar.inDeclarations, Reaction.settle.injEq]
      split
      case h_1 word => simp_all [names]
      all_goals first
        | exact ⟨_, rfl⟩
        | exact rules
        | (split; exact rules; exact ⟨_, rfl⟩)
  | _ =>
    simp only [react, Grammar.inPropertyBlock, Grammar.inValue, Grammar.inParens,
      Grammar.inDocumentTypes, Grammar.inCondition, Grammar.inConditionParens, Grammar.inComponent,
      Grammar.inDescriptors, Grammar.inAtRule, Grammar.inInterpolation]
    repeat' split
    all_goals first
      | exact ⟨_, rfl⟩
      | simp_all [holds, names, Kind.isPlain]

/-- A token that opens a scope. -/
theorem react_of_opens {inner : Scope}
    (isOpened : scope.opens dialect lexeme.token.kind = some inner) :
    react dialect rule lexeme scope = .settle (lexeme.keep (.enter inner)) := by
  unfold opens at isOpened
  split at isOpened
  case h_1 list paren =>
    have nests : dialect.allowsNesting = true ∧ parens = inner := by simpa using isOpened
    rw [react_body (by simp [paren])]
    simp [Grammar.inRules, paren, nests]
  case h_2 list interpolation =>
    rw [react_body (by simp [interpolation])]
    simp_all [Grammar.inRules]
  case h_3 brace =>
    have nests : dialect.allowsNesting = true ∧ propertyBlock = inner := by simpa using isOpened
    simp [react, Grammar.inValue, brace, nests]
  all_goals
    simp_all [react, Grammar.inValue, Grammar.inParens, Grammar.inDocumentTypes,
      Grammar.inCondition, Grammar.inConditionParens]

/-- What is opened within another scope is left at a token that closes it. -/
theorem react_of_closers {inner : Scope} {opener : Kind}
    (isOpened : scope.opens dialect opener = some inner)
    (isClosed : lexeme.token.kind ∈ inner.closers) :
    react dialect rule lexeme inner = .settle (lexeme.keep .leave) ∧ inner ≠ .descriptors := by
  have groups : inner = .parens ∨ inner = .propertyBlock ∨ inner = .interpolation ∨
      inner = .conditionParens := by
    unfold opens at isOpened
    split at isOpened <;> simp_all
  rcases groups with rfl | rfl | rfl | rfl <;> simp only [closers, List.mem_singleton] at isClosed
  all_goals
    simp [react, Grammar.inParens, Grammar.inPropertyBlock, Grammar.inInterpolation,
      Grammar.inConditionParens, isClosed]

/-- Neither a colon nor a word closes anything. -/
theorem kind_ne_of_mem_closers {kind : Kind} (closes : kind ∈ scope.closers) :
    kind ≠ .colon ∧ kind ≠ .word := by
  constructor <;> rintro rfl <;> cases scope <;> simp [closers] at closes

end Scope

/-- A semicolon ends a value. -/
theorem react_value_semicolon (isSemicolon : lexeme.token.kind = .semicolon) :
    react dialect rule lexeme .value = .settle (lexeme.keep .leave) := by
  simp [react, Grammar.inValue, isSemicolon]

/-! ## Behind clauses -/

/-- The scopes that a clause opens. -/
def Scope.clauses : List Scope := [.value, .documentTypes, .condition, .component, .atRule]

/-- Every header of an at-rule is opened by a clause. -/
theorem mem_clauses_of_atRuleMove {name : Text}
    (enters : Grammar.atRuleMove dialect name = .enter scope) : scope ∈ Scope.clauses := by
  unfold Grammar.atRuleMove at enters
  repeat' split at enters
  all_goals
    cases enters <;> decide

/-- Every scope that a clause opens ends at a semicolon, or leaves it to the list, but for one. -/
theorem react_semicolon_of_clauses (opens : scope ∈ Scope.clauses)
    (ends : .semicolon ∈ scope.closers) (isSemicolon : lexeme.token.kind = .semicolon) :
    react dialect rule lexeme scope = .settle (lexeme.keep .leave) ∨
      react dialect rule lexeme scope = .yield 0 := by
  simp only [Scope.clauses, List.mem_cons, List.not_mem_nil, or_false] at opens
  rcases opens with rfl | rfl | rfl | rfl | rfl
  case inr.inr.inr.inl => simp [Scope.closers] at ends
  all_goals
    simp [react, Grammar.inValue, Grammar.inDocumentTypes, Grammar.inCondition, Grammar.inAtRule,
      isSemicolon]

/-- Every scope that a clause opens leaves a closing brace to the list. -/
theorem react_braceClose_of_clauses (opens : scope ∈ Scope.clauses)
    (isClosed : lexeme.token.kind = .braceClose) :
    react dialect rule lexeme scope = .yield 0 := by
  simp only [Scope.clauses, List.mem_cons, List.not_mem_nil, or_false] at opens
  rcases opens with rfl | rfl | rfl | rfl | rfl <;>
    simp [react, Grammar.inValue, Grammar.inDocumentTypes, Grammar.inCondition,
      Grammar.inComponent, Grammar.inAtRule, isClosed]

/-- Every scope that a clause opens leaves an opening brace to the list, or is replaced by the
list between the braces. -/
theorem react_braceOpen_of_clauses {inner : Body} (opens : scope ∈ Scope.clauses)
    (holds : dialect.blockBody? scope = some inner) (isOpened : lexeme.token.kind = .braceOpen) :
    (react dialect rule lexeme scope = .yield 0 ∧ inner = .block) ∨
      ∃ placing, react dialect rule lexeme scope =
        .settle (lexeme.keep (.replace (.body inner) placing)) := by
  simp only [Scope.clauses, List.mem_cons, List.not_mem_nil, or_false] at opens
  rcases opens with rfl | rfl | rfl | rfl | rfl <;> simp [Dialect.blockBody?] at holds
  · left
    simp [react, Grammar.inValue, isOpened, holds]
  · exact .inr ⟨.deeper, by
      simp [react, Grammar.inDocumentTypes, Grammar.inCondition, isOpened, holds]⟩
  · exact .inr ⟨.deeper, by simp [react, Grammar.inCondition, isOpened, holds]⟩
  · exact .inr ⟨.level, by simp [react, Grammar.inComponent, isOpened, holds]⟩
  · left
    simp [react, Grammar.inAtRule, isOpened, holds]

end Stylesheet
