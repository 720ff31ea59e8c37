import Stylesheet.Proofs.ClosingBrace

/-!
# Interpolations

An interpolation is opened in lists, in values and in parentheses. There the brace that closes it
leaves the scopes as they were. In every other scope its opening is a token without meaning, and the
words and variables behind it open and close nothing, so that the brace closes the scope around
them: the condition of an at-rule with the block that the rule stands in, a block of descriptors or
of nested properties (`Mode.Reachable.interpolation_balanced_iff`).
-/
namespace Stylesheet

open Grammar (react)

/-- What an interpolation holds: words and variables. -/
def Kind.Interpolated (kind : Kind) : Prop := kind = .word ∨ kind = .variableUse

variable {dialect : Dialect} {rule : Option DescriptorRule} {lexeme : Lexeme} {scope : Scope}

/-! ## Words and variables -/

/-- No scope opens or closes anything at a word or a variable. -/
theorem react_of_interpolated (inside : lexeme.token.kind.Interpolated) (scope : Scope) :
    ∃ answer, react dialect rule lexeme scope = .settle answer ∧
      (answer.move = .stay ∨ answer.move = .await .colon) := by
  have held : scope.holds dialect lexeme.token.kind := by
    cases scope <;> rcases inside with kind | kind <;> simp [Scope.holds, Kind.isPlain, kind]
  by_cases named : scope.names dialect lexeme
  · obtain ⟨style, awaits⟩ := Scope.react_of_names named
    exact ⟨_, awaits, .inr rfl⟩
  · obtain ⟨style, stays⟩ := Scope.react_of_holds held named
    exact ⟨_, stays, .inl rfl⟩

/-- Nor does anything that awaits one. -/
theorem awaited_of_interpolated (inside : lexeme.token.kind.Interpolated) {token : Awaiting}
    {answer : Answer} (found : Grammar.awaited rule lexeme token = some answer) :
    answer.move = .stay ∨ answer.move = .await token := by
  cases token <;> rcases inside with kind | kind <;> simp [Grammar.awaited, kind] at found
  · exact .inl (found ▸ rfl)
  · exact .inr (found.2 ▸ rfl)
  · exact .inr (found ▸ rfl)

namespace Context

/-- A word or a variable changes nothing but what is awaited. -/
theorem step_of_interpolated (dialect : Dialect) (context : Context) (layout : Layout)
    (inside : lexeme.token.kind.Interpolated) :
    ∃ awaiting, (context.step dialect layout lexeme).2 = { context with awaiting } := by
  cases awaits : context.awaitedAnswer? lexeme with
  | some answer =>
    obtain ⟨token, -, found⟩ := Option.bind_eq_some_iff.mp awaits
    rw [step_of_awaited layout awaits]
    rcases awaited_of_interpolated inside found with move | move <;> rw [move] <;> exact ⟨_, rfl⟩
  | none =>
    obtain ⟨answer, settles, moves⟩ := react_of_interpolated inside context.nesting.innermost.scope
    rw [step_of_settle layout awaits settles]
    rcases moves with move | move <;> rw [move] <;> exact ⟨_, rfl⟩

/-- Behind words and variables a brace closes what it would have closed in front of them. -/
theorem Seated.feed_interpolated {context : Context} (seated : context.Seated dialect)
    {content : List Occurrence} {closing : Occurrence}
    (inside : ∀ token ∈ content, token.kind.Interpolated) (closes : closing.kind = .braceClose) :
    context.feed dialect (content ++ [closing]) = context.behindBrace := by
  induction content generalizing context with
  | nil => exact congrArg Prod.snd (seated.step_braceClose closing.layout closes)
  | cons token content ih =>
    obtain ⟨here, later⟩ := List.forall_mem_cons.mp inside
    obtain ⟨awaiting, step⟩ := context.step_of_interpolated dialect token.layout here
    have behind := seated.step token.layout token.lexeme
    rw [step] at behind
    rw [List.cons_append, feed_cons, step, ih behind later]
    rfl

end Context

/-! ## The opening -/

/-- A list, a value or parentheses open an interpolation. -/
theorem react_interpolation_of_mem_seats (opens : lexeme.token.kind = .interpolation)
    (seat : scope ∈ dialect.seats .interpolation) :
    react dialect rule lexeme scope = .settle (lexeme.keep (.enter .interpolation)) := by
  refine Scope.react_of_opens ?_
  simp only [Dialect.seats, Scope.bodies, List.cons_append, List.nil_append, List.mem_cons,
    List.not_mem_nil, or_false] at seat
  rcases seat with rfl | rfl | rfl | rfl <;> rw [opens] <;> rfl

/-- Any other scope stays as it is. -/
theorem react_interpolation_of_not_mem_seats (opens : lexeme.token.kind = .interpolation)
    (elsewhere : scope ∉ dialect.seats .interpolation) :
    ∃ style, react dialect rule lexeme scope = .settle ⟨.stay, style⟩ := by
  have held : scope.holds dialect lexeme.token.kind := by
    rw [opens]
    cases scope with
    | body list => cases list <;> simp [Dialect.seats, Scope.bodies] at elsewhere
    | value => simp [Dialect.seats] at elsewhere
    | parens => simp [Dialect.seats] at elsewhere
    | _ => rfl
  have unnamed : ¬scope.names dialect lexeme := by
    cases scope with
    | body list => cases list <;> simp [Dialect.seats, Scope.bodies] at elsewhere
    | _ => simp [Scope.names, opens]
  exact Scope.react_of_holds held unnamed

/-- Nothing awaits the opening of an interpolation. -/
theorem awaited_of_interpolation (opens : lexeme.token.kind = .interpolation) (token : Awaiting) :
    Grammar.awaited rule lexeme token = none := by
  cases token <;> simp [Grammar.awaited, opens]

namespace Context

variable {context : Context}

/-- A brace closes an interpolation and nothing else. -/
theorem behindBrace_within_interpolation (indent : UInt64) :
    (context.within .interpolation indent).behindBrace = { context with awaiting := none } := by
  have braced : Nesting.braced (context.within .interpolation indent).nesting.opened =
      ⟨.interpolation, indent⟩ :: context.nesting.opened :=
    Nesting.braced_cons_of_isBraced rfl context.nesting.opened
  rw [behindBrace, braced]
  rfl

/-- An interpolation leaves the scopes as they were where it is opened; everywhere else its brace
closes the innermost scope that a brace has opened, with all that is open within it. -/
theorem Seated.feed_interpolation (seated : context.Seated dialect)
    {opening closing : Occurrence} {content : List Occurrence}
    (opens : opening.kind = .interpolation)
    (inside : ∀ token ∈ content, token.kind.Interpolated) (closes : closing.kind = .braceClose) :
    context.feed dialect (opening :: (content ++ [closing])) =
      if context.nesting.innermost.scope ∈ dialect.seats .interpolation then
        { context with awaiting := none }
      else context.behindBrace := by
  have notAwaited : context.awaitedAnswer? opening.lexeme = none :=
    awaitedAnswer?_of_awaited (awaited_of_interpolation opens)
  have behind := seated.step opening.layout opening.lexeme
  rw [feed_cons]
  split
  · next seat =>
    rw [step_of_settle opening.layout notAwaited (react_interpolation_of_mem_seats opens seat)]
      at behind ⊢
    rw [behind.feed_interpolated inside closes]
    exact behindBrace_within_interpolation _
  · next elsewhere =>
    obtain ⟨style, stays⟩ : ∃ style, react dialect context.rule opening.lexeme
        context.nesting.innermost.scope = .settle ⟨.stay, style⟩ :=
      react_interpolation_of_not_mem_seats opens elsewhere
    rw [step_of_settle opening.layout notAwaited stays] at behind ⊢
    rw [behind.feed_interpolated inside closes]
    rfl

end Context

namespace Mode

variable {mode : Mode} {indent : UInt64} {state : ParseState}

/-- Wherever reading comes, an interpolation leaves the open scopes as they were if and only if it
stands in a list, in a value or in parentheses. Where it does not, its brace closes a scope around
it. -/
theorem Reachable.interpolation_balanced_iff (reachable : mode.Reachable indent state)
    {opening closing : Occurrence} {content : List Occurrence}
    (opens : opening.kind = .interpolation)
    (inside : ∀ token ∈ content, token.kind.Interpolated) (closes : closing.kind = .braceClose) :
    let behind := state.context.feed mode.dialect (opening :: (content ++ [closing]))
    let scope := state.context.nesting.innermost.scope
    (behind.nesting = state.context.nesting ↔ scope ∈ Scope.bodies ++ [.value, .parens]) ∧
      (scope ∈ Scope.bodies ++ [.value, .parens] →
        behind = { state.context with awaiting := none }) ∧
      (scope ∉ Scope.bodies ++ [.value, .parens] → behind = state.context.behindBrace) := by
  intro behind scope
  have fed := reachable.seated.feed_interpolation opens inside closes
  have kept (seat : scope ∈ mode.dialect.seats .interpolation) :
      behind = { state.context with awaiting := none } := fed.trans (if_pos seat)
  have lost (elsewhere : scope ∉ mode.dialect.seats .interpolation) :
      behind = state.context.behindBrace := fed.trans (if_neg elsewhere)
  refine ⟨⟨fun balanced => ?_, fun seat => by rw [kept seat]⟩, kept, lost⟩
  by_contra elsewhere
  have closed := state.context.length_behindBrace
  rw [← lost elsewhere, balanced] at closed
  -- Only a list is innermost where no scope is open.
  have bare : state.context.nesting.opened = [] := List.eq_nil_of_length_eq_zero (by omega)
  have list : scope = .body state.context.nesting.root.body := by
    simp [scope, Nesting.innermost, bare, Root.frame]
  exact elsewhere (by rw [list]; cases state.context.nesting.root.body <;> decide)

/-- In the value of a variable. -/
def openValue : ParseState :=
  { continuation := none
    context := { nesting := ⟨[⟨.value, 2⟩], ⟨.top, 0⟩⟩, awaiting := none, rule := none } }

/-- Reading comes there. -/
theorem reachable_openValue : (ofDialect .scss).Reachable 0 openValue := by
  have bare : (ofDialect .scss).Reachable 0 _ := .start
  have name := bare.next (.ofLine 4 "$a:".toList)
  exact name.next (.ofLine 4 [':'])

/-- There an interpolation of a word and a variable leaves everything as it was. -/
theorem interpolation_balanced_openValue :
    let opening : Occurrence := ⟨⟨.bare .interpolation, ['#', '{'], []⟩, ⟨0, 2⟩⟩
    let word : Occurrence := ⟨⟨.bare .word, ['a'], []⟩, ⟨0, 2⟩⟩
    let name : Occurrence := ⟨⟨.bare .variableUse, ['$', 'b'], []⟩, ⟨0, 2⟩⟩
    let closing : Occurrence := ⟨⟨.bare .braceClose, ['}'], []⟩, ⟨0, 2⟩⟩
    (ofDialect .scss).Reachable 0 openValue ∧ opening.kind = .interpolation ∧
      (∀ token ∈ [word, name], token.kind.Interpolated) ∧ closing.kind = .braceClose ∧
      openValue.context.feed .scss (opening :: ([word, name] ++ [closing])) =
        openValue.context := by
  intro opening word name closing
  have inside : ∀ token ∈ [word, name], token.kind.Interpolated := by
    simp [word, name, Occurrence.kind, Token.bare, Kind.Interpolated]
  have opens : opening.kind = .interpolation := rfl
  have closes : closing.kind = .braceClose := rfl
  have balanced := (reachable_openValue.interpolation_balanced_iff opens inside closes).2.1
  exact ⟨reachable_openValue, opens, inside, closes, balanced (by decide)⟩

/-- In the condition of an at-rule in a block. -/
def openCondition : ParseState :=
  { continuation := none
    context :=
      { nesting := ⟨[⟨.condition, 2⟩, ⟨.body .block, 2⟩], ⟨.top, 0⟩⟩
        awaiting := none
        rule := none } }

/-- Reading comes there. -/
theorem reachable_openCondition : (ofDialect .scss).Reachable 0 openCondition := by
  have bare : (ofDialect .scss).Reachable 0 _ := .start
  have brace := bare.next (.ofLine 4 ['{'])
  exact brace.next (.ofLine 4 "@media".toList)

/-- There the brace of an interpolation closes the condition and the block around it. -/
theorem interpolation_closes_block :
    let scss := ofDialect .scss
    let opening := scss.nextToken (.ofLine 4 "#\x7b$q\x7d".toList) openCondition
    let name := scss.nextToken opening.2.1.markLexeme opening.2.2
    let closing := scss.nextToken name.2.1.markLexeme name.2.2
    scss.Reachable 0 openCondition ∧ openCondition.continuation = none ∧
      openCondition.context.nesting.innermost.scope ≠ .interpolation ∧
      opening.1.kind = .interpolation ∧ name.1.kind = .variableUse ∧
      closing.1.kind = .braceClose ∧
      closing.2.2.context.nesting ≠ openCondition.context.nesting ∧
      closing.2.2.context.nesting = ⟨[], ⟨.top, 0⟩⟩ := by
  exact ⟨reachable_openCondition, rfl, by decide, by decide, by decide, by decide, by decide,
    by decide⟩

end Mode

end Stylesheet
