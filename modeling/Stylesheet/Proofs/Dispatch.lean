import Stylesheet.Proofs.Seating

/-!
# Handing a lexeme from state to state

`Context` cannot hold a state that contradicts its scopes: the state is read off the awaited token
and the innermost scope, and the root is a list by its type. A `Dispatcher` can. It keeps a state of
its own beside a stack of levels, each of which may stand for any state at all, closes levels with
a `pop` that does nothing at the root, and lets one handler for each state answer a lexeme or pass
it on. `Dispatches` relates a lexeme to the calls of handlers that it takes. Nothing in these
definitions says that handing on ends, and over the wrong root it does not
(`not_dispatches_value_root`).
-/
namespace Stylesheet

/-- An open level: the state in which its content is read, and the column of its content. -/
structure Level where
  /-- The state in which its content is read. -/
  kind : State
  /-- The column of its content. -/
  indent : UInt64
  deriving DecidableEq, Repr

/-- The state of a grammar beside its open levels. Nothing ties one to the other. -/
structure Dispatcher where
  /-- The state in which the next lexeme is read. -/
  state : State
  /-- The rule against which descriptors are checked. -/
  rule : Option DescriptorRule
  /-- The levels above the root, innermost first. -/
  opened : List Level
  /-- The level that is never closed. -/
  root : Level
  deriving DecidableEq, Repr

/-- What a handler makes of a lexeme. -/
inductive Verdict where
  /-- The lexeme is painted, and this is how to go on. -/
  | done (style : Style) (next : Dispatcher)
  /-- So many levels are closed, and the state of the innermost level that is left is asked. -/
  | pass (closed : Nat)
  deriving DecidableEq, Repr

namespace Dispatcher

/-- All levels, from the innermost to the root. -/
def levels (dispatcher : Dispatcher) : List Level := dispatcher.opened ++ [dispatcher.root]

/-- The innermost level. -/
def innermost (dispatcher : Dispatcher) : Level := dispatcher.opened.headD dispatcher.root

/-- The number of levels, root included. -/
def depth (dispatcher : Dispatcher) : Nat := dispatcher.levels.length

/-- Go on in a state. -/
def goto (state : State) (dispatcher : Dispatcher) : Dispatcher := { dispatcher with state }

/-- Go on in the state of the innermost level. -/
def stay (dispatcher : Dispatcher) : Dispatcher := dispatcher.goto dispatcher.innermost.kind

/-- Open a level and go on in its state. -/
def push (kind : State) (indent : UInt64) (dispatcher : Dispatcher) : Dispatcher :=
  { dispatcher with state := kind, opened := ⟨kind, indent⟩ :: dispatcher.opened }

/-- Close the innermost level, if it is not the root, and go on in the state of the one around
it. -/
def pop (dispatcher : Dispatcher) : Dispatcher :=
  stay { dispatcher with opened := dispatcher.opened.tail }

/-- Close some levels, but never the root. -/
def close : Nat → Dispatcher → Dispatcher
  | 0, dispatcher => dispatcher
  | levels + 1, dispatcher => close levels dispatcher.pop

/-! ## Handlers -/

section Handlers

variable (dialect : Dialect) (layout : Layout) (lexeme : Lexeme) (dispatcher : Dispatcher)

/-- Go on so, with the style that the scanner proposed. -/
def keep (next : Dispatcher) : Verdict := .done lexeme.token.style next

/-- Open a scope one unit deeper than the line. -/
def enter (scope : Scope) : Dispatcher :=
  dispatcher.push (.within scope) (layout.indentation + layout.unit)

/-- The name of an at-rule. -/
def onAtRule : Verdict :=
  keep lexeme <|
    if dialect.allowsComponents && Pattern.isComponentRule lexeme.text then
      dispatcher.enter layout .component
    else if Pattern.isDocumentRule lexeme.text then dispatcher.enter layout .documentTypes
    else if Pattern.isConditionalRule lexeme.text then dispatcher.enter layout .condition
    else match DescriptorRule.ofName? lexeme.text with
      | some rule => goto (.awaiting .descriptorBlock) { dispatcher with rule := some rule }
      | none =>
        if Pattern.isKeyframesRule lexeme.text then dispatcher.goto (.awaiting .keyframesBlock)
        else dispatcher.enter layout .atRule

/-- In a list of rules. -/
def onTop : Verdict :=
  match lexeme.token.kind with
  | .braceOpen => keep lexeme (dispatcher.enter layout (.body .block))
  | .braceClose =>
    if dispatcher.opened.isEmpty then keep lexeme dispatcher.stay else keep lexeme dispatcher.pop
  | .atRule => onAtRule dialect layout lexeme dispatcher
  | .hash => .done Category.builtin dispatcher.stay
  | .word => .done Category.tag dispatcher.stay
  | .variableDefinition => keep lexeme (dispatcher.goto (.awaiting .colon))
  | .interpolation => keep lexeme (dispatcher.enter layout .interpolation)
  | .colon => keep lexeme (dispatcher.goto (.awaiting .pseudoClass))
  | .parenOpen =>
    if dialect.allowsNesting then keep lexeme (dispatcher.enter layout .parens)
    else keep lexeme dispatcher.stay
  | _ => keep lexeme dispatcher.stay

/-- In a list of declarations. -/
def onBlock : Verdict :=
  match lexeme.token.kind with
  | .word =>
    if dialect.vocabulary.properties.contains lexeme.word then
      .done Category.property (dispatcher.goto (.awaiting .colon))
    else if dialect.vocabulary.legacyProperties.contains lexeme.word then
      .done Category.string2 (dispatcher.goto (.awaiting .colon))
    else if dialect.allowsNesting then
      .done (if Pattern.propertyColon lexeme.rest then Category.property else Category.tag)
        (dispatcher.goto (.within (.body .block)))
    else .done lexeme.token.style.flagged (dispatcher.goto (.awaiting .colon))
  | .vendor => keep lexeme (dispatcher.goto (.within (.body .block)))
  | .hash =>
    if dialect.allowsNesting then onTop dialect layout lexeme dispatcher
    else .done .error (dispatcher.goto (.within (.body .block)))
  | .qualifier =>
    if dialect.allowsNesting then onTop dialect layout lexeme dispatcher
    else .done .error (dispatcher.goto (.within (.body .block)))
  | _ => onTop dialect layout lexeme dispatcher

/-- Behind a property name. -/
def onColonAwaited : Verdict :=
  if lexeme.token.kind = .colon then keep lexeme (dispatcher.enter layout .value) else .pass 0

/-- In the value of a declaration. -/
def onValue : Verdict :=
  match lexeme.token.kind with
  | .semicolon => keep lexeme dispatcher.pop
  | .braceOpen =>
    if dialect.allowsNesting then keep lexeme (dispatcher.enter layout .propertyBlock) else .pass 1
  | .braceClose => .pass 1
  | .parenOpen => keep lexeme (dispatcher.enter layout .parens)
  | .hash =>
    if Pattern.isHexColor lexeme.text then keep lexeme (dispatcher.goto (.within .value))
    else .done lexeme.token.style.flagged (dispatcher.goto (.within .value))
  | .word => .done (dialect.valueCategory lexeme.word) (dispatcher.goto (.within .value))
  | .interpolation => keep lexeme (dispatcher.enter layout .interpolation)
  | _ => keep lexeme (dispatcher.goto (.within .value))

/-- In a block of nested properties. -/
def onPropertyBlock : Verdict :=
  match lexeme.token.kind with
  | .braceClose => keep lexeme dispatcher.pop
  | .word => .done Category.property (dispatcher.goto (.awaiting .colon))
  | _ => keep lexeme dispatcher.stay

/-- In parentheses. -/
def onParens : Verdict :=
  match lexeme.token.kind with
  | .braceOpen => .pass 1
  | .braceClose => .pass 1
  | .parenClose => keep lexeme dispatcher.pop
  | .parenOpen => keep lexeme (dispatcher.enter layout .parens)
  | .interpolation => keep lexeme (dispatcher.enter layout .interpolation)
  | .word => .done (dialect.valueCategory lexeme.word) (dispatcher.goto (.within .parens))
  | _ => keep lexeme (dispatcher.goto (.within .parens))

/-- Behind the colon of a pseudo-class. -/
def onPseudoClass : Verdict :=
  if lexeme.token.kind = .word then .done Category.variable3 dispatcher.stay else .pass 0

/-- In the condition of an at-rule. -/
def onCondition : Verdict :=
  match lexeme.token.kind with
  | .parenOpen => keep lexeme (dispatcher.enter layout .conditionParens)
  | .braceClose => .pass 1
  | .semicolon => .pass 1
  | .braceOpen => keep lexeme (dispatcher.pop.enter layout (.body dialect.nestedBody))
  | .word => .done (dialect.conditionStyle lexeme.word) dispatcher.stay
  | _ => keep lexeme dispatcher.stay

/-- In the header of a rule that chooses documents. -/
def onDocumentTypes : Verdict :=
  if lexeme.token.kind = .word ∧
      dialect.vocabulary.documentTypes.contains (String.ofList lexeme.text) then
    .done Category.tag dispatcher.stay
  else onCondition dialect layout lexeme dispatcher

/-- In the header of a component. -/
def onComponent : Verdict :=
  match lexeme.token.kind with
  | .braceClose => .pass 1
  | .braceOpen =>
    keep lexeme (dispatcher.pop.push (.within (.body dialect.nestedBody)) layout.indentation)
  | .word => .done .error dispatcher.stay
  | _ => keep lexeme dispatcher.stay

/-- In the parentheses of a condition. -/
def onConditionParens : Verdict :=
  match lexeme.token.kind with
  | .parenClose => keep lexeme dispatcher.pop
  | .braceOpen => .pass 2
  | .braceClose => .pass 2
  | _ => onCondition dialect layout lexeme dispatcher

/-- Between the name of a rule with descriptors and its block. -/
def onDescriptorBlockAwaited : Verdict :=
  match lexeme.token.kind with
  | .braceOpen => keep lexeme (dispatcher.enter layout .descriptors)
  | .word =>
    if dispatcher.rule = some .counterStyle then
      .done Category.variable1 (dispatcher.goto (.awaiting .descriptorBlock))
    else .pass 0
  | _ => .pass 0

/-- In a block that admits certain descriptors only. -/
def onDescriptors : Verdict :=
  match lexeme.token.kind with
  | .braceClose => keep lexeme (pop { dispatcher with rule := none })
  | .word =>
    .done (if dialect.admits dispatcher.rule lexeme.word then Category.property else .error)
      (dispatcher.goto (.awaiting .colon))
  | _ => keep lexeme (dispatcher.goto (.within .descriptors))

/-- Between the name of an animation and its block. -/
def onKeyframes : Verdict :=
  match lexeme.token.kind with
  | .word => .done Category.variable1 (dispatcher.goto (.awaiting .keyframesBlock))
  | .braceOpen => keep lexeme (dispatcher.enter layout (.body .top))
  | _ => .pass 0

/-- In the header of any other at-rule. -/
def onAtRuleHeader : Verdict :=
  match lexeme.token.kind with
  | .semicolon => keep lexeme dispatcher.pop
  | .braceOpen => .pass 1
  | .braceClose => .pass 1
  | .word => .done Category.tag (dispatcher.goto (.within .atRule))
  | .hash => .done Category.builtin (dispatcher.goto (.within .atRule))
  | _ => keep lexeme (dispatcher.goto (.within .atRule))

/-- In an interpolation. -/
def onInterpolation : Verdict :=
  match lexeme.token.kind with
  | .braceClose => keep lexeme dispatcher.pop
  | .braceOpen => .pass 1
  | .semicolon => .pass 1
  | .word => .done Category.variable1 (dispatcher.goto (.within .interpolation))
  | .variableUse => keep lexeme (dispatcher.goto (.within .interpolation))
  | .parenOpen => keep lexeme (dispatcher.goto (.within .interpolation))
  | .parenClose => keep lexeme (dispatcher.goto (.within .interpolation))
  | _ => .done .error (dispatcher.goto (.within .interpolation))

/-- The handler of a state. -/
def handle : State → Verdict
  | .within (.body .top) => onTop dialect layout lexeme dispatcher
  | .within (.body .block) => onBlock dialect layout lexeme dispatcher
  | .awaiting .colon => onColonAwaited layout lexeme dispatcher
  | .within .value => onValue dialect layout lexeme dispatcher
  | .within .propertyBlock => onPropertyBlock lexeme dispatcher
  | .within .parens => onParens dialect layout lexeme dispatcher
  | .awaiting .pseudoClass => onPseudoClass lexeme dispatcher
  | .within .documentTypes => onDocumentTypes dialect layout lexeme dispatcher
  | .within .condition => onCondition dialect layout lexeme dispatcher
  | .within .component => onComponent dialect layout lexeme dispatcher
  | .within .conditionParens => onConditionParens dialect layout lexeme dispatcher
  | .awaiting .descriptorBlock => onDescriptorBlockAwaited layout lexeme dispatcher
  | .within .descriptors => onDescriptors dialect lexeme dispatcher
  | .awaiting .keyframesBlock => onKeyframes layout lexeme dispatcher
  | .within .atRule => onAtRuleHeader lexeme dispatcher
  | .within .interpolation => onInterpolation lexeme dispatcher

end Handlers

/-! ## Dispatch -/

/-- One call of a handler: the state that is asked, and how many levels are open then. -/
structure Call where
  /-- The state that is asked. -/
  asked : State
  /-- How many levels are open. -/
  depth : Nat
  deriving DecidableEq, Repr

/-- The call with which a dispatch starts. -/
def call (dispatcher : Dispatcher) : Call := ⟨dispatcher.state, dispatcher.depth⟩

/-- Asking a state about a lexeme leads, by these calls one after the other, to a style and a next
dispatcher. There is no such derivation where handing on never ends. -/
inductive Dispatches (dialect : Dialect) (layout : Layout) (lexeme : Lexeme) :
    State → Dispatcher → List Call → Style → Dispatcher → Prop
  /-- The handler of the state answers. -/
  | done {asked : State} {dispatcher : Dispatcher} {style : Style} {next : Dispatcher}
    (answers : handle dialect layout lexeme dispatcher asked = .done style next) :
    Dispatches dialect layout lexeme asked dispatcher [⟨asked, dispatcher.depth⟩] style next
  /-- The handler of the state passes, and the innermost level that is left is asked. -/
  | pass {asked : State} {dispatcher : Dispatcher} {closed : Nat} {calls : List Call}
    {style : Style} {next : Dispatcher}
    (passes : handle dialect layout lexeme dispatcher asked = .pass closed)
    (rest : Dispatches dialect layout lexeme (dispatcher.close closed).innermost.kind
      (dispatcher.close closed) calls style next) :
    Dispatches dialect layout lexeme asked dispatcher (⟨asked, dispatcher.depth⟩ :: calls) style
      next

/-- The first call is the one that was asked for. -/
theorem Dispatches.calls_eq_cons {dialect : Dialect} {layout : Layout} {lexeme : Lexeme}
    {asked : State} {dispatcher next : Dispatcher} {calls : List Call} {style : Style}
    (dispatches : Dispatches dialect layout lexeme asked dispatcher calls style next) :
    ∃ later, calls = ⟨asked, dispatcher.depth⟩ :: later := by
  cases dispatches with
  | done answers => exact ⟨[], rfl⟩
  | pass passes rest => exact ⟨_, rfl⟩

/-- A dispatcher leaves no choice. -/
theorem Dispatches.unique {dialect : Dialect} {layout : Layout} {lexeme : Lexeme}
    {asked : State} {dispatcher next next' : Dispatcher} {calls calls' : List Call}
    {style style' : Style}
    (dispatches : Dispatches dialect layout lexeme asked dispatcher calls style next)
    (dispatches' : Dispatches dialect layout lexeme asked dispatcher calls' style' next') :
    calls = calls' ∧ style = style' ∧ next = next' := by
  induction dispatches generalizing calls' style' next' with
  | done answers =>
    cases dispatches' with
    | done answers' =>
      obtain ⟨rfl, rfl⟩ : _ ∧ _ := by simpa [answers] using answers'
      exact ⟨rfl, rfl, rfl⟩
    | pass passes' rest' => simp [answers] at passes'
  | pass passes rest ih =>
    cases dispatches' with
    | done answers' => simp [passes] at answers'
    | pass passes' rest' =>
      obtain rfl : _ = _ := by simpa [passes] using passes'
      obtain ⟨rfl, rfl, rfl⟩ := ih rest'
      exact ⟨rfl, rfl, rfl⟩

/-- Over a value as its root, a dispatcher hands a closing brace on for ever. -/
theorem not_dispatches_value_root {dialect : Dialect} {layout : Layout} {lexeme : Lexeme}
    {dispatcher next : Dispatcher} {calls : List Call} {style : Style}
    (root : dispatcher.root.kind = .within .value) (bare : dispatcher.opened = [])
    (brace : lexeme.token.kind = .braceClose) :
    ¬ Dispatches dialect layout lexeme (.within .value) dispatcher calls style next := by
  intro dispatches
  have passes (dispatcher : Dispatcher) :
      handle dialect layout lexeme dispatcher (.within .value) = .pass 1 := by
    simp only [handle, onValue, brace]
  generalize value : State.within .value = asked at dispatches
  induction dispatches with
  | done answers =>
    subst value
    simp [passes] at answers
  | @pass asked dispatcher closed calls style next passed rest ih =>
    subst value
    obtain rfl : 1 = closed := by simpa [passes] using passed
    have same : (dispatcher.close 1).innermost = dispatcher.root := by
      simp [close, pop, stay, goto, innermost, bare]
    apply ih
    · simpa [close, pop, stay, goto] using root
    · simp [close, pop, stay, goto, bare]
    · rw [same, root]

end Dispatcher

end Stylesheet
