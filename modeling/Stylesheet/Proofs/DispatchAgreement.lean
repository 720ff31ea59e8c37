import Stylesheet.Proofs.Dispatch

/-!
# The dispatcher agrees with the grammar

A context is shown as a dispatcher whose state is that of the context and whose levels are its
frames. Each handler then says what the innermost scope, or the awaited token, makes of a lexeme,
and so dispatching a lexeme from the dispatcher of a context ends at the dispatcher of the context
behind it, by few calls (`Context.dispatches_step`). A dispatcher that starts like a text and reads
on only ever shows the contexts that reading comes to (`Mode.dispatched_iff`), so dispatching ends
wherever it comes.
-/
namespace Stylesheet

/-- A frame as a level. -/
def Frame.level (frame : Frame) : Level := ⟨.within frame.scope, frame.indent⟩

/-- A context as a dispatcher shows it. -/
def Context.dispatcher (context : Context) : Dispatcher :=
  { state := context.state
    rule := context.rule
    opened := context.nesting.opened.map Frame.level
    root := context.nesting.root.frame.level }

namespace Context

open Dispatcher (handle)

variable {dialect : Dialect} {layout : Layout} {lexeme : Lexeme} (context : Context)

/-- The levels of a context are its frames. -/
theorem dispatcher_levels : context.dispatcher.levels = context.nesting.frames.map Frame.level := by
  simp [dispatcher, Dispatcher.levels, Nesting.frames]

/-- The innermost level of a context is its innermost frame. -/
@[simp] theorem dispatcher_innermost :
    context.dispatcher.innermost = context.nesting.innermost.level := by
  obtain ⟨⟨opened, root⟩, awaiting, rule⟩ := context
  cases opened <;> rfl

/-- The depth of a context is that of its nesting. -/
theorem dispatcher_depth : context.dispatcher.depth = context.nesting.opened.length + 1 := by
  simp [dispatcher, Dispatcher.depth, Dispatcher.levels]

/-! ### Moves of a context are moves of its dispatcher -/

variable (layout)

/-- Going on in the state of the innermost level is to stay. -/
theorem dispatcher_stay :
    context.dispatcher.stay = (context.apply layout .stay).dispatcher := by
  rw [Dispatcher.stay, dispatcher_innermost]
  rfl

/-- Going on in the state of the innermost scope is to stay. -/
theorem dispatcher_goto_within {scope : Scope} (here : context.nesting.innermost.scope = scope) :
    context.dispatcher.goto (.within scope) = (context.apply layout .stay).dispatcher := by
  rw [← here]
  rfl

/-- Closing the innermost level leaves what the scope around it reads. -/
theorem dispatcher_pop (rule : Option DescriptorRule) :
    Dispatcher.pop { context.dispatcher with rule } =
      dispatcher { nesting := context.nesting.pop, awaiting := none, rule } := by
  obtain ⟨⟨opened, root⟩, awaiting, rule'⟩ := context
  match opened with
  | [] => rfl
  | [_] => rfl
  | _ :: _ :: _ => rfl

/-- Closing the innermost level is to leave a scope, unless it is a block of descriptors. -/
theorem dispatcher_leave (other : context.nesting.innermost.scope ≠ .descriptors) :
    context.dispatcher.pop = (context.apply layout .leave).dispatcher := by
  have popped := context.dispatcher_pop context.rule
  simp only [apply, if_neg other]
  exact popped

/-- Leaving a block of descriptors ends their checking. -/
theorem dispatcher_leave_descriptors (here : context.nesting.innermost.scope = .descriptors) :
    Dispatcher.pop { context.dispatcher with rule := none } =
      (context.apply layout .leave).dispatcher := by
  have popped := context.dispatcher_pop none
  simp only [apply, if_pos here]
  exact popped

/-- Closing a level and opening another is to replace a scope. -/
theorem dispatcher_replace_deeper (scope : Scope) :
    context.dispatcher.pop.enter layout scope =
      (context.apply layout (.replace scope .deeper)).dispatcher := by
  have popped : context.dispatcher.pop = _ := context.dispatcher_pop context.rule
  rw [popped]
  rfl

/-- Closing a level and opening another level with the line is to replace a scope. -/
theorem dispatcher_replace_level (scope : Scope) :
    context.dispatcher.pop.push (.within scope) layout.indentation =
      (context.apply layout (.replace scope .level)).dispatcher := by
  have popped : context.dispatcher.pop = _ := context.dispatcher_pop context.rule
  rw [popped]
  rfl

/-- Closing levels closes scopes, and nothing is awaited any more. -/
theorem dispatcher_close (levels : Nat) :
    context.dispatcher.close (levels + 1) =
      dispatcher
        { context with
          nesting := { context.nesting with opened := context.nesting.opened.drop (levels + 1) }
          awaiting := none } := by
  have popped : context.dispatcher.pop = _ := context.dispatcher_pop context.rule
  induction levels generalizing context with
  | zero =>
    rw [Dispatcher.close, Dispatcher.close, List.drop_one]
    exact popped
  | succ levels ih =>
    rw [Dispatcher.close, popped, ih _ (dispatcher_pop _ _)]
    simp only [Nesting.pop, List.drop_tail]

/-! ### Handlers of a context react like its scopes -/

/-- What a handler has to say where the innermost scope reacts so. -/
def verdict : Reaction → Verdict
  | .settle answer => .done answer.style (context.apply layout answer.move).dispatcher
  | .yield others => .pass (others + 1)

variable (dialect lexeme)

/-- The name of an at-rule, read in any scope. -/
theorem onAtRule_eq :
    Dispatcher.onAtRule dialect layout lexeme context.dispatcher =
      context.verdict layout (.settle (lexeme.keep (Grammar.atRuleMove dialect lexeme.text))) := by
  unfold Dispatcher.onAtRule Grammar.atRuleMove
  cases DescriptorRule.ofName? lexeme.text with
  | none =>
    dsimp only
    repeat' split
    all_goals rfl
  | some rule =>
    dsimp only
    repeat' split
    all_goals rfl

/-- At the root there is nothing to leave. -/
theorem stay_of_root (bare : context.nesting.opened = [])
    (other : context.nesting.innermost.scope ≠ .descriptors) :
    context.apply layout .stay = context.apply layout .leave := by
  simp only [apply, Nesting.pop, bare, List.tail_nil, if_neg other]
  rw [← bare]

/-- The handler of a list of rules, also where it is asked for a list of declarations. -/
theorem onTop_eq {list : Body} (here : context.nesting.innermost.scope = .body list) :
    Dispatcher.onTop dialect layout lexeme context.dispatcher =
      context.verdict layout (.settle (Grammar.inRules dialect lexeme)) := by
  have other : context.nesting.innermost.scope ≠ .descriptors := by simp [here]
  have stay := context.dispatcher_stay layout
  have leave := context.dispatcher_leave layout other
  unfold Dispatcher.onTop Grammar.inRules
  simp only [stay, leave]
  cases lexeme.token.kind
  case braceClose =>
    change (if context.dispatcher.opened.isEmpty then _ else _) = _
    split
    · next bare =>
      have root : context.nesting.opened = [] := by simpa [dispatcher] using bare
      rw [context.stay_of_root layout root other]
      rfl
    · rfl
  case atRule => exact context.onAtRule_eq dialect layout lexeme
  case parenOpen =>
    change (if dialect.allowsNesting then _ else _) = context.verdict layout (.settle _)
    split <;> rfl
  all_goals rfl

/-- The handler of a list of declarations. -/
theorem onBlock_eq (here : context.nesting.innermost.scope = .body .block) :
    Dispatcher.onBlock dialect layout lexeme context.dispatcher =
      context.verdict layout (.settle (Grammar.inDeclarations dialect lexeme)) := by
  have stay := context.dispatcher_goto_within layout here
  have rules := context.onTop_eq dialect layout lexeme here
  unfold Dispatcher.onBlock Grammar.inDeclarations
  rw [stay, rules]
  cases lexeme.token.kind
  case word =>
    dsimp only
    repeat' split
    all_goals rfl
  case hash => cases dialect.allowsNesting <;> rfl
  case qualifier => cases dialect.allowsNesting <;> rfl
  all_goals rfl

/-- The handler of a value. -/
theorem onValue_eq (here : context.nesting.innermost.scope = .value) :
    Dispatcher.onValue dialect layout lexeme context.dispatcher =
      context.verdict layout (Grammar.inValue dialect lexeme) := by
  have stay := context.dispatcher_goto_within layout here
  have leave := context.dispatcher_leave layout (by simp [here])
  unfold Dispatcher.onValue Grammar.inValue
  rw [stay, leave]
  cases lexeme.token.kind
  case braceOpen => cases dialect.allowsNesting <;> rfl
  case hash => cases Pattern.isHexColor lexeme.text <;> rfl
  all_goals rfl

/-- The handler of a block of nested properties. -/
theorem onPropertyBlock_eq (here : context.nesting.innermost.scope = .propertyBlock) :
    Dispatcher.onPropertyBlock lexeme context.dispatcher =
      context.verdict layout (Grammar.inPropertyBlock lexeme) := by
  have stay := context.dispatcher_stay layout
  have leave := context.dispatcher_leave layout (by simp [here])
  unfold Dispatcher.onPropertyBlock Grammar.inPropertyBlock
  rw [stay, leave]
  cases lexeme.token.kind <;> rfl

/-- The handler of parentheses. -/
theorem onParens_eq (here : context.nesting.innermost.scope = .parens) :
    Dispatcher.onParens dialect layout lexeme context.dispatcher =
      context.verdict layout (Grammar.inParens dialect lexeme) := by
  have stay := context.dispatcher_goto_within layout here
  have leave := context.dispatcher_leave layout (by simp [here])
  unfold Dispatcher.onParens Grammar.inParens
  rw [stay, leave]
  cases lexeme.token.kind <;> rfl

/-- The handler of the condition of an at-rule, also where others ask it. -/
theorem onCondition_eq :
    Dispatcher.onCondition dialect layout lexeme context.dispatcher =
      context.verdict layout (Grammar.inCondition dialect lexeme) := by
  have stay := context.dispatcher_stay layout
  have replace := context.dispatcher_replace_deeper layout (.body dialect.nestedBody)
  unfold Dispatcher.onCondition Grammar.inCondition
  rw [stay, replace]
  cases lexeme.token.kind <;> rfl

/-- The handler of the header of a rule that chooses documents. -/
theorem onDocumentTypes_eq :
    Dispatcher.onDocumentTypes dialect layout lexeme context.dispatcher =
      context.verdict layout (Grammar.inDocumentTypes dialect lexeme) := by
  have stay := context.dispatcher_stay layout
  unfold Dispatcher.onDocumentTypes Grammar.inDocumentTypes
  rw [stay, onCondition_eq]
  split <;> rfl

/-- The handler of the header of a component. -/
theorem onComponent_eq :
    Dispatcher.onComponent dialect layout lexeme context.dispatcher =
      context.verdict layout (Grammar.inComponent dialect lexeme) := by
  have stay := context.dispatcher_stay layout
  have replace := context.dispatcher_replace_level layout (.body dialect.nestedBody)
  unfold Dispatcher.onComponent Grammar.inComponent
  rw [stay, replace]
  cases lexeme.token.kind <;> rfl

/-- The handler of the parentheses of a condition. -/
theorem onConditionParens_eq (here : context.nesting.innermost.scope = .conditionParens) :
    Dispatcher.onConditionParens dialect layout lexeme context.dispatcher =
      context.verdict layout (Grammar.inConditionParens dialect lexeme) := by
  have leave := context.dispatcher_leave layout (by simp [here])
  unfold Dispatcher.onConditionParens Grammar.inConditionParens
  rw [leave, onCondition_eq]
  cases lexeme.token.kind <;> rfl

/-- The handler of a block that admits certain descriptors only. -/
theorem onDescriptors_eq (here : context.nesting.innermost.scope = .descriptors) :
    Dispatcher.onDescriptors dialect lexeme context.dispatcher =
      context.verdict layout (Grammar.inDescriptors dialect context.rule lexeme) := by
  have stay := context.dispatcher_goto_within layout here
  have leave := context.dispatcher_leave_descriptors layout here
  unfold Dispatcher.onDescriptors Grammar.inDescriptors
  rw [stay, leave]
  cases lexeme.token.kind <;> rfl

/-- The handler of the header of any other at-rule. -/
theorem onAtRuleHeader_eq (here : context.nesting.innermost.scope = .atRule) :
    Dispatcher.onAtRuleHeader lexeme context.dispatcher =
      context.verdict layout (Grammar.inAtRule lexeme) := by
  have stay := context.dispatcher_goto_within layout here
  have leave := context.dispatcher_leave layout (by simp [here])
  unfold Dispatcher.onAtRuleHeader Grammar.inAtRule
  rw [stay, leave]
  cases lexeme.token.kind <;> rfl

/-- The handler of an interpolation. -/
theorem onInterpolation_eq (here : context.nesting.innermost.scope = .interpolation) :
    Dispatcher.onInterpolation lexeme context.dispatcher =
      context.verdict layout (Grammar.inInterpolation lexeme) := by
  have stay := context.dispatcher_goto_within layout here
  have leave := context.dispatcher_leave layout (by simp [here])
  unfold Dispatcher.onInterpolation Grammar.inInterpolation
  rw [stay, leave]
  cases lexeme.token.kind <;> rfl

/-- The handler of the innermost scope says what the scope makes of the lexeme, also where a token
is awaited that the lexeme is not. -/
theorem handle_within :
    handle dialect layout lexeme context.dispatcher (.within context.nesting.innermost.scope) =
      context.verdict layout
        (Grammar.react dialect context.rule lexeme context.nesting.innermost.scope) := by
  cases here : context.nesting.innermost.scope with
  | body list =>
    cases list with
    | top => exact context.onTop_eq dialect layout lexeme here
    | block => exact context.onBlock_eq dialect layout lexeme here
  | propertyBlock => exact context.onPropertyBlock_eq layout lexeme here
  | value => exact context.onValue_eq dialect layout lexeme here
  | parens => exact context.onParens_eq dialect layout lexeme here
  | documentTypes => exact context.onDocumentTypes_eq dialect layout lexeme
  | condition => exact context.onCondition_eq dialect layout lexeme
  | conditionParens => exact context.onConditionParens_eq dialect layout lexeme here
  | component => exact context.onComponent_eq dialect layout lexeme
  | descriptors => exact context.onDescriptors_eq dialect layout lexeme here
  | atRule => exact context.onAtRuleHeader_eq layout lexeme here
  | interpolation => exact context.onInterpolation_eq layout lexeme here

/-- The handler of a state of waiting answers at the awaited token and passes at any other. -/
theorem handle_awaiting (token : Awaiting) :
    handle dialect layout lexeme context.dispatcher (.awaiting token) =
      match Grammar.awaited context.rule lexeme token with
      | some answer => context.verdict layout (.settle answer)
      | none => .pass 0 := by
  have stay := context.dispatcher_stay layout
  cases token with
  | colon =>
    simp only [handle, Dispatcher.onColonAwaited, Grammar.awaited]
    split <;> rfl
  | pseudoClass =>
    simp only [handle, Dispatcher.onPseudoClass, Grammar.awaited, stay]
    split <;> rfl
  | descriptorBlock =>
    have rule : context.dispatcher.rule = context.rule := rfl
    simp only [handle, Dispatcher.onDescriptorBlockAwaited, Grammar.awaited, rule]
    cases lexeme.token.kind
    case word =>
      dsimp only
      split <;> rfl
    all_goals rfl
  | keyframesBlock =>
    simp only [handle, Dispatcher.onKeyframes, Grammar.awaited]
    cases lexeme.token.kind <;> rfl

end Context

/-! ## Dispatching follows the steps of a context -/

namespace Dispatcher

/-- Each call has fewer levels open than the one before: between the two a level was really
closed. -/
def Falling (calls : List Call) : Prop :=
  calls.IsChain fun earlier later => later.depth < earlier.depth

/-- Calls that end soon. There is one more than levels at most, and only a state of waiting, asked
first, is followed by a call with as many levels open. -/
structure Outward (first : Call) (later : List Call) : Prop where
  /-- One call for each level, and one for a state of waiting. -/
  few : (first :: later).length ≤ first.depth + 1
  /-- Behind the second call a level was really closed before each one. -/
  falling : Falling later
  /-- Before the second call too, unless a state of waiting passed. -/
  second : ∀ second ∈ later.head?, second.depth < first.depth ∨
    second.depth = first.depth ∧ ∃ token, first.asked = .awaiting token

end Dispatcher

namespace Context

open Dispatcher (Dispatches Falling Outward)

/-- A lexeme that is not awaited goes from scope to scope outwards, one call for each, until a
scope settles it. -/
theorem dispatches_within (dialect : Dialect) (layout : Layout) (lexeme : Lexeme)
    (context : Context) (notAwaited : context.awaitedAnswer? lexeme = none) :
    ∃ calls, Dispatches dialect layout lexeme (.within context.nesting.innermost.scope)
        context.dispatcher calls (context.step dialect layout lexeme).1
        (context.step dialect layout lexeme).2.dispatcher ∧
      Falling calls ∧ calls.length ≤ context.dispatcher.depth := by
  have handled := context.handle_within dialect layout lexeme
  cases reacts : Grammar.react dialect context.rule lexeme context.nesting.innermost.scope with
  | settle answer =>
    rw [reacts] at handled
    rw [step_of_settle layout notAwaited reacts]
    refine ⟨_, .done handled, List.isChain_singleton _, ?_⟩
    rw [dispatcher_depth]
    simp
  | yield others =>
    rw [reacts] at handled
    -- What is left when the scopes that yield are closed; there the lexeme is offered again.
    let left : Context :=
      { context with
        nesting := { context.nesting with opened := context.nesting.opened.drop (others + 1) } }
    have leftNotAwaited : left.awaitedAnswer? lexeme = none := notAwaited
    let outer : Context := { left with awaiting := none }
    have closed : context.dispatcher.close (others + 1) = outer.dispatcher :=
      context.dispatcher_close others
    have same : context.step dialect layout lexeme = outer.step dialect layout lexeme := by
      rw [step_of_yield layout notAwaited reacts]
      exact (step_awaiting_none layout leftNotAwaited).symm
    have shorter : outer.nesting.opened.length < context.nesting.opened.length := by
      have nonempty := List.length_pos_iff.mpr (opened_ne_nil_of_yield reacts)
      simp only [outer, left, List.length_drop]
      omega
    have asked : (context.dispatcher.close (others + 1)).innermost.kind =
        .within outer.nesting.innermost.scope := by
      rw [closed, dispatcher_innermost]
      rfl
    obtain ⟨calls, dispatches, falling, few⟩ :=
      dispatches_within dialect layout lexeme outer rfl
    obtain ⟨later, rfl⟩ := dispatches.calls_eq_cons
    rw [List.length_cons, dispatcher_depth] at few
    rw [same]
    refine ⟨_, .pass handled (by rw [asked, closed]; exact dispatches),
      List.isChain_cons_cons.mpr ⟨?_, falling⟩, ?_⟩
    · simp only [dispatcher_depth]
      omega
    · rw [dispatcher_depth, List.length_cons, List.length_cons]
      omega
termination_by context.nesting.opened.length

/-- A lexeme is dispatched from a context as the context steps, and soon. -/
theorem dispatches_step (dialect : Dialect) (layout : Layout) (lexeme : Lexeme)
    (context : Context) :
    ∃ later,
      Dispatches dialect layout lexeme context.dispatcher.state context.dispatcher
        (context.dispatcher.call :: later) (context.step dialect layout lexeme).1
        (context.step dialect layout lexeme).2.dispatcher ∧
      Outward context.dispatcher.call later := by
  cases awaiting : context.awaiting with
  | none =>
    have state : context.dispatcher.state = .within context.nesting.innermost.scope := by
      simp only [dispatcher, Context.state, awaiting]
    obtain ⟨calls, dispatches, falling, few⟩ :=
      context.dispatches_within dialect layout lexeme (awaitedAnswer?_of_awaiting_none awaiting)
    obtain ⟨later, rfl⟩ := dispatches.calls_eq_cons
    rw [Dispatcher.call, state]
    refine ⟨later, dispatches, Nat.le_succ_of_le few, falling.tail, ?_⟩
    intro second isSecond
    obtain ⟨rest, rfl⟩ : ∃ rest, later = second :: rest := List.head?_eq_some_iff.mp isSecond
    exact .inl (List.isChain_cons_cons.mp falling).1
  | some token =>
    have state : context.dispatcher.state = .awaiting token := by
      simp only [dispatcher, Context.state, awaiting]
    have handled := context.handle_awaiting dialect layout lexeme token
    rw [Dispatcher.call, state]
    cases found : Grammar.awaited context.rule lexeme token with
    | some answer =>
      have awaited : context.awaitedAnswer? lexeme = some answer := by
        rw [awaitedAnswer?, awaiting, Option.bind_some, found]
      rw [found] at handled
      rw [step_of_awaited layout awaited]
      exact ⟨[], .done handled, Nat.le_add_left _ _, List.isChain_nil, by simp⟩
    | none =>
      have notAwaited : context.awaitedAnswer? lexeme = none := by
        rw [awaitedAnswer?, awaiting, Option.bind_some, found]
      rw [found] at handled
      obtain ⟨calls, dispatches, falling, few⟩ :=
        context.dispatches_within dialect layout lexeme notAwaited
      have asked : (context.dispatcher.close 0).innermost.kind =
          .within context.nesting.innermost.scope := by
        rw [Dispatcher.close, dispatcher_innermost]
        rfl
      refine ⟨calls, .pass handled (by rw [asked]; exact dispatches), Nat.succ_le_succ few,
        falling, ?_⟩
      intro second isSecond
      obtain ⟨later, rfl⟩ := dispatches.calls_eq_cons
      obtain rfl : _ = second := by simpa using isSecond
      exact .inr ⟨rfl, token, rfl⟩

end Context

/-! ## Reading with a dispatcher -/

namespace Mode

open Dispatcher (Dispatches Outward Call)

/-- Where a dispatcher comes that starts like a text whose outermost content is indented to a
column, and is offered what reading offers, at any place of any line. -/
inductive Dispatched (mode : Mode) (indent : UInt64) : Option Continuation → Dispatcher → Prop
  /-- The start of a text. -/
  | start :
    Dispatched mode indent none
      { state := .within (.body mode.body)
        rule := none
        opened := []
        root := ⟨.within (.body mode.body), indent⟩ }
  /-- One lexeme further. -/
  | next (cursor : Cursor) {continuation : Option Continuation} {lexeme : Lexeme}
    {dispatcher further : Dispatcher} {calls : List Call} {style : Style}
    (dispatched : Dispatched mode indent continuation dispatcher)
    (offered : mode.offered? cursor continuation = some lexeme)
    (dispatches : Dispatches mode.dialect (mode.layout cursor) lexeme dispatcher.state dispatcher
      calls style further) :
    Dispatched mode indent (scan mode.dialect continuation cursor.rest).continuation further

variable {mode : Mode} {indent : UInt64}

/-- Reading comes nowhere where a dispatcher does not. -/
theorem Reachable.dispatched {state : ParseState} (reachable : mode.Reachable indent state) :
    mode.Dispatched indent state.continuation state.context.dispatcher := by
  induction reachable with
  | start => exact .start
  | @next cursor state reached ih =>
    cases offered : mode.offered? cursor state.continuation with
    | none =>
      rw [mode.nextToken_state_of_blank offered]
      exact ih
    | some lexeme =>
      obtain ⟨later, dispatches, _⟩ :=
        state.context.dispatches_step mode.dialect (mode.layout cursor) lexeme
      rw [mode.nextToken_state_of_offered offered]
      exact .next cursor ih offered dispatches

/-- A dispatcher only comes to what reading comes to. -/
theorem Dispatched.reachable {continuation : Option Continuation} {dispatcher : Dispatcher}
    (dispatched : mode.Dispatched indent continuation dispatcher) :
    ∃ state, mode.Reachable indent state ∧ state.continuation = continuation ∧
      state.context.dispatcher = dispatcher := by
  induction dispatched with
  | start => exact ⟨mode.startState indent, .start, rfl, rfl⟩
  | @next cursor continuation lexeme dispatcher further calls style dispatched offered dispatches
      ih =>
    obtain ⟨state, reachable, rfl, rfl⟩ := ih
    obtain ⟨later, expected, _⟩ :=
      state.context.dispatches_step mode.dialect (mode.layout cursor) lexeme
    obtain ⟨-, -, same⟩ := expected.unique dispatches
    refine ⟨_, reachable.next cursor, ?_, ?_⟩
    · rw [mode.nextToken_state_of_offered offered]
    · rw [mode.nextToken_state_of_offered offered]
      exact same

/-- A dispatcher comes to the contexts that reading comes to, and to nothing else. -/
theorem dispatched_iff {continuation : Option Continuation} {dispatcher : Dispatcher} :
    mode.Dispatched indent continuation dispatcher ↔
      ∃ state, mode.Reachable indent state ∧ state.continuation = continuation ∧
        state.context.dispatcher = dispatcher := by
  constructor
  · exact Dispatched.reachable
  · rintro ⟨state, reachable, rfl, rfl⟩
    exact reachable.dispatched

/-- Wherever a dispatcher comes, dispatching a lexeme ends, by one call more than levels at most,
and it ends at the step of the context that is shown. -/
theorem Dispatched.ends_within_depth {continuation : Option Continuation}
    {dispatcher : Dispatcher} (dispatched : mode.Dispatched indent continuation dispatcher)
    (layout : Layout) (lexeme : Lexeme) :
    ∃ state later,
      mode.Reachable indent state ∧ state.continuation = continuation ∧
      state.context.dispatcher = dispatcher ∧
      Dispatches mode.dialect layout lexeme dispatcher.state dispatcher (dispatcher.call :: later)
        (state.context.step mode.dialect layout lexeme).1
        (state.context.step mode.dialect layout lexeme).2.dispatcher ∧
      Outward dispatcher.call later := by
  obtain ⟨state, reachable, same, rfl⟩ := dispatched.reachable
  obtain ⟨later, dispatches, outward⟩ := state.context.dispatches_step mode.dialect layout lexeme
  exact ⟨state, later, reachable, same, rfl, dispatches, outward⟩

/-- Behind an opening brace, the definition of a variable, a colon, an opening parenthesis and the
opening of an interpolation, each on a line of its own. -/
def interpolationDispatcher : Dispatcher :=
  { state := .within .interpolation
    rule := none
    opened := [⟨.within .interpolation, 2⟩, ⟨.within .parens, 2⟩, ⟨.within .value, 2⟩,
      ⟨.within (.body .block), 2⟩]
    root := ⟨.within (.body .top), 0⟩ }

/-- A dispatcher comes there. -/
theorem dispatched_interpolation :
    (ofDialect .scss).Dispatched 0 none interpolationDispatcher := by
  have bare : (ofDialect .scss).Dispatched 0 _ _ := .start
  have brace := bare.next (.ofLine 4 ['{']) rfl (.done rfl)
  have name := brace.next (.ofLine 4 ['$', 'a', ':']) rfl (.done rfl)
  have colon := name.next (.ofLine 4 [':']) rfl (.done rfl)
  have paren := colon.next (.ofLine 4 ['(']) rfl (.done rfl)
  exact paren.next (.ofLine 4 ['#', '{']) rfl (.done rfl)

/-- There a brace is handed from the interpolation through the parentheses to the value. -/
theorem ends_within_depth_interpolation :
    (ofDialect .scss).Dispatched 0 none interpolationDispatcher ∧
      ∃ state later,
        (ofDialect .scss).Reachable 0 state ∧ state.continuation = none ∧
        state.context.dispatcher = interpolationDispatcher ∧
        Dispatches .scss ⟨0, 2⟩ ⟨.bare .braceOpen, ['{'], []⟩ (.within .interpolation)
          interpolationDispatcher (⟨.within .interpolation, 5⟩ :: later)
          (state.context.step .scss ⟨0, 2⟩ ⟨.bare .braceOpen, ['{'], []⟩).1
          (state.context.step .scss ⟨0, 2⟩ ⟨.bare .braceOpen, ['{'], []⟩).2.dispatcher ∧
        Outward ⟨.within .interpolation, 5⟩ later :=
  ⟨dispatched_interpolation,
    dispatched_interpolation.ends_within_depth ⟨0, 2⟩ ⟨.bare .braceOpen, ['{'], []⟩⟩

end Mode

end Stylesheet
