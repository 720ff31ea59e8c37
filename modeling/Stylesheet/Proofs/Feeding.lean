import Stylesheet.Proofs.Settling
import Stylesheet.Proofs.SheetGrammar

/-!
# Feeding tokens one by one

The equations of `Context.step`, for a list of tokens: the first one is the awaited one, or the
innermost scope settles it, or the innermost scope closes and leaves it to the others. A context
is `Resting` in a scope when the scope is the innermost one and awaits nothing, and `within` opens
a scope to rest in.
-/
namespace Stylesheet

open Grammar (react)

namespace Context

variable {dialect : Dialect} {context : Context} {token : Occurrence} {tokens : List Occurrence}

@[simp] theorem feed_nil : context.feed dialect [] = context := rfl

@[simp] theorem feed_cons :
    context.feed dialect (token :: tokens) =
      (context.step dialect token.layout token.lexeme).2.feed dialect tokens := rfl

/-- Some tokens and then others are fed as one list. -/
theorem feed_append (earlier later : List Occurrence) :
    context.feed dialect (earlier ++ later) =
      (context.feed dialect earlier).feed dialect later :=
  List.foldl_append

/-- One token more is fed last. -/
theorem feed_concat (dialect : Dialect) (origin : Context) (tokens : List Occurrence)
    (token : Occurrence) :
    origin.feed dialect (tokens ++ [token]) =
      ((origin.feed dialect tokens).step dialect token.layout token.lexeme).2 :=
  feed_append tokens [token]

/-- The awaited token moves as it says. -/
theorem feed_of_awaited {answer : Answer}
    (awaited : context.awaitedAnswer? token.lexeme = some answer) :
    context.feed dialect (token :: tokens) =
      (context.apply token.layout answer.move).feed dialect tokens := by
  rw [feed_cons, step_of_awaited token.layout awaited]

/-- Any other token is fed as if nothing were awaited. -/
theorem feed_awaiting_none (notAwaited : context.awaitedAnswer? token.lexeme = none) :
    context.feed dialect (token :: tokens) =
      feed dialect { context with awaiting := none } (token :: tokens) := by
  rw [feed_cons, feed_cons, step_awaiting_none token.layout notAwaited]

/-- Nothing is awaited within the innermost scope. -/
structure Resting (scope : Scope) (context : Context) : Prop where
  innermost_eq : context.nesting.innermost.scope = scope
  awaiting_eq : context.awaiting = none

/-- A context with one scope more, and the column that its content is indented to. -/
def within (context : Context) (scope : Scope) (indent : UInt64) : Context :=
  { context with nesting := context.nesting.push ⟨scope, indent⟩, awaiting := none }

/-- Directly within a scope nothing is awaited. -/
theorem resting_within (scope : Scope) (indent : UInt64) :
    (context.within scope indent).Resting scope := ⟨rfl, rfl⟩

namespace Resting

variable {scope : Scope}

/-- A resting context is what it is without waiting. -/
theorem awaiting_none (resting : context.Resting scope) :
    { context with awaiting := none } = context := by
  obtain ⟨nesting, awaiting, rule⟩ := context
  obtain rfl : awaiting = none := resting.awaiting_eq
  rfl

/-- The innermost scope settles a token. -/
theorem feed_of_settle {answer : Answer} (resting : context.Resting scope)
    (reacts : react dialect context.rule token.lexeme scope = .settle answer) :
    context.feed dialect (token :: tokens) =
      (context.apply token.layout answer.move).feed dialect tokens := by
  rw [← resting.innermost_eq] at reacts
  rw [feed_cons,
    step_of_settle token.layout (awaitedAnswer?_of_awaiting_none resting.awaiting_eq) reacts]

/-- The innermost scope keeps a token and stays as it is. -/
theorem feed_of_stay {style : Style} (resting : context.Resting scope)
    (reacts : react dialect context.rule token.lexeme scope = .settle ⟨.stay, style⟩) :
    context.feed dialect (token :: tokens) = context.feed dialect tokens := by
  rw [resting.feed_of_settle reacts, apply, resting.awaiting_none]

/-- A token that makes the innermost scope await something is forgotten at a token that is not
awaited. -/
theorem feed_of_await {awaiting : Awaiting} {style : Style} {next : Occurrence}
    (resting : context.Resting scope)
    (reacts : react dialect context.rule token.lexeme scope = .settle ⟨.await awaiting, style⟩)
    (notAwaited : Grammar.awaited context.rule next.lexeme awaiting = none) :
    context.feed dialect (token :: next :: tokens) = context.feed dialect (next :: tokens) := by
  rw [resting.feed_of_settle reacts]
  have forgotten : (context.apply token.layout (.await awaiting)).awaitedAnswer? next.lexeme =
      none := notAwaited
  rw [feed_awaiting_none forgotten]
  exact congrArg (feed dialect · (next :: tokens)) resting.awaiting_none

/-- The innermost scope opens another one at a token. -/
theorem feed_of_enter {inner : Scope} {style : Style} (resting : context.Resting scope)
    (reacts : react dialect context.rule token.lexeme scope = .settle ⟨.enter inner, style⟩) :
    ∃ indent, context.feed dialect (token :: tokens) =
      (context.within inner indent).feed dialect tokens := by
  rw [resting.feed_of_settle reacts]
  exact ⟨_, rfl⟩

/-- A scope that closes and leaves a token to the others might as well not have been opened. -/
theorem feed_within_of_yield {inner : Scope} {indent : UInt64} (resting : context.Resting scope)
    (yields : react dialect context.rule token.lexeme inner = .yield 0) :
    (context.within inner indent).feed dialect (token :: tokens) =
      context.feed dialect (token :: tokens) := by
  have notAwaited : (context.within inner indent).awaitedAnswer? token.lexeme = none :=
    awaitedAnswer?_of_awaiting_none rfl
  have closes : (context.within inner indent).step dialect token.layout token.lexeme =
      step dialect token.layout { context with awaiting := none } token.lexeme :=
    step_of_yield token.layout notAwaited yields
  rw [feed_cons, closes, resting.awaiting_none]
  rfl

/-- A scope is left as it was entered, unless it ends the checking of descriptors. -/
theorem feed_within_of_leave {inner : Scope} {indent : UInt64} (resting : context.Resting scope)
    (leaves : react dialect context.rule token.lexeme inner = .settle (token.lexeme.keep .leave))
    (unchecked : inner ≠ .descriptors) :
    (context.within inner indent).feed dialect (token :: tokens) =
      context.feed dialect tokens := by
  have kept : (if (context.within inner indent).nesting.innermost.scope = .descriptors then none
      else (context.within inner indent).rule) = context.rule := if_neg unchecked
  have left : (context.within inner indent).apply token.layout .leave =
      { context with awaiting := none } := by
    rw [apply, kept]
    rfl
  rw [(resting_within inner indent).feed_of_settle leaves]
  exact congrArg (feed dialect · tokens) (left.trans resting.awaiting_none)

end Resting

end Context

end Stylesheet
