import Stylesheet.Proofs.DispatchAgreement

/-!
# What a dispatcher keeps in step

A dispatcher may hold any state beside any levels, but it comes to few of them. The root stays,
no level stands for a state of waiting, the state is that of the innermost level or one that waits
for a token there, and every level sits on one that it may sit on.
-/
namespace Stylesheet

namespace Dispatcher

/-- Whether a level sits on one that it may sit on. -/
def SitsOn (dialect : Dialect) (above below : Level) : Prop :=
  ∃ scope seat, above.kind = .within scope ∧ below.kind = .within seat ∧ seat ∈ dialect.seats scope

/-- What a dispatcher over a root keeps in step. -/
structure WellFormed (dialect : Dialect) (root : Level) (dispatcher : Dispatcher) : Prop where
  /-- The root is never closed and never replaced. -/
  root_eq : dispatcher.root = root
  /-- No level stands for a state of waiting. -/
  within : ∀ level ∈ dispatcher.levels, ∃ scope, level.kind = .within scope
  /-- The state is that of the innermost level, or waits for a token that may be awaited there. -/
  state : dispatcher.state = dispatcher.innermost.kind ∨
    ∃ token scope, dispatcher.state = .awaiting token ∧
      dispatcher.innermost.kind = .within scope ∧ scope ∈ token.seats
  /-- Every level sits on one that it may sit on. -/
  seated : dispatcher.levels.IsChain (SitsOn dialect)

end Dispatcher

/-- A seated context is shown as a well-formed dispatcher. -/
theorem Context.Seated.dispatcher_wellFormed {dialect : Dialect} {context : Context}
    (seated : context.Seated dialect) :
    context.dispatcher.WellFormed dialect context.nesting.root.frame.level where
  root_eq := rfl
  within := by
    intro level isLevel
    rw [dispatcher_levels] at isLevel
    obtain ⟨frame, -, rfl⟩ := List.mem_map.mp isLevel
    exact ⟨frame.scope, rfl⟩
  state := by
    rw [dispatcher_innermost]
    cases awaiting : context.awaiting with
    | none =>
      left
      simp only [dispatcher, Context.state, awaiting]
      rfl
    | some token =>
      right
      refine ⟨token, context.nesting.innermost.scope, ?_, rfl, seated.awaiting token awaiting⟩
      simp only [dispatcher, Context.state, awaiting]
  seated := by
    rw [dispatcher_levels, List.isChain_map]
    exact seated.nesting.imp fun above below seat => ⟨above.scope, below.scope, rfl, rfl, seat⟩

/-- Wherever a dispatcher comes from the start of a text it is well-formed over the root that it
started with, and shows a context that reading comes to. -/
theorem Mode.Dispatched.wellFormed {mode : Mode} {indent : UInt64}
    {continuation : Option Continuation} {dispatcher : Dispatcher}
    (dispatched : mode.Dispatched indent continuation dispatcher) :
    dispatcher.WellFormed mode.dialect ⟨.within (.body mode.body), indent⟩ ∧
      ∃ state, mode.Reachable indent state ∧ state.continuation = continuation ∧
        state.context.dispatcher = dispatcher := by
  obtain ⟨state, reachable, same, rfl⟩ := Mode.dispatched_iff.mp dispatched
  have wellFormed := reachable.seated.dispatcher_wellFormed
  rw [reachable.root] at wellFormed
  exact ⟨wellFormed, state, reachable, same, rfl⟩

/-- Within an interpolation in parentheses in a value in a block. -/
theorem Mode.wellFormed_interpolation :
    (ofDialect .scss).Dispatched 0 none interpolationDispatcher ∧
      interpolationDispatcher.WellFormed .scss ⟨.within (.body .top), 0⟩ ∧
      ∃ state, (ofDialect .scss).Reachable 0 state ∧ state.continuation = none ∧
        state.context.dispatcher = interpolationDispatcher :=
  ⟨dispatched_interpolation, dispatched_interpolation.wellFormed⟩

end Stylesheet
