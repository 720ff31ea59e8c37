import Mathlib.Data.List.Chain
import Stylesheet.Grammar.Step

/-!
# Where a lexeme is settled

`Nesting.settle` closes scopes until one of them settles a lexeme. Two facts describe its result
without its recursion: the scopes that stay open are the outer ones of those that were open, and
the innermost of them settles the lexeme. The same search, taken one scope at a time, gives three
equations of `Context.step`: a lexeme is the awaited one, or the innermost scope settles it, or the
step is that of the context without the scopes that yield.
-/
namespace Stylesheet

open Grammar (react)

/-- A scope that yields closes by itself, but for the parentheses of a condition. -/
theorem others_of_yield {dialect : Dialect} {rule : Option DescriptorRule} {lexeme : Lexeme}
    {scope : Scope} {others : Nat}
    (yields : react dialect rule lexeme scope = .yield others) :
    others = 0 ∨ scope = .conditionParens ∧ others = 1 := by
  cases scope with
  | conditionParens =>
    simp only [react, Grammar.inConditionParens, Grammar.inCondition] at yields
    repeat' split at yields
    all_goals cases yields <;> simp
  | _ =>
    left
    simp only [react, Grammar.inPropertyBlock, Grammar.inValue, Grammar.inParens,
      Grammar.inDocumentTypes, Grammar.inCondition, Grammar.inComponent, Grammar.inDescriptors,
      Grammar.inAtRule, Grammar.inInterpolation] at yields
    repeat' split at yields
    all_goals cases yields
    all_goals rfl

namespace Nesting

@[simp] theorem innermost_nil (root : Root) : (Nesting.mk [] root).innermost = root.frame := rfl

@[simp] theorem innermost_cons (frame : Frame) (below : List Frame) (root : Root) :
    (Nesting.mk (frame :: below) root).innermost = frame := rfl

variable (dialect : Dialect) (rule : Option DescriptorRule) (lexeme : Lexeme) (body : Body)

/-- Scopes that are closed unasked are dropped from the front. -/
theorem settle_skipped (skipped : Nat) (opened : List Frame) :
    settle dialect rule lexeme body skipped opened =
      settle dialect rule lexeme body 0 (opened.drop skipped) := by
  induction opened generalizing skipped with
  | nil => simp [settle]
  | cons frame below ih =>
    cases skipped with
    | zero => rfl
    | succ skipped => rw [settle, ih, List.drop_succ_cons]

/-- A scope that settles a lexeme stays open with all around it. -/
theorem settle_cons_of_settle {frame : Frame} {answer : Answer} (below : List Frame)
    (reacts : react dialect rule lexeme frame.scope = .settle answer) :
    settle dialect rule lexeme body 0 (frame :: below) = (frame :: below, answer) := by
  rw [settle, reacts]

/-- A scope that yields is closed, with as many others as it says. -/
theorem settle_cons_of_yield {frame : Frame} {others : Nat} (below : List Frame)
    (reacts : react dialect rule lexeme frame.scope = .yield others) :
    settle dialect rule lexeme body 0 (frame :: below) =
      settle dialect rule lexeme body 0 (below.drop others) := by
  rw [settle, reacts]
  exact settle_skipped dialect rule lexeme body others below

/-- Settling leaves the outer ones of the scopes that were open. -/
theorem settle_suffix (skipped : Nat) (opened : List Frame) :
    (settle dialect rule lexeme body skipped opened).1 <:+ opened := by
  fun_induction settle dialect rule lexeme body skipped opened with
  | case1 => exact List.nil_suffix
  | case2 skipped frame below ih => exact ih.trans (List.suffix_cons frame below)
  | case3 frame below answer reacts => exact List.suffix_rfl
  | case4 frame below others reacts ih => exact ih.trans (List.suffix_cons frame below)

/-- The innermost of the scopes that settling leaves open settles the lexeme. -/
theorem react_settle (indent : UInt64) (skipped : Nat) (opened : List Frame) :
    let settled := settle dialect rule lexeme body skipped opened
    react dialect rule lexeme (Nesting.mk settled.1 ⟨body, indent⟩).innermost.scope =
      .settle settled.2 := by
  fun_induction settle dialect rule lexeme body skipped opened with
  | case1 => rfl
  | case2 skipped frame below ih => exact ih
  | case3 frame below answer reacts => exact reacts
  | case4 frame below others reacts ih => exact ih

end Nesting

namespace Context

variable (dialect : Dialect) (layout : Layout) (lexeme : Lexeme)

/-- The context in which a lexeme is settled that is not awaited: the scopes that yield are
closed. -/
def settled (context : Context) : Context :=
  { context with
    nesting := { context.nesting with
      opened := (Nesting.settle dialect context.rule lexeme context.nesting.root.body 0
        context.nesting.opened).1 } }

/-- The meaning of a lexeme that is not awaited. -/
def settledAnswer (context : Context) : Answer :=
  (Nesting.settle dialect context.rule lexeme context.nesting.root.body 0
    context.nesting.opened).2

/-- The scopes that stay open are the outer ones of those that were open. -/
theorem settled_opened_suffix (context : Context) :
    (context.settled dialect lexeme).nesting.opened <:+ context.nesting.opened :=
  Nesting.settle_suffix dialect context.rule lexeme context.nesting.root.body 0
    context.nesting.opened

/-- The innermost scope that stays open settles the lexeme. -/
theorem react_settled (context : Context) :
    react dialect context.rule lexeme (context.settled dialect lexeme).nesting.innermost.scope =
      .settle (context.settledAnswer dialect lexeme) :=
  Nesting.react_settle dialect context.rule lexeme context.nesting.root.body
    context.nesting.root.indent 0 context.nesting.opened

variable {dialect} {lexeme}

/-- A step at the awaited token makes the move of that token. -/
theorem step_of_awaited {context : Context} {answer : Answer}
    (awaited : context.awaitedAnswer? lexeme = some answer) :
    context.step dialect layout lexeme = (answer.style, context.apply layout answer.move) := by
  rw [step, awaited]

/-- A step at any other token makes the move of the scope that settles it. -/
theorem step_of_not_awaited {context : Context}
    (notAwaited : context.awaitedAnswer? lexeme = none) :
    context.step dialect layout lexeme =
      ((context.settledAnswer dialect lexeme).style,
        (context.settled dialect lexeme).apply layout
          (context.settledAnswer dialect lexeme).move) := by
  rw [step, notAwaited]
  rfl

/-- A move forgets what was awaited before. -/
theorem apply_awaiting (context : Context) (awaiting : Option Awaiting) (move : Move) :
    apply layout { context with awaiting } move = context.apply layout move := by
  cases move <;> rfl

/-- A step at a token that is not the awaited one goes as if nothing were awaited. -/
theorem step_awaiting_none {context : Context}
    (notAwaited : context.awaitedAnswer? lexeme = none) :
    step dialect layout { context with awaiting := none } lexeme =
      context.step dialect layout lexeme := by
  rw [step_of_not_awaited layout notAwaited, step_of_not_awaited layout rfl]
  exact congrArg (Prod.mk (context.settledAnswer dialect lexeme).style)
    (apply_awaiting layout (context.settled dialect lexeme) none
      (context.settledAnswer dialect lexeme).move)

/-- Where nothing is awaited no token is the awaited one. -/
theorem awaitedAnswer?_of_awaiting_none {context : Context} (nothing : context.awaiting = none) :
    context.awaitedAnswer? lexeme = none := by
  rw [awaitedAnswer?, nothing, Option.bind_none]

/-- A token that nothing awaits is never the awaited one. -/
theorem awaitedAnswer?_of_awaited {context : Context}
    (never : ∀ token, Grammar.awaited context.rule lexeme token = none) :
    context.awaitedAnswer? lexeme = none := by
  rw [awaitedAnswer?, Option.bind_eq_none_iff]
  exact fun token _ => never token

/-- A step that the innermost scope settles closes nothing first. -/
theorem step_of_settle {context : Context} {answer : Answer}
    (notAwaited : context.awaitedAnswer? lexeme = none)
    (reacts : react dialect context.rule lexeme context.nesting.innermost.scope =
      .settle answer) :
    context.step dialect layout lexeme = (answer.style, context.apply layout answer.move) := by
  obtain ⟨⟨opened, root⟩, awaiting, rule⟩ := context
  rw [step, notAwaited]
  cases opened with
  | nil =>
    obtain rfl : Grammar.inBody dialect lexeme root.body = answer := by
      simpa only [Nesting.innermost_nil, Root.frame, react, Reaction.settle.injEq] using reacts
    rfl
  | cons frame below =>
    rw [Nesting.innermost_cons] at reacts
    simp only [Nesting.settle_cons_of_settle dialect rule lexeme root.body below reacts]

/-- Only a scope over the root yields. -/
theorem opened_ne_nil_of_yield {context : Context} {rule : Option DescriptorRule} {others : Nat}
    (reacts : react dialect rule lexeme context.nesting.innermost.scope = .yield others) :
    context.nesting.opened ≠ [] := by
  intro bare
  simp [Nesting.innermost, bare, Root.frame, react] at reacts

/-- A step at which the innermost scope yields is the step without the scopes that yield. -/
theorem step_of_yield {context : Context} {others : Nat}
    (notAwaited : context.awaitedAnswer? lexeme = none)
    (reacts : react dialect context.rule lexeme context.nesting.innermost.scope =
      .yield others) :
    context.step dialect layout lexeme =
      step dialect layout
        { context with nesting := { context.nesting with
            opened := context.nesting.opened.drop (others + 1) } } lexeme := by
  have nonempty := opened_ne_nil_of_yield reacts
  obtain ⟨⟨opened, root⟩, awaiting, rule⟩ := context
  obtain ⟨frame, below, rfl⟩ := List.exists_cons_of_ne_nil nonempty
  rw [Nesting.innermost_cons] at reacts
  have closed := Nesting.settle_cons_of_yield dialect rule lexeme root.body below reacts
  have stillNot : awaitedAnswer? ⟨⟨below.drop others, root⟩, awaiting, rule⟩ lexeme = none :=
    notAwaited
  simp only [step, notAwaited, closed, List.drop_succ_cons, stillNot]

end Context

end Stylesheet
