import Stylesheet.Proofs.Reading
import Stylesheet.Proofs.Settling

/-!
# Which scope sits on which

Not every scope is opened within every other. `Dialect.seats` lists, for a scope, the scopes that
it may sit on, and `Awaiting.seats` the scopes within which a token may be awaited. A context is
`Seated` when all its scopes and the awaited token are. Whatever settles a lexeme, its move is
`Permitted` there, so a step keeps a context seated (`Seated.step`), and every state that a host
can reach by reading is seated over the root it started with (`Mode.Reachable.seated`).
-/
namespace Stylesheet

open Grammar (react awaited)

/-- The lists of rules and of declarations. -/
def Scope.bodies : List Scope := [.body .top, .body .block]

/-- The scopes within which a token may be awaited. -/
def Awaiting.seats : Awaiting → List Scope
  | colon => Scope.bodies ++ [.propertyBlock, .descriptors]
  | pseudoClass => Scope.bodies
  | descriptorBlock => Scope.bodies
  | keyframesBlock => Scope.bodies

/-- The scopes that a scope may sit on. A dialect without nesting has no blocks of nested
properties and no parentheses in selectors; component headers exist in one dialect only. -/
def Dialect.seats (dialect : Dialect) : Scope → List Scope
  | .value => Awaiting.colon.seats
  | .propertyBlock => if dialect.allowsNesting then [.value] else []
  | .parens => [.value, .parens] ++ if dialect.allowsNesting then Scope.bodies else []
  | .conditionParens => [.condition, .documentTypes, .conditionParens]
  | .interpolation => Scope.bodies ++ [.value, .parens]
  | .component => if dialect.allowsComponents then Scope.bodies else []
  | .body _ => Scope.bodies
  | .documentTypes => Scope.bodies
  | .condition => Scope.bodies
  | .descriptors => Scope.bodies
  | .atRule => Scope.bodies

/-- Lists sit on lists. -/
theorem seats_of_mem_bodies {dialect : Dialect} {scope : Scope} (list : scope ∈ Scope.bodies) :
    dialect.seats scope = Scope.bodies := by
  simp only [Scope.bodies, List.mem_cons, List.not_mem_nil, or_false] at list
  rcases list with rfl | rfl <;> rfl

/-- Whether a scope may move so. -/
def Move.Permitted (dialect : Dialect) (scope : Scope) : Move → Prop
  | stay => True
  | leave => True
  | await token => scope ∈ token.seats
  | check _ => scope ∈ Awaiting.descriptorBlock.seats
  | enter opened => scope ∈ dialect.seats opened
  | replace opened _ => opened ∈ Scope.bodies ∧ scope ∉ Scope.bodies ∧
      dialect.seats scope ⊆ Scope.bodies

/-! ## What settles a lexeme moves as it may -/

variable {dialect : Dialect} {rule : Option DescriptorRule} {lexeme : Lexeme}

/-- The name of an at-rule opens a header, or awaits a block, that a list may hold. -/
theorem atRuleMove_permitted (name : Text) (list : Body) :
    (Grammar.atRuleMove dialect name).Permitted dialect (.body list) := by
  unfold Grammar.atRuleMove
  split
  · next component =>
    simp only [Bool.and_eq_true] at component
    cases list <;> simp [Move.Permitted, Dialect.seats, component.1, Scope.bodies]
  · repeat' split
    all_goals cases list <;>
      simp [Move.Permitted, Dialect.seats, Awaiting.seats, Scope.bodies]

/-- A list of rules moves as it may, also where it takes a lexeme that a list of declarations
leaves to it. -/
theorem inRules_permitted (list : Body) :
    (Grammar.inRules dialect lexeme).move.Permitted dialect (.body list) := by
  unfold Grammar.inRules
  split
  case h_3 => exact atRuleMove_permitted lexeme.text list
  case h_9 =>
    cases nesting : dialect.allowsNesting <;> cases list <;>
      simp [Lexeme.keep, Move.Permitted, Dialect.seats, Scope.bodies, nesting]
  all_goals cases list <;>
    simp [Lexeme.keep, Move.Permitted, Dialect.seats, Awaiting.seats, Scope.bodies]

/-- A list moves as it may. -/
theorem inBody_permitted (list : Body) :
    (Grammar.inBody dialect lexeme list).move.Permitted dialect (.body list) := by
  cases list with
  | top => exact inRules_permitted .top
  | block =>
    simp only [Grammar.inBody]
    unfold Grammar.inDeclarations
    repeat' split
    all_goals first
      | exact inRules_permitted .block
      | simp [Lexeme.keep, Move.Permitted, Awaiting.seats, Scope.bodies]

/-- The condition of an at-rule moves as it may, also where it takes a lexeme that the choice of
documents leaves to it. -/
theorem inCondition_permitted {scope : Scope} {answer : Answer}
    (header : scope = .condition ∨ scope = .documentTypes)
    (settles : Grammar.inCondition dialect lexeme = .settle answer) :
    answer.move.Permitted dialect scope := by
  unfold Grammar.inCondition at settles
  split at settles <;> cases settles <;> rcases header with rfl | rfl <;>
    cases nesting : dialect.allowsNesting <;>
      simp [Lexeme.keep, Move.Permitted, Dialect.seats, Scope.bodies, Dialect.nestedBody, nesting]

/-- The parentheses of a condition move as they may. Braces, which would replace a condition by
its block, they leave to it. -/
theorem inConditionParens_permitted {answer : Answer}
    (settles : Grammar.inConditionParens dialect lexeme = .settle answer) :
    answer.move.Permitted dialect .conditionParens := by
  unfold Grammar.inConditionParens Grammar.inCondition at settles
  repeat' split at settles
  all_goals first
    | contradiction
    | (cases settles; simp [Lexeme.keep, Move.Permitted, Dialect.seats])

/-- Every scope moves as it may. -/
theorem react_permitted {scope : Scope} {answer : Answer}
    (settles : react dialect rule lexeme scope = .settle answer) :
    answer.move.Permitted dialect scope := by
  cases scope with
  | body list =>
    cases settles
    exact inBody_permitted list
  | condition => exact inCondition_permitted (.inl rfl) settles
  | documentTypes =>
    simp only [react, Grammar.inDocumentTypes] at settles
    split at settles
    · cases settles
      trivial
    · exact inCondition_permitted (.inr rfl) settles
  | conditionParens => exact inConditionParens_permitted settles
  | propertyBlock =>
    simp only [react, Grammar.inPropertyBlock] at settles
    split at settles <;> cases settles <;>
      simp [Lexeme.keep, Move.Permitted, Awaiting.seats]
  | value =>
    simp only [react, Grammar.inValue] at settles
    repeat' split at settles
    all_goals cases settles <;>
      simp_all [Lexeme.keep, Move.Permitted, Dialect.seats]
  | parens =>
    simp only [react, Grammar.inParens] at settles
    split at settles <;> cases settles <;> simp [Lexeme.keep, Move.Permitted, Dialect.seats]
  | component =>
    simp only [react, Grammar.inComponent] at settles
    split at settles <;> cases settles <;> cases dialect <;>
      simp [Lexeme.keep, Move.Permitted, Dialect.seats, Scope.bodies, Dialect.nestedBody,
        Dialect.allowsNesting, Dialect.allowsComponents]
  | descriptors =>
    simp only [react, Grammar.inDescriptors] at settles
    split at settles <;> cases settles <;>
      simp [Lexeme.keep, Move.Permitted, Awaiting.seats]
  | atRule =>
    simp only [react, Grammar.inAtRule] at settles
    split at settles <;> cases settles <;> simp [Lexeme.keep, Move.Permitted]
  | interpolation =>
    simp only [react, Grammar.inInterpolation] at settles
    split at settles <;> cases settles <;> simp [Lexeme.keep, Move.Permitted]

/-- An awaited token moves as the scope may in which it is awaited. -/
theorem awaited_permitted {scope : Scope} {token : Awaiting} {answer : Answer}
    (seated : scope ∈ token.seats) (found : awaited rule lexeme token = some answer) :
    answer.move.Permitted dialect scope := by
  cases token <;> simp only [awaited] at found <;> repeat' split at found
  all_goals simp only [Option.some.injEq, reduceCtorEq] at found
  all_goals subst found
  all_goals first | exact seated | trivial

/-! ## Moves keep scopes seated -/

namespace Nesting

/-- Every scope sits on one that it may sit on. -/
def Seated (dialect : Dialect) (nesting : Nesting) : Prop :=
  nesting.frames.IsChain fun above below => below.scope ∈ dialect.seats above.scope

/-- The innermost frame is the first one. -/
theorem frames_eq_cons (nesting : Nesting) :
    ∃ outer, nesting.frames = nesting.innermost :: outer := by
  obtain ⟨opened, root⟩ := nesting
  cases opened with
  | nil => exact ⟨[], rfl⟩
  | cons frame below => exact ⟨below ++ [root.frame], rfl⟩

namespace Seated

variable {nesting : Nesting}

/-- The outer ones of seated scopes are seated. -/
theorem suffix {opened : List Frame} (seated : nesting.Seated dialect)
    (outer : opened <:+ nesting.opened) : Seated dialect { nesting with opened } := by
  obtain ⟨closed, split⟩ := outer
  have frames : nesting.frames = closed ++ Nesting.frames { nesting with opened } := by
    rw [Nesting.frames, ← split, List.append_assoc]
    rfl
  exact List.IsChain.suffix seated ⟨closed, frames.symm⟩

/-- Closing the innermost scope leaves the others seated. -/
theorem pop (seated : nesting.Seated dialect) : nesting.pop.Seated dialect :=
  seated.suffix (List.tail_suffix nesting.opened)

/-- A scope opened on one that it may sit on is seated. -/
theorem push {frame : Frame} (seated : nesting.Seated dialect)
    (seat : nesting.innermost.scope ∈ dialect.seats frame.scope) :
    (nesting.push frame).Seated dialect := by
  obtain ⟨outer, frames⟩ := nesting.frames_eq_cons
  have pushed : (nesting.push frame).frames = frame :: nesting.innermost :: outer := by
    rw [← frames]
    rfl
  rw [Seated, pushed]
  rw [Seated, frames] at seated
  exact List.isChain_cons_cons.mpr ⟨seat, seated⟩

/-- What is innermost but for one scope is a scope that this one may sit on. -/
theorem seat_of_cons {frame : Frame} {below : List Frame} {root : Root}
    (seated : Seated dialect ⟨frame :: below, root⟩) :
    (Nesting.mk below root).innermost.scope ∈ dialect.seats frame.scope := by
  obtain ⟨outer, frames⟩ := (Nesting.mk below root).frames_eq_cons
  have all : (Nesting.mk (frame :: below) root).frames =
      frame :: (Nesting.mk below root).innermost :: outer := by
    rw [← frames]
    rfl
  rw [Seated, all] at seated
  exact (List.isChain_cons_cons.mp seated).1

/-- A header that is replaced by its block sits on a list, so the block does. -/
theorem replace {opened : Scope} {indent : UInt64} (seated : nesting.Seated dialect)
    (block : opened ∈ Scope.bodies) (header : nesting.innermost.scope ∉ Scope.bodies)
    (seats : dialect.seats nesting.innermost.scope ⊆ Scope.bodies) :
    (nesting.pop.push ⟨opened, indent⟩).Seated dialect := by
  apply seated.pop.push
  obtain ⟨scopes, root⟩ := nesting
  rw [seats_of_mem_bodies block]
  cases scopes with
  | nil =>
    -- The root is a list and no header.
    exfalso
    apply header
    cases body : root.body <;> simp [Root.frame, Scope.bodies, body]
  | cons frame below => exact seats seated.seat_of_cons

end Seated

end Nesting

namespace Context

/-- Every scope sits, and a token is awaited, where it may. -/
structure Seated (dialect : Dialect) (context : Context) : Prop where
  /-- The scopes are seated. -/
  nesting : context.nesting.Seated dialect
  /-- The awaited token is seated. -/
  awaiting : ∀ token, context.awaiting = some token →
    context.nesting.innermost.scope ∈ token.seats

/-- A permitted move keeps a context seated, whatever was awaited. -/
theorem Seated.apply {context : Context} (layout : Layout) {move : Move}
    (seated : context.nesting.Seated dialect)
    (permitted : move.Permitted dialect context.nesting.innermost.scope) :
    (context.apply layout move).Seated dialect := by
  cases move with
  | stay => exact ⟨seated, by simp [Context.apply]⟩
  | await token =>
    refine ⟨seated, fun other awaiting => ?_⟩
    obtain rfl : token = other := by simpa [Context.apply] using awaiting
    exact permitted
  | check rule =>
    refine ⟨seated, fun other awaiting => ?_⟩
    obtain rfl : .descriptorBlock = other := by simpa [Context.apply] using awaiting
    exact permitted
  | enter scope => exact ⟨seated.push permitted, by simp [Context.apply]⟩
  | replace scope placing =>
    refine ⟨?_, by simp [Context.apply]⟩
    cases placing <;> exact seated.replace permitted.1 permitted.2.1 permitted.2.2
  | leave => exact ⟨seated.pop, by simp [Context.apply]⟩

/-- A step keeps a context seated. -/
theorem Seated.step {context : Context} (layout : Layout) (lexeme : Lexeme)
    (seated : context.Seated dialect) :
    (context.step dialect layout lexeme).2.Seated dialect := by
  cases awaits : context.awaitedAnswer? lexeme with
  | some answer =>
    rw [step_of_awaited layout awaits]
    obtain ⟨token, awaiting, found⟩ := Option.bind_eq_some_iff.mp awaits
    exact Seated.apply layout seated.nesting
      (awaited_permitted (seated.awaiting token awaiting) found)
  | none =>
    rw [step_of_not_awaited layout awaits]
    have outer := seated.nesting.suffix (context.settled_opened_suffix dialect lexeme)
    exact Seated.apply layout outer (react_permitted (context.react_settled dialect lexeme))

/-- Nothing is open at the start. -/
theorem seated_start (body : Body) (indent : UInt64) : (start body indent).Seated dialect :=
  ⟨List.isChain_singleton _, by simp [start]⟩

/-- No move closes the root. -/
theorem apply_root (layout : Layout) (context : Context) (move : Move) :
    (context.apply layout move).nesting.root = context.nesting.root := by
  cases move <;> rfl

/-- No step closes the root. -/
theorem step_root (layout : Layout) (lexeme : Lexeme) (context : Context) :
    (context.step dialect layout lexeme).2.nesting.root = context.nesting.root := by
  cases awaits : context.awaitedAnswer? lexeme with
  | some answer => rw [step_of_awaited layout awaits, apply_root]
  | none =>
    rw [step_of_not_awaited layout awaits, apply_root]
    rfl

end Context

/-! ## Runs -/

/-- Every state that reading comes to is seated. -/
theorem Mode.Reachable.seated {mode : Mode} {indent : UInt64} {state : ParseState}
    (reachable : mode.Reachable indent state) : state.context.Seated mode.dialect :=
  reachable.context_induction (Context.Seated mode.dialect)
    (Context.seated_start mode.body indent) fun _ layout lexeme seated => seated.step layout lexeme

/-- Every state that reading comes to stands over the root that it started with. -/
theorem Mode.Reachable.root {mode : Mode} {indent : UInt64} {state : ParseState}
    (reachable : mode.Reachable indent state) :
    state.context.nesting.root = ⟨mode.body, indent⟩ :=
  reachable.context_induction (fun context => context.nesting.root = ⟨mode.body, indent⟩) rfl
    fun context layout lexeme same => (context.step_root layout lexeme).trans same

end Stylesheet
