import Stylesheet.Proofs.ClosingBrace

/-!
# What one step does to the open scopes

A step closes some of the innermost scopes and opens one at most on those that stay open
(`Layout.Unwinds`), however many scopes leave the lexeme to others on the way. The content of a
scope that it opens is one unit deeper than the line, but for the body of a component, which is
level with the line and takes the place of the header. Most tokens do not touch the scopes at all:
it takes one of the `Kind.structural` ones. All of this holds wherever reading comes
(`Mode.Reachable.step_keeps`).
-/
namespace Stylesheet

open Grammar (react awaited)

/-- The tokens at which scopes are opened or closed, or rules are named. -/
def Kind.structural : List Kind :=
  [braceOpen, braceClose, parenOpen, parenClose, semicolon, colon, atRule, interpolation]

/-- What may become of the scopes above the root, innermost first, by a step on a line. -/
inductive Layout.Unwinds (layout : Layout) (before : List Frame) : List Frame → Prop
  /-- Some of the innermost scopes are closed, or none is. -/
  | closed {closed kept : List Frame} (split : before = closed ++ kept) :
    layout.Unwinds before kept
  /-- A scope is opened on those that stay. Its content is one unit deeper than the line. -/
  | opened {closed kept : List Frame} (split : before = closed ++ kept)
    (unreplaced : ∀ frame ∈ closed, frame.scope ≠ .component) (scope : Scope) :
    layout.Unwinds before (⟨scope, layout.indentation + layout.unit⟩ :: kept)
  /-- A scope takes the place of the header of a component. Its content is level with the line. -/
  | replaced {header : Frame} {kept : List Frame} (split : before = header :: kept)
    (component : header.scope = .component) (scope : Scope) :
    layout.Unwinds before (⟨scope, layout.indentation⟩ :: kept)

variable {dialect : Dialect} {rule : Option DescriptorRule} {lexeme : Lexeme}

/-! ## Headers of components -/

/-- Nothing sits on the header of a component. -/
theorem component_not_mem_seats (scope : Scope) : .component ∉ dialect.seats scope := by
  cases scope with
  | propertyBlock | parens => cases nesting : dialect.allowsNesting <;>
      simp [Dialect.seats, Scope.bodies, nesting]
  | component => cases components : dialect.allowsComponents <;>
      simp [Dialect.seats, Scope.bodies, components]
  | _ => simp [Dialect.seats, Awaiting.seats, Scope.bodies]

/-- So none is open but as the innermost scope. -/
theorem Nesting.Seated.ne_component_of_mem {frame : Frame} {below : List Frame} {root : Root}
    (seated : Nesting.Seated dialect ⟨frame :: below, root⟩) :
    ∀ outer ∈ below, outer.scope ≠ .component := by
  induction below generalizing frame with
  | nil => simp
  | cons next below ih =>
    have seat : next.scope ∈ dialect.seats frame.scope := seated.seat_of_cons
    refine List.forall_mem_cons.mpr ⟨fun component => ?_, ih seated.pop⟩
    rw [component] at seat
    exact component_not_mem_seats frame.scope seat

/-- The header of a component yields at a closing brace only. -/
theorem react_component (dialect : Dialect) (rule : Option DescriptorRule)
    (other : lexeme.token.kind ≠ .braceClose) :
    ∃ answer, react dialect rule lexeme .component = .settle answer := by
  simp only [react, Grammar.inComponent]
  split
  · contradiction
  all_goals exact ⟨_, rfl⟩

/-- What takes the place of the header of a component is level with its line, and what takes the
place of any other header is not. -/
theorem placing_of_replace {scope opened : Scope} {placing : Placing} {answer : Answer}
    (settles : react dialect rule lexeme scope = .settle answer)
    (replaces : answer.move = .replace opened placing) :
    placing = if scope = .component then .level else .deeper := by
  cases scope with
  | body list =>
    cases settles
    have permitted : (Grammar.inBody dialect lexeme list).move.Permitted dialect (.body list) :=
      inBody_permitted list
    have seated : Scope.body list ∈ Scope.bodies := by cases list <;> decide
    rw [replaces] at permitted
    exact absurd seated permitted.2.1
  | _ =>
    simp only [react, Grammar.inPropertyBlock, Grammar.inValue, Grammar.inParens,
      Grammar.inDocumentTypes, Grammar.inConditionParens, Grammar.inCondition, Grammar.inComponent,
      Grammar.inDescriptors, Grammar.inAtRule, Grammar.inInterpolation] at settles
    repeat' split at settles
    all_goals cases settles <;> simp_all [Lexeme.keep]

/-- No awaited token replaces a scope. -/
theorem awaited_ne_replace {token : Awaiting} {answer : Answer}
    (found : awaited rule lexeme token = some answer) (scope : Scope) (placing : Placing) :
    answer.move ≠ .replace scope placing := by
  cases token <;> simp only [awaited] at found <;> repeat' split at found
  all_goals cases found <;> simp [Lexeme.keep]

namespace Context

/-! ## Opening and closing -/

/-- What a move makes of scopes of which some are closed before it. -/
theorem unwinds_apply {context : Context} {closed before : List Frame} {move : Move}
    (layout : Layout) (seated : Nesting.Seated dialect ⟨before, context.nesting.root⟩)
    (split : before = closed ++ context.nesting.opened)
    (unreplaced : move ≠ .leave → ∀ frame ∈ closed, frame.scope ≠ .component)
    (placed : ∀ scope placing, move = .replace scope placing →
      placing = if context.nesting.innermost.scope = .component then .level else .deeper) :
    layout.Unwinds before (context.apply layout move).nesting.opened := by
  cases move with
  | stay | await _ | check _ => exact .closed split
  | enter scope => exact .opened split (unreplaced nofun) scope
  | leave =>
    have outer : context.nesting.opened.tail <:+ before := by
      rw [split]
      exact (List.tail_suffix _).trans (List.suffix_append closed _)
    obtain ⟨front, whole⟩ := outer
    exact .closed whole.symm
  | replace scope placing =>
    obtain rfl := placed scope placing rfl
    have others := unreplaced nofun
    obtain ⟨⟨opened, root⟩, awaiting, rule⟩ := context
    cases opened with
    | nil => exact .opened split others scope
    | cons header kept =>
      by_cases component : header.scope = .component
      · -- The header is the innermost scope of all, so nothing is closed before it is replaced.
        cases closed with
        | nil =>
          have level : layout.Unwinds before (⟨scope, layout.indentation⟩ :: kept) :=
            .replaced split component scope
          simpa [apply, Nesting.pop, Nesting.push, component, Layout.frame] using level
        | cons frame closed =>
          rw [split] at seated
          have below : header ∈ closed ++ header :: kept := by simp
          exact absurd component (seated.ne_component_of_mem header below)
      · have apart : before = (closed ++ [header]) ++ kept := by simp [split]
        have deeper : layout.Unwinds before (⟨scope, layout.indentation + layout.unit⟩ :: kept) :=
          .opened apart (List.forall_mem_append.mpr ⟨others, by simpa using component⟩) scope
        simpa [apply, Nesting.pop, Nesting.push, component, Layout.frame] using deeper

/-- No header of a component is closed before a lexeme is settled, but at a closing brace. -/
theorem exists_closed_settle {opened : List Frame} {root : Root}
    (seated : Nesting.Seated dialect ⟨opened, root⟩) (other : lexeme.token.kind ≠ .braceClose) :
    ∃ closed, opened = closed ++ (Nesting.settle dialect rule lexeme root.body 0 opened).1 ∧
      ∀ frame ∈ closed, frame.scope ≠ .component := by
  cases opened with
  | nil => exact ⟨[], rfl, by simp⟩
  | cons frame below =>
    by_cases component : frame.scope = .component
    · obtain ⟨answer, reacts⟩ := react_component dialect rule other
      rw [← component] at reacts
      rw [Nesting.settle_cons_of_settle dialect rule lexeme root.body below reacts]
      exact ⟨[], rfl, by simp⟩
    · obtain ⟨closed, split⟩ :=
        Nesting.settle_suffix dialect rule lexeme root.body 0 (frame :: below)
      have free : ∀ outer ∈ frame :: below, outer.scope ≠ .component :=
        List.forall_mem_cons.mpr ⟨component, seated.ne_component_of_mem⟩
      rw [← split] at free
      exact ⟨closed, split.symm, fun outer isClosed =>
        free outer (List.mem_append_left _ isClosed)⟩

/-- A step closes some of the innermost scopes and opens one at most on those that stay. -/
theorem Seated.unwinds_step {context : Context} (seated : context.Seated dialect) (layout : Layout)
    (lexeme : Lexeme) :
    layout.Unwinds context.nesting.opened
      (context.step dialect layout lexeme).2.nesting.opened := by
  cases awaits : context.awaitedAnswer? lexeme with
  | some answer =>
    obtain ⟨token, -, found⟩ := Option.bind_eq_some_iff.mp awaits
    rw [step_of_awaited layout awaits]
    exact unwinds_apply layout seated.nesting (List.nil_append _).symm (by simp)
      fun scope placing replaces => absurd replaces (awaited_ne_replace found scope placing)
  | none =>
    by_cases close : lexeme.token.kind = .braceClose
    · rw [seated.step_braceClose layout close]
      obtain ⟨front, whole⟩ : (context.behindBrace).nesting.opened <:+ context.nesting.opened := by
        have suffix : Nesting.braced context.nesting.opened <:+ context.nesting.opened :=
          List.dropWhile_suffix _
        unfold behindBrace
        split
        · exact List.nil_suffix
        · next frame outer found =>
          rw [found] at suffix
          exact (List.suffix_cons frame outer).trans suffix
      exact .closed whole.symm
    · obtain ⟨closed, split, unreplaced⟩ := exists_closed_settle seated.nesting close
      rw [step_of_not_awaited layout awaits]
      exact unwinds_apply layout seated.nesting split (fun _ => unreplaced) fun _ _ =>
        placing_of_replace (context.react_settled dialect lexeme)

end Context

/-! ## Tokens that leave the scopes alone -/

/-- Every scope stays at such a token, or awaits something behind a word or a definition. -/
theorem react_of_not_structural (dialect : Dialect) (rule : Option DescriptorRule)
    (plain : lexeme.token.kind ∉ Kind.structural) (scope : Scope) :
    ∃ answer, react dialect rule lexeme scope = .settle answer ∧
      (answer.move = .stay ∨ (lexeme.token.kind = .word ∨ lexeme.token.kind = .variableDefinition) ∧
        ∃ token, answer.move = .await token) := by
  simp only [Kind.structural, List.mem_cons, List.not_mem_nil, or_false, not_or] at plain
  cases scope with
  | body list =>
    refine ⟨_, rfl, ?_⟩
    cases list <;> simp only [Grammar.inBody, Grammar.inDeclarations, Grammar.inRules]
    all_goals repeat' split
    all_goals simp_all [Lexeme.keep]
  | _ =>
    simp only [react, Grammar.inPropertyBlock, Grammar.inValue, Grammar.inParens,
      Grammar.inDocumentTypes, Grammar.inConditionParens, Grammar.inCondition, Grammar.inComponent,
      Grammar.inDescriptors, Grammar.inAtRule, Grammar.inInterpolation]
    repeat' split
    all_goals simp_all [Lexeme.keep]

/-- Where such a token is awaited nothing is opened or closed. -/
theorem awaited_of_not_structural (plain : lexeme.token.kind ∉ Kind.structural) {token : Awaiting}
    {answer : Answer} (found : awaited rule lexeme token = some answer) :
    answer.move = .stay ∨ ∃ token, answer.move = .await token := by
  simp only [Kind.structural, List.mem_cons, List.not_mem_nil, or_false, not_or] at plain
  cases token <;> simp only [awaited] at found <;> repeat' split at found
  all_goals simp_all
  all_goals simp [← found]

namespace Context

/-- Such a token changes nothing but what is awaited, and that only where something is awaited, or
behind a word or a definition. -/
theorem step_of_not_structural (dialect : Dialect) (plain : lexeme.token.kind ∉ Kind.structural)
    (layout : Layout) (context : Context) :
    ∃ awaiting, (context.step dialect layout lexeme).2 = { context with awaiting } ∧
      (lexeme.token.kind ≠ .word → lexeme.token.kind ≠ .variableDefinition →
        context.awaiting = none → awaiting = none) := by
  cases awaits : context.awaitedAnswer? lexeme with
  | some answer =>
    obtain ⟨token, isAwaited, found⟩ := Option.bind_eq_some_iff.mp awaits
    rw [step_of_awaited layout awaits]
    rcases awaited_of_not_structural plain found with stay | ⟨next, await⟩
    · exact ⟨none, by rw [stay, apply], fun _ _ _ => rfl⟩
    · refine ⟨some next, by rw [await, apply], fun _ _ nothing => ?_⟩
      rw [nothing] at isAwaited
      contradiction
  | none =>
    obtain ⟨answer, reacts, moves⟩ :=
      react_of_not_structural dialect context.rule plain context.nesting.innermost.scope
    rw [step_of_settle layout awaits reacts]
    rcases moves with stay | ⟨named, next, await⟩
    · exact ⟨none, by rw [stay, apply], fun _ _ _ => rfl⟩
    · refine ⟨some next, by rw [await, apply], fun notWord notDefinition _ => ?_⟩
      exact absurd named (not_or.mpr ⟨notWord, notDefinition⟩)

/-! ## Steps -/

/-- What a step at a lexeme on a line keeps of a context. -/
structure Keeps (layout : Layout) (lexeme : Lexeme) (before after : Context) : Prop where
  /-- The root. -/
  root_eq : after.nesting.root = before.nesting.root
  /-- The outer ones of the scopes above it, and one at most is opened on them. -/
  unwinds : layout.Unwinds before.nesting.opened after.nesting.opened
  /-- All scopes, at most tokens. -/
  nesting_eq : lexeme.token.kind ∉ Kind.structural → after.nesting = before.nesting
  /-- The rule against which descriptors are checked, at the same tokens. -/
  rule_eq : lexeme.token.kind ∉ Kind.structural → after.rule = before.rule
  /-- The state of the grammar, unless a token is awaited or the token is a name. -/
  state_eq : lexeme.token.kind ∉ Kind.structural → lexeme.token.kind ≠ .word →
    lexeme.token.kind ≠ .variableDefinition → (∀ token, before.state ≠ .awaiting token) →
      after.state = before.state

/-- Where the grammar does not wait nothing is awaited. -/
theorem awaiting_eq_none {context : Context} (within : ∀ token, context.state ≠ .awaiting token) :
    context.awaiting = none := by
  obtain ⟨nesting, awaiting, rule⟩ := context
  cases awaiting with
  | none => rfl
  | some token => exact absurd rfl (within token)

/-- A step keeps all that of a seated context. -/
theorem Seated.keeps {context : Context} (seated : context.Seated dialect) (layout : Layout)
    (lexeme : Lexeme) :
    context.Keeps layout lexeme (context.step dialect layout lexeme).2 where
  root_eq := context.step_root layout lexeme
  unwinds := seated.unwinds_step layout lexeme
  nesting_eq plain := by
    obtain ⟨awaiting, same, -⟩ := context.step_of_not_structural dialect plain layout
    rw [same]
  rule_eq plain := by
    obtain ⟨awaiting, same, -⟩ := context.step_of_not_structural dialect plain layout
    rw [same]
  state_eq plain notWord notDefinition within := by
    obtain ⟨awaiting, same, quiet⟩ := context.step_of_not_structural dialect plain layout
    have nothing := awaiting_eq_none within
    obtain rfl := quiet notWord notDefinition nothing
    rw [same, ← nothing]

end Context

namespace Mode

variable {mode : Mode} {indent : UInt64} {state : ParseState}

/-- Wherever reading comes, a step at any lexeme of any line keeps the outer scopes as they are,
opens one at most, and does not touch the scopes at most tokens. -/
theorem Reachable.step_keeps (reachable : mode.Reachable indent state) (indentation : UInt64)
    (lexeme : Lexeme) :
    let layout : Layout := ⟨indentation, mode.settings.indentUnit⟩
    state.context.Keeps layout lexeme (state.context.step mode.dialect layout lexeme).2 :=
  reachable.seated.keeps _ lexeme

/-- Behind the name of a component in a block, with each token on a line of its own. -/
def openComponent : ParseState :=
  { continuation := none
    context :=
      { nesting := ⟨[⟨.component, 5⟩, ⟨.body .block, 2⟩], ⟨.top, 0⟩⟩
        awaiting := none
        rule := none } }

/-- Reading comes there. -/
theorem reachable_openComponent : (ofDialect .gss).Reachable 0 openComponent := by
  have bare : (ofDialect .gss).Reachable 0 _ := .start
  have block := bare.next (.ofLine 4 ['{'])
  exact block.next ((Cursor.ofLine 4 "   @component".toList).advance 3).markLexeme

/-- There a brace replaces the header by a block that is level with the line of the brace. -/
theorem step_keeps_openComponent :
    let layout : Layout := ⟨3, 2⟩
    let lexeme : Lexeme := ⟨.bare .braceOpen, ['{'], []⟩
    let after := (openComponent.context.step .gss layout lexeme).2
    (ofDialect .gss).Reachable 0 openComponent ∧
      openComponent.context.Keeps layout lexeme after ∧
      after.nesting.opened = [⟨.body .top, 3⟩, ⟨.body .block, 2⟩] :=
  ⟨reachable_openComponent, reachable_openComponent.step_keeps 3 ⟨.bare .braceOpen, ['{'], []⟩, rfl⟩

end Mode

end Stylesheet
