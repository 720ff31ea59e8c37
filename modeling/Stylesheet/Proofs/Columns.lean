import Mathlib.Data.List.Forall2
import Stylesheet.Document.Tokens
import Stylesheet.Proofs.Settling

/-!
# Columns decide nothing but indentation

A scope remembers a column, and lines are indented to such columns; reading never asks for one. To
forget all columns commutes with a step of the grammar up to the columns of the scope that it opens
(`Context.step_columnless`), and so two states that differ in columns only read the same tokens from
the same text, wherever the text stands (`Mode.tokensFrom_alike`). The unit of indentation, the tab
size and the column of the outermost content only make columns, so a document has the same tokens
under all of them (`Mode.tokens_of_layout`).
-/
namespace Stylesheet

/-- The same scope, with its content at the first column. -/
def Frame.columnless (frame : Frame) : Frame := { frame with indent := 0 }

/-- The same scopes, with all content at the first column. -/
def Nesting.columnless (nesting : Nesting) : Nesting :=
  ⟨nesting.opened.map Frame.columnless, ⟨nesting.root.body, 0⟩⟩

/-- The same context, with all content at the first column. -/
def Context.columnless (context : Context) : Context :=
  { context with nesting := context.nesting.columnless }

/-- The same state, with all content at the first column. -/
def ParseState.columnless (state : ParseState) : ParseState :=
  { state with context := state.context.columnless }

namespace Nesting

/-- The innermost scope is the same without columns. -/
@[simp] theorem innermost_columnless (nesting : Nesting) :
    nesting.columnless.innermost = nesting.innermost.columnless := by
  obtain ⟨opened, root⟩ := nesting
  cases opened <;> rfl

/-- There is nothing to forget a second time. -/
@[simp] theorem columnless_columnless (nesting : Nesting) :
    nesting.columnless.columnless = nesting.columnless := by
  simp [columnless, Frame.columnless]

/-- A scope is opened without its column. -/
@[simp] theorem columnless_push (frame : Frame) (nesting : Nesting) :
    (nesting.push frame).columnless = nesting.columnless.push frame.columnless := rfl

/-- Closing a scope forgets nothing else. -/
@[simp] theorem columnless_pop (nesting : Nesting) :
    nesting.pop.columnless = nesting.columnless.pop := by
  simp [columnless, pop]

/-- A lexeme is settled in the same scope without columns. -/
theorem settle_columnless (dialect : Dialect) (rule : Option DescriptorRule) (lexeme : Lexeme)
    (body : Body) (skipped : Nat) (opened : List Frame) :
    settle dialect rule lexeme body skipped (opened.map Frame.columnless) =
      ((settle dialect rule lexeme body skipped opened).1.map Frame.columnless,
        (settle dialect rule lexeme body skipped opened).2) := by
  fun_induction settle dialect rule lexeme body skipped opened with
  | case1 => rfl
  | case2 skipped frame below ih => rw [List.map_cons, settle, ih]
  | case3 frame below answer reacts =>
    have same : Grammar.react dialect rule lexeme frame.columnless.scope = .settle answer := reacts
    rw [List.map_cons, settle_cons_of_settle _ _ _ _ _ same]
  | case4 frame below others reacts ih =>
    have same : Grammar.react dialect rule lexeme frame.columnless.scope = .yield others := reacts
    rw [List.map_cons, settle_cons_of_yield _ _ _ _ _ same, ← settle_skipped, ih]

end Nesting

/-- A scope without its column is the same scope. -/
@[simp] theorem Frame.scope_columnless (frame : Frame) : frame.columnless.scope = frame.scope := rfl

/-- The frames of one scope differ in their columns only. -/
@[simp] theorem Layout.columnless_frame (layout : Layout) (scope : Scope) (placing : Placing) :
    (layout.frame scope placing).columnless = ⟨scope, 0⟩ := by
  cases placing <;> rfl

namespace Context

variable (dialect : Dialect) (lexeme : Lexeme)

/-- A move does the same without columns. -/
theorem apply_columnless (layout other : Layout) (context : Context) (move : Move) :
    (context.columnless.apply other move).columnless = (context.apply layout move).columnless := by
  cases move <;> simp [apply, columnless]

/-- A step does the same without columns. -/
theorem step_columnless (layout other : Layout) (context : Context) :
    (context.columnless.step dialect other lexeme).1 = (context.step dialect layout lexeme).1 ∧
      (context.columnless.step dialect other lexeme).2.columnless =
        (context.step dialect layout lexeme).2.columnless := by
  cases awaits : context.awaitedAnswer? lexeme with
  | some answer =>
    have awaited : context.columnless.awaitedAnswer? lexeme = some answer := awaits
    rw [step_of_awaited layout awaits, step_of_awaited other awaited]
    exact ⟨rfl, context.apply_columnless layout other answer.move⟩
  | none =>
    have notAwaited : context.columnless.awaitedAnswer? lexeme = none := awaits
    have search := Nesting.settle_columnless dialect context.rule lexeme context.nesting.root.body 0
      context.nesting.opened
    have answers : context.columnless.settledAnswer dialect lexeme =
        context.settledAnswer dialect lexeme := (congrArg Prod.snd search :)
    have settles : context.columnless.settled dialect lexeme =
        (context.settled dialect lexeme).columnless :=
      (congrArg (fun found => Context.mk ⟨found.1, ⟨context.nesting.root.body, 0⟩⟩
        context.awaiting context.rule) search :)
    rw [step_of_not_awaited layout awaits, step_of_not_awaited other notAwaited, answers, settles]
    exact ⟨rfl, apply_columnless layout other _ _⟩

/-- Contexts that differ in columns only step to such contexts, and paint a lexeme alike. -/
theorem step_of_columnless_eq {left right : Context} (alike : left.columnless = right.columnless)
    (layout other : Layout) :
    (left.step dialect layout lexeme).1 = (right.step dialect other lexeme).1 ∧
      (left.step dialect layout lexeme).2.columnless =
        (right.step dialect other lexeme).2.columnless := by
  have leftStep := step_columnless dialect lexeme layout layout left
  have rightStep := step_columnless dialect lexeme other layout right
  rw [alike] at leftStep
  exact ⟨leftStep.1.symm.trans rightStep.1, leftStep.2.symm.trans rightStep.2⟩

end Context

/-! ## Reading -/

/-- States that differ in columns only. -/
def ParseState.Alike (left right : ParseState) : Prop := left.columnless = right.columnless

namespace ParseState.Alike

variable {left right : ParseState}

/-- The scanner goes on alike. -/
theorem continuation_eq (alike : left.Alike right) : left.continuation = right.continuation := by
  unfold ParseState.Alike at alike
  exact (congrArg ParseState.continuation alike :)

/-- The contexts differ in columns only. -/
theorem context_eq (alike : left.Alike right) :
    left.context.columnless = right.context.columnless := by
  unfold ParseState.Alike at alike
  exact (congrArg ParseState.context alike :)

end ParseState.Alike

/-- What is read of a token, wherever it stands. -/
structure Saying where
  /-- Its text. -/
  text : Text
  /-- What it is. -/
  token : Token
  /-- What to remember behind it, without columns. -/
  state : ParseState

/-- What a token of a line says. -/
def PlacedToken.saying (placed : PlacedToken) : Saying :=
  ⟨placed.text, placed.token, placed.state.columnless⟩

/-- What is remembered behind sayings, without columns. -/
def stateBehindSayings (sayings : List Saying) (state : ParseState) : ParseState :=
  (sayings.getLast?.map Saying.state).getD state

/-- It is what is remembered behind the others after the first. -/
theorem stateBehindSayings_cons (saying : Saying) (sayings : List Saying) (state : ParseState) :
    stateBehindSayings (saying :: sayings) state = stateBehindSayings sayings saying.state := by
  cases sayings with
  | nil => rfl
  | cons next sayings => rw [stateBehindSayings, List.getLast?_cons_cons]; rfl

/-- What is remembered behind tokens is what is remembered behind their sayings. -/
theorem columnless_stateBehind (tokens : List PlacedToken) (state : ParseState) :
    (Mode.stateBehind tokens state).columnless =
      stateBehindSayings (tokens.map PlacedToken.saying) state.columnless := by
  rw [Mode.stateBehind, stateBehindSayings, List.getLast?_map]
  cases tokens.getLast? <;> rfl

/-- Tokens that say the same, in a text that stands behind an offset or at another place. -/
structure PlacedToken.Alike (offset place : Nat) (token counterpart : PlacedToken) : Prop where
  /-- They start as far behind the start of the text. -/
  start_add : token.start + place = counterpart.start + offset
  /-- They stop as far behind the start of the text. -/
  stop_add : token.stop + place = counterpart.stop + offset
  /-- They say the same. -/
  saying_eq : token.saying = counterpart.saying

/-- A part of a text stands as far from its counterpart as the whole. -/
theorem PlacedToken.Alike.of_add {offset place bytes : Nat} {token counterpart : PlacedToken}
    (alike : token.Alike (offset + bytes) (place + bytes) counterpart) :
    token.Alike offset place counterpart where
  start_add := by have starts := alike.start_add; omega
  stop_add := by have stops := alike.stop_add; omega
  saying_eq := alike.saying_eq

namespace Mode

/-- Readings of the same token that leave states behind that differ in columns only. -/
structure Reading.Alike (left right : Reading) : Prop where
  /-- The tokens have as many characters. -/
  length_eq : left.length = right.length
  /-- The tokens are the same. -/
  token_eq : left.token = right.token
  /-- What is remembered differs in columns only. -/
  state_alike : left.state.Alike right.state

variable {mode other : Mode} {left right : ParseState}

/-- States that differ in columns only read the same token, in all modes of a dialect. -/
theorem read_alike (same : mode.dialect = other.dialect) (alike : left.Alike right)
    (indentation column : UInt64) (carried rest : Text) :
    (mode.read indentation carried rest left).Alike (other.read column carried rest right) := by
  simp only [read, alike.continuation_eq, same]
  split
  · exact ⟨rfl, rfl, alike⟩
  · obtain ⟨painted, behind⟩ := Context.step_of_columnless_eq other.dialect _ alike.context_eq
      ⟨indentation, mode.settings.indentUnit⟩ ⟨column, other.settings.indentUnit⟩
    refine ⟨rfl, ?_, ?_⟩
    · rw [painted]
    · rw [ParseState.Alike, ParseState.columnless, ParseState.columnless, behind]

/-- States that differ in columns only read the same token that has characters. -/
theorem readSome_alike (same : mode.dialect = other.dialect) (alike : left.Alike right)
    (indentation column : UInt64) (rest : Text) (tries : Nat) :
    (mode.readSome indentation rest tries left).Alike
      (other.readSome column rest tries right) := by
  induction tries generalizing left right with
  | zero => exact ⟨rfl, rfl, alike⟩
  | succ tries ih =>
    have once := read_alike same alike indentation column [] rest
    simp only [readSome, once.length_eq]
    split
    · exact once
    · exact ih once.state_alike

/-- States that differ in columns only read the same tokens, wherever the text stands. -/
theorem tokensFrom_alike (same : mode.dialect = other.dialect) (alike : left.Alike right)
    (indentation column : UInt64) (skipped : Nat) (rest : Text) (offset place : Nat) :
    List.Forall₂ (PlacedToken.Alike offset place)
      (mode.tokensFrom indentation skipped rest offset left)
      (other.tokensFrom column skipped rest place right) := by
  induction rest generalizing skipped offset place left right with
  | nil => exact .nil
  | cons c rest ih =>
    cases skipped with
    | succ skipped => exact ih alike skipped offset place
    | zero =>
      have first := readSome_alike same alike indentation column (c :: rest) attempts
      simp only [tokensFrom, first.length_eq]
      let bytes := Text.utf8Length ((c :: rest).take
        (other.readSome column (c :: rest) attempts right).length)
      refine .cons ⟨Nat.add_comm offset place, ?_, ?_⟩ ?_
      · change offset + bytes + place = place + bytes + offset
        omega
      · rw [PlacedToken.saying, PlacedToken.saying, first.token_eq, first.state_alike]
      · refine (ih first.state_alike _ (offset + bytes) (place + bytes)).imp ?_
        intro token counterpart apart
        exact apart.of_add

/-- They say the same. -/
theorem map_saying_tokensFrom (same : mode.dialect = other.dialect) (alike : left.Alike right)
    (indentation column : UInt64) (skipped : Nat) (rest : Text) (offset place : Nat) :
    (mode.tokensFrom indentation skipped rest offset left).map PlacedToken.saying =
      (other.tokensFrom column skipped rest place right).map PlacedToken.saying := by
  rw [← List.forall₂_eq_eq_eq, List.forall₂_map_left_iff, List.forall₂_map_right_iff]
  exact (tokensFrom_alike same alike indentation column skipped rest offset place).imp
    fun _ _ apart => apart.saying_eq

/-! ## Documents -/

/-- The tokens of a line are the same in states that differ in columns only. -/
theorem lineTokens_alike (same : mode.dialect = other.dialect) (alike : left.Alike right)
    (line : Text) :
    List.Forall₂ (PlacedToken.Alike 0 0) (mode.lineTokens line left)
      (other.lineTokens line right) :=
  tokensFrom_alike same alike _ _ 0 line 0 0

/-- What is remembered behind tokens is what is remembered behind the others after the first. -/
theorem stateBehind_cons (token : PlacedToken) (tokens : List PlacedToken) (state : ParseState) :
    stateBehind (token :: tokens) state = stateBehind tokens token.state := by
  cases tokens with
  | nil => rfl
  | cons next tokens => rw [stateBehind, List.getLast?_cons_cons]; rfl

/-- Behind such tokens the states differ in columns only. -/
theorem stateBehind_alike {tokens counterparts : List PlacedToken} {offset place : Nat}
    (tokensAlike : List.Forall₂ (PlacedToken.Alike offset place) tokens counterparts)
    (alike : left.Alike right) :
    (stateBehind tokens left).Alike (stateBehind counterparts right) := by
  induction tokensAlike generalizing left right with
  | nil => exact alike
  | @cons token counterpart tokens counterparts first _ ih =>
    have behind : token.state.Alike counterpart.state := congrArg Saying.state first.saying_eq
    rw [stateBehind_cons, stateBehind_cons]
    exact ih behind

/-- So they do at the end of lines. -/
theorem linesEnd_alike (same : mode.dialect = other.dialect) (alike : left.Alike right)
    (lines : List Text) : (mode.linesEnd lines left).Alike (other.linesEnd lines right) := by
  induction lines generalizing left right with
  | nil => exact alike
  | cons line lines ih => exact ih (stateBehind_alike (lineTokens_alike same alike line) alike)

/-- Tokens at one place that say the same are the same tokens of a document. -/
theorem map_onLine_eq {tokens counterparts : List PlacedToken}
    (alike : List.Forall₂ (PlacedToken.Alike 0 0) tokens counterparts) (number : Nat) :
    tokens.map (PlacedToken.onLine number) = counterparts.map (PlacedToken.onLine number) := by
  rw [← List.forall₂_eq_eq_eq, List.forall₂_map_left_iff, List.forall₂_map_right_iff]
  refine alike.imp fun token counterpart apart => ?_
  have text : token.text = counterpart.text := congrArg Saying.text apart.saying_eq
  have is : token.token = counterpart.token := congrArg Saying.token apart.saying_eq
  rw [PlacedToken.onLine, PlacedToken.onLine, text, is, Nat.add_right_cancel apart.start_add,
    Nat.add_right_cancel apart.stop_add]

/-- The tokens of lines are the same in states that differ in columns only. -/
theorem linesTokens_alike (same : mode.dialect = other.dialect) (alike : left.Alike right)
    (number : Nat) (lines : List Text) :
    mode.linesTokens number lines left = other.linesTokens number lines right := by
  induction lines generalizing number left right with
  | nil => rfl
  | cons line lines ih =>
    have tokens := lineTokens_alike same alike line
    rw [linesTokens, linesTokens, map_onLine_eq tokens, ih (stateBehind_alike tokens alike)]

end Mode

/-! ## Layout -/

/-- Tokens that are the same, and behind which the same is remembered but for columns. -/
structure PlacedToken.Agrees (token counterpart : PlacedToken) : Prop where
  start_eq : token.start = counterpart.start
  stop_eq : token.stop = counterpart.stop
  text_eq : token.text = counterpart.text
  /-- They are painted alike, and the grammar takes them for the same. -/
  token_eq : token.token = counterpart.token
  /-- The scanner goes on alike. -/
  continuation_eq : token.state.continuation = counterpart.state.continuation
  /-- The grammar is in the same state. -/
  grammar_eq : token.state.context.state = counterpart.state.context.state
  /-- Descriptors are checked against the same rule. -/
  rule_eq : token.state.context.rule = counterpart.state.context.rule
  /-- The same scopes are open. -/
  scopes_eq : token.state.context.nesting.frames.map Frame.scope =
    counterpart.state.context.nesting.frames.map Frame.scope

/-- The scopes are what is left of the frames without columns. -/
theorem Nesting.map_scope_columnless (nesting : Nesting) :
    nesting.columnless.frames.map Frame.scope = nesting.frames.map Frame.scope := by
  simp [frames, columnless, Function.comp_def, Root.frame]

/-- Contexts that differ in columns only are in the same state. -/
theorem Context.state_columnless (context : Context) :
    context.columnless.state = context.state := by
  rw [state, state, columnless, Nesting.innermost_columnless, Frame.scope_columnless]

/-- Tokens at one place that say the same agree. -/
theorem PlacedToken.Alike.agrees {token counterpart : PlacedToken}
    (alike : token.Alike 0 0 counterpart) : token.Agrees counterpart := by
  have states : token.state.Alike counterpart.state := congrArg Saying.state alike.saying_eq
  have nestings : token.state.context.nesting.columnless =
      counterpart.state.context.nesting.columnless := congrArg Context.nesting states.context_eq
  exact
    { start_eq := Nat.add_right_cancel alike.start_add
      stop_eq := Nat.add_right_cancel alike.stop_add
      text_eq := congrArg Saying.text alike.saying_eq
      token_eq := congrArg Saying.token alike.saying_eq
      continuation_eq := states.continuation_eq
      grammar_eq := by
        rw [← Context.state_columnless, states.context_eq, Context.state_columnless]
      rule_eq := (congrArg Context.rule states.context_eq :)
      scopes_eq := by
        rw [← Nesting.map_scope_columnless, nestings, Nesting.map_scope_columnless] }

namespace Mode

/-- Before a document nothing but the column of its content tells states apart. -/
theorem startState_alike {left right : Mode}
    (inline : left.settings.inline = right.settings.inline) (indent column : UInt64) :
    (left.startState indent).Alike (right.startState column) := by
  simp [ParseState.Alike, startState, body, inline, ParseState.columnless, ParseState.start,
    Context.columnless, Context.start, Nesting.columnless]

/-- Under all units of indentation, tab sizes and columns of its outermost content a document has
the same tokens, and behind every token the same is remembered but for columns. -/
theorem tokens_of_layout {left right : Mode} (dialect : left.dialect = right.dialect)
    (inline : left.settings.inline = right.settings.inline) (indent column : UInt64)
    (document : Text) :
    left.linesTokens 0 (Text.lines document) (left.startState indent) =
        right.linesTokens 0 (Text.lines document) (right.startState column) ∧
      ∀ number line, (Text.lines document)[number]? = some line →
        List.Forall₂ PlacedToken.Agrees
          (left.lineTokens line
            (left.linesEnd ((Text.lines document).take number) (left.startState indent)))
          (right.lineTokens line
            (right.linesEnd ((Text.lines document).take number) (right.startState column))) := by
  have alike := startState_alike inline indent column
  refine ⟨linesTokens_alike dialect alike 0 _, fun number line _ => ?_⟩
  exact (lineTokens_alike dialect (linesEnd_alike dialect alike _) line).imp
    fun _ _ same => same.agrees

/-- Levels of three columns and tab stops eight columns apart. -/
def wideLayout : Mode := { dialect := .scss, settings := { indentUnit := 3, tabSize := 8 } }

/-- A block in a block, opened behind a tab: the tokens are the same and the columns are not. -/
theorem tokens_of_layout_wide :
    let lines := Text.lines ['a', '{', '\n', '\t', '{']
    let scss := ofDialect .scss
    let narrow := scss.startState 0
    let wide := wideLayout.startState 5
    (scss.linesTokens 0 lines narrow = wideLayout.linesTokens 0 lines wide ∧
      ∀ number line, lines[number]? = some line →
        List.Forall₂ PlacedToken.Agrees
          (scss.lineTokens line (scss.linesEnd (lines.take number) narrow))
          (wideLayout.lineTokens line (wideLayout.linesEnd (lines.take number) wide))) ∧
      (scss.linesEnd lines narrow).context.nesting.frames.map Frame.indent = [6, 2, 0] ∧
      (wideLayout.linesEnd lines wide).context.nesting.frames.map Frame.indent = [11, 3, 5] := by
  exact ⟨@tokens_of_layout (ofDialect .scss) wideLayout rfl rfl 0 5 _, by decide, by decide⟩

end Mode

end Stylesheet
