import Stylesheet.Mode

/-!
# What a read does to the state

A read either passes white space, which changes nothing, or offers one lexeme to the grammar
(`Mode.read_cases`). At a cursor `Mode.offered?` says which, and the two equations of
`Mode.nextToken` give the state behind the read. The states that a host can come to, on whatever
lines it reads and wherever it places the cursor on them, are the `Mode.Reachable` ones.
-/
namespace Stylesheet.Mode

variable (mode : Mode)

/-! ## A read -/

/-- What is read where a lexeme is offered to the grammar. -/
def readLexeme (indentation : UInt64) (carried rest : Text) (state : ParseState) : Reading :=
  let scanned := scan mode.dialect state.continuation rest
  let stepped := state.context.step mode.dialect ⟨indentation, mode.settings.indentUnit⟩
    { token := scanned.token
      text := carried ++ rest.take scanned.length
      rest := rest.drop scanned.length }
  { length := scanned.length
    token := ⟨stepped.1, scanned.token.kind⟩
    state := ⟨scanned.continuation, stepped.2⟩ }

variable {rest : Text} {state : ParseState}

/-- Where nothing is open, white space is passed. -/
theorem read_of_blank (nothing : state.continuation = none)
    (blank : 0 < Text.leading Text.isBlank rest) (indentation : UInt64) (carried : Text) :
    mode.read indentation carried rest state =
      ⟨Text.leading Text.isBlank rest, .bare .whitespace, state⟩ := by
  have passes : (state.continuation.isNone &&
      decide (0 < Text.leading Text.isBlank rest)) = true := by
    simp [nothing, blank]
  rw [read, if_pos passes]

/-- Where text is open, or there is no white space, a lexeme is offered to the grammar. -/
theorem read_of_lexeme
    (black : state.continuation = none → Text.leading Text.isBlank rest = 0)
    (indentation : UInt64) (carried : Text) :
    mode.read indentation carried rest state =
      mode.readLexeme indentation carried rest state := by
  have offers : ¬(state.continuation.isNone &&
      decide (0 < Text.leading Text.isBlank rest)) = true := by
    simpa using black
  rw [read, if_neg offers]
  rfl

/-- A read does the one or the other. -/
theorem read_cases (indentation : UInt64) (carried rest : Text) (state : ParseState) :
    (state.continuation = none ∧ 0 < Text.leading Text.isBlank rest ∧
      mode.read indentation carried rest state =
        ⟨Text.leading Text.isBlank rest, .bare .whitespace, state⟩) ∨
    mode.read indentation carried rest state =
      mode.readLexeme indentation carried rest state := by
  by_cases passes : state.continuation = none ∧ 0 < Text.leading Text.isBlank rest
  · exact .inl ⟨passes.1, passes.2, mode.read_of_blank passes.1 passes.2 indentation carried⟩
  · refine .inr (mode.read_of_lexeme (fun nothing => ?_) indentation carried)
    exact Nat.eq_zero_of_not_pos fun blank => passes ⟨nothing, blank⟩

/-- What a read leaves of the context is the context itself, or what a step leaves of it. -/
theorem read_context {holds : Context → Prop} {indentation : UInt64} (here : holds state.context)
    (step : ∀ lexeme, holds
      (state.context.step mode.dialect ⟨indentation, mode.settings.indentUnit⟩ lexeme).2)
    (carried rest : Text) : holds (mode.read indentation carried rest state).state.context := by
  rcases mode.read_cases indentation carried rest state with ⟨-, -, reads⟩ | reads
  · rw [reads]
    exact here
  · rw [reads]
    exact step _

/-! ## A read at a cursor -/

/-- Where a lexeme starts, what is read is read from the text that is left of the line. -/
theorem nextToken_markLexeme (cursor : Cursor) (state : ParseState) :
    mode.nextToken cursor.markLexeme state =
      let reading := mode.read cursor.indentation [] cursor.rest state
      (reading.token, cursor.markLexeme.advance reading.length, reading.state) := by
  rw [nextToken, Cursor.lexeme_markLexeme]
  rfl

/-- The lexeme that a read at a cursor offers to the grammar; none where the read passes white
space. -/
def offered? (cursor : Cursor) (continuation : Option Continuation) : Option Lexeme :=
  if continuation.isNone && 0 < Text.leading Text.isBlank cursor.rest then none
  else
    let scanned := scan mode.dialect continuation cursor.rest
    some
      { token := scanned.token
        text := cursor.lexeme ++ cursor.rest.take scanned.length
        rest := cursor.rest.drop scanned.length }

/-- The columns that decide about scopes opened on the line of a cursor. -/
def layout (cursor : Cursor) : Layout := ⟨cursor.indentation, mode.settings.indentUnit⟩

/-- White space changes nothing. -/
theorem nextToken_state_of_blank {cursor : Cursor} {state : ParseState}
    (blank : mode.offered? cursor state.continuation = none) :
    (mode.nextToken cursor state).2.2 = state := by
  unfold offered? at blank
  split at blank
  · next passes =>
    simp only [nextToken, read]
    rw [if_pos passes]
  · contradiction

/-- A lexeme takes the context one step on, and the scanner says what it leaves open. -/
theorem nextToken_state_of_offered {cursor : Cursor} {state : ParseState} {lexeme : Lexeme}
    (offered : mode.offered? cursor state.continuation = some lexeme) :
    (mode.nextToken cursor state).2.2 =
      { continuation := (scan mode.dialect state.continuation cursor.rest).continuation
        context := (state.context.step mode.dialect (mode.layout cursor) lexeme).2 } := by
  unfold offered? at offered
  split at offered
  · contradiction
  · next notBlank =>
    cases offered
    simp only [nextToken, read]
    rw [if_neg notBlank]
    rfl

/-- It is painted as the step says. -/
theorem nextToken_style_of_offered {cursor : Cursor} {state : ParseState} {lexeme : Lexeme}
    (offered : mode.offered? cursor state.continuation = some lexeme) :
    (mode.nextToken cursor state).1.style =
      (state.context.step mode.dialect (mode.layout cursor) lexeme).1 := by
  unfold offered? at offered
  split at offered
  · contradiction
  · next notBlank =>
    cases offered
    simp only [nextToken, read]
    rw [if_neg notBlank]
    rfl

/-- The states that reading comes to from the start of a text whose outermost content is indented
to a column. -/
inductive Reachable (indent : UInt64) : ParseState → Prop
  /-- The start of a text. -/
  | start : Reachable indent (mode.startState indent)
  /-- One token further, at any place of any line. -/
  | next (cursor : Cursor) {state : ParseState} :
    Reachable indent state → Reachable indent (mode.nextToken cursor state).2.2

variable {mode}

/-- What holds of the context at the start and is kept by every step of the grammar holds wherever
reading comes. -/
theorem Reachable.context_induction {indent : UInt64} (holds : Context → Prop)
    (start : holds (.start mode.body indent))
    (step : ∀ context layout lexeme, holds context →
      holds (context.step mode.dialect layout lexeme).2)
    {state : ParseState} (reachable : mode.Reachable indent state) : holds state.context := by
  induction reachable with
  | start => exact start
  | @next cursor state reached ih =>
    cases offered : mode.offered? cursor state.continuation with
    | none =>
      rw [mode.nextToken_state_of_blank offered]
      exact ih
    | some lexeme =>
      rw [mode.nextToken_state_of_offered offered]
      exact step state.context (mode.layout cursor) lexeme ih

end Stylesheet.Mode
