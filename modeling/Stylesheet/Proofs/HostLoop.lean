import Stylesheet.Proofs.Columns
import Stylesheet.Proofs.Progress
import Stylesheet.Proofs.Trace

/-!
# Documents that are read piece by piece

An editor keeps the state behind every line and reads on from there. So the tokens of two texts on
lines of their own are those of the one, and below them those of the other, read on from where the
one ends (`Mode.linesTokens_append`). A host need not try a reading again, either: the plain loop
that starts a lexeme and reads a token until it is at the end of the line (`Mode.readOn`) comes to
the end, and leaves out no token and adds none but tokens without characters (`Mode.readOn_eq`). It
comes to the end of every line in the state that highlighting comes to (`Mode.incremental`).
-/
namespace Stylesheet

open Text (utf8Length)

/-! ## A lexeme behind the cursor -/

namespace Cursor

variable (cursor : Cursor) (count : Nat)

/-- A line is indented alike wherever the cursor stands. -/
@[simp] theorem indentation_advance : (cursor.advance count).indentation = cursor.indentation := rfl

/-- And wherever a lexeme starts. -/
@[simp] theorem indentation_markLexeme : cursor.markLexeme.indentation = cursor.indentation := rfl

/-- To start a lexeme moves no cursor. -/
@[simp] theorem offset_markLexeme : cursor.markLexeme.offset = cursor.offset := rfl

/-- To pass nothing moves no cursor. -/
theorem advance_zero : cursor.advance 0 = cursor := by
  simp [advance]

/-- The cursor moves on by the bytes that it passes. -/
theorem offset_advance :
    (cursor.advance count).offset = cursor.offset + utf8Length (cursor.rest.take count) := by
  simp [offset, Nat.add_comm]

/-- A lexeme starts where the cursor stood. -/
theorem start_advance_markLexeme : (cursor.markLexeme.advance count).start = cursor.offset := by
  have before : (cursor.markLexeme.advance count).beforeLexeme = cursor.passed.reverse := by
    rw [beforeLexeme, line_advance, line_markLexeme, ← cursor.passed_rest]
    exact List.take_left' cursor.passed.length_reverse
  rw [start, before, Text.utf8Length_reverse, offset]

/-- What is passed from there on is the lexeme. -/
theorem lexeme_advance_markLexeme :
    (cursor.markLexeme.advance count).lexeme = cursor.rest.take count := by
  have passed : (cursor.markLexeme.advance count).index - (cursor.markLexeme.advance count).mark =
      (cursor.rest.take count).reverse.length := by
    simp [index, advance, markLexeme]
  rw [lexeme, passed, passed_advance, rest_markLexeme, List.take_left, List.reverse_reverse]

end Cursor

/-! ## The plain loop on a line -/

namespace Mode

variable (mode : Mode)

/-- How many readings there may be up to the end of a line: two for each character, and one more
where a raw argument may be closed at once. -/
def readingsLeft (rest : Text) (state : ParseState) : Nat :=
  2 * rest.length + if state.continuation = some .rawArgument then 1 else 0

/-- A reading leaves fewer. -/
theorem readingsLeft_read {rest : Text} (nonempty : rest ≠ []) (indentation : UInt64)
    (carried : Text) (state : ParseState) :
    let reading := mode.read indentation carried rest state
    readingsLeft (rest.drop reading.length) reading.state < readingsLeft rest state := by
  intro reading
  obtain ⟨c, rest, rfl⟩ := List.exists_cons_of_ne_nil nonempty
  by_cases empty : reading.length = 0
  · obtain ⟨raw, rfl⟩ := mode.length_read_eq_zero_iff.mp empty
    have closed : reading.state = _ :=
      (mode.read_rawArgument_parenClose indentation carried rest raw).2
    rw [empty, closed, List.drop_zero, readingsLeft, readingsLeft, if_pos raw, if_neg (by simp)]
    exact Nat.lt_succ_self _
  · rw [readingsLeft, readingsLeft, List.length_drop, List.length_cons]
    split <;> split <;> omega

/-- Read a line to its end from where a cursor stands: until the end is reached, start a lexeme and
read one token, whatever it takes. The tokens, and the state at the end. -/
def readOn (cursor : Cursor) (state : ParseState) : List PlacedToken × ParseState :=
  if cursor.rest = [] then ([], state)
  else
    let next := mode.nextToken cursor.markLexeme state
    let behind := next.2.1
    let placed : PlacedToken :=
      { start := behind.start, stop := behind.offset, text := behind.lexeme,
        token := next.1, state := next.2.2 }
    let later := readOn behind next.2.2
    (placed :: later.1, later.2)
termination_by readingsLeft cursor.rest state
decreasing_by
  next inside =>
  exact mode.readingsLeft_read inside _ _ state

variable {mode}

/-- In front of the end of a line a token is read, and then what is behind the token. -/
theorem readOn_of_read {cursor : Cursor} {state : ParseState} {reading : Reading}
    (inside : cursor.rest ≠ [])
    (reads : mode.read cursor.indentation [] cursor.rest state = reading) :
    let text := cursor.rest.take reading.length
    let later := mode.readOn (cursor.markLexeme.advance reading.length) reading.state
    mode.readOn cursor state =
      (⟨cursor.offset, cursor.offset + utf8Length text, text, reading.token, reading.state⟩ ::
        later.1, later.2) := by
  intro text later
  rw [readOn, if_neg inside, mode.nextToken_markLexeme, reads]
  simp only [cursor.start_advance_markLexeme, cursor.lexeme_advance_markLexeme,
    Cursor.offset_advance, Cursor.offset_markLexeme, Cursor.rest_markLexeme]
  rfl

/-- The plain loop makes the tokens of a line and perhaps some without characters, and comes to the
state behind them. -/
theorem readOn_eq (cursor : Cursor) (state : ParseState) :
    let tokens := mode.tokensFrom cursor.indentation 0 cursor.rest cursor.offset state
    (mode.readOn cursor state).1.filter (fun placed => placed.start < placed.stop) = tokens ∧
      (mode.readOn cursor state).2 = stateBehind tokens state := by
  induction cursor, state using readOn.induct mode with
  | case1 cursor state ended =>
    rw [readOn, if_pos ended, ended]
    exact ⟨rfl, rfl⟩
  | case2 cursor state inside next behind ih =>
    simp only [behind, next, mode.nextToken_markLexeme, Cursor.offset_advance,
      Cursor.offset_markLexeme, Cursor.rest_advance, Cursor.rest_markLexeme,
      Cursor.indentation_advance, Cursor.indentation_markLexeme] at ih
    rw [readOn_of_read inside rfl]
    generalize reads : mode.read cursor.indentation [] cursor.rest state = reading at ih ⊢
    obtain ⟨later, final⟩ := ih
    intro tokens
    by_cases empty : reading.length = 0
    · -- The loop records the empty reading where highlighting tries again with the state behind it.
      have again : tokens =
          mode.tokensFrom cursor.indentation 0 cursor.rest cursor.offset reading.state := by
        obtain ⟨c, rest, left⟩ := List.exists_cons_of_ne_nil inside
        simp only [tokens, ← reads, left] at empty ⊢
        exact tokensFrom_of_read_empty empty
      simp only [empty, List.take_zero, List.drop_zero, Text.utf8Length_nil, Nat.add_zero]
        at later final ⊢
      rw [again, List.filter_cons_of_neg (by simp), later, final]
      refine ⟨rfl, ?_⟩
      rw [mode.tokensFrom_of_readSome inside rfl, stateBehind_cons, stateBehind_cons]
    · have taken : 0 < reading.length := Nat.pos_of_ne_zero empty
      have first := (readSome_attempts (by rw [reads]; exact taken)).trans reads
      have bytes : 0 < utf8Length (cursor.rest.take reading.length) := by
        refine Nat.pos_of_ne_zero fun none => inside ?_
        have untaken := Text.utf8Length_eq_zero_iff.mp none
        exact (List.take_eq_nil_iff.mp untaken).resolve_left empty
      have made : tokens = _ := mode.tokensFrom_of_readSome inside first
      rw [made, stateBehind_cons, List.filter_cons_of_pos (by simpa using bytes), later, final]
      exact ⟨rfl, rfl⟩

/-- So it reads the tokens of a whole line, and comes to the state at its end. -/
theorem readOn_ofLine (mode : Mode) (line : Text) (state : ParseState) :
    let read := mode.readOn (.ofLine mode.settings.tabSize line) state
    read.1.filter (fun placed => placed.start < placed.stop) = mode.lineTokens line state ∧
      read.2 = mode.lineEnd line state :=
  readOn_eq (.ofLine mode.settings.tabSize line) state

/-! ## Lines -/

variable (mode)

/-- Read lines with the plain loop, from a line number on. The tokens, and the states at the ends of
the lines. -/
def readLinesOn : (number : Nat) → List Text → ParseState → List DocumentToken × List ParseState
  | _, [], _ => ([], [])
  | number, line :: lines, state =>
    let read := mode.readOn (.ofLine mode.settings.tabSize line) state
    let later := readLinesOn (number + 1) lines read.2
    (read.1.map (PlacedToken.onLine number) ++ later.1, read.2 :: later.2)

/-- The plain loop makes the tokens of lines and perhaps some without characters, and comes to the
end of every line in the state behind it. -/
theorem readLinesOn_eq (number : Nat) (lines : List Text) (state : ParseState) :
    let read := mode.readLinesOn number lines state
    read.1.filter (fun token => token.start < token.stop) = mode.linesTokens number lines state ∧
      read.2 = (List.range lines.length).map fun count =>
        mode.linesEnd (lines.take (count + 1)) state := by
  induction lines generalizing number state with
  | nil => exact ⟨rfl, rfl⟩
  | cons line lines ih =>
    obtain ⟨here, ends⟩ := mode.readOn_ofLine line state
    obtain ⟨later, endsLater⟩ := ih (number + 1) (mode.lineEnd line state)
    constructor
    · rw [readLinesOn, List.filter_append, List.filter_map, ends, later, linesTokens]
      exact congrArg (· ++ _) (congrArg (List.map _) here)
    · rw [readLinesOn, ends, endsLater, List.length_cons, List.range_succ_eq_map, List.map_cons,
        List.map_map]
      rfl

end Mode

/-- A token that stands some lines further down. -/
def DocumentToken.below (count : Nat) (token : DocumentToken) : DocumentToken :=
  { token with line := token.line + count }

namespace Mode

variable (mode : Mode)

/-- Lines further down have the same tokens further down. -/
theorem linesTokens_below (number count : Nat) (lines : List Text) (state : ParseState) :
    mode.linesTokens (number + count) lines state =
      (mode.linesTokens number lines state).map (DocumentToken.below count) := by
  induction lines generalizing number state with
  | nil => rfl
  | cons line lines ih =>
    rw [linesTokens, linesTokens, List.map_append, List.map_map, Nat.add_right_comm, ih]
    rfl

/-- Lines behind others are read on from where the others end. -/
theorem linesTokens_append (number : Nat) (first second : List Text) (state : ParseState) :
    mode.linesTokens number (first ++ second) state =
      mode.linesTokens number first state ++
        mode.linesTokens (number + first.length) second (mode.linesEnd first state) := by
  rw [← map_token_trace, trace_append, List.map_append, map_token_trace, map_token_trace]

/-- A document can be read piece by piece. The tokens of two texts on lines of their own are those
of the first and below them those of the second, read on from the state at the end of the first; and
the second ends as the document does. A host that reads every line of a document with the plain loop
gets its tokens, once those without characters are left out, and comes to the end of every line in
the state that highlighting comes to. -/
theorem incremental :
    (∀ first second : Text,
      mode.highlight (first ++ '\n' :: second) =
          mode.highlight first ++
            (mode.linesTokens 0 (Text.lines second) (mode.finalState first)).map
              (DocumentToken.below (Text.lines first).length) ∧
        mode.finalState (first ++ '\n' :: second) =
          mode.linesEnd (Text.lines second) (mode.finalState first)) ∧
      ∀ document : Text,
        let lines := Text.lines document
        let read := mode.readLinesOn 0 lines (mode.startState 0)
        read.1.filter (fun token => token.start < token.stop) = mode.highlight document ∧
          read.2 = (List.range lines.length).map fun count =>
            mode.linesEnd (lines.take (count + 1)) (mode.startState 0) := by
  refine ⟨fun first second => ⟨?_, ?_⟩, fun document => ?_⟩
  · rw [highlight, Text.lines_append, linesTokens_append, linesTokens_below]
    rfl
  · rw [finalState, Text.lines_append, linesEnd, List.foldl_append]
    rfl
  · exact mode.readLinesOn_eq 0 (Text.lines document) (mode.startState 0)

end Mode

end Stylesheet
