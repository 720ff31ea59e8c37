import Stylesheet.Proofs.Lossless

/-!
# The states between tokens

Highlighting keeps a state from token to token. `Mode.trace` are the tokens of lines as they are
made, each with the state behind it. On a line they are the tokens of the line, read from the state
at the end of the lines above it (`Mode.tracedOn_trace`).
-/
namespace Stylesheet

/-- A token of a document, and what to remember behind it. -/
structure TracedToken where
  /-- The token. -/
  token : DocumentToken
  /-- What to remember behind it. -/
  state : ParseState

/-- A token of a line as a token of the document, with what to remember behind it. -/
def PlacedToken.traced (line : Nat) (placed : PlacedToken) : TracedToken :=
  ⟨placed.onLine line, placed.state⟩

/-- The tokens on one line. -/
def tracedOn (number : Nat) (tokens : List TracedToken) : List TracedToken :=
  tokens.filter (·.token.line == number)

namespace Mode

/-- The tokens of lines from a line number on, with what to remember behind each of them. -/
def trace (mode : Mode) : (number : Nat) → List Text → ParseState → List TracedToken
  | _, [], _ => []
  | number, line :: lines, state =>
    let tokens := mode.lineTokens line state
    tokens.map (PlacedToken.traced number) ++
      trace mode (number + 1) lines (stateBehind tokens state)

/-- They are the tokens of the lines. -/
theorem map_token_trace (mode : Mode) (number : Nat) (lines : List Text) (state : ParseState) :
    (mode.trace number lines state).map TracedToken.token =
      mode.linesTokens number lines state := by
  induction lines generalizing number state with
  | nil => rfl
  | cons line lines ih =>
    rw [trace, linesTokens, List.map_append, List.map_map, ih]
    rfl

variable {mode : Mode}

/-- They are numbered like the lines. -/
theorem line_of_mem_trace {number : Nat} {lines : List Text} {state : ParseState}
    {traced : TracedToken} (isTraced : traced ∈ mode.trace number lines state) :
    number ≤ traced.token.line ∧ traced.token.line < number + lines.length := by
  have isToken : traced.token ∈ mode.linesTokens number lines state := by
    rw [← map_token_trace]
    exact List.mem_map_of_mem isTraced
  exact mode.line_of_mem_linesTokens isToken

/-- Lines behind others are traced from the state at the end of the others. -/
theorem trace_append (number : Nat) (first second : List Text) (state : ParseState) :
    mode.trace number (first ++ second) state =
      mode.trace number first state ++
        mode.trace (number + first.length) second (mode.linesEnd first state) := by
  induction first generalizing number state with
  | nil => rfl
  | cons line first ih =>
    rw [List.cons_append, trace, trace, ih, List.append_assoc, List.length_cons,
      Nat.add_right_comm]
    rfl

/-- On a line they are the tokens of the line, read from the state at the end of the lines above
it. -/
theorem tracedOn_trace {lines : List Text} {number : Nat} {line : Text}
    (isLine : lines[number]? = some line) (state : ParseState) :
    tracedOn number (mode.trace 0 lines state) =
      (mode.lineTokens line (mode.linesEnd (lines.take number) state)).map
        (PlacedToken.traced number) := by
  obtain ⟨inside, rfl⟩ := List.getElem?_eq_some_iff.mp isLine
  have above : (lines.take number).length = number := List.length_take_of_le inside.le
  have split : lines = lines.take number ++ (lines[number] :: lines.drop (number + 1)) := by
    rw [← List.drop_eq_getElem_cons inside, List.take_append_drop]
  conv_lhs => rw [split, trace_append, trace, above, Nat.zero_add]
  rw [tracedOn, List.filter_append, List.filter_append]
  have before : (mode.trace 0 (lines.take number) state).filter (·.token.line == number) = [] := by
    refine List.filter_eq_nil_iff.mpr fun traced isTraced same => ?_
    have bounds := line_of_mem_trace isTraced
    have here := beq_iff_eq.mp same
    omega
  have behind : (mode.trace (number + 1) (lines.drop (number + 1))
      (stateBehind (mode.lineTokens lines[number] (mode.linesEnd (lines.take number) state))
        (mode.linesEnd (lines.take number) state))).filter (·.token.line == number) = [] := by
    refine List.filter_eq_nil_iff.mpr fun traced isTraced same => ?_
    have bounds := line_of_mem_trace isTraced
    have here := beq_iff_eq.mp same
    omega
  rw [before, behind, List.append_nil, List.nil_append]
  refine List.filter_eq_self.mpr fun traced isTraced => ?_
  obtain ⟨placed, -, rfl⟩ := List.mem_map.mp isTraced
  exact beq_self_eq_true number

/-- Every token of a document is one of the tokens of its line. -/
theorem exists_lineTokens_of_mem_highlight {document : Text} {token : DocumentToken}
    (isToken : token ∈ mode.highlight document) :
    ∃ line before placed after, (Text.lines document)[token.line]? = some line ∧
      mode.lineTokens line
          (mode.linesEnd ((Text.lines document).take token.line) (mode.startState 0)) =
        before ++ placed :: after ∧ token = placed.onLine token.line := by
  rw [highlight, ← map_token_trace] at isToken
  obtain ⟨traced, isTraced, rfl⟩ := List.mem_map.mp isToken
  have bounds := (line_of_mem_trace isTraced).2
  rw [Nat.zero_add] at bounds
  have isLine := List.getElem?_eq_getElem bounds
  have onLine : traced ∈ tracedOn traced.token.line
      (mode.trace 0 (Text.lines document) (mode.startState 0)) :=
    List.mem_filter.mpr ⟨isTraced, beq_self_eq_true _⟩
  rw [tracedOn_trace isLine] at onLine
  obtain ⟨placed, isPlaced, same⟩ := List.mem_map.mp onLine
  obtain ⟨before, after, split⟩ := List.append_of_mem isPlaced
  refine ⟨_, before, placed, after, isLine, split, ?_⟩
  rw [← same]
  rfl

end Mode

end Stylesheet
