import Mathlib.Data.List.TakeWhile
import Stylesheet.Proofs.Columns
import Stylesheet.Proofs.Lossless
import Stylesheet.Proofs.Progress

/-!
# White space in front of a line

White space in front of a line is a token of its own, or it belongs to the string or the comment
that goes on there; in front of the parenthesis that closes a raw argument it is all that is left
of the argument. In each case the other tokens are those of the line without it
(`Mode.indented_tokensFrom`). So a line says the same however it is indented, and leaves the same
behind but for columns (`Mode.lineTokens_of_blank_append`). A line of white space alone says nothing
and changes nothing, unless a string goes on there: it ends the string (`Mode.lineEnd_of_blank`).
-/
namespace Stylesheet

open Text (isBlank trimStart leading utf8Length)

variable {blank : Text} {c : Char}

namespace Text

/-- A run of white space ends in front of any other character. -/
theorem leading_blank_append (white : ∀ space ∈ blank, isBlank space) (black : isBlank c = false)
    (rest : Text) : leading isBlank (blank ++ c :: rest) = blank.length := by
  have ends : ¬isBlank c = true := by simp [black]
  rw [leading, List.takeWhile_append_of_pos white, List.takeWhile_cons_of_neg ends,
    List.append_nil]

/-- White space alone is a single run. -/
theorem leading_blank (white : ∀ space ∈ blank, isBlank space) :
    leading isBlank blank = blank.length := by
  rw [leading, List.takeWhile_eq_self_iff.mpr white]

/-- White space in front of a text is trimmed. -/
theorem trimStart_blank_append (white : ∀ space ∈ blank, isBlank space) (text : Text) :
    trimStart (blank ++ text) = trimStart text :=
  List.dropWhile_append_of_pos white

/-- There is nothing to trim in front of any other character. -/
theorem trimStart_of_black (black : isBlank c = false) (rest : Text) :
    trimStart (c :: rest) = c :: rest :=
  List.dropWhile_cons_of_neg (by simp [black])

end Text

/-! ## What goes on behind white space -/

namespace Scan

/-- White space in front of a delimited text belongs to it. -/
theorem delimited_blank_append {delimiter : Char} (black : isBlank delimiter = false)
    (white : ∀ space ∈ blank, isBlank space) (text : Text) :
    delimited delimiter false (blank ++ text) =
      (blank.length + (delimited delimiter false text).1, (delimited delimiter false text).2) := by
  induction blank with
  | nil => simp
  | cons space blank ih =>
    obtain ⟨here, later⟩ := List.forall_mem_cons.mp white
    have open_ : space ≠ delimiter := fun same => by simp [same, black] at here
    have backslash : isBlank '\\' = false := by decide
    have plain : space ≠ '\\' := fun same => by simp [same, backslash] at here
    simp only [List.cons_append, delimited, open_, ih later, List.length_cons,
      decide_false, Bool.false_and, Bool.false_eq_true, if_false, Bool.not_false, Bool.true_and,
      beq_false_of_ne plain]
    rw [Nat.add_right_comm]

/-- White space in front of what is left of a comment belongs to it. -/
theorem commentBody_blank_append (white : ∀ space ∈ blank, isBlank space) (text : Text) :
    commentBody false (blank ++ text) =
      (blank.length + (commentBody false text).1, (commentBody false text).2) := by
  induction blank with
  | nil => simp
  | cons space blank ih =>
    obtain ⟨here, later⟩ := List.forall_mem_cons.mp white
    have star : isBlank '*' = false := by decide
    have plain : space ≠ '*' := fun same => by simp [same, star] at here
    simp only [List.cons_append, commentBody, beq_false_of_ne plain, ih later, List.length_cons,
      Bool.false_and, Bool.false_eq_true, if_false]
    rw [Nat.add_right_comm]

/-- White space in front of what is left of a string belongs to it. -/
theorem string_blank_append (quote : Quote) (white : ∀ space ∈ blank, isBlank space)
    (text : Text) : string quote (blank ++ text) = (string quote text).behind blank.length := by
  have black : isBlank quote.char = false := by cases quote <;> decide
  rw [string, string, delimited_blank_append black white]
  rcases delimited quote.char false text with ⟨length, _ | _ | _⟩ <;> rfl

/-- White space in front of what is left of a raw argument belongs to it. -/
theorem rawArgument_blank_append (white : ∀ space ∈ blank, isBlank space) (text : Text) :
    rawArgument (blank ++ text) = (rawArgument text).behind blank.length := by
  have black : isBlank ')' = false := by decide
  rw [rawArgument, rawArgument, delimited_blank_append black white]
  rcases delimited ')' false text with ⟨length, _ | _⟩ <;> rfl

/-- White space in front of what is left of a comment belongs to the comment. -/
theorem comment_blank_append (white : ∀ space ∈ blank, isBlank space) (text : Text) :
    comment (blank ++ text) = (comment text).behind blank.length := by
  rw [comment, comment, commentBody_blank_append white]
  rcases commentBody false text with ⟨length, _ | _⟩ <;> rfl

end Scan

/-- White space belongs to the text that goes on there. -/
theorem scan_blank_append {dialect : Dialect} {opened : Continuation} (other : opened ≠ .argument)
    (white : ∀ space ∈ blank, isBlank space) (text : Text) :
    scan dialect (some opened) (blank ++ text) =
      (scan dialect (some opened) text).behind blank.length := by
  cases opened with
  | string quote => exact Scan.string_blank_append quote white text
  | comment => exact Scan.comment_blank_append white text
  | argument => contradiction
  | rawArgument => exact Scan.rawArgument_blank_append white text

/-- A comment or a raw argument goes on behind a line without any of it. -/
theorem scan_nil (dialect : Dialect) {opened : Continuation} (other : opened ≠ .argument)
    (outside : ∀ quote, opened ≠ .string quote) :
    (scan dialect (some opened) []).length = 0 ∧
      (scan dialect (some opened) []).continuation = some opened := by
  cases opened with
  | string quote => exact absurd rfl (outside quote)
  | comment => exact ⟨rfl, rfl⟩
  | argument => contradiction
  | rawArgument => exact ⟨rfl, rfl⟩

/-! ## Reading behind white space -/

namespace Mode

variable (mode : Mode) (indentation : UInt64) {state : ParseState} {opened : Continuation}

/-- Where nothing is open, a run of white space is a token that changes nothing. -/
theorem read_of_leading (nothing : state.continuation = none) {rest : Text}
    (white : leading isBlank rest = blank.length) (nonempty : blank ≠ []) :
    mode.read indentation [] rest state = ⟨blank.length, .bare .whitespace, state⟩ := by
  have positive : 0 < blank.length := List.length_pos_iff.mpr nonempty
  rw [mode.read_of_blank nothing (by rw [white]; exact positive), white]

/-- White space belongs to the token that goes on there. -/
theorem read_blank_append (opens : state.continuation = some opened) (other : opened ≠ .argument)
    (white : ∀ space ∈ blank, isBlank space) (rest : Text) :
    mode.read indentation [] (blank ++ rest) state =
      { mode.read indentation [] rest state with
        length := blank.length + (mode.read indentation [] rest state).length } := by
  rw [mode.read_of_opened opens other, mode.read_of_opened opens other,
    scan_blank_append other white]
  rfl

/-- A blank line changes nothing, unless a string goes on there. -/
theorem read_blank (white : ∀ space ∈ blank, isBlank space) (nonempty : blank ≠ [])
    (quiet : state.Quiet) (other : state.continuation ≠ some .argument)
    (outside : ∀ quote, state.continuation ≠ some (.string quote)) :
    (mode.read indentation [] blank state).length = blank.length ∧
      (mode.read indentation [] blank state).state = state := by
  cases opens : state.continuation with
  | none =>
    rw [mode.read_of_leading indentation opens (Text.leading_blank white) nonempty]
    exact ⟨rfl, rfl⟩
  | some opened =>
    rw [opens] at other outside
    have notArgument : opened ≠ .argument := fun same => other (congrArg _ same)
    have notString : ∀ quote, opened ≠ .string quote := fun quote same =>
      outside quote (congrArg _ same)
    obtain ⟨nothing, goesOn⟩ := scan_nil mode.dialect notArgument notString
    have appended := mode.read_blank_append indentation opens notArgument white []
    have behind : mode.read indentation [] [] state =
        { length := 0, token := (mode.read indentation [] [] state).token, state } := by
      rw [mode.read_of_opened opens notArgument, nothing, goesOn,
        quiet.context_eq opens notArgument, ← opens]
    rw [List.append_nil, behind] at appended
    rw [appended]
    exact ⟨rfl, rfl⟩

end Mode

/-! ## The tokens of a line -/

/-- What a line says with white space in front of it, and without: the white space is said apart,
or joined to the first token. -/
inductive Indented (blank : Text) : (bare indented : List Saying) → Prop
  /-- The white space is said apart. -/
  | apart (token : Token) (state : ParseState) (sayings : List Saying) :
    Indented blank sayings (⟨blank, token, state⟩ :: sayings)
  /-- The first token starts with the white space. -/
  | joined (text : Text) (token : Token) (state : ParseState) (sayings : List Saying) :
    Indented blank (⟨text, token, state⟩ :: sayings) (⟨blank ++ text, token, state⟩ :: sayings)

namespace Mode

variable {mode : Mode} {state : ParseState} {indentation : UInt64}

/-- A text says what its first token does, and then what is behind it says. -/
theorem map_saying_tokensFrom_of_readSome {rest : Text} (nonempty : rest ≠ [])
    {reading : Reading} (reads : mode.readSome indentation rest attempts state = reading) :
    (mode.tokensFrom indentation 0 rest 0 state).map PlacedToken.saying =
      ⟨rest.take reading.length, reading.token, reading.state.columnless⟩ ::
        (mode.tokensFrom indentation 0 (rest.drop reading.length) 0 reading.state).map
          PlacedToken.saying := by
  rw [mode.tokensFrom_of_readSome nonempty reads, List.map_cons]
  exact congrArg _ (map_saying_tokensFrom rfl rfl _ _ _ _ _ _)

/-- Where nothing is open, white space in front of a text is a token that says nothing else. -/
theorem map_saying_tokensFrom_of_blank (mode : Mode) {text : Text}
    (nothing : state.continuation = none) (white : 0 < leading isBlank text)
    (indentation : UInt64) :
    (mode.tokensFrom indentation 0 text 0 state).map PlacedToken.saying =
      ⟨text.take (leading isBlank text), .bare .whitespace, state.columnless⟩ ::
        (mode.tokensFrom indentation 0 (trimStart text) 0 state).map PlacedToken.saying := by
  have some : text ≠ [] := fun empty => by simp [empty] at white
  have first := mode.read_of_blank nothing white indentation []
  have reads := (readSome_attempts (by rw [first]; exact white)).trans first
  rw [map_saying_tokensFrom_of_readSome some reads, Text.drop_leading, ← trimStart]

/-- White space in front of a line is said apart, or joined to the first token. -/
theorem indented_tokensFrom (white : ∀ space ∈ blank, isBlank space) (nonempty : blank ≠ [])
    (black : isBlank c = false) (other : state.continuation ≠ some .argument)
    (indentation : UInt64) (rest : Text) :
    Indented blank
      ((mode.tokensFrom indentation 0 (c :: rest) 0 state).map PlacedToken.saying)
      ((mode.tokensFrom indentation 0 (blank ++ c :: rest) 0 state).map PlacedToken.saying) := by
  have positive : 0 < blank.length := List.length_pos_iff.mpr nonempty
  have full : blank ++ c :: rest ≠ [] := by simp
  cases opens : state.continuation with
  | none =>
    have run := Text.leading_blank_append white black rest
    have some : 0 < leading isBlank (blank ++ c :: rest) := by rw [run]; exact positive
    have said := mode.map_saying_tokensFrom_of_blank opens some indentation
    rw [run, List.take_left, Text.trimStart_blank_append white, Text.trimStart_of_black black]
      at said
    rw [said]
    exact .apart _ _ _
  | some opened =>
    have notArgument : opened ≠ .argument := fun same => other (opens.trans (congrArg _ same))
    have first := mode.read_blank_append indentation opens notArgument white (c :: rest)
    have taken : 0 < (mode.read indentation [] (blank ++ c :: rest) state).length := by
      rw [first]
      exact Nat.add_pos_left positive _
    rw [map_saying_tokensFrom_of_readSome full ((readSome_attempts taken).trans first)]
    simp only [List.take_length_add_append, List.drop_length_add_append]
    by_cases empty : (mode.read indentation [] (c :: rest) state).length = 0
    · rw [tokensFrom_of_read_empty empty, empty, List.take_zero, List.drop_zero,
        List.append_nil]
      exact .apart _ _ _
    · have bare := readSome_attempts (Nat.pos_of_ne_zero empty)
      rw [map_saying_tokensFrom_of_readSome (List.cons_ne_nil c rest) bare]
      exact .joined _ _ _ _

end Mode

end Stylesheet
