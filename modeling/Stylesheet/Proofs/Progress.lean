import Stylesheet.Proofs.Lossless
import Stylesheet.Proofs.OpenText

/-!
# Every reading makes progress

Where there is text, a reading takes some of it, with one exception: a raw argument that ends at
once, because the parenthesis that closes it comes next, has no characters
(`Mode.length_read_eq_zero_iff`). Such a reading closes the argument and does nothing else, and the
next one takes the parenthesis. So a document is read without passing over a character, and no
reading is tried a third time.
-/
namespace Stylesheet

variable {dialect : Dialect}

namespace Scan

/-- A lexeme behind a character has characters. -/
theorem length_behind_pos (scanned : Scanned) : 0 < (scanned.behind 1).length :=
  Nat.add_pos_left Nat.one_pos scanned.length

/-- An identifier has characters. -/
theorem length_identifier_pos (c : Char) (rest : Text) : 0 < (identifier c rest).length := by
  unfold identifier
  split
  · next found => exact length_rawFunction?_pos found
  · split
    · next isIdent => simp [Scanned.styled, Text.leading_cons, isIdent]
    · exact Nat.one_pos

/-- The shared rules take a character at least. -/
theorem length_shared_pos (c : Char) (rest : Text) : 0 < (shared c rest).length := by
  unfold shared
  split
  case h_16 =>
    split
    · exact length_behind_pos _
    · split
      · exact Nat.one_pos
      · exact length_identifier_pos c rest
  all_goals first
    | exact length_behind_pos _
    | exact Nat.one_pos
    | (split <;> simp [Scanned.bare])

/-- Where nothing is open, a lexeme takes a character at least. -/
theorem length_base_pos (dialect : Dialect) (c : Char) (rest : Text) :
    0 < (base dialect (c :: rest)).length := by
  simp only [base]
  split
  · exact length_behind_pos _
  · exact length_shared_pos c rest

/-- No dialect has a construct of its own for a closing parenthesis. -/
theorem base_parenClose (dialect : Dialect) (rest : Text) :
    base dialect (')' :: rest) = .bare .parenClose 1 := by
  cases dialect <;> rfl

/-- A string goes on for a character at least, be it the quote that closes it. -/
theorem length_string_pos (quote : Quote) (c : Char) (rest : Text) :
    0 < (string quote (c :: rest)).length := by
  by_cases closes : c = quote.char
  · simp [string, delimited, closes, Scanned.styled]
  · simp only [string, delimited, closes]
    split <;> simp_all [Scanned.styled] <;> omega

/-- A comment goes on for a character at least. -/
theorem length_comment_pos (c : Char) (rest : Text) : 0 < (comment (c :: rest)).length := by
  simp only [comment, commentBody]
  split <;> simp_all [Scanned.styled] <;> omega

/-- A raw argument that is closed at once has no characters. -/
theorem rawArgument_parenClose (rest : Text) :
    rawArgument (')' :: rest) = .styled .string .string 0 := rfl

/-- Any other raw argument goes on for a character at least. -/
theorem length_rawArgument_pos {c : Char} (other : c ≠ ')') (rest : Text) :
    0 < (rawArgument (c :: rest)).length := by
  simp only [rawArgument, delimited, other]
  split <;> simp_all [Scanned.styled] <;> omega

end Scan

/-- A lexeme has no characters only where a raw argument is closed at once. -/
theorem length_scan_eq_zero_iff {continuation : Option Continuation} {c : Char} {rest : Text} :
    (scan dialect continuation (c :: rest)).length = 0 ↔
      continuation = some .rawArgument ∧ c = ')' := by
  match continuation with
  | none => simpa [scan] using (Scan.length_base_pos dialect c rest).ne'
  | some (.string quote) => simpa [scan] using (Scan.length_string_pos quote c rest).ne'
  | some .comment => simpa [scan] using (Scan.length_comment_pos c rest).ne'
  | some .argument => simp [scan, Scan.argument]
  | some .rawArgument =>
    by_cases closes : c = ')'
    · subst closes
      simp [scan, Scan.rawArgument_parenClose, Scanned.styled]
    · simpa [scan, closes] using (Scan.length_rawArgument_pos closes rest).ne'

namespace Mode

/-- More readings are tried than it takes to read a token. -/
theorem exists_attempts_eq : ∃ left, attempts = left + 2 := ⟨8, rfl⟩

variable (mode : Mode)

/-- A reading has no characters only where a raw argument is closed at once. -/
theorem length_read_eq_zero_iff {indentation : UInt64} {carried : Text} {c : Char} {rest : Text}
    {state : ParseState} :
    (mode.read indentation carried (c :: rest) state).length = 0 ↔
      state.continuation = some .rawArgument ∧ c = ')' := by
  rcases mode.read_cases indentation carried (c :: rest) state with ⟨nothing, blank, reads⟩ | reads
  · simp [reads, nothing, blank.ne']
  · rw [reads]
    exact length_scan_eq_zero_iff

variable {mode} {indentation : UInt64} {rest : Text} {state : ParseState}

/-- A reading with characters is not tried again. -/
theorem readSome_of_pos (taken : 0 < (mode.read indentation [] rest state).length) (left : Nat) :
    mode.readSome indentation rest (left + 1) state = mode.read indentation [] rest state := by
  rw [readSome, if_pos taken]

/-- So it is at the first of all readings that are tried. -/
theorem readSome_attempts (taken : 0 < (mode.read indentation [] rest state).length) :
    mode.readSome indentation rest attempts state = mode.read indentation [] rest state := by
  obtain ⟨left, enough⟩ := exists_attempts_eq
  rw [enough, readSome_of_pos taken (left + 1)]

/-- So what is read from the front of a text is its first token. -/
theorem tokensFrom_append_of_read {part behind : Text} (nonempty : part ≠ []) {reading : Reading}
    (reads : mode.read indentation [] (part ++ behind) state = reading)
    (whole : reading.length = part.length) (offset : Nat) :
    mode.tokensFrom indentation 0 (part ++ behind) offset state =
      { start := offset
        stop := offset + Text.utf8Length part
        text := part
        token := reading.token
        state := reading.state } ::
        mode.tokensFrom indentation 0 behind (offset + Text.utf8Length part) reading.state := by
  have taken : 0 < (mode.read indentation [] (part ++ behind) state).length := by
    rw [reads, whole]
    exact List.length_pos_iff.mpr nonempty
  rw [mode.tokensFrom_of_readSome (List.append_ne_nil_of_left_ne_nil nonempty behind)
    ((readSome_attempts taken).trans reads), whole, List.take_left, List.drop_left]

/-- A reading without characters is tried again with the state that it left behind. -/
theorem readSome_of_length_eq_zero (empty : (mode.read indentation [] rest state).length = 0)
    (left : Nat) :
    mode.readSome indentation rest (left + 1) state =
      mode.readSome indentation rest left (mode.read indentation [] rest state).state := by
  rw [readSome, if_neg (by omega)]

/-- What every step on a line keeps of the context is kept by the readings of a token. -/
theorem readSome_context {holds : Context → Prop}
    (step : ∀ context lexeme, holds context →
      holds (context.step mode.dialect ⟨indentation, mode.settings.indentUnit⟩ lexeme).2)
    (here : holds state.context) (rest : Text) (tries : Nat) :
    holds (mode.readSome indentation rest tries state).state.context := by
  induction tries generalizing state with
  | zero => exact here
  | succ tries ih =>
    have once : holds (mode.read indentation [] rest state).state.context :=
      mode.read_context here (fun lexeme => step _ lexeme here) [] rest
    rw [readSome]
    split
    · exact once
    · exact ih once

/-- So it is by the tokens of a text. -/
theorem context_of_mem_tokensFrom {holds : Context → Prop}
    (step : ∀ context lexeme, holds context →
      holds (context.step mode.dialect ⟨indentation, mode.settings.indentUnit⟩ lexeme).2)
    (here : holds state.context) (skipped : Nat) (rest : Text) (offset : Nat) :
    ∀ placed ∈ mode.tokensFrom indentation skipped rest offset state,
      holds placed.state.context := by
  induction rest generalizing skipped offset state with
  | nil => simp [tokensFrom]
  | cons c rest ih =>
    cases skipped with
    | succ skipped => exact ih here skipped offset
    | zero =>
      have first := readSome_context step here (c :: rest) attempts
      exact List.forall_mem_cons.mpr ⟨first, ih first _ _⟩

/-- What is kept behind every token is kept behind all of them. -/
theorem stateBehind_context {holds : Context → Prop} {tokens : List PlacedToken}
    (behind : ∀ placed ∈ tokens, holds placed.state.context) (here : holds state.context) :
    holds (stateBehind tokens state).context := by
  rw [stateBehind]
  cases last : tokens.getLast? with
  | none => exact here
  | some placed => exact behind placed (List.mem_of_getLast? last)

/-- A raw argument that is closed at once is closed, and nothing is awaited behind it. -/
theorem read_rawArgument_parenClose (mode : Mode) (indentation : UInt64) (carried rest : Text)
    (raw : state.continuation = some .rawArgument) :
    (mode.read indentation carried (')' :: rest) state).length = 0 ∧
      (mode.read indentation carried (')' :: rest) state).state =
        { continuation := none, context := { state.context with awaiting := none } } := by
  rw [mode.read_of_opened raw (by simp), scan, Scan.rawArgument_parenClose]
  exact ⟨rfl, rfl⟩

/-- Where nothing is open, a closing parenthesis is a token. -/
theorem read_parenClose (mode : Mode) (indentation : UInt64) (carried rest : Text)
    (nothing : state.continuation = none) :
    (mode.read indentation carried (')' :: rest) state).length = 1 ∧
      (mode.read indentation carried (')' :: rest) state).token.kind = .parenClose := by
  have black : Text.leading Text.isBlank (')' :: rest) = 0 := by
    rw [Text.leading_cons]
    rfl
  rw [mode.read_of_lexeme fun _ => black, readLexeme, nothing, scan, Scan.base_parenClose]
  exact ⟨rfl, rfl⟩

/-- A token that has characters is read at once, or at the second try behind an empty reading. -/
theorem exists_readSome_eq_read (mode : Mode) (indentation : UInt64) (c : Char) (rest : Text)
    (state : ParseState) (left : Nat) :
    ∃ passed, mode.readSome indentation (c :: rest) (left + 2) state =
        mode.read indentation [] (c :: rest) passed ∧
      0 < (mode.read indentation [] (c :: rest) passed).length ∧
      (passed = state ∨ (mode.read indentation [] (c :: rest) state).length = 0 ∧
        passed = (mode.read indentation [] (c :: rest) state).state) := by
  by_cases empty : (mode.read indentation [] (c :: rest) state).length = 0
  · obtain ⟨raw, rfl⟩ := mode.length_read_eq_zero_iff.mp empty
    have closed := (mode.read_rawArgument_parenClose indentation [] rest raw).2
    have next : 0 < (mode.read indentation [] (')' :: rest)
        (mode.read indentation [] (')' :: rest) state).state).length := by
      rw [closed, (mode.read_parenClose indentation [] rest rfl).1]
      exact Nat.one_pos
    exact ⟨_, (readSome_of_length_eq_zero empty (left + 1)).trans (readSome_of_pos next left), next,
      .inr ⟨empty, rfl⟩⟩
  · have taken := Nat.pos_of_ne_zero empty
    exact ⟨state, readSome_of_pos taken (left + 1), taken, .inl rfl⟩

/-- A reading without characters makes no token: the tokens of a text are those that are read from
the state it leaves behind. -/
theorem tokensFrom_of_read_empty {c : Char} {rest : Text} {offset : Nat}
    (empty : (mode.read indentation [] (c :: rest) state).length = 0) :
    mode.tokensFrom indentation 0 (c :: rest) offset state =
      mode.tokensFrom indentation 0 (c :: rest) offset
        (mode.read indentation [] (c :: rest) state).state := by
  obtain ⟨raw, rfl⟩ := mode.length_read_eq_zero_iff.mp empty
  let closed := (mode.read indentation [] (')' :: rest) state).state
  have nothing : closed.continuation = none :=
    congrArg ParseState.continuation (mode.read_rawArgument_parenClose indentation [] rest raw).2
  have taken : 0 < (mode.read indentation [] (')' :: rest) closed).length := by
    rw [(mode.read_parenClose indentation [] rest nothing).1]
    exact Nat.one_pos
  have again : mode.readSome indentation (')' :: rest) attempts state =
      mode.read indentation [] (')' :: rest) closed := by
    obtain ⟨left, enough⟩ := exists_attempts_eq
    rw [enough, readSome_of_length_eq_zero empty (left + 1), readSome_of_pos taken left]
  have some : ')' :: rest ≠ [] := List.cons_ne_nil ')' rest
  rw [mode.tokensFrom_of_readSome some again,
    mode.tokensFrom_of_readSome some (readSome_attempts taken)]

/-- Wherever reading comes, a token is read from a text that has characters at the first try; but a
raw argument that is closed at once is read without any, which changes nothing except that it is
closed, and the parenthesis that closes it is read at the second try. -/
theorem Reachable.read_at_second_try {indent : UInt64} (reachable : mode.Reachable indent state)
    (indentation : UInt64) (c : Char) (rest : Text) :
    let first := mode.read indentation [] (c :: rest) state
    let second := mode.read indentation [] (c :: rest) first.state
    if state.continuation = some .rawArgument ∧ c = ')' then
      first.length = 0 ∧ first.state = { state with continuation := none } ∧
        second.length = 1 ∧ second.token.kind = .parenClose ∧
        ∀ left, mode.readSome indentation (c :: rest) (left + 2) state = second
    else
      0 < first.length ∧
        ∀ left, mode.readSome indentation (c :: rest) (left + 1) state = first := by
  intro first second
  split
  · next closes =>
    obtain ⟨raw, rfl⟩ := closes
    obtain ⟨empty, closed⟩ := mode.read_rawArgument_parenClose indentation [] rest raw
    have unchanged : first.state = { state with continuation := none } := by
      rw [closed, reachable.quiet.context_eq raw (by simp)]
    have taken : second.length = 1 ∧ second.token.kind = .parenClose := by
      refine mode.read_parenClose indentation [] rest ?_
      rw [unchanged]
    refine ⟨empty, unchanged, taken.1, taken.2, fun left => ?_⟩
    rw [readSome_of_length_eq_zero empty (left + 1)]
    exact readSome_of_pos (by rw [taken.1]; exact Nat.one_pos) left
  · next other =>
    have taken : 0 < first.length :=
      Nat.pos_of_ne_zero fun empty => other (mode.length_read_eq_zero_iff.mp empty)
    exact ⟨taken, readSome_of_pos taken⟩

/-- In a raw argument that goes on behind the end of a line, in parentheses that stand for a
selector. -/
def openArgument : ParseState :=
  { continuation := some .rawArgument
    context := { nesting := ⟨[⟨.parens, 2⟩], ⟨.top, 0⟩⟩, awaiting := none, rule := none } }

/-- Reading comes there by the name of a function and its parenthesis. -/
theorem reachable_openArgument : (ofDialect .scss).Reachable 0 openArgument := by
  have bare : (ofDialect .scss).Reachable 0 _ := .start
  have name := bare.next (.ofLine 4 "url(".toList)
  exact name.next (.advance 3 (.ofLine 4 "url(".toList))

/-- There a parenthesis at the start of the next line is read at the second try. -/
theorem read_at_second_try_openArgument :
    (ofDialect .scss).Reachable 0 openArgument ∧
      let first := (ofDialect .scss).read 0 [] [')', ';'] openArgument
      let second := (ofDialect .scss).read 0 [] [')', ';'] first.state
      first.length = 0 ∧ first.state = { openArgument with continuation := none } ∧
        second.length = 1 ∧ second.token.kind = .parenClose ∧
        ∀ left, (ofDialect .scss).readSome 0 [')', ';'] (left + 2) openArgument = second := by
  have closes : openArgument.continuation = some .rawArgument ∧ ')' = ')' := ⟨rfl, rfl⟩
  have tried := reachable_openArgument.read_at_second_try 0 ')' [';']
  rw [if_pos closes] at tried
  exact ⟨reachable_openArgument, tried⟩

end Mode

end Stylesheet
