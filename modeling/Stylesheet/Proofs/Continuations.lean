import Stylesheet.Proofs.LeadingSpace

/-!
# What is left open from token to token and from line to line

A host reads a line from its start to its end, one token after the other, and goes on with the next
line in the state that it has come to (`Mode.OnLine` and `Mode.OverLines`). On the way a function is
left open in front of its parenthesis only, a comment and a string at the end of a line, and a raw
argument there or behind the parenthesis of its function (`Mode.OverLines.continues`). All of it
follows from what a single lexeme may leave open (`Scan.LeftOpen`). Highlighting reads so
(`Mode.overLines_linesEnd`), and what holds wherever reading comes holds between the lines of every
document (`Mode.reachable_linesEnd`).
-/
namespace Stylesheet

variable {dialect : Dialect} {text : Text} {opened : Continuation}

/-! ## Backslashes at the end -/

/-- A text that ends in a backslash, with an even number of backslashes right in front of it. -/
def Text.EndsEscaping (text : Text) : Prop :=
  ∃ front pairs, text = front ++ (List.replicate (2 * pairs) '\\' ++ ['\\']) ∧
    front.getLast? ≠ some '\\'

/-- Such a text ends in a backslash. -/
theorem Text.EndsEscaping.getLast? (escaping : text.EndsEscaping) :
    text.getLast? = some '\\' := by
  obtain ⟨front, pairs, rfl, -⟩ := escaping
  rw [← List.append_assoc, List.getLast?_concat]

namespace Scan

/-- Whether the character behind a text is escaped, if the first one is or is not. -/
def escapes (escaped : Bool) (text : Text) : Bool :=
  text.foldl (fun escaped c => !escaped && c == '\\') escaped

/-- A backslash escapes what is behind it unless it is escaped itself. -/
theorem escapes_concat (escaped : Bool) (text : Text) (c : Char) :
    escapes escaped (text ++ [c]) = (!escapes escaped text && c == '\\') := by
  rw [escapes, List.foldl_append]
  rfl

/-- What is behind a text is escaped if the text ends in an odd number of backslashes. -/
theorem exists_escapes_eq (text : Text) :
    ∃ front count, text = front ++ List.replicate count '\\' ∧ front.getLast? ≠ some '\\' ∧
      escapes false text = (count % 2 == 1) := by
  induction text using List.reverseRecOn with
  | nil => exact ⟨[], 0, rfl, by simp, rfl⟩
  | append_singleton text c ih =>
    obtain ⟨front, count, split, other, parity⟩ := ih
    by_cases backslash : c = '\\'
    · refine ⟨front, count + 1, ?_, other, ?_⟩
      · rw [split, backslash, List.append_assoc, List.replicate_succ']
      · rw [escapes_concat, parity, backslash]
        rcases Nat.mod_two_eq_zero_or_one count with even | odd
        · simp [even, Nat.add_mod]
        · simp [odd, Nat.add_mod]
    · refine ⟨text ++ [c], 0, by simp, by simpa using backslash, ?_⟩
      rw [escapes_concat, beq_false_of_ne backslash, Bool.and_false]
      rfl

/-- So the last backslash stands behind an even number of others. -/
theorem endsEscaping_of_escapes (escaped : escapes false text = true) : text.EndsEscaping := by
  obtain ⟨front, count, rfl, other, parity⟩ := exists_escapes_eq text
  have odd : count % 2 = 1 := by simpa [escaped] using parity.symm
  obtain ⟨pairs, rfl⟩ : ∃ pairs, count = 2 * pairs + 1 := ⟨count / 2, by omega⟩
  exact ⟨front, pairs, by rw [List.replicate_succ'], other⟩

/-! ## What a lexeme leaves open -/

/-- A text without its delimiter is read to its end. -/
theorem delimited_unclosed {delimiter : Char} {escaped escapedBehind : Bool} {length : Nat}
    (unclosed : delimited delimiter escaped text = (length, .unclosed escapedBehind)) :
    length = text.length ∧ escapedBehind = escapes escaped text := by
  induction text generalizing escaped length with
  | nil =>
    simp only [delimited, Prod.mk.injEq, Ending.unclosed.injEq] at unclosed
    exact ⟨unclosed.1.symm, unclosed.2.symm⟩
  | cons c rest ih =>
    rw [delimited] at unclosed
    split at unclosed
    · simp at unclosed
    · cases behind : delimited delimiter (!escaped && c == '\\') rest with
      | mk more ending =>
        simp only [behind, Prod.mk.injEq] at unclosed
        obtain ⟨rfl, rfl⟩ := unclosed
        obtain ⟨whole, same⟩ := ih behind
        exact ⟨by rw [whole, List.length_cons], by rw [same]; rfl⟩

/-- A comment without its end is read to the end of the line. -/
theorem commentBody_unclosed {afterStar : Bool} {length : Nat}
    (unclosed : commentBody afterStar text = (length, false)) : length = text.length := by
  induction text generalizing afterStar length with
  | nil => exact (congrArg Prod.fst unclosed).symm
  | cons c rest ih =>
    rw [commentBody] at unclosed
    split at unclosed
    · simp at unclosed
    · cases behind : commentBody (c == '*') rest with
      | mk more closed =>
        simp only [behind, Prod.mk.injEq] at unclosed
        obtain ⟨rfl, rfl⟩ := unclosed
        rw [ih behind, List.length_cons]

/-- A comment that is left open is read to the end of the line. -/
theorem comment_open (opens : (comment text).continuation = some opened) :
    opened = .comment ∧ (comment text).length = text.length := by
  unfold comment at opens ⊢
  split at opens
  · contradiction
  · next length body =>
    exact ⟨(Option.some.inj opens).symm, commentBody_unclosed body⟩

/-- A string that is left open is read to the end of the line, which escapes what is behind it. -/
theorem string_open {quote : Quote} (opens : (string quote text).continuation = some opened) :
    opened = .string quote ∧ (string quote text).length = text.length ∧ text.EndsEscaping := by
  unfold string at opens ⊢
  split at opens
  · contradiction
  · next length body =>
    obtain ⟨whole, escaped⟩ := delimited_unclosed body
    exact ⟨(Option.some.inj opens).symm, whole, endsEscaping_of_escapes escaped.symm⟩
  · contradiction

/-- A raw argument that is left open is read to the end of the line. -/
theorem rawArgument_open (opens : (rawArgument text).continuation = some opened) :
    opened = .rawArgument ∧ (rawArgument text).length = text.length := by
  unfold rawArgument at opens ⊢
  split at opens
  · contradiction
  · next length escaped body =>
    exact ⟨(Option.some.inj opens).symm, (delimited_unclosed body).1⟩

/-- What a lexeme of a length at the front of a text leaves open, and what was open in front of
it. -/
inductive LeftOpen (before : Option Continuation) (text : Text) (length : Nat) :
    Continuation → Prop
  /-- A comment has no end on the line. -/
  | comment (whole : length = text.length) : LeftOpen before text length .comment
  /-- A string has no end on the line, and the line escapes what is behind it. The part of it that
  stands on the line starts behind its quote, or where it goes on. -/
  | string {quote : Quote} {part : Text} (whole : length = text.length)
    (starts : (text = quote.char :: part ∧ before = none) ∨
      (text = part ∧ before = some (.string quote)))
    (escaping : part.EndsEscaping) : LeftOpen before text length (.string quote)
  /-- The name of a function ends in front of a parenthesis. -/
  | argument {name : String} {rest : Text} (isName : name ∈ Pattern.rawFunctions)
    (split : text = name.toList ++ '(' :: rest) (named : length = name.toList.length) :
    LeftOpen before text length .argument
  /-- A raw argument has no end on the line. -/
  | rawArgument (whole : length = text.length) : LeftOpen before text length .rawArgument
  /-- The parenthesis of a function stands in front of a raw argument. -/
  | paren (named : before = some .argument) (single : length = min text.length 1) :
    LeftOpen before text length .rawArgument

/-- Where nothing is open, a lexeme leaves open what it may. -/
theorem base_leftOpen (opens : (base dialect text).continuation = some opened) :
    LeftOpen none text (base dialect text).length opened := by
  rcases base_opening dialect text with nothing | opening
  · rw [nothing] at opens
    contradiction
  · generalize base dialect text = scanned at opens opening
    cases opening with
    | @comment body starts =>
      obtain ⟨rfl, whole⟩ := comment_open opens
      refine .comment ?_
      simp only [Scanned.behind, whole, starts, List.length_cons]
      omega
    | @string quote body starts =>
      obtain ⟨rfl, whole, escaping⟩ := string_open opens
      refine .string ?_ (.inl ⟨starts, rfl⟩) escaping
      simp only [Scanned.behind, whole, starts, List.length_cons]
      omega
    | function named =>
      obtain rfl := Option.some.inj opens
      obtain ⟨name, isName, rest, split, length⟩ := rawFunction?_eq_some named
      exact .argument isName split length

end Scan

open Scan in
/-- A lexeme leaves open what it may. -/
theorem scan_leftOpen {before : Option Continuation}
    (opens : (scan dialect before text).continuation = some opened) :
    LeftOpen before text (scan dialect before text).length opened := by
  match before with
  | none => exact base_leftOpen opens
  | some (.string quote) =>
    obtain ⟨rfl, whole, escaping⟩ := string_open opens
    exact .string whole (.inr ⟨rfl, rfl⟩) escaping
  | some .comment =>
    obtain ⟨rfl, whole⟩ := comment_open opens
    exact .comment whole
  | some .rawArgument =>
    obtain ⟨rfl, whole⟩ := rawArgument_open opens
    exact .rawArgument whole
  | some .argument =>
    simp only [scan, Scan.argument, Option.ite_none_left_eq_some, Option.some.injEq] at opens
    obtain ⟨-, rfl⟩ := opens
    exact .paren rfl rfl

/-! ## Lines -/

namespace Mode

/-- Where a host comes to on a line, and in which state, that starts to read it in a state. It reads
token by token, and may start a lexeme wherever it stands. -/
inductive OnLine (mode : Mode) (line : Text) (entry : ParseState) : Cursor → ParseState → Prop
  /-- In front of the line. -/
  | start : OnLine mode line entry (.ofLine mode.settings.tabSize line) entry
  /-- Where it starts a lexeme. -/
  | mark {cursor : Cursor} {state : ParseState} :
    OnLine mode line entry cursor state → OnLine mode line entry cursor.markLexeme state
  /-- Behind a token. -/
  | token {cursor behind : Cursor} {state after : ParseState} {token : Token} :
    OnLine mode line entry cursor state → cursor.atEnd = false →
      mode.nextToken cursor state = (token, behind, after) → OnLine mode line entry behind after

/-- The state in which a host comes to the end of lines, each of which it reads to its end. -/
inductive OverLines (mode : Mode) (origin : ParseState) : List Text → ParseState → Prop
  /-- Without lines. -/
  | nil : OverLines mode origin [] origin
  /-- With one more line. -/
  | concat {lines : List Text} {line : Text} {entry state : ParseState} {cursor : Cursor} :
    OverLines mode origin lines entry → OnLine mode line entry cursor state →
      cursor.atEnd = true → OverLines mode origin (lines ++ [line]) state

/-- What is left open behind a token that is read at a cursor in a state. -/
structure Continues (mode : Mode) (cursor : Cursor) (state : ParseState) (token : Token)
    (behind : Cursor) (after : ParseState) : Prop where
  /-- A function is left open in front of its parenthesis. Wherever the host starts a lexeme, the
  parenthesis alone is the next token. -/
  argument : after.continuation = some .argument →
    ∃ rest, behind.rest = '(' :: rest ∧ ∀ next : Cursor, next.rest = behind.rest →
      (mode.nextToken next after).1.kind = .parenOpen ∧
        (mode.nextToken next after).2.1.rest = rest
  /-- A comment is left open at the end of the line. -/
  comment : after.continuation = some .comment → behind.atEnd
  /-- A string is left open at the end of the line. The line ends in a backslash, with an even
  number of backslashes in front of it within the part of the string that stands on the line: from
  behind its quote on, or from the start of the line on. -/
  string : ∀ quote, after.continuation = some (.string quote) →
    behind.atEnd ∧ quote.char ∈ ['\'', '"'] ∧ cursor.line.getLast? = some '\\' ∧
      ∃ part, Text.EndsEscaping part ∧
        ((cursor.rest = quote.char :: part ∧ state.continuation = none) ∨
          (cursor.rest = part ∧ cursor.atStart ∧ state.continuation = some (.string quote)))
  /-- A raw argument is left open at the end of the line, or behind the parenthesis of its
  function. -/
  rawArgument : after.continuation = some .rawArgument →
    behind.atEnd ∨ token.kind = .parenOpen ∧ cursor.rest = '(' :: behind.rest ∧
      ∃ name ∈ Pattern.rawFunctions, name.toList <:+ cursor.passed.reverse

/-- What is left open where a host stands on a line, or at either end of it. -/
structure Poised (cursor : Cursor) (state : ParseState) : Prop where
  /-- A function between its name and its parenthesis. -/
  argument : state.continuation = some .argument →
    cursor.rest.head? = some '(' ∧
      ∃ name ∈ Pattern.rawFunctions, name.toList <:+ cursor.passed.reverse
  /-- A string at the ends only. -/
  string : ∀ quote, state.continuation = some (.string quote) →
    cursor.atStart = true ∨ cursor.atEnd = true

variable {mode : Mode} {line : Text} {entry state after : ParseState} {cursor behind : Cursor}
  {token : Token}

/-- Behind the name of a function its parenthesis is the next token. -/
theorem nextToken_parenOpen (named : state.continuation = some .argument) {rest : Text}
    (paren : cursor.rest = '(' :: rest) :
    (mode.nextToken cursor state).1.kind = .parenOpen ∧
      (mode.nextToken cursor state).2.1.rest = rest := by
  have open_ : state.continuation = none → Text.leading Text.isBlank cursor.rest = 0 := by
    simp [named]
  simp only [nextToken, mode.read_of_lexeme open_, readLexeme, named]
  exact ⟨rfl, by simp [scan, Scan.argument, paren]⟩

/-- A token moves the cursor behind what is read. -/
theorem exists_reading_of_nextToken
    (reads : mode.nextToken cursor state = (token, behind, after)) :
    ∃ reading, mode.read cursor.indentation cursor.lexeme cursor.rest state = reading ∧
      token = reading.token ∧ behind = cursor.advance reading.length ∧ after = reading.state := by
  refine ⟨_, rfl, (congrArg Prod.fst reads).symm, ?_, ?_⟩
  · exact (congrArg (·.2.1) reads).symm
  · exact (congrArg (·.2.2) reads).symm

/-- The text that a token is read from, what it leaves open, and where the cursor is behind it. -/
theorem leftOpen_of_nextToken (reads : mode.nextToken cursor state = (token, behind, after))
    (opens : after.continuation = some opened) :
    ∃ length, Scan.LeftOpen state.continuation cursor.rest length opened ∧
      behind = cursor.advance length ∧
      (state.continuation = some .argument → token.kind = .parenOpen) := by
  obtain ⟨_, rfl, rfl, rfl, rfl⟩ := exists_reading_of_nextToken reads
  rcases mode.read_cases cursor.indentation cursor.lexeme cursor.rest state with
    ⟨nothing, -, passes⟩ | passes
  · rw [passes, nothing] at opens
    contradiction
  · rw [passes] at opens ⊢
    refine ⟨_, scan_leftOpen opens, rfl, fun named => ?_⟩
    rw [readLexeme, named]
    rfl

/-- Where a host stands on a line, what a token leaves open goes on as it should. -/
theorem Poised.continues_of_nextToken (poised : Poised cursor state)
    (inside : cursor.atEnd = false)
    (reads : mode.nextToken cursor state = (token, behind, after)) :
    mode.Continues cursor state token behind after where
  argument := by
    intro opens
    obtain ⟨length, left, rfl, -⟩ := leftOpen_of_nextToken reads opens
    cases left with
    | @argument name rest isName split named =>
      have paren : (cursor.advance length).rest = '(' :: rest := by
        rw [Cursor.rest_advance, split, named, List.drop_left]
      refine ⟨rest, paren, fun next same => ?_⟩
      exact nextToken_parenOpen opens (same.trans paren)
  comment := by
    intro opens
    obtain ⟨length, left, rfl, -⟩ := leftOpen_of_nextToken reads opens
    cases left with
    | comment whole => simp [Cursor.atEnd, whole]
  string := by
    intro quote opens
    obtain ⟨length, left, rfl, -⟩ := leftOpen_of_nextToken reads opens
    cases left with
    | @string quote part whole starts escaping =>
      have ends : cursor.rest.getLast? = some '\\' := by
        rcases starts with ⟨split, -⟩ | ⟨split, -⟩
        · rw [split, List.getLast?_cons, escaping.getLast?]
          rfl
        · rw [split, escaping.getLast?]
      refine ⟨by simp [Cursor.atEnd, whole], by cases quote <;> decide, ?_, part,
        escaping, starts.imp_right fun ⟨split, goesOn⟩ => ⟨split, ?_, goesOn⟩⟩
      · rw [← cursor.passed_rest, List.getLast?_append, ends]
        rfl
      · exact (poised.string quote goesOn).resolve_right (by simp [inside])
  rawArgument := by
    intro opens
    obtain ⟨length, left, rfl, paren⟩ := leftOpen_of_nextToken reads opens
    cases left with
    | rawArgument whole => exact .inl (by simp [Cursor.atEnd, whole])
    | paren named single =>
      obtain ⟨head, name, isName, suffix⟩ := poised.argument named
      obtain ⟨rest, split⟩ := List.head?_eq_some_iff.mp head
      refine .inr ⟨paren named, ?_, name, isName, suffix⟩
      simp [single, split]

/-- Behind a token a function is left open in front of its parenthesis only, and a string at the end
of the line only. -/
theorem poised_of_nextToken (reads : mode.nextToken cursor state = (token, behind, after)) :
    Poised behind after where
  argument := by
    intro opens
    obtain ⟨length, left, rfl, -⟩ := leftOpen_of_nextToken reads opens
    cases left with
    | @argument name rest isName split named =>
      refine ⟨by simp [split, named], name, isName, cursor.passed.reverse, ?_⟩
      simp [split, named]
  string := by
    intro quote opens
    obtain ⟨length, left, rfl, -⟩ := leftOpen_of_nextToken reads opens
    cases left with
    | string whole => exact .inr (by simp [Cursor.atEnd, whole])

/-! ## Runs -/

/-- A host stays on its line. -/
theorem OnLine.line_eq (here : mode.OnLine line entry cursor state) : cursor.line = line := by
  induction here with
  | start => rfl
  | mark _ ih => exact ih
  | token _ _ reads ih =>
    obtain ⟨_, -, -, rfl, -⟩ := exists_reading_of_nextToken reads
    exact ih

/-- Its tab stops stay where they are. -/
theorem OnLine.tabSize_eq (here : mode.OnLine line entry cursor state) :
    cursor.tabSize = mode.settings.tabSize := by
  induction here with
  | start => rfl
  | mark _ ih => exact ih
  | token _ _ reads ih =>
    obtain ⟨_, -, -, rfl, -⟩ := exists_reading_of_nextToken reads
    exact ih

/-- Wherever a host stands on a line, functions and strings are left open where they may be. -/
theorem OnLine.poised (here : mode.OnLine line entry cursor state)
    (complete : entry.continuation ≠ some .argument) : Poised cursor state := by
  induction here with
  | start => exact ⟨fun opens => absurd opens complete, fun _ _ => .inl rfl⟩
  | mark _ ih => exact ⟨ih.argument, ih.string⟩
  | token _ _ reads => exact poised_of_nextToken reads

/-- Nothing is awaited while text is open. -/
theorem OnLine.quiet (here : mode.OnLine line entry cursor state) (quiet : entry.Quiet) :
    state.Quiet := by
  induction here with
  | start => exact quiet
  | mark _ ih => exact ih
  | token _ _ reads =>
    obtain ⟨_, rfl, -, -, rfl⟩ := exists_reading_of_nextToken reads
    exact mode.read_quiet _ _ _ _

/-- No function is left open without its parenthesis at the end of a line. -/
theorem OnLine.continuation_ne_argument (here : mode.OnLine line entry cursor state)
    (complete : entry.continuation ≠ some .argument) (ended : cursor.atEnd = true) :
    state.continuation ≠ some .argument := by
  intro opens
  have paren := ((here.poised complete).argument opens).1
  rw [List.isEmpty_iff.mp ended] at paren
  contradiction

/-- So none is in front of a line. -/
theorem OverLines.continuation_ne_argument {origin : ParseState} {lines : List Text}
    (nothing : origin.continuation = none) (earlier : mode.OverLines origin lines entry) :
    entry.continuation ≠ some .argument := by
  induction earlier with
  | nil => simp [nothing]
  | concat _ here ended ih => exact here.continuation_ne_argument ih ended

/-- Reading comes wherever a host does that started where reading comes. -/
theorem OnLine.reachable {indent : UInt64} (here : mode.OnLine line entry cursor state)
    (reached : mode.Reachable indent entry) : mode.Reachable indent state := by
  induction here with
  | start => exact reached
  | mark _ ih => exact ih
  | @token cursor _ state after _ _ _ reads ih =>
    have behind : (mode.nextToken cursor state).2.2 = after := by rw [reads]
    rw [← behind]
    exact ih.next cursor

/-- There is nothing to read on an empty line. -/
theorem OnLine.state_eq (here : mode.OnLine [] entry cursor state) : state = entry := by
  induction here with
  | start => rfl
  | mark _ ih => exact ih
  | @token cursor _ _ _ _ before inside =>
    have empty : cursor.rest = [] := by
      have parts := cursor.passed_rest.trans before.line_eq
      exact (List.append_eq_nil_iff.mp parts).2
    simp [Cursor.atEnd, empty] at inside

/-- Wherever a host comes to that reads lines from a state in which nothing is open, what a token
leaves open goes on as it should, no function is left open at the end of a line, and an empty line
changes nothing. -/
theorem OverLines.continues {origin : ParseState} {lines : List Text}
    (nothing : origin.continuation = none) (earlier : mode.OverLines origin lines entry)
    (here : mode.OnLine line entry cursor state) :
    (∀ token behind after, cursor.atEnd = false →
        mode.nextToken cursor state = (token, behind, after) →
          mode.Continues cursor state token behind after) ∧
      (cursor.atEnd = true → state.continuation ≠ some .argument) ∧
      (line = [] → state = entry) := by
  have complete := earlier.continuation_ne_argument nothing
  refine ⟨fun token behind after inside reads => ?_, here.continuation_ne_argument complete, ?_⟩
  · exact (here.poised complete).continues_of_nextToken inside reads
  · rintro rfl
    exact here.state_eq

/-! ## The run that highlights -/

/-- A host that starts a lexeme where it stands comes behind what is read there. -/
theorem OnLine.read {c : Char} {rest : Text} (here : mode.OnLine line entry cursor state)
    (left : cursor.rest = c :: rest) {reading : Reading}
    (reads : mode.read (Text.indentation mode.settings.tabSize line) [] (c :: rest) state =
      reading) :
    ∃ behind, mode.OnLine line entry behind reading.state ∧
      behind.rest = (c :: rest).drop reading.length := by
  have indentation : cursor.indentation = Text.indentation mode.settings.tabSize line := by
    rw [Cursor.indentation, here.line_eq, here.tabSize_eq]
  have next : mode.nextToken cursor.markLexeme state =
      (reading.token, cursor.markLexeme.advance reading.length, reading.state) := by
    rw [mode.nextToken_markLexeme, indentation, left, reads]
  refine ⟨_, here.mark.token (by simp [Cursor.atEnd, left]) next, ?_⟩
  rw [Cursor.rest_advance, Cursor.rest_markLexeme, left]

/-- It comes behind a token that has characters. -/
theorem OnLine.readSome {c : Char} {rest : Text} (here : mode.OnLine line entry cursor state)
    (left : cursor.rest = c :: rest) {reading : Reading}
    (reads : mode.readSome (Text.indentation mode.settings.tabSize line) (c :: rest) attempts
      state = reading) :
    ∃ behind, mode.OnLine line entry behind reading.state ∧
      behind.rest = (c :: rest).drop reading.length := by
  obtain ⟨tries, enough⟩ := exists_attempts_eq
  obtain ⟨passed, tried, -, first⟩ := mode.exists_readSome_eq_read
    (Text.indentation mode.settings.tabSize line) c rest state tries
  rw [enough, tried] at reads
  rcases first with rfl | ⟨empty, rfl⟩
  · exact here.read left reads
  · obtain ⟨again, there, same⟩ := here.read left rfl
    rw [empty, List.drop_zero] at same
    exact there.read same reads

/-- It comes to the end of its line in the state behind the tokens of what is left of the line. -/
theorem OnLine.stateBehind_tokensFrom (here : mode.OnLine line entry cursor state)
    (offset : Nat) :
    ∃ behind, behind.atEnd = true ∧ mode.OnLine line entry behind
      (stateBehind (mode.tokensFrom (Text.indentation mode.settings.tabSize line) 0 cursor.rest
        offset state) state) := by
  induction size : cursor.rest.length using Nat.strong_induction_on
    generalizing cursor state offset with
  | h count ih =>
    cases left : cursor.rest with
    | nil => exact ⟨cursor, by simp [Cursor.atEnd, left], by simpa [tokensFrom, stateBehind]⟩
    | cons c rest =>
      have positive := mode.readSome_length_pos (Text.indentation mode.settings.tabSize line)
        (c :: rest) attempts state
      obtain ⟨behind, there, further⟩ := here.readSome left rfl
      rw [mode.tokensFrom_of_readSome (List.cons_ne_nil c rest) rfl, stateBehind_cons, ← further]
      refine ih _ ?_ there _ rfl
      rw [← size, left, further, List.length_drop, List.length_cons]
      omega

/-- A line is read to its end by the run that highlights it. -/
theorem onLine_lineEnd (mode : Mode) (line : Text) (entry : ParseState) :
    ∃ behind, behind.atEnd = true ∧ mode.OnLine line entry behind (mode.lineEnd line entry) :=
  OnLine.start.stateBehind_tokensFrom 0

/-- So are lines. -/
theorem overLines_linesEnd (origin : ParseState) (lines : List Text) :
    mode.OverLines origin lines (mode.linesEnd lines origin) := by
  induction lines using List.reverseRecOn with
  | nil => exact .nil
  | append_singleton lines line ih =>
    obtain ⟨behind, ended, there⟩ := mode.onLine_lineEnd line (mode.linesEnd lines origin)
    rw [linesEnd, List.foldl_append]
    exact ih.concat there ended

/-- Reading comes to every end of lines. -/
theorem reachable_linesEnd (mode : Mode) (indent : UInt64) (lines : List Text) :
    mode.Reachable indent (mode.linesEnd lines (mode.startState indent)) := by
  induction lines using List.reverseRecOn with
  | nil => exact .start
  | append_singleton lines line ih =>
    obtain ⟨behind, -, there⟩ :=
      mode.onLine_lineEnd line (mode.linesEnd lines (mode.startState indent))
    rw [linesEnd, List.foldl_append]
    exact there.reachable ih

/-- A string over three lines: from a line to the next it is left open behind a backslash. -/
theorem continues_stringOverLines :
    let css := ofDialect .css
    let entry := css.linesEnd [['"', 'a', '\\']] (css.startState 0)
    let cursor := Cursor.ofLine 4 ['b', '\\']
    let (token, behind, after) := css.nextToken cursor entry
    (css.startState 0).continuation = none ∧
      css.OverLines (css.startState 0) [['"', 'a', '\\']] entry ∧
      css.OnLine ['b', '\\'] entry cursor entry ∧ cursor.atEnd = false ∧
      entry.continuation = some (.string .double) ∧
      after.continuation = some (.string .double) ∧
      css.Continues cursor entry token behind after := by
  intro css entry cursor
  have earlier := css.overLines_linesEnd (css.startState 0) [['"', 'a', '\\']]
  have here : css.OnLine ['b', '\\'] entry cursor entry := .start
  have goesOn := (earlier.continues rfl here).1 _ _ _ rfl rfl
  exact ⟨rfl, earlier, here, rfl, by decide, by decide, goesOn⟩

end Mode

end Stylesheet
