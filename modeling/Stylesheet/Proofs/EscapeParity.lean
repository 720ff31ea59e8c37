import Mathlib.Algebra.Ring.Parity
import Stylesheet.Proofs.Continuations

/-!
# Backslashes in strings

A backslash takes the meaning away from the character behind it, and the scanner keeps a flag for
it that it renews at every character. Counting says the same: a character is escaped where an odd
number of backslashes stands right in front of it (`Scan.escapes_eq`). So a string ends behind its
first quote that is not escaped, and goes on behind the end of the line if an odd number of
backslashes ends the line; a raw argument ends in front of its first parenthesis that is not
escaped, and goes on whatever ends the line (`Mode.nextToken_delimited`).
-/
namespace Stylesheet

variable {delimiter : Char} {text : Text}

/-! ## Counting backslashes -/

namespace Text

/-- How many backslashes a text ends in. -/
def closingBackslashes (text : Text) : Nat := leading (· == '\\') text.reverse

/-- A backslash more is one more, and any other character leaves none. -/
theorem closingBackslashes_concat (text : Text) (c : Char) :
    closingBackslashes (text ++ [c]) = if c = '\\' then closingBackslashes text + 1 else 0 := by
  rw [closingBackslashes, List.reverse_concat, leading_cons]
  simp only [beq_iff_eq]
  rfl

/-- What stands at a place of a text, or behind all of it, is escaped by an odd number of
backslashes in front of it. -/
def EscapedAt (text : Text) (place : Nat) : Prop := Odd (closingBackslashes (text.take place))

instance (text : Text) (place : Nat) : Decidable (text.EscapedAt place) :=
  inferInstanceAs (Decidable (Odd _))

/-- The place of the first delimiter in a text that is not escaped. -/
def closing? (delimiter : Char) (text : Text) : Option Nat :=
  (List.range text.length).find? fun place =>
    text[place]? = some delimiter ∧ ¬text.EscapedAt place

/-- There it stands, and none stands before it. -/
theorem closing?_eq_some {place : Nat} (closes : closing? delimiter text = some place) :
    text[place]? = some delimiter ∧ ¬text.EscapedAt place ∧
      ∀ earlier < place, text[earlier]? = some delimiter → text.EscapedAt earlier := by
  obtain ⟨here, -, first⟩ := List.find?_range_eq_some.mp closes
  obtain ⟨stands, plain⟩ := of_decide_eq_true here
  refine ⟨stands, plain, fun earlier before isDelimiter => ?_⟩
  have skipped := first earlier before
  simpa [isDelimiter] using skipped

/-- Without one, every delimiter is escaped. -/
theorem closing?_eq_none (open_ : closing? delimiter text = none) (place : Nat)
    (isDelimiter : text[place]? = some delimiter) : text.EscapedAt place := by
  have inside : place < text.length := (List.getElem?_eq_some_iff.mp isDelimiter).1
  have skipped := List.find?_range_eq_none.mp open_ place inside
  simpa [isDelimiter] using skipped

end Text

/-! ## The flag of the scanner -/

namespace Scan

/-- The flag is up behind an odd number of backslashes. -/
theorem escapes_eq (text : Text) : escapes false text = decide (Odd text.closingBackslashes) := by
  induction text using List.reverseRecOn with
  | nil => rfl
  | append_singleton text c ih =>
    rw [escapes_concat, Text.closingBackslashes_concat, ih]
    by_cases backslash : c = '\\'
    · simp only [backslash, beq_self_eq_true, Bool.and_true, if_true, Nat.odd_add_one, decide_not]
    · simp [backslash]

/-- A delimiter with the flag up is passed like any other character. -/
theorem delimited_cons {escaped : Bool} {c : Char} {rest : Text} {length : Nat} {ending : Ending}
    (up : c = delimiter → escaped = true)
    (later : delimited delimiter (!escaped && c == '\\') rest = (length, ending)) :
    delimited delimiter escaped (c :: rest) = (length + 1, ending) := by
  have goesOn : ¬(decide (c = delimiter) && !escaped) = true := by
    intro ends
    obtain ⟨same, down⟩ := Bool.and_eq_true_iff.mp ends
    simp [up (of_decide_eq_true same)] at down
  rw [delimited, if_neg goesOn, later]

/-- A text is read up to the first delimiter in front of which the flag is down. -/
theorem delimited_of_first {escaped : Bool} {place : Nat}
    (here : text[place]? = some delimiter) (down : escapes escaped (text.take place) = false)
    (first : ∀ earlier < place, text[earlier]? = some delimiter →
      escapes escaped (text.take earlier) = true) :
    delimited delimiter escaped text = (place, .closed) := by
  induction text generalizing escaped place with
  | nil => simp at here
  | cons c rest ih =>
    cases place with
    | zero =>
      obtain rfl : c = delimiter := by simpa using here
      obtain rfl : escaped = false := down
      simp [delimited]
    | succ place =>
      refine delimited_cons (fun same => ?_) (ih (by simpa using here) down ?_)
      · exact first 0 (Nat.succ_pos place) (by simpa using same)
      · intro earlier before isDelimiter
        exact first (earlier + 1) (Nat.succ_lt_succ before) (by simpa using isDelimiter)

/-- Where the flag is up in front of every delimiter, a text is read to its end. -/
theorem delimited_of_all {escaped : Bool}
    (all : ∀ place, text[place]? = some delimiter → escapes escaped (text.take place) = true) :
    delimited delimiter escaped text = (text.length, .unclosed (escapes escaped text)) := by
  induction text generalizing escaped with
  | nil => rfl
  | cons c rest ih =>
    refine delimited_cons (fun same => ?_) (ih fun place isDelimiter => ?_)
    · exact all 0 (by simpa using same)
    · exact all (place + 1) (by simpa using isDelimiter)

/-- So delimited text ends at the first delimiter that is not escaped. -/
theorem delimited_eq (delimiter : Char) (text : Text) :
    delimited delimiter false text =
      match text.closing? delimiter with
      | some place => (place, .closed)
      | none => (text.length, .unclosed (decide (text.EscapedAt text.length))) := by
  have flag : ∀ place, escapes false (text.take place) = decide (text.EscapedAt place) :=
    fun place => escapes_eq (text.take place)
  cases closes : text.closing? delimiter with
  | some place =>
    obtain ⟨stands, plain, first⟩ := Text.closing?_eq_some closes
    refine delimited_of_first stands ?_ fun earlier before isDelimiter => ?_
    · simpa [flag] using plain
    · simpa [flag] using first earlier before isDelimiter
  | none =>
    have all : ∀ place, text[place]? = some delimiter → escapes false (text.take place) = true := by
      intro place isDelimiter
      simpa [flag] using Text.closing?_eq_none closes place isDelimiter
    rw [delimited_of_all all, ← flag, List.take_length]

/-- Every dialect has strings behind both quotes. -/
theorem base_quote (dialect : Dialect) (quote : Quote) (text : Text) :
    base dialect (quote.char :: text) = (string quote text).behind 1 := by
  cases dialect <;> cases quote <;> rfl

/-- A string ends behind its first quote that is not escaped. Without one it goes on behind the end
of the line where that is escaped. -/
theorem string_eq (quote : Quote) (text : Text) :
    string quote text =
      match text.closing? quote.char with
      | some place => .styled .string .string (place + 1)
      | none =>
        { length := text.length
          token := .styled .string .string
          continuation :=
            if text.EscapedAt text.length then some (.string quote) else none } := by
  rw [string, delimited_eq]
  cases text.closing? quote.char with
  | some place => rfl
  | none => by_cases escaped : text.EscapedAt text.length <;> simp [escaped, Scanned.styled]

/-- A raw argument ends in front of its first parenthesis that is not escaped. Without one it goes
on behind the end of the line. -/
theorem rawArgument_eq (text : Text) :
    rawArgument text =
      match text.closing? ')' with
      | some place => .styled .string .string place
      | none => ⟨text.length, .styled .string .string, some .rawArgument⟩ := by
  rw [rawArgument, delimited_eq]
  cases text.closing? ')' <;> rfl

end Scan

/-! ## At a cursor -/

/-- What a host finds behind the part of a string that stands on a line, from behind its quote on or
from where it goes on: the cursor and what is left open. -/
structure EndsString (quote : Quote) (part : Text) (behind : Cursor) (after : ParseState) :
    Prop where
  /-- The first quote that is not escaped closes the string. -/
  closed : ∀ place, part.closing? quote.char = some place →
    behind.rest = part.drop (place + 1) ∧ after.continuation = none
  /-- Without one it takes the rest of the line, and goes on only where that ends in an odd number
  of backslashes. -/
  unclosed : part.closing? quote.char = none →
    behind.rest = [] ∧
      after.continuation =
        if Odd part.closingBackslashes then some (.string quote) else none

/-- What a host finds behind the part of a raw argument that stands on a line. -/
structure EndsArgument (part : Text) (behind : Cursor) (after : ParseState) : Prop where
  /-- The first parenthesis that is not escaped closes the argument, and is the next to be read. -/
  closed : ∀ place, part.closing? ')' = some place →
    behind.rest = part.drop place ∧ after.continuation = none
  /-- Without one it takes the rest of the line and goes on. -/
  unclosed : part.closing? ')' = none →
    behind.rest = [] ∧ after.continuation = some .rawArgument

variable {quote : Quote} {part : Text} {behind : Cursor} {after : ParseState}

/-- The scanner ends a string so. -/
theorem EndsString.of_scan (rest : behind.rest = part.drop (Scan.string quote part).length)
    (left : after.continuation = (Scan.string quote part).continuation) :
    EndsString quote part behind after where
  closed place closes := by
    rw [rest, left, Scan.string_eq, closes]
    exact ⟨rfl, rfl⟩
  unclosed open_ := by
    rw [rest, left, Scan.string_eq, open_]
    simp only [List.drop_length, Text.EscapedAt, List.take_length, and_self]

/-- And a raw argument. -/
theorem EndsArgument.of_scan (rest : behind.rest = part.drop (Scan.rawArgument part).length)
    (left : after.continuation = (Scan.rawArgument part).continuation) :
    EndsArgument part behind after where
  closed place closes := by
    rw [rest, left, Scan.rawArgument_eq, closes]
    exact ⟨rfl, rfl⟩
  unclosed open_ := by
    rw [rest, left, Scan.rawArgument_eq, open_]
    exact ⟨List.drop_length, rfl⟩

namespace Mode

variable {mode : Mode} {cursor : Cursor} {state : ParseState}

/-- Where no white space is passed, a token is what the scanner reads. -/
theorem nextToken_of_scan {scanned : Scanned}
    (black : state.continuation = none → Text.leading Text.isBlank cursor.rest = 0)
    (reads : scan mode.dialect state.continuation cursor.rest = scanned) :
    let (token, behind, after) := mode.nextToken cursor state
    token.kind = scanned.token.kind ∧ behind.rest = cursor.rest.drop scanned.length ∧
      after.continuation = scanned.continuation := by
  rw [nextToken, mode.read_of_lexeme black, readLexeme, reads]
  exact ⟨rfl, rfl, rfl⟩

/-- Wherever a host stands on a line, a string that starts or goes on there, and a raw argument that
goes on there, end as the backslashes on the line say. -/
theorem nextToken_delimited (mode : Mode) (cursor : Cursor) (state : ParseState) :
    let (token, behind, after) := mode.nextToken cursor state
    (∀ (quote : Quote) (part : Text),
      (state.continuation = none ∧ cursor.rest = quote.char :: part) ∨
          (state.continuation = some (.string quote) ∧ cursor.rest = part) →
        token.kind = .string ∧ EndsString quote part behind after) ∧
      (state.continuation = some .rawArgument →
        token.kind = .string ∧ EndsArgument cursor.rest behind after) := by
  refine ⟨fun quote part place => ?_, fun goesOn => ?_⟩
  · rcases place with ⟨nothing, starts⟩ | ⟨goesOn, rfl⟩
    · have black : state.continuation = none → Text.leading Text.isBlank cursor.rest = 0 := by
        intro _
        rw [starts, Text.leading_cons]
        cases quote <;> rfl
      have reads : scan mode.dialect state.continuation cursor.rest =
          (Scan.string quote part).behind 1 := by
        rw [nothing, starts]
        exact Scan.base_quote mode.dialect quote part
      obtain ⟨kind, rest, left⟩ := nextToken_of_scan black reads
      refine ⟨?_, .of_scan ?_ left⟩
      · rw [kind]
        exact congrArg Token.kind (Scan.string_token quote part)
      · rw [rest, starts, Scanned.behind, Nat.add_comm, List.drop_succ_cons]
    · have reads : scan mode.dialect state.continuation cursor.rest =
          Scan.string quote cursor.rest := by rw [goesOn, scan]
      obtain ⟨kind, rest, left⟩ := nextToken_of_scan (by simp [goesOn]) reads
      refine ⟨?_, .of_scan rest left⟩
      rw [kind]
      exact congrArg Token.kind (Scan.string_token quote cursor.rest)
  · have reads : scan mode.dialect state.continuation cursor.rest =
        Scan.rawArgument cursor.rest := by rw [goesOn, scan]
    obtain ⟨kind, rest, left⟩ := nextToken_of_scan (by simp [goesOn]) reads
    refine ⟨?_, .of_scan rest left⟩
    rw [kind]
    exact congrArg Token.kind (Scan.rawArgument_token cursor.rest)

/-- A string passes an escaped quote and ends at the one behind two backslashes, three backslashes
at the end of a line carry another on, and a raw argument passes an escaped parenthesis. -/
theorem nextToken_delimited_backslashes :
    let css := ofDialect .css
    let part := ['a', '\\', '"', '\\', '\\', '"', 'b']
    let quoted := Cursor.ofLine 4 ('"' :: part)
    let odd := Cursor.ofLine 4 ['a', '\\', '\\', '\\']
    let argument := Cursor.ofLine 4 ['a', '\\', ')', ')']
    let inNothing := css.startState 0
    let inString := { inNothing with continuation := some (.string .single) }
    let inArgument := { inNothing with continuation := some .rawArgument }
    (inNothing.continuation = none ∧ quoted.rest = Quote.double.char :: part ∧
      (css.nextToken quoted inNothing).2.1.rest = ['b'] ∧
      (css.nextToken quoted inNothing).2.2.continuation = none) ∧
    (inString.continuation = some (.string .single) ∧
      (css.nextToken odd inString).2.1.rest = [] ∧
      (css.nextToken odd inString).2.2.continuation = some (.string .single)) ∧
    (inArgument.continuation = some .rawArgument ∧
      (css.nextToken argument inArgument).2.1.rest = [')'] ∧
      (css.nextToken argument inArgument).2.2.continuation = none) := by
  intro css part quoted odd argument inNothing inString inArgument
  have closed := ((css.nextToken_delimited quoted inNothing).1 .double part (.inl ⟨rfl, rfl⟩)).2
  have goesOn := ((css.nextToken_delimited odd inString).1 .single odd.rest (.inr ⟨rfl, rfl⟩)).2
  have raw := ((css.nextToken_delimited argument inArgument).2 rfl).2
  have behind := goesOn.unclosed (by decide)
  rw [if_pos (by decide)] at behind
  exact ⟨⟨rfl, rfl, closed.closed 5 (by decide)⟩, ⟨rfl, behind⟩, ⟨rfl, raw.closed 3 (by decide)⟩⟩

end Mode

end Stylesheet
