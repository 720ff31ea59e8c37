import Stylesheet.Proofs.HostLoop

/-!
# A cursor that counts bytes

A host need not keep the characters before a cursor and behind it. A `ByteCursor` keeps the line and
two offsets in bytes of UTF-8, cuts the line where it needs a text, and fails where a cut falls
inside a character. The offsets of a `Cursor` never do (`Cursor.takeBytes?_offset`), so the cursor
that keeps only those (`Cursor.toBytes`) shows the same rest of the line and the same lexeme, and
whatever it reads it reads alike; patterns apart, whose matches might end inside a character
(`Cursor.matchPattern?_toBytes`). The start of the lexeme may come to lie behind the cursor, when a
host backs up over it; then the lexeme is empty.
-/
namespace Stylesheet

open Text (utf8Length takeBytes?)

/-! ## Texts in bytes -/

namespace Text

/-- A pattern anchored at the front of a text that measures its match in bytes. -/
abbrev BytePattern := Text → Option Nat

/-- The same pattern where matches are measured in characters. -/
def BytePattern.inCharacters (pattern : BytePattern) : Pattern := fun rest =>
  (pattern rest).map fun bytes => ((takeBytes? bytes rest).getD []).length

/-- The pattern that a text alone matches. -/
def BytePattern.literal (text : Text) : BytePattern := fun rest =>
  if text.isPrefixOf rest then some (utf8Length text) else none

/-- The offsets of the characters of a text, of which the first one stands at `offset`. -/
def offsets : (offset : Nat) → Text → List Nat
  | _, [] => []
  | offset, c :: text => offset :: offsets (offset + c.utf8Size) text

/-- A literal is as many characters as it has. -/
theorem inCharacters_literal (text : Text) :
    (BytePattern.literal text).inCharacters = fun rest =>
      if text.isPrefixOf rest then some text.length else none := by
  funext rest
  by_cases isFirst : text.isPrefixOf rest
  · obtain ⟨unread, rfl⟩ := List.isPrefixOf_iff_prefix.mp isFirst
    simp [BytePattern.inCharacters, BytePattern.literal, takeBytes?_append]
  · simp [BytePattern.inCharacters, BytePattern.literal, isFirst]

/-- Its match does not end inside a character. -/
theorem isSome_takeBytes?_of_literal {text rest : Text} {bytes : Nat}
    (found : BytePattern.literal text rest = some bytes) : (takeBytes? bytes rest).isSome := by
  obtain ⟨isFirst, measured⟩ := Option.ite_none_right_eq_some.mp found
  obtain rfl := Option.some.inj measured
  obtain ⟨unread, rfl⟩ := List.isPrefixOf_iff_prefix.mp isFirst
  rw [takeBytes?_append, Option.isSome_some]

theorem offsets_append (offset : Nat) (left right : Text) :
    offsets offset (left ++ right) =
      offsets offset left ++ offsets (offset + utf8Length left) right := by
  induction left generalizing offset with
  | nil => rfl
  | cons c left ih =>
    rw [List.cons_append, offsets, ih, offsets, utf8Length_cons, Nat.add_assoc, List.cons_append]

/-- The offset of a character, counted from the end, is the length of what stands before it. -/
theorem offsets_from_end (text : Text) (count : Nat) :
    (offsets 0 text.reverse).reverse[count]?.getD 0 = utf8Length (text.drop (count + 1)) := by
  induction text generalizing count with
  | nil => simp [offsets]
  | cons c text ih =>
    have last : (offsets 0 (c :: text).reverse).reverse =
        utf8Length text :: (offsets 0 text.reverse).reverse := by
      simp [offsets_append, offsets]
    rw [last]
    cases count with
    | zero => simp
    | succ count => exact ih count

/-- There is a leading run where it has characters. -/
theorem leading_bne_zero (belongs : Char → Bool) (text : Text) :
    (leading belongs text != 0) = decide (text.takeWhile belongs ≠ []) := by
  rw [Bool.eq_iff_iff, bne_iff_ne, decide_eq_true_iff, leading, ne_eq, List.length_eq_zero_iff]

/-- More characters have no fewer bytes. -/
theorem utf8Length_take_mono {less more : Nat} (le : less ≤ more) (text : Text) :
    utf8Length (text.take less) ≤ utf8Length (text.take more) := by
  obtain ⟨further, whole⟩ := List.take_prefix_take_left le (l := text)
  rw [← whole, utf8Length_append]
  exact Nat.le_add_right _ _

/-- So the first of two offsets is that of the fewer characters. -/
theorem min_utf8Length_take (left right : Nat) (text : Text) :
    min (utf8Length (text.take left)) (utf8Length (text.take right)) =
      utf8Length (text.take (min left right)) := by
  rcases Nat.le_total left right with le | le
  · rw [Nat.min_eq_left le, Nat.min_eq_left (utf8Length_take_mono le text)]
  · rw [Nat.min_eq_right le, Nat.min_eq_right (utf8Length_take_mono le text)]

end Text

/-! ## The cursor -/

/-- A place in a line and the start of the current lexeme, by their offsets. -/
structure ByteCursor where
  /-- The whole line. -/
  line : Text
  /-- The offset of the place. -/
  offset : Nat
  /-- The offset of the lexeme. -/
  start : Nat
  /-- The distance between tab stops. -/
  tabSize : UInt64
  deriving DecidableEq, Repr

namespace ByteCursor

/-- The start of a line. -/
def ofLine (tabSize : UInt64) (line : Text) : ByteCursor :=
  { line, offset := 0, start := 0, tabSize := max tabSize 1 }

/-- What is left of the line. -/
def rest? (cursor : ByteCursor) : Option Text :=
  (takeBytes? cursor.offset cursor.line).map fun passed => cursor.line.drop passed.length

/-- The current lexeme, up to the cursor; empty when the cursor stands before its start. -/
def lexeme? (cursor : ByteCursor) : Option Text := do
  let passed ← takeBytes? cursor.offset cursor.line
  let before ← takeBytes? (min cursor.start cursor.offset) cursor.line
  return passed.drop before.length

/-- Start a lexeme at the cursor. -/
def markLexeme (cursor : ByteCursor) : ByteCursor := { cursor with start := cursor.offset }

/-- Pass some bytes of what is left; they must not end inside a character. -/
def advance? (bytes : Nat) (cursor : ByteCursor) : Option ByteCursor :=
  if (takeBytes? (cursor.offset + bytes) cursor.line).isSome then
    some { cursor with offset := min (cursor.offset + bytes) (utf8Length cursor.line) }
  else none

/-- Go back over some characters; at most to the start of the line. -/
def backUp? (count : Nat) (cursor : ByteCursor) : Option ByteCursor :=
  if count = 0 then some cursor
  else (takeBytes? cursor.offset cursor.line).map fun passed =>
    { cursor with offset := (Text.offsets 0 passed).reverse[count - 1]?.getD 0 }

/-- The next character. -/
def peek? (cursor : ByteCursor) : Option (Option Char) := cursor.rest?.map List.head?

/-- Read the next character. -/
def next? (cursor : ByteCursor) : Option (Option Char × ByteCursor) := do
  match ← cursor.peek? with
  | some c => return (some c, ← cursor.advance? c.utf8Size)
  | none => return (none, cursor)

/-- Read the next character if it is the expected one, and say whether it was. -/
def eat? (expected : Char) (cursor : ByteCursor) : Option (Bool × ByteCursor) := do
  if (← cursor.peek?) = some expected then return (true, ← cursor.advance? expected.utf8Size)
  else return (false, cursor)

/-- Read the next character if it belongs to a class. -/
def eatIf? (belongs : Char → Bool) (cursor : ByteCursor) :
    Option (Option Char × ByteCursor) := do
  match ← cursor.peek? with
  | some c =>
    if belongs c then return (some c, ← cursor.advance? c.utf8Size) else return (none, cursor)
  | none => return (none, cursor)

/-- Read all characters of a class that come next, and say whether there were any. -/
def eatWhile? (belongs : Char → Bool) (cursor : ByteCursor) : Option (Bool × ByteCursor) := do
  let bytes := utf8Length ((← cursor.rest?).takeWhile belongs)
  return (0 < bytes, ← cursor.advance? bytes)

/-- Read the white space that comes next, and say whether there was any. -/
def eatBlank? (cursor : ByteCursor) : Option (Bool × ByteCursor) := cursor.eatWhile? Text.isBlank

/-- Read the rest of the line. -/
def skipToEnd? (cursor : ByteCursor) : Option ByteCursor := do
  cursor.advance? (utf8Length (← cursor.rest?))

/-- Say whether a pattern matches what comes next, and read the match if so asked. -/
def matchPattern? (pattern : Text.BytePattern) (consume : Bool) (cursor : ByteCursor) :
    Option (Bool × ByteCursor) := do
  match pattern (← cursor.rest?) with
  | some bytes => return (true, ← if consume then cursor.advance? bytes else some cursor)
  | none => return (false, cursor)

/-- Say whether a text comes next, and read it if so asked. -/
def matchText? (text : Text) (consume : Bool) (cursor : ByteCursor) :
    Option (Bool × ByteCursor) :=
  cursor.matchPattern? (.literal text) consume

end ByteCursor

/-! ## Cursors by characters and by bytes -/

namespace Cursor

/-- The cursor that keeps no more than the offsets. -/
def toBytes (cursor : Cursor) : ByteCursor where
  line := cursor.line
  offset := cursor.offset
  start := cursor.start
  tabSize := max cursor.tabSize 1

variable (cursor : Cursor)

/-- As many characters are passed as the index says. -/
theorem take_index : cursor.line.take cursor.index = cursor.passed.reverse := by
  rw [index, ← cursor.passed_rest]
  exact List.take_left' cursor.passed.length_reverse

/-- The rest of the line is left. -/
theorem drop_index : cursor.line.drop cursor.index = cursor.rest := by
  rw [index, ← cursor.passed_rest]
  exact List.drop_left' cursor.passed.length_reverse

/-- A cursor stands within its line. -/
theorem index_le : cursor.index ≤ cursor.line.length := by
  rw [index, ← cursor.passed_rest, List.length_append, List.length_reverse]
  exact Nat.le_add_right _ _

/-- The offset is that of the index. -/
theorem offset_eq : cursor.offset = utf8Length (cursor.line.take cursor.index) := by
  rw [take_index, Text.utf8Length_reverse, offset]

/-- The lexeme is the text from its start, if that is passed, to the cursor. -/
theorem lexeme_eq :
    cursor.lexeme = (cursor.line.take cursor.index).drop (min cursor.mark cursor.index) := by
  rw [take_index, lexeme, List.reverse_take, index]
  congr 1
  omega

/-- A cursor cuts its line at its offset. -/
theorem takeBytes?_offset :
    takeBytes? cursor.offset cursor.line = some cursor.passed.reverse :=
  Text.takeBytes?_eq_some_iff.mpr
    ⟨Text.utf8Length_reverse _, cursor.rest, cursor.passed_rest⟩

/-! ## Bytes instead of characters -/

/-- What is left is cut off at the offset. -/
theorem rest?_toBytes : cursor.toBytes.rest? = some cursor.rest := by
  rw [ByteCursor.rest?, toBytes, takeBytes?_offset, Option.map_some, List.length_reverse, ← index,
    drop_index]

/-- The lexeme is cut out between the offsets. -/
theorem lexeme?_toBytes : cursor.toBytes.lexeme? = some cursor.lexeme := by
  have before : min cursor.start cursor.offset =
      utf8Length (cursor.line.take (min cursor.mark cursor.index)) := by
    rw [start, beforeLexeme, offset_eq, Text.min_utf8Length_take]
  have cut : takeBytes? (min cursor.start cursor.offset) cursor.line =
      some (cursor.line.take (min cursor.mark cursor.index)) :=
    Text.takeBytes?_eq_some_iff.mpr ⟨before.symm, List.take_prefix _ _⟩
  have within := cursor.index_le
  have length : (cursor.line.take (min cursor.mark cursor.index)).length =
      min cursor.mark cursor.index := by
    rw [List.length_take]
    omega
  simp only [ByteCursor.lexeme?, toBytes, takeBytes?_offset, cut, Option.pure_def,
    Option.bind_eq_bind, Option.bind_some, length, lexeme_eq, take_index]

/-- A lexeme starts at the same offset. -/
theorem markLexeme_toBytes : cursor.toBytes.markLexeme = cursor.markLexeme.toBytes := by
  have marked : cursor.markLexeme.start = cursor.offset := by
    rw [offset_eq]
    rfl
  rw [ByteCursor.markLexeme, toBytes, toBytes, marked]
  rfl

/-- To pass the bytes of a first part of what is left is to pass its characters. -/
theorem advance?_toBytes {read : Text} (isFirst : read <+: cursor.rest) :
    cursor.toBytes.advance? (utf8Length read) = some (cursor.advance read.length).toBytes := by
  obtain ⟨unread, whole⟩ := isFirst
  have line : (cursor.passed.reverse ++ read) ++ unread = cursor.line := by
    rw [List.append_assoc, whole, cursor.passed_rest]
  have cut : takeBytes? (cursor.offset + utf8Length read) cursor.line =
      some (cursor.passed.reverse ++ read) :=
    Text.takeBytes?_eq_some_iff.mpr
      ⟨by rw [Text.utf8Length_append, Text.utf8Length_reverse, offset], unread, line⟩
  have within : cursor.offset + utf8Length read ≤ utf8Length cursor.line := by
    rw [← line, Text.utf8Length_append, Text.utf8Length_append, Text.utf8Length_reverse, offset]
    exact Nat.le_add_right _ _
  have passed : (cursor.advance read.length).offset = cursor.offset + utf8Length read := by
    rw [offset_advance, ← whole, List.take_left]
  simp only [ByteCursor.advance?, toBytes, cut, Option.isSome_some, if_true, passed,
    Nat.min_eq_left within]
  rfl

/-- To go back by bytes is to go back by characters. -/
theorem backUp?_toBytes (count : Nat) :
    cursor.toBytes.backUp? count = some (cursor.backUp count).toBytes := by
  cases count with
  | zero => rfl
  | succ count =>
    simp only [ByteCursor.backUp?, toBytes, takeBytes?_offset, Nat.add_one_ne_zero, if_false,
      Option.map_some, Nat.add_sub_cancel, Text.offsets_from_end]
    rfl

/-- To read the next character is to pass its bytes. -/
theorem advance?_toBytes_head {c : Char} {rest : Text} (here : cursor.rest = c :: rest) :
    cursor.toBytes.advance? c.utf8Size = some (cursor.advance 1).toBytes := by
  have isFirst : [c] <+: cursor.rest := ⟨rest, here.symm⟩
  have passed := cursor.advance?_toBytes isFirst
  rwa [Text.utf8Length_cons, Text.utf8Length_nil, Nat.add_zero] at passed

theorem peek?_toBytes : cursor.toBytes.peek? = some cursor.peek? := by
  rw [ByteCursor.peek?, rest?_toBytes, Option.map_some, peek?]

theorem next?_toBytes : cursor.toBytes.next? = some (cursor.next.map id toBytes) := by
  simp only [ByteCursor.next?, peek?_toBytes, next, peek?]
  cases here : cursor.rest with
  | nil =>
    have unmoved : cursor.advance 1 = cursor.advance 0 := by simp [advance, here]
    simp [unmoved, advance_zero]
  | cons c rest => simp [cursor.advance?_toBytes_head here]

theorem eat?_toBytes (expected : Char) :
    cursor.toBytes.eat? expected = some ((cursor.eat expected).map id toBytes) := by
  simp only [ByteCursor.eat?, peek?_toBytes, eat, peek?]
  by_cases expects : cursor.rest.head? = some expected
  · obtain ⟨rest, here⟩ := List.head?_eq_some_iff.mp expects
    simp [expects, cursor.advance?_toBytes_head here]
  · simp [expects]

theorem eatIf?_toBytes (belongs : Char → Bool) :
    cursor.toBytes.eatIf? belongs = some ((cursor.eatIf belongs).map id toBytes) := by
  simp only [ByteCursor.eatIf?, peek?_toBytes, eatIf, peek?]
  cases here : cursor.rest with
  | nil => simp
  | cons c rest =>
    by_cases member : belongs c
    · simp [member, cursor.advance?_toBytes_head here]
    · simp [member]

theorem eatWhile?_toBytes (belongs : Char → Bool) :
    cursor.toBytes.eatWhile? belongs = some ((cursor.eatWhile belongs).map id toBytes) := by
  have isFirst : cursor.rest.takeWhile belongs <+: cursor.rest := List.takeWhile_prefix belongs
  have found : decide (0 < utf8Length (cursor.rest.takeWhile belongs)) =
      (Text.leading belongs cursor.rest != 0) := by
    rw [Text.leading_bne_zero, decide_eq_decide, Nat.pos_iff_ne_zero, ne_eq,
      Text.utf8Length_eq_zero_iff]
  simp [ByteCursor.eatWhile?, rest?_toBytes, cursor.advance?_toBytes isFirst, found, eatWhile,
    Text.leading]

theorem skipToEnd?_toBytes : cursor.toBytes.skipToEnd? = some cursor.skipToEnd.toBytes := by
  simp [ByteCursor.skipToEnd?, rest?_toBytes, cursor.advance?_toBytes List.prefix_rfl, skipToEnd]

/-- A pattern matches alike if its match does not end inside a character. -/
theorem matchPattern?_toBytes {pattern : Text.BytePattern}
    (fits : ∀ bytes, pattern cursor.rest = some bytes → (takeBytes? bytes cursor.rest).isSome)
    (consume : Bool) :
    cursor.toBytes.matchPattern? pattern consume =
      some ((cursor.matchPattern pattern.inCharacters consume).map id toBytes) := by
  simp only [ByteCursor.matchPattern?, rest?_toBytes, matchPattern, Text.BytePattern.inCharacters]
  cases found : pattern cursor.rest with
  | none => simp [found]
  | some bytes =>
    obtain ⟨read, cut⟩ := Option.isSome_iff_exists.mp (fits bytes found)
    obtain ⟨rfl, isFirst⟩ := Text.takeBytes?_eq_some_iff.mp cut
    cases consume with
    | true => simp [found, cut, cursor.advance?_toBytes isFirst]
    | false => simp [found]

/-- A text comes next in bytes where it does in characters. -/
theorem matchText?_toBytes (text : Text) (consume : Bool) :
    cursor.toBytes.matchText? text consume =
      some ((cursor.matchText text consume).map id toBytes) := by
  rw [ByteCursor.matchText?, matchText, ← Text.inCharacters_literal]
  refine cursor.matchPattern?_toBytes (fun bytes found => ?_) consume
  exact Text.isSome_takeBytes?_of_literal found

end Cursor

end Stylesheet
