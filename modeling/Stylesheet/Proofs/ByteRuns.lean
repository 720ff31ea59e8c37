import Stylesheet.Document.Reindent
import Stylesheet.Proofs.ByteScanner
import Stylesheet.Proofs.TokenAt

/-!
# Runs with a cursor that counts bytes

A host that keeps offsets in bytes reads a document with a `ByteCursor`: line by line and token by
token. It cuts the text of a token out of the line between two offsets, which fails where one of
them falls inside a character or behind the end of the line, or the first is behind the second.
Whatever is read and in whichever state, nothing fails: the tokens are those of `Mode.highlight`,
and the offsets of each one span its text in its line (`Mode.splitsNoCharacter`).
-/
namespace Stylesheet

open Text (utf8Length takeBytes? leading isBlank lines)

namespace Text

/-- Two offsets that cut a piece out of a text. -/
structure Spans (text : Text) (start stop : Nat) : Prop where
  /-- The first is not behind the second. -/
  start_le : start ≤ stop
  /-- The second is not behind the end. -/
  stop_le : stop ≤ utf8Length text
  /-- Neither falls inside a character. -/
  start_fits : (takeBytes? start text).isSome
  stop_fits : (takeBytes? stop text).isSome

/-- The piece between two offsets; `none` also where the first is behind the second. -/
def cut? (start stop : Nat) (text : Text) : Option Text :=
  if start ≤ stop then slice? start stop text else none

/-- What stands between two parts of a text is cut out between their offsets. -/
theorem cut?_append (before middle after : Text) :
    cut? (utf8Length before) (utf8Length before + utf8Length middle)
      (before ++ (middle ++ after)) = some middle := by
  rw [cut?, if_pos (Nat.le_add_right _ _), slice?_append]

/-- Offsets between which a piece can be cut out span it. -/
theorem spans_of_slice? {start stop : Nat} {text piece : Text} (le : start ≤ stop)
    (cut : slice? start stop text = some piece) : text.Spans start stop := by
  obtain ⟨before, isBefore, isPiece⟩ := Option.bind_eq_some_iff.mp cut
  obtain ⟨size, isFirst⟩ := takeBytes?_eq_some_iff.mp isBefore
  obtain ⟨pieceSize, after, rest⟩ := takeBytes?_eq_some_iff.mp isPiece
  have whole : (before ++ piece) ++ after = text := by
    rw [List.append_assoc, rest, List.prefix_iff_eq_append.mp isFirst]
  have length : utf8Length (before ++ piece) = stop := by
    rw [utf8Length_append]
    omega
  refine ⟨le, ?_, by rw [isBefore, Option.isSome_some], ?_⟩
  · rw [← whole, utf8Length_append, length]
    exact Nat.le_add_right _ _
  · rw [takeBytes?_eq_some_iff.mpr ⟨length, after, whole⟩, Option.isSome_some]

/-- The start of a text and itself span it. -/
theorem spans_zero (text : Text) : text.Spans 0 0 := by
  have cut : (takeBytes? 0 text).isSome := Option.isSome_of_eq_some (takeBytes?_append [] text)
  exact ⟨Nat.le_refl 0, Nat.zero_le _, cut, cut⟩

/-- A tab size of zero counts as one. -/
theorem indentation_max (tabSize : UInt64) (line : Text) :
    indentation (max tabSize 1) line = indentation tabSize line := by
  have once : max (max tabSize 1) 1 = max tabSize 1 := by
    apply UInt64.toNat_inj.mp
    rw [UInt64.toNat_max, UInt64.toNat_max]
    exact Nat.max_eq_left (Nat.le_max_right _ _)
  have same : nextColumn (max tabSize 1) = nextColumn tabSize := by
    funext column c
    rw [nextColumn, nextColumn, once]
  rw [indentation, indentation, width, width, same]

end Text

/-! ## The loops -/

namespace Mode

variable (mode : Mode)

/-- Read one lexeme and feed it to the grammar. -/
def readLexeme? (cursor : ByteCursor) (state : ParseState) :
    Option (Token × ByteCursor × ParseState) := do
  let (outcome, cursor) ← cursor.scan? mode.dialect state.continuation
  let lexeme : Lexeme := ⟨outcome.token, ← cursor.lexeme?, ← cursor.rest?⟩
  let layout : Layout := ⟨Text.indentation cursor.tabSize cursor.line, mode.settings.indentUnit⟩
  let (style, context) := state.context.step mode.dialect layout lexeme
  return (⟨style, outcome.token.kind⟩, cursor, ⟨outcome.continuation, context⟩)

/-- Read one token: white space, where nothing is open, or a lexeme. -/
def nextToken? (cursor : ByteCursor) (state : ParseState) :
    Option (Token × ByteCursor × ParseState) := do
  let (blank, cursor) ← if state.continuation.isNone then cursor.eatBlank? else some (false, cursor)
  if blank then return (.bare .whitespace, cursor, state) else mode.readLexeme? cursor state

/-- Read one token; one without characters is tried again, a few times, and then a character is
passed over. -/
def readToken? : (tries : Nat) → ByteCursor → ParseState → Option (Token × ByteCursor × ParseState)
  | 0, cursor, state => do
    let (_, cursor) ← cursor.next?
    return (.bare .unclassified, cursor, state)
  | tries + 1, cursor, state => do
    let (token, cursor, state) ← mode.nextToken? cursor state
    if cursor.start < cursor.offset then return (token, cursor, state)
    else readToken? tries cursor state

/-- Read a line to its end: the tokens, and the state at the end. -/
def runLine? (cursor : ByteCursor) (state : ParseState) :
    Option (List PlacedToken × ParseState) := do
  if (← cursor.rest?).isEmpty then return ([], state)
  else
    let (token, behind, state) ← mode.readToken? attempts cursor.markLexeme state
    let text ← Text.cut? behind.start behind.offset behind.line
    let (later, final) ← if behind.left < cursor.left then runLine? behind state else none
    return (⟨behind.start, behind.offset, text, token, state⟩ :: later, final)
termination_by cursor.left

/-- Read lines from a line number on: the tokens, and the state behind the lines. -/
def runLines? : (number : Nat) → List Text → ParseState → Option (List DocumentToken × ParseState)
  | _, [], state => some ([], state)
  | number, line :: lines, state => do
    let (tokens, state) ← mode.runLine? (.ofLine mode.settings.tabSize line) state
    let (later, final) ← runLines? (number + 1) lines state
    return (tokens.map (PlacedToken.onLine number) ++ later, final)

/-- Read a document: the tokens, and the state at the end. -/
def run? (document : Text) : Option (List DocumentToken × ParseState) :=
  mode.runLines? 0 (lines document) (mode.startState 0)

/-- Read tokens until an offset or the end of the line is reached: the last token, or the one in
front. -/
def runUpTo? (offset : Nat) (token : Token) (cursor : ByteCursor) (state : ParseState) :
    Option (Token × ByteCursor × ParseState) := do
  if cursor.offset < offset ∧ (← cursor.rest?) ≠ [] then
    let (token, behind, state) ← mode.readToken? attempts cursor.markLexeme state
    if behind.left < cursor.left then runUpTo? offset token behind state else none
  else return (token, cursor, state)
termination_by cursor.left

/-- The token at an offset of a line, if the document has the line. -/
def runTo? (document : Text) (line offset : Nat) : Option (Option PlacedToken) := do
  let (_, state) ← mode.runLines? 0 ((lines document).take line) (mode.startState 0)
  match (lines document)[line]? with
  | none => return none
  | some target =>
    let start := ByteCursor.ofLine mode.settings.tabSize target
    let (token, cursor, state) ← mode.runUpTo? offset (.bare .unclassified) start state
    return some ⟨cursor.start, cursor.offset, ← cursor.lexeme?, token, state⟩

/-- Reindent lines, each of which is read as it stands then. -/
def reindentLines? : List Text → ParseState → Option (List Text)
  | [], _ => some []
  | line :: lines, state => do
    let indented := mode.reindentLine line state
    let (_, state) ← mode.runLine? (.ofLine mode.settings.tabSize indented) state
    return indented :: (← reindentLines? lines state)

/-- Reindent a document. -/
def reindent? (document : Text) : Option Text :=
  (mode.reindentLines? (lines document) (mode.startState 0)).map (Text.join '\n')

end Mode

/-! ## Nothing fails -/

namespace Cursor

variable (cursor : Cursor)

/-- Exactly the bytes of some characters that are left can be passed. -/
theorem isSome_advance?_toBytes_iff (bytes : Nat) :
    (cursor.toBytes.advance? bytes).isSome ↔
      bytes ≤ utf8Length cursor.rest ∧ (takeBytes? bytes cursor.rest).isSome := by
  constructor
  · intro moves
    have cut : (takeBytes? (cursor.offset + bytes) cursor.line).isSome := by
      by_contra splits
      simp [ByteCursor.advance?, toBytes, splits] at moves
    obtain ⟨first, isCut⟩ := Option.isSome_iff_exists.mp cut
    obtain ⟨size, isFirst⟩ := Text.takeBytes?_eq_some_iff.mp isCut
    obtain ⟨piece, isPiece, pieceSize⟩ : ∃ piece, piece <+: cursor.rest ∧
        utf8Length piece = bytes := by
      have passed : cursor.passed.reverse <+: cursor.line := ⟨cursor.rest, cursor.passed_rest⟩
      have passedSize : utf8Length cursor.passed.reverse = cursor.offset :=
        Text.utf8Length_reverse cursor.passed
      rcases List.prefix_or_prefix_of_prefix isFirst passed with ⟨more, isMore⟩ | ⟨piece, rfl⟩
      · rw [← isMore, Text.utf8Length_append] at passedSize
        exact ⟨[], List.nil_prefix, by rw [Text.utf8Length_nil]; omega⟩
      · rw [Text.utf8Length_append] at size
        rw [← cursor.passed_rest] at isFirst
        exact ⟨piece, (List.prefix_append_right_inj _).mp isFirst, by omega⟩
    obtain ⟨after, whole⟩ := isPiece
    constructor
    · rw [← whole, Text.utf8Length_append, pieceSize]
      exact Nat.le_add_right _ _
    · rw [Text.takeBytes?_eq_some_iff.mpr ⟨pieceSize, after, whole⟩, Option.isSome_some]
  · rintro ⟨-, fits⟩
    obtain ⟨read, cut⟩ := Option.isSome_iff_exists.mp fits
    obtain ⟨rfl, isFirst⟩ := Text.takeBytes?_eq_some_iff.mp cut
    rw [cursor.advance?_toBytes isFirst, Option.isSome_some]

-- One of the two bytes of a letter is no place for a cursor.
example : ByteCursor.advance? 1 (.ofLine 4 ['é']) = none := by decide

/-- White space that comes next is read. -/
theorem eatBlank?_toBytes :
    cursor.toBytes.eatBlank? = some (leading isBlank cursor.rest != 0,
      (cursor.advance (leading isBlank cursor.rest)).toBytes) := by
  rw [ByteCursor.eatBlank?, eatWhile?_toBytes]
  rfl

/-- Behind the start of a lexeme its text is cut out of the line. -/
theorem cut?_advance_markLexeme (count : Nat) :
    let behind := (cursor.markLexeme.advance count).toBytes
    Text.cut? behind.start behind.offset behind.line = some (cursor.rest.take count) := by
  intro behind
  have start : behind.start = utf8Length cursor.passed.reverse := by
    rw [Text.utf8Length_reverse]
    exact cursor.start_advance_markLexeme count
  have stop : behind.offset =
      utf8Length cursor.passed.reverse + utf8Length (cursor.rest.take count) := by
    rw [Text.utf8Length_reverse]
    exact cursor.markLexeme.offset_advance count
  have line : behind.line =
      cursor.passed.reverse ++ (cursor.rest.take count ++ cursor.rest.drop count) := by
    rw [List.take_append_drop, cursor.passed_rest]
    rfl
  rw [start, stop, line, Text.cut?_append]

end Cursor

namespace Mode

variable (mode : Mode)

/-- A lexeme is read and fed to the grammar with what stands behind it. -/
theorem readLexeme?_toBytes (cursor : Cursor) (state : ParseState) :
    let scanned := scan mode.dialect state.continuation cursor.rest
    let behind := cursor.advance scanned.length
    let answer := state.context.step mode.dialect ⟨cursor.indentation, mode.settings.indentUnit⟩
      ⟨scanned.token, behind.lexeme, behind.rest⟩
    mode.readLexeme? cursor.toBytes state = some (⟨answer.1, scanned.token.kind⟩, behind.toBytes,
      ⟨scanned.continuation, answer.2⟩) := by
  intro scanned behind answer
  have indentation : Text.indentation (max cursor.tabSize 1) cursor.line = cursor.indentation :=
    Text.indentation_max cursor.tabSize cursor.line
  have read : (scan mode.dialect state.continuation cursor.rest).readAt cursor =
      (⟨scanned.token, scanned.continuation⟩, behind.toBytes) := rfl
  simp only [readLexeme?, cursor.scan?_toBytes, read, Option.bind_eq_bind, Option.bind_some,
    Cursor.lexeme?_toBytes, Cursor.rest?_toBytes, answer, ← indentation]
  rfl

variable {mode} {state : ParseState}

/-- Where nothing is open, white space is read. -/
theorem nextToken?_of_blank (cursor : Cursor) (nothing : state.continuation = none)
    (blank : 0 < leading isBlank cursor.rest) :
    mode.nextToken? cursor.toBytes state =
      some (.bare .whitespace, (cursor.advance (leading isBlank cursor.rest)).toBytes, state) := by
  have found : (leading isBlank cursor.rest != 0) = true := bne_iff_ne.mpr blank.ne'
  rw [nextToken?, nothing, cursor.eatBlank?_toBytes, found]
  rfl

/-- Where text is open, or there is no white space, a lexeme is read. -/
theorem nextToken?_of_lexeme (cursor : Cursor)
    (black : state.continuation = none → leading isBlank cursor.rest = 0) :
    mode.nextToken? cursor.toBytes state = mode.readLexeme? cursor.toBytes state := by
  rw [nextToken?]
  cases nothing : state.continuation with
  | some continuation => rfl
  | none =>
    rw [cursor.eatBlank?_toBytes, black nothing, Cursor.advance_zero]
    rfl

/-- The one or the other is read. -/
theorem nextToken?_cases (mode : Mode) (cursor : Cursor) (state : ParseState) :
    (state.continuation = none ∧ 0 < leading isBlank cursor.rest ∧
      mode.nextToken? cursor.toBytes state =
        some (.bare .whitespace, (cursor.advance (leading isBlank cursor.rest)).toBytes, state)) ∨
    ((state.continuation = none → leading isBlank cursor.rest = 0) ∧
      mode.nextToken? cursor.toBytes state = mode.readLexeme? cursor.toBytes state) := by
  by_cases passes : state.continuation = none ∧ 0 < leading isBlank cursor.rest
  · exact .inl ⟨passes.1, passes.2, nextToken?_of_blank cursor passes.1 passes.2⟩
  · have black : state.continuation = none → leading isBlank cursor.rest = 0 := fun nothing =>
      Nat.eq_zero_of_not_pos fun blank => passes ⟨nothing, blank⟩
    exact .inr ⟨black, nextToken?_of_lexeme cursor black⟩

/-- At the start of a lexeme the token is read that a cursor reads which keeps the characters. -/
theorem nextToken?_markLexeme (mode : Mode) (cursor : Cursor) (state : ParseState) :
    mode.nextToken? cursor.markLexeme.toBytes state =
      some ((mode.nextToken cursor.markLexeme state).map id (Prod.map Cursor.toBytes id)) := by
  have cases := mode.nextToken?_cases cursor.markLexeme state
  rw [Cursor.rest_markLexeme] at cases
  rw [nextToken_markLexeme]
  rcases cases with ⟨nothing, blank, reads⟩ | ⟨black, reads⟩
  · rw [reads, mode.read_of_blank nothing blank]
    rfl
  · rw [reads, mode.read_of_lexeme black, readLexeme?_toBytes, Cursor.lexeme_advance_markLexeme]
    rfl

variable (mode)

/-- So are the next ones, until one has characters. -/
theorem readToken?_markLexeme (tries : Nat) {cursor : Cursor} (inside : cursor.rest ≠ [])
    (state : ParseState) :
    mode.readToken? tries cursor.markLexeme.toBytes state =
      some ((mode.readToken tries cursor.markLexeme state).map id
        (Prod.map Cursor.toBytes id)) := by
  induction tries generalizing state with
  | zero =>
    rw [readToken?, Cursor.next?_toBytes]
    rfl
  | succ tries ih =>
    simp only [readToken?, readToken, nextToken?_markLexeme, nextToken_markLexeme,
      Option.bind_eq_bind, Option.bind_some, Prod.map_fst, Prod.map_snd, id_eq]
    generalize mode.read cursor.indentation [] cursor.rest state = reading
    have moves : (cursor.markLexeme.advance reading.length).start <
        (cursor.markLexeme.advance reading.length).offset ↔ 0 < reading.length := by
      rw [cursor.start_advance_markLexeme, cursor.offset_lt_advance_iff inside]
    have movesBytes : (cursor.markLexeme.advance reading.length).toBytes.start <
        (cursor.markLexeme.advance reading.length).toBytes.offset ↔ 0 < reading.length := moves
    by_cases taken : 0 < reading.length
    · rw [if_pos (movesBytes.mpr taken), if_pos (moves.mpr taken)]
      rfl
    · have empty : reading.length = 0 := Nat.eq_zero_of_not_pos taken
      rw [if_neg (mt movesBytes.mp taken), if_neg (mt moves.mp taken), empty, Cursor.advance_zero,
        ih]

/-- A line is read to its end, and the tokens are those that are placed on it. -/
theorem runLine?_toBytes (cursor : Cursor) (state : ParseState) :
    let tokens := mode.tokensFrom cursor.indentation 0 cursor.rest cursor.offset state
    mode.runLine? cursor.toBytes state = some (tokens, stateBehind tokens state) := by
  generalize size : cursor.toBytes.left = left
  induction left using Nat.strong_induction_on generalizing cursor state with
  | _ left ih =>
    rw [runLine?, cursor.rest?_toBytes]
    by_cases inside : cursor.rest = []
    · rw [inside]
      rfl
    · simp only [Option.bind_eq_bind, Option.bind_some, List.isEmpty_iff, inside, if_false,
        cursor.markLexeme_toBytes, mode.readToken?_markLexeme attempts inside,
        mode.readToken_eq inside, Prod.map_fst, Prod.map_snd, id_eq]
      have positive := mode.readSome_length_pos cursor.indentation cursor.rest attempts state
      generalize reads : mode.readSome cursor.indentation cursor.rest attempts state = reading
        at positive ⊢
      have less : (cursor.markLexeme.advance reading.length).toBytes.left < cursor.toBytes.left :=
        cursor.markLexeme.left_advance_lt inside positive
      have later := ih _ (size ▸ less) (cursor.markLexeme.advance reading.length) reading.state rfl
      have start : (cursor.markLexeme.advance reading.length).toBytes.start = cursor.offset :=
        cursor.start_advance_markLexeme reading.length
      have stop : (cursor.markLexeme.advance reading.length).toBytes.offset =
          cursor.offset + utf8Length (cursor.rest.take reading.length) :=
        cursor.markLexeme.offset_advance reading.length
      rw [cursor.cut?_advance_markLexeme, Option.bind_some, if_pos less, later,
        mode.tokensFrom_of_readSome inside reads]
      simp only [Option.bind_some, stateBehind_cons, start, stop, Cursor.indentation_advance,
        Cursor.indentation_markLexeme, Cursor.rest_advance, Cursor.rest_markLexeme,
        Cursor.offset_advance, Cursor.offset_markLexeme]
      rfl

/-- So is a whole line. -/
theorem runLine?_ofLine (line : Text) (state : ParseState) :
    mode.runLine? (.ofLine mode.settings.tabSize line) state =
      some (mode.lineTokens line state, mode.lineEnd line state) :=
  mode.runLine?_toBytes (.ofLine mode.settings.tabSize line) state

/-- So are lines. -/
theorem runLines?_eq (number : Nat) (lines : List Text) (state : ParseState) :
    mode.runLines? number lines state =
      some (mode.linesTokens number lines state, mode.linesEnd lines state) := by
  induction lines generalizing number state with
  | nil => rfl
  | cons line lines ih =>
    rw [runLines?, mode.runLine?_ofLine]
    simp only [Option.bind_eq_bind, Option.bind_some, ih]
    rfl

/-- The loop up to an offset comes to the same token. -/
theorem runUpTo?_toBytes (offset : Nat) (token : Token) (cursor : Cursor) (state : ParseState) :
    mode.runUpTo? offset token cursor.toBytes state =
      some ((mode.readUpTo offset token cursor state).map id (Prod.map Cursor.toBytes id)) := by
  induction token, cursor, state using readUpTo.induct mode offset with
  | case1 token cursor state goesOn next ih =>
    have behind : cursor.toBytes.offset < offset ∧ cursor.rest ≠ [] := goesOn
    rw [runUpTo?, cursor.rest?_toBytes, readUpTo, if_pos goesOn, ← ih]
    have less : next.2.1.toBytes.left < cursor.toBytes.left := by
      have positive := mode.readSome_length_pos cursor.indentation cursor.rest attempts state
      simp only [next, mode.readToken_eq goesOn.2]
      exact cursor.markLexeme.left_advance_lt goesOn.2 positive
    rw [Option.bind_eq_bind, Option.bind_some, if_pos behind, cursor.markLexeme_toBytes,
      mode.readToken?_markLexeme attempts goesOn.2]
    exact if_pos less
  | case2 token cursor state stops =>
    have ends : ¬(cursor.toBytes.offset < offset ∧ cursor.rest ≠ []) := stops
    rw [runUpTo?, cursor.rest?_toBytes, readUpTo, if_neg stops, Option.bind_eq_bind,
      Option.bind_some, if_neg ends]
    rfl

/-- So the same token is found at an offset. -/
theorem runTo?_eq (document : Text) (line offset : Nat) :
    mode.runTo? document line offset = some (mode.tokenAt? document line offset) := by
  rw [runTo?, runLines?_eq, ← findToken?_eq, findToken?]
  simp only [Option.bind_eq_bind, Option.bind_some]
  cases (lines document)[line]? with
  | none => rfl
  | some target =>
    have start : ByteCursor.ofLine mode.settings.tabSize target =
        (Cursor.ofLine mode.settings.tabSize target).toBytes := rfl
    simp only [start, runUpTo?_toBytes, Option.bind_some, Prod.map_fst, Prod.map_snd,
      Cursor.lexeme?_toBytes]
    rfl

/-- Lines are reindented alike. -/
theorem reindentLines?_eq (lines : List Text) (state : ParseState) :
    mode.reindentLines? lines state = some (mode.reindentLines lines state) := by
  induction lines generalizing state with
  | nil => rfl
  | cons line lines ih =>
    rw [reindentLines?, mode.runLine?_ofLine]
    simp only [Option.bind_eq_bind, Option.bind_some, ih]
    rfl

/-! ## No character is split -/

variable {mode}

/-- The offsets of a token of a line cut its text out. -/
theorem spans_of_mem_lineTokens {line : Text} {state : ParseState} {placed : PlacedToken}
    (isToken : placed ∈ mode.lineTokens line state) : line.Spans placed.start placed.stop := by
  have tiles := (mode.lineTokens_tiling 0 line state).tiles
  have isPlaced : placed.onLine 0 ∈ _ := List.mem_map_of_mem isToken
  exact Text.spans_of_slice? (tiles.nonempty _ isPlaced).le (tiles.text _ isPlaced)

/-- So do those of the token at an offset. -/
theorem spans_of_tokenAt? {document : Text} {number offset : Nat} {placed : PlacedToken}
    (found : mode.tokenAt? document number offset = some placed) :
    ∃ line, (lines document)[number]? = some line ∧ line.Spans placed.start placed.stop := by
  obtain ⟨line, isLine, -⟩ := Option.map_eq_some_iff.mp found
  refine ⟨line, isLine, ?_⟩
  rw [tokenAt?_eq_some isLine] at found
  cases last : ((mode.lineTokens line (mode.linesEnd ((lines document).take number)
      (mode.startState 0))).takeWhile (·.start < offset)).getLast? with
  | none =>
    rw [last] at found
    obtain rfl := Option.some.inj found
    exact line.spans_zero
  | some token =>
    rw [last] at found
    obtain rfl := Option.some.inj found
    have isStarted := List.mem_of_getLast? last
    exact spans_of_mem_lineTokens (List.takeWhile_subset _ isStarted)

/-- Wherever a cursor stands and whatever is open, a token is read. -/
theorem exists_nextToken? (mode : Mode) (cursor : Cursor) (state : ParseState) :
    ∃ token count behind, mode.nextToken? cursor.toBytes state =
      some (token, (cursor.advance count).toBytes, behind) := by
  rcases mode.nextToken?_cases cursor state with ⟨-, -, reads⟩ | ⟨-, reads⟩
  · exact ⟨_, _, _, reads⟩
  · exact ⟨_, _, _, reads.trans (mode.readLexeme?_toBytes cursor state)⟩

/-- Texts are only cut between two characters, and cursors only moved there. -/
structure SplitsNoCharacter (mode : Mode) : Prop where
  /-- A cursor can be moved on exactly by bytes that end between two characters of what is left. -/
  advance (cursor : Cursor) (bytes : Nat) : (cursor.toBytes.advance? bytes).isSome ↔
    bytes ≤ utf8Length cursor.rest ∧ (takeBytes? bytes cursor.rest).isSome
  /-- No pattern fails on any text, and it only matches bytes by which a cursor can be moved on. -/
  pattern : ∀ pattern ∈ BytePattern.all, ∀ text, ∃ found, pattern text = some found ∧
    ∀ bytes, found = some bytes → bytes ≤ utf8Length text ∧ (takeBytes? bytes text).isSome
  /-- The scanner does not fail, and reads what `scan` does. -/
  scan (cursor : Cursor) (opened : Option Continuation) :
    cursor.toBytes.scan? mode.dialect opened =
      some ((Stylesheet.scan mode.dialect opened cursor.rest).readAt cursor)
  /-- To read a token does not fail, and moves the cursor on over characters. -/
  nextToken (cursor : Cursor) (state : ParseState) : ∃ token count behind,
    mode.nextToken? cursor.toBytes state = some (token, (cursor.advance count).toBytes, behind)
  /-- To read a line does not fail, and its tokens are cut out of it. -/
  line (line : Text) (state : ParseState) :
    mode.runLine? (.ofLine mode.settings.tabSize line) state =
        some (mode.lineTokens line state, mode.lineEnd line state) ∧
      ∀ placed ∈ mode.lineTokens line state, line.Spans placed.start placed.stop
  /-- Nor does it fail to read a document, -/
  document (document : Text) :
    mode.run? document = some (mode.highlight document, mode.finalState document)
  /-- to find the token at an offset, which is cut out of its line too, -/
  tokenAt (document : Text) (number offset : Nat) :
    mode.runTo? document number offset = some (mode.tokenAt? document number offset) ∧
      ∀ placed, mode.tokenAt? document number offset = some placed →
        ∃ line, (lines document)[number]? = some line ∧ line.Spans placed.start placed.stop
  /-- or to reindent a document. -/
  reindent (document : Text) : mode.reindent? document = some (mode.reindent document)

/-- No mode ever splits a character, on any text and in any state. -/
theorem splitsNoCharacter (mode : Mode) : mode.SplitsNoCharacter where
  advance := Cursor.isSome_advance?_toBytes_iff
  pattern cutting isPattern text := by
    obtain ⟨pattern, measures⟩ := BytePattern.exists_measures cutting isPattern
    refine ⟨_, measures text, fun bytes matched => ?_⟩
    obtain ⟨count, -, rfl⟩ := Option.map_eq_some_iff.mp matched
    rw [Text.takeBytes?_utf8Length_take]
    refine ⟨?_, rfl⟩
    conv_rhs => rw [← List.take_append_drop count text]
    rw [Text.utf8Length_append]
    exact Nat.le_add_right _ _
  scan cursor := cursor.scan?_toBytes mode.dialect
  nextToken := mode.exists_nextToken?
  line line state := ⟨mode.runLine?_ofLine line state, fun _ => spans_of_mem_lineTokens⟩
  document document := mode.runLines?_eq 0 (lines document) (mode.startState 0)
  tokenAt document number offset :=
    ⟨mode.runTo?_eq document number offset, fun _ => spans_of_tokenAt?⟩
  reindent document := by
    rw [reindent?, reindentLines?_eq]
    rfl

end Mode

end Stylesheet
