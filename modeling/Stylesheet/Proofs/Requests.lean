import Stylesheet.Proofs.ByteCursor

/-!
# What is asked of a cursor

A host asks a cursor for one thing after the other (`Request`), in whatever order. What is read, and
what is answered, depends on what is left of the line only (`Request.reads`, `Request.reply`). So a
cursor that keeps the characters and one that counts bytes answer alike, and as if they kept no more
than how many characters stand before the cursor and before the lexeme; and the one that counts
bytes never fails (`ByteCursor.refines`).
-/
namespace Stylesheet

open Text (utf8Length takeBytes?)

/-! ## Requests -/

/-- What a mode or a host asks of a cursor. -/
inductive Request where
  | next
  | peek
  | eat (expected : Char)
  | eatIf (belongs : Char → Bool)
  | eatWhile (belongs : Char → Bool)
  | eatBlank
  | skipToEnd
  | backUp (count : Nat)
  | matchText (text : Text) (consume : Bool)
  | matchPattern (pattern : Text.BytePattern) (consume : Bool)
  | markLexeme

/-- What a cursor answers: a character or none, whether something was found, or nothing. -/
inductive Reply where
  | char (read : Option Char)
  | truth (found : Bool)
  | done
  deriving DecidableEq, Repr

/-- Whether nothing was found. -/
def Reply.isRefusal : Reply → Bool
  | char none | truth false => true
  | _ => false

namespace Request

/-- Whether a match of a pattern does not end inside a character of what is left of a line. -/
def fits (rest : Text) : Request → Bool
  | matchPattern pattern _ => (pattern rest).all fun bytes => (takeBytes? bytes rest).isSome
  | _ => true

/-- What a request reads of what is left of a line. -/
def reads (rest : Text) : Request → Text
  | next => rest.take 1
  | eat expected => (rest.take 1).filter (· = expected)
  | eatIf belongs => (rest.take 1).filter belongs
  | eatWhile belongs => rest.takeWhile belongs
  | eatBlank => rest.takeWhile Text.isBlank
  | skipToEnd => rest
  | matchText text consume => if consume && text.isPrefixOf rest then text else []
  | matchPattern pattern consume =>
    if consume then ((pattern rest).bind (takeBytes? · rest)).getD [] else []
  | peek | backUp _ | markLexeme => []

/-- What is answered to a request: what it reads or whether it reads something, unless it may match
without reading. -/
def reply (rest : Text) (request : Request) : Reply :=
  match request with
  | next | eatIf _ => .char (request.reads rest).head?
  | peek => .char rest.head?
  | eat _ | eatWhile _ | eatBlank => .truth (request.reads rest ≠ [])
  | matchText text _ => .truth (text.isPrefixOf rest)
  | matchPattern pattern _ => .truth (pattern rest).isSome
  | skipToEnd | backUp _ | markLexeme => .done

/-- Whatever is read is what comes next. -/
theorem reads_isPrefix (request : Request) (rest : Text) : request.reads rest <+: rest := by
  have one (belongs : Char → Bool) : (rest.take 1).filter belongs <+: rest := by
    cases rest with
    | nil => simp
    | cons c rest => by_cases member : belongs c <;> simp [member]
  cases request with
  | next => exact List.take_prefix _ _
  | eat expected => exact one _
  | eatIf belongs => exact one _
  | eatWhile belongs => exact List.takeWhile_prefix _
  | eatBlank => exact List.takeWhile_prefix _
  | skipToEnd => exact List.prefix_rfl
  | matchText text consume =>
    simp only [reads]
    split
    · next isFirst => exact List.isPrefixOf_iff_prefix.mp (Bool.and_eq_true_iff.mp isFirst).2
    · exact List.nil_prefix
  | matchPattern pattern consume =>
    simp only [reads]
    split
    · cases found : (pattern rest).bind (takeBytes? · rest) with
      | none => exact List.nil_prefix
      | some read =>
        obtain ⟨bytes, -, cut⟩ := Option.bind_eq_some_iff.mp found
        exact (Text.takeBytes?_eq_some_iff.mp cut).2
    · exact List.nil_prefix
  | peek | backUp _ | markLexeme => exact List.nil_prefix

/-- Where nothing is found nothing is read. -/
theorem reads_eq_nil {request : Request} {rest : Text}
    (refused : (request.reply rest).isRefusal) : request.reads rest = [] := by
  have noText {read : Text} (refusal : (Reply.char read.head?).isRefusal) : read = [] := by
    cases read with
    | nil => rfl
    | cons c read => contradiction
  have noFind {read : Text} (refusal : (Reply.truth (read ≠ [])).isRefusal) : read = [] := by
    by_contra found
    simp [found, Reply.isRefusal] at refusal
  cases request with
  | next => exact noText refused
  | eatIf belongs => exact noText refused
  | eat expected => exact noFind refused
  | eatWhile belongs => exact noFind refused
  | eatBlank => exact noFind refused
  | matchText text consume =>
    cases isFirst : text.isPrefixOf rest with
    | false => simp [reads, isFirst]
    | true => simp [reply, isFirst, Reply.isRefusal] at refused
  | matchPattern pattern consume =>
    cases found : pattern rest with
    | none => simp [reads, found]
    | some bytes => simp [reply, found, Reply.isRefusal] at refused
  | skipToEnd => contradiction
  | peek | backUp _ | markLexeme => rfl

end Request

/-- How many characters of a line stand before a cursor, and before its lexeme. -/
structure Place where
  index : Nat
  mark : Nat
  deriving DecidableEq, Repr

namespace Place

/-- The answer to a request at a place of a line, and the place behind it. -/
def answer (line : Text) (request : Request) (place : Place) : Reply × Place :=
  let rest := line.drop place.index
  (request.reply rest,
    match request with
    | .backUp count => { place with index := place.index - count }
    | .markLexeme => { place with mark := place.index }
    | _ => { place with index := place.index + (request.reads rest).length })

/-- The answers to requests, one after the other, and the place behind them. -/
def answers (line : Text) : List Request → Place → List Reply × Place
  | [], place => ([], place)
  | request :: requests, place =>
    let first := place.answer line request
    let later := first.2.answers line requests
    (first.1 :: later.1, later.2)

/-- Whether no match ends inside a character, wherever the requests before it lead. -/
def fitting (line : Text) : List Request → Place → Bool
  | [], _ => true
  | request :: requests, place =>
    request.fits (line.drop place.index) && (place.answer line request).2.fitting line requests

end Place

/-- The answer of a cursor to a request, and the cursor behind it. -/
def Cursor.answer (cursor : Cursor) : Request → Reply × Cursor
  | .next => cursor.next.map .char id
  | .peek => (.char cursor.peek?, cursor)
  | .eat expected => (cursor.eat expected).map .truth id
  | .eatIf belongs => (cursor.eatIf belongs).map .char id
  | .eatWhile belongs => (cursor.eatWhile belongs).map .truth id
  | .eatBlank => cursor.eatBlank.map .truth id
  | .skipToEnd => (.done, cursor.skipToEnd)
  | .backUp count => (.done, cursor.backUp count)
  | .matchText text consume => (cursor.matchText text consume).map .truth id
  | .matchPattern pattern consume =>
    (cursor.matchPattern pattern.inCharacters consume).map .truth id
  | .markLexeme => (.done, cursor.markLexeme)

/-- The answers of a cursor to requests, one after the other, and the cursor behind them. -/
def Cursor.answers : List Request → Cursor → List Reply × Cursor
  | [], cursor => ([], cursor)
  | request :: requests, cursor =>
    let first := cursor.answer request
    let later := answers requests first.2
    (first.1 :: later.1, later.2)

/-- The answer of a cursor that counts bytes, and the cursor behind the request. -/
def ByteCursor.answer? (cursor : ByteCursor) : Request → Option (Reply × ByteCursor)
  | .next => cursor.next?.map (Prod.map .char id)
  | .peek => cursor.peek?.map fun c => (.char c, cursor)
  | .eat expected => (cursor.eat? expected).map (Prod.map .truth id)
  | .eatIf belongs => (cursor.eatIf? belongs).map (Prod.map .char id)
  | .eatWhile belongs => (cursor.eatWhile? belongs).map (Prod.map .truth id)
  | .eatBlank => cursor.eatBlank?.map (Prod.map .truth id)
  | .skipToEnd => cursor.skipToEnd?.map (.done, ·)
  | .backUp count => (cursor.backUp? count).map (.done, ·)
  | .matchText text consume => (cursor.matchText? text consume).map (Prod.map .truth id)
  | .matchPattern pattern consume => (cursor.matchPattern? pattern consume).map (Prod.map .truth id)
  | .markLexeme => some (.done, cursor.markLexeme)

/-- The answers of a cursor that counts bytes, one after the other, and the cursor behind them. -/
def ByteCursor.answers? : List Request → ByteCursor → Option (List Reply × ByteCursor)
  | [], cursor => some ([], cursor)
  | request :: requests, cursor => do
    let first ← cursor.answer? request
    let later ← answers? requests first.2
    return (first.1 :: later.1, later.2)

/-! ## Answers to requests -/

namespace Cursor

/-- Where a cursor stands. -/
def place (cursor : Cursor) : Place := ⟨cursor.index, cursor.mark⟩

variable (cursor : Cursor)

/-- Any request is answered alike. -/
theorem answer?_toBytes {request : Request} (fits : request.fits cursor.rest) :
    cursor.toBytes.answer? request = some ((cursor.answer request).map id toBytes) := by
  cases request with
  | next => simp [ByteCursor.answer?, answer, next?_toBytes, Prod.map_map]
  | peek => simp [ByteCursor.answer?, answer, peek?_toBytes]
  | eat expected => simp [ByteCursor.answer?, answer, eat?_toBytes, Prod.map_map]
  | eatIf belongs => simp [ByteCursor.answer?, answer, eatIf?_toBytes, Prod.map_map]
  | eatWhile belongs => simp [ByteCursor.answer?, answer, eatWhile?_toBytes, Prod.map_map]
  | eatBlank =>
    simp [ByteCursor.answer?, answer, ByteCursor.eatBlank?, eatBlank, eatWhile?_toBytes,
      Prod.map_map]
  | skipToEnd => simp [ByteCursor.answer?, answer, skipToEnd?_toBytes]
  | backUp count => simp [ByteCursor.answer?, answer, backUp?_toBytes]
  | markLexeme => simp [ByteCursor.answer?, answer, markLexeme_toBytes]
  | matchText text consume =>
    simp [ByteCursor.answer?, answer, matchText?_toBytes, Prod.map_map]
  | matchPattern pattern consume =>
    have measured : ∀ bytes, pattern cursor.rest = some bytes →
        (takeBytes? bytes cursor.rest).isSome := by
      simpa [Request.fits, Option.all_eq_true] using fits
    simp [ByteCursor.answer?, answer, cursor.matchPattern?_toBytes measured, Prod.map_map]

/-- A cursor answers what is asked, and passes what is read. -/
theorem answer_eq (request : Request) :
    cursor.answer request = (request.reply cursor.rest,
      match request with
      | .backUp count => cursor.backUp count
      | .markLexeme => cursor.markLexeme
      | _ => cursor.advance (request.reads cursor.rest).length) := by
  cases request with
  | backUp count | markLexeme => rfl
  | peek => simp [answer, Request.reply, Request.reads, peek?, advance_zero]
  | next =>
    cases here : cursor.rest with
    | nil => simp [answer, Request.reply, Request.reads, next, peek?, here, advance]
    | cons c rest => simp [answer, Request.reply, Request.reads, next, peek?, here]
  | eat expected =>
    cases here : cursor.rest with
    | nil => simp [answer, Request.reply, Request.reads, eat, peek?, here, advance_zero]
    | cons c rest =>
      by_cases expects : c = expected <;>
        simp [answer, Request.reply, Request.reads, eat, peek?, here, expects, advance_zero]
  | eatIf belongs =>
    cases here : cursor.rest with
    | nil => simp [answer, Request.reply, Request.reads, eatIf, peek?, here, advance_zero]
    | cons c rest =>
      by_cases member : belongs c <;>
        simp [answer, Request.reply, Request.reads, eatIf, peek?, here, member, advance_zero]
  | eatWhile belongs =>
    simp only [answer, Request.reply, eatWhile, Text.leading_bne_zero]
    rfl
  | eatBlank =>
    simp only [answer, Request.reply, eatBlank, eatWhile, Text.leading_bne_zero]
    rfl
  | skipToEnd => rfl
  | matchText text consume =>
    cases consume <;> by_cases isFirst : text.isPrefixOf cursor.rest <;>
      simp [answer, Request.reply, Request.reads, matchText, matchPattern, isFirst, advance_zero]
  | matchPattern pattern consume =>
    cases consume <;> cases found : pattern cursor.rest <;>
      simp [answer, Request.reply, Request.reads, matchPattern, Text.BytePattern.inCharacters,
        found, advance_zero]

/-- Reading a first part of what is left moves the index over its characters. -/
theorem place_advance {read : Text} (isFirst : read <+: cursor.rest) :
    (cursor.advance read.length).place = ⟨cursor.index + read.length, cursor.mark⟩ := by
  have length := isFirst.length_le
  simp [place, index, advance]
  omega

/-- So it answers as its place does, and moves as it. -/
theorem place_answer (request : Request) :
    cursor.place.answer cursor.line request = (cursor.answer request).map id place := by
  have rest : cursor.line.drop cursor.place.index = cursor.rest := cursor.drop_index
  have moved := (cursor.place_advance (request.reads_isPrefix cursor.rest)).symm
  rw [answer_eq]
  unfold Place.answer
  rw [rest]
  refine Prod.ext rfl ?_
  cases request with
  | backUp count => simp [place, index, backUp]
  | markLexeme => rfl
  | _ => exact moved

/-- A cursor stays on its line. -/
theorem line_answer (request : Request) : (cursor.answer request).2.line = cursor.line := by
  rw [answer_eq]
  cases request <;> rfl

/-! ## Runs -/

/-- Requests are answered alike, one after the other. -/
theorem answers?_toBytes {requests : List Request}
    (fitting : cursor.place.fitting cursor.line requests) :
    cursor.toBytes.answers? requests = some ((cursor.answers requests).map id toBytes) := by
  induction requests generalizing cursor with
  | nil => rfl
  | cons request requests ih =>
    obtain ⟨fits, later⟩ := Bool.and_eq_true_iff.mp fitting
    have here : request.fits cursor.rest := by rwa [← cursor.drop_index]
    rw [place_answer, ← cursor.line_answer request] at later
    have rest := ih (cursor.answer request).2 later
    simp [ByteCursor.answers?, cursor.answer?_toBytes here, rest, answers]

/-- Places are moved alike. -/
theorem place_answers (requests : List Request) :
    cursor.place.answers cursor.line requests = (cursor.answers requests).map id place := by
  induction requests generalizing cursor with
  | nil => rfl
  | cons request requests ih =>
    have rest := ih (cursor.answer request).2
    rw [line_answer] at rest
    simp [Place.answers, place_answer, rest, answers]

/-- It stays there, whatever is asked. -/
theorem line_answers (requests : List Request) :
    (cursor.answers requests).2.line = cursor.line := by
  induction requests generalizing cursor with
  | nil => rfl
  | cons request requests ih => exact (ih _).trans (cursor.line_answer request)

/-! ## Back over what is read -/

/-- To go back twice is to go back over as many characters together. -/
theorem backUp_backUp (few more : Nat) :
    (cursor.backUp few).backUp more = cursor.backUp (few + more) := by
  simp [backUp, List.take_add]

/-- A character that is read may be given back. -/
theorem backUp_advance_one {c : Char} {rest : Text} (here : cursor.rest = c :: rest) :
    (cursor.advance 1).backUp 1 = cursor := by
  obtain ⟨line, passed, rest, mark, tabSize, passed_rest⟩ := cursor
  obtain rfl := here
  simp [backUp, advance]

/-- So may any characters that are read one by one. -/
theorem backUp_answers_next {count : Nat}
    (found : ∀ reply ∈ (cursor.answers (List.replicate count .next)).1, ¬reply.isRefusal) :
    (cursor.answers (List.replicate count .next)).2.backUp count = cursor := by
  induction count generalizing cursor with
  | zero => rfl
  | succ count ih =>
    rw [List.replicate_succ, answers] at found ⊢
    obtain ⟨here, later⟩ := List.forall_mem_cons.mp found
    rw [← backUp_backUp, ih _ later]
    cases inside : cursor.rest with
    | nil => simp [answer, next, peek?, inside, Reply.isRefusal] at here
    | cons c rest => exact cursor.backUp_advance_one inside

/-- To read characters one by one fits any line. -/
theorem fitting_next (line : Text) (count : Nat) (place : Place) :
    place.fitting line (List.replicate count .next) := by
  induction count generalizing place with
  | zero => rfl
  | succ count ih => exact ih _

/-! ## Refinement -/

/-- What a cursor shows of its line, by characters and by bytes. -/
structure Shows (line : Text) (cursor : Cursor) : Prop where
  /-- It stands within the line. -/
  index_le : cursor.index ≤ line.length
  /-- Its offset is that of the characters before it. -/
  offset_eq : cursor.toBytes.offset = utf8Length (line.take cursor.index)
  /-- The offset of the lexeme is that of the characters before the lexeme. -/
  start_eq : cursor.toBytes.start = utf8Length (line.take cursor.mark)
  /-- The line may be cut at the offset, between two characters. -/
  before_eq : takeBytes? cursor.toBytes.offset line = some (line.take cursor.index)
  /-- What is cut off there, and what is left, is the line. -/
  line_eq : line.take cursor.index ++ cursor.rest = line
  rest_eq : cursor.toBytes.rest? = some cursor.rest
  /-- The lexeme is what stands between its start and the cursor. -/
  lexeme_eq : cursor.lexeme = (line.take cursor.index).drop (min cursor.mark cursor.index)
  lexeme?_eq : cursor.toBytes.lexeme? = some cursor.lexeme
  /-- Any request reads what comes next, and nothing where nothing is found. -/
  reads (request : Request) : request.reads cursor.rest <+: cursor.rest ∧
    ((request.reply cursor.rest).isRefusal → request.reads cursor.rest = [])
  /-- Characters that are read one by one may be given back. -/
  givesBack (count : Nat) : ∃ replies behind,
    cursor.toBytes.answers? (List.replicate count .next) = some (replies, behind) ∧
      ((∀ reply ∈ replies, ¬reply.isRefusal) → behind.backUp? count = some cursor.toBytes)

/-- Every cursor shows of its line what it should. -/
theorem shows : cursor.Shows cursor.line where
  index_le := cursor.index_le
  offset_eq := cursor.offset_eq
  start_eq := rfl
  before_eq := by rw [take_index]; exact cursor.takeBytes?_offset
  line_eq := by rw [take_index, cursor.passed_rest]
  rest_eq := cursor.rest?_toBytes
  lexeme_eq := cursor.lexeme_eq
  lexeme?_eq := cursor.lexeme?_toBytes
  reads request := ⟨request.reads_isPrefix _, Request.reads_eq_nil⟩
  givesBack count := by
    have answers := cursor.answers?_toBytes (fitting_next cursor.line count cursor.place)
    refine ⟨_, _, answers, fun found => ?_⟩
    have back := cursor.backUp_answers_next found
    rw [backUp?_toBytes, back]

end Cursor

/-- Whatever is asked at a line, as long as no match of a pattern ends inside a character: a cursor
that counts bytes never fails, answers as the cursor that keeps the characters and as the place of
that, and shows the same. -/
theorem ByteCursor.refines (tabSize : UInt64) {line : Text} {requests : List Request}
    (fitting : Place.fitting line requests ⟨0, 0⟩) :
    ∃ replies cursor,
      Cursor.answers requests (.ofLine tabSize line) = (replies, cursor) ∧
      ByteCursor.answers? requests (.ofLine tabSize line) = some (replies, cursor.toBytes) ∧
      Place.answers line requests ⟨0, 0⟩ = (replies, cursor.place) ∧ cursor.Shows line := by
  have bytes := (Cursor.ofLine tabSize line).answers?_toBytes fitting
  have places := (Cursor.ofLine tabSize line).place_answers requests
  have shows := (Cursor.answers requests (.ofLine tabSize line)).2.shows
  rw [Cursor.line_answers] at shows
  exact ⟨_, _, rfl, bytes, places, shows⟩

/-- Characters of one, two and four bytes are read and given back, until the cursor stands before
its lexeme. -/
theorem ByteCursor.refines_backUp :
    let line := ['a', 'é', '😀', 'b']
    let one : Text.BytePattern := fun rest => rest.head?.map Char.utf8Size
    let requests := [.next, .markLexeme, .matchPattern one true, .eatWhile (· ≠ 'b'), .backUp 9]
    Place.fitting line requests ⟨0, 0⟩ ∧ ∃ replies cursor,
      Cursor.answers requests (.ofLine 4 line) = (replies, cursor) ∧
      ByteCursor.answers? requests (.ofLine 4 line) = some (replies, cursor.toBytes) ∧
      cursor.place = ⟨0, 1⟩ ∧ cursor.Shows line := by
  intro line one requests
  have fitting : Place.fitting line requests ⟨0, 0⟩ := by decide
  obtain ⟨replies, cursor, characters, bytes, places, shows⟩ := ByteCursor.refines 4 fitting
  have stands : cursor.place = ⟨0, 1⟩ := congrArg Prod.snd places.symm
  exact ⟨fitting, replies, cursor, characters, bytes, stands, shows⟩

end Stylesheet
