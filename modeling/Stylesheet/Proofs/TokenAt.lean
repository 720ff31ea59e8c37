import Mathlib.Data.List.TakeWhile
import Stylesheet.Proofs.HostLoop

/-!
# The token at an offset

To find the token at an offset a host reads the lines above and then its line token by token, until
it has come to the offset or to the end of the line (`Mode.findToken?`). That loop stops earlier
than the one that highlights, and the last token it reads is the one that covers the offset or ends
there (`Mode.findToken?_eq`). It is the only such token of the whole document, and the state behind
it is the one that highlighting comes to there (`Mode.tokenAt?_agrees`).
-/
namespace Stylesheet

open Text (utf8Length lines)

/-! ## The loop up to an offset -/

/-- A token as the cursor behind it places it. -/
def Cursor.placed (cursor : Cursor) (token : Token) (state : ParseState) : PlacedToken :=
  { start := cursor.start, stop := cursor.offset, text := cursor.lexeme, token, state }

/-- A token that starts where the cursor stood has the text that the cursor has passed. -/
theorem Cursor.placed_advance_markLexeme (cursor : Cursor) (count : Nat) (token : Token)
    (state : ParseState) :
    (cursor.markLexeme.advance count).placed token state =
      { start := cursor.offset
        stop := cursor.offset + utf8Length (cursor.rest.take count)
        text := cursor.rest.take count
        token
        state } := by
  rw [placed, start_advance_markLexeme, lexeme_advance_markLexeme, offset_advance,
    offset_markLexeme, rest_markLexeme]

/-- In front of the end of the line a cursor moves by any characters. -/
theorem Cursor.offset_lt_advance_iff (cursor : Cursor) (inside : cursor.rest ≠ []) {count : Nat} :
    cursor.offset < (cursor.markLexeme.advance count).offset ↔ 0 < count := by
  rw [offset_advance, offset_markLexeme, rest_markLexeme, Nat.lt_add_right_iff_pos,
    Nat.pos_iff_ne_zero, Nat.pos_iff_ne_zero, Ne, Text.utf8Length_eq_zero_iff,
    List.take_eq_nil_iff, or_iff_left inside]

namespace Mode

variable (mode : Mode)

/-- Read a token at a cursor. A reading without characters is tried again, a few times, and then a
character is passed over. -/
def readToken : (tries : Nat) → Cursor → ParseState → Token × Cursor × ParseState
  | 0, cursor, state => (.bare .unclassified, cursor.advance 1, state)
  | tries + 1, cursor, state =>
    let next := mode.nextToken cursor state
    if next.2.1.start < next.2.1.offset then next else readToken tries next.2.1 next.2.2

/-- At the start of a lexeme it is what highlighting reads there. -/
theorem readToken_eq {cursor : Cursor} (inside : cursor.rest ≠ []) (tries : Nat)
    (state : ParseState) :
    mode.readToken tries cursor.markLexeme state =
      let reading := mode.readSome cursor.indentation cursor.rest tries state
      (reading.token, cursor.markLexeme.advance reading.length, reading.state) := by
  induction tries generalizing state with
  | zero => rfl
  | succ tries ih =>
    rw [readToken, readSome]
    simp only [mode.nextToken_markLexeme, Cursor.start_advance_markLexeme,
      cursor.offset_lt_advance_iff inside]
    split
    · rfl
    · next empty =>
      rw [Nat.eq_zero_of_not_pos empty, Cursor.advance_zero, ih]

/-- Read tokens from where a cursor stands until it comes to an offset or to the end of the line:
the last token, or the one in front, and the cursor and the state behind it. -/
def readUpTo (offset : Nat) (token : Token) (cursor : Cursor) (state : ParseState) :
    Token × Cursor × ParseState :=
  if cursor.offset < offset ∧ cursor.rest ≠ [] then
    let next := mode.readToken attempts cursor.markLexeme state
    readUpTo offset next.1 next.2.1 next.2.2
  else (token, cursor, state)
termination_by cursor.rest.length
decreasing_by
  next goesOn =>
  have positive := mode.readSome_length_pos cursor.indentation cursor.rest attempts state
  have some := List.length_pos_iff.mpr goesOn.2
  rw [mode.readToken_eq goesOn.2]
  simp only [Cursor.rest_advance, Cursor.rest_markLexeme, List.length_drop]
  omega

/-- The token that a host finds at an offset of a line of a document. -/
def findToken? (document : Text) (line offset : Nat) : Option PlacedToken :=
  let lines := Text.lines document
  let state := mode.linesEnd (lines.take line) (mode.startState 0)
  lines[line]?.map fun target =>
    let (token, cursor, state) :=
      mode.readUpTo offset (.bare .unclassified) (.ofLine mode.settings.tabSize target) state
    cursor.placed token state

variable {mode}

/-- The loop comes to the last token that starts before the offset. -/
theorem placed_readUpTo (offset : Nat) (token : Token) (cursor : Cursor) (state : ParseState) :
    let found := mode.readUpTo offset token cursor state
    let tokens := mode.tokensFrom cursor.indentation 0 cursor.rest cursor.offset state
    found.2.1.placed found.1 found.2.2 =
      (tokens.takeWhile (·.start < offset)).getLast?.getD (cursor.placed token state) := by
  induction token, cursor, state using readUpTo.induct mode offset with
  | case1 token cursor state goesOn next ih =>
    have inside := goesOn.2
    rw [readUpTo, if_pos goesOn]
    simp only [next, mode.readToken_eq inside] at ih ⊢
    generalize reads : mode.readSome cursor.indentation cursor.rest attempts state = reading at ih ⊢
    rw [mode.tokensFrom_of_readSome inside reads, ih,
      List.takeWhile_cons_of_pos (by simpa using goesOn.1), List.getLast?_cons, Option.getD_some,
      Cursor.placed_advance_markLexeme, Cursor.offset_advance, Cursor.rest_advance]
    rfl
  | case2 token cursor state stops =>
    rw [readUpTo, if_neg stops]
    have nothing : (mode.tokensFrom cursor.indentation 0 cursor.rest cursor.offset state).takeWhile
        (·.start < offset) = [] := by
      by_cases inside : cursor.rest = []
      · rw [inside]
        rfl
      · rw [mode.tokensFrom_of_readSome inside rfl]
        exact List.takeWhile_cons_of_neg (by simpa [inside] using stops)
    intro found tokens
    rw [nothing]
    rfl

/-- So it finds the token that highlighting has there. -/
theorem findToken?_eq (mode : Mode) (document : Text) (line offset : Nat) :
    mode.findToken? document line offset = mode.tokenAt? document line offset := by
  rw [findToken?, tokenAt?]
  refine congrArg (Option.map · (lines document)[line]?) (funext fun target => ?_)
  exact placed_readUpTo offset _ (.ofLine mode.settings.tabSize target) _

end Mode

/-! ## The token that covers an offset -/

/-- Tokens that cover a text past an offset have one that starts in front of the offset and does not
stop there, between those that do and those that start later. -/
theorem Tiling.exists_covering {start : Nat} {text : Text} {tokens : List DocumentToken}
    (tiling : Tiling start text tokens) {offset : Nat} (behind : start < offset)
    (within : offset ≤ start + utf8Length text) :
    ∃ before token after, tokens = before ++ token :: after ∧
      (token.start < offset ∧ offset ≤ token.stop) ∧
      (∀ other ∈ before, other.stop < offset) ∧ ∀ other ∈ after, offset ≤ other.start := by
  induction tiling with
  | nil => simp at within; omega
  | @cons start token rest tokens nonempty starts stops tiling ih =>
    rw [Text.utf8Length_append] at within
    by_cases covers : offset ≤ token.stop
    · refine ⟨[], token, tokens, rfl, ⟨by omega, covers⟩, by simp, fun other isOther => ?_⟩
      exact covers.trans (tiling.offset_le_start other isOther)
    · obtain ⟨before, found, after, split, covered, earlier, later⟩ := ih (by omega) (by omega)
      refine ⟨token :: before, found, after, by rw [split]; rfl, covered, ?_, later⟩
      exact List.forall_mem_cons.mpr ⟨Nat.lt_of_not_le covers, earlier⟩

/-- All tokens start in front of the end of the text. -/
theorem Tiling.start_lt {start : Nat} {text : Text} {tokens : List DocumentToken}
    (tiling : Tiling start text tokens) :
    ∀ token ∈ tokens, token.start < start + utf8Length text := by
  induction tiling with
  | nil => simp
  | @cons start token rest tokens nonempty starts stops tiling ih =>
    have all : Tiling start (token.text ++ rest) (token :: tokens) :=
      .cons nonempty starts stops tiling
    have bounded := all.start_lt_stop token List.mem_cons_self
    rw [Text.utf8Length_append]
    refine List.forall_mem_cons.mpr ⟨by omega, fun other isOther => ?_⟩
    have before := ih other isOther
    omega

/-- What a host is told about an offset of a line, which is read in a state, by comparison with the
tokens of the whole document. -/
structure AgreesAt (run : List TracedToken) (number : Nat) (line : Text) (entry : ParseState)
    (offset : Nat) (placed : PlacedToken) : Prop where
  /-- In front of the line there is an empty token, and the line has not been read. -/
  inFront : offset = 0 ∨ line = [] →
    placed = { start := 0, stop := 0, text := [], token := .bare .unclassified, state := entry }
  /-- Behind its first character it is the only token of the line that starts in front of the offset
  and does not stop there. -/
  covering : 0 < offset → offset ≤ utf8Length line →
    placed.traced number ∈ run ∧
      ∀ traced ∈ run, traced.token.line = number →
        (traced.token.start < offset ∧ offset ≤ traced.token.stop ↔
          traced = placed.traced number)
  /-- Behind its end it is its last token. -/
  past : line ≠ [] → utf8Length line < offset →
    (tracedOn number run).getLast? = some (placed.traced number)

namespace Mode

variable {mode : Mode} {line : Text} {state : ParseState} {offset : Nat}

/-- The last token of a line that starts in front of an offset is the one that covers it. -/
theorem lineTokens_covering (behind : 0 < offset) (within : offset ≤ utf8Length line) :
    ∃ placed ∈ mode.lineTokens line state,
      ((mode.lineTokens line state).takeWhile (·.start < offset)).getLast? = some placed ∧
        ∀ other ∈ mode.lineTokens line state,
          (other.start < offset ∧ offset ≤ other.stop ↔ other = placed) := by
  have tiling := mode.lineTokens_tiling 0 line state
  obtain ⟨_, _, _, split, covers, earlier, later⟩ :=
    tiling.exists_covering behind (by rwa [Nat.zero_add])
  have bounded := tiling.start_lt_stop
  generalize mode.lineTokens line state = tokens at split bounded ⊢
  obtain ⟨before, _, rfl, rfl, more⟩ := List.map_eq_append_iff.mp split
  obtain ⟨placed, after, rfl, rfl, rfl⟩ := List.map_eq_cons_iff.mp more
  rw [List.forall_mem_map] at bounded earlier later
  refine ⟨placed, by simp, ?_, fun other isOther => ?_⟩
  · have ends : after.takeWhile (·.start < offset) = [] := by
      cases after with
      | nil => rfl
      | cons next after =>
        have starts : offset ≤ next.start := later next List.mem_cons_self
        exact List.takeWhile_cons_of_neg (by simpa using starts)
    have here : placed.start < offset := covers.1
    have started : ∀ other ∈ before, decide (other.start < offset) = true := by
      intro other isOther
      have nonempty : other.start < other.stop := bounded other (List.mem_append_left _ isOther)
      have stops : other.stop < offset := earlier other isOther
      exact decide_eq_true (nonempty.trans stops)
    rw [List.takeWhile_append_of_pos started, List.takeWhile_cons_of_pos (by simpa using here),
      ends, List.getLast?_concat]
  · constructor
    · rintro ⟨starts, stops⟩
      rcases List.mem_append.mp isOther with isEarlier | isHere
      · have ended : other.stop < offset := earlier other isEarlier
        omega
      · rcases List.mem_cons.mp isHere with rfl | isLater
        · rfl
        · have behind : offset ≤ other.start := later other isLater
          omega
    · rintro rfl
      exact covers

/-- In front of the first character no token starts. -/
theorem takeWhile_lineTokens_of_inFront (inFront : offset = 0 ∨ line = []) :
    (mode.lineTokens line state).takeWhile (·.start < offset) = [] := by
  rcases inFront with rfl | rfl
  · exact List.takeWhile_eq_nil_iff.mpr (by simp)
  · rfl

/-- Behind the end of the line all tokens have started. -/
theorem takeWhile_lineTokens_of_past (past : utf8Length line < offset) :
    (mode.lineTokens line state).takeWhile (·.start < offset) = mode.lineTokens line state := by
  refine List.takeWhile_eq_self_iff.mpr fun placed isToken => decide_eq_true ?_
  have starts : placed.start < 0 + utf8Length line :=
    (mode.lineTokens_tiling 0 line state).start_lt _ (List.mem_map_of_mem isToken)
  omega

/-- Only an empty line has no last token. -/
theorem exists_getLast?_lineTokens (nonempty : line ≠ []) (mode : Mode) (state : ParseState) :
    ∃ placed, (mode.lineTokens line state).getLast? = some placed := by
  have some : (mode.lineTokens line state) ≠ [] := by
    intro empty
    have tiling := mode.lineTokens_tiling 0 line state
    rw [empty] at tiling
    exact nonempty (tiling.eq_nil_iff.mp rfl)
  exact ⟨_, List.getLast?_eq_some_getLast some⟩

/-- The last token of a line that starts in front of an offset, or else the empty token in front of
the line, is what highlighting has there. -/
theorem agreesAt_lineTokens {run : List TracedToken} {number : Nat}
    (onLine : tracedOn number run = (mode.lineTokens line state).map (PlacedToken.traced number))
    (offset : Nat) :
    AgreesAt run number line state offset
      (((mode.lineTokens line state).takeWhile (·.start < offset)).getLast?.getD
        ⟨0, 0, [], .bare .unclassified, state⟩) where
  inFront inFront := by
    rw [takeWhile_lineTokens_of_inFront inFront]
    rfl
  covering := by
    intro behind within
    obtain ⟨placed, isToken, last, covers⟩ : ∃ placed ∈ mode.lineTokens line state, _ :=
      lineTokens_covering behind within
    have isOnLine : ∀ traced, traced ∈ run ∧ traced.token.line = number ↔
        ∃ other ∈ mode.lineTokens line state, other.traced number = traced := by
      intro traced
      rw [← List.mem_map, ← onLine, tracedOn, List.mem_filter, beq_iff_eq]
    rw [last, Option.getD_some]
    refine ⟨((isOnLine _).mpr ⟨placed, isToken, rfl⟩).1, fun traced isTraced same => ?_⟩
    obtain ⟨other, isOther, rfl⟩ := (isOnLine traced).mp ⟨isTraced, same⟩
    constructor
    · intro isCovering
      exact congrArg (PlacedToken.traced number) ((covers other isOther).mp isCovering)
    · intro isSame
      rw [isSame]
      exact (covers placed isToken).mpr rfl
  past := by
    intro nonempty past
    obtain ⟨placed, last⟩ := exists_getLast?_lineTokens nonempty mode state
    rw [takeWhile_lineTokens_of_past past, onLine, List.getLast?_map, last]
    rfl

/-- On a line of the document that token is the one at the offset. -/
theorem tokenAt?_eq_some {document : Text} {number : Nat}
    (isLine : (lines document)[number]? = some line) (offset : Nat) :
    let entry := mode.linesEnd ((lines document).take number) (mode.startState 0)
    mode.tokenAt? document number offset =
      some (((mode.lineTokens line entry).takeWhile (·.start < offset)).getLast?.getD
        ⟨0, 0, [], .bare .unclassified, entry⟩) := by
  rw [tokenAt?, isLine]
  rfl

/-- A host finds a token at every offset of every line of a document, whether it stops at the offset
or looks the token up among those of the line, and none on other lines. The token is the one that
highlighting has there, with the state behind it. -/
theorem tokenAt?_agrees (mode : Mode) (document : Text) (number offset : Nat) :
    let run := mode.trace 0 (lines document) (mode.startState 0)
    let entry := mode.linesEnd ((lines document).take number) (mode.startState 0)
    run.map TracedToken.token = mode.highlight document ∧
      mode.findToken? document number offset = mode.tokenAt? document number offset ∧
      (mode.tokenAt? document number offset = none ↔ (lines document).length ≤ number) ∧
      ∀ line, (lines document)[number]? = some line →
        ∃ placed, mode.tokenAt? document number offset = some placed ∧
          AgreesAt run number line entry offset placed := by
  intro run entry
  refine ⟨mode.map_token_trace _ _ _, mode.findToken?_eq _ _ _, ?_, fun line isLine => ?_⟩
  · simp [tokenAt?]
  · exact ⟨_, tokenAt?_eq_some isLine offset,
      agreesAt_lineTokens (tracedOn_trace isLine (mode.startState 0)) offset⟩

/-- In front of a parenthesis that closes an argument of the line above no token stands, at it is
the parenthesis, which is read once the argument has ended without characters, within the letter
behind it is the letter, and behind the line is its last token. -/
theorem tokenAt?_agrees_closedArgument :
    let css := ofDialect .css
    let document := "url(a\n)é".toList
    let run := css.trace 0 (lines document) (css.startState 0)
    let entry := css.linesEnd ((lines document).take 1) (css.startState 0)
    (lines document)[1]? = some [')', 'é'] ∧ entry.continuation = some .rawArgument ∧
      css.tokenAt? document 1 0 = some ⟨0, 0, [], .bare .unclassified, entry⟩ ∧
      (∃ placed, css.tokenAt? document 1 1 = some placed ∧ placed.traced 1 ∈ run ∧
        placed.token.kind = .parenClose) ∧
      (∃ placed, css.tokenAt? document 1 2 = some placed ∧ placed.traced 1 ∈ run ∧
        placed.text = ['é']) ∧
      ∃ placed, css.tokenAt? document 1 9 = some placed ∧
        (tracedOn 1 run).getLast? = some (placed.traced 1) := by
  intro css document run entry
  have agrees offset := (css.tokenAt?_agrees document 1 offset).2.2.2 [')', 'é'] rfl
  obtain ⟨front, isFront, atFront⟩ := agrees 0
  obtain ⟨closing, isClosing, atClosing⟩ := agrees 1
  obtain ⟨letter, isLetter, atLetter⟩ := agrees 2
  obtain ⟨last, isLast, atLast⟩ := agrees 9
  have kind : ((ofDialect .css).tokenAt? "url(a\n)é".toList 1 1).map (·.token.kind) =
      some .parenClose := by decide +kernel
  have text : ((ofDialect .css).tokenAt? "url(a\n)é".toList 1 2).map (·.text) = some ['é'] := by
    decide +kernel
  rw [isClosing] at kind
  rw [isLetter] at text
  refine ⟨rfl, rfl, ?_, ⟨closing, isClosing, ?_, Option.some.inj kind⟩,
    ⟨letter, isLetter, ?_, Option.some.inj text⟩, last, isLast, ?_⟩
  · rw [isFront, atFront.inFront (.inl rfl)]
  · exact (atClosing.covering (by decide) (by decide)).1
  · exact (atLetter.covering (by decide) (by decide)).1
  · exact atLast.past (by decide) (by decide)

end Mode

end Stylesheet
