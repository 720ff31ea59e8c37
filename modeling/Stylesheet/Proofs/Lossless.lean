import Mathlib.Data.List.Chain
import Stylesheet.Document.Tokens

/-!
# Nothing of a document is lost

The tokens of a line lie one behind the other from its front to its end. `Tiling` says so by
recursion on the tokens, as `tokensFrom` makes them, and `Tiles` by what a host can see of them.
Behind the tokens of a line come those of the next, so that the whole document can be put together
again from its tokens and from what ended its lines.
-/
namespace Stylesheet

open Text (utf8Length takeBytes? lines split join chopReturn)

namespace Text

/-- The text between two byte offsets; `none` where an offset does not fall between characters. -/
def slice? (start stop : Nat) (text : Text) : Option Text :=
  (takeBytes? start text).bind fun before => takeBytes? (stop - start) (text.drop before.length)

/-- What stands between two parts of a text is the slice between their offsets. -/
theorem slice?_append (before middle after : Text) :
    slice? (utf8Length before) (utf8Length before + utf8Length middle)
      (before ++ (middle ++ after)) = some middle := by
  rw [slice?, takeBytes?_append, Option.bind_some, List.drop_left, Nat.add_sub_cancel_left,
    takeBytes?_append]

/-- The carriage return that `chopReturn` takes from the end of a line. -/
def choppedReturn (line : Text) : Text := if line.getLast? = some '\r' then ['\r'] else []

/-- A line is what is left of it and the carriage return that was taken. -/
theorem chopReturn_append (line : Text) : chopReturn line ++ choppedReturn line = line := by
  unfold chopReturn choppedReturn
  split
  · next return_ => exact List.dropLast_append_getLast? '\r' return_
  · exact List.append_nil line

end Text

/-- Tokens that cover a text from its front to its end, behind an offset. -/
inductive Tiling : (offset : Nat) → Text → List DocumentToken → Prop
  | nil (offset : Nat) : Tiling offset [] []
  | cons {offset : Nat} {token : DocumentToken} {rest : Text} {tokens : List DocumentToken}
    (nonempty : token.text ≠ [])
    (start : token.start = offset)
    (stop : token.stop = offset + utf8Length token.text)
    (tiling : Tiling token.stop rest tokens) :
    Tiling offset (token.text ++ rest) (token :: tokens)

namespace Tiling

variable {offset : Nat} {text : Text} {tokens : List DocumentToken}

/-- The tokens have the characters of the text. -/
theorem flatMap_text (tiling : Tiling offset text tokens) :
    tokens.flatMap DocumentToken.text = text := by
  induction tiling with
  | nil => rfl
  | cons nonempty start stop tiling ih => rw [List.flatMap_cons, ih]

/-- Every token has characters. -/
theorem start_lt_stop (tiling : Tiling offset text tokens) :
    ∀ token ∈ tokens, token.start < token.stop := by
  induction tiling with
  | nil => simp
  | @cons offset token rest tokens nonempty start stop tiling ih =>
    have bytes : 0 < utf8Length token.text :=
      Nat.pos_of_ne_zero fun empty => nonempty (Text.utf8Length_eq_zero_iff.mp empty)
    refine List.forall_mem_cons.mpr ⟨?_, ih⟩
    omega

/-- No token starts before the offset. -/
theorem offset_le_start (tiling : Tiling offset text tokens) :
    ∀ token ∈ tokens, offset ≤ token.start := by
  induction tiling with
  | nil => simp
  | cons nonempty start stop tiling ih =>
    refine List.forall_mem_cons.mpr ⟨by omega, fun other isOther => ?_⟩
    have behind := ih other isOther
    omega

/-- The tokens are sorted. -/
theorem pairwise_start (tiling : Tiling offset text tokens) :
    tokens.Pairwise fun left right => left.start < right.start := by
  induction tiling with
  | nil => exact .nil
  | @cons offset token rest tokens nonempty start stop tiling ih =>
    have all : Tiling offset (token.text ++ rest) (token :: tokens) :=
      .cons nonempty start stop tiling
    have bounded := all.start_lt_stop token List.mem_cons_self
    refine .cons (fun other isOther => ?_) ih
    have behind := tiling.offset_le_start other isOther
    omega

/-- The first token starts at the offset. -/
theorem head_start (tiling : Tiling offset text tokens) :
    ∀ token ∈ tokens.head?, token.start = offset := by
  cases tiling with
  | nil => simp
  | cons nonempty start => simpa using start

/-- The next token starts where one stops. -/
theorem isChain (tiling : Tiling offset text tokens) :
    tokens.IsChain fun left right => left.stop = right.start := by
  induction tiling with
  | nil => exact List.isChain_nil
  | cons nonempty start stop tiling ih =>
    refine List.isChain_cons.mpr ⟨fun next isNext => ?_, ih⟩
    exact (tiling.head_start next isNext).symm

/-- The last token stops at the end of the text. -/
theorem getLast_stop (tiling : Tiling offset text tokens) :
    ∀ token ∈ tokens.getLast?, token.stop = offset + utf8Length text := by
  induction tiling with
  | nil => simp
  | @cons offset token rest tokens nonempty start stop tiling ih =>
    intro last isLast
    rw [Text.utf8Length_append]
    cases tiling with
    | nil =>
      obtain rfl : token = last := by simpa using isLast
      simpa using stop
    | @cons _ next rest tokens _ _ _ tiling =>
      have stopped := ih last (by simpa using isLast)
      omega

/-- Only an empty text has no tokens. -/
theorem eq_nil_iff (tiling : Tiling offset text tokens) : tokens = [] ↔ text = [] := by
  cases tiling with
  | nil => simp
  | cons nonempty => simp [nonempty]

/-- Every token has the text between its offsets, in a line of which the tokens cover the end. -/
theorem slice?_eq_text (tiling : Tiling offset text tokens) {before : Text}
    (sized : utf8Length before = offset) :
    ∀ token ∈ tokens, Text.slice? token.start token.stop (before ++ text) = some token.text := by
  induction tiling generalizing before with
  | nil => simp
  | @cons offset token rest tokens nonempty start stop tiling ih =>
    have stopped : utf8Length (before ++ token.text) = token.stop := by
      rw [Text.utf8Length_append, sized, stop]
    refine List.forall_mem_cons.mpr ⟨?_, ?_⟩
    · rw [stop, start, ← sized]
      exact Text.slice?_append before token.text rest
    · rw [← List.append_assoc]
      exact ih stopped

end Tiling

/-- What a host can see of the tokens of a line. -/
structure Tiles (line : Text) (tokens : List DocumentToken) : Prop where
  nonempty : ∀ token ∈ tokens, token.start < token.stop
  contiguous : tokens.IsChain fun left right => left.stop = right.start
  first : ∀ token ∈ tokens.head?, token.start = 0
  last : ∀ token ∈ tokens.getLast?, token.stop = utf8Length line
  absent : tokens = [] ↔ line = []
  text : ∀ token ∈ tokens, Text.slice? token.start token.stop line = some token.text

/-- Tokens that cover a line from its front are what a host sees. -/
theorem Tiling.tiles {line : Text} {tokens : List DocumentToken} (tiling : Tiling 0 line tokens) :
    Tiles line tokens where
  nonempty := tiling.start_lt_stop
  contiguous := tiling.isChain
  first := tiling.head_start
  last token isLast := by
    rw [tiling.getLast_stop token isLast, Nat.zero_add]
  absent := tiling.eq_nil_iff
  text := tiling.slice?_eq_text Text.utf8Length_nil

/-- The tokens of one line. -/
def tokensOn (number : Nat) (tokens : List DocumentToken) : List DocumentToken :=
  tokens.filter (·.line == number)

/-- Tokens from which a document can be put together. -/
structure Lossless (document : Text) (tokens : List DocumentToken) : Prop where
  /-- The tokens are sorted by their lines, and on a line by where they start. -/
  sorted : tokens.Pairwise fun left right =>
    left.line < right.line ∨ (left.line = right.line ∧ left.start < right.start)
  /-- Every token stands on a line of the document. -/
  within : ∀ token ∈ tokens, token.line < (lines document).length
  /-- Every line is covered. -/
  tiles : ∀ number line, (lines document)[number]? = some line → Tiles line (tokensOn number tokens)
  /-- The texts of the tokens and what ended the lines are the document. -/
  restored :
    join '\n' ((split '\n' document).mapIdx fun number line =>
      (tokensOn number tokens).flatMap DocumentToken.text ++ Text.choppedReturn line) = document

namespace Mode

variable (mode : Mode)

/-- A token is made of one character at least, whatever is tried. -/
theorem readSome_length_pos (indentation : UInt64) (rest : Text) (left : Nat) (state : ParseState) :
    0 < (mode.readSome indentation rest left state).length := by
  fun_induction readSome mode indentation rest left state with
  | case1 => exact Nat.one_pos
  | case2 left state reading some => exact some
  | case3 left state reading none ih => exact ih

/-- Characters that belong to a token are skipped. -/
theorem tokensFrom_drop (indentation : UInt64) (skipped : Nat) (rest : Text) (offset : Nat)
    (state : ParseState) :
    mode.tokensFrom indentation skipped rest offset state =
      mode.tokensFrom indentation 0 (rest.drop skipped) offset state := by
  induction rest generalizing skipped with
  | nil => simp [tokensFrom]
  | cons c rest ih =>
    cases skipped with
    | zero => rfl
    | succ skipped => rw [tokensFrom, ih, List.drop_succ_cons]

/-- The tokens of a text are its first one and those of what is behind it. -/
theorem tokensFrom_of_readSome {indentation : UInt64} {rest : Text} {state : ParseState}
    (nonempty : rest ≠ []) {reading : Reading}
    (reads : mode.readSome indentation rest attempts state = reading) {offset : Nat} :
    let text := rest.take reading.length
    let stop := offset + utf8Length text
    mode.tokensFrom indentation 0 rest offset state =
      { start := offset, stop, text, token := reading.token, state := reading.state } ::
        mode.tokensFrom indentation 0 (rest.drop reading.length) stop reading.state := by
  obtain ⟨c, rest, rfl⟩ := List.exists_cons_of_ne_nil nonempty
  have positive : 0 < reading.length := by
    rw [← reads]
    exact mode.readSome_length_pos indentation (c :: rest) attempts state
  have dropped : rest.drop (reading.length - 1) = (c :: rest).drop reading.length := by
    rw [← List.drop_succ_cons, Nat.sub_add_cancel positive]
  rw [tokensFrom, reads, tokensFrom_drop, dropped]

/-- Tokens cover the text from which they are read, without the characters that are skipped. -/
theorem tokensFrom_tiling (indentation : UInt64) (number skipped : Nat) (rest : Text) (offset : Nat)
    (state : ParseState) :
    Tiling offset (rest.drop skipped)
      ((mode.tokensFrom indentation skipped rest offset state).map
        (PlacedToken.onLine number)) := by
  induction rest generalizing skipped offset state with
  | nil =>
    rw [List.drop_nil, tokensFrom]
    exact .nil offset
  | cons c rest ih =>
    cases skipped with
    | succ skipped =>
      rw [List.drop_succ_cons, tokensFrom]
      exact ih skipped offset state
    | zero =>
      have some := mode.readSome_length_pos indentation (c :: rest) attempts state
      rw [tokensFrom, List.map_cons]
      generalize mode.readSome indentation (c :: rest) attempts state = reading at some ⊢
      obtain ⟨more, length⟩ : ∃ more, reading.length = more + 1 := ⟨reading.length - 1, by omega⟩
      have cut : (c :: rest).take reading.length ++ rest.drop more = c :: rest := by
        rw [length, ← List.drop_succ_cons, List.take_append_drop]
      have nonempty : (c :: rest).take reading.length ≠ [] := by
        rw [length, List.take_succ_cons]
        exact List.cons_ne_nil c _
      have less : reading.length - 1 = more := by omega
      rw [less]
      let text := (c :: rest).take reading.length
      let stop := offset + utf8Length text
      let token : PlacedToken :=
        { start := offset, stop, text, token := reading.token, state := reading.state }
      have covered := @Tiling.cons offset (token.onLine number) (rest.drop more) _ nonempty rfl rfl
        (ih more stop reading.state)
      have same : (token.onLine number).text ++ rest.drop more = c :: rest := cut
      rw [same] at covered
      exact covered

/-- Together they have its characters. -/
theorem flatMap_text_tokensFrom (indentation : UInt64) (rest : Text) (offset : Nat)
    (state : ParseState) :
    (mode.tokensFrom indentation 0 rest offset state).flatMap PlacedToken.text = rest := by
  have tiling := mode.tokensFrom_tiling indentation 0 0 rest offset state
  have covered := tiling.flatMap_text
  rw [List.flatMap_map] at covered
  exact covered

/-- The tokens of a line cover it. -/
theorem lineTokens_tiling (number : Nat) (line : Text) (state : ParseState) :
    Tiling 0 line ((mode.lineTokens line state).map (PlacedToken.onLine number)) :=
  mode.tokensFrom_tiling (Text.indentation mode.settings.tabSize line) number 0 line 0 state

/-- The tokens of a line are numbered like it. -/
theorem line_of_mem_lineTokens {number : Nat} {line : Text} {state : ParseState}
    {token : DocumentToken}
    (isToken : token ∈ (mode.lineTokens line state).map (PlacedToken.onLine number)) :
    token.line = number := by
  obtain ⟨placed, -, rfl⟩ := List.mem_map.mp isToken
  rfl

/-- Lines are numbered from the first one on. -/
theorem line_of_mem_linesTokens {number : Nat} {lines : List Text} {state : ParseState}
    {token : DocumentToken} (isToken : token ∈ mode.linesTokens number lines state) :
    number ≤ token.line ∧ token.line < number + lines.length := by
  induction lines generalizing number state with
  | nil => simp [linesTokens] at isToken
  | cons line lines ih =>
    rw [List.length_cons]
    rcases List.mem_append.mp isToken with here | later
    · have same := mode.line_of_mem_lineTokens here
      omega
    · have bounds := ih later
      omega

/-- The tokens of lines are sorted. -/
theorem linesTokens_pairwise (number : Nat) (lines : List Text) (state : ParseState) :
    (mode.linesTokens number lines state).Pairwise fun left right =>
      left.line < right.line ∨ (left.line = right.line ∧ left.start < right.start) := by
  induction lines generalizing number state with
  | nil => exact .nil
  | cons line lines ih =>
    refine List.pairwise_append.mpr ⟨?_, ih (number + 1) _, ?_⟩
    · refine (mode.lineTokens_tiling number line state).pairwise_start.imp_of_mem ?_
      intro left right isLeft isRight before
      have leftLine := mode.line_of_mem_lineTokens isLeft
      have rightLine := mode.line_of_mem_lineTokens isRight
      omega
    · intro left isLeft right isRight
      have leftLine := mode.line_of_mem_lineTokens isLeft
      have rightLine := mode.line_of_mem_linesTokens isRight
      omega

/-- The tokens of the first line are those with its number. -/
theorem tokensOn_linesTokens_cons_self (number : Nat) (line : Text) (lines : List Text)
    (state : ParseState) :
    tokensOn number (mode.linesTokens number (line :: lines) state) =
      (mode.lineTokens line state).map (PlacedToken.onLine number) := by
  rw [linesTokens, tokensOn, List.filter_append]
  have kept : ((mode.lineTokens line state).map (PlacedToken.onLine number)).filter
      (·.line == number) = (mode.lineTokens line state).map (PlacedToken.onLine number) := by
    refine List.filter_eq_self.mpr fun token isToken => ?_
    exact beq_iff_eq.mpr (mode.line_of_mem_lineTokens isToken)
  have dropped : (mode.linesTokens (number + 1) lines
      (stateBehind (mode.lineTokens line state) state)).filter (·.line == number) = [] := by
    refine List.filter_eq_nil_iff.mpr fun token isToken same => ?_
    have later := mode.line_of_mem_linesTokens isToken
    have here := beq_iff_eq.mp same
    omega
  rw [kept, dropped, List.append_nil]

/-- The tokens of another line are those with its number among the tokens of the other lines. -/
theorem tokensOn_linesTokens_cons_of_lt {number other : Nat} (later : number < other)
    (line : Text) (lines : List Text) (state : ParseState) :
    tokensOn other (mode.linesTokens number (line :: lines) state) =
      tokensOn other (mode.linesTokens (number + 1) lines
        (stateBehind (mode.lineTokens line state) state)) := by
  rw [linesTokens, tokensOn, List.filter_append]
  have dropped : ((mode.lineTokens line state).map (PlacedToken.onLine number)).filter
      (·.line == other) = [] := by
    refine List.filter_eq_nil_iff.mpr fun token isToken same => ?_
    have here := mode.line_of_mem_lineTokens isToken
    have there := beq_iff_eq.mp same
    omega
  rw [dropped, List.nil_append, tokensOn]

/-- Every line is covered by the tokens with its number. -/
theorem tokensOn_linesTokens_tiling {number index : Nat} {lines : List Text} {line : Text}
    {state : ParseState} (isLine : lines[index]? = some line) :
    Tiling 0 line (tokensOn (number + index) (mode.linesTokens number lines state)) := by
  induction lines generalizing number index state with
  | nil => simp at isLine
  | cons first lines ih =>
    cases index with
    | zero =>
      obtain rfl : first = line := by simpa using isLine
      rw [Nat.add_zero, tokensOn_linesTokens_cons_self]
      exact mode.lineTokens_tiling number first state
    | succ index =>
      have sum : number + (index + 1) = number + 1 + index := by omega
      rw [mode.tokensOn_linesTokens_cons_of_lt (by omega), sum]
      exact ih isLine

/-- Nothing of a document is lost. -/
theorem lossless_highlight (document : Text) : Lossless document (mode.highlight document) where
  sorted := mode.linesTokens_pairwise 0 (lines document) (mode.startState 0)
  within token isToken := by
    have bounds := mode.line_of_mem_linesTokens isToken
    omega
  tiles number line isLine := by
    have tiling : Tiling 0 line (tokensOn (0 + number) (mode.highlight document)) :=
      mode.tokensOn_linesTokens_tiling isLine
    rw [Nat.zero_add] at tiling
    exact tiling.tiles
  restored := by
    have whole : ((split '\n' document).mapIdx fun number line =>
        (tokensOn number (mode.highlight document)).flatMap DocumentToken.text ++
          Text.choppedReturn line) = split '\n' document := by
      refine List.ext_getElem List.length_mapIdx fun number _ inside => ?_
      have isLine : (lines document)[number]? =
          some (chopReturn (split '\n' document)[number]) := by
        rw [lines, List.getElem?_map, List.getElem?_eq_getElem inside, Option.map_some]
      have tiling : Tiling 0 _ (tokensOn (0 + number) (mode.highlight document)) :=
        mode.tokensOn_linesTokens_tiling isLine
      rw [Nat.zero_add] at tiling
      rw [List.getElem_mapIdx, tiling.flatMap_text, Text.chopReturn_append]
    rw [whole, Text.join_split]

end Mode

end Stylesheet
