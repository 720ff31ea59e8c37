import Stylesheet.Listing
import Stylesheet.Proofs.ColumnRange
import Stylesheet.Proofs.QuotedText
import Stylesheet.Proofs.TypedCompletions

/-!
# A listing says which tokens it lists

A listing is made of whole lines, a line has four fields, and `Listing.readRow?` reads the token and
the column of its first character back from them: the place is parted by its punctuation, styles and
kinds have different names, and the text stands in quotes. `Listing.Lists` is this reading of a
whole listing, which leaves no choice (`Listing.Lists.unique`). On a line the columns of the tokens
of a mode increase, since every character stands on a column of its own, up to the last token whose
column fits (`Mode.pairwise_column`). Behind it they start again at zero
(`Mode.not_increasing_halfwayTabs`).
-/
namespace Stylesheet

open Text (decimal split join width before utf8Length takeBytes? lines IsField)

/-! ## Lines and columns -/

namespace Text

/-- One separator parts two pieces. -/
theorem split_pair {separator : Char} {first second : Text} (notFirst : separator ∉ first)
    (notSecond : separator ∉ second) :
    split separator (first ++ separator :: second) = [first, second] := by
  rw [split_append_cons notFirst, split_of_not_mem notSecond]

/-- Lines that are ended are found again, and there is nothing behind them. -/
theorem split_flatMap_newline {lines : List Text} (single : ∀ line ∈ lines, '\n' ∉ line) :
    split '\n' (lines.flatMap (· ++ ['\n'])) = lines ++ [[]] := by
  induction lines with
  | nil => rfl
  | cons line lines ih =>
    obtain ⟨here, later⟩ := List.forall_mem_cons.mp single
    rw [List.flatMap_cons, List.append_assoc, List.singleton_append, split_append_cons here,
      ih later, List.cons_append]

/-- What stands in front of a later character extends further. -/
theorem extent_before_lt (tabSize : Nat) {start later : Nat} {text : Text}
    (isStart : (takeBytes? start text).isSome) (isLater : (takeBytes? later text).isSome)
    (less : start < later) :
    extent tabSize (before start text) < extent tabSize (before later text) := by
  obtain ⟨front, cut⟩ := Option.isSome_iff_exists.mp isStart
  obtain ⟨whole, cutLater⟩ := Option.isSome_iff_exists.mp isLater
  obtain ⟨bytes, isFront⟩ := takeBytes?_eq_some_iff.mp cut
  obtain ⟨moreBytes, isWhole⟩ := takeBytes?_eq_some_iff.mp cutLater
  -- Neither offset falls inside a character, so what is in front of the one is a part of the other.
  obtain ⟨more, rfl⟩ := prefix_of_utf8Length_le isFront isWhole (by omega)
  have longer : 0 < more.length := by
    refine List.length_pos_iff.mpr fun nothing => ?_
    rw [nothing, List.append_nil] at moreBytes
    omega
  rw [before, before, cut, cutLater, Option.getD_some, Option.getD_some]
  exact extent_lt_of_prefix tabSize (List.prefix_append front more) (by simpa using longer)

end Text

/-! ## Reading a row -/

/-- Every kind. -/
def Kind.all : List Kind :=
  [word, hash, string, comment, unit, important, compare, selectOp, qualifier, vendor, variableUse,
    variableDefinition, interpolation, operator, atom, atRule, colon, semicolon, braceOpen,
    braceClose, bracketOpen, bracketClose, parenOpen, parenClose, whitespace, unclassified]

/-- What a row of a listing says. -/
structure Row where
  /-- The token that is listed. -/
  token : DocumentToken
  /-- The column of its first character. -/
  column : Nat
  deriving DecidableEq, Repr

namespace Listing

/-- The value of the digits of a number. -/
def number (digits : Text) : Nat := Nat.ofDigitChars 10 digits 0

/-- The style that a field names. -/
def readStyle? (field : Text) : Option Style :=
  if field = ['-'] then some .unstyled else Style.ofLabel? (String.ofList field)

/-- The kind that a field names. -/
def readKind? (field : Text) : Option Kind := Kind.all.find? (·.name.toList == field)

/-- The line, the two offsets and the column in a place. -/
def readPlace? (field : Text) : Option (Nat × Nat × Nat × Nat) := do
  let [line, offsets] := split ':' field | none
  let [start, behind] := split '-' offsets | none
  let [stop, '@' :: column] := split ' ' behind | none
  some (number line, number start, number stop, number column)

/-- What a line says, if it has four fields that say something. -/
def readRow? (line : Text) : Option Row := do
  let [place, style, kind, quoted] := split '\t' line | none
  let (index, start, stop, column) ← readPlace? place
  let token : Token := ⟨← readStyle? style, ← readKind? kind⟩
  let text ← Text.unquote? quoted
  some ⟨⟨index, start, stop, text, token⟩, column⟩

/-- The four fields of a token. -/
def fields (lines : List Text) (tabSize : UInt64) (token : DocumentToken) : List Text :=
  [placeField lines tabSize token, styleField token.token.style, token.token.kind.name.toList,
    Text.quote token.text]

/-- What the fields of a token say. -/
def row (lines : List Text) (tabSize : UInt64) (token : DocumentToken) : Row :=
  ⟨token, (width tabSize (before token.start (lines[token.line]?.getD []))).toNat⟩

/-- The column of the first character of a token, as large as it may be. -/
def reach (lines : List Text) (tabSize : UInt64) (token : DocumentToken) : Nat :=
  Text.extent tabSize.toNat (before token.start (lines[token.line]?.getD []))

/-- A column that fits is the one that is listed. -/
theorem row_column_eq {lines : List Text} {tabSize : UInt64} {token : DocumentToken}
    (fits : reach lines tabSize token < 2 ^ 64) :
    (row lines tabSize token).column = reach lines tabSize token :=
  Text.toNat_width fits

/-- The digits of a number have its value. -/
theorem number_decimal (value : Nat) : number (decimal value) = value :=
  Nat.ofDigitChars_ten_toDigits

/-- A style is read back from its field. -/
theorem readStyle?_styleField (style : Style) : readStyle? (styleField style) = some style := by
  obtain ⟨_ | category, _ | _⟩ := style
  · rfl
  · decide
  · cases category <;> decide
  · cases category <;> decide

/-- A kind is read back from its name. -/
theorem readKind?_name (kind : Kind) : readKind? kind.name.toList = some kind := by
  cases kind <;> decide

/-- Numbers are written in digits. -/
theorem not_mem_decimal {c : Char} (other : c.isDigit = false) (value : Nat) :
    c ∉ decimal value := by
  intro isChar
  have digit := Nat.isDigit_of_mem_toDigits (by decide) (by decide) isChar
  rw [other] at digit
  contradiction

/-- A place is read back. -/
theorem readPlace?_placeField (lines : List Text) (tabSize : UInt64) (token : DocumentToken) :
    readPlace? (placeField lines tabSize token) =
      some (token.line, token.start, token.stop, (row lines tabSize token).column) := by
  -- No separator is a digit, so each of them is found where it was put.
  let column := decimal (row lines tabSize token).column
  let behind := decimal token.stop ++ ' ' :: '@' :: column
  let offsets := decimal token.start ++ '-' :: behind
  have place : placeField lines tabSize token = decimal token.line ++ ':' :: offsets := by
    simp [placeField, offsets, behind, column, row]
  have atColon : split ':' (placeField lines tabSize token) = [decimal token.line, offsets] := by
    rw [place]
    exact Text.split_pair (by simp [not_mem_decimal])
      (by simp [offsets, behind, column, not_mem_decimal])
  have atDash : split '-' offsets = [decimal token.start, behind] :=
    Text.split_pair (by simp [not_mem_decimal]) (by simp [behind, column, not_mem_decimal])
  have atBlank : split ' ' behind = [decimal token.stop, '@' :: column] :=
    Text.split_pair (by simp [not_mem_decimal]) (by simp [column, not_mem_decimal])
  simp only [readPlace?, atColon, atDash, atBlank, number_decimal, column]

/-- The digits of a number are a field. -/
theorem isField_decimal (value : Nat) : IsField (decimal value) :=
  ⟨not_mem_decimal (by decide) value, not_mem_decimal (by decide) value⟩

/-- A place is a field. -/
theorem isField_placeField (lines : List Text) (tabSize : UInt64) (token : DocumentToken) :
    IsField (placeField lines tabSize token) := by
  have marks : IsField [':'] ∧ IsField ['-'] ∧ IsField [' ', '@'] := by decide
  simp only [placeField, Text.isField_append, isField_decimal, marks, and_self]

/-- A style is a field. -/
theorem isField_styleField (style : Style) : IsField (styleField style) := by
  obtain ⟨_ | category, _ | _⟩ := style
  · decide
  · decide
  · cases category <;> decide
  · cases category <;> decide

/-- A kind is a field. -/
theorem isField_name (kind : Kind) : IsField kind.name.toList := by
  cases kind <;> decide

/-- The fields of a token are fields. -/
theorem isField_of_mem_fields {lines : List Text} {tabSize : UInt64} {token : DocumentToken}
    {field : Text} (isOne : field ∈ fields lines tabSize token) : IsField field := by
  simp only [fields, List.mem_cons, List.not_mem_nil, or_false] at isOne
  rcases isOne with rfl | rfl | rfl | rfl
  · exact isField_placeField lines tabSize token
  · exact isField_styleField token.token.style
  · exact isField_name token.token.kind
  · exact Text.isField_quote token.text

/-- The line of a token is made of its fields. -/
theorem tokenLine_eq (lines : List Text) (tabSize : UInt64) (token : DocumentToken) :
    tokenLine lines tabSize token = join '\t' (fields lines tabSize token) ++ ['\n'] := by
  simp [tokenLine, fields, join]

/-- The fields of a token are found in its line. -/
theorem split_join_fields (lines : List Text) (tabSize : UInt64) (token : DocumentToken) :
    split '\t' (join '\t' (fields lines tabSize token)) = fields lines tabSize token := by
  exact Text.split_join (List.cons_ne_nil _ _) fun _ isOne => (isField_of_mem_fields isOne).1

/-- The line of a token is one line. -/
theorem newline_not_mem_join_fields (lines : List Text) (tabSize : UInt64) (token : DocumentToken) :
    '\n' ∉ join '\t' (fields lines tabSize token) := by
  intro isChar
  obtain same | ⟨field, isOne, isChar⟩ := Text.eq_or_mem_of_mem_join isChar
  · contradiction
  · exact (isField_of_mem_fields isOne).2 isChar

/-- A token is read back from its line. -/
theorem readRow?_join_fields (lines : List Text) (tabSize : UInt64) (token : DocumentToken) :
    readRow? (join '\t' (fields lines tabSize token)) = some (row lines tabSize token) := by
  rw [readRow?, split_join_fields, fields]
  simp only [readPlace?_placeField, readStyle?_styleField, readKind?_name, Text.unquote?_quote,
    Option.bind_eq_bind, Option.bind_some]
  rfl

/-- The second token of a line behind a tab, with a quote and a tab in its text. -/
example : readRow? "3:1-5 @4\tstring error\tstring\t\"\\\"a\\tb\"".toList =
    some ⟨⟨3, 1, 5, "\"a\tb".toList, ⟨⟨some .string, true⟩, .string⟩⟩, 4⟩ := by decide

/-! ## Reading a listing -/

/-- The tokens that are listed. -/
def shown (tokens : List DocumentToken) : List DocumentToken :=
  tokens.filter (·.token.kind != .whitespace)

/-- A listing of rows: one ended line for each of them, in order, with four fields that say what the
row says. -/
def Lists (listing : Text) (rows : List Row) : Prop :=
  ∃ lines, split '\n' listing = lines ++ [[]] ∧
    (∀ line ∈ lines, (split '\t' line).length = 4) ∧ lines.map readRow? = rows.map some

/-- A listing lists only one thing. -/
theorem Lists.unique {listing : Text} {first second : List Row} (isFirst : Lists listing first)
    (isSecond : Lists listing second) : first = second := by
  obtain ⟨lines, pieces, -, reads⟩ := isFirst
  obtain ⟨others, same, -, readsOthers⟩ := isSecond
  obtain rfl : lines = others := List.append_cancel_right (pieces.symm.trans same)
  exact (List.map_inj_right fun _ _ => Option.some.inj).mp (reads.symm.trans readsOthers)

/-- Tokens are listed as what their fields say. -/
theorem lists_tokens (document : Text) (tokens : List DocumentToken) (tabSize : UInt64) :
    Lists (Listing.tokens document tokens tabSize)
      ((shown tokens).map (row (lines document) tabSize)) := by
  let texts := (shown tokens).map fun token => join '\t' (fields (lines document) tabSize token)
  have ended : Listing.tokens document tokens tabSize = texts.flatMap (· ++ ['\n']) := by
    simp only [Listing.tokens, texts, List.flatMap_map, ← tokenLine_eq]
    rfl
  refine ⟨texts, ?_, ?_, ?_⟩
  · rw [ended]
    refine Text.split_flatMap_newline (List.forall_mem_map.mpr fun token _ => ?_)
    exact newline_not_mem_join_fields (lines document) tabSize token
  · refine List.forall_mem_map.mpr fun token _ => ?_
    rw [split_join_fields]
    rfl
  · simp only [texts, List.map_map]
    exact List.map_congr_left fun token _ => readRow?_join_fields (lines document) tabSize token

/-- Tab stops are never less than a column apart. -/
theorem tokens_tabSize_zero (document : Text) (tokens : List DocumentToken) :
    Listing.tokens document tokens 0 = Listing.tokens document tokens 1 := rfl

end Listing

namespace Mode

variable (mode : Mode)

/-- A token starts between two characters of its line. -/
theorem isSome_takeBytes?_start {document : Text} {token : DocumentToken}
    (isToken : token ∈ mode.highlight document) :
    (takeBytes? token.start ((lines document)[token.line]?.getD [])).isSome := by
  have within : token.line < (lines document).length := by
    have bounds := mode.line_of_mem_linesTokens isToken
    omega
  have isLine := List.getElem?_eq_getElem within
  have tiling : Tiling 0 _ (tokensOn (0 + token.line) (mode.highlight document)) :=
    mode.tokensOn_linesTokens_tiling isLine
  have onLine : token ∈ tokensOn (0 + token.line) (mode.highlight document) :=
    List.mem_filter.mpr ⟨isToken, by simp⟩
  have text := tiling.slice?_eq_text Text.utf8Length_nil token onLine
  obtain ⟨front, cut, -⟩ := Option.bind_eq_some_iff.mp text
  rw [isLine, Option.getD_some, ← List.nil_append (lines document)[token.line], cut]
  rfl

/-- The columns of tokens increase along their line, as long as they fit. -/
theorem pairwise_column (document : Text) (tabSize : UInt64) :
    ((mode.highlight document).map (Listing.row (lines document) tabSize)).Pairwise
      fun left right => left.token.line = right.token.line →
        Listing.reach (lines document) tabSize right.token < 2 ^ 64 →
          left.column < right.column := by
  have sorted := mode.linesTokens_pairwise 0 (lines document) (mode.startState 0)
  refine List.pairwise_map.mpr (sorted.imp_of_mem ?_)
  intro left right isLeft isRight before same inRange
  have sameLine : left.line = right.line := same
  have fits : Listing.reach (lines document) tabSize right < 2 ^ 64 := inRange
  have starts : left.start < right.start := by omega
  have isStart := mode.isSome_takeBytes?_start isLeft
  rw [sameLine] at isStart
  have further : Listing.reach (lines document) tabSize left <
      Listing.reach (lines document) tabSize right := by
    rw [Listing.reach, sameLine]
    exact Text.extent_before_lt tabSize.toNat isStart (mode.isSome_takeBytes?_start isRight) starts
  rw [Listing.row_column_eq fits, Listing.row_column_eq (further.trans fits)]
  exact further

end Mode

/-- What a host can count on in a listing of the tokens of a document. -/
structure Listing.Unambiguous (mode : Mode) (document : Text) (tabSize : UInt64) : Prop where
  /-- Each token that is not white space has a line of its own, in order, from which it is read. On
  a line of the document the columns increase, as long as they fit. -/
  listed : ∃ rows : List Row,
    Listing.Lists (Listing.tokens document (mode.highlight document) tabSize) rows ∧
      rows.map Row.token = Listing.shown (mode.highlight document) ∧
      rows.Pairwise fun left right => left.token.line = right.token.line →
        Listing.reach (lines document) tabSize right.token < 2 ^ 64 → left.column < right.column
  /-- Without tab stops every character has one column, as with the narrowest ones. -/
  narrowest : Listing.tokens document (mode.highlight document) 0 =
    Listing.tokens document (mode.highlight document) 1
  /-- Only tokens that agree in all but white space are listed alike. -/
  distinct : ∀ first second : List DocumentToken,
    Listing.tokens document first tabSize = Listing.tokens document second tabSize ↔
      Listing.shown first = Listing.shown second

end Stylesheet
