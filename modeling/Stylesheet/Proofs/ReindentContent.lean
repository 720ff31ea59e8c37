import Stylesheet.Proofs.Continuations
import Stylesheet.Proofs.ReindentTwice

/-!
# What a document says when it is reindented

The contents of a document are its tokens without white space. To reindent a document keeps them
(`Mode.contents_highlight_reindent`): both documents are read line by line, and behind every line
the states differ in columns only. Lines say the same however they are indented, and a blank line,
which is left empty, says nothing and changes nothing. There is one exception. A string goes on
behind a backslash at the end of a line, past empty lines too, but a line of white space ends it
(`Mode.continuation_lineEnd_of_blank`). So a string is longer where such a line is emptied.
-/
namespace Stylesheet

open Text (isBlank trimStart lines)

/-! ## Contents -/

/-- What a token says. -/
structure Content where
  /-- The number of its line. -/
  line : Nat
  /-- Its text. -/
  text : Text
  /-- What it is. -/
  token : Token
  deriving DecidableEq, Repr

/-- Whether there is nothing but white space. -/
def Content.isBlank (content : Content) : Bool := content.text.all Text.isBlank

/-- What a token says where it stands. The first token of a line says nothing by the white space in
front of it. -/
def DocumentToken.content (token : DocumentToken) : Content :=
  { line := token.line
    text := if token.start = 0 then trimStart token.text else token.text
    token := token.token }

/-- What tokens say, without those of white space only. -/
def contents (tokens : List DocumentToken) : List Content :=
  (tokens.map DocumentToken.content).filter (!·.isBlank)

/-- Tokens say one after the other what they say. -/
theorem contents_append (first second : List DocumentToken) :
    contents (first ++ second) = contents first ++ contents second := by
  rw [contents, List.map_append, List.filter_append, ← contents, ← contents]

/-! ## The contents of a line -/

/-- A saying without the white space in front of it. -/
def Saying.trimmed (saying : Saying) : Saying := { saying with text := trimStart saying.text }

/-- A saying on a line. -/
def Saying.content (number : Nat) (saying : Saying) : Content :=
  ⟨number, saying.text, saying.token⟩

/-- What the sayings of a whole line amount to. -/
def lineContents (number : Nat) (sayings : List Saying) : List Content :=
  ((sayings.modifyHead Saying.trimmed).map (Saying.content number)).filter (!·.isBlank)

/-- Only the first token of a line is trimmed. -/
theorem Tiling.contents_eq {number : Nat} {line : Text} {tokens : List PlacedToken}
    (tiling : Tiling 0 line (tokens.map (PlacedToken.onLine number))) :
    contents (tokens.map (PlacedToken.onLine number)) =
      lineContents number (tokens.map PlacedToken.saying) := by
  cases tokens with
  | nil => rfl
  | cons first tokens =>
    have atFront : first.start = 0 := by
      simpa [PlacedToken.onLine] using tiling.head_start
    have behind : ∀ placed ∈ tokens, placed.start ≠ 0 := by
      have sorted := tiling.pairwise_start
      rw [List.map_cons, List.pairwise_cons, List.forall_mem_map] at sorted
      intro placed isToken atFront
      have before := sorted.1 placed isToken
      simp only [PlacedToken.onLine, atFront] at before
      omega
    have firstContent : (first.onLine number).content = first.saying.trimmed.content number := by
      simp [PlacedToken.onLine, DocumentToken.content, atFront, Saying.content, Saying.trimmed,
        PlacedToken.saying]
    have otherContents : tokens.map (DocumentToken.content ∘ PlacedToken.onLine number) =
        tokens.map (Saying.content number ∘ PlacedToken.saying) := by
      refine List.map_congr_left fun placed isToken => ?_
      simp [PlacedToken.onLine, DocumentToken.content, behind placed isToken, Saying.content,
        PlacedToken.saying]
    simp only [contents, lineContents, List.map_cons, List.modifyHead_cons, List.map_map,
      firstContent, otherContents]

namespace Indented

variable {blank : Text} {bare indented : List Saying}

/-- A line says the same behind white space, if it starts with something else. -/
theorem lineContents_eq (isIndented : Indented blank bare indented)
    (white : ∀ space ∈ blank, isBlank space)
    (black : ∀ first ∈ bare.head?, trimStart first.text = first.text) (number : Nat) :
    lineContents number indented = lineContents number bare := by
  cases isIndented with
  | apart token state sayings =>
    have nothing : trimStart blank = [] := by
      simpa [trimStart] using Text.trimStart_blank_append white []
    have same : bare.modifyHead Saying.trimmed = bare := by
      cases bare with
      | nil => rfl
      | cons first rest =>
        have kept : first.trimmed = first := by
          rw [Saying.trimmed, black first (by simp)]
        rw [List.modifyHead_cons, kept]
    simp [lineContents, Saying.trimmed, Saying.content, nothing, Content.isBlank, same]
  | joined text token state sayings =>
    simp [lineContents, Saying.trimmed, Text.trimStart_blank_append white]

/-- A line leaves the same behind with white space in front of it, if it says something. -/
theorem stateBehindSayings_eq (isIndented : Indented blank bare indented) (nonempty : bare ≠ [])
    (state : ParseState) : stateBehindSayings indented state = stateBehindSayings bare state := by
  cases isIndented with
  | apart token behind sayings =>
    obtain ⟨first, rest, rfl⟩ := List.exists_cons_of_ne_nil nonempty
    rw [stateBehindSayings_cons, stateBehindSayings_cons, stateBehindSayings_cons]
  | joined text token behind sayings =>
    rw [stateBehindSayings_cons, stateBehindSayings_cons]

end Indented

/-! ## Between lines -/

/-- What holds of the state at the end of a line: nothing is awaited while text is open, and no
function is left open without its parenthesis. -/
structure ParseState.BetweenLines (state : ParseState) : Prop where
  /-- Nothing is awaited while text is open. -/
  quiet : state.Quiet
  /-- The parenthesis of a function is on its line. -/
  notArgument : state.continuation ≠ some .argument

/-- Whether a string goes on. -/
def ParseState.inString (state : ParseState) : Bool :=
  match state.continuation with
  | some (.string _) => true
  | _ => false

/-- Where no string goes on none is left open. -/
theorem ParseState.continuation_ne_string {state : ParseState} (outside : state.inString = false)
    (quote : Quote) : state.continuation ≠ some (.string quote) := by
  intro opens
  simp [ParseState.inString, opens] at outside

namespace Mode

variable (mode : Mode) {state : ParseState}

/-- A document starts like a line. -/
theorem startState_betweenLines (indent : UInt64) : (mode.startState indent).BetweenLines where
  quiet := by simp [ParseState.Quiet, startState, ParseState.start]
  notArgument := by simp [startState, ParseState.start]

/-- The state behind a line is one between lines. -/
theorem betweenLines_lineEnd (between : state.BetweenLines) (line : Text) :
    (mode.lineEnd line state).BetweenLines := by
  obtain ⟨behind, ended, there⟩ := mode.onLine_lineEnd line state
  exact ⟨there.quiet between.quiet, there.continuation_ne_argument between.notArgument ended⟩

/-! ## A line indented differently -/

variable {blank otherBlank : Text} {c : Char} {left right : ParseState}

/-- A line says the same with white space in front of it, and leaves the same behind but for
columns. -/
theorem tokensFrom_blank_append (white : ∀ space ∈ blank, isBlank space)
    (black : isBlank c = false) (notArgument : state.continuation ≠ some .argument)
    (indentation : UInt64) (number : Nat) (rest : Text) :
    let indented := (mode.tokensFrom indentation 0 (blank ++ c :: rest) 0 state).map
      PlacedToken.saying
    let bare := (mode.tokensFrom indentation 0 (c :: rest) 0 state).map PlacedToken.saying
    lineContents number indented = lineContents number bare ∧
      stateBehindSayings indented state.columnless = stateBehindSayings bare state.columnless := by
  intro indented bare
  by_cases nothing : blank = []
  · subst nothing
    exact ⟨rfl, rfl⟩
  · have isIndented : Indented blank bare indented :=
      indented_tokensFrom white nothing black notArgument indentation rest
    have first : bare = _ :: _ := map_saying_tokensFrom_of_readSome (List.cons_ne_nil c rest) rfl
    have starts : ∀ saying ∈ bare.head?, trimStart saying.text = saying.text := by
      obtain ⟨more, length⟩ := Nat.exists_eq_add_of_lt
        (mode.readSome_length_pos indentation (c :: rest) attempts state)
      rw [first, length]
      simpa using Text.trimStart_of_black black _
    exact ⟨isIndented.lineContents_eq white starts number,
      isIndented.stateBehindSayings_eq (by rw [first]; exact List.cons_ne_nil _ _) _⟩

/-- A line says the same however it is indented, and leaves the same behind but for columns. -/
theorem lineTokens_of_blank_append (alike : left.Alike right)
    (white : ∀ space ∈ blank, isBlank space) (otherWhite : ∀ space ∈ otherBlank, isBlank space)
    (black : isBlank c = false) (notArgument : left.continuation ≠ some .argument)
    (number : Nat) (rest : Text) :
    contents ((mode.lineTokens (blank ++ c :: rest) left).map (PlacedToken.onLine number)) =
        contents ((mode.lineTokens (otherBlank ++ c :: rest) right).map
          (PlacedToken.onLine number)) ∧
      (mode.lineEnd (blank ++ c :: rest) left).Alike
        (mode.lineEnd (otherBlank ++ c :: rest) right) := by
  have otherArgument : right.continuation ≠ some .argument := by
    rw [← alike.continuation_eq]
    exact notArgument
  let indentation := Text.indentation mode.settings.tabSize (blank ++ c :: rest)
  let otherIndentation := Text.indentation mode.settings.tabSize (otherBlank ++ c :: rest)
  have here := mode.tokensFrom_blank_append white black notArgument indentation number rest
  have there := mode.tokensFrom_blank_append otherWhite black otherArgument otherIndentation number
    rest
  have bare := map_saying_tokensFrom (rfl : mode.dialect = mode.dialect) alike indentation
    otherIndentation 0 (c :: rest) 0 0
  constructor
  · rw [(mode.lineTokens_tiling number _ left).contents_eq,
      (mode.lineTokens_tiling number _ right).contents_eq]
    exact here.1.trans ((congrArg (lineContents number) bare).trans there.1.symm)
  · have same : left.columnless = right.columnless := alike
    rw [ParseState.Alike, lineEnd, lineEnd, columnless_stateBehind, columnless_stateBehind]
    refine here.2.trans (Eq.trans ?_ there.2.symm)
    rw [bare, same]

/-- A line of white space says nothing. -/
theorem contents_of_blank (white : ∀ space ∈ blank, isBlank space) (number : Nat)
    (state : ParseState) :
    contents ((mode.lineTokens blank state).map (PlacedToken.onLine number)) = [] := by
  have covered := (mode.lineTokens_tiling number blank state).flatMap_text
  refine List.filter_eq_nil_iff.mpr fun content isContent => ?_
  obtain ⟨token, isToken, rfl⟩ := List.mem_map.mp isContent
  have inBlank : ∀ space ∈ token.text, isBlank space := fun space inside =>
    white space (covered ▸ List.mem_flatMap.mpr ⟨token, isToken, inside⟩)
  have trimmed : ∀ space ∈ token.content.text, isBlank space := by
    simp only [DocumentToken.content]
    split
    · exact fun space inside => inBlank space ((List.dropWhile_sublist isBlank).mem inside)
    · exact inBlank
  have allBlank : token.content.isBlank = true := List.all_eq_true.mpr trimmed
  simp [allBlank]

/-- Behind a single token that takes a whole line there is what the token leaves behind. -/
theorem lineEnd_of_length_read {line : Text} (nonempty : line ≠ []) {reading : Reading}
    (reads : mode.read (Text.indentation mode.settings.tabSize line) [] line state = reading)
    (whole : reading.length = line.length) : mode.lineEnd line state = reading.state := by
  have taken : 0 < (mode.read (Text.indentation mode.settings.tabSize line) [] line
      state).length := by
    rw [reads, whole]
    exact List.length_pos_iff.mpr nonempty
  rw [lineEnd, lineTokens, mode.tokensFrom_of_readSome nonempty ((readSome_attempts taken).trans
    reads), whole, List.drop_length]
  rfl

/-- A line of white space changes nothing, unless a string goes on there. -/
theorem lineEnd_of_blank (white : ∀ space ∈ blank, isBlank space) (between : state.BetweenLines)
    (outside : blank ≠ [] → state.inString = false) : mode.lineEnd blank state = state := by
  by_cases nothing : blank = []
  · rw [nothing]
    rfl
  · obtain ⟨whole, unchanged⟩ := mode.read_blank
      (Text.indentation mode.settings.tabSize blank) white nothing between.quiet
      between.notArgument (ParseState.continuation_ne_string (outside nothing))
    rw [mode.lineEnd_of_length_read nothing rfl whole, unchanged]

/-- A string that goes on behind the end of a line ends at the next line of white space. -/
theorem continuation_lineEnd_of_blank {quote : Quote}
    (opens : state.continuation = some (.string quote)) (white : ∀ space ∈ blank, isBlank space)
    (nonempty : blank ≠ []) : (mode.lineEnd blank state).continuation = none := by
  let indentation := Text.indentation mode.settings.tabSize blank
  have appended := mode.read_blank_append indentation opens (by simp) white []
  have nothing : mode.read indentation [] [] state = _ :=
    mode.read_of_opened opens (by simp) indentation [] []
  rw [List.append_nil, nothing] at appended
  rw [mode.lineEnd_of_length_read nonempty appended rfl]
  rfl

/-- A line says the same as it is reindented, behind a state that differs in columns only, and
leaves the same behind but for columns. -/
theorem lineTokens_reindentLine {line : Text} (alike : left.Alike right)
    (between : left.BetweenLines)
    (outside : line ≠ [] → line.all isBlank → left.inString = false)
    (number : Nat) :
    contents ((mode.lineTokens line left).map (PlacedToken.onLine number)) =
        contents ((mode.lineTokens (mode.reindentLine line right) right).map
          (PlacedToken.onLine number)) ∧
      (mode.lineEnd line left).Alike (mode.lineEnd (mode.reindentLine line right) right) := by
  have cut : line.takeWhile isBlank ++ trimStart line = line := List.takeWhile_append_dropWhile
  have first := List.head?_dropWhile_not isBlank line
  cases content : trimStart line with
  | nil =>
    -- A blank line becomes empty.
    have white : ∀ space ∈ line, isBlank space := List.dropWhile_eq_nil_iff.mp content
    have emptied : mode.reindentLine line right = [] := by
      rw [reindentLine, content]
      rfl
    rw [emptied, mode.contents_of_blank white, mode.lineEnd_of_blank white between
      (fun nonempty => outside nonempty (List.all_eq_true.mpr white))]
    exact ⟨rfl, alike⟩
  | cons c rest =>
    -- A line of other characters is given spaces in place of its white space.
    have black : isBlank c = false := by
      rw [← trimStart, content] at first
      exact first
    have white : ∀ space ∈ line.takeWhile isBlank, isBlank space :=
      fun space => List.mem_takeWhile_imp
    have spaces : ∀ space ∈ List.replicate (mode.indent right (c :: rest)).toNat ' ',
        isBlank space := fun _ => Text.isBlank_of_mem_replicate
    have indented : mode.reindentLine line right =
        List.replicate (mode.indent right (c :: rest)).toNat ' ' ++ c :: rest := by
      rw [reindentLine, content]
      rfl
    rw [content] at cut
    rw [indented, ← cut]
    exact mode.lineTokens_of_blank_append alike white spaces black between.notArgument number rest

/-! ## A document reindented -/

/-- No line of white space stands where a string goes on; an empty line may. -/
def KeepsStrings (lines : List Text) (state : ParseState) : Prop :=
  ∀ number, (inside : number < lines.length) → lines[number] ≠ [] → lines[number].all isBlank →
    (mode.linesEnd (lines.take number) state).inString = false

instance (lines : List Text) (state : ParseState) : Decidable (mode.KeepsStrings lines state) :=
  inferInstanceAs (Decidable (∀ number, (inside : number < lines.length) → lines[number] ≠ [] →
    lines[number].all isBlank → (mode.linesEnd (lines.take number) state).inString = false))

/-- Lines keep strings if the first does, and the others do behind it. -/
theorem KeepsStrings.of_cons {line : Text} {lines : List Text}
    (kept : mode.KeepsStrings (line :: lines) state) :
    (line ≠ [] → line.all isBlank → state.inString = false) ∧
      mode.KeepsStrings lines (mode.lineEnd line state) :=
  ⟨kept 0 (Nat.succ_pos lines.length),
    fun number inside => kept (number + 1) (Nat.succ_lt_succ inside)⟩

/-- Lines say the same as they are reindented, behind a state that differs in columns only. -/
theorem contents_reindentLines {lines : List Text} (alike : left.Alike right)
    (between : left.BetweenLines) (kept : mode.KeepsStrings lines left) (number : Nat) :
    contents (mode.linesTokens number (mode.reindentLines lines right) right) =
      contents (mode.linesTokens number lines left) := by
  -- The induction is on the lines; behind each of them the states of both runs are alike.
  induction lines generalizing number left right with
  | nil => rfl
  | cons line lines ih =>
    obtain ⟨outside, later⟩ := KeepsStrings.of_cons mode kept
    obtain ⟨said, behind⟩ := mode.lineTokens_reindentLine alike between outside number
    have rest := ih behind (mode.betweenLines_lineEnd between line) later (number + 1)
    rw [reindentLines, linesTokens, linesTokens, contents_append, contents_append, ← said]
    exact congrArg _ rest

/-- A document without carriage returns is cut into the lines that were reindented. -/
theorem lines_reindent_of_not_mem {document : Text} (noReturn : '\r' ∉ document) :
    lines (mode.reindent document) =
      mode.reindentLines (lines document) (mode.startState 0) := by
  have visible : '\r' ≠ ' ' := by decide
  have absent := mode.not_mem_of_mem_reindentLines visible
    (fun line isLine inside => noReturn (Text.mem_of_mem_lines isLine inside)) (mode.startState 0)
  have unchanged : ∀ line ∈ mode.reindentLines (lines document) (mode.startState 0),
      Text.chopReturn line = line := by
    intro line isLine
    rw [Text.chopReturn, if_neg fun ends => absent line isLine (List.mem_of_getLast? ends)]
  rw [mode.lines_reindent, List.map_congr_left unchanged, List.map_id']

/-- A document without carriage returns says the same when it is reindented, if no line of white
space stands where a string goes on. -/
theorem contents_highlight_reindent {document : Text} (noReturn : '\r' ∉ document)
    (kept : mode.KeepsStrings (lines document) (mode.startState 0)) :
    contents (mode.highlight (mode.reindent document)) = contents (mode.highlight document) := by
  rw [highlight, highlight, mode.lines_reindent_of_not_mem noReturn]
  exact mode.contents_reindentLines rfl (mode.startState_betweenLines 0) kept 0

/-- A string over an empty line, a comment and a raw argument over lines of white space, and
indentation within each of them. -/
def spreadText : Text := "$a: \"b\\\n\n   c\"\n /* d\n \t\n  e */ url(f\n  \n    ),\n\tg;".toList

/-- It says the same when it is reindented. -/
theorem contents_reindent_spreadText :
    '\r' ∉ spreadText ∧
      (ofDialect .scss).KeepsStrings (lines spreadText) ((ofDialect .scss).startState 0) ∧
      contents ((ofDialect .scss).highlight ((ofDialect .scss).reindent spreadText)) =
        contents ((ofDialect .scss).highlight spreadText) := by
  have noReturn : '\r' ∉ spreadText := by decide
  have kept : (ofDialect .scss).KeepsStrings (lines spreadText)
      ((ofDialect .scss).startState 0) := by decide
  exact ⟨noReturn, kept, (ofDialect .scss).contents_highlight_reindent noReturn kept⟩

/-- A string that goes on in front of a line of white space. -/
def stringPastBlank : Text := "\"a\\\n \nb".toList

/-- There the last line is a tag, and it belongs to the string when the text is reindented. -/
theorem contents_string_past_blank :
    '\r' ∉ stringPastBlank ∧
      (contents ((ofDialect .css).highlight stringPastBlank)).getLast? =
        some ⟨2, ['b'], .styled .tag .word⟩ ∧
      (contents ((ofDialect .css).highlight
          ((ofDialect .css).reindent stringPastBlank))).getLast? =
        some ⟨2, ['b'], .styled .string .string⟩ := by
  decide

end Mode

end Stylesheet
