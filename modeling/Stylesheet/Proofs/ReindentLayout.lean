import Stylesheet.Proofs.ColumnRange
import Stylesheet.Proofs.Continuations
import Stylesheet.Proofs.ReindentTwice

/-!
# The layout of a reindented document

A document is reindented by whole levels. The column that a line is given is that of an open scope,
or one level less, and the column of a scope is the indentation of the line that opens it, or one
level more. So from a start at the first column all columns are multiples of the unit, on every line
and wherever a host stands on it (`Nesting.Regular`, which a step keeps on such a line), and a line
that is given such a column is such a line again (`Mode.reindent_regular`). The sums fit as long as
no line is indented by more than a text can hold (`Mode.Narrow`): a column of whole levels is zero
or no less than a level.
-/
namespace Stylesheet

open Text (lines split join trimStart isBlank)

/-! ## The indentation of an indented text -/

namespace Text

/-- No white space is left in front of a text that is trimmed. -/
theorem takeWhile_trimStart (text : Text) : (trimStart text).takeWhile isBlank = [] := by
  have black := List.head?_dropWhile_not isBlank text
  cases trimmed : trimStart text with
  | nil => rfl
  | cons c rest =>
    rw [← trimStart, trimmed] at black
    exact List.takeWhile_cons_of_neg (by simpa using black)

/-- A text that is trimmed and not blank is indented by the spaces that are put in front of it. -/
theorem indentation_replicate_append (tabSize column : UInt64) (text : Text) :
    indentation tabSize (List.replicate column.toNat ' ' ++ trimStart text) = column := by
  have spaces := extent_replicate tabSize.toNat column.toNat
  have fits : extent tabSize.toNat (List.replicate column.toNat ' ') < 2 ^ 64 := by
    rw [spaces]
    exact column.toNat_lt
  rw [indentation, List.takeWhile_append_of_pos fun _ => isBlank_of_mem_replicate,
    takeWhile_trimStart, List.append_nil]
  exact UInt64.toNat_inj.mp ((toNat_width fits).trans spaces)

end Text

/-! ## Columns of whole levels -/

namespace Nesting

/-- The content of every scope is indented by whole levels. -/
def Regular (unit : UInt64) (nesting : Nesting) : Prop :=
  ∀ frame ∈ nesting.frames, unit.toNat ∣ frame.indent.toNat

namespace Regular

variable {unit : UInt64} {nesting : Nesting}

/-- So it is where only outer scopes are left. -/
theorem suffix {opened : List Frame} (regular : nesting.Regular unit)
    (outer : opened <:+ nesting.opened) : Regular unit { nesting with opened } := by
  intro frame isFrame
  refine regular frame ?_
  rcases List.mem_append.mp isFrame with inside | isRoot
  · exact List.mem_append_left _ (outer.mem inside)
  · exact List.mem_append_right _ isRoot

/-- And where a scope is opened in such a column. -/
theorem push {frame : Frame} (regular : nesting.Regular unit)
    (level : unit.toNat ∣ frame.indent.toNat) : (nesting.push frame).Regular unit :=
  List.forall_mem_cons.mpr ⟨level, regular⟩

/-- The innermost scope closes. -/
theorem pop (regular : nesting.Regular unit) : nesting.pop.Regular unit :=
  regular.suffix (List.tail_suffix nesting.opened)

/-- A line is given such a column. -/
theorem dvd_indentFor (regular : nesting.Regular unit) (text : Text) :
    unit.toNat ∣ (nesting.indentFor unit text).toNat := by
  have innermost : unit.toNat ∣ nesting.innermost.indent.toNat :=
    regular _ (List.mem_of_getElem? nesting.ancestor?_zero)
  simp only [indentFor]
  split
  · next frame around isFrame isAround =>
    have level : unit.toNat ∣ frame.indent.toNat := regular frame (List.mem_of_getElem? isFrame)
    have back : unit.toNat ∣ (frame.outdent unit).toNat := by
      rw [Frame.toNat_outdent]
      exact Nat.dvd_sub level (Nat.dvd_refl _)
    split
    · exact regular around (List.mem_of_getElem? isAround)
    · split
      · exact back
      · split
        · exact back
        · exact innermost
  · exact innermost

end Regular

end Nesting

/-- A line is indented by whole levels, and one more level fits. -/
structure Layout.Regular (layout : Layout) : Prop where
  dvd : layout.unit.toNat ∣ layout.indentation.toNat
  fits : layout.Fits

namespace Context

/-- The content of every open scope is indented by whole levels. -/
def Regular (unit : UInt64) (context : Context) : Prop := context.nesting.Regular unit

namespace Regular

variable {context : Context} {layout : Layout}

/-- On a line that is indented by whole levels a move keeps them. -/
theorem apply (regular : context.Regular layout.unit) (level : layout.Regular) (move : Move) :
    (context.apply layout move).Regular layout.unit := by
  have opened : ∀ scope placing,
      layout.unit.toNat ∣ (layout.frame scope placing).indent.toNat := by
    intro scope placing
    cases placing with
    | deeper =>
      rw [Layout.toNat_indent_deeper level.fits]
      exact Nat.dvd_add_self_right.mpr level.dvd
    | level => exact level.dvd
  cases move with
  | stay => exact regular
  | await token => exact regular
  | check rule => exact regular
  | enter scope => exact Nesting.Regular.push regular (opened scope .deeper)
  | replace scope placing =>
    exact (Nesting.Regular.pop regular).push (opened scope placing)
  | leave => exact Nesting.Regular.pop regular

/-- So does a step. -/
theorem step (dialect : Dialect) (regular : context.Regular layout.unit) (level : layout.Regular)
    (lexeme : Lexeme) :
    (context.step dialect layout lexeme).2.Regular layout.unit := by
  cases awaits : context.awaitedAnswer? lexeme with
  | some answer =>
    rw [step_of_awaited layout awaits]
    exact regular.apply level answer.move
  | none =>
    have settled : (context.settled dialect lexeme).Regular layout.unit :=
      Nesting.Regular.suffix regular (context.settled_opened_suffix dialect lexeme)
    rw [step_of_not_awaited layout awaits]
    exact settled.apply level (context.settledAnswer dialect lexeme).move

end Regular

/-- At the start there is the root alone. -/
theorem regular_start (unit : UInt64) (body : Body) : (start body 0).Regular unit := by
  intro frame isFrame
  obtain rfl : frame = ⟨.body body, 0⟩ := List.mem_singleton.mp isFrame
  exact Nat.dvd_zero unit.toNat

end Context

/-- A line that is indented by whole levels, and by less than half of what columns can count, has
room for one more: it is not indented at all, or by a level at least. -/
theorem Layout.regular_of_lt {layout : Layout}
    (dvd : layout.unit.toNat ∣ layout.indentation.toNat)
    (narrow : layout.indentation.toNat < 2 ^ 63) : layout.Regular where
  dvd
  fits := by
    have unit := layout.unit.toNat_lt
    unfold Layout.Fits
    rcases Nat.eq_zero_or_pos layout.indentation.toNat with flat | indented
    · omega
    · have level := Nat.le_of_dvd indented dvd
      omega

/-! ## Lines of whole levels -/

namespace Mode

variable {mode : Mode} {line : Text} {entry state : ParseState} {cursor : Cursor}

/-- The columns that decide about scopes opened on a line. -/
def lineLayout (mode : Mode) (line : Text) : Layout :=
  ⟨Text.indentation mode.settings.tabSize line, mode.settings.indentUnit⟩

/-- On a line that is indented by whole levels all scopes are, wherever a host comes. -/
theorem OnLine.regular (here : mode.OnLine line entry cursor state)
    (level : (mode.lineLayout line).Regular)
    (regular : entry.context.Regular mode.settings.indentUnit) :
    state.context.Regular mode.settings.indentUnit := by
  induction here with
  | start => exact regular
  | mark _ ih => exact ih
  | @token cursor _ state _ _ before _ reads ih =>
    obtain ⟨_, rfl, -, -, rfl⟩ := exists_reading_of_nextToken reads
    have indentation : cursor.indentation = Text.indentation mode.settings.tabSize line := by
      rw [Cursor.indentation, before.line_eq, before.tabSize_eq]
    rw [indentation]
    exact mode.read_context ih (fun lexeme => ih.step mode.dialect level lexeme) _ _

/-- So they are behind every token. -/
theorem regular_of_mem_lineTokens (level : (mode.lineLayout line).Regular)
    (regular : entry.context.Regular mode.settings.indentUnit) :
    ∀ placed ∈ mode.lineTokens line entry,
      placed.state.context.Regular mode.settings.indentUnit :=
  context_of_mem_tokensFrom (fun _ lexeme kept => kept.step mode.dialect level lexeme) regular
    0 line 0

/-- How a line is given the indentation that a state asks for, and what is read on it then. -/
structure LaidOut (mode : Mode) (entry : ParseState) (line piece : Text) : Prop where
  /-- The text of a line that is not blank is indented by whole levels. -/
  indented : piece ≠ [] → ∃ levels,
    piece = List.replicate (levels * mode.settings.indentUnit.toNat) ' ' ++ trimStart line
  /-- Wherever a host comes on the line, from its start to its end, all scopes are indented by whole
  levels. -/
  regular : ∀ cursor state, mode.OnLine piece entry cursor state →
    state.context.Regular mode.settings.indentUnit
  /-- So they are behind every token of the line. -/
  tokens : ∀ placed ∈ mode.lineTokens piece entry,
    placed.state.context.Regular mode.settings.indentUnit

/-- Nothing is left of a blank line. -/
theorem reindentLine_of_trimStart_eq_nil (none : trimStart line = []) (state : ParseState) :
    mode.reindentLine line state = [] := by
  rw [reindentLine, none]
  rfl

/-- A line that is not blank is indented to the column that its state asks for. -/
theorem reindentLine_of_trimStart_ne_nil (some : trimStart line ≠ []) (state : ParseState) :
    mode.reindentLine line state =
      List.replicate (mode.indentLine state line).toNat ' ' ++ trimStart line := by
  rw [reindentLine, if_neg fun empty => some (List.isEmpty_iff.mp empty)]
  rfl

/-- Nothing is left of blank lines, and of no others. -/
theorem reindentLine_eq_nil_iff (line : Text) (state : ParseState) :
    mode.reindentLine line state = [] ↔ ∀ c ∈ line, isBlank c := by
  have blank : trimStart line = [] ↔ ∀ c ∈ line, isBlank c := List.dropWhile_eq_nil_iff
  rw [← blank]
  by_cases empty : trimStart line = []
  · exact iff_of_true (reindentLine_of_trimStart_eq_nil empty state) empty
  · rw [reindentLine_of_trimStart_ne_nil empty]
    simp [empty]

/-- Behind a state with whole levels a line is indented by whole levels. -/
theorem regular_lineLayout_reindentLine (regular : entry.context.Regular mode.settings.indentUnit)
    (narrow : trimStart line ≠ [] → (mode.indentLine entry line).toNat < 2 ^ 63) :
    (mode.lineLayout (mode.reindentLine line entry)).Regular := by
  by_cases empty : trimStart line = []
  · rw [reindentLine_of_trimStart_eq_nil empty]
    have flat : (mode.lineLayout []).indentation.toNat = 0 := rfl
    exact Layout.regular_of_lt (flat ▸ Nat.dvd_zero _) (by omega)
  · have column : Text.indentation mode.settings.tabSize (mode.reindentLine line entry) =
        mode.indentLine entry line := by
      rw [reindentLine_of_trimStart_ne_nil empty, Text.indentation_replicate_append]
    have level := Nesting.Regular.dvd_indentFor regular (trimStart line)
    rw [lineLayout, column]
    exact Layout.regular_of_lt level (narrow empty)

/-- There a line is laid out so. -/
theorem laidOut_reindentLine (regular : entry.context.Regular mode.settings.indentUnit)
    (narrow : trimStart line ≠ [] → (mode.indentLine entry line).toNat < 2 ^ 63) :
    mode.LaidOut entry line (mode.reindentLine line entry) where
  indented some := by
    have content : trimStart line ≠ [] :=
      fun none => some (reindentLine_of_trimStart_eq_nil none entry)
    obtain ⟨levels, column⟩ := Nesting.Regular.dvd_indentFor regular (trimStart line)
    refine ⟨levels, ?_⟩
    rw [reindentLine_of_trimStart_ne_nil content, Nat.mul_comm, ← column]
    rfl
  regular _ _ here := here.regular (regular_lineLayout_reindentLine regular narrow) regular
  tokens := regular_of_mem_lineTokens (regular_lineLayout_reindentLine regular narrow) regular

/-- The state at the end of a line that is laid out has whole levels again. -/
theorem LaidOut.lineEnd {piece : Text} (laidOut : mode.LaidOut entry line piece) :
    (mode.lineEnd piece entry).context.Regular mode.settings.indentUnit := by
  obtain ⟨behind, -, there⟩ := mode.onLine_lineEnd piece entry
  exact laidOut.regular behind _ there

/-! ## Documents -/

/-- No line is indented by 2 ^ 63 columns or more. No text has as many bytes. -/
def Narrow (mode : Mode) (lines : List Text) (state : ParseState) : Prop :=
  ∀ number, (inside : number < lines.length) → trimStart lines[number] ≠ [] →
    (mode.indentLine (mode.linesEnd ((mode.reindentLines lines state).take number) state)
      lines[number]).toNat < 2 ^ 63

instance (lines : List Text) (state : ParseState) : Decidable (mode.Narrow lines state) :=
  inferInstanceAs (Decidable (∀ number, (inside : number < lines.length) →
    trimStart lines[number] ≠ [] →
      (mode.indentLine (mode.linesEnd ((mode.reindentLines lines state).take number) state)
        lines[number]).toNat < 2 ^ 63))

/-- Then the first line is not, and the others are not behind it. -/
theorem Narrow.of_cons {lines : List Text} (narrow : mode.Narrow (line :: lines) entry) :
    (trimStart line ≠ [] → (mode.indentLine entry line).toNat < 2 ^ 63) ∧
      mode.Narrow lines (mode.lineEnd (mode.reindentLine line entry) entry) :=
  ⟨narrow 0 (Nat.succ_pos lines.length),
    fun number inside => narrow (number + 1) (Nat.succ_lt_succ inside)⟩

/-- So lines are laid out one behind the other. -/
theorem laidOut_reindentLines {lines : List Text}
    (regular : entry.context.Regular mode.settings.indentUnit) (narrow : mode.Narrow lines entry)
    {number : Nat} (isLine : lines[number]? = some line) :
    let state := mode.linesEnd ((mode.reindentLines lines entry).take number) entry
    mode.LaidOut state line (mode.reindentLine line state) := by
  induction lines generalizing number entry with
  | nil => simp at isLine
  | cons first lines ih =>
    have here := laidOut_reindentLine regular narrow.of_cons.1
    cases number with
    | zero =>
      obtain rfl : first = line := by simpa using isLine
      exact here
    | succ number => exact ih here.lineEnd narrow.of_cons.2 isLine

/-- Each line is reindented behind those above it as they stand then. -/
theorem getElem?_reindentLines {lines : List Text} {number : Nat}
    (isLine : lines[number]? = some line) :
    (mode.reindentLines lines entry)[number]? = some (mode.reindentLine line
      (mode.linesEnd ((mode.reindentLines lines entry).take number) entry)) := by
  induction lines generalizing number entry with
  | nil => simp at isLine
  | cons first lines ih =>
    cases number with
    | zero =>
      obtain rfl : first = line := by simpa using isLine
      rfl
    | succ number => exact ih isLine

/-- There are as many lines as before. -/
theorem length_reindentLines (lines : List Text) (state : ParseState) :
    (mode.reindentLines lines state).length = lines.length := by
  have texts := congrArg List.length (mode.map_trimStart_reindentLines lines state)
  simpa using texts

/-- A reindented document has as many lines as the document. Each is a line of the document with the
indentation that follows from the lines above it as they stand then: nothing if the line is blank,
and unless lines are indented by more than a text can hold, it is laid out so. -/
theorem reindent_regular (mode : Mode) (document : Text) :
    let pieces := split '\n' (mode.reindent document)
    pieces.length = (lines document).length ∧
      ∀ number line, (lines document)[number]? = some line →
        let entry := mode.linesEnd (pieces.take number) (mode.startState 0)
        let piece := mode.reindentLine line entry
        pieces[number]? = some piece ∧ (piece = [] ↔ ∀ c ∈ line, isBlank c) ∧
          (mode.Narrow (lines document) (mode.startState 0) → mode.LaidOut entry line piece) := by
  rw [mode.split_reindent document]
  refine ⟨length_reindentLines _ _, fun number line isLine => ?_⟩
  refine ⟨getElem?_reindentLines isLine, reindentLine_eq_nil_iff _ _, fun narrow => ?_⟩
  exact laidOut_reindentLines (Context.regular_start _ mode.body) narrow isLine

/-- A declaration in a block, which a tab indents before, is indented by one level. -/
theorem reindent_regular_declaration :
    let css := ofDialect .css
    let document := "a\x7b\n\tb:c".toList
    let entry := css.linesEnd [['a', '{']] (css.startState 0)
    css.Narrow (lines document) (css.startState 0) ∧
      split '\n' (css.reindent document) = [['a', '{'], "  b:c".toList] ∧
      css.LaidOut entry "\tb:c".toList "  b:c".toList := by
  intro css document entry
  have narrow : css.Narrow (lines document) (css.startState 0) := by decide
  have pieces : split '\n' (css.reindent document) = [['a', '{'], "  b:c".toList] := by decide
  obtain ⟨-, -, laidOut⟩ := (css.reindent_regular document).2 1 "\tb:c".toList rfl
  rw [pieces] at laidOut
  exact ⟨narrow, pieces, laidOut narrow⟩

end Mode

end Stylesheet
