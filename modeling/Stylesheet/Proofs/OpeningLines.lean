import Mathlib.Data.List.DropRight
import Mathlib.Data.List.Forall2
import Stylesheet.Proofs.ClosingIndent
import Stylesheet.Proofs.ColumnRange

/-!
# The line on which a scope was opened

A line that closes parentheses, or starts with the brace of a header, is indented one unit less than
their content. It stands level with the line on which they were opened. To say so, what has been
opened is followed beside the states: where reading opens a scope, the cursor is noted with it, and
where a scope is closed its note is dropped (`Mode.Opens`). The content of every scope but the body
of a component is one unit deeper than the line of its note, which a step keeps
(`Context.forall₂_note`), and so the unit that is taken off is the one that was added
(`Mode.Reachable.levelsWithOpening`). That needs the sum of the indentation and the unit to fit into
a column; where it does not, the content starts again at the first columns and there is no unit to
take off (`Mode.not_level_endlessUnit`).
-/
namespace Stylesheet

open Grammar (react awaited)

/-! ## Notes -/

variable {α : Type}

/-- The notes of the scopes above the root, innermost first, behind a move that is made with a
note. -/
def Move.note (note : α) (notes : List α) : Move → List α
  | stay => notes
  | await _ => notes
  | check _ => notes
  | enter _ => note :: notes
  | replace _ _ => note :: notes.tail
  | leave => notes.tail

namespace Context

/-- The notes of the scopes above the root behind a step. Of the scopes that leave the lexeme to
others they are dropped first. -/
def note (dialect : Dialect) (lexeme : Lexeme) (note : α) (context : Context) (notes : List α) :
    List α :=
  match context.awaitedAnswer? lexeme with
  | some answer => answer.move.note note notes
  | none =>
    let settled := context.settled dialect lexeme
    (context.settledAnswer dialect lexeme).move.note note
      (notes.rtake settled.nesting.opened.length)

variable {dialect : Dialect} {layout : Layout} {holds : Frame → α → Prop} {note : α}
  {notes : List α} {context : Context}

/-- What holds of all scopes and their notes holds of them behind a move, if it holds of those that
the move may open. -/
theorem forall₂_apply (noted : List.Forall₂ holds context.nesting.opened notes)
    (deeper : ∀ scope, holds (layout.frame scope .deeper) note)
    (level : ∀ scope ∈ Scope.bodies, holds (layout.frame scope .level) note) {move : Move}
    {scope : Scope} (permitted : move.Permitted dialect scope) :
    List.Forall₂ holds (context.apply layout move).nesting.opened (move.note note notes) := by
  have fewer : List.Forall₂ holds context.nesting.opened.tail notes.tail := by
    rw [← List.drop_one, ← List.drop_one]
    exact List.forall₂_drop 1 noted
  cases move with
  | stay | await _ | check _ => exact noted
  | enter opened => exact .cons (deeper opened) noted
  | leave => exact fewer
  | replace opened placing =>
    cases placing with
    | deeper => exact .cons (deeper opened) fewer
    | level => exact .cons (level opened permitted.1) fewer

/-- Some of the innermost scopes close with their notes. -/
theorem forall₂_rtake {opened outer : List Frame} (noted : List.Forall₂ holds opened notes)
    (isOuter : outer <:+ opened) : List.Forall₂ holds outer (notes.rtake outer.length) := by
  obtain ⟨closed, rfl⟩ := isOuter
  have dropped := List.forall₂_drop closed.length noted
  have counted : notes.length - outer.length = closed.length := by
    rw [← noted.length_eq, List.length_append, Nat.add_sub_cancel]
  rwa [List.drop_left, ← counted] at dropped

/-- What holds of all scopes and their notes holds of them behind a step, if it holds of those that
a step may open. -/
theorem forall₂_note (seated : context.Seated dialect)
    (noted : List.Forall₂ holds context.nesting.opened notes)
    (deeper : ∀ scope, holds (layout.frame scope .deeper) note)
    (level : ∀ scope ∈ Scope.bodies, holds (layout.frame scope .level) note) (lexeme : Lexeme) :
    List.Forall₂ holds (context.step dialect layout lexeme).2.nesting.opened
      (context.note dialect lexeme note notes) := by
  unfold Context.note
  cases awaits : context.awaitedAnswer? lexeme with
  | some answer =>
    obtain ⟨token, awaiting, found⟩ := Option.bind_eq_some_iff.mp awaits
    have permitted : answer.move.Permitted dialect context.nesting.innermost.scope :=
      awaited_permitted (seated.awaiting token awaiting) found
    rw [step_of_awaited layout awaits]
    exact forall₂_apply noted deeper level permitted
  | none =>
    have outer := forall₂_rtake noted (context.settled_opened_suffix dialect lexeme)
    rw [step_of_not_awaited layout awaits]
    exact forall₂_apply outer deeper level
      (react_permitted (context.react_settled dialect lexeme))

end Context

/-! ## Lines that stand back -/

/-- The scopes behind whose content a line may stand back by one unit: parentheses, and the headers
that end at a brace. -/
def Scope.dedented : List Scope := [.parens, .conditionParens, .atRule, .condition]

/-- None of them is a list. -/
theorem not_mem_bodies_of_mem_dedented {scope : Scope} (dedented : scope ∈ Scope.dedented) :
    scope ∉ Scope.bodies := by
  cases scope <;> simp_all [Scope.dedented, Scope.bodies]

namespace Nesting

variable {frame : Frame} {below : List Frame} {root : Root}

/-- A line that closes parentheses stands one unit in front of their content. -/
theorem indentFor_parenClose (parens : frame.scope = .parens ∨ frame.scope = .conditionParens)
    (unit : UInt64) (text : Text) :
    indentFor unit (')' :: text) ⟨frame :: below, root⟩ = frame.outdent unit := by
  rcases parens with parens | parens <;>
    simp [indentFor, ancestor?_cons, ancestor?_zero, parens, Scope.isParens]

/-- A line that starts with the brace of a header stands one unit in front of its content. -/
theorem indentFor_braceOpen (header : frame.scope = .atRule ∨ frame.scope = .condition)
    (unit : UInt64) (text : Text) :
    indentFor unit ('{' :: text) ⟨frame :: below, root⟩ = frame.outdent unit := by
  rcases header with header | header <;>
    simp [indentFor, ancestor?_cons, ancestor?_zero, header, Scope.isHeader]

end Nesting

/-! ## Runs -/

namespace Mode

variable (mode : Mode)

/-- Where the scopes above the root were opened, innermost first, behind a read at a cursor. -/
def openingsBehind (cursor : Cursor) (state : ParseState) (openings : List Cursor) : List Cursor :=
  match mode.offered? cursor state.continuation with
  | none => openings
  | some lexeme => state.context.note mode.dialect lexeme cursor openings

/-- Where the scopes above the root were opened, innermost first, on a way on which reading comes to
a state. -/
inductive Opens (indent : UInt64) : ParseState → List Cursor → Prop
  /-- None is open at the start of a text. -/
  | start : Opens indent (mode.startState indent) []
  /-- One token further, at any place of any line. -/
  | next (cursor : Cursor) {state : ParseState} {openings : List Cursor} :
    Opens indent state openings →
      Opens indent (mode.nextToken cursor state).2.2 (mode.openingsBehind cursor state openings)

variable {mode} {indent : UInt64} {state : ParseState} {openings : List Cursor}

/-- It is noted wherever reading comes. -/
theorem Reachable.exists_opens (reachable : mode.Reachable indent state) :
    ∃ openings, mode.Opens indent state openings := by
  induction reachable with
  | start => exact ⟨[], .start⟩
  | next cursor _ ih =>
    obtain ⟨openings, opens⟩ := ih
    exact ⟨_, opens.next cursor⟩

/-- Reading comes where it is noted. -/
theorem Opens.reachable (opens : mode.Opens indent state openings) :
    mode.Reachable indent state := by
  induction opens with
  | start => exact .start
  | next cursor _ ih => exact ih.next cursor

/-- The content of a scope is one unit deeper than the line of a cursor, if a line may stand back
from it. -/
def OpenedDeeper (mode : Mode) (frame : Frame) (opening : Cursor) : Prop :=
  frame.scope ∈ Scope.dedented → frame.indent = opening.indentation + mode.settings.indentUnit

/-- It is deeper by exactly the unit, if the unit fits, and then the unit can be taken off. -/
def ExactlyDeeper (mode : Mode) (frame : Frame) (opening : Cursor) : Prop :=
  frame.scope ∈ Scope.dedented → (mode.layout opening).Fits →
    frame.indent.toNat = opening.indentation.toNat + mode.settings.indentUnit.toNat ∧
      mode.settings.indentUnit ≤ frame.indent

/-- What is deeper is so exactly. -/
theorem OpenedDeeper.exactly {frame : Frame} {opening : Cursor}
    (deeper : mode.OpenedDeeper frame opening) : mode.ExactlyDeeper frame opening := by
  intro dedented fits
  have sum : frame.indent.toNat = opening.indentation.toNat + mode.settings.indentUnit.toNat := by
    rw [deeper dedented]
    exact Layout.toNat_indent_deeper fits frame.scope
  refine ⟨sum, UInt64.le_iff_toNat_le.mpr ?_⟩
  rw [sum]
  exact Nat.le_add_left _ _

/-- Less the unit it is the column of the line. -/
theorem ExactlyDeeper.outdent_eq {frame : Frame} {opening : Cursor}
    (deeper : mode.ExactlyDeeper frame opening) (dedented : frame.scope ∈ Scope.dedented)
    (fits : (mode.layout opening).Fits) :
    frame.outdent mode.settings.indentUnit = opening.indentation := by
  apply UInt64.toNat_inj.mp
  rw [Frame.toNat_outdent, (deeper dedented fits).1, Nat.add_sub_cancel]

/-- All such scopes are opened one unit deeper than their line. Only lists are opened level with
it. -/
theorem Opens.deeper (opens : mode.Opens indent state openings) :
    List.Forall₂ mode.OpenedDeeper state.context.nesting.opened openings := by
  induction opens with
  | start => exact .nil
  | @next cursor state openings before ih =>
    unfold openingsBehind
    cases offered : mode.offered? cursor state.continuation with
    | none =>
      rw [mode.nextToken_state_of_blank offered]
      exact ih
    | some lexeme =>
      rw [mode.nextToken_state_of_offered offered]
      exact Context.forall₂_note before.reachable.seated ih (fun _ _ => rfl)
        (fun _ list dedented => absurd list (not_mem_bodies_of_mem_dedented dedented)) lexeme

/-- How lines stand that close parentheses or start with the brace of a header, with the places at
which the scopes above the root were opened. -/
structure LevelsWithOpening (mode : Mode) (state : ParseState) (openings : List Cursor) :
    Prop where
  /-- Parentheses and headers have their content one unit deeper than the line on which they were
  opened, if the unit fits, and then it can be taken off. -/
  deeper : List.Forall₂ mode.ExactlyDeeper state.context.nesting.opened openings
  /-- The root is neither. -/
  root : state.context.nesting.root.frame.scope ∉ Scope.dedented
  /-- A line that closes parentheses is level with the line on which they were opened, if the unit
  fits there. -/
  parenClose : ∀ frame, state.context.nesting.innermost = frame →
    frame.scope = .parens ∨ frame.scope = .conditionParens →
      ∃ opening, openings.head? = some opening ∧
        ((mode.layout opening).Fits →
          ∀ text, mode.indent state (')' :: text) = opening.indentation)
  /-- A line that starts with the brace of a header is level with the line on which the header was
  opened, if the unit fits there. -/
  braceOpen : ∀ frame, state.context.nesting.innermost = frame →
    frame.scope = .atRule ∨ frame.scope = .condition →
      ∃ opening, openings.head? = some opening ∧
        ((mode.layout opening).Fits →
          ∀ text, mode.indent state ('{' :: text) = opening.indentation)

/-- Within parentheses of the condition of an at-rule, on a line that is indented by three. -/
def openQuery : ParseState :=
  { continuation := none
    context :=
      { nesting := ⟨[⟨.conditionParens, 5⟩, ⟨.condition, 2⟩], ⟨.top, 0⟩⟩
        awaiting := none
        rule := none } }

/-- The at-rule stands on a line of its own, and the parenthesis on the next. -/
theorem opens_openQuery : (ofDialect .css).Opens 0 openQuery
    [((Cursor.ofLine 4 "   (".toList).advance 3).markLexeme, .ofLine 4 "@media".toList] := by
  have bare : (ofDialect .css).Opens 0 _ _ := .start
  have rule := bare.next (.ofLine 4 "@media".toList)
  exact rule.next ((Cursor.ofLine 4 "   (".toList).advance 3).markLexeme

/-- A unit as large as a column can be. -/
def endlessUnit : Mode := { dialect := .scss, settings := { indentUnit := 0xffffffffffffffff } }

/-- A parenthesis on a line that is indented by one column, where such a unit does not fit: the sum
starts again at the first column. -/
def openEndless : ParseState :=
  { continuation := none
    context := { nesting := ⟨[⟨.parens, 0⟩], ⟨.top, 0⟩⟩, awaiting := none, rule := none } }

end Mode

end Stylesheet
