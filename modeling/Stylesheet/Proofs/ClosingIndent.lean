import Stylesheet.Indentation
import Stylesheet.Proofs.ClosingBrace

/-!
# Where a line with a closing brace stands

The grammar and the indentation both decide what a closing brace at the start of a line closes: the
innermost scope, or the one around a value. The grammar closes whatever a brace has opened there.
The indentation knows these scopes as blocks, but for the blocks of nested properties
(`Scope.isBlock_iff`). So the line stands where the scope around the closed one is indented to,
except that the brace of nested properties stands with their content
(`Mode.Reachable.indent_braceClose`).
-/
namespace Stylesheet

/-- The blocks are the scopes that a brace has opened and that do not hold nested properties. -/
theorem Scope.isBlock_iff (scope : Scope) :
    scope.isBlock ↔ scope.isBraced ∧ scope ≠ .propertyBlock := by
  cases scope <;> simp [Scope.isBlock, Scope.isBraced]

namespace Nesting

variable {opened outer : List Frame} {frame : Frame} {root : Root}

/-- The frames around the one around the innermost are those without the innermost. -/
theorem ancestor?_cons (frame : Frame) (outer : List Frame) (root : Root) (level : Nat) :
    (Nesting.mk (frame :: outer) root).ancestor? (level + 1) =
      (Nesting.mk outer root).ancestor? level :=
  rfl

/-- What a closing brace at the start of a line may close: the innermost frame, or the one behind a
value. The others are around it. -/
def Faces (opened : List Frame) (frame : Frame) (outer : List Frame) : Prop :=
  opened = frame :: outer ∨ ∃ column, opened = ⟨.value, column⟩ :: frame :: outer

/-- No brace has opened a value, so the grammar looks behind it. -/
theorem Faces.braced (faces : Faces opened frame outer) (isBraced : frame.scope.isBraced) :
    braced opened = frame :: outer := by
  rcases faces with rfl | ⟨column, rfl⟩
  · exact braced_cons_of_isBraced isBraced outer
  · have unbraced : ¬(Frame.mk .value column).scope.isBraced := Bool.false_ne_true
    rw [braced_cons_of_not_isBraced unbraced, braced_cons_of_isBraced isBraced]

/-- The indentation looks behind a value as well, and asks there whether a block is closed. -/
theorem Faces.indentFor_braceClose (faces : Faces opened frame outer)
    (isBraced : frame.scope.isBraced) (unit : UInt64) (text : Text) :
    indentFor unit ('}' :: text) ⟨opened, root⟩ =
      if frame.scope.isBlock then (Nesting.mk outer root).innermost.indent
      else (Nesting.mk opened root).innermost.indent := by
  have notValue : frame.scope ≠ .value := by
    intro value
    rw [value] at isBraced
    contradiction
  rcases faces with rfl | ⟨column, rfl⟩
  · simp [indentFor, innermost, ancestor?_cons, ancestor?_zero, notValue]
  · simp [indentFor, innermost, ancestor?_cons, ancestor?_zero]

end Nesting

/-- In every dialect a brace at the front is a closing one. -/
theorem Scan.base_braceClose (dialect : Dialect) (text : Text) :
    base dialect ('}' :: text) = .bare .braceClose 1 := by
  cases dialect <;> rfl

namespace Mode

variable {mode : Mode} {indent : UInt64} {state : ParseState}

/-- At the start of a line with a closing brace the indentation and the grammar look at the same
scope. The grammar closes it, if a brace has opened it, and goes on in the scope around it. The line
stands where that one is indented to, unless nested properties are closed: then it stands with the
innermost content. -/
theorem Reachable.indent_braceClose (reachable : mode.Reachable indent state)
    (nothing : state.continuation = none) {frame : Frame} {outer : List Frame}
    (faces : Nesting.Faces state.context.nesting.opened frame outer)
    (isBraced : frame.scope.isBraced) (text : Text) :
    let around : Nesting := ⟨outer, state.context.nesting.root⟩
    (∀ layout lexeme, lexeme.token.kind = .braceClose →
        (state.context.step mode.dialect layout lexeme).2.nesting = around) ∧
      (∀ indentation carried,
        let reading := mode.read indentation carried ('}' :: text) state
        reading.token.kind = .braceClose ∧ reading.state.context.nesting = around) ∧
      mode.indent state ('}' :: text) =
        if frame.scope = .propertyBlock then state.context.nesting.innermost.indent
        else around.innermost.indent := by
  intro around
  have closes : ∀ layout lexeme, lexeme.token.kind = .braceClose →
      (state.context.step mode.dialect layout lexeme).2.nesting = around := by
    intro layout lexeme close
    rw [reachable.seated.step_braceClose layout close, Context.behindBrace, faces.braced isBraced]
  refine ⟨closes, fun indentation carried => ?_, ?_⟩
  · have scans : scan mode.dialect state.continuation ('}' :: text) = .bare .braceClose 1 := by
      rw [nothing]
      exact Scan.base_braceClose mode.dialect text
    rw [mode.read_of_lexeme (fun _ => rfl), readLexeme, scans]
    exact ⟨rfl, closes _ _ rfl⟩
  · have block : frame.scope.isBlock ↔ frame.scope ≠ .propertyBlock := by
      rw [frame.scope.isBlock_iff, and_iff_right isBraced]
    rw [Mode.indent, faces.indentFor_braceClose isBraced]
    simp only [block, ite_not]
    rfl

/-- In the value of a declaration of a rule. -/
def openDeclaration : ParseState :=
  { continuation := none
    context :=
      { nesting := ⟨[⟨.value, 4⟩, ⟨.body .block, 2⟩], ⟨.top, 0⟩⟩
        awaiting := none
        rule := none } }

/-- Reading comes there. -/
theorem reachable_openDeclaration : (ofDialect .scss).Reachable 0 openDeclaration := by
  have bare : (ofDialect .scss).Reachable 0 _ := .start
  have brace := bare.next (.ofLine 4 ['{'])
  have name := brace.next ((Cursor.ofLine 4 "  $a:".toList).advance 2)
  exact name.next ((Cursor.ofLine 4 "  $a:".toList).advance 4)

/-- There a brace closes the rule around the value, and its line is indented like the one that opens
the rule. -/
theorem indent_braceClose_openDeclaration :
    let scss := ofDialect .scss
    scss.Reachable 0 openDeclaration ∧ openDeclaration.continuation = none ∧
      Nesting.Faces openDeclaration.context.nesting.opened ⟨.body .block, 2⟩ [] ∧
      (Frame.mk (.body .block) 2).scope.isBraced ∧
      (openDeclaration.context.step .scss ⟨0, 2⟩ ⟨.bare .braceClose, ['}'], []⟩).2.nesting =
        ⟨[], ⟨.top, 0⟩⟩ ∧
      scss.indent openDeclaration ['}'] = 0 := by
  intro scss
  have faces : Nesting.Faces openDeclaration.context.nesting.opened ⟨.body .block, 2⟩ [] :=
    .inr ⟨4, rfl⟩
  have closes := reachable_openDeclaration.indent_braceClose rfl faces rfl []
  exact ⟨reachable_openDeclaration, rfl, faces, rfl, closes.1 _ _ rfl, closes.2.2⟩

/-- In nested properties whose brace stands on a line of its own. -/
def openProperties : ParseState :=
  { continuation := none
    context :=
      { nesting := ⟨[⟨.propertyBlock, 6⟩, ⟨.value, 4⟩, ⟨.body .block, 2⟩], ⟨.top, 0⟩⟩
        awaiting := none
        rule := none } }

/-- Reading comes there. -/
theorem reachable_openProperties : (ofDialect .scss).Reachable 0 openProperties :=
  reachable_openDeclaration.next ((Cursor.ofLine 4 "    \x7b".toList).advance 4)

/-- There a brace closes the properties, and the value around them goes on, but the line does not
stand where the value is indented to. -/
theorem indent_braceClose_ne_around :
    let scss := ofDialect .scss
    let value : Frame := ⟨.value, 4⟩
    scss.Reachable 0 openProperties ∧ openProperties.continuation = none ∧
      openProperties.context.nesting.opened = [⟨.propertyBlock, 6⟩, value, ⟨.body .block, 2⟩] ∧
      (∀ layout lexeme, lexeme.token.kind = .braceClose →
        (openProperties.context.step .scss layout lexeme).2.nesting =
          ⟨[value, ⟨.body .block, 2⟩], ⟨.top, 0⟩⟩) ∧
      scss.indent openProperties ['}'] = 6 ∧ scss.indent openProperties ['}'] ≠ value.indent := by
  refine ⟨reachable_openProperties, rfl, rfl, fun layout lexeme close => ?_, rfl, by decide⟩
  have step := reachable_openProperties.seated.step_braceClose layout close
  exact congrArg (·.2.nesting) step

end Mode

end Stylesheet
