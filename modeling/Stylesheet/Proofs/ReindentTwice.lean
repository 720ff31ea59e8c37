import Mathlib.Data.List.DropRight
import Stylesheet.Document.Reindent

/-!
# Reindenting twice

The white space in front of a line has no say in where the line is indented to: its other
characters have, and the lines above it as they are indented. So reindented lines stay as they are
(`Mode.reindentLines_reindentLines`), and a document can change a second time only where it is cut
into lines differently. A carriage return that ends a line is dropped with the newline behind it.
Where a line ends in two of them, the first one is kept, and it ends the line the second time.
-/
namespace Stylesheet

open Text (lines split join trimStart chopReturn isBlank)

namespace Text

/-- To take the carriage return from the end of a line changes the text behind its white space,
unless there is none or it does not end so. -/
theorem trimStart_chopReturn_eq_iff (line : Text) :
    trimStart (chopReturn line) = trimStart line ↔ (trimStart line).getLast? ≠ some '\r' := by
  by_cases ends : line.getLast? = some '\r'
  · rw [chopReturn, if_pos ends]
    obtain ⟨first, rfl⟩ : ∃ first, line = first ++ ['\r'] :=
      ⟨line.dropLast, (List.dropLast_append_getLast? '\r' ends).symm⟩
    have blank : ['\r'].dropWhile isBlank = [] := by decide
    rw [List.dropLast_concat, trimStart, trimStart, List.dropWhile_append, blank]
    cases kept : first.dropWhile isBlank with
    | nil => simp
    | cons c rest =>
      have missed : c :: rest ≠ c :: rest ++ ['\r'] := by simp
      have last : (c :: rest ++ ['\r']).getLast? = some '\r' := List.getLast?_concat
      rw [List.isEmpty_cons, if_neg Bool.false_ne_true]
      exact iff_of_false missed (not_not.mpr last)
  · rw [chopReturn, if_neg ends]
    refine iff_of_true rfl fun trimmedEnds => ends ?_
    have whole : line.takeWhile isBlank ++ trimStart line = line := List.takeWhile_append_dropWhile
    rw [← whole, List.getLast?_append, trimmedEnds, Option.some_or]

/-- Spaces are white space. -/
theorem isBlank_of_mem_replicate {count : Nat} {c : Char}
    (isSpace : c ∈ List.replicate count ' ') : isBlank c := by
  rw [List.eq_of_mem_replicate isSpace]
  decide

/-- Lists of lines are told apart when they are joined. -/
theorem join_newline_inj {left right : List Text} (leftSome : left ≠ []) (rightSome : right ≠ [])
    (leftLines : ∀ line ∈ left, '\n' ∉ line) (rightLines : ∀ line ∈ right, '\n' ∉ line) :
    join '\n' left = join '\n' right ↔ left = right := by
  refine ⟨fun joined => ?_, congrArg (join '\n')⟩
  rw [← split_join leftSome leftLines, joined, split_join rightSome rightLines]

/-- No newline is left in a line of a document. -/
theorem newline_not_mem_of_mem_lines {document line : Text} (isLine : line ∈ lines document) :
    '\n' ∉ line := by
  obtain ⟨piece, isPiece, rfl⟩ := List.mem_map.mp isLine
  have absent := not_mem_of_mem_split isPiece
  unfold chopReturn
  split
  · exact fun inside => absent (List.dropLast_subset piece inside)
  · exact absent

end Text

namespace Mode

variable (mode : Mode)

/-- A line keeps its text behind its white space. -/
theorem trimStart_reindentLine (line : Text) (state : ParseState) :
    trimStart (mode.reindentLine line state) = trimStart line := by
  simp only [reindentLine]
  split
  · next empty => rw [List.isEmpty_iff.mp empty]; rfl
  · rw [trimStart, List.dropWhile_append_of_pos fun _ => Text.isBlank_of_mem_replicate]
    exact List.dropWhile_idempotent isBlank line

/-- No character but spaces is put in front of a line. -/
theorem not_mem_reindentLine {c : Char} (visible : c ≠ ' ') {line : Text} (absent : c ∉ line)
    (state : ParseState) : c ∉ mode.reindentLine line state := by
  have kept : c ∉ trimStart line :=
    fun inside => absent ((List.dropWhile_sublist isBlank).mem inside)
  simp only [reindentLine]
  split
  · simp
  · simp [visible, kept]

/-- Lines are indented to different columns for the sake of their texts only. -/
theorem reindentLines_of_map_trimStart {left right : List Text}
    (same : left.map trimStart = right.map trimStart) (state : ParseState) :
    mode.reindentLines left state = mode.reindentLines right state := by
  induction left generalizing right state with
  | nil =>
    obtain rfl : right = [] := by simpa using same.symm
    rfl
  | cons line left ih =>
    cases right with
    | nil => simp at same
    | cons other right =>
      obtain ⟨here, later⟩ : trimStart line = trimStart other ∧
        left.map trimStart = right.map trimStart := by simpa using same
      have indented : mode.reindentLine line state = mode.reindentLine other state := by
        rw [reindentLine, reindentLine, here]
      simp only [reindentLines, indented, ih later]

/-- Lines keep their texts behind their white space. -/
theorem map_trimStart_reindentLines (lines : List Text) (state : ParseState) :
    (mode.reindentLines lines state).map trimStart = lines.map trimStart := by
  induction lines generalizing state with
  | nil => rfl
  | cons line lines ih =>
    rw [reindentLines, List.map_cons, trimStart_reindentLine, ih, List.map_cons]

/-- Reindented lines stay as they are. -/
theorem reindentLines_reindentLines (lines : List Text) (state : ParseState) :
    mode.reindentLines (mode.reindentLines lines state) state = mode.reindentLines lines state :=
  mode.reindentLines_of_map_trimStart (mode.map_trimStart_reindentLines lines state) state

/-- Lines are indented alike exactly when their texts are the same. -/
theorem reindentLines_eq_iff {left right : List Text} {state : ParseState} :
    mode.reindentLines left state = mode.reindentLines right state ↔
      left.map trimStart = right.map trimStart := by
  refine ⟨fun same => ?_, fun same => mode.reindentLines_of_map_trimStart same state⟩
  rw [← mode.map_trimStart_reindentLines left state, same, mode.map_trimStart_reindentLines]

/-- A line stays a line. -/
theorem reindentLines_ne_nil {lines : List Text} (nonempty : lines ≠ []) (state : ParseState) :
    mode.reindentLines lines state ≠ [] := by
  cases lines with
  | nil => contradiction
  | cons line lines => exact List.cons_ne_nil _ _

/-- No character but spaces is put into a line. -/
theorem not_mem_of_mem_reindentLines {c : Char} (visible : c ≠ ' ') {lines : List Text}
    (absent : ∀ line ∈ lines, c ∉ line) (state : ParseState) :
    ∀ line ∈ mode.reindentLines lines state, c ∉ line := by
  induction lines generalizing state with
  | nil => simp [reindentLines]
  | cons line lines ih =>
    obtain ⟨here, later⟩ := List.forall_mem_cons.mp absent
    exact List.forall_mem_cons.mpr ⟨mode.not_mem_reindentLine visible here state, ih later _⟩

/-- No newline is put into a line. -/
theorem newline_not_mem_of_mem_reindentLines {document : Text} (state : ParseState) :
    ∀ line ∈ mode.reindentLines (lines document) state, '\n' ∉ line :=
  mode.not_mem_of_mem_reindentLines (by decide) (fun _ => Text.newline_not_mem_of_mem_lines) state

/-- A document is cut into the lines that it was joined of. -/
theorem split_reindent (document : Text) :
    split '\n' (mode.reindent document) =
      mode.reindentLines (lines document) (mode.startState 0) :=
  Text.split_join (mode.reindentLines_ne_nil (Text.lines_ne_nil document) _)
    (mode.newline_not_mem_of_mem_reindentLines _)

/-- A carriage return at the end of one of them is dropped. -/
theorem lines_reindent (document : Text) :
    lines (mode.reindent document) =
      (mode.reindentLines (lines document) (mode.startState 0)).map chopReturn := by
  rw [lines, split_reindent]

/-- To reindent a document a second time changes nothing, unless a line that is not blank ends in a
carriage return in front of the one that was dropped. -/
theorem reindent_reindent_eq_iff (document : Text) :
    mode.reindent (mode.reindent document) = mode.reindent document ↔
      ∀ line ∈ lines document, (trimStart line).getLast? ≠ some '\r' := by
  let once := mode.reindentLines (lines document) (mode.startState 0)
  have once_eq : mode.reindentLines once (mode.startState 0) = once :=
    mode.reindentLines_reindentLines (lines document) (mode.startState 0)
  have texts : once.map trimStart = (lines document).map trimStart :=
    mode.map_trimStart_reindentLines (lines document) (mode.startState 0)
  have isLine : ∀ line ∈ once.map chopReturn, '\n' ∉ line := by
    rw [← mode.lines_reindent document]
    exact fun _ => Text.newline_not_mem_of_mem_lines
  have onceSome : once ≠ [] := mode.reindentLines_ne_nil (Text.lines_ne_nil document) _
  calc mode.reindent (mode.reindent document) = mode.reindent document
    _ ↔ join '\n' (mode.reindentLines (once.map chopReturn) (mode.startState 0)) =
          join '\n' (mode.reindentLines once (mode.startState 0)) := by
        rw [reindent, mode.lines_reindent document, once_eq]
        rfl
    _ ↔ mode.reindentLines (once.map chopReturn) (mode.startState 0) =
          mode.reindentLines once (mode.startState 0) := by
        refine Text.join_newline_inj (mode.reindentLines_ne_nil (by simpa using onceSome) _)
          (mode.reindentLines_ne_nil onceSome _) ?_ ?_
        · exact mode.not_mem_of_mem_reindentLines (by decide) isLine _
        · rw [once_eq]
          exact mode.newline_not_mem_of_mem_reindentLines _
    _ ↔ ∀ line ∈ once, trimStart (chopReturn line) = trimStart line := by
        rw [reindentLines_eq_iff, List.map_map]
        exact List.map_inj_left
    _ ↔ ∀ text ∈ once.map trimStart, text.getLast? ≠ some '\r' := by
        simp only [Text.trimStart_chopReturn_eq_iff, List.forall_mem_map]
    _ ↔ ∀ line ∈ lines document, (trimStart line).getLast? ≠ some '\r' := by
        rw [texts, List.forall_mem_map]

/-- A line that ends in two carriage returns loses them one at a time. -/
theorem reindent_two_returns :
    (ofDialect .css).reindent ['a', '\r', '\r'] = ['a', '\r'] ∧
      (ofDialect .css).reindent ((ofDialect .css).reindent ['a', '\r', '\r']) = ['a'] := by
  decide

end Mode

end Stylesheet
