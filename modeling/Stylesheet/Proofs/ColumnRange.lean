import Mathlib.Algebra.Group.Nat.Defs
import Mathlib.Data.List.Basic
import Stylesheet.Indentation

/-!
# Columns that fit

Columns have sixty-four bits, and a sum of columns that does not fit starts again at zero.
`Text.extent` counts the columns of a text without a limit, and `Layout.Fits` says of a line that
what is opened on it can be indented by one more unit. Up to the limit a text is as wide as it
extends (`Text.toNat_width`), and the content of a scope is one unit deeper than the line
(`Layout.toNat_indent_deeper`). What is taken off again never goes below the first column
(`Frame.toNat_outdent`).
-/
namespace Stylesheet

namespace Text

/-! ## The extent of a text -/

/-- The column after one more character, as large as it may be. -/
def nextStop (tabSize column : Nat) (c : Char) : Nat :=
  if c = '\t' then column + (max tabSize 1 - column % max tabSize 1) else column + 1

/-- The columns that a text takes from column zero on, as many as they may be. -/
def extent (tabSize : Nat) (text : Text) : Nat := text.foldl (nextStop tabSize) 0

/-- Every character moves at least one column on. -/
theorem lt_nextStop (tabSize column : Nat) (c : Char) : column < nextStop tabSize column c := by
  have stop : column % max tabSize 1 < max tabSize 1 := Nat.mod_lt _ (by omega)
  unfold nextStop
  split <;> omega

/-- Every character stands on a column of its own at least. -/
theorem add_length_le_foldl_nextStop (tabSize column : Nat) (text : Text) :
    column + text.length ≤ text.foldl (nextStop tabSize) column := by
  induction text generalizing column with
  | nil => exact Nat.le_refl column
  | cons c text ih =>
    have next := lt_nextStop tabSize column c
    have rest := ih (nextStop tabSize column c)
    rw [List.foldl_cons, List.length_cons]
    omega

/-- A longer part of a text extends further. -/
theorem extent_lt_of_prefix (tabSize : Nat) {left right : Text} (isPrefix : left <+: right)
    (longer : left.length < right.length) : extent tabSize left < extent tabSize right := by
  obtain ⟨more, rfl⟩ := isPrefix
  have further := add_length_le_foldl_nextStop tabSize (extent tabSize left) more
  rw [List.length_append] at longer
  rw [extent, extent, List.foldl_append, ← extent]
  omega

/-- One more character is counted up to the limit. -/
theorem toNat_nextColumn (tabSize column : UInt64) (c : Char) :
    (nextColumn tabSize column c).toNat = nextStop tabSize.toNat column.toNat c % 2 ^ 64 := by
  have size : (max tabSize 1).toNat = max tabSize.toNat 1 := UInt64.toNat_max tabSize 1
  have behind : (column % max tabSize 1).toNat = column.toNat % max tabSize.toNat 1 := by
    rw [UInt64.toNat_mod, size]
  have within : column % max tabSize 1 ≤ max tabSize 1 := by
    rw [UInt64.le_iff_toNat_le, behind, size]
    exact Nat.le_of_lt (Nat.mod_lt _ (by omega))
  unfold nextColumn nextStop
  split
  · rw [UInt64.toNat_add, UInt64.toNat_sub_of_le _ _ within, size, behind]
  · exact UInt64.toNat_add column 1

/-- As long as the columns fit, they are counted without a limit. -/
theorem toNat_foldl_nextColumn {tabSize column : UInt64} {text : Text}
    (fits : text.foldl (nextStop tabSize.toNat) column.toNat < 2 ^ 64) :
    (text.foldl (nextColumn tabSize) column).toNat =
      text.foldl (nextStop tabSize.toNat) column.toNat := by
  induction text generalizing column with
  | nil => rfl
  | cons c text ih =>
    rw [List.foldl_cons] at fits
    have further := add_length_le_foldl_nextStop tabSize.toNat
      (nextStop tabSize.toNat column.toNat c) text
    have next : (nextColumn tabSize column c).toNat = nextStop tabSize.toNat column.toNat c := by
      rw [toNat_nextColumn, Nat.mod_eq_of_lt (by omega)]
    rw [← next] at fits
    rw [List.foldl_cons, List.foldl_cons, ih fits, next]

/-- A text is as wide as it extends, if the columns fit. -/
theorem toNat_width {tabSize : UInt64} {text : Text} (fits : extent tabSize.toNat text < 2 ^ 64) :
    (width tabSize text).toNat = extent tabSize.toNat text :=
  toNat_foldl_nextColumn fits

/-- Spaces extend as far as they are many. -/
theorem extent_replicate (tabSize count : Nat) :
    extent tabSize (List.replicate count ' ') = count := by
  induction count with
  | zero => rfl
  | succ count ih =>
    have space : ∀ column, nextStop tabSize column ' ' = column + 1 := fun _ => rfl
    rw [extent, List.replicate_succ', List.foldl_append, ← extent, ih]
    exact space count

end Text

/-! ## Content that is one unit deeper -/

/-- One more unit fits behind the indentation of a line. -/
def Layout.Fits (layout : Layout) : Prop :=
  layout.indentation.toNat + layout.unit.toNat < 2 ^ 64

instance (layout : Layout) : Decidable layout.Fits :=
  inferInstanceAs (Decidable (layout.indentation.toNat + layout.unit.toNat < 2 ^ 64))

/-- Then what is opened on the line is one unit deeper. -/
theorem Layout.toNat_indent_deeper {layout : Layout} (fits : layout.Fits) (scope : Scope) :
    (layout.frame scope .deeper).indent.toNat = layout.indentation.toNat + layout.unit.toNat := by
  rw [Layout.frame, UInt64.toNat_add, Nat.mod_eq_of_lt fits]

/-- A unit is taken off where there is one. -/
theorem Frame.toNat_outdent (unit : UInt64) (frame : Frame) :
    (frame.outdent unit).toNat = frame.indent.toNat - unit.toNat := by
  unfold Frame.outdent
  split
  · next deep => exact UInt64.toNat_sub_of_le _ _ deep
  · next flat =>
    rw [UInt64.le_iff_toNat_le] at flat
    rw [UInt64.toNat_zero]
    omega

end Stylesheet
