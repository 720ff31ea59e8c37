import Stylesheet.Command.Options
import Stylesheet.Proofs.LeadingSpace
import Stylesheet.Proofs.Numerals

/-!
# How positions are written

A position is two numerals with a colon between them, and white space may stand around each numeral,
though not within one. `parsePosition?_eq_some_iff` says that these texts are the positions, each
with the line and the offset that its numerals stand for: no numeral and no white space has a colon,
so the first colon is the only one there can be.
-/
namespace Stylesheet

open Text (isBlank trim trimStart decimal numeral? IsNumeral)

variable {text : Text} {value : Nat}

namespace Text

/-- Digits are no white space. -/
theorem isBlank_of_isDigit {c : Char} (digit : c.isDigit = true) : isBlank c = false := by
  simp only [Char.isDigit, Bool.and_eq_true, decide_eq_true_eq] at digit
  have low : 0x30 ≤ c.toNat := UInt32.le_iff_toNat_le.mp digit.1
  have high : c.toNat ≤ 0x39 := UInt32.le_iff_toNat_le.mp digit.2
  simp only [isBlank, Bool.or_eq_false_iff, Bool.and_eq_false_iff, decide_eq_false_iff_not,
    beq_eq_false_iff_ne]
  omega

/-- No part of a numeral is white space. -/
theorem IsNumeral.isBlank_eq_false (isNumeral : IsNumeral text value) :
    ∀ c ∈ text, isBlank c = false := by
  intro c isChar
  rcases isNumeral.eq_plus_or_isDigit isChar with rfl | digit
  · decide
  · exact isBlank_of_isDigit digit

/-- A text is the white space in front of it and what trimming leaves. -/
theorem exists_trimStart (text : Text) :
    ∃ blank, (∀ c ∈ blank, isBlank c = true) ∧ text = blank ++ trimStart text :=
  ⟨text.takeWhile isBlank, fun _ => List.mem_takeWhile_imp, List.takeWhile_append_dropWhile.symm⟩

/-- A text is the white space around it and what trimming leaves. -/
theorem exists_trim (text : Text) :
    ∃ before after, (∀ c ∈ before, isBlank c = true) ∧ (∀ c ∈ after, isBlank c = true) ∧
      text = before ++ (trim text ++ after) := by
  obtain ⟨before, beforeBlank, front⟩ := exists_trimStart text
  obtain ⟨after, afterBlank, back⟩ := exists_trimStart (trimStart text).reverse
  have kept : trimStart text = trim text ++ after.reverse := by
    rw [trim, ← List.reverse_append, ← back, List.reverse_reverse]
  refine ⟨before, after.reverse, beforeBlank, fun c isChar => ?_, ?_⟩
  · exact afterBlank c (List.mem_reverse.mp isChar)
  · rw [← kept]
    exact front

/-- Trimming leaves a text that has a character other than white space at its front. -/
theorem trimStart_blank_append_of_black {blank : Text} (white : ∀ c ∈ blank, isBlank c = true)
    (some : text ≠ []) (black : ∀ c ∈ text, isBlank c = false) (rest : Text) :
    trimStart (blank ++ (text ++ rest)) = text ++ rest := by
  obtain ⟨c, more, rfl⟩ := List.exists_cons_of_ne_nil some
  rw [trimStart_blank_append white, List.cons_append]
  exact trimStart_of_black (black c List.mem_cons_self) (more ++ rest)

/-- Trimming leaves a text without white space of its own. -/
theorem trim_blank_append {before after : Text} (beforeBlank : ∀ c ∈ before, isBlank c = true)
    (afterBlank : ∀ c ∈ after, isBlank c = true) (some : text ≠ [])
    (black : ∀ c ∈ text, isBlank c = false) : trim (before ++ (text ++ after)) = text := by
  have reversed : (text ++ after).reverse = after.reverse ++ (text.reverse ++ []) := by
    rw [List.reverse_append, List.append_nil]
  rw [trim, trimStart_blank_append_of_black beforeBlank some black, reversed,
    trimStart_blank_append_of_black (by simpa using afterBlank) (by simpa using some)
      (by simpa using black), List.append_nil, List.reverse_reverse]

/-- A numeral that may have white space around it. -/
def IsSpacedNumeral (text : Text) (value : Nat) : Prop :=
  ∃ before numeral after, (∀ c ∈ before, isBlank c = true) ∧ (∀ c ∈ after, isBlank c = true) ∧
    IsNumeral numeral value ∧ text = before ++ (numeral ++ after)

/-- Such a text is read as its numeral, and no other text is. -/
theorem numeral?_trim_eq_some_iff : numeral? (trim text) = some value ↔
    IsSpacedNumeral text value := by
  rw [numeral?_eq_some_iff]
  constructor
  · intro isNumeral
    obtain ⟨before, after, beforeBlank, afterBlank, cut⟩ := exists_trim text
    exact ⟨before, trim text, after, beforeBlank, afterBlank, isNumeral, cut⟩
  · rintro ⟨before, numeral, after, beforeBlank, afterBlank, isNumeral, rfl⟩
    have some : numeral ≠ [] := isNumeral.ne_nil
    rwa [trim_blank_append beforeBlank afterBlank some isNumeral.isBlank_eq_false]

/-- It has no colon. -/
theorem IsSpacedNumeral.colon_not_mem (spaced : IsSpacedNumeral text value) : ':' ∉ text := by
  obtain ⟨before, numeral, after, beforeBlank, afterBlank, isNumeral, rfl⟩ := spaced
  have colon : isBlank ':' = false := by decide
  simp only [List.mem_append, not_or]
  refine ⟨fun isChar => ?_, fun isChar => ?_, fun isChar => ?_⟩
  · simp [beforeBlank ':' isChar] at colon
  · rcases isNumeral.eq_plus_or_isDigit isChar with plus | digit <;> contradiction
  · simp [afterBlank ':' isChar] at colon

/-- A number that fits is a numeral, as it is written, without white space. -/
theorem isSpacedNumeral_decimal (small : value < 2 ^ 64) : IsSpacedNumeral (decimal value) value :=
  ⟨[], decimal value, [], by simp, by simp, .plain (isDigits_decimal small), by simp⟩

end Text

open Text (IsSpacedNumeral)

/-- A text that stands for a line and an offset. -/
def IsPosition (argument : Text) (line offset : Nat) : Prop :=
  ∃ first second, argument = first ++ ':' :: second ∧ IsSpacedNumeral first line ∧
    IsSpacedNumeral second offset

/-- Without a colon there is no position. -/
theorem parsePosition?_of_not_mem {argument : Text} (absent : ':' ∉ argument) :
    parsePosition? argument = none := by
  have nothing : argument.dropWhile (· != ':') = [] := by
    rw [List.dropWhile_eq_nil_iff]
    intro c isChar
    exact bne_iff_ne.mpr fun same => absent (same ▸ isChar)
  rw [parsePosition?, nothing]

/-- What stands in front of the first colon is read as the line, and all behind it as the offset. -/
theorem parsePosition?_append_colon {first : Text} (absent : ':' ∉ first) (second : Text)
    {line offset : Nat} : parsePosition? (first ++ ':' :: second) = some (line, offset) ↔
      IsSpacedNumeral first line ∧ IsSpacedNumeral second offset := by
  have others : ∀ c ∈ first, (c != ':') = true :=
    fun c isChar => bne_iff_ne.mpr fun same => absent (same ▸ isChar)
  have front : (first ++ ':' :: second).takeWhile (· != ':') = first := by
    simp [List.takeWhile_append_of_pos others]
  have behind : (first ++ ':' :: second).dropWhile (· != ':') = ':' :: second := by
    simp [List.dropWhile_append_of_pos others]
  rw [parsePosition?, front, behind, ← Text.numeral?_trim_eq_some_iff,
    ← Text.numeral?_trim_eq_some_iff]
  cases numeral? (trim first) <;> cases isSecond : numeral? (trim second) <;> simp [isSecond]

/-- Exactly the positions are read, as what they stand for. A line and an offset that fit into
sixty-four bits are read back from the way in which they are written. -/
theorem parsePosition?_eq_some_iff (argument : Text) :
    (∀ line offset, parsePosition? argument = some (line, offset) ↔
      IsPosition argument line offset) ∧
    ∀ line offset, line < 2 ^ 64 → offset < 2 ^ 64 →
      parsePosition? (decimal line ++ ':' :: decimal offset) = some (line, offset) := by
  refine ⟨fun line offset => ⟨fun reads => ?_, ?_⟩, fun line offset lineFits offsetFits => ?_⟩
  · by_cases holds : ':' ∈ argument
    · obtain ⟨first, second, rfl, absent⟩ := List.eq_append_cons_of_mem holds
      exact ⟨first, second, rfl, (parsePosition?_append_colon absent second).mp reads⟩
    · rw [parsePosition?_of_not_mem holds] at reads
      contradiction
  · rintro ⟨first, second, rfl, isLine, isOffset⟩
    exact (parsePosition?_append_colon isLine.colon_not_mem second).mpr ⟨isLine, isOffset⟩
  · have isLine := Text.isSpacedNumeral_decimal lineFits
    have isOffset := Text.isSpacedNumeral_decimal offsetFits
    exact (parsePosition?_append_colon isLine.colon_not_mem _).mpr ⟨isLine, isOffset⟩

/-- The greatest line of all, behind a no-break space, with a sign and a leading zero, and an offset
that is followed by a line feed. -/
theorem parsePosition?_greatest :
    let argument := "\u00a0+018446744073709551615 : 7\n".toList
    let line := 18446744073709551615
    parsePosition? argument = some (line, 7) ∧ IsPosition argument line 7 ∧ line < 2 ^ 64 ∧
      parsePosition? (decimal line ++ ':' :: decimal 7) = some (line, 7) := by
  intro argument line
  have reads : parsePosition? argument = some (line, 7) := by decide +kernel
  have small : line < 2 ^ 64 := by decide
  have laws := parsePosition?_eq_some_iff argument
  exact ⟨reads, (laws.1 line 7).mp reads, small, laws.2 line 7 small (by decide)⟩

end Stylesheet
