import Stylesheet.Text.Quoted

/-!
# Quoted texts are read back

Nothing inside quotes is a line feed or a tab, so that a quoted text stands on one line and in one
field of a listing (`Text.isField_quote`), and quotes keep all of the text (`Text.unquote?_quote`).
`Text.unescape?` goes from character to character and remembers how much of an escape it has seen; a
code point is put together digit by digit.
-/
namespace Stylesheet.Text

/-- How much was read of a character that is written with more than one. -/
inductive Escape where
  /-- Nothing. -/
  | none
  /-- A backslash. -/
  | backslash
  /-- A backslash and the letter of a code point. -/
  | letter
  /-- A code point up to some digit. -/
  | code (value : Nat)
  deriving DecidableEq, Repr

/-- The characters that have a letter of their own. -/
def escapes : List (Char × Char) :=
  [('"', '"'), ('\\', '\\'), ('n', '\n'), ('r', '\r'), ('t', '\t'), ('0', '\x00')]

/-- The value of a hexadecimal digit. -/
def hexDigit? (c : Char) : Option Nat :=
  if c.isDigit then some (c.toNat - '0'.toNat)
  else if 'a' ≤ c ∧ c ≤ 'f' then some (c.toNat - 'a'.toNat + 10)
  else .none

/-- What is written up to the quote that ends a text. Nothing is behind the quote. -/
def unescape? : Escape → Text → Option Text
  | _, [] => .none
  | .none, '"' :: rest => if rest = [] then some [] else .none
  | .none, '\\' :: rest => unescape? .backslash rest
  | .none, c :: rest => (unescape? .none rest).map (c :: ·)
  | .backslash, 'u' :: rest => unescape? .letter rest
  | .backslash, c :: rest =>
    (escapes.lookup c).bind fun meant => (unescape? .none rest).map (meant :: ·)
  | .letter, c :: rest => if c = '{' then unescape? (.code 0) rest else .none
  | .code value, '}' :: rest => (unescape? .none rest).map (Char.ofNat value :: ·)
  | .code value, c :: rest =>
    (hexDigit? c).bind fun digit => unescape? (.code (16 * value + digit)) rest

/-- The text that is written between quotes. -/
def unquote? : Text → Option Text
  | '"' :: rest => unescape? .none rest
  | _ => none

/-- A digit of a code point is read as its value, and is not the brace that ends a code point. -/
theorem hexDigit?_digitChar : ∀ digit < 16,
    hexDigit? (Nat.digitChar digit) = some digit ∧ Nat.digitChar digit ≠ '}' := by
  decide

/-- One digit more of a code point. -/
theorem unescape?_digitChar {digit : Nat} (small : digit < 16) (value : Nat) (rest : Text) :
    unescape? (.code value) (Nat.digitChar digit :: rest) =
      unescape? (.code (16 * value + digit)) rest := by
  obtain ⟨isDigit, notEnd⟩ := hexDigit?_digitChar digit small
  rw [unescape?, isDigit, Option.bind_some]
  exact notEnd

/-- The digits of a code point are read as the code point. -/
theorem unescape?_toDigits (value : Nat) (rest : Text) :
    unescape? (.code 0) (Nat.toDigits 16 value ++ rest) = unescape? (.code value) rest := by
  induction value using Nat.strongRecOn generalizing rest with
  | ind value ih =>
    rw [Nat.toDigits_eq_if (by decide)]
    split
    · next small =>
      rw [List.singleton_append, unescape?_digitChar small, Nat.mul_zero, Nat.zero_add]
    · next large =>
      rw [List.append_assoc, ih (value / 16) (by omega), List.singleton_append,
        unescape?_digitChar (Nat.mod_lt value (by decide)), Nat.div_add_mod]

/-- The ways to write a character inside quotes. -/
inductive Writes (c : Char) : Text → Prop
  /-- A character with a letter of its own. -/
  | letter {letter : Char} (isEscape : (letter, c) ∈ escapes) : Writes c ['\\', letter]
  /-- The code point between braces. -/
  | code : Writes c (['\\', 'u', '{'] ++ Nat.toDigits 16 c.toNat ++ ['}'])
  /-- The character itself. -/
  | plain (noEscape : c ∉ escapes.map Prod.snd) : Writes c [c]

/-- A character with a letter of its own is written with it. -/
theorem quoteChar_of_mem_escapes :
    ∀ escape ∈ escapes, quoteChar escape.2 = ['\\', escape.1] := by
  decide

/-- A character inside quotes is written in one of these ways. -/
theorem writes_quoteChar (c : Char) : Writes c (quoteChar c) := by
  by_cases isEscape : c ∈ escapes.map Prod.snd
  · obtain ⟨⟨letter, meant⟩, isPair, rfl⟩ := List.mem_map.mp isEscape
    rw [quoteChar_of_mem_escapes (letter, meant) isPair]
    exact .letter isPair
  · have other : quoteChar c = if isUnprintable c then
        ['\\', 'u', '{'] ++ Nat.toDigits 16 c.toNat ++ ['}'] else [c] := by
      have differs := isEscape
      simp only [escapes, List.map_cons, List.map_nil, List.mem_cons, List.not_mem_nil, or_false,
        not_or] at differs
      simp only [quoteChar, differs, if_false]
    rw [other]
    split
    · exact .code
    · exact .plain isEscape

/-- The letter of a character is not that of a code point, and means the character. -/
theorem lookup_escapes :
    ∀ escape ∈ escapes, escape.1 ≠ 'u' ∧ escapes.lookup escape.1 = some escape.2 := by
  decide

/-- A character is read back from what stands for it inside quotes. -/
theorem unescape?_quoteChar (c : Char) (rest : Text) :
    unescape? .none (quoteChar c ++ rest) = (unescape? .none rest).map (c :: ·) := by
  have writes := writes_quoteChar c
  generalize quoteChar c = written at writes ⊢
  cases writes with
  | @letter letter isEscape =>
    obtain ⟨notCode, meant⟩ := lookup_escapes _ isEscape
    have opened : unescape? .none (['\\', letter] ++ rest) =
        unescape? .backslash (letter :: rest) := rfl
    rw [opened, unescape?, meant, Option.bind_some]
    exact notCode
  | code =>
    -- The digits are read alike in front of anything, so also in front of the closing brace.
    have opened : ∀ digits, unescape? .none (['\\', 'u', '{'] ++ digits) =
        unescape? (.code 0) digits := fun _ => rfl
    rw [List.append_assoc, List.append_assoc, opened, unescape?_toDigits, List.singleton_append,
      unescape?, Char.ofNat_toNat]
  | plain noEscape =>
    rw [List.singleton_append, unescape?]
    · rintro rfl
      exact noEscape (by decide)
    · rintro rfl
      exact noEscape (by decide)

/-- A text is read back from what stands for it between quotes. -/
theorem unquote?_quote (text : Text) : unquote? (quote text) = some text := by
  have inside : ∀ rest, unescape? .none (text.flatMap quoteChar ++ rest) =
      (unescape? .none rest).map (text ++ ·) := by
    induction text with
    | nil => simp
    | cons c text ih =>
      intro rest
      rw [List.flatMap_cons, List.append_assoc, unescape?_quoteChar, ih, Option.map_map]
      rfl
  have ends : unescape? .none ['"'] = some [] := rfl
  rw [quote, List.cons_append, unquote?, inside, ends, Option.map_some, List.append_nil]

/-- A text that can be a field of a listing: nothing in it ends the field or the line. -/
def IsField (text : Text) : Prop := '\t' ∉ text ∧ '\n' ∉ text

instance : DecidablePred IsField := fun _ => inferInstanceAs (Decidable (_ ∧ _))

/-- Fields one behind the other are a field. -/
theorem isField_append {left right : Text} :
    IsField (left ++ right) ↔ IsField left ∧ IsField right := by
  simp only [IsField, List.mem_append, not_or]
  exact and_and_and_comm

/-- The digits of a code point are a field. -/
theorem isField_toDigits (value : Nat) : IsField (Nat.toDigits 16 value) := by
  have digits : ∀ digit < 16, IsField [Nat.digitChar digit] := by decide
  induction value using Nat.strongRecOn with
  | ind value ih =>
    rw [Nat.toDigits_eq_if (by decide)]
    split
    · next small => exact digits value small
    · next large =>
      exact isField_append.mpr
        ⟨ih (value / 16) (by omega), digits (value % 16) (Nat.mod_lt value (by decide))⟩

/-- What is written for a character is a field, even where the character is none. -/
theorem isField_quoteChar (c : Char) : IsField (quoteChar c) := by
  have writes := writes_quoteChar c
  generalize quoteChar c = written at writes
  cases writes with
  | @letter letter isEscape =>
    have letters : ∀ escape ∈ escapes, IsField ['\\', escape.1] := by decide
    exact letters _ isEscape
  | code =>
    exact isField_append.mpr
      ⟨isField_append.mpr ⟨by decide, isField_toDigits c.toNat⟩, by decide⟩
  | plain noEscape =>
    constructor
    · intro isTab
      rw [← List.mem_singleton.mp isTab] at noEscape
      exact noEscape (by decide)
    · intro isNewline
      rw [← List.mem_singleton.mp isNewline] at noEscape
      exact noEscape (by decide)

/-- A quoted text is a field. -/
theorem isField_quote (text : Text) : IsField (quote text) := by
  have inside : IsField (text.flatMap quoteChar) := by
    induction text with
    | nil => decide
    | cons c text ih => exact isField_append.mpr ⟨isField_quoteChar c, ih⟩
  have quoted : quote text = ['"'] ++ text.flatMap quoteChar ++ ['"'] := rfl
  have mark : IsField ['"'] := by decide
  rw [quoted, isField_append, isField_append]
  exact ⟨⟨mark, inside⟩, mark⟩

end Stylesheet.Text
