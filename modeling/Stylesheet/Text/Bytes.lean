import Stylesheet.Text.Basic

/-!
# Byte offsets

A host counts positions in the bytes of UTF-8, while the library reads characters. `utf8Length`
measures a text and `takeBytes?` cuts one at a byte offset that falls between two characters.
-/
namespace Stylesheet.Text

/-- The number of bytes of a text in UTF-8. -/
def utf8Length (text : Text) : Nat := text.foldr (fun c length => c.utf8Size + length) 0

@[simp] theorem utf8Length_nil : utf8Length [] = 0 := rfl

@[simp] theorem utf8Length_cons (c : Char) (text : Text) :
    utf8Length (c :: text) = c.utf8Size + utf8Length text := rfl

@[simp] theorem utf8Length_append (left right : Text) :
    utf8Length (left ++ right) = utf8Length left + utf8Length right := by
  induction left with
  | nil => simp
  | cons c left ih => rw [List.cons_append, utf8Length_cons, utf8Length_cons, ih, Nat.add_assoc]

/-- A text has as many bytes backwards. -/
@[simp] theorem utf8Length_reverse (text : Text) : utf8Length text.reverse = utf8Length text := by
  induction text with
  | nil => rfl
  | cons c text ih => simp [ih, Nat.add_comm]

/-- A text without bytes has no characters. -/
theorem utf8Length_eq_zero_iff {text : Text} : utf8Length text = 0 ↔ text = [] := by
  cases text with
  | nil => simp
  | cons c text => have := c.utf8Size_pos; simp; omega

/-- The first characters of a text that take up exactly `bytes` bytes; `none` when the offset
lies past the end or inside a character. -/
def takeBytes? : Nat → Text → Option Text
  | 0, _ => some []
  | _ + 1, [] => none
  | bytes + 1, c :: text =>
    if c.utf8Size ≤ bytes + 1 then (takeBytes? (bytes + 1 - c.utf8Size) text).map (c :: ·)
    else none

/-- The bytes of a first part of a text cut that part off. -/
theorem takeBytes?_append (left right : Text) :
    takeBytes? (utf8Length left) (left ++ right) = some left := by
  induction left with
  | nil => simp [takeBytes?]
  | cons c left ih =>
    obtain ⟨size, sized⟩ := Nat.exists_eq_succ_of_ne_zero (Nat.pos_iff_ne_zero.mp c.utf8Size_pos)
    rw [utf8Length_cons, sized, Nat.succ_add, List.cons_append, takeBytes?, sized]
    simp [ih, show size + utf8Length left + 1 - (size + 1) = utf8Length left by omega]

/-- What is cut off at a byte offset is a first part of the text, of that many bytes. -/
theorem takeBytes?_eq_some_iff {bytes : Nat} {text first : Text} :
    takeBytes? bytes text = some first ↔ utf8Length first = bytes ∧ first <+: text := by
  constructor
  · fun_induction takeBytes? bytes text generalizing first with
    | case1 => rintro ⟨rfl⟩; simp
    | case2 => simp
    | case3 bytes c text fits ih =>
      intro cut
      obtain ⟨rest, inner, rfl⟩ := Option.map_eq_some_iff.mp cut
      obtain ⟨length, isFirst⟩ := ih inner
      exact ⟨by rw [utf8Length_cons]; omega, List.cons_prefix_cons.mpr ⟨rfl, isFirst⟩⟩
    | case4 => simp
  · rintro ⟨rfl, rest, rfl⟩
    exact takeBytes?_append first rest

/-- The text before a byte offset, or the whole text when the offset does not fall between two
of its characters. -/
def before (bytes : Nat) (text : Text) : Text := (takeBytes? bytes text).getD text

end Stylesheet.Text
