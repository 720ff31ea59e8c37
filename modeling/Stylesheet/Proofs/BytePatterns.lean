import Stylesheet.Proofs.ByteCursor
import Stylesheet.Proofs.MaximalLexemes

/-!
# Patterns that count bytes

Patterns may be matched on a text that is cut at offsets in bytes of UTF-8, where a cut inside of a
character fails. The offsets are sums of lengths: of the white space or the names in front, and of
single characters. A `CuttingPattern` is such a pattern. It `Measures` a pattern over characters if
it never fails and gives the bytes of what the other one matches, and so do all patterns of the
scanner (`BytePattern.exists_measures`).
-/
namespace Stylesheet

open Pattern
open Text (utf8Length takeBytes? leading isBlank)

/-! ## Cuts -/

namespace Text

variable {belongs : Char → Bool} {text : Text}

/-- What is behind an offset of a text; `none` where the offset does not fall between characters. -/
def dropBytes? (bytes : Nat) (text : Text) : Option Text :=
  (takeBytes? bytes text).map fun first => text.drop first.length

/-- The bytes of a first part of a text cut off the rest. -/
theorem dropBytes?_append (first rest : Text) :
    dropBytes? (utf8Length first) (first ++ rest) = some rest := by
  rw [dropBytes?, takeBytes?_append, Option.map_some, List.drop_left]

/-- So do the bytes of some characters. -/
theorem dropBytes?_utf8Length_take (count : Nat) (text : Text) :
    dropBytes? (utf8Length (text.take count)) text = some (text.drop count) := by
  have cut := dropBytes?_append (text.take count) (text.drop count)
  rwa [List.take_append_drop] at cut

/-- The bytes of some characters are a place to cut. -/
theorem takeBytes?_utf8Length_take (count : Nat) (text : Text) :
    takeBytes? (utf8Length (text.take count)) text = some (text.take count) :=
  takeBytes?_eq_some_iff.mpr ⟨rfl, List.take_prefix count text⟩

/-- The bytes of the characters of a class at the front of a text. -/
def leadingBytes (belongs : Char → Bool) (text : Text) : Nat := utf8Length (text.takeWhile belongs)

/-- They are those of as many characters as there are. -/
theorem leadingBytes_eq (belongs : Char → Bool) (text : Text) :
    leadingBytes belongs text = utf8Length (text.take (leading belongs text)) := by
  rw [leadingBytes, leading, ← List.prefix_iff_eq_take.mp (List.takeWhile_prefix belongs)]

/-- So they cut off what is behind the characters. -/
theorem dropBytes?_leadingBytes (belongs : Char → Bool) (text : Text) :
    dropBytes? (leadingBytes belongs text) text = some (text.drop (leading belongs text)) := by
  rw [leadingBytes_eq, dropBytes?_utf8Length_take]

/-- There are some exactly if there are characters. -/
theorem leadingBytes_pos_iff : 0 < leadingBytes belongs text ↔ 0 < leading belongs text := by
  rw [leadingBytes, Nat.pos_iff_ne_zero, ne_eq, utf8Length_eq_zero_iff, leading,
    List.length_pos_iff]

/-- The bytes of the characters and of the one behind them. -/
theorem utf8Length_take_leading_add_one {c : Char}
    (next : (text.drop (leading belongs text)).head? = some c) :
    utf8Length (text.take (leading belongs text + 1)) = leadingBytes belongs text + c.utf8Size := by
  rw [take_leading_add_one next, utf8Length_append, leadingBytes_eq]
  rfl

/-- The bytes of two runs. -/
theorem utf8Length_take_add (left right : Nat) (text : Text) :
    utf8Length (text.take (left + right)) =
      utf8Length (text.take left) + utf8Length ((text.drop left).take right) := by
  rw [List.take_add, utf8Length_append]

/-- A pattern anchored at the front of a text that cuts it by bytes: `none` if a cut fails, and
otherwise the bytes of its match, if there is one. -/
abbrev CuttingPattern := Text → Option (Option Nat)

/-- A pattern that never fails and matches what a pattern over characters does. -/
def CuttingPattern.Measures (cutting : CuttingPattern) (pattern : Pattern) : Prop :=
  ∀ text, cutting text = some ((pattern text).map fun length => utf8Length (text.take length))

end Text

/-! ## The patterns of the scanner -/

namespace BytePattern

open Text (CuttingPattern dropBytes? leadingBytes)

/-- White space, then an expected character. -/
def blankThen? (expected : Char) : CuttingPattern := fun text => do
  let blank := leadingBytes isBlank text
  let rest ← dropBytes? blank text
  return if rest.head? = some expected then some (blank + expected.utf8Size) else none

/-- The word behind an exclamation mark. -/
def importantTail? : CuttingPattern := fun text => do
  let blank := leadingBytes isBlank text
  let rest ← dropBytes? blank text
  return some (blank + leadingBytes isWordChar rest)

/-- The rest of a custom property. -/
def customProperty? : CuttingPattern
  | '-' :: name =>
    let length := leadingBytes isIdentChar name
    some (if 0 < length then some (1 + length) else none)
  | _ => some none

/-- A colon with white space or nothing behind it. -/
def propertyColon? : CuttingPattern := fun text => do
  match ← blankThen? ':' text with
  | none => return none
  | some length =>
    match (← dropBytes? length text).head? with
    | none => return some length
    | some c => return if isBlank c then some (length + c.utf8Size) else none

/-- The rest of what stands in front of a vendor's names. -/
def vendorTail? : CuttingPattern := fun text => do
  let length := leadingBytes isWordChar text
  if 0 < length then
    return if (← dropBytes? length text).head? = some '-' then some (length + 1) else none
  else return none

/-- A class name. -/
def className? : CuttingPattern := fun text => do
  let dash := if text.head? = some '-' then 1 else 0
  match (← dropBytes? dash text).head? with
  | none => return none
  | some first =>
    if first.isAlpha || first == '_' then
      return some (dash + 1 + leadingBytes isNameChar (← dropBytes? (dash + 1) text))
    else return none

/-- What comes behind the first letter of `url` and `url-prefix`, with their parenthesis. -/
def urlTail? : CuttingPattern := fun text =>
  some ((["rl(", "rl-prefix("].find? (·.toList.isPrefixOf text)).map (utf8Length ·.toList))

/-- A quote or the end of an argument, behind white space. -/
def quoteOrClose? : CuttingPattern := fun text => do
  let blank := leadingBytes isBlank text
  match (← dropBytes? blank text).head? with
  | some '"' => return some (blank + 1)
  | some '\'' => return some (blank + 1)
  | some ')' => return some (blank + 1)
  | _ => return none

/-- The name of a variable behind a dollar sign. -/
def dollarName? : CuttingPattern := fun text =>
  let length := leadingBytes isNameChar text
  some (if 0 < length then some length else none)

/-- The name of an at-rule, as a whole word. -/
def atRuleName? : CuttingPattern := fun text => do
  let found ← atRuleNames.findM? fun name =>
    if name.toList.isPrefixOf text then do
      let rest ← dropBytes? (utf8Length name.toList) text
      return !rest.head?.any isWordChar
    else return false
  return found.map (utf8Length ·.toList)

/-- All patterns. -/
def all : List CuttingPattern :=
  [blankThen? ':', blankThen? '{', importantTail?, customProperty?, propertyColon?, vendorTail?,
    className?, urlTail?, quoteOrClose?, dollarName?, atRuleName?]

/-! ## What they match -/

/-- White space and what is behind it. -/
theorem measures_blankThen (expected : Char) :
    (blankThen? expected).Measures fun text =>
      if blankThen expected text then some (leading isBlank text + 1) else none := by
  intro text
  simp only [blankThen?, Text.dropBytes?_leadingBytes, Option.bind_eq_bind, Option.bind_some,
    Option.pure_def, blankThen, ← Text.drop_leading, beq_iff_eq]
  by_cases next : (text.drop (leading isBlank text)).head? = some expected
  · rw [if_pos next, if_pos next, Option.map_some, Text.utf8Length_take_leading_add_one next]
  · rw [if_neg next, if_neg next, Option.map_none]

theorem measures_importantTail :
    importantTail?.Measures fun text => some (importantTail text) := by
  intro text
  simp only [importantTail?, Text.dropBytes?_leadingBytes, Option.bind_eq_bind, Option.bind_some,
    Option.pure_def, Option.map_some, importantTail, Text.utf8Length_take_add,
    ← Text.leadingBytes_eq]

theorem measures_customProperty : customProperty?.Measures Pattern.customProperty? := by
  intro text
  unfold customProperty?
  split
  · next name =>
    simp only [Text.leadingBytes_pos_iff, Pattern.customProperty?]
    split
    · rw [Option.map_some, List.take_succ_cons, Text.utf8Length_cons, ← Text.leadingBytes_eq]
      rfl
    · rfl
  · next other =>
    have none : Pattern.customProperty? text = Option.none := by
      unfold Pattern.customProperty?
      split
      · next name => exact absurd rfl (other name)
      · rfl
    rw [none, Option.map_none]

/-- A character of ASCII is a byte. -/
theorem utf8Size_eq_one {c : Char} (ascii : c.isAscii = true) : c.utf8Size = 1 := by
  rw [Char.utf8Size_eq_one_iff, UInt32.le_iff_toNat_le]
  have bound : c.val.toNat < 128 := by simpa [Char.isAscii] using ascii
  exact Nat.le_of_lt_succ bound

/-- What is behind the white space at the front of a text. -/
theorem blankThen_eq (expected : Char) (text : Text) :
    blankThen expected text = ((text.drop (leading isBlank text)).head? == some expected) := by
  rw [blankThen, Text.drop_leading]

theorem measures_propertyColon :
    propertyColon?.Measures fun text =>
      if propertyColon text then some (leading isBlank text + 2) else none := by
  intro text
  simp only [propertyColon?, measures_blankThen ':' text, Option.bind_eq_bind, Option.bind_some,
    Option.pure_def, blankThen_eq, propertyColon, ← Text.drop_leading]
  cases rest : text.drop (leading isBlank text) with
  | nil => simp
  | cons c after =>
    by_cases colon : c = ':'
    · subst colon
      have behind : text.drop (leading isBlank text + 1) = after := by
        rw [← List.drop_drop, rest, List.drop_succ_cons, List.drop_zero]
      have twice : utf8Length (text.take (leading isBlank text + 2)) =
          utf8Length (text.take (leading isBlank text + 1)) + utf8Length (after.take 1) := by
        rw [← behind, ← Text.utf8Length_take_add]
      simp only [List.head?_cons, beq_self_eq_true, if_true, Option.map_some,
        Text.dropBytes?_utf8Length_take, behind, Option.bind_some]
      cases after with
      | nil => simp [twice]
      | cons next after => by_cases white : isBlank next <;> simp [white, twice]
    · simp [colon]

theorem measures_vendorTail : vendorTail?.Measures Pattern.vendorTail? := by
  intro text
  simp only [vendorTail?, Text.leadingBytes_pos_iff, Text.dropBytes?_leadingBytes,
    Option.bind_eq_bind, Option.bind_some, Option.pure_def, Pattern.vendorTail?,
    Bool.and_eq_true, decide_eq_true_eq, beq_iff_eq]
  by_cases some : 0 < leading isWordChar text
  · rw [if_pos some]
    by_cases next : (text.drop (leading isWordChar text)).head? = Option.some '-'
    · rw [if_pos next, if_pos ⟨some, next⟩, Option.map_some,
        Text.utf8Length_take_leading_add_one next]
      rfl
    · rw [if_neg next, if_neg (fun both => next both.2), Option.map_none]
  · rw [if_neg some, if_neg (fun both => some both.1), Option.map_none]

theorem measures_className : className?.Measures Pattern.className? := by
  intro text
  obtain ⟨dash, isDash, bytes⟩ : ∃ dash, (if text.head? = some '-' then 1 else 0) = dash ∧
      utf8Length (text.take dash) = dash := by
    refine ⟨_, rfl, ?_⟩
    split
    · next dashed =>
      obtain ⟨name, rfl⟩ := List.head?_eq_some_iff.mp dashed
      rfl
    · rfl
  have behindDash := Text.dropBytes?_utf8Length_take dash text
  rw [bytes] at behindDash
  simp only [className?, Pattern.className?, beq_iff_eq, isDash, behindDash, Option.bind_eq_bind,
    Option.bind_some, Option.pure_def]
  cases named : text.drop dash with
  | nil => rfl
  | cons first name =>
    simp only [List.head?_cons]
    by_cases starts : (first.isAlpha || first == '_') = true
    · have letter : first.isAlpha = true ∨ first = '_' := by simpa using starts
      have ascii : first.utf8Size = 1 :=
        utf8Size_eq_one (isAscii_of_isIdentChar (isIdentChar_of_isNameChar
          (isNameChar_of_first letter)))
      have upTo : utf8Length (text.take (dash + 1)) = dash + 1 := by
        rw [Text.utf8Length_take_add, named, bytes, List.take_succ_cons, Text.utf8Length_cons,
          ascii]
        rfl
      have behind := Text.dropBytes?_utf8Length_take (dash + 1) text
      rw [upTo, ← List.drop_drop, named, List.drop_succ_cons, List.drop_zero] at behind
      rw [if_pos starts, if_pos starts, behind, Option.bind_some, Option.map_some,
        Text.utf8Length_take_add, upTo, ← List.drop_drop, named, List.drop_succ_cons,
        List.drop_zero, Text.leadingBytes_eq]
    · rw [if_neg starts, if_neg starts, Option.map_none]

/-- The bytes of a word that is found at the front of a text are those of its characters there. -/
theorem map_utf8Length_find? {words : List String} {holds : String → Bool} {text : Text}
    (isFirst : ∀ word ∈ words, holds word = true → word.toList <+: text) :
    (words.find? holds).map (utf8Length ·.toList) =
      ((words.find? holds).map String.length).map fun length => utf8Length (text.take length) := by
  cases found : words.find? holds with
  | none => rfl
  | some word =>
    have front := isFirst word (List.mem_of_find?_eq_some found) (List.find?_some found)
    have same := List.prefix_iff_eq_take.mp front
    rw [String.length_toList] at same
    rw [Option.map_some, Option.map_some, Option.map_some, ← same]

theorem measures_urlTail :
    urlTail?.Measures fun text =>
      (["rl(", "rl-prefix("].find? (·.toList.isPrefixOf text)).map String.length := by
  intro text
  exact congrArg some (map_utf8Length_find? fun _ _ => List.isPrefixOf_iff_prefix.mp)

theorem measures_quoteOrClose :
    quoteOrClose?.Measures fun text =>
      if quoteOrClose text then some (leading isBlank text + 1) else none := by
  intro text
  simp only [quoteOrClose?, Text.dropBytes?_leadingBytes, Option.bind_eq_bind, Option.bind_some,
    Option.pure_def, quoteOrClose, blankThen_eq]
  cases rest : (text.drop (leading isBlank text)).head? with
  | none => rfl
  | some c =>
    have upTo := Text.utf8Length_take_leading_add_one rest
    split
    · next isQuote =>
      obtain rfl := Option.some.inj isQuote
      simp [upTo]
      rfl
    · next isQuote =>
      obtain rfl := Option.some.inj isQuote
      simp [upTo]
      rfl
    · next isParen =>
      obtain rfl := Option.some.inj isParen
      simp [upTo]
      rfl
    · next noDouble noSingle noParen =>
      have other : ((some c == some '"') || (some c == some '\'') || (some c == some ')')) =
          false := by
        rw [Bool.or_eq_false_iff, Bool.or_eq_false_iff]
        exact ⟨⟨beq_false_of_ne noDouble, beq_false_of_ne noSingle⟩, beq_false_of_ne noParen⟩
      rw [other]
      rfl

theorem measures_dollarName :
    dollarName?.Measures fun text =>
      if 0 < leading isNameChar text then some (leading isNameChar text) else none := by
  intro text
  simp only [dollarName?, Text.leadingBytes_pos_iff]
  split
  · rw [Option.map_some, Text.leadingBytes_eq]
  · rfl

theorem measures_atRuleName :
    atRuleName?.Measures fun text =>
      (atRuleNames.find? fun name => name.toList.isPrefixOf text &&
        !(text.drop name.length).head?.any isWordChar).map String.length := by
  intro text
  have tells : (fun name : String =>
      if name.toList.isPrefixOf text then do
        let rest ← dropBytes? (utf8Length name.toList) text
        return !rest.head?.any isWordChar
      else (return false : Option Bool)) =
      fun name => pure (name.toList.isPrefixOf text &&
        !(text.drop name.length).head?.any isWordChar) := by
    funext name
    cases isFirst : name.toList.isPrefixOf text with
    | false => rfl
    | true =>
      obtain ⟨rest, rfl⟩ := List.isPrefixOf_iff_prefix.mp isFirst
      have behind : (name.toList ++ rest).drop name.length = rest := by
        rw [← String.length_toList, List.drop_left]
      rw [if_pos rfl, Text.dropBytes?_append, behind, Bool.true_and]
      rfl
  rw [atRuleName?, tells, List.findM?_pure, Option.pure_def, Option.bind_eq_bind, Option.bind_some]
  refine congrArg some (map_utf8Length_find? fun word _ holds => ?_)
  exact List.isPrefixOf_iff_prefix.mp (Bool.and_eq_true_iff.mp holds).1

/-- None of them ever fails. -/
theorem exists_measures : ∀ cutting ∈ all, ∃ pattern, CuttingPattern.Measures cutting pattern := by
  simp only [all, List.forall_mem_cons]
  exact ⟨⟨_, measures_blankThen ':'⟩, ⟨_, measures_blankThen '{'⟩, ⟨_, measures_importantTail⟩,
    ⟨_, measures_customProperty⟩, ⟨_, measures_propertyColon⟩, ⟨_, measures_vendorTail⟩,
    ⟨_, measures_className⟩, ⟨_, measures_urlTail⟩, ⟨_, measures_quoteOrClose⟩,
    ⟨_, measures_dollarName⟩, ⟨_, measures_atRuleName⟩, by simp⟩

end BytePattern

end Stylesheet
