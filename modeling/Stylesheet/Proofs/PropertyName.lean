import Mathlib.Data.List.DropRight
import Stylesheet.Completion

/-!
# The name in front of a colon

In a value, completion asks for the property whose value it is. `Completion.propertyName` finds its
name by words: it puts a space behind every brace and semicolon in front of the last colon and takes
the last word there. So the name is the longest run of characters at the end of that text that no
white space, brace or semicolon interrupts, whatever stands in front of the run
(`Completion.propertyName_recovers`).
-/
namespace Stylesheet

open Text (isBlank words words_append words_append_of_blank words_of_forall utf8Length takeBytes?
  takeBytes?_eq_some_iff)

namespace Text

/-! ## Up to an offset -/

/-- What stands in front of an offset of a text: the first part of so many bytes, and where there is
none, past the end or inside a character, the whole text. -/
structure IsBefore (offset : Nat) (text front : Text) : Prop where
  cut : ∀ first, first <+: text → utf8Length first = offset → front = first
  whole : (∀ first, first <+: text → utf8Length first ≠ offset) → front = text

/-- It is what is cut off. -/
theorem isBefore_before (offset : Nat) (text : Text) :
    IsBefore offset text (before offset text) where
  cut first isFirst bytes := by
    rw [before, takeBytes?_eq_some_iff.mpr ⟨bytes, isFirst⟩, Option.getD_some]
  whole none := by
    have uncut : takeBytes? offset text = Option.none := by
      refine Option.eq_none_iff_forall_ne_some.mpr fun first cut => ?_
      obtain ⟨bytes, isFirst⟩ := takeBytes?_eq_some_iff.mp cut
      exact none first isFirst bytes
    rw [before, uncut, Option.getD_none]

/-! ## The longest run at the end -/

/-- The longest run of characters of a class at the end of a text. -/
structure LongestEnd (belongs : Char → Bool) (text run : Text) : Prop where
  suffix : run <:+ text
  members : ∀ c ∈ run, belongs c = true
  /-- No other such run is longer. -/
  longest : ∀ other, other <:+ text → (∀ c ∈ other, belongs c = true) → other <:+ run

/-- What is taken from the end is the longest such run. -/
theorem longestEnd_rtakeWhile (belongs : Char → Bool) (text : Text) :
    LongestEnd belongs text (text.rtakeWhile belongs) where
  suffix := text.rtakeWhile_suffix belongs
  members _ := List.mem_rtakeWhile_imp
  longest := by
    rintro other ⟨front, rfl⟩ inside
    have reversed : ∀ c ∈ other.reverse, belongs c = true :=
      fun c isChar => inside c (List.mem_reverse.mp isChar)
    refine ⟨(front.reverse.takeWhile belongs).reverse, ?_⟩
    rw [List.rtakeWhile, List.reverse_append, List.takeWhile_append_of_pos reversed,
      List.reverse_append, List.reverse_reverse]

/-- In front of what is taken from the end stands a character of another class, if any. -/
theorem of_getLast?_rdropWhile {belongs : Char → Bool} {text : Text} {c : Char}
    (last : (text.rdropWhile belongs).getLast? = some c) : belongs c = false := by
  obtain ⟨front, split⟩ := List.getLast?_eq_some_iff.mp last
  have nonempty : text.rdropWhile belongs ≠ [] := by simp [split]
  have other := List.rdropWhile_last_not belongs text nonempty
  simpa [split] using other

end Text

namespace Completion

/-! ## Spaces behind braces and semicolons -/

/-- Whether a character is a brace or a semicolon, which ends a word. -/
def isStop (c : Char) : Bool := c == '{' || c == ';'

/-- Whether a character may stand in a name. -/
def inName (c : Char) : Bool := !(isBlank c || isStop c)

theorem inName_iff {c : Char} : inName c = true ↔ isBlank c = false ∧ isStop c = false := by
  rw [inName, Bool.not_eq_true', Bool.or_eq_false_iff]

/-- A text with a space behind every brace and semicolon. -/
def spaced (text : Text) : Text := text.flatMap fun c => if isStop c then [c, ' '] else [c]

/-- No space is put into a text without them. -/
theorem spaced_of_forall {text : Text} (free : ∀ c ∈ text, isStop c = false) :
    spaced text = text := by
  induction text with
  | nil => rfl
  | cons c text ih =>
    obtain ⟨here, later⟩ := List.forall_mem_cons.mp free
    have rest : spaced (c :: text) = (if isStop c then [c, ' '] else [c]) ++ spaced text :=
      List.flatMap_cons
    rw [rest, here, ih later]
    rfl

theorem spaced_append (first second : Text) :
    spaced (first ++ second) = spaced first ++ spaced second :=
  List.flatMap_append

/-- Neither of them is white space. -/
theorem isBlank_of_isStop {c : Char} (stop : isStop c = true) : isBlank c = false := by
  have either : c = '{' ∨ c = ';' := by
    simpa only [isStop, Bool.or_eq_true, beq_iff_eq] using stop
  rcases either with rfl | rfl <;> decide

/-- White space is neither of them. -/
theorem isStop_of_isBlank {c : Char} (blank : isBlank c = true) : isStop c = false := by
  refine Bool.eq_false_iff.mpr fun stop => ?_
  rw [isBlank_of_isStop stop] at blank
  contradiction

/-- White space at the end makes no difference. -/
theorem words_spaced_rdropWhile (front : Text) :
    words (spaced (front.rdropWhile isBlank)) = words (spaced front) := by
  have blank : ∀ c ∈ front.rtakeWhile isBlank, isBlank c = true :=
    fun _ => List.mem_rtakeWhile_imp
  have free : spaced (front.rtakeWhile isBlank) = front.rtakeWhile isBlank :=
    spaced_of_forall fun c isChar => isStop_of_isBlank (blank c isChar)
  conv_rhs => rw [← List.rdropWhile_append_rtakeWhile (p := isBlank) (l := front)]
  rw [spaced_append, free, words_append_of_blank blank]

/-- Behind a character that cannot stand in a name there is white space then. -/
theorem exists_spaced_concat {c : Char} (other : inName c = false) (text : Text) :
    ∃ front blank, isBlank blank = true ∧ spaced (text ++ [c]) = front ++ [blank] := by
  rw [spaced_append]
  cases stop : isStop c with
  | true =>
    refine ⟨spaced text ++ [c], ' ', by decide, ?_⟩
    simp [spaced, stop]
  | false =>
    refine ⟨spaced text, c, by simpa [inName, stop] using other, ?_⟩
    simp [spaced, stop]

/-- So what stands behind it, or at the start, is a word of its own. -/
theorem words_spaced_append {front word : Text}
    (starts : ∀ c, front.getLast? = some c → inName c = false) (nonempty : word ≠ [])
    (black : ∀ c ∈ word, isBlank c = false) :
    words (spaced front ++ word) = words (spaced front) ++ [word] := by
  have single : words word = [word] := words_of_forall nonempty black
  cases front using List.reverseRecOn with
  | nil => exact single
  | append_singleton front c =>
    obtain ⟨behind, blank, isBlank, same⟩ :=
      exists_spaced_concat (starts c List.getLast?_concat) front
    have trimmed : words (behind ++ [blank]) = words behind :=
      words_append_of_blank (by simpa using isBlank) behind
    rw [same, trimmed, List.append_assoc, List.singleton_append, words_append isBlank, single]

/-! ## The last word -/

/-- What is taken for the name at the end of a text. -/
def lastName (text : Text) : Text := (words (spaced text)).getLast?.getD []

/-- White space at the end makes no difference. -/
theorem lastName_rdropWhile (front : Text) :
    lastName (front.rdropWhile isBlank) = lastName front := by
  rw [lastName, words_spaced_rdropWhile, lastName]

/-- The longest run in front of what ends a text is taken together with it. -/
theorem lastName_append {stem tail blanks : Text} (spacedTail : spaced tail = tail ++ blanks)
    (blank : ∀ c ∈ blanks, isBlank c = true) (black : ∀ c ∈ tail, isBlank c = false)
    (nonempty : stem.rtakeWhile inName ++ tail ≠ []) :
    lastName (stem ++ tail) = stem.rtakeWhile inName ++ tail := by
  have inside : ∀ c ∈ stem.rtakeWhile inName, isBlank c = false ∧ isStop c = false :=
    fun _ isChar => inName_iff.mp (List.mem_rtakeWhile_imp isChar)
  have whole : spaced (stem ++ tail) =
      (spaced (stem.rdropWhile inName) ++ (stem.rtakeWhile inName ++ tail)) ++ blanks := by
    conv_lhs => rw [← List.rdropWhile_append_rtakeWhile (p := inName) (l := stem)]
    rw [spaced_append, spaced_append, spacedTail,
      spaced_of_forall fun c isChar => (inside c isChar).2]
    simp only [List.append_assoc]
  have word : ∀ c ∈ stem.rtakeWhile inName ++ tail, isBlank c = false :=
    List.forall_mem_append.mpr ⟨fun c isChar => (inside c isChar).1, black⟩
  rw [lastName, whole, words_append_of_blank blank,
    words_spaced_append (fun _ => Text.of_getLast?_rdropWhile) nonempty word,
    List.getLast?_concat, Option.getD_some]

/-- The name at the end of a text, white space behind it left out. -/
structure NamedBy (front name : Text) : Prop where
  /-- It is the longest run there that nothing interrupts, if there is one. -/
  run : let stem := front.rdropWhile isBlank
    (∃ run, run ≠ [] ∧ run <:+ stem ∧ ∀ c ∈ run, inName c = true) →
      Text.LongestEnd inName stem name
  /-- A brace or semicolon at the end is taken together with the run in front of it. -/
  stop : ∀ stem c, front.rdropWhile isBlank = stem ++ [c] → isStop c = true →
    ∃ run, Text.LongestEnd inName stem run ∧ name = run ++ [c]
  /-- There is none in white space. -/
  blank : front.rdropWhile isBlank = [] → name = []

/-- The last word is the name. -/
theorem namedBy_lastName (front : Text) : NamedBy front (lastName front) where
  run := by
    rintro stem ⟨other, nonempty, isEnd, inside⟩
    have longest := Text.longestEnd_rtakeWhile inName stem
    have found : stem.rtakeWhile inName ≠ [] := by
      intro none
      have shorter := longest.longest other isEnd inside
      rw [none] at shorter
      exact nonempty (List.suffix_nil.mp shorter)
    have none : spaced [] = [] ++ [] := rfl
    have taken : lastName (stem ++ []) = stem.rtakeWhile inName ++ [] :=
      lastName_append none nofun nofun (by simpa using found)
    rw [List.append_nil, List.append_nil, lastName_rdropWhile] at taken
    rwa [taken]
  stop := by
    intro stem c split stop
    have space : spaced [c] = [c] ++ [' '] := by simp [spaced, stop]
    have taken : lastName (stem ++ [c]) = stem.rtakeWhile inName ++ [c] :=
      lastName_append space (List.forall_mem_singleton.mpr (by decide))
        (List.forall_mem_singleton.mpr (isBlank_of_isStop stop)) (by simp)
    rw [← split, lastName_rdropWhile] at taken
    exact ⟨_, Text.longestEnd_rtakeWhile inName stem, taken⟩
  blank := by
    intro blank
    rw [← lastName_rdropWhile, blank]
    rfl

/-! ## The last colon -/

variable {line front back : Text} {offset : Nat}

/-- A search from the end passes over a text without colons. -/
theorem noColon_reverse {text : Text} (absent : ':' ∉ text) :
    ∀ c ∈ text.reverse, (c != ':') = true := by
  intro c isChar
  refine bne_iff_ne.mpr fun same => absent ?_
  rw [← same]
  exact List.mem_reverse.mp isChar

/-- Without a colon in front of the offset there is no name. -/
theorem propertyName_of_not_mem (absent : ':' ∉ Text.before offset line) :
    propertyName line offset = [] := by
  have none : (Text.before offset line).reverse.dropWhile (· != ':') = [] :=
    List.dropWhile_eq_nil_iff.mpr (noColon_reverse absent)
  rw [propertyName, none]

/-- In front of the last colon stands the name. -/
theorem propertyName_of_append (split : Text.before offset line = front ++ ':' :: back)
    (last : ':' ∉ back) : propertyName line offset = lastName front := by
  have found : (Text.before offset line).reverse.dropWhile (· != ':') = ':' :: front.reverse := by
    rw [split, List.reverse_append, List.reverse_cons, List.append_assoc,
      List.dropWhile_append_of_pos (noColon_reverse last)]
    rfl
  rw [propertyName, found]
  simp only [List.reverse_reverse]
  rfl

/-- What is found in a text as the name of a property. -/
structure Recovers (text name : Text) : Prop where
  /-- Without a colon there is none. -/
  absent : ':' ∉ text → name = []
  /-- Else it is the name in front of the last colon. -/
  named : ∀ front back, text = front ++ ':' :: back → ':' ∉ back → NamedBy front name

/-- In front of every offset of every line the name left of the last colon is found. -/
theorem propertyName_recovers (line : Text) (offset : Nat) :
    ∃ text, Text.IsBefore offset line text ∧ Recovers text (propertyName line offset) := by
  refine ⟨Text.before offset line, Text.isBefore_before offset line, ?_⟩
  exact {
    absent := propertyName_of_not_mem
    named := by
      intro front back split last
      rw [propertyName_of_append split last]
      exact namedBy_lastName front }

/-- A brace in front of a name does not belong to it, and a colon within does. -/
example : propertyName "x\x7ba:b :c".toList 8 = "a:b".toList := by decide

end Completion

end Stylesheet
