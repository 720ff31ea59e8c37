import Stylesheet.Command.Options
import Stylesheet.Proofs.Numerals

/-!
# What arguments mean

An argument of a command is a flag, an option with a value behind an equals sign, or no option: then
it does not start with a dash. A dialect is chosen by one of its names, in any case, and no two
dialects share one; a count of columns is a numeral. `Argument.Means` says what an argument means by
itself and `Argument.Faults` why it means nothing. Every argument has a meaning or a fault, never
both, and `read` finds it.
-/
namespace Stylesheet

open Text (equalIgnoringCase IsNumeral numeral?)

/-! ## Names of dialects -/

namespace Dialect

/-- A name of a dialect, in any case: its short one or its media type. -/
def IsNamed (dialect : Dialect) (name : Text) : Prop :=
  equalIgnoringCase name dialect.name.toList = true ∨
    equalIgnoringCase name dialect.mediaType.toList = true

/-- No two dialects share a name, in any case. -/
theorem IsNamed.unique {name : Text} {left right : Dialect} (isLeft : left.IsNamed name)
    (isRight : right.IsNamed name) : left = right := by
  have distinct : ∀ first ∈ [left.name, left.mediaType], ∀ second ∈ [right.name, right.mediaType],
      first.toList.map Char.toLower = second.toList.map Char.toLower → left = right := by
    cases left <;> cases right <;> decide +kernel
  have folded : ∀ {dialect : Dialect}, dialect.IsNamed name →
      ∃ own ∈ [dialect.name, dialect.mediaType],
        name.map Char.toLower = own.toList.map Char.toLower := by
    rintro dialect (short | long)
    · exact ⟨dialect.name, List.mem_cons_self, eq_of_beq short⟩
    · exact ⟨dialect.mediaType, List.mem_cons_of_mem _ List.mem_cons_self, eq_of_beq long⟩
  obtain ⟨first, isFirst, same⟩ := folded isLeft
  obtain ⟨second, isSecond, alike⟩ := folded isRight
  exact distinct first isFirst second isSecond (same.symm.trans alike)

/-- The dialect of a name is the one that has it. -/
theorem ofName?_eq_some_iff {name : Text} {dialect : Dialect} :
    ofName? name = some dialect ↔ dialect.IsNamed name := by
  constructor
  · intro found
    have holds := List.find?_some found
    simpa [IsNamed] using holds
  · intro named
    have listed : dialect ∈ all := by cases dialect <;> decide
    cases found : ofName? name with
    | none =>
      have unnamed := List.find?_eq_none.mp found dialect listed
      rw [Bool.or_eq_true] at unnamed
      contradiction
    | some other =>
      have holds := List.find?_some found
      rw [Bool.or_eq_true] at holds
      exact congrArg some (IsNamed.unique holds named)

/-- Without such a dialect the name is refused. -/
theorem named_eq_ok_iff {name : Text} {dialect : Dialect} :
    named name = .ok dialect ↔ dialect.IsNamed name := by
  rw [named, ← ofName?_eq_some_iff]
  cases ofName? name <;> simp

/-- The name is reported. -/
theorem named_eq_error_iff {name : Text} {cause : ModeError} :
    named name = .error cause ↔
      (∀ dialect : Dialect, ¬dialect.IsNamed name) ∧ cause = .unknownDialect name := by
  have unnamed : ofName? name = none ↔ ∀ dialect : Dialect, ¬dialect.IsNamed name := by
    simp only [Option.eq_none_iff_forall_ne_some, ne_eq, ofName?_eq_some_iff]
  rw [named, ← unnamed]
  cases ofName? name <;> simp [eq_comm]

end Dialect

/-! ## One argument -/

namespace Argument

/-- What is behind a text at the front is what is left without it. -/
theorem behind?_eq_some_iff {front : String} {argument rest : Text} :
    behind? front argument = some rest ↔ argument = front.toList ++ rest := by
  rw [behind?, Option.ite_none_right_eq_some, List.isPrefixOf_iff_prefix, Option.some.injEq,
    ← String.length_toList]
  constructor
  · rintro ⟨⟨more, rfl⟩, rfl⟩
    rw [List.drop_left]
  · rintro rfl
    exact ⟨List.prefix_append _ _, List.drop_left⟩

/-- Nothing is behind a text that is not at the front. -/
theorem behind?_eq_none_iff {front : String} {argument : Text} :
    behind? front argument = none ↔ ¬front.toList <+: argument := by
  rw [behind?, ite_eq_right_iff, List.isPrefixOf_iff_prefix]
  simp

/-- A text that stands for a count of columns. -/
def IsCount (value : Text) (columns : UInt64) : Prop := IsNumeral value columns.toNat

/-- A numeral stands for a count. -/
theorem isCount_ofNat {value : Text} {columns : Nat} (isNumeral : IsNumeral value columns) :
    IsCount value (.ofNat columns) := by
  rw [IsCount, UInt64.toNat_ofNat', Nat.mod_eq_of_lt isNumeral.lt]
  exact isNumeral

/-- A text stands for one count. -/
theorem IsCount.unique {value : Text} {first second : UInt64} (isFirst : IsCount value first)
    (isSecond : IsCount value second) : first = second :=
  UInt64.toNat_inj.mp (IsNumeral.unique isFirst isSecond)

/-- What an argument means by itself. -/
inductive Means : Text → Argument → Prop
  | positional {text : Text} (plain : text.head? ≠ some '-') : Means text (.positional text)
  | dialect {name : Text} {found : Dialect} (named : found.IsNamed name) :
    Means ("--dialect=".toList ++ name) (.dialect found)
  | indentUnit {value : Text} {columns : UInt64} (isCount : IsCount value columns) :
    Means ("--indent-unit=".toList ++ value) (.indentUnit columns)
  | tabSize {value : Text} {columns : UInt64} (isCount : IsCount value columns) :
    Means ("--tab-size=".toList ++ value) (.tabSize columns)
  | inline : Means "--inline".toList .inline
  | json : Means "--json".toList .json

/-- What options start with that have a value. -/
def valued : List String := ["--dialect=", "--indent-unit=", "--tab-size="]

/-- Options without a value. -/
def flags : List String := ["--inline", "--json"]

/-- Why an argument by itself means nothing. -/
inductive Faults : Text → OptionError → Prop
  | dialect {name : Text} (unnamed : ∀ dialect : Dialect, ¬dialect.IsNamed name) :
    Faults ("--dialect=".toList ++ name) (.dialect (.unknownDialect name))
  | indentUnit {value : Text} (refused : ∀ columns, ¬IsNumeral value columns) :
    Faults ("--indent-unit=".toList ++ value) (.count "--indent-unit" value)
  | tabSize {value : Text} (refused : ∀ columns, ¬IsNumeral value columns) :
    Faults ("--tab-size=".toList ++ value) (.count "--tab-size" value)
  | unknown {argument : Text} (dash : argument.head? = some '-')
    (notValued : ∀ key ∈ valued, ¬key.toList <+: argument)
    (notFlag : ∀ flag ∈ flags, argument ≠ flag.toList) : Faults argument (.unknown argument)

/-- A count of columns is a numeral. -/
theorem count_eq_ok_iff {option : String} {value : Text} {columns : UInt64} :
    count option value = .ok columns ↔ IsCount value columns := by
  unfold count
  cases reads : numeral? value with
  | none =>
    have refused := Text.numeral?_eq_none_iff.mp reads columns.toNat
    simp [IsCount, refused]
  | some number =>
    have isCount := isCount_ofNat (Text.numeral?_eq_some_iff.mp reads)
    constructor
    · rintro ⟨rfl⟩
      exact isCount
    · intro other
      exact congrArg Except.ok (isCount.unique other)

/-- Anything else is reported with the name of the option. -/
theorem count_eq_error_iff {option : String} {value : Text} {error : OptionError} :
    count option value = .error error ↔
      (∀ columns, ¬IsNumeral value columns) ∧ error = .count option value := by
  rw [count, ← Text.numeral?_eq_none_iff]
  cases numeral? value <;> simp [eq_comm]

/-- A dialect is read by its name. -/
theorem read_dialect (name : Text) : read ("--dialect=".toList ++ name) =
    match Dialect.named name with
    | .ok found => .ok (.dialect found)
    | .error cause => .error (.dialect cause) := by
  have here : behind? "--dialect=" ("--dialect=".toList ++ name) = some name :=
    behind?_eq_some_iff.mpr rfl
  cases named : Dialect.named name with
  | ok found => simp only [read, here, named]
  | error cause => simp only [read, here, named]

/-- A unit of indentation is read as a count. -/
theorem read_indentUnit (value : Text) : read ("--indent-unit=".toList ++ value) =
    (count "--indent-unit" value).map indentUnit := by
  have here : behind? "--indent-unit=" ("--indent-unit=".toList ++ value) = some value :=
    behind?_eq_some_iff.mpr rfl
  have notDialect : behind? "--dialect=" ("--indent-unit=".toList ++ value) = none := by
    simp [behind?]
  rw [read, notDialect, here]

/-- A tab size is read as a count. -/
theorem read_tabSize (value : Text) : read ("--tab-size=".toList ++ value) =
    (count "--tab-size" value).map tabSize := by
  have here : behind? "--tab-size=" ("--tab-size=".toList ++ value) = some value :=
    behind?_eq_some_iff.mpr rfl
  have notDialect : behind? "--dialect=" ("--tab-size=".toList ++ value) = none := by
    simp [behind?]
  have notUnit : behind? "--indent-unit=" ("--tab-size=".toList ++ value) = none := by
    simp [behind?]
  rw [read, notDialect, notUnit, here]

/-- Any other argument is a flag, unknown or no option. -/
theorem read_of_notValued {argument : Text} (notValued : ∀ key ∈ valued, ¬key.toList <+: argument) :
    read argument =
      if argument = "--inline".toList then .ok inline
      else if argument = "--json".toList then .ok json
      else if argument.head? = some '-' then .error (.unknown argument)
      else .ok (positional argument) := by
  have nothing : ∀ key ∈ valued, behind? key argument = none :=
    fun key isKey => behind?_eq_none_iff.mpr (notValued key isKey)
  rw [read, nothing _ (by decide), nothing _ (by decide), nothing _ (by decide)]

/-- Every argument means something, or there is a reason why it does not. -/
theorem means_or_faults (argument : Text) :
    (∃ meaning, Means argument meaning) ∨ ∃ error, Faults argument error := by
  by_cases isValued : ∃ key ∈ valued, key.toList <+: argument
  · obtain ⟨key, isKey, value, rfl⟩ := isValued
    rw [valued, List.mem_cons, List.mem_cons, List.mem_singleton] at isKey
    rcases isKey with rfl | rfl | rfl
    · by_cases named : ∃ dialect : Dialect, dialect.IsNamed value
      · obtain ⟨found, named⟩ := named
        exact .inl ⟨_, .dialect named⟩
      · exact .inr ⟨_, .dialect (not_exists.mp named)⟩
    · by_cases counts : ∃ columns, IsNumeral value columns
      · obtain ⟨columns, isNumeral⟩ := counts
        exact .inl ⟨_, .indentUnit (isCount_ofNat isNumeral)⟩
      · exact .inr ⟨_, .indentUnit (not_exists.mp counts)⟩
    · by_cases counts : ∃ columns, IsNumeral value columns
      · obtain ⟨columns, isNumeral⟩ := counts
        exact .inl ⟨_, .tabSize (isCount_ofNat isNumeral)⟩
      · exact .inr ⟨_, .tabSize (not_exists.mp counts)⟩
  · by_cases isFlag : ∃ flag ∈ flags, argument = flag.toList
    · obtain ⟨flag, isFlag, rfl⟩ := isFlag
      rw [flags, List.mem_cons, List.mem_singleton] at isFlag
      rcases isFlag with rfl | rfl
      · exact .inl ⟨_, .inline⟩
      · exact .inl ⟨_, .json⟩
    · by_cases dash : argument.head? = some '-'
      · refine .inr ⟨_, .unknown dash (fun key isKey starts => ?_) fun flag listed same => ?_⟩
        · exact isValued ⟨key, isKey, starts⟩
        · exact isFlag ⟨flag, listed, same⟩
      · exact .inl ⟨_, .positional dash⟩

/-- What starts like an option starts with a dash. -/
theorem startsWithDash {key : String} (isOption : key ∈ valued) {argument : Text}
    (starts : key.toList <+: argument) : argument.head? = some '-' := by
  obtain ⟨value, rfl⟩ := starts
  rw [valued, List.mem_cons, List.mem_cons, List.mem_singleton] at isOption
  rcases isOption with rfl | rfl | rfl <;> simp

/-- An argument is read as what it means. -/
theorem Means.read_eq {argument : Text} {meaning : Argument} (means : Means argument meaning) :
    read argument = .ok meaning := by
  cases means with
  | positional plain =>
    have notValued : ∀ key ∈ valued, ¬key.toList <+: argument :=
      fun key isKey starts => plain (startsWithDash isKey starts)
    have notInline : argument ≠ "--inline".toList := by
      rintro rfl
      simp at plain
    have notJson : argument ≠ "--json".toList := by
      rintro rfl
      simp at plain
    rw [read_of_notValued notValued, if_neg notInline, if_neg notJson, if_neg plain]
  | dialect named => rw [read_dialect, Dialect.named_eq_ok_iff.mpr named]
  | indentUnit isCount => rw [read_indentUnit, count_eq_ok_iff.mpr isCount, Except.map]
  | tabSize isCount => rw [read_tabSize, count_eq_ok_iff.mpr isCount, Except.map]
  | inline => rw [read_of_notValued (by decide +kernel), if_pos rfl]
  | json => rw [read_of_notValued (by decide +kernel), if_neg (by decide +kernel), if_pos rfl]

/-- What is wrong with an argument is reported. -/
theorem Faults.read_eq {argument : Text} {error : OptionError} (faults : Faults argument error) :
    read argument = .error error := by
  cases faults with
  | @dialect name unnamed =>
    rw [read_dialect, Dialect.named_eq_error_iff.mpr ⟨unnamed, rfl⟩]
  | indentUnit refused => rw [read_indentUnit, count_eq_error_iff.mpr ⟨refused, rfl⟩, Except.map]
  | tabSize refused => rw [read_tabSize, count_eq_error_iff.mpr ⟨refused, rfl⟩, Except.map]
  | unknown dash notValued notFlag =>
    rw [read_of_notValued notValued, if_neg (notFlag _ (by decide)), if_neg (notFlag _ (by decide)),
      if_pos dash]

/-- Nothing else is read. -/
theorem read_eq_ok_iff {argument : Text} {meaning : Argument} :
    read argument = .ok meaning ↔ Means argument meaning := by
  refine ⟨fun reads => ?_, Means.read_eq⟩
  rcases means_or_faults argument with ⟨other, means⟩ | ⟨error, faults⟩
  · obtain rfl := Except.ok.inj (means.read_eq.symm.trans reads)
    exact means
  · rw [faults.read_eq] at reads
    contradiction

/-- Nothing else is reported. -/
theorem read_eq_error_iff {argument : Text} {error : OptionError} :
    read argument = .error error ↔ Faults argument error := by
  refine ⟨fun reads => ?_, Faults.read_eq⟩
  rcases means_or_faults argument with ⟨meaning, means⟩ | ⟨other, faults⟩
  · rw [means.read_eq] at reads
    contradiction
  · obtain rfl := Except.error.inj (faults.read_eq.symm.trans reads)
    exact faults

/-- The dialect that an option asks for. -/
def dialect? : Argument → Option (Option Dialect)
  | dialect found => some (some found)
  | _ => none

/-- The unit of indentation that an option sets. -/
def indentUnit? : Argument → Option UInt64
  | indentUnit columns => some columns
  | _ => none

/-- The tab size that an option sets. -/
def tabSize? : Argument → Option UInt64
  | tabSize columns => some columns
  | _ => none

/-- An argument that is no option has no value. -/
theorem behind?_of_plain {key : String} (isOption : key ∈ valued) {argument : Text}
    (plain : argument.head? ≠ some '-') : behind? key argument = none :=
  behind?_eq_none_iff.mpr fun starts => plain (startsWithDash isOption starts)

/-- A dialect is asked for by name. -/
theorem Means.dialect?_rel {argument : Text} {meaning : Argument}
    (means : Means argument meaning) :
    Option.Rel (fun name chosen => ∃ found : Dialect, chosen = some found ∧ found.IsNamed name)
      (behind? "--dialect=" argument) (dialect? meaning) := by
  cases means with
  | positional plain =>
    rw [behind?_of_plain (by decide) plain]
    exact .none
  | dialect named =>
    rw [behind?_eq_some_iff.mpr rfl]
    exact .some ⟨_, rfl, named⟩
  | _ => simp [behind?, dialect?]

/-- A unit of indentation is set by a count. -/
theorem Means.indentUnit?_rel {argument : Text} {meaning : Argument}
    (means : Means argument meaning) :
    Option.Rel IsCount (behind? "--indent-unit=" argument) (indentUnit? meaning) := by
  cases means with
  | positional plain =>
    rw [behind?_of_plain (by decide) plain]
    exact .none
  | indentUnit isCount =>
    rw [behind?_eq_some_iff.mpr rfl]
    exact .some isCount
  | _ => simp [behind?, indentUnit?]

/-- A tab size is set by a count. -/
theorem Means.tabSize?_rel {argument : Text} {meaning : Argument}
    (means : Means argument meaning) :
    Option.Rel IsCount (behind? "--tab-size=" argument) (tabSize? meaning) := by
  cases means with
  | positional plain =>
    rw [behind?_of_plain (by decide) plain]
    exact .none
  | tabSize isCount =>
    rw [behind?_eq_some_iff.mpr rfl]
    exact .some isCount
  | _ => simp [behind?, tabSize?]

/-- Only the flag itself means the flag. -/
theorem Means.eq_inline_iff {argument : Text} {meaning : Argument}
    (means : Means argument meaning) : meaning = .inline ↔ argument = "--inline".toList := by
  constructor
  · rintro rfl
    cases means
    rfl
  · rintro rfl
    exact Except.ok.inj (means.read_eq.symm.trans Means.inline.read_eq)

/-- Only the flag itself means the flag. -/
theorem Means.eq_json_iff {argument : Text} {meaning : Argument}
    (means : Means argument meaning) : meaning = .json ↔ argument = "--json".toList := by
  constructor
  · rintro rfl
    cases means
    rfl
  · rintro rfl
    exact Except.ok.inj (means.read_eq.symm.trans Means.json.read_eq)

/-- Only what does not start with a dash is no option. -/
theorem Means.positional?_eq {argument : Text} {meaning : Argument}
    (means : Means argument meaning) :
    meaning.positional? = if argument.head? ≠ some '-' then some argument else none := by
  cases means with
  | positional plain => rw [if_pos plain, positional?]
  | _ => simp [positional?]

end Argument

end Stylesheet
