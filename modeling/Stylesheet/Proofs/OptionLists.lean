import Mathlib.Data.List.Forall2
import Stylesheet.Proofs.Arguments

/-!
# Options in any order

A list of arguments is gone through from its front, yet what it comes to can be said without an
order (`Options.Describes`): every setting has the value of the last argument that starts like its
option, a flag is set if it is among the arguments, and what does not start with a dash is left, in
its order. So an argument may change places with others that are about something else. The order
decides only which fault is reported: that of the first argument without a meaning.
`Options.parse_orderFree` puts this together.
-/
namespace Stylesheet

/-! ## What the arguments of a list mean -/

namespace Argument

/-- A list of arguments is read as what its arguments mean, one by one. -/
theorem mapM_read_eq_ok_iff {arguments : List Text} {meanings : List Argument} :
    arguments.mapM read = .ok meanings ↔ List.Forall₂ Means arguments meanings := by
  induction arguments generalizing meanings with
  | nil => simp [pure, Except.pure, eq_comm]
  | cons argument arguments ih =>
    rw [List.mapM_cons, List.forall₂_cons_left_iff]
    constructor
    · intro reads
      cases first : read argument with
      | error error => simp [first, bind, Except.bind] at reads
      | ok meaning =>
        cases rest : arguments.mapM read with
        | error error => simp [first, rest, bind, Except.bind] at reads
        | ok others =>
          obtain rfl : meaning :: others = meanings := by
            simpa [first, rest, bind, Except.bind, pure, Except.pure] using reads
          exact ⟨meaning, others, read_eq_ok_iff.mp first, ih.mp rest, rfl⟩
    · rintro ⟨meaning, others, means, all, rfl⟩
      rw [means.read_eq, ih.mpr all]
      rfl

/-- The error of the first argument in a list that means nothing, whatever is behind it. -/
def FirstFault (arguments : List Text) (error : OptionError) : Prop :=
  ∃ before faulty after, arguments = before ++ faulty :: after ∧
    (∀ argument ∈ before, ∃ meaning, Means argument meaning) ∧ Faults faulty error

/-- An argument with a meaning has no fault. -/
theorem Means.not_faults {argument : Text} {meaning : Argument} (means : Means argument meaning)
    {error : OptionError} : ¬Faults argument error := by
  intro faults
  have reads := means.read_eq
  rw [faults.read_eq] at reads
  contradiction

/-- In front of a fault, arguments with a meaning do not matter. -/
theorem firstFault_cons_of_means {argument : Text} {meaning : Argument}
    (means : Means argument meaning) {arguments : List Text} {error : OptionError} :
    FirstFault (argument :: arguments) error ↔ FirstFault arguments error := by
  constructor
  · rintro ⟨_ | ⟨first, before⟩, faulty, after, split, meant, faults⟩
    · obtain ⟨rfl, rfl⟩ := List.cons.inj split
      exact absurd faults means.not_faults
    · obtain ⟨rfl, rfl⟩ := List.cons.inj split
      exact ⟨before, faulty, after, rfl, (List.forall_mem_cons.mp meant).2, faults⟩
  · rintro ⟨before, faulty, after, rfl, meant, faults⟩
    exact ⟨argument :: before, faulty, after, rfl,
      List.forall_mem_cons.mpr ⟨⟨meaning, means⟩, meant⟩, faults⟩

/-- Behind a fault no argument matters. -/
theorem firstFault_cons_of_faults {argument : Text} {fault : OptionError}
    (faults : Faults argument fault) {arguments : List Text} {error : OptionError} :
    FirstFault (argument :: arguments) error ↔ fault = error := by
  constructor
  · rintro ⟨_ | ⟨first, before⟩, faulty, after, split, meant, other⟩
    · obtain ⟨rfl, rfl⟩ := List.cons.inj split
      exact Except.error.inj (faults.read_eq.symm.trans other.read_eq)
    · obtain ⟨rfl, rfl⟩ := List.cons.inj split
      obtain ⟨meaning, means⟩ := meant argument List.mem_cons_self
      exact absurd faults means.not_faults
  · rintro rfl
    exact ⟨[], argument, arguments, rfl, by simp, faults⟩

/-- The first fault of a list is what is reported for it. -/
theorem mapM_read_eq_error_iff {arguments : List Text} {error : OptionError} :
    arguments.mapM read = .error error ↔ FirstFault arguments error := by
  induction arguments with
  | nil => simp [FirstFault, pure, Except.pure]
  | cons argument arguments ih =>
    rw [List.mapM_cons]
    cases reads : read argument with
    | ok meaning =>
      rw [firstFault_cons_of_means (read_eq_ok_iff.mp reads), ← ih]
      cases arguments.mapM read <;> simp [bind, Except.bind, pure, Except.pure]
    | error fault =>
      rw [firstFault_cons_of_faults (read_eq_error_iff.mp reads)]
      simp [bind, Except.bind]

end Argument

/-! ## What a list comes to -/

namespace Options

open Argument (Means Faults FirstFault IsCount behind? dialect? indentUnit? tabSize?)

variable {α : Type} {arguments : List Text} {meanings : List Argument}

/-- Of several arguments that set a field the last counts. -/
theorem field_foldl_set (field : Options → α) {value? : Argument → Option α}
    (sets : ∀ options argument, field (set options argument) =
      (value? argument).getD (field options)) (meanings : List Argument) (options : Options) :
    field (meanings.foldl set options) =
      (meanings.filterMap value?).getLast?.getD (field options) := by
  induction meanings generalizing options with
  | nil => rfl
  | cons meaning meanings ih =>
    rw [List.foldl_cons, ih, sets]
    cases value : value? meaning with
    | none => rw [List.filterMap_cons_none value, Option.getD_none]
    | some here => simp [List.filterMap_cons_some value, List.getLast?_cons]

/-- A flag is set from the first argument on that sets it. -/
theorem flag_foldl_set (field : Options → Bool) {flag : Argument}
    (sets : ∀ options argument, field (set options argument) =
      (field options || decide (argument = flag))) (meanings : List Argument) (options : Options) :
    field (meanings.foldl set options) = (field options || decide (flag ∈ meanings)) := by
  induction meanings generalizing options with
  | nil => simp
  | cons meaning meanings ih =>
    rw [List.foldl_cons, ih, sets, Bool.or_assoc]
    simp [List.mem_cons, eq_comm]

/-- A setting has the value of the last argument that starts like its option, or the default. -/
def IsLast (key : String) (arguments : List Text) (reads : Text → α → Prop) (default value : α) :
    Prop :=
  match (arguments.filterMap (behind? key)).getLast? with
  | none => value = default
  | some text => reads text value

/-- The last of related values are related. -/
theorem getLast?_rel {β : Type} {related : α → β → Prop} {left : List α} {right : List β}
    (all : List.Forall₂ related left right) :
    Option.Rel related left.getLast? right.getLast? := by
  have reversed := List.forall₂_reverse_iff.mpr all
  rw [List.getLast?_eq_head?_reverse, List.getLast?_eq_head?_reverse]
  generalize left.reverse = first, right.reverse = second at reversed
  cases reversed with
  | nil => exact .none
  | cons here rest => exact .some here

/-- What a list of arguments with a meaning sets last is the value of its last such argument. -/
theorem isLast_of_means {reads : Text → α → Prop} {key : String} {value? : Argument → Option α}
    (values : ∀ ⦃argument meaning⦄, Means argument meaning →
      Option.Rel reads (behind? key argument) (value? meaning))
    (means : List.Forall₂ Means arguments meanings) (default : α) :
    IsLast key arguments reads default ((meanings.filterMap value?).getLast?.getD default) := by
  have last := getLast?_rel (List.rel_filterMap values means)
  unfold IsLast
  generalize (arguments.filterMap (behind? key)).getLast? = text,
    (meanings.filterMap value?).getLast? = value at last
  cases last with
  | none => rfl
  | some isValue => exact isValue

/-- What the options in a list of arguments come to, and the arguments that are none. -/
structure Describes (arguments : List Text) (options : Options) (positional : List Text) :
    Prop where
  /-- The arguments that do not start with a dash are left, in their order. -/
  positional_eq : positional = arguments.filter fun argument => argument.head? ≠ some '-'
  dialect : IsLast "--dialect=" arguments
    (fun name chosen => ∃ found : Dialect, chosen = some found ∧ found.IsNamed name) none
    options.dialect
  indentUnit : IsLast "--indent-unit=" arguments IsCount 2 options.settings.indentUnit
  tabSize : IsLast "--tab-size=" arguments IsCount 4 options.settings.tabSize
  inline_iff : options.settings.inline = true ↔ "--inline".toList ∈ arguments
  json_iff : options.json = true ↔ "--json".toList ∈ arguments

/-- A value is read from a text in one way. -/
theorem IsLast.unique {key : String} {reads : Text → α → Prop} {default left right : α}
    (isLeft : IsLast key arguments reads default left)
    (isRight : IsLast key arguments reads default right)
    (functional : ∀ ⦃text left right⦄, reads text left → reads text right → left = right) :
    left = right := by
  unfold IsLast at isLeft isRight
  cases last : (arguments.filterMap (behind? key)).getLast? with
  | none =>
    rw [last] at isLeft isRight
    exact isLeft.trans isRight.symm
  | some text =>
    rw [last] at isLeft isRight
    exact functional isLeft isRight

/-- A flag is among meanings exactly if it is among the arguments. -/
theorem mem_iff_of_means {flag : Argument} {text : Text}
    (only : ∀ {argument meaning}, Means argument meaning → (meaning = flag ↔ argument = text))
    (means : List.Forall₂ Means arguments meanings) : flag ∈ meanings ↔ text ∈ arguments := by
  induction means with
  | nil => simp
  | cons here rest ih => rw [List.mem_cons, List.mem_cons, ih, eq_comm, only here, eq_comm]

/-- Left are the arguments that are no options. -/
theorem filterMap_positional?_of_means (means : List.Forall₂ Means arguments meanings) :
    meanings.filterMap Argument.positional? =
      arguments.filter fun argument => argument.head? ≠ some '-' := by
  induction means with
  | nil => rfl
  | @cons argument meaning arguments meanings here rest ih =>
    rw [List.filterMap_cons, here.positional?_eq, ih, List.filter_cons]
    by_cases plain : argument.head? ≠ some '-' <;> simp [plain]

/-- What the meanings of a list of arguments come to. -/
theorem describes_of_means (means : List.Forall₂ Means arguments meanings) :
    Describes arguments (meanings.foldl set {}) (meanings.filterMap Argument.positional?) where
  positional_eq := filterMap_positional?_of_means means
  dialect := by
    have sets : ∀ (options : Options) argument, (set options argument).dialect =
        (dialect? argument).getD options.dialect := by
      rintro options (_ | _ | _ | _ | _ | _) <;> rfl
    rw [field_foldl_set Options.dialect sets]
    exact isLast_of_means (fun _ _ => Means.dialect?_rel) means none
  indentUnit := by
    have sets : ∀ (options : Options) argument, (set options argument).settings.indentUnit =
        (indentUnit? argument).getD options.settings.indentUnit := by
      rintro options (_ | _ | _ | _ | _ | _) <;> rfl
    rw [field_foldl_set (fun options => options.settings.indentUnit) sets]
    exact isLast_of_means (fun _ _ => Means.indentUnit?_rel) means 2
  tabSize := by
    have sets : ∀ (options : Options) argument, (set options argument).settings.tabSize =
        (tabSize? argument).getD options.settings.tabSize := by
      rintro options (_ | _ | _ | _ | _ | _) <;> rfl
    rw [field_foldl_set (fun options => options.settings.tabSize) sets]
    exact isLast_of_means (fun _ _ => Means.tabSize?_rel) means 4
  inline_iff := by
    have sets : ∀ (options : Options) argument, (set options argument).settings.inline =
        (options.settings.inline || decide (argument = .inline)) := by
      rintro options (_ | _ | _ | _ | _ | _) <;> simp [set]
    rw [flag_foldl_set (fun options => options.settings.inline) sets,
      ← mem_iff_of_means Means.eq_inline_iff means]
    simp
  json_iff := by
    have sets : ∀ (options : Options) argument, (set options argument).json =
        (options.json || decide (argument = .json)) := by
      rintro options (_ | _ | _ | _ | _ | _) <;> simp [set]
    rw [flag_foldl_set Options.json sets, ← mem_iff_of_means Means.eq_json_iff means]
    simp

/-- Only one result is described. -/
theorem Describes.unique {left right : Options} {first second : List Text}
    (isLeft : Describes arguments left first) (isRight : Describes arguments right second) :
    left = right ∧ first = second := by
  refine ⟨?_, isLeft.positional_eq.trans isRight.positional_eq.symm⟩
  have dialect : left.dialect = right.dialect := by
    refine isLeft.dialect.unique isRight.dialect ?_
    rintro name _ _ ⟨found, rfl, named⟩ ⟨other, rfl, alike⟩
    exact congrArg some (named.unique alike)
  have unit := isLeft.indentUnit.unique isRight.indentUnit fun _ _ _ => IsCount.unique
  have tab := isLeft.tabSize.unique isRight.tabSize fun _ _ _ => IsCount.unique
  have inline : left.settings.inline = right.settings.inline :=
    Bool.eq_iff_iff.mpr (isLeft.inline_iff.trans isRight.inline_iff.symm)
  have json : left.json = right.json :=
    Bool.eq_iff_iff.mpr (isLeft.json_iff.trans isRight.json_iff.symm)
  obtain ⟨_, ⟨_, _, _⟩, _⟩ := left
  obtain ⟨_, ⟨_, _, _⟩, _⟩ := right
  simp_all

/-- The meanings of the arguments of a list come to what is parsed. -/
theorem parse_eq_ok_of_means (means : List.Forall₂ Means arguments meanings) :
    parse arguments = .ok (meanings.foldl set {}, meanings.filterMap Argument.positional?) := by
  rw [parse, Argument.mapM_read_eq_ok_iff.mpr means]
  rfl

/-- The first fault in a list is reported, and nothing else is. -/
theorem parse_eq_error_iff {error : OptionError} :
    parse arguments = .error error ↔ FirstFault arguments error := by
  rw [← Argument.mapM_read_eq_error_iff, parse]
  cases arguments.mapM Argument.read <;> simp [bind, Except.bind, pure, Except.pure]

/-- Where every argument has a meaning there is a list of the meanings. -/
theorem exists_meanings_iff : (∃ meanings, List.Forall₂ Means arguments meanings) ↔
    ∀ argument ∈ arguments, ∃ meaning, Means argument meaning := by
  induction arguments with
  | nil => simp
  | cons argument arguments ih =>
    rw [List.forall_mem_cons, ← ih]
    constructor
    · rintro ⟨_, _ | ⟨here, rest⟩⟩
      exact ⟨⟨_, here⟩, _, rest⟩
    · rintro ⟨⟨meaning, here⟩, meanings, rest⟩
      exact ⟨meaning :: meanings, .cons here rest⟩

/-- A list is parsed if its arguments all have a meaning, and then as what they come to. -/
theorem parse_eq_ok_iff {options : Options} {positional : List Text} :
    parse arguments = .ok (options, positional) ↔
      (∀ argument ∈ arguments, ∃ meaning, Means argument meaning) ∧
        Describes arguments options positional := by
  constructor
  · intro parsed
    cases reads : arguments.mapM Argument.read with
    | error error => simp [parse, reads, bind, Except.bind] at parsed
    | ok meanings =>
      have means := Argument.mapM_read_eq_ok_iff.mp reads
      rw [parse_eq_ok_of_means means, Except.ok.injEq, Prod.mk.injEq] at parsed
      obtain ⟨rfl, rfl⟩ := parsed
      exact ⟨exists_meanings_iff.mp ⟨meanings, means⟩, describes_of_means means⟩
  · rintro ⟨meant, described⟩
    obtain ⟨meanings, means⟩ := exists_meanings_iff.mpr meant
    obtain ⟨rfl, rfl⟩ := described.unique (describes_of_means means)
    exact parse_eq_ok_of_means means

/-! ## Other orders -/

/-- What an argument is about: the name of an option, or nothing. -/
def keyOf (argument : Text) : Option Text :=
  if argument.head? = some '-' then some (argument.takeWhile (· != '=')) else none

/-- Two lists have the same arguments, and those about one thing in the same order. -/
def Reordered (first second : List Text) : Prop :=
  ∀ key, first.filter (keyOf · = key) = second.filter (keyOf · = key)

/-- An argument may change places with its neighbour if that is about something else. -/
theorem reordered_swap {left right : Text} (differ : keyOf left ≠ keyOf right)
    (before after : List Text) :
    Reordered (before ++ left :: right :: after) (before ++ right :: left :: after) := by
  intro key
  by_cases isLeft : keyOf left = key
  · have notRight : keyOf right ≠ key := fun same => differ (isLeft.trans same.symm)
    simp [isLeft, notRight]
  · simp [List.filter_cons, isLeft]

namespace Reordered

variable {first second : List Text}

/-- Both have the same arguments. -/
theorem mem_iff (reordered : Reordered first second) {argument : Text} :
    argument ∈ first ↔ argument ∈ second := by
  have same : argument ∈ first.filter (keyOf · = keyOf argument) ↔
      argument ∈ second.filter (keyOf · = keyOf argument) := by rw [reordered]
  simpa using same

/-- What is taken from arguments about one thing is the same for both. -/
theorem filterMap_eq (reordered : Reordered first second) (key : Option Text)
    {take : Text → Option α}
    (only : ∀ argument value, take argument = some value → keyOf argument = key) :
    first.filterMap take = second.filterMap take := by
  have filtered : ∀ arguments : List Text,
      arguments.filterMap take = (arguments.filter (keyOf · = key)).filterMap take := by
    intro arguments
    rw [List.filterMap_filter]
    refine List.filterMap_congr fun argument _ => ?_
    cases taken : take argument with
    | none => simp
    | some value => simp [only argument value taken]
  rw [filtered first, filtered second, reordered]

/-- Both have the same last setting. -/
theorem isLast (reordered : Reordered first second) (key : String) (name : Text)
    (names : ∀ value, keyOf (key.toList ++ value) = some name) {reads : Text → α → Prop}
    {default value : α} (last : IsLast key first reads default value) :
    IsLast key second reads default value := by
  have same : first.filterMap (behind? key) = second.filterMap (behind? key) := by
    refine reordered.filterMap_eq (some name) fun argument rest behind => ?_
    rw [Argument.behind?_eq_some_iff.mp behind]
    exact names rest
  rwa [IsLast, ← same]

/-- Both come to the same. -/
theorem describes (reordered : Reordered first second) {options : Options}
    {positional : List Text} (described : Describes first options positional) :
    Describes second options positional where
  positional_eq := by
    have plain := reordered none
    simp only [keyOf, ite_eq_right_iff, reduceCtorEq, imp_false] at plain
    exact described.positional_eq.trans plain
  dialect := reordered.isLast "--dialect=" "--dialect".toList (by simp [keyOf]) described.dialect
  indentUnit :=
    reordered.isLast "--indent-unit=" "--indent-unit".toList (by simp [keyOf]) described.indentUnit
  tabSize := reordered.isLast "--tab-size=" "--tab-size".toList (by simp [keyOf]) described.tabSize
  inline_iff := described.inline_iff.trans reordered.mem_iff
  json_iff := described.json_iff.trans reordered.mem_iff

/-- What is parsed from one is parsed from the other. -/
theorem parse_eq_ok (reordered : Reordered first second) {result : Options × List Text}
    (parsed : parse first = .ok result) : parse second = .ok result := by
  obtain ⟨options, positional⟩ := result
  obtain ⟨meant, described⟩ := parse_eq_ok_iff.mp parsed
  exact parse_eq_ok_iff.mpr
    ⟨fun argument isArgument => meant argument (reordered.mem_iff.mpr isArgument),
      reordered.describes described⟩

end Reordered

/-- How a list of arguments is parsed, without an order in which it is gone through. -/
structure OrderFree (arguments : List Text) : Prop where
  /-- A list is parsed if every argument by itself has a meaning. -/
  isOk_iff : (∃ result, parse arguments = .ok result) ↔
    ∀ argument ∈ arguments, ∃ meaning, Means argument meaning
  /-- What is parsed is what the list comes to. -/
  describes : ∀ options positional, parse arguments = .ok (options, positional) →
    Describes arguments options positional
  /-- What is reported is the first fault. -/
  firstFault : ∀ error, parse arguments = .error error ↔ FirstFault arguments error
  /-- Arguments may move past others that are about something else. -/
  reordered : ∀ others, Reordered arguments others → ∀ result,
    parse arguments = .ok result ↔ parse others = .ok result

/-- Every list of arguments is parsed so. -/
theorem parse_orderFree (arguments : List Text) : OrderFree arguments where
  isOk_iff := by
    constructor
    · rintro ⟨⟨options, positional⟩, parsed⟩
      exact (parse_eq_ok_iff.mp parsed).1
    · intro meant
      obtain ⟨meanings, means⟩ := exists_meanings_iff.mpr meant
      exact ⟨_, parse_eq_ok_of_means means⟩
  describes options positional parsed := (parse_eq_ok_iff.mp parsed).2
  firstFault error := parse_eq_error_iff
  reordered others reordered result :=
    ⟨reordered.parse_eq_ok, Reordered.parse_eq_ok fun key => (reordered key).symm⟩

/-- A dialect may be asked for behind a file or in front of it, of two tab sizes the last counts,
and of two faults the first is reported. -/
theorem parse_orderFree_dialectMoved :
    let file := "a.scss".toList
    let dialect := "--dialect=TEXT/X-LESS".toList
    let before := ["--tab-size=2".toList]
    let after := ["--tab-size=+08".toList, "--json".toList]
    let options : Options := ⟨some .less, ⟨2, 8, false⟩, true⟩
    let faulty := ["--indent-unit=".toList, "-j".toList]
    Reordered (before ++ file :: dialect :: after) (before ++ dialect :: file :: after) ∧
      parse (before ++ dialect :: file :: after) = .ok (options, [file]) ∧
      FirstFault (before ++ faulty) (.count "--indent-unit" []) := by
  intro file dialect before after options faulty
  have differ : keyOf file ≠ keyOf dialect := by decide +kernel
  have moved := reordered_swap differ before after
  have parsed : parse (before ++ file :: dialect :: after) = .ok (options, [file]) := rfl
  have fails : parse (before ++ faulty) = .error (.count "--indent-unit" []) := rfl
  exact ⟨moved, ((parse_orderFree _).reordered _ moved _).mp parsed,
    ((parse_orderFree _).firstFault _).mp fails⟩

end Options

end Stylesheet
