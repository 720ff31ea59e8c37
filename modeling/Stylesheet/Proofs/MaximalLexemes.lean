import Mathlib.Data.String.Defs
import Stylesheet.Proofs.CommentLines
import Stylesheet.Proofs.Continuations
import Stylesheet.Proofs.Trace

/-!
# Lexemes are as long as they may be

Names, words and numbers are runs of a class of characters, behind what starts them, and each kind
of token has its own class (`Lexed`). The scanner never stops within a run: what is behind a token
on its line does not go on with the class of the token (`Mode.maximal_of_mem_highlight`). All these
classes are of ASCII, so that a foreign character outside of text is a token of its own.
-/
namespace Stylesheet

open Pattern (isWordChar isIdentChar isUnitChar isNameChar)
open Text (isBlank leading lines)

/-! ## Runs -/

/-- As many characters of a class as there are: all of them belong to it, and no other one comes
behind them. -/
structure Text.MaximalRun (belongs : Char → Bool) (run behind : Text) : Prop where
  all : ∀ c ∈ run, belongs c = true
  stops : ∀ c ∈ behind.head?, belongs c = false

variable {belongs : Char → Bool} {text behind run : Text} {c : Char}

/-- The leading run of a text is as long as it may be. -/
theorem Text.maximalRun_leading (belongs : Char → Bool) (text : Text) :
    MaximalRun belongs (text.take (leading belongs text)) (text.drop (leading belongs text)) where
  all := by
    have taken : text.take (leading belongs text) = text.takeWhile belongs :=
      (List.prefix_iff_eq_take.mp (List.takeWhile_prefix belongs)).symm
    rw [taken]
    exact fun c isHere => List.mem_takeWhile_imp isHere
  stops := by
    rw [drop_leading]
    intro c isNext
    have outside := List.head?_dropWhile_not belongs text
    rw [isNext] at outside
    simpa using outside

/-- A character of the class in front makes the run longer. -/
theorem Text.MaximalRun.cons (maximal : MaximalRun belongs run behind) (member : belongs c = true) :
    MaximalRun belongs (c :: run) behind :=
  ⟨List.forall_mem_cons.mpr ⟨member, maximal.all⟩, maximal.stops⟩

namespace Pattern

/-- What words are made of is of ASCII. -/
theorem isAscii_of_isWordChar (word : isWordChar c = true) : c.isAscii = true := by
  have parts : (((c.isUpper || c.isLower) || c.isDigit) || c == '_') = true := word
  have below {last : Nat} (within : c.val.toNat ≤ last) (small : last < 128) :
      c.isAscii = true := decide_eq_true (Nat.lt_of_le_of_lt within small)
  rw [Bool.or_eq_true, Bool.or_eq_true, Bool.or_eq_true, beq_iff_eq] at parts
  rcases parts with ((upper | lower) | digit) | rfl
  · exact below (of_decide_eq_true upper).2 (by decide)
  · exact below (of_decide_eq_true (Bool.and_eq_true_iff.mp lower).2) (by decide)
  · exact below (of_decide_eq_true (Bool.and_eq_true_iff.mp digit).2) (by decide)
  · decide

/-- So is what identifiers are made of. -/
theorem isAscii_of_isIdentChar (ident : isIdentChar c = true) : c.isAscii = true := by
  simp only [isIdentChar, Bool.or_eq_true, beq_iff_eq] at ident
  rcases ident with (word | rfl) | rfl
  · exact isAscii_of_isWordChar word
  · decide
  · decide

/-- So is what numbers are made of. -/
theorem isAscii_of_isUnitChar (unit : isUnitChar c = true) : c.isAscii = true := by
  simp only [isUnitChar, Bool.or_eq_true, beq_iff_eq] at unit
  rcases unit with (word | rfl) | rfl
  · exact isAscii_of_isWordChar word
  · decide
  · decide

/-- So is what names are made of, which identifiers have as well. -/
theorem isIdentChar_of_isNameChar (name : isNameChar c = true) : isIdentChar c = true := by
  simp only [isNameChar, isIdentChar, Bool.or_eq_true] at name ⊢
  exact name.imp_left .inl

/-- Letters and the underscore start class names and stand in them. -/
theorem isNameChar_of_first (first : c.isAlpha = true ∨ c = '_') : isNameChar c = true := by
  simp only [isNameChar, isWordChar, Char.isAlphanum, Bool.or_eq_true, beq_iff_eq]
  exact .inl (first.imp_left .inl)

/-- Digits start numbers and stand in them. -/
theorem isUnitChar_of_isDigit (digit : c.isDigit = true) : isUnitChar c = true := by
  simp [isUnitChar, isWordChar, Char.isAlphanum, digit]

end Pattern

/-! ## Lexemes by their kind -/

/-- A variable: two dashes and a name that is not empty, or a name behind an at sign or a dollar
sign. -/
inductive VariableLexeme (text behind : Text) : Prop
  | customProperty {name : Text} (split : text = '-' :: '-' :: name) (nonempty : name ≠ [])
    (maximal : Text.MaximalRun isIdentChar name behind)
  | atSign {name : Text} (split : text = '@' :: name)
    (maximal : Text.MaximalRun isIdentChar name behind)
  | dollarSign {name : Text} (split : text = '$' :: name)
    (maximal : Text.MaximalRun isNameChar name behind)

/-- A class name behind its dot: a letter or an underscore first, behind a dash or not. -/
inductive ClassLexeme (text behind : Text) : Prop
  | intro {dash : Text} {first : Char} {name : Text} (split : text = '.' :: (dash ++ first :: name))
    (dashed : dash = [] ∨ dash = ['-']) (starts : first.isAlpha = true ∨ first = '_')
    (maximal : Text.MaximalRun isNameChar name behind)

/-- What the text of a token of a kind is made of, and what comes behind it on its line, where
something is open in front of it or not. Strings and comments start behind a delimiter or go on;
other tokens than these and the runs are single characters, or of ASCII up to white space. -/
def Lexed (opened : Option Continuation) (kind : Kind) (text behind : Text) : Prop :=
  match kind with
  | .whitespace => text ≠ [] ∧ Text.MaximalRun isBlank text behind
  | .word =>
    (∃ first ∈ text.head?, first.isAlpha = true ∨ first = '_' ∨ first = '\\') ∧
      Text.MaximalRun isIdentChar text behind
  | .hash => ∃ name, text = '#' :: name ∧ Text.MaximalRun isIdentChar name behind
  | .atRule => ∃ name, text = '@' :: name ∧ Text.MaximalRun isIdentChar name behind
  | .unit =>
    ∃ number, (text = number ∨ text = '-' :: number) ∧
      (∃ first ∈ number.head?, first.isDigit = true ∨ first = '.') ∧
        Text.MaximalRun isUnitChar number behind
  | .variableUse => VariableLexeme text behind
  | .variableDefinition => VariableLexeme text behind
  | .qualifier => ClassLexeme text behind
  | .string =>
    opened = some .rawArgument ∨
      ∃ quote, opened = some (.string quote) ∨ opened = none ∧ text.head? = some (Quote.char quote)
  | .comment =>
    opened = some .comment ∨ opened = none ∧ (['/', '*'] <+: text ∨ ['/', '/'] <+: text)
  | .unclassified => ∃ c, text = [c]
  | _ => ∀ c ∈ text, c.isAscii = true ∨ isBlank c = true

/-- The kinds of tokens that are names, words and numbers. -/
def Kind.names : List Kind :=
  [.word, .hash, .atRule, .unit, .variableUse, .variableDefinition, .qualifier]

/-- A token that could not be longer. -/
structure Maximal (opened : Option Continuation) (kind : Kind) (text behind : Text) : Prop where
  /-- It is what its kind says, and what is behind it does not go on with it. -/
  lexed : Lexed opened kind text behind
  /-- Names, words and numbers are of ASCII. -/
  ascii : kind ∈ Kind.names → ∀ c ∈ text, c.isAscii = true
  /-- Outside of strings, comments and raw arguments any other character that is not white space is
  a token of its own, without a meaning. -/
  foreign : kind ≠ .string → kind ≠ .comment → ∀ c ∈ text, c.isAscii = false → isBlank c = false →
    kind = .unclassified ∧ text = [c]

variable {opened : Option Continuation} {kind : Kind}

/-- Variables are of ASCII. -/
theorem VariableLexeme.isAscii (isVariable : VariableLexeme text behind) :
    ∀ c ∈ text, c.isAscii = true := by
  cases isVariable with
  | customProperty split _ maximal =>
    rw [split, List.forall_mem_cons, List.forall_mem_cons]
    exact ⟨rfl, rfl, fun c isHere => Pattern.isAscii_of_isIdentChar (maximal.all c isHere)⟩
  | atSign split maximal =>
    rw [split, List.forall_mem_cons]
    exact ⟨rfl, fun c isHere => Pattern.isAscii_of_isIdentChar (maximal.all c isHere)⟩
  | dollarSign split maximal =>
    rw [split, List.forall_mem_cons]
    refine ⟨rfl, fun c isHere => Pattern.isAscii_of_isIdentChar ?_⟩
    exact Pattern.isIdentChar_of_isNameChar (maximal.all c isHere)

/-- Class names are of ASCII. -/
theorem ClassLexeme.isAscii (isClass : ClassLexeme text behind) :
    ∀ c ∈ text, c.isAscii = true := by
  obtain ⟨split, dashed, starts, maximal⟩ := isClass
  have named := maximal.cons (Pattern.isNameChar_of_first starts)
  rw [split, List.forall_mem_cons, List.forall_mem_append]
  refine ⟨rfl, ?_, fun c isHere => Pattern.isAscii_of_isIdentChar ?_⟩
  · rcases dashed with rfl | rfl
    · simp
    · simp [Char.isAscii]
  · exact Pattern.isIdentChar_of_isNameChar (named.all c isHere)

/-- The kinds of names, words and numbers have no other characters. -/
theorem Lexed.isAscii (lexed : Lexed opened kind text behind) (isName : kind ∈ Kind.names) :
    ∀ c ∈ text, c.isAscii = true := by
  simp only [Kind.names, List.mem_cons, List.not_mem_nil, or_false] at isName
  rcases isName with rfl | rfl | rfl | rfl | rfl | rfl | rfl
  · obtain ⟨-, maximal⟩ := lexed
    exact fun c isHere => Pattern.isAscii_of_isIdentChar (maximal.all c isHere)
  · obtain ⟨name, rfl, maximal⟩ := lexed
    rw [List.forall_mem_cons]
    exact ⟨rfl, fun c isHere => Pattern.isAscii_of_isIdentChar (maximal.all c isHere)⟩
  · obtain ⟨name, rfl, maximal⟩ := lexed
    rw [List.forall_mem_cons]
    exact ⟨rfl, fun c isHere => Pattern.isAscii_of_isIdentChar (maximal.all c isHere)⟩
  · obtain ⟨number, signed, -, maximal⟩ := lexed
    have digits : ∀ c ∈ number, c.isAscii = true :=
      fun c isHere => Pattern.isAscii_of_isUnitChar (maximal.all c isHere)
    rcases signed with rfl | rfl
    · exact digits
    · exact List.forall_mem_cons.mpr ⟨rfl, digits⟩
  · exact VariableLexeme.isAscii lexed
  · exact VariableLexeme.isAscii lexed
  · exact ClassLexeme.isAscii lexed

/-- Outside of text a foreign character is a token of its own. -/
theorem Lexed.eq_singleton (lexed : Lexed opened kind text behind) (notString : kind ≠ .string)
    (notComment : kind ≠ .comment) (isHere : c ∈ text) (foreign : c.isAscii = false)
    (black : isBlank c = false) : kind = .unclassified ∧ text = [c] := by
  by_cases isName : kind ∈ Kind.names
  · rw [lexed.isAscii isName c isHere] at foreign
    contradiction
  · cases kind with
    | unclassified =>
      obtain ⟨single, rfl⟩ := lexed
      rw [List.mem_singleton.mp isHere]
      exact ⟨rfl, rfl⟩
    | whitespace =>
      have white : isBlank c = true := lexed.2.all c isHere
      rw [black] at white
      contradiction
    | string | comment => contradiction
    | word | hash | atRule | unit | variableUse | variableDefinition | qualifier =>
      exact absurd (by decide) isName
    | _ => simpa [foreign, black] using (lexed : ∀ c ∈ text, _) c isHere

/-- So what is as its kind says could not be longer. -/
theorem Lexed.maximal (lexed : Lexed opened kind text behind) :
    Maximal opened kind text behind where
  lexed := lexed
  ascii := lexed.isAscii
  foreign notString notComment _ isHere foreign black :=
    lexed.eq_singleton notString notComment isHere foreign black

/-- The other kinds, of which there are neither runs nor texts. -/
def Kind.plain : List Kind :=
  [.important, .compare, .selectOp, .vendor, .interpolation, .operator, .atom, .colon, .semicolon,
    .braceOpen, .braceClose, .bracketOpen, .bracketClose, .parenOpen, .parenClose]

/-- Their tokens are of ASCII up to white space. -/
theorem lexed_of_plain (isPlain : kind ∈ Kind.plain)
    (all : ∀ c ∈ text, c.isAscii = true ∨ isBlank c = true) : Lexed opened kind text behind := by
  cases kind with
  | word | hash | string | comment | unit | qualifier | variableUse | variableDefinition | atRule
    | whitespace | unclassified => simp [Kind.plain] at isPlain
  | _ => exact all

/-- A punctuation mark is a plain token of ASCII. -/
theorem plain_of_punctuation? (found : Kind.punctuation? c = some kind) :
    kind ∈ Kind.plain ∧ c.isAscii = true := by
  unfold Kind.punctuation? at found
  split at found
  all_goals first
    | contradiction
    | (obtain rfl := Option.some.inj found; decide)

/-! ## Patterns -/

namespace Text

/-- A run that is not empty starts with the first character. -/
theorem head?_take_leading (member : belongs c = true) (text : Text) :
    ((c :: text).take (leading belongs (c :: text))).head? = some c := by
  rw [leading_cons, if_pos member, List.take_succ_cons, List.head?_cons]

/-- A run and the character behind it. -/
theorem take_leading_add_one (next : (text.drop (leading belongs text)).head? = some c) :
    text.take (leading belongs text + 1) = text.take (leading belongs text) ++ [c] := by
  rw [List.take_add_one, ← List.head?_drop, next]
  rfl

end Text

namespace Pattern

/-- A custom property is a dash and a run of identifier characters that is not empty. -/
theorem customProperty?_eq_some {length : Nat} (found : customProperty? text = some length) :
    ∃ name, text = '-' :: name ∧ 0 < leading isIdentChar name ∧
      length = leading isIdentChar name + 1 := by
  unfold customProperty? at found
  split at found
  · next name =>
    obtain ⟨nonempty, length⟩ := Option.ite_none_right_eq_some.mp found
    exact ⟨name, rfl, nonempty, (Option.some.inj length).symm⟩
  · contradiction

/-- The front of a vendor's name is of ASCII. -/
theorem isAscii_of_vendorTail? {length : Nat} (found : vendorTail? text = some length) :
    ∀ c ∈ text.take length, c.isAscii = true := by
  obtain ⟨named, same⟩ := Option.ite_none_right_eq_some.mp found
  obtain rfl := Option.some.inj same
  obtain ⟨-, dash⟩ := Bool.and_eq_true_iff.mp named
  rw [Text.take_leading_add_one (eq_of_beq dash), List.forall_mem_append]
  refine ⟨fun c isHere => isAscii_of_isWordChar ?_, List.forall_mem_singleton.mpr rfl⟩
  exact (Text.maximalRun_leading isWordChar text).all c isHere

/-- A class name has a letter or an underscore first, behind a dash or not. -/
theorem className?_eq_some {length : Nat} (found : className? text = some length) :
    ∃ dash first name, text = dash ++ first :: name ∧ (dash = [] ∨ dash = ['-']) ∧
      (first.isAlpha = true ∨ first = '_') ∧
        length = dash.length + (leading isNameChar name + 1) := by
  have parts : ∃ dash tail, text = dash ++ tail ∧ (dash = [] ∨ dash = ['-']) ∧
      (if text.head? == some '-' then 1 else 0) = dash.length := by
    by_cases dashed : text.head? = some '-'
    · obtain ⟨tail, rfl⟩ := List.head?_eq_some_iff.mp dashed
      exact ⟨['-'], tail, rfl, .inr rfl, rfl⟩
    · exact ⟨[], text, rfl, .inl rfl, by simp [dashed]⟩
  obtain ⟨dash, tail, rfl, dashed, length⟩ := parts
  simp only [className?, length, List.drop_left] at found
  cases tail with
  | nil => contradiction
  | cons first name =>
    obtain ⟨starts, same⟩ := Option.ite_none_right_eq_some.mp found
    refine ⟨dash, first, name, rfl, dashed, by simpa using starts, ?_⟩
    rw [← Option.some.inj same, Nat.add_assoc, Nat.add_comm 1]

/-- What comes behind an exclamation mark is of ASCII up to white space. -/
theorem isAscii_of_importantTail (text : Text) :
    ∀ c ∈ text.take (importantTail text), c.isAscii = true ∨ isBlank c = true := by
  rw [importantTail, List.take_add, List.forall_mem_append]
  constructor
  · exact fun c isHere => .inr ((Text.maximalRun_leading isBlank text).all c isHere)
  · intro c isHere
    exact .inl (isAscii_of_isWordChar ((Text.maximalRun_leading isWordChar _).all c isHere))

/-- So is a brace and what stands in front of it. -/
theorem isAscii_of_braceAhead? {length : Nat} (found : braceAhead? text = some length) :
    ∀ c ∈ text.take length, c.isAscii = true ∨ isBlank c = true := by
  obtain ⟨brace, same⟩ := Option.ite_none_right_eq_some.mp found
  obtain rfl := Option.some.inj same
  have next : (text.drop (leading isBlank text)).head? = some '{' := by
    rw [Text.drop_leading]
    exact eq_of_beq brace
  rw [Text.take_leading_add_one next, List.forall_mem_append]
  have white := (Text.maximalRun_leading isBlank text).all
  exact ⟨fun c isHere => .inr (white c isHere), List.forall_mem_singleton.mpr (.inl rfl)⟩

end Pattern

/-! ## What the scanner reads -/

/-- The characters of a lexeme at the front of a text are what its kind says. -/
def Scanned.Lexes (opened : Option Continuation) (scanned : Scanned) (text : Text) : Prop :=
  Lexed opened scanned.token.kind (text.take scanned.length) (text.drop scanned.length)

namespace Scan

open Pattern

variable {rest : Text} {dialect : Dialect}

/-- A lexeme with a character in front of it. -/
theorem lexes_behind {scanned : Scanned}
    (lexed : Lexed opened scanned.token.kind (c :: rest.take scanned.length)
      (rest.drop scanned.length)) :
    (scanned.behind 1).Lexes opened (c :: rest) := by
  rw [Scanned.Lexes, Scanned.behind, Nat.add_comm, List.take_succ_cons, List.drop_succ_cons]
  exact lexed

/-- A plain token of a single character. -/
theorem lexes_bare (isPlain : kind ∈ Kind.plain) (ascii : c.isAscii = true) :
    (Scanned.bare kind 1).Lexes opened (c :: rest) :=
  lexed_of_plain isPlain (by simp [Scanned.bare, ascii])

/-- A plain token of two characters. -/
theorem lexes_bare_two (isPlain : kind ∈ Kind.plain) (ascii : c.isAscii = true) {next : Char}
    (nextAscii : next.isAscii = true) :
    (Scanned.bare kind 2).Lexes opened (c :: next :: rest) :=
  lexed_of_plain isPlain (by simp [Scanned.bare, ascii, nextAscii])

/-- The kind of a variable does not tell what it is made of. -/
theorem lexed_variableOf (isVariable : VariableLexeme text behind) (length : Nat) (ahead : Text) :
    Lexed opened (variableOf length ahead).token.kind text behind := by
  unfold variableOf
  split <;> exact isVariable

/-- A number goes on behind a digit. -/
theorem lexes_number (digit : c.isDigit = true) (rest : Text) :
    ((number rest).behind 1).Lexes opened (c :: rest) := by
  have run := Text.maximalRun_leading isUnitChar rest
  exact lexes_behind ⟨_, .inl rfl, ⟨c, rfl, .inl digit⟩, run.cons (isUnitChar_of_isDigit digit)⟩

/-- Behind a dash there is a number, a custom property or the front of a vendor's name, each as long
as it may be, or nothing that goes with the dash. -/
theorem lexes_dash (rest : Text) : ((dash rest).behind 1).Lexes opened ('-' :: rest) := by
  refine lexes_behind ?_
  unfold dash
  split
  · next numeric =>
    obtain ⟨first, isFirst, starts⟩ := (Option.any_eq_true _ _).mp numeric
    obtain ⟨digits, rfl⟩ := List.head?_eq_some_iff.mp isFirst
    have begins : first.isDigit = true ∨ first = '.' := by simpa using starts
    have isUnit : isUnitChar first = true := by
      rcases begins with digit | rfl
      · exact isUnitChar_of_isDigit digit
      · decide
    exact ⟨_, .inr rfl, ⟨first, Text.head?_take_leading isUnit digits, begins⟩,
      Text.maximalRun_leading isUnitChar (first :: digits)⟩
  · split
    · next length custom =>
      obtain ⟨name, rfl, nonempty, rfl⟩ := customProperty?_eq_some custom
      have run := Text.maximalRun_leading isIdentChar name
      have some : name.take (leading isIdentChar name) ≠ [] := by
        have within := Text.leading_le_length isIdentChar name
        exact List.ne_nil_of_length_pos (by rw [List.length_take]; omega)
      exact lexed_variableOf (.customProperty rfl some run) _ _
    · split
      · next length vendor =>
        refine lexed_of_plain (by decide : Kind.vendor ∈ Kind.plain) ?_
        refine List.forall_mem_cons.mpr ⟨.inl rfl, fun c isHere => ?_⟩
        exact .inl (isAscii_of_vendorTail? vendor c isHere)
      · exact ⟨'-', rfl⟩

/-- Behind a dot there is a number or a class name, or nothing that goes with the dot. -/
theorem lexes_dot (rest : Text) : ((dot rest).behind 1).Lexes opened ('.' :: rest) := by
  refine lexes_behind ?_
  unfold dot
  split
  · have run := Text.maximalRun_leading isUnitChar rest
    exact ⟨_, .inl rfl, ⟨'.', rfl, .inr rfl⟩, run.cons rfl⟩
  · split
    · next length named =>
      obtain ⟨dash, first, name, rfl, dashed, starts, rfl⟩ := className?_eq_some named
      have run := Text.maximalRun_leading isNameChar name
      simp only [Scanned.styled]
      rw [List.take_length_add_append, List.drop_length_add_append, List.take_succ_cons,
        List.drop_succ_cons]
      exact .intro rfl dashed starts run
    · exact ⟨'.', rfl⟩

/-- A word goes on as far as it may, be it the name of a function or not; any other character is a
token of its own. -/
theorem lexes_identifier (other : c.isDigit = false) (notDash : c ≠ '-') (rest : Text) :
    (identifier c rest).Lexes opened (c :: rest) := by
  unfold identifier
  split
  · next length named =>
    obtain ⟨name, isName, after, split, rfl⟩ := rawFunction?_eq_some named
    have all : (∃ first ∈ name.toList.head?, first.isAlpha = true) ∧
        ∀ c ∈ name.toList, isIdentChar c = true := by
      simp only [rawFunctions, List.mem_cons, List.not_mem_nil, or_false] at isName
      rcases isName with rfl | rfl | rfl | rfl
      · exact ⟨⟨'u', rfl, rfl⟩, List.all_eq_true.mp (by decide)⟩
      · exact ⟨⟨'u', rfl, rfl⟩, List.all_eq_true.mp (by decide)⟩
      · exact ⟨⟨'d', rfl, rfl⟩, List.all_eq_true.mp (by decide)⟩
      · exact ⟨⟨'r', rfl, rfl⟩, List.all_eq_true.mp (by decide)⟩
    obtain ⟨⟨first, isFirst, letter⟩, idents⟩ := all
    rw [Scanned.Lexes, split, List.take_left, List.drop_left]
    exact ⟨⟨first, isFirst, .inl letter⟩, idents, by simp; decide⟩
  · split
    · next ident =>
      have run := Text.maximalRun_leading isIdentChar (c :: rest)
      have first : c.isAlpha = true ∨ c = '_' ∨ c = '\\' := by
        simpa [isIdentChar, isWordChar, Char.isAlphanum, other, notDash, or_assoc] using ident
      exact ⟨⟨c, Text.head?_take_leading ident rest, first⟩, run⟩
    · exact ⟨c, rfl⟩

/-- The shared rules read as far as they may. -/
theorem lexes_shared (c : Char) (rest : Text) : (shared c rest).Lexes none (c :: rest) := by
  have equalsSign {first : Char} (ascii : first.isAscii = true) :
      (if rest.head? == some '=' then Scanned.bare .compare 2
        else .bare .unclassified 1).Lexes none (first :: rest) := by
    split
    · next equals =>
      obtain ⟨after, rfl⟩ := List.head?_eq_some_iff.mp (eq_of_beq equals)
      exact lexes_bare_two (by decide) ascii rfl
    · exact ⟨first, rfl⟩
  have quoted (quote : Quote) : ((string quote rest).behind 1).Lexes none (quote.char :: rest) := by
    refine lexes_behind ?_
    rw [string_token]
    exact .inr ⟨quote, .inr ⟨rfl, rfl⟩⟩
  unfold shared
  split
  · exact lexes_behind ⟨_, rfl, Text.maximalRun_leading isIdentChar rest⟩
  · exact lexes_bare (by decide) rfl
  · exact equalsSign rfl
  · exact equalsSign rfl
  · exact quoted .double
  · exact quoted .single
  · exact lexes_behind ⟨_, rfl, Text.maximalRun_leading isIdentChar rest⟩
  · refine lexes_behind (lexed_of_plain (by decide : Kind.important ∈ Kind.plain) ?_)
    exact List.forall_mem_cons.mpr ⟨.inl rfl, isAscii_of_importantTail rest⟩
  · exact lexes_dash rest
  · exact lexes_dot rest
  · exact lexes_bare (by decide) rfl
  · exact lexes_bare (by decide) rfl
  · exact lexes_bare (by decide) rfl
  · exact lexes_bare (by decide) rfl
  · exact lexes_bare (by decide) rfl
  · next notDash _ _ _ _ _ _ =>
    split
    · next digit => exact lexes_number digit rest
    · next other =>
      split
      · next kind mark =>
        obtain ⟨isPlain, ascii⟩ := plain_of_punctuation? mark
        exact lexes_bare isPlain ascii
      · exact lexes_identifier (by simpa using other) notDash rest

/-- The constructs of a dialect are read as far as they may. -/
theorem lexes_hook {construct : Hook} {scanned : Scanned}
    (hooked : dialect.hook? c = some construct) (found : hook construct rest = some scanned) :
    (scanned.behind 1).Lexes none (c :: rest) := by
  refine lexes_behind ?_
  have blockComment (slash : c = '/') (star : (rest.head? == some '*') = true) (behind : Text) :
      Lexed none ((comment (rest.drop 1)).behind 1).token.kind
        (c :: rest.take ((comment (rest.drop 1)).behind 1).length) behind := by
    obtain ⟨body, rfl⟩ := List.head?_eq_some_iff.mp (eq_of_beq star)
    rw [slash, Scanned.behind, comment_token, Nat.add_comm, List.take_succ_cons]
    exact .inr ⟨rfl, .inl ⟨_, rfl⟩⟩
  have opening (ascii : c.isAscii = true) (brace : (rest.head? == some '{') = true)
      (behind : Text) :
      Lexed none .interpolation (c :: rest.take 1) behind := by
    obtain ⟨inside, rfl⟩ := List.head?_eq_some_iff.mp (eq_of_beq brace)
    exact lexed_of_plain (by decide) (by simp [ascii]; decide)
  cases construct with
  | blockComment =>
    obtain rfl : c = '/' := eq_char_of_hook? hooked
    obtain ⟨star, same⟩ := Option.ite_none_right_eq_some.mp found
    obtain rfl := Option.some.inj same
    exact blockComment rfl star _
  | comments =>
    obtain rfl : c = '/' := eq_char_of_hook? hooked
    simp only [hook] at found
    split at found
    · next slash =>
      obtain rfl := Option.some.inj found
      obtain ⟨body, rfl⟩ := List.head?_eq_some_iff.mp (eq_of_beq slash)
      exact .inr ⟨rfl, .inr ⟨body, by simp [Scanned.styled]⟩⟩
    · split at found
      · next star =>
        obtain rfl := Option.some.inj found
        exact blockComment rfl star _
      · obtain rfl := Option.some.inj found
        refine lexed_of_plain (by decide : Kind.operator ∈ Kind.plain) ?_
        exact List.forall_mem_singleton.mpr (.inl rfl)
  | nestedPropertyColon =>
    obtain ⟨length, ahead, rfl⟩ := Option.map_eq_some_iff.mp found
    obtain rfl : c = ':' := eq_char_of_hook? hooked
    refine lexed_of_plain (by decide : Kind.braceOpen ∈ Kind.plain) ?_
    exact List.forall_mem_cons.mpr ⟨.inl rfl, isAscii_of_braceAhead? ahead⟩
  | dollarVariable =>
    obtain rfl := Option.some.inj found
    obtain rfl : c = '$' := eq_char_of_hook? hooked
    exact lexed_variableOf (.dollarSign rfl (Text.maximalRun_leading isNameChar rest)) _ _
  | hashInterpolation =>
    obtain ⟨brace, same⟩ := Option.ite_none_right_eq_some.mp found
    obtain rfl := Option.some.inj same
    obtain rfl : c = '#' := eq_char_of_hook? hooked
    exact opening rfl brace _
  | atVariable =>
    obtain rfl : c = '@' := eq_char_of_hook? hooked
    simp only [hook] at found
    split at found
    · next brace =>
      obtain rfl := Option.some.inj found
      exact opening rfl brace _
    · split at found
      · contradiction
      · obtain rfl := Option.some.inj found
        exact lexed_variableOf (.atSign rfl (Text.maximalRun_leading isIdentChar rest)) _ _
  | parentSelector =>
    obtain rfl := Option.some.inj found
    obtain rfl : c = '&' := eq_char_of_hook? hooked
    refine lexed_of_plain (by decide : Kind.atom ∈ Kind.plain) ?_
    exact List.forall_mem_singleton.mpr (.inl rfl)

/-- Where nothing is open, a lexeme is as long as it may be. -/
theorem lexes_base (dialect : Dialect) (c : Char) (rest : Text) :
    (base dialect (c :: rest)).Lexes none (c :: rest) := by
  simp only [base]
  split
  · next scanned found =>
    obtain ⟨construct, hooked, read⟩ := Option.bind_eq_some_iff.mp found
    exact lexes_hook hooked read
  · exact lexes_shared c rest

end Scan

/-- A lexeme is what its kind says, if the name of a function has its parenthesis behind it. -/
theorem lexes_scan (dialect : Dialect) (rest : Text)
    (paren : opened = some .argument → c = '(') :
    (scan dialect opened (c :: rest)).Lexes opened (c :: rest) := by
  match opened with
  | none => exact Scan.lexes_base dialect c rest
  | some (.string quote) =>
    rw [Scanned.Lexes, scan, Scan.string_token]
    exact .inr ⟨quote, .inl rfl⟩
  | some .comment =>
    rw [Scanned.Lexes, scan, Scan.comment_token]
    exact .inl rfl
  | some .rawArgument =>
    rw [Scanned.Lexes, scan, Scan.rawArgument_token]
    exact .inl rfl
  | some .argument =>
    obtain rfl := paren rfl
    refine lexed_of_plain (by decide : Kind.parenOpen ∈ Kind.plain) ?_
    have one : min ('(' :: rest).length 1 = 1 := by simp
    rw [scan, Scan.argument, one, List.take_succ_cons, List.take_zero]
    exact List.forall_mem_singleton.mpr (.inl rfl)

/-! ## Tokens -/

namespace Mode

variable {mode : Mode} {line : Text} {entry state : ParseState} {cursor : Cursor}

/-- So is what is read at the front of a text. -/
theorem lexed_read (indentation : UInt64) (rest : Text)
    (paren : state.continuation = some .argument → c = '(') {reading : Reading}
    (reads : mode.read indentation [] (c :: rest) state = reading) :
    Lexed state.continuation reading.token.kind ((c :: rest).take reading.length)
      ((c :: rest).drop reading.length) := by
  rcases mode.read_cases indentation [] (c :: rest) state with ⟨nothing, blank, passes⟩ | passes
  · obtain rfl := passes.symm.trans reads
    have run := Text.maximalRun_leading isBlank (c :: rest)
    refine ⟨?_, run⟩
    simp [blank.ne']
  · obtain rfl := passes.symm.trans reads
    exact lexes_scan mode.dialect rest paren

/-- So is what is read at the second try, if there is one. -/
theorem lexed_readSome (indentation : UInt64) (rest : Text)
    (paren : state.continuation = some .argument → c = '(') {reading : Reading}
    (reads : mode.readSome indentation (c :: rest) attempts state = reading) :
    Lexed state.continuation reading.token.kind ((c :: rest).take reading.length)
      ((c :: rest).drop reading.length) := by
  obtain ⟨tries, enough⟩ := exists_attempts_eq
  obtain ⟨passed, tried, -, first⟩ := mode.exists_readSome_eq_read indentation c rest state tries
  rw [enough, tried] at reads
  rcases first with rfl | ⟨empty, rfl⟩
  · exact lexed_read indentation rest paren reads
  · obtain ⟨raw, rfl⟩ := mode.length_read_eq_zero_iff.mp empty
    have nothing : (mode.read indentation [] (')' :: rest) state).state.continuation = none := by
      rw [(mode.read_rawArgument_parenClose indentation [] rest raw).2]
    obtain ⟨one, closes⟩ := mode.read_parenClose indentation [] rest nothing
    rw [← reads, one, closes]
    exact lexed_of_plain (by decide) (by simp; decide)

/-- In front of every token of a line stands a host that reads the line. -/
theorem OnLine.of_tokensFrom_append (here : mode.OnLine line entry cursor state) {offset : Nat}
    {before after : List PlacedToken}
    (split : mode.tokensFrom (Text.indentation mode.settings.tabSize line) 0 cursor.rest offset
      state = before ++ after) :
    ∃ there, mode.OnLine line entry there (stateBehind before state) ∧
      cursor.rest = before.flatMap PlacedToken.text ++ there.rest := by
  induction before generalizing cursor state offset with
  | nil => exact ⟨cursor, here, rfl⟩
  | cons first before ih =>
    cases left : cursor.rest with
    | nil => rw [left] at split; contradiction
    | cons c rest =>
      obtain ⟨behind, there, further⟩ := here.readSome left rfl
      rw [left, mode.tokensFrom_of_readSome (List.cons_ne_nil c rest) rfl, ← further] at split
      obtain ⟨rfl, more⟩ := List.cons.inj split
      obtain ⟨final, last, tail⟩ := ih there more
      refine ⟨final, ?_, ?_⟩
      · rw [stateBehind_cons]
        exact last
      · rw [List.flatMap_cons, List.append_assoc, ← tail, further, List.take_append_drop]

/-- On a line in front of which no function waits for its parenthesis, every token is as long as it
may be. What is behind it is the text of the tokens behind it. -/
theorem maximal_of_lineTokens {before after : List PlacedToken} {placed : PlacedToken}
    (complete : entry.continuation ≠ some .argument)
    (split : mode.lineTokens line entry = before ++ placed :: after) :
    line = before.flatMap PlacedToken.text ++ (placed.text ++ after.flatMap PlacedToken.text) ∧
      Maximal (stateBehind before entry).continuation placed.token.kind placed.text
        (after.flatMap PlacedToken.text) := by
  let indentation := Text.indentation mode.settings.tabSize line
  let state := stateBehind before entry
  have started : OnLine mode line entry (.ofLine mode.settings.tabSize line) entry := .start
  obtain ⟨there, here, whole⟩ := started.of_tokensFrom_append split
  have further := eq_tokensFrom_of_append split whole
  cases left : there.rest with
  | nil => rw [left] at further; contradiction
  | cons c rest =>
    obtain ⟨reading, reads⟩ : ∃ reading,
        mode.readSome indentation (c :: rest) attempts state = reading := ⟨_, rfl⟩
    rw [left, mode.tokensFrom_of_readSome (List.cons_ne_nil c rest) reads] at further
    obtain ⟨rfl, others⟩ := List.cons.inj further
    have paren : state.continuation = some .argument → c = '(' := by
      intro named
      have head := ((here.poised complete).argument named).1
      rw [left] at head
      exact Option.some.inj head
    have covered : after.flatMap PlacedToken.text = (c :: rest).drop reading.length := by
      rw [others]
      exact mode.flatMap_text_tokensFrom _ _ _ _
    rw [covered]
    refine ⟨?_, (mode.lexed_readSome indentation rest paren reads).maximal⟩
    rw [List.take_append_drop, ← left]
    exact whole

/-- Every token of a document is as long as it may be: on its line it stands between the texts of
the tokens in front of it and of those behind it, and what is behind it does not go on with it. -/
theorem maximal_of_mem_highlight (mode : Mode) (document : Text) :
    ∀ token ∈ mode.highlight document,
      let entry := mode.linesEnd ((lines document).take token.line) (mode.startState 0)
      ∃ line before placed after, (lines document)[token.line]? = some line ∧
        mode.lineTokens line entry = before ++ placed :: after ∧
        token = placed.onLine token.line ∧
        line = before.flatMap PlacedToken.text ++
          (token.text ++ after.flatMap PlacedToken.text) ∧
        Maximal (stateBehind before entry).continuation token.token.kind token.text
          (after.flatMap PlacedToken.text) := by
  intro token isToken entry
  obtain ⟨line, before, placed, after, isLine, split, same⟩ :=
    exists_lineTokens_of_mem_highlight isToken
  have complete : entry.continuation ≠ some .argument :=
    (overLines_linesEnd _ _).continuation_ne_argument rfl
  have maximal := maximal_of_lineTokens complete split
  refine ⟨line, before, placed, after, isLine, split, same, ?_⟩
  rw [same]
  exact maximal

/-- A class name ends in front of a character that names are not made of. -/
theorem maximal_classNameInFrontOfForeign :
    let css := ofDialect .css
    let document := "é .-aé".toList
    let token : DocumentToken := ⟨0, 3, 6, ".-a".toList, .styled .qualifier .qualifier⟩
    let entry := css.linesEnd ((lines document).take token.line) (css.startState 0)
    token ∈ css.highlight document ∧
      ∃ line before placed after, (lines document)[token.line]? = some line ∧
        css.lineTokens line entry = before ++ placed :: after ∧
        token = placed.onLine token.line ∧
        line = before.flatMap PlacedToken.text ++
          (token.text ++ after.flatMap PlacedToken.text) ∧
        Maximal (stateBehind before entry).continuation token.token.kind token.text
          (after.flatMap PlacedToken.text) := by
  intro css document token entry
  have isToken : token ∈ css.highlight document := by decide +kernel
  exact ⟨isToken, css.maximal_of_mem_highlight document token isToken⟩

end Mode

end Stylesheet
