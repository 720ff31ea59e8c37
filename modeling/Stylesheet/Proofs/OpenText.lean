import Stylesheet.Proofs.Reading
import Stylesheet.Proofs.Settling

/-!
# Text that is left open

Strings and comments are `Inert`: no scope and nothing that is awaited asks what they say. So a step
at one of them ends the waiting and does nothing else (`Context.step_of_inert`). A string, a comment
or a raw argument is left open only by a token behind which nothing is awaited, and so the steps at
what follows of it change nothing at all.
-/
namespace Stylesheet

open Grammar (react awaited)

/-- Strings and comments. -/
def Kind.Inert (kind : Kind) : Prop := kind = .string ∨ kind = .comment

/-- What a string or a comment is painted with: it is out of place in an interpolation. -/
def Scope.paint (style : Style) : Scope → Style
  | interpolation => .error
  | _ => style

/-- It is painted as it was scanned anywhere else. -/
theorem Scope.paint_eq (style : Style) (scope : Scope) :
    scope.paint style = if scope = .interpolation then .error else style := by
  cases scope <;> rfl

variable {dialect : Dialect} {rule : Option DescriptorRule} {lexeme : Lexeme}

/-- Every scope stays at a string or a comment. -/
theorem react_of_inert (inert : lexeme.token.kind.Inert) (scope : Scope) :
    react dialect rule lexeme scope = .settle ⟨.stay, scope.paint lexeme.token.style⟩ := by
  cases scope with
  | body list =>
    cases list <;> rcases inert with kind | kind <;>
      simp [react, Grammar.inBody, Grammar.inDeclarations, Grammar.inRules, kind, Lexeme.keep,
        Scope.paint]
  | _ =>
    rcases inert with kind | kind <;>
      simp [react, Grammar.inPropertyBlock, Grammar.inValue, Grammar.inParens,
        Grammar.inDocumentTypes, Grammar.inCondition, Grammar.inConditionParens,
        Grammar.inComponent, Grammar.inDescriptors, Grammar.inAtRule, Grammar.inInterpolation,
        kind, Lexeme.keep, Scope.paint]

/-- Nothing awaits a string or a comment. -/
theorem awaited_of_inert (inert : lexeme.token.kind.Inert) (token : Awaiting) :
    awaited rule lexeme token = none := by
  rcases inert with kind | kind <;> cases token <;> simp [awaited, kind]

/-- No scope awaits anything behind an opening parenthesis. -/
theorem react_of_parenOpen (paren : lexeme.token.kind = .parenOpen) {scope : Scope}
    {answer : Answer} (settles : react dialect rule lexeme scope = .settle answer) :
    answer.move = .stay ∨ ∃ inner, answer.move = .enter inner := by
  cases scope with
  | body list =>
    cases list <;> cases settles <;> cases nesting : dialect.allowsNesting <;>
      simp [Grammar.inBody, Grammar.inDeclarations, Grammar.inRules, paren, Lexeme.keep, nesting]
  | _ =>
    simp only [react, Grammar.inPropertyBlock, Grammar.inValue, Grammar.inParens,
      Grammar.inDocumentTypes, Grammar.inCondition, Grammar.inConditionParens,
      Grammar.inComponent, Grammar.inDescriptors, Grammar.inAtRule, Grammar.inInterpolation,
      paren, reduceCtorEq, false_and, if_false] at settles
    cases settles
    simp [Lexeme.keep]

/-- Nothing awaits an opening parenthesis. -/
theorem awaited_of_parenOpen (paren : lexeme.token.kind = .parenOpen) (token : Awaiting) :
    awaited rule lexeme token = none := by
  cases token <;> simp [awaited, paren]

namespace Context

variable (layout : Layout) (context : Context)

/-- A string or a comment ends the waiting and does nothing else. -/
theorem step_of_inert (inert : lexeme.token.kind.Inert) :
    context.step dialect layout lexeme =
      (context.nesting.innermost.scope.paint lexeme.token.style,
        { context with awaiting := none }) :=
  step_of_settle layout (awaitedAnswer?_of_awaited (awaited_of_inert inert))
    (react_of_inert inert _)

/-- Nothing is awaited behind an opening parenthesis. -/
theorem awaiting_step_of_parenOpen (paren : lexeme.token.kind = .parenOpen) :
    (context.step dialect layout lexeme).2.awaiting = none := by
  rw [step_of_not_awaited layout
    (awaitedAnswer?_of_awaited (awaited_of_parenOpen paren))]
  rcases react_of_parenOpen paren (context.react_settled dialect lexeme) with stay | ⟨inner, enter⟩
  · rw [stay]; rfl
  · rw [enter]; rfl

end Context

/-! ## What leaves text open -/

/-- The character that a construct stands behind. -/
def Hook.char : Hook → Char
  | blockComment => '/'
  | comments => '/'
  | nestedPropertyColon => ':'
  | dollarVariable => '$'
  | hashInterpolation => '#'
  | atVariable => '@'
  | parentSelector => '&'

/-- Characters in front of characters in front of a lexeme. -/
theorem Scanned.behind_behind (scanned : Scanned) (first second : Nat) :
    (scanned.behind first).behind second = scanned.behind (second + first) := by
  simp only [Scanned.behind, Nat.add_assoc]

namespace Scan

/-- A comment is one, also where it is left open. -/
theorem comment_token (text : Text) : (comment text).token = .styled .comment .comment := by
  unfold comment
  split <;> rfl

/-- A string is one, also where it is left open. -/
theorem string_token (quote : Quote) (text : Text) :
    (string quote text).token = .styled .string .string := by
  unfold string
  split <;> rfl

/-- A raw argument is a string, also where it is left open. -/
theorem rawArgument_token (text : Text) : (rawArgument text).token = .styled .string .string := by
  unfold rawArgument
  split <;> rfl

/-- What is found as the name of a raw function is one, and a parenthesis follows. -/
theorem rawFunction?_eq_some {text : Text} {length : Nat}
    (found : Pattern.rawFunction? text = some length) :
    ∃ name ∈ Pattern.rawFunctions, ∃ rest,
      text = name.toList ++ '(' :: rest ∧ length = name.toList.length := by
  obtain ⟨name, isFirst, rfl⟩ := Option.map_eq_some_iff.mp found
  have isName : name ∈ Pattern.rawFunctions := List.mem_of_find?_eq_some isFirst
  have starts := List.find?_some isFirst
  obtain ⟨rest, rfl⟩ : name.toList ++ ['('] <+: text := List.isPrefixOf_iff_prefix.mp starts
  exact ⟨name, isName, rest, List.append_assoc .., String.length_toList.symm⟩

/-- The name of a raw function has characters. -/
theorem length_rawFunction?_pos {text : Text} {length : Nat}
    (found : Pattern.rawFunction? text = some length) : 0 < length := by
  obtain ⟨name, isName, rest, -, rfl⟩ := rawFunction?_eq_some found
  simp only [Pattern.rawFunctions, List.mem_cons, List.not_mem_nil, or_false] at isName
  rcases isName with rfl | rfl | rfl | rfl <;> decide

/-- The lexemes that may leave text open where nothing was open. -/
inductive Opening (text : Text) : Scanned → Prop
  /-- A block comment. -/
  | comment {body : Text} (opens : text = '/' :: '*' :: body) :
    Opening text ((comment body).behind 2)
  /-- A string. -/
  | string {quote : Quote} {body : Text} (opens : text = quote.char :: body) :
    Opening text ((string quote body).behind 1)
  /-- The name of a function whose argument need not be quoted. -/
  | function {length : Nat} (named : Pattern.rawFunction? text = some length) :
    Opening text ⟨length, .styled .property .word, some .argument⟩

/-- A construct stands behind the same character in every dialect that has it. -/
theorem eq_char_of_hook? {c : Char} {construct : Hook} (found : dialect.hook? c = some construct) :
    c = construct.char := by
  have all : ∀ other ∈ Dialect.all, ∀ entry ∈ other.hooks, entry.1 = entry.2.char := by decide
  have isDialect : dialect ∈ Dialect.all := by cases dialect <;> decide
  obtain ⟨before, behind, hooks, -⟩ := List.lookup_eq_some_iff.mp found
  have listed : (c, construct) ∈ dialect.hooks := by
    rw [hooks]
    exact List.mem_append_right before List.mem_cons_self
  exact all dialect isDialect (c, construct) listed

/-- The constructs of a dialect leave nothing open but block comments. -/
theorem hook_opening {c : Char} {construct : Hook} {rest : Text} {scanned : Scanned}
    (hooked : dialect.hook? c = some construct) (found : hook construct rest = some scanned) :
    scanned.continuation = none ∨ Opening (c :: rest) (scanned.behind 1) := by
  have blockComment (slash : c = '/') (star : (rest.head? == some '*') = true) :
      Opening (c :: rest) (((comment (rest.drop 1)).behind 1).behind 1) := by
    obtain ⟨body, rfl⟩ : ∃ body, rest = '*' :: body := List.head?_eq_some_iff.mp (eq_of_beq star)
    subst slash
    rw [Scanned.behind_behind]
    exact .comment rfl
  cases construct with
  | blockComment =>
    simp only [hook, Option.ite_none_right_eq_some, Option.some.injEq] at found
    obtain ⟨star, rfl⟩ := found
    exact .inr (blockComment (eq_char_of_hook? hooked) star)
  | comments =>
    simp only [hook] at found
    split at found
    · cases found; exact .inl rfl
    · split at found
      · next star =>
        cases found
        exact .inr (blockComment (eq_char_of_hook? hooked) star)
      · cases found; exact .inl rfl
  | nestedPropertyColon =>
    obtain ⟨length, -, rfl⟩ := Option.map_eq_some_iff.mp found
    exact .inl rfl
  | dollarVariable =>
    cases found
    exact .inl rfl
  | hashInterpolation =>
    simp only [hook, Option.ite_none_right_eq_some, Option.some.injEq] at found
    obtain ⟨-, rfl⟩ := found
    exact .inl rfl
  | atVariable =>
    simp only [hook] at found
    repeat' split at found
    all_goals cases found
    all_goals exact .inl rfl
  | parentSelector =>
    cases found
    exact .inl rfl

/-- The shared rules leave nothing open but strings and functions. -/
theorem shared_opening (c : Char) (rest : Text) :
    (shared c rest).continuation = none ∨ Opening (c :: rest) (shared c rest) := by
  unfold shared
  split
  case h_5 => exact .inr (@Opening.string _ .double rest rfl)
  case h_6 => exact .inr (@Opening.string _ .single rest rfl)
  case h_16 =>
    split
    · exact .inl rfl
    · split
      · exact .inl rfl
      · unfold identifier
        split
        · next named => exact .inr (.function named)
        · split <;> exact .inl rfl
  case h_9 =>
    left
    simp only [Scanned.behind, dash]
    repeat' split
    all_goals rfl
  case h_10 =>
    left
    simp only [Scanned.behind, dot]
    repeat' split
    all_goals rfl
  case h_3 => split <;> exact .inl rfl
  case h_4 => split <;> exact .inl rfl
  all_goals exact .inl rfl

/-- Where nothing is open nothing is left open, but by a comment, a string or a function. -/
theorem base_opening (dialect : Dialect) (text : Text) :
    (base dialect text).continuation = none ∨ Opening text (base dialect text) := by
  cases text with
  | nil => exact .inl rfl
  | cons c rest =>
    simp only [base]
    split
    · next scanned found =>
      obtain ⟨construct, hooked, read⟩ := Option.bind_eq_some_iff.mp found
      exact hook_opening hooked read
    · exact shared_opening c rest

/-- Where nothing is open, only strings and comments are left open, and functions in front of their
parentheses. -/
theorem base_of_opened {text : Text} {opened : Continuation}
    (opens : (base dialect text).continuation = some opened) (other : opened ≠ .argument) :
    (base dialect text).token.kind.Inert := by
  rcases base_opening dialect text with nothing | opening
  · rw [nothing] at opens
    contradiction
  · generalize base dialect text = scanned at opens opening ⊢
    cases opening with
    | comment => exact .inr (congrArg Token.kind (comment_token _))
    | @string quote body => exact .inl (congrArg Token.kind (string_token quote body))
    | function => exact absurd (Option.some.inj opens).symm other

end Scan

/-- What goes on with an open text is a string or a comment. -/
theorem scan_inert {opened : Continuation} (other : opened ≠ .argument) (text : Text) :
    (scan dialect (some opened) text).token.kind.Inert := by
  cases opened with
  | string quote => exact .inl (congrArg Token.kind (Scan.string_token quote text))
  | comment => exact .inr (congrArg Token.kind (Scan.comment_token text))
  | argument => contradiction
  | rawArgument => exact .inl (congrArg Token.kind (Scan.rawArgument_token text))

/-- Only tokens of these kinds leave text open. -/
theorem scan_of_opened {continuation : Option Continuation} {text : Text} {opened : Continuation}
    (opens : (scan dialect continuation text).continuation = some opened)
    (other : opened ≠ .argument) :
    (scan dialect continuation text).token.kind.Inert ∨
      (scan dialect continuation text).token.kind = .parenOpen := by
  match continuation with
  | none => exact .inl (Scan.base_of_opened opens other)
  | some .argument => exact .inr rfl
  | some (.string _) | some .comment | some .rawArgument => exact .inl (scan_inert (by simp) text)

/-! ## While text is open -/

/-- Nothing is awaited while text is open. -/
def ParseState.Quiet (state : ParseState) : Prop :=
  ∀ opened, state.continuation = some opened → opened ≠ .argument → state.context.awaiting = none

/-- To end the waiting changes nothing while text is open. -/
theorem ParseState.Quiet.context_eq {state : ParseState} (quiet : state.Quiet)
    {opened : Continuation} (opens : state.continuation = some opened)
    (other : opened ≠ .argument) : { state.context with awaiting := none } = state.context := by
  rw [← quiet opened opens other]

namespace Mode

variable (mode : Mode)

/-- What goes on with an open text ends the waiting and does nothing else, whatever line it is
on. -/
theorem read_of_opened {state : ParseState} {opened : Continuation}
    (opens : state.continuation = some opened) (other : opened ≠ .argument)
    (indentation : UInt64) (carried rest : Text) :
    mode.read indentation carried rest state =
      { length := (scan mode.dialect (some opened) rest).length
        token :=
          { style := state.context.nesting.innermost.scope.paint
              (scan mode.dialect (some opened) rest).token.style
            kind := (scan mode.dialect (some opened) rest).token.kind }
        state :=
          { continuation := (scan mode.dialect (some opened) rest).continuation
            context := { state.context with awaiting := none } } } := by
  have inert : (scan mode.dialect (some opened) rest).token.kind.Inert := scan_inert other rest
  have continues : state.continuation = none → Text.leading Text.isBlank rest = 0 := by
    simp [opens]
  simp only [mode.read_of_lexeme continues, readLexeme, opens]
  rw [Context.step_of_inert _ _ inert]

/-- Nothing is awaited behind a token that leaves text open. -/
theorem read_quiet (indentation : UInt64) (carried rest : Text) (state : ParseState) :
    (mode.read indentation carried rest state).state.Quiet := by
  intro opened opens other
  rcases mode.read_cases indentation carried rest state with ⟨nothing, -, reads⟩ | reads
  · rw [reads, nothing] at opens
    contradiction
  · rw [reads] at opens ⊢
    rcases scan_of_opened opens other with inert | paren
    · rw [readLexeme, Context.step_of_inert _ _ inert]
    · exact Context.awaiting_step_of_parenOpen _ _ paren

/-- Wherever reading comes, nothing is awaited while text is open. -/
theorem Reachable.quiet {mode : Mode} {indent : UInt64} {state : ParseState}
    (reachable : mode.Reachable indent state) : state.Quiet := by
  cases reachable with
  | start => simp [ParseState.Quiet, startState, ParseState.start]
  | next cursor reached => exact mode.read_quiet _ _ _ _

end Mode

end Stylesheet
