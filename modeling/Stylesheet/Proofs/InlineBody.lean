import Mathlib.Data.List.Forall2
import Stylesheet.Proofs.Progress
import Stylesheet.Proofs.Seating
import Stylesheet.Proofs.Trace

/-!
# A list by itself and in a block

A list of declarations may be a whole text, as in an attribute, or the block of a rule. To put a
context `inside` a block adds two scopes under its own: the list becomes a scope like others, and
another list is the root. No scope above them is asked about what is under it, so a step does the
same in both places, except for the brace that closes the block (`Context.Seated.step_inside`). What
is read from a text is the same until then (`Mode.inline_agrees`).
-/
namespace Stylesheet

open Grammar (react awaited)

/-- What is around a list in a block. -/
structure Surroundings where
  /-- The column that the content of the block is indented to. -/
  indent : UInt64
  /-- The outermost list. -/
  root : Root
  deriving DecidableEq, Repr

variable {dialect : Dialect} {rule : Option DescriptorRule} {lexeme : Lexeme}
  (around : Surroundings)

/-- The scopes in a block: the root becomes a scope over another root. -/
def Nesting.inside (nesting : Nesting) : Nesting :=
  ⟨nesting.opened ++ [⟨.body nesting.root.body, around.indent⟩], around.root⟩

/-- The context in a block. -/
def Context.inside (context : Context) : Context :=
  { context with nesting := context.nesting.inside around }

/-- The state in a block. -/
def ParseState.inside (state : ParseState) : ParseState :=
  { state with context := state.context.inside around }

/-! ## Which scopes ask for what is under them -/

/-- The scopes that close with one that yields are above the root. -/
theorem Nesting.Seated.others_le_length {frame : Frame} {below : List Frame} {root : Root}
    (seated : Nesting.Seated dialect ⟨frame :: below, root⟩) {others : Nat}
    (yields : react dialect rule lexeme frame.scope = .yield others) :
    others ≤ below.length := by
  rcases others_of_yield yields with rfl | ⟨parens, rfl⟩
  · exact Nat.zero_le _
  · have seat := seated.seat_of_cons
    rw [parens] at seat
    refine List.length_pos_iff.mpr fun bare => ?_
    simp [bare, Root.frame, Dialect.seats] at seat

/-- A list is left at a closing brace only. -/
theorem kind_of_inBody_leave {list : Body}
    (leaves : (Grammar.inBody dialect lexeme list).move = .leave) :
    lexeme.token.kind = .braceClose := by
  have rules (move : (Grammar.inRules dialect lexeme).move = .leave) :
      lexeme.token.kind = .braceClose := by
    unfold Grammar.inRules at move
    split at move
    case h_2 close => exact close
    case h_3 =>
      simp only [Lexeme.keep, Grammar.atRuleMove] at move
      repeat' split at move
      all_goals contradiction
    case h_9 =>
      simp only [Lexeme.keep] at move
      split at move <;> contradiction
    all_goals contradiction
  cases list with
  | top => exact rules leaves
  | block =>
    simp only [Grammar.inBody] at leaves
    unfold Grammar.inDeclarations at leaves
    repeat' split at leaves
    all_goals first
      | exact rules leaves
      | contradiction

/-! ## A step in a block -/

namespace Nesting

/-- The same scope is innermost in a block. -/
theorem scope_innermost_inside (nesting : Nesting) :
    (nesting.inside around).innermost.scope = nesting.innermost.scope := by
  obtain ⟨opened, root⟩ := nesting
  cases opened <;> rfl

/-- A lexeme is settled in the same scope in a block. -/
theorem settle_inside {root : Root} (opened : List Frame)
    (seated : Seated dialect ⟨opened, root⟩) :
    settle dialect rule lexeme around.root.body 0
        (opened ++ [⟨.body root.body, around.indent⟩]) =
      ((settle dialect rule lexeme root.body 0 opened).1 ++ [⟨.body root.body, around.indent⟩],
        (settle dialect rule lexeme root.body 0 opened).2) := by
  match opened with
  | [] => exact settle_cons_of_settle _ _ _ _ [] rfl
  | frame :: below =>
    cases reacts : react dialect rule lexeme frame.scope with
    | settle answer =>
      rw [List.cons_append, settle_cons_of_settle _ _ _ _ _ reacts,
        settle_cons_of_settle _ _ _ _ _ reacts]
      rfl
    | yield others =>
      have outer : Seated dialect ⟨below.drop others, root⟩ :=
        seated.suffix ((List.drop_suffix others below).trans (List.suffix_cons frame below))
      rw [List.cons_append, settle_cons_of_yield _ _ _ _ _ reacts,
        settle_cons_of_yield _ _ _ _ _ reacts,
        List.drop_append_of_le_length (seated.others_le_length reacts)]
      exact settle_inside _ outer
termination_by opened.length
decreasing_by
  simp only [List.length_drop, List.length_cons]
  omega

end Nesting

namespace Context

/-- The grammar is in the same state in a block. -/
theorem state_inside (context : Context) : (context.inside around).state = context.state := by
  rw [state, state, inside, Nesting.scope_innermost_inside]

variable (layout : Layout) {context : Context}

/-- A move does the same in a block, if it closes a scope only where one is open. -/
theorem apply_inside {move : Move} (leaves : move = .leave → context.nesting.opened ≠ [])
    (replaces : ∀ scope placing, move = .replace scope placing → context.nesting.opened ≠ []) :
    (context.inside around).apply layout move = (context.apply layout move).inside around := by
  have opensSome (nonempty : context.nesting.opened ≠ []) :
      (context.nesting.inside around).pop = context.nesting.pop.inside around := by
    obtain ⟨frame, below, opened⟩ := List.exists_cons_of_ne_nil nonempty
    simp [Nesting.inside, Nesting.pop, opened]
  cases move with
  | replace scope placing =>
    have popped := opensSome (replaces scope placing rfl)
    simp only [apply, inside, popped]
    rfl
  | leave =>
    have popped := opensSome (leaves rfl)
    simp only [apply, inside, popped, Nesting.scope_innermost_inside]
  | _ => rfl

/-- Where all scopes are closed the list itself settles the lexeme: it is left at a closing brace
only, and never replaced. -/
theorem settledAnswer_of_bare (bare : (context.settled dialect lexeme).nesting.opened = []) :
    ((context.settledAnswer dialect lexeme).move = .leave → lexeme.token.kind = .braceClose) ∧
      ∀ scope placing, (context.settledAnswer dialect lexeme).move ≠ .replace scope placing := by
  have list : (context.settled dialect lexeme).nesting.innermost.scope =
      .body context.nesting.root.body := by
    rw [Nesting.innermost, bare]
    rfl
  have reacts := context.react_settled dialect lexeme
  rw [list] at reacts
  have answer := Reaction.settle.inj reacts
  refine ⟨fun leaves => ?_, fun scope placing replaces => ?_⟩
  · rw [← answer] at leaves
    exact kind_of_inBody_leave leaves
  · have permitted := react_permitted reacts
    rw [replaces] at permitted
    have notList := permitted.2.1
    cases body : context.nesting.root.body <;> simp [body, Scope.bodies] at notList

/-- A step does the same in a block, but for the brace that closes the block. -/
theorem Seated.step_inside (seated : context.Seated dialect) (lexeme : Lexeme) :
    let own := context.step dialect layout lexeme
    let inner := (context.inside around).step dialect layout lexeme
    inner = (own.1, own.2.inside around) ∨
      inner.1 = own.1 ∧ lexeme.token.kind = .braceClose ∧ inner.2.nesting.opened = [] := by
  intro own inner
  cases awaits : context.awaitedAnswer? lexeme with
  | some answer =>
    left
    have inAwaits : (context.inside around).awaitedAnswer? lexeme = some answer := awaits
    have ownStep : own = _ := step_of_awaited layout awaits
    have innerStep : inner = _ := step_of_awaited layout inAwaits
    obtain ⟨token, -, found⟩ := Option.bind_eq_some_iff.mp awaits
    have opens : answer.move ≠ .leave ∧ ∀ scope placing, answer.move ≠ .replace scope placing := by
      cases token <;> simp only [awaited] at found <;> repeat' split at found
      all_goals simp only [Option.some.injEq, reduceCtorEq] at found
      all_goals subst found
      all_goals simp [Lexeme.keep]
    rw [innerStep, ownStep, apply_inside around layout (fun leaves => absurd leaves opens.1)
      (fun scope placing replaces => absurd replaces (opens.2 scope placing))]
  | none =>
    have notAwaited : (context.inside around).awaitedAnswer? lexeme = none := awaits
    have search := @Nesting.settle_inside dialect context.rule lexeme around context.nesting.root
      context.nesting.opened seated.nesting
    have answers : (context.inside around).settledAnswer dialect lexeme =
        context.settledAnswer dialect lexeme := (congrArg Prod.snd search :)
    have settles : (context.inside around).settled dialect lexeme =
        (context.settled dialect lexeme).inside around :=
      (congrArg (fun found => Context.mk ⟨found.1, around.root⟩ context.awaiting context.rule)
        search :)
    have ownStep : own = _ := step_of_not_awaited layout awaits
    have innerStep : inner = _ := step_of_not_awaited layout notAwaited
    rw [answers, settles] at innerStep
    rw [innerStep, ownStep]
    by_cases bare : (context.settled dialect lexeme).nesting.opened = []
    · obtain ⟨left, replaced⟩ := context.settledAnswer_of_bare bare
      by_cases leaves : (context.settledAnswer dialect lexeme).move = .leave
      · have closed : ((context.settled dialect lexeme).nesting.inside around).pop.opened = [] := by
          simp [Nesting.inside, Nesting.pop, bare]
        rw [leaves]
        exact .inr ⟨rfl, left leaves, closed⟩
      · rw [apply_inside around layout (fun move => absurd move leaves)
          (fun scope placing move => absurd move (replaced scope placing))]
        exact .inl rfl
    · rw [apply_inside around layout (fun _ => bare) (fun _ _ _ => bare)]
      exact .inl rfl

end Context

/-! ## Reading in a block -/

namespace Mode

/-- What is read of a list by itself, and in a block. -/
inductive Reading.Inside (around : Surroundings) (own : Reading) : Reading → Prop
  /-- The same is read, and the same is remembered but for what is around the block. -/
  | same : Inside around own { own with state := own.state.inside around }
  /-- The brace that closes the block is read, and only the root is left. -/
  | closed {inner : Reading} (length : inner.length = own.length)
    (brace : inner.token.kind = .braceClose) (bare : inner.state.context.nesting.opened = []) :
    Inside around own inner

variable {mode other : Mode} {state : ParseState}

/-- The same is read in a block, up to the brace that closes it. -/
theorem read_inside (dialect : other.dialect = mode.dialect)
    (unit : other.settings.indentUnit = mode.settings.indentUnit)
    (seated : state.context.Seated mode.dialect) (indentation : UInt64) (carried rest : Text) :
    (mode.read indentation carried rest state).Inside around
      (other.read indentation carried rest (state.inside around)) := by
  by_cases blank : state.continuation = none ∧ 0 < Text.leading Text.isBlank rest
  · have nothing : (state.inside around).continuation = none := blank.1
    rw [mode.read_of_blank blank.1 blank.2, other.read_of_blank nothing blank.2]
    exact .same
  · have black : state.continuation = none → Text.leading Text.isBlank rest = 0 := fun nothing =>
      Nat.eq_zero_of_not_pos fun white => blank ⟨nothing, white⟩
    have blackInside : (state.inside around).continuation = none →
        Text.leading Text.isBlank rest = 0 := black
    rw [mode.read_of_lexeme black, other.read_of_lexeme blackInside]
    simp only [readLexeme, dialect, unit]
    rcases seated.step_inside around ⟨indentation, mode.settings.indentUnit⟩
      { token := (scan mode.dialect state.continuation rest).token
        text := carried ++ rest.take (scan mode.dialect state.continuation rest).length
        rest := rest.drop (scan mode.dialect state.continuation rest).length } with
      same | ⟨-, brace, bare⟩
    · simp only [ParseState.inside] at same ⊢
      rw [same]
      exact .same
    · exact .closed rfl brace bare

/-- A reading without characters is no brace. -/
theorem kind_of_length_read_eq_zero {indentation : UInt64} {carried : Text} {c : Char} {rest : Text}
    (empty : (mode.read indentation carried (c :: rest) state).length = 0) :
    (mode.read indentation carried (c :: rest) state).token.kind = .string := by
  obtain ⟨raw, rfl⟩ := mode.length_read_eq_zero_iff.mp empty
  rw [mode.read_of_opened raw (by simp), scan, Scan.rawArgument_parenClose]
  rfl

/-- So it is with tokens that have characters. -/
theorem readSome_inside (dialect : other.dialect = mode.dialect)
    (unit : other.settings.indentUnit = mode.settings.indentUnit)
    (seated : state.context.Seated mode.dialect) (indentation : UInt64) (c : Char) (rest : Text)
    (tries : Nat) :
    (mode.readSome indentation (c :: rest) tries state).Inside around
      (other.readSome indentation (c :: rest) tries (state.inside around)) := by
  induction tries generalizing state with
  | zero => exact .same
  | succ tries ih =>
    have once := read_inside around dialect unit seated indentation [] (c :: rest)
    have next : (mode.read indentation [] (c :: rest) state).state.context.Seated mode.dialect :=
      mode.read_context seated (fun lexeme => seated.step _ lexeme) [] (c :: rest)
    have again := ih next
    simp only [readSome]
    generalize reads : other.read indentation [] (c :: rest) (state.inside around) = inner at once ⊢
    cases once with
    | same =>
      split
      · exact .same
      · exact again
    | closed length brace bare =>
      have taken : 0 < inner.length := by
        refine Nat.pos_of_ne_zero fun empty => ?_
        rw [← reads] at empty brace
        rw [kind_of_length_read_eq_zero empty] at brace
        contradiction
      rw [if_pos taken, if_pos (by omega)]
      exact .closed length brace bare

end Mode

/-! ## What is read of lines -/

/-- The token in a block. -/
def TracedToken.inside (traced : TracedToken) : TracedToken :=
  { traced with state := traced.state.inside around }

/-- Whether a scope over the root is open behind a token. -/
def TracedToken.isNested (traced : TracedToken) : Bool :=
  !traced.state.context.nesting.opened.isEmpty

/-- In a block one is. -/
theorem TracedToken.isNested_inside (traced : TracedToken) :
    (traced.inside around).isNested = true := by
  simp [isNested, inside, ParseState.inside, Context.inside, Nesting.inside]

/-- Tokens of a list over a root by itself, and in a block: they are the same up to the brace that
closes the block. Anything may follow on it. -/
inductive SameUpToClose (root : Root) (around : Surroundings) :
    (own inner : List TracedToken) → Prop
  /-- There are no tokens left. -/
  | nil : SameUpToClose root around [] []
  /-- A token is the same. -/
  | cons {traced : TracedToken} {own inner : List TracedToken}
    (isRoot : traced.state.context.nesting.root = root) :
    SameUpToClose root around own inner →
      SameUpToClose root around (traced :: own) (traced.inside around :: inner)
  /-- The block is closed. -/
  | closed {traced : TracedToken} {own inner : List TracedToken}
    (brace : traced.token.token.kind = .braceClose) (bare : traced.isNested = false) :
    SameUpToClose root around own (traced :: inner)

namespace SameUpToClose

variable {root : Root} {around : Surroundings} {own inner ownRest innerRest : List TracedToken}

/-- More tokens may follow, which are the same unless the block was closed before. -/
theorem append (same : SameUpToClose root around own inner)
    (later : inner = own.map (TracedToken.inside around) →
      SameUpToClose root around ownRest innerRest) :
    SameUpToClose root around (own ++ ownRest) (inner ++ innerRest) := by
  induction same with
  | nil => exact later rfl
  | @cons traced own inner isRoot _ ih =>
    exact .cons isRoot (ih fun mapped => later (by rw [mapped, List.map_cons]))
  | closed brace bare => exact .closed brace bare

/-- In front of the first token behind which only the root is left, every token has its counterpart;
that token is a closing brace, and without it there are as many tokens. -/
theorem forall₂_takeWhile (same : SameUpToClose root around own inner) :
    let body := inner.takeWhile TracedToken.isNested
    List.Forall₂
        (fun traced counterpart => traced.state.context.nesting.root = root ∧
          counterpart = traced.inside around)
        (own.take body.length) body ∧
      (body = inner → own.length = inner.length) ∧
      ∀ closing ∈ (inner.drop body.length).head?, closing.token.token.kind = .braceClose := by
  induction same with
  | nil => simp
  | @cons traced own inner isRoot _ ih =>
    obtain ⟨agree, all, closing⟩ := ih
    rw [List.takeWhile_cons_of_pos (traced.isNested_inside around)]
    refine ⟨.cons ⟨isRoot, rfl⟩ agree, fun whole => ?_, closing⟩
    rw [List.length_cons, List.length_cons, all (List.cons.inj whole).2]
  | @closed traced own inner brace bare =>
    rw [List.takeWhile_cons_of_neg (by simp [bare])]
    exact ⟨by simp, by simp, by simp [brace]⟩

end SameUpToClose

/-- A context over a root in which every scope sits, and a token is awaited, where it may. -/
structure Context.SeatedOver (dialect : Dialect) (root : Root) (context : Context) : Prop where
  /-- Everything is seated. -/
  seated : context.Seated dialect
  /-- The root is this one. -/
  root_eq : context.nesting.root = root

/-- A step keeps a context seated over its root. -/
theorem Context.SeatedOver.step {root : Root} {context : Context}
    (here : context.SeatedOver dialect root) (layout : Layout) (lexeme : Lexeme) :
    (context.step dialect layout lexeme).2.SeatedOver dialect root where
  seated := here.seated.step layout lexeme
  root_eq := (context.step_root layout lexeme).trans here.root_eq

namespace Mode

/-- The state behind tokens is the one behind the last of them as they are traced. -/
theorem stateBehind_eq_of_map_traced {number : Nat} {tokens counterparts : List PlacedToken}
    (inside : counterparts.map (PlacedToken.traced number) =
      (tokens.map (PlacedToken.traced number)).map (TracedToken.inside around))
    (state : ParseState) :
    stateBehind counterparts (state.inside around) = (stateBehind tokens state).inside around := by
  have states : counterparts.map PlacedToken.state =
      (tokens.map PlacedToken.state).map (ParseState.inside around) := by
    simpa [Function.comp_def, PlacedToken.traced, TracedToken.inside] using
      congrArg (List.map TracedToken.state) inside
  rw [stateBehind, stateBehind, ← List.getLast?_map, states, List.getLast?_map, List.getLast?_map]
  cases tokens.getLast? <;> rfl

variable {mode other : Mode} {root : Root} {state : ParseState}

/-- The tokens of a text are the same in a block, up to the brace that closes it. -/
theorem tokensFrom_inside (dialect : other.dialect = mode.dialect)
    (unit : other.settings.indentUnit = mode.settings.indentUnit)
    (here : state.context.SeatedOver mode.dialect root)
    (indentation : UInt64) (number skipped : Nat) (rest : Text) (offset : Nat) :
    SameUpToClose root around
      ((mode.tokensFrom indentation skipped rest offset state).map (PlacedToken.traced number))
      ((other.tokensFrom indentation skipped rest offset (state.inside around)).map
        (PlacedToken.traced number)) := by
  induction rest generalizing skipped offset state with
  | nil => exact .nil
  | cons c rest ih =>
    cases skipped with
    | succ skipped => exact ih here skipped offset
    | zero =>
      have first := readSome_inside around dialect unit here.seated indentation c rest attempts
      have behind : (mode.readSome indentation (c :: rest) attempts
          state).state.context.SeatedOver mode.dialect root :=
        readSome_context (fun _ lexeme before => before.step _ lexeme) here _ _
      simp only [tokensFrom, List.map_cons]
      generalize other.readSome indentation (c :: rest) attempts (state.inside around) = inner
        at first ⊢
      cases first with
      | same => exact .cons behind.root_eq (ih behind _ _)
      | closed _ brace bare =>
        refine .closed brace ?_
        simp [TracedToken.isNested, PlacedToken.traced, bare]

/-- So are the tokens of lines. -/
theorem trace_inside (dialect : other.dialect = mode.dialect)
    (unit : other.settings.indentUnit = mode.settings.indentUnit)
    (tabSize : other.settings.tabSize = mode.settings.tabSize)
    (seated : state.context.SeatedOver mode.dialect root) (number : Nat) (lines : List Text) :
    SameUpToClose root around (mode.trace number lines state)
      (other.trace number lines (state.inside around)) := by
  induction lines generalizing number state with
  | nil => exact .nil
  | cons line lines ih =>
    have here := tokensFrom_inside around dialect unit seated
      (Text.indentation mode.settings.tabSize line) number 0 line 0
    rw [trace, trace, lineTokens, lineTokens, tabSize]
    refine here.append fun mapped => ?_
    rw [stateBehind_eq_of_map_traced around mapped]
    refine ih (stateBehind_context ?_ seated) (number + 1)
    exact context_of_mem_tokensFrom (fun _ lexeme before => before.step _ lexeme) seated _ _ _

/-! ## A text of declarations -/

/-- The mode for a text of declarations, or for a style sheet, with the same other settings. -/
def withInline (mode : Mode) (inline : Bool) : Mode :=
  { mode with
    settings := { mode.settings with inline }
    valid := ⟨mode.valid.indentUnit_pos, mode.valid.tabSize_pos⟩ }

/-- A style sheet in the block of a rule is where a text of declarations starts. -/
theorem lineEnd_ruleOpening (mode : Mode) :
    (mode.withInline false).lineEnd ['a', '{'] ((mode.withInline false).startState 0) =
      ((mode.withInline true).startState 0).inside ⟨mode.settings.indentUnit, ⟨.top, 0⟩⟩ := by
  obtain ⟨dialect, settings, valid⟩ := mode
  rw [← UInt64.zero_add settings.indentUnit]
  cases dialect <;> rfl

end Mode

/-- A token of a text of declarations agrees with one of the block of a rule. -/
structure TracedToken.AgreesInRule (unit : UInt64) (own inner : TracedToken) : Prop where
  /-- They stand at the same place, have the same text, are painted alike, and the grammar takes
  them for the same. -/
  token_eq : own.token = inner.token
  /-- The scanner goes on alike. -/
  continuation_eq : own.state.continuation = inner.state.continuation
  /-- The grammar is in the same state. -/
  grammar_eq : own.state.context.state = inner.state.context.state
  /-- Descriptors are checked against the same rule. -/
  rule_eq : own.state.context.rule = inner.state.context.rule
  /-- The text of declarations is a list that is never closed. -/
  own_root : own.state.context.nesting.root = ⟨.block, 0⟩
  /-- The rule stands in a style sheet. -/
  inner_root : inner.state.context.nesting.root = ⟨.top, 0⟩
  /-- The scopes over the list are the same, columns included. -/
  opened_eq : inner.state.context.nesting.opened =
    own.state.context.nesting.opened ++ [⟨.body .block, unit⟩]

/-- A token agrees with the same one in the block of a rule. -/
theorem TracedToken.agreesInRule_inside {traced : TracedToken} {unit : UInt64}
    (isRoot : traced.state.context.nesting.root = ⟨.block, 0⟩) :
    traced.AgreesInRule unit (traced.inside ⟨unit, ⟨.top, 0⟩⟩) where
  token_eq := rfl
  continuation_eq := rfl
  grammar_eq := (traced.state.context.state_inside _).symm
  rule_eq := rfl
  own_root := isRoot
  inner_root := rfl
  opened_eq := by
    simp [inside, ParseState.inside, Context.inside, Nesting.inside, isRoot]

namespace Mode

/-- A text of declarations is read like the block of a rule. In front of the first token that leaves
no scope open over the root of the style sheet, every token has its counterpart; that token is a
closing brace, and without it the block has as many tokens as the text. -/
theorem inline_agrees (mode : Mode) (document : Text) :
    let inline := mode.withInline true
    let sheet := mode.withInline false
    let own := inline.trace 0 (Text.lines document) (inline.startState 0)
    let inner := sheet.trace 0 (Text.lines document)
      (sheet.lineEnd ['a', '{'] (sheet.startState 0))
    let body := inner.takeWhile TracedToken.isNested
    List.Forall₂ (TracedToken.AgreesInRule mode.settings.indentUnit) (own.take body.length) body ∧
      (body = inner → own.length = inner.length) ∧
      ∀ closing ∈ (inner.drop body.length).head?, closing.token.token.kind = .braceClose := by
  intro inline sheet own inner body
  have seated : (inline.startState 0).context.SeatedOver inline.dialect ⟨.block, 0⟩ :=
    ⟨Context.seated_start .block 0, rfl⟩
  have dialect : sheet.dialect = inline.dialect := rfl
  have unit : sheet.settings.indentUnit = inline.settings.indentUnit := rfl
  have tabSize : sheet.settings.tabSize = inline.settings.tabSize := rfl
  have same : SameUpToClose ⟨.block, 0⟩ ⟨mode.settings.indentUnit, ⟨.top, 0⟩⟩ own inner := by
    simp only [inner, sheet, mode.lineEnd_ruleOpening]
    exact trace_inside _ dialect unit tabSize seated 0 (Text.lines document)
  obtain ⟨agree, all, closing⟩ := same.forall₂_takeWhile
  refine ⟨agree.imp ?_, all, closing⟩
  rintro traced _ ⟨isRoot, rfl⟩
  exact TracedToken.agreesInRule_inside isRoot

end Mode

end Stylesheet
