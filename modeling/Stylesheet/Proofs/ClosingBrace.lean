import Stylesheet.Proofs.Feeding
import Stylesheet.Proofs.OpenText
import Stylesheet.Proofs.Seating
import Stylesheet.Proofs.SheetReactions

/-!
# A closing brace

A brace closes the innermost scope that a brace has opened, and whatever is open within it. The
scopes that a brace has opened are left at it; every other scope yields, and what closes with it is
not opened by a brace either. So a closing brace ends at the scope around the one that it closes,
or at the root, whatever was open and awaited before (`Mode.Reachable.resynchronises`).
-/
namespace Stylesheet

open Grammar (react)

/-! ## What the scanner proposes -/

namespace Scan

/-- A construct of a dialect is proposed as being in its place. -/
theorem isError_hook {construct : Hook} {rest : Text} {scanned : Scanned}
    (found : hook construct rest = some scanned) : scanned.token.style.isError = false := by
  cases construct <;> simp only [hook] at found
  case nestedPropertyColon =>
    obtain ⟨length, -, rfl⟩ := Option.map_eq_some_iff.mp found
    rfl
  all_goals
    repeat' split at found
    all_goals first
      | contradiction
      | (cases found; first | rfl | exact congrArg (·.style.isError) (comment_token _))

/-- What the shared rules read is proposed as being in its place. -/
theorem isError_shared (c : Char) (rest : Text) : (shared c rest).token.style.isError = false := by
  simp only [shared, dash, dot, identifier]
  repeat' split
  all_goals first
    | rfl
    | exact congrArg (·.style.isError) (string_token _ rest)

/-- What is read where nothing is open is proposed as being in its place. -/
theorem isError_base (dialect : Dialect) (text : Text) :
    (base dialect text).token.style.isError = false := by
  cases text with
  | nil => rfl
  | cons c rest =>
    simp only [base]
    split
    · next scanned found =>
      obtain ⟨construct, -, read⟩ := Option.bind_eq_some_iff.mp found
      have proposed := isError_hook read
      exact proposed
    · exact isError_shared c rest

end Scan

/-- Every lexeme is proposed as being in its place. -/
theorem isError_scan (dialect : Dialect) (continuation : Option Continuation) (text : Text) :
    (scan dialect continuation text).token.style.isError = false := by
  match continuation with
  | none => exact Scan.isError_base dialect text
  | some (.string quote) => exact congrArg (·.style.isError) (Scan.string_token quote text)
  | some .comment => exact congrArg (·.style.isError) (Scan.comment_token text)
  | some .argument => rfl
  | some .rawArgument => exact congrArg (·.style.isError) (Scan.rawArgument_token text)

/-! ## What closes at a brace -/

/-- Whether a scope is opened by a brace. -/
def Scope.isBraced : Scope → Bool
  | body _ => true
  | propertyBlock => true
  | descriptors => true
  | interpolation => true
  | _ => false

variable {dialect : Dialect} {rule : Option DescriptorRule} {lexeme : Lexeme}

/-- A scope that a brace has opened is left at a closing brace. -/
theorem react_braceClose_of_isBraced (close : lexeme.token.kind = .braceClose) {scope : Scope}
    (braced : scope.isBraced) :
    react dialect rule lexeme scope = .settle (lexeme.keep .leave) := by
  cases scope with
  | body list => exact react_braceClose close
  | propertyBlock => simp [react, Grammar.inPropertyBlock, close]
  | descriptors => simp [react, Grammar.inDescriptors, close]
  | interpolation => simp [react, Grammar.inInterpolation, close]
  | _ => simp [Scope.isBraced] at braced

/-- How many scopes close with a scope that leaves a closing brace to others. -/
def Scope.othersAtBrace : Scope → Nat
  | conditionParens => 1
  | _ => 0

/-- Any other scope leaves a closing brace to the scope around it; parentheses in a condition close
the condition with them. -/
theorem react_braceClose_of_not_isBraced (close : lexeme.token.kind = .braceClose) {scope : Scope}
    (unbraced : ¬scope.isBraced) :
    react dialect rule lexeme scope = .yield scope.othersAtBrace := by
  cases scope with
  | value => simp [react, Grammar.inValue, close, Scope.othersAtBrace]
  | parens => simp [react, Grammar.inParens, close, Scope.othersAtBrace]
  | documentTypes =>
    simp [react, Grammar.inDocumentTypes, Grammar.inCondition, close, Scope.othersAtBrace]
  | condition => simp [react, Grammar.inCondition, close, Scope.othersAtBrace]
  | conditionParens => simp [react, Grammar.inConditionParens, close, Scope.othersAtBrace]
  | component => simp [react, Grammar.inComponent, close, Scope.othersAtBrace]
  | atRule => simp [react, Grammar.inAtRule, close, Scope.othersAtBrace]
  | _ => simp [Scope.isBraced] at unbraced

/-- Parentheses in a condition sit on a scope that no brace has opened. -/
theorem not_isBraced_of_mem_seats {scope : Scope} (seat : scope ∈ dialect.seats .conditionParens) :
    ¬scope.isBraced := by
  simp only [Dialect.seats, List.mem_cons, List.not_mem_nil, or_false] at seat
  rcases seat with rfl | rfl | rfl <;> decide

namespace Nesting

/-- The scopes above the root from the innermost one on that a brace has opened. -/
def braced (opened : List Frame) : List Frame := opened.dropWhile fun frame => !frame.scope.isBraced

theorem braced_cons_of_isBraced {frame : Frame} (isBraced : frame.scope.isBraced)
    (below : List Frame) : braced (frame :: below) = frame :: below :=
  List.dropWhile_cons_of_neg (by simp [isBraced])

theorem braced_cons_of_not_isBraced {frame : Frame} (unbraced : ¬frame.scope.isBraced)
    (below : List Frame) : braced (frame :: below) = braced below :=
  List.dropWhile_cons_of_pos (by simpa using unbraced)

/-- What closes with a scope that yields at a closing brace is not opened by a brace. -/
theorem braced_drop_othersAtBrace {frame : Frame} {below : List Frame} {root : Root}
    (seated : Seated dialect ⟨frame :: below, root⟩) :
    braced (below.drop frame.scope.othersAtBrace) = braced below := by
  unfold Scope.othersAtBrace
  split
  · next parens =>
    have seat := seated.seat_of_cons
    rw [parens] at seat
    cases below with
    | nil => rfl
    | cons around outer =>
      exact (braced_cons_of_not_isBraced (not_isBraced_of_mem_seats seat) outer).symm
  · rfl

/-- A closing brace is settled by the innermost scope that a brace has opened, or by the root. -/
theorem settle_braceClose (close : lexeme.token.kind = .braceClose) {root : Root}
    (opened : List Frame) (seated : Seated dialect ⟨opened, root⟩) :
    settle dialect rule lexeme root.body 0 opened = (braced opened, lexeme.keep .leave) := by
  match opened with
  | [] =>
    have left : react dialect rule lexeme (.body root.body) = .settle (lexeme.keep .leave) :=
      react_braceClose_of_isBraced close rfl
    exact congrArg (Prod.mk []) (Reaction.settle.inj left)
  | frame :: below =>
    by_cases isBraced : frame.scope.isBraced
    · rw [settle_cons_of_settle dialect rule lexeme root.body below
          (react_braceClose_of_isBraced close isBraced),
        braced_cons_of_isBraced isBraced]
    · have outer : Seated dialect ⟨below.drop frame.scope.othersAtBrace, root⟩ :=
        seated.suffix ((List.drop_suffix _ below).trans (List.suffix_cons frame below))
      rw [settle_cons_of_yield dialect rule lexeme root.body below
          (react_braceClose_of_not_isBraced close isBraced),
        settle_braceClose close _ outer, braced_drop_othersAtBrace seated,
        braced_cons_of_not_isBraced isBraced]
termination_by opened.length
decreasing_by
  simp only [List.length_drop, List.length_cons]
  omega

end Nesting

/-- Nothing awaits a closing brace. -/
theorem awaited_of_braceClose (close : lexeme.token.kind = .braceClose) (token : Awaiting) :
    Grammar.awaited rule lexeme token = none := by
  cases token <;> simp [Grammar.awaited, close]

namespace Context

/-- The context behind a closing brace: the innermost scope that a brace has opened is closed, with
all that is open within it. Without one only the root is left. -/
def behindBrace (context : Context) : Context :=
  match Nesting.braced context.nesting.opened with
  | [] => { nesting := ⟨[], context.nesting.root⟩, awaiting := none, rule := context.rule }
  | frame :: outer =>
    { nesting := ⟨outer, context.nesting.root⟩
      awaiting := none
      rule := if frame.scope = .descriptors then none else context.rule }

/-- A closing brace is painted as it was scanned, and closes what it should. -/
theorem Seated.step_braceClose {context : Context} (seated : context.Seated dialect)
    (layout : Layout) (close : lexeme.token.kind = .braceClose) :
    context.step dialect layout lexeme = (lexeme.token.style, context.behindBrace) := by
  have notAwaited : context.awaitedAnswer? lexeme = none :=
    awaitedAnswer?_of_awaited (awaited_of_braceClose close)
  obtain ⟨⟨opened, root⟩, awaiting, rule⟩ := context
  have settled : Nesting.settle dialect rule lexeme root.body 0 opened =
      (Nesting.braced opened, lexeme.keep .leave) :=
    Nesting.settle_braceClose close opened seated.nesting
  simp only [Context.step, notAwaited, settled, behindBrace, Lexeme.keep, Context.apply,
    Nesting.pop]
  cases Nesting.braced opened with
  | nil => simp [Nesting.innermost_nil, Root.frame]
  | cons frame outer => rfl

/-- Behind a closing brace nothing is awaited. -/
theorem awaiting_behindBrace (context : Context) : context.behindBrace.awaiting = none := by
  unfold behindBrace
  split <;> rfl

/-- A closing brace closes a scope, if one is open. -/
theorem length_behindBrace (context : Context) :
    context.behindBrace.nesting.opened.length ≤ context.nesting.opened.length - 1 := by
  have shorter : (Nesting.braced context.nesting.opened).length ≤ context.nesting.opened.length :=
    (List.dropWhile_suffix _).length_le
  unfold behindBrace
  split
  · simp
  · next found =>
    rw [found, List.length_cons] at shorter
    exact Nat.le_sub_one_of_lt shorter

/-- So many closing braces close all scopes. -/
theorem Seated.feed_braceClose {context : Context} (seated : context.Seated dialect)
    {braces : List Occurrence} (close : ∀ brace ∈ braces, brace.kind = .braceClose) :
    (context.feed dialect braces).nesting.root = context.nesting.root ∧
      (context.feed dialect braces).nesting.opened.length ≤
        context.nesting.opened.length - braces.length ∧
      (braces ≠ [] → (context.feed dialect braces).awaiting = none) := by
  induction braces generalizing context with
  | nil => simp
  | cons brace braces ih =>
    obtain ⟨here, later⟩ := List.forall_mem_cons.mp close
    have step : (context.step dialect brace.layout brace.lexeme).2 = context.behindBrace :=
      congrArg Prod.snd (seated.step_braceClose brace.layout here)
    have behind : context.behindBrace.Seated dialect := by
      rw [← step]
      exact seated.step brace.layout brace.lexeme
    obtain ⟨root, fewer, quiet⟩ := ih behind later
    have closed := context.length_behindBrace
    rw [feed_cons, step]
    refine ⟨root.trans ?_, ?_, fun _ => ?_⟩
    · unfold behindBrace
      split <;> rfl
    · rw [List.length_cons]
      omega
    · cases braces with
      | nil => exact context.awaiting_behindBrace
      | cons next rest => exact quiet (List.cons_ne_nil next rest)

end Context

namespace Mode

variable {mode : Mode} {indent : UInt64} {state : ParseState}

/-- A closing brace that is read in its place is never out of place. -/
theorem isError_nextToken_braceClose (seated : state.context.Seated mode.dialect)
    (cursor : Cursor) (close : (mode.nextToken cursor state).1.kind = .braceClose) :
    (mode.nextToken cursor state).1.style.isError = false := by
  simp only [nextToken] at close ⊢
  rcases mode.read_cases cursor.indentation cursor.lexeme cursor.rest state with
    ⟨-, -, reads⟩ | reads
  · rw [reads] at close
    contradiction
  · rw [reads] at close ⊢
    rw [readLexeme, seated.step_braceClose _ close]
    exact isError_scan mode.dialect state.continuation cursor.rest

/-- What closing braces do behind a state, over a root that is indented to a column. -/
structure Resynchronises (mode : Mode) (indent : UInt64) (state : ParseState) : Prop where
  /-- A closing brace is painted as it was scanned, and closes the innermost scope that a brace has
  opened with all that is open within it. -/
  step : ∀ layout lexeme, lexeme.token.kind = .braceClose →
    state.context.step mode.dialect layout lexeme =
      (lexeme.token.style, state.context.behindBrace)
  /-- The grammar goes on within the scope that is innermost then. -/
  within : state.context.behindBrace.state =
    .within state.context.behindBrace.nesting.innermost.scope
  /-- A closing brace of a line is never flagged. -/
  unflagged : ∀ cursor, (mode.nextToken cursor state).1.kind = .braceClose →
    (mode.nextToken cursor state).1.style.isError = false
  /-- As many closing braces as scopes are open, the root counted, leave the bare root. -/
  bare : ∀ braces : List Occurrence, (∀ brace ∈ braces, brace.kind = .braceClose) →
    state.context.nesting.depth ≤ braces.length →
    (state.context.feed mode.dialect braces).nesting = ⟨[], ⟨mode.body, indent⟩⟩ ∧
      (state.context.feed mode.dialect braces).state = .within (.body mode.body)

/-- Wherever reading comes, closing braces bring the grammar back into step. -/
theorem Reachable.resynchronises (reachable : mode.Reachable indent state) :
    mode.Resynchronises indent state where
  step _ _ close := reachable.seated.step_braceClose _ close
  within := by rw [Context.state, Context.awaiting_behindBrace]
  unflagged := isError_nextToken_braceClose reachable.seated
  bare := by
    intro braces close enough
    obtain ⟨root, fewer, quiet⟩ := reachable.seated.feed_braceClose close
    have depth : state.context.nesting.depth = state.context.nesting.opened.length + 1 := by
      simp [Nesting.depth, Nesting.frames]
    have closed : (state.context.feed mode.dialect braces).nesting.opened = [] :=
      List.eq_nil_of_length_eq_zero (by omega)
    have nesting : (state.context.feed mode.dialect braces).nesting =
        ⟨[], ⟨mode.body, indent⟩⟩ := by
      rw [← reachable.root, ← root, ← closed]
    have some : braces ≠ [] := List.ne_nil_of_length_pos (by omega)
    refine ⟨nesting, ?_⟩
    rw [Context.state, quiet some, nesting]
    rfl

/-- Within two parentheses in the value of a descriptor, with each token on a line of its own. -/
def openDescriptor : ParseState :=
  { continuation := none
    context :=
      { nesting :=
          { opened := [⟨.parens, 2⟩, ⟨.parens, 2⟩, ⟨.value, 2⟩, ⟨.descriptors, 2⟩]
            root := ⟨.top, 0⟩ }
        awaiting := none
        rule := some .fontFace } }

/-- Reading comes there. -/
theorem reachable_openDescriptor : (ofDialect .css).Reachable 0 openDescriptor := by
  have bare : (ofDialect .css).Reachable 0 _ := .start
  have rule := bare.next (.ofLine 4 "@font-face".toList)
  have brace := rule.next (.ofLine 4 ['{'])
  have name := brace.next (.ofLine 4 ['a'])
  have colon := name.next (.ofLine 4 [':'])
  have outer := colon.next (.ofLine 4 ['('])
  exact outer.next (.ofLine 4 ['('])

/-- There a brace closes the parentheses, the value and the block of descriptors. -/
theorem resynchronises_openDescriptor :
    (ofDialect .css).Reachable 0 openDescriptor ∧
      (ofDialect .css).Resynchronises 0 openDescriptor ∧
      openDescriptor.context.behindBrace = .start .top 0 :=
  ⟨reachable_openDescriptor, reachable_openDescriptor.resynchronises, rfl⟩

end Mode

end Stylesheet
