import Mathlib.Data.List.Infix
import Stylesheet.Proofs.LeadingSpace

/-!
# Comments

A block comment on one line is a token of its own in every dialect, wherever nothing is open. The
grammar is asked about it like about any other token, but all that it does is to stop waiting:
behind a comment the same scopes are open and the same descriptors are checked. Where nothing is
awaited, a comment is as good as white space for everything that follows (`Mode.passesComment`).
-/
namespace Stylesheet

open Text (isBlank trimStart leading)

variable {comment blank body : Text}

/-- A block comment. What stands between its delimiters does not end it. -/
def Text.IsBlockComment (text : Text) : Prop :=
  ∃ body, text = '/' :: '*' :: (body ++ ['*', '/']) ∧ ¬['*', '/'] <:+: body

/-- A block comment has characters. -/
theorem Text.IsBlockComment.length_pos (isComment : comment.IsBlockComment) :
    0 < comment.length := by
  obtain ⟨body, rfl, -⟩ := isComment
  exact Nat.succ_pos _

namespace Scan

/-- A body without an end is read through, up to what is read in the same way whether or not a star
is in front of it. -/
theorem commentBody_append {afterStar closed : Bool} {tail : Text} {length : Nat}
    (inside : ¬['*', '/'] <:+: body) (separate : afterStar = true → body.head? ≠ some '/')
    (ends : ∀ star, commentBody star tail = (length, closed)) :
    commentBody afterStar (body ++ tail) = (body.length + length, closed) := by
  induction body generalizing afterStar with
  | nil => rw [List.nil_append, ends, List.length_nil, Nat.zero_add]
  | cons c body ih =>
    have goesOn : ¬(afterStar && c == '/') = true := by
      intro ends
      obtain ⟨star, slash⟩ := Bool.and_eq_true_iff.mp ends
      exact separate star (congrArg some (eq_of_beq slash))
    have later : ¬['*', '/'] <:+: body := fun ends =>
      inside (ends.trans (List.suffix_cons c body).isInfix)
    have apart : (c == '*') = true → body.head? ≠ some '/' := by
      intro star slash
      obtain ⟨behind, rfl⟩ := List.head?_eq_some_iff.mp slash
      obtain rfl := eq_of_beq star
      exact inside ⟨[], behind, rfl⟩
    rw [List.cons_append, commentBody, if_neg goesOn, ih later apart, List.length_cons,
      Nat.add_right_comm]

/-- A comment with an end on the line is read up to the first one. -/
theorem comment_closed (inside : ¬['*', '/'] <:+: body) (rest : Text) :
    Scan.comment (body ++ '*' :: '/' :: rest) = .styled .comment .comment (body.length + 2) := by
  have read : commentBody false (body ++ '*' :: '/' :: rest) = (body.length + 2, true) :=
    commentBody_append inside (by simp) fun star => by cases star <;> rfl
  rw [Scan.comment, read]

/-- A comment without an end on the line is read to the end of the line, and stays open. -/
theorem comment_endless (inside : ¬['*', '/'] <:+: body) :
    Scan.comment body = ⟨body.length, .styled .comment .comment, some .comment⟩ := by
  have read : commentBody false (body ++ []) = (body.length + 0, false) :=
    commentBody_append inside (by simp) fun _ => rfl
  rw [List.append_nil, Nat.add_zero] at read
  rw [Scan.comment, read]

/-- Every dialect has block comments. -/
theorem base_blockComment (dialect : Dialect) (text : Text) :
    base dialect ('/' :: '*' :: text) = (Scan.comment text).behind 2 := by
  cases dialect <;> simp [base, Dialect.hook?, Dialect.hooks, hook, Scanned.behind_behind]

end Scan

/-- What stands in front of the body of a comment on a line: its delimiter, if nothing is open, and
nothing, if the comment is. -/
inductive ParseState.CommentFront (state : ParseState) : Text → Prop
  /-- The comment starts here. -/
  | starts : state.continuation = none → CommentFront state ['/', '*']
  /-- The comment has started on a line above. -/
  | goesOn : state.continuation = some .comment → CommentFront state []

/-- In every dialect the body of a comment is read behind its delimiter and at the front of a
line. -/
theorem ParseState.CommentFront.scan_eq {state : ParseState} {front : Text}
    (isFront : state.CommentFront front) (dialect : Dialect) (body : Text) :
    scan dialect state.continuation (front ++ body) = (Scan.comment body).behind front.length := by
  cases isFront with
  | starts nothing =>
    rw [nothing]
    exact Scan.base_blockComment dialect body
  | goesOn opens =>
    rw [opens, List.nil_append, List.length_nil, Scanned.behind, Nat.zero_add]
    rfl

/-- A comment in a state. In an interpolation it is out of place. -/
def ParseState.commentToken (state : ParseState) : Token :=
  { style :=
      if state.context.nesting.innermost.scope = .interpolation then .error else Category.comment
    kind := .comment }

/-- Behind a part of a comment nothing is awaited. -/
def ParseState.behindComment (state : ParseState) (left : Option Continuation) : ParseState :=
  { continuation := left, context := { state.context with awaiting := none } }

/-- What tokens say, without white space. -/
def spoken (tokens : List PlacedToken) : List Saying :=
  (tokens.map PlacedToken.saying).filter (·.token.kind ≠ .whitespace)

namespace Mode

variable {mode : Mode} {state : ParseState}

/-! ## White space in front of a text -/

/-- Where nothing is open, a text says the same without the white space in front of it, and leaves
the same behind but for columns. -/
theorem spoken_trimStart (nothing : state.continuation = none)
    (indentation column : UInt64) (offset place : Nat) (text : Text) :
    let tokens := mode.tokensFrom indentation 0 text offset state
    let trimmed := mode.tokensFrom column 0 (trimStart text) place state
    spoken tokens = spoken trimmed ∧
      (stateBehind tokens state).Alike (stateBehind trimmed state) := by
  intro tokens trimmed
  have here : tokens.map PlacedToken.saying =
      (mode.tokensFrom indentation 0 text 0 state).map PlacedToken.saying :=
    map_saying_tokensFrom rfl rfl _ _ _ _ _ _
  have there : trimmed.map PlacedToken.saying =
      (mode.tokensFrom indentation 0 (trimStart text) 0 state).map PlacedToken.saying :=
    map_saying_tokensFrom rfl rfl _ _ _ _ _ _
  rw [spoken, spoken, ParseState.Alike, columnless_stateBehind, columnless_stateBehind, here, there]
  by_cases black : leading isBlank text = 0
  · rw [trimStart, ← Text.drop_leading, black, List.drop_zero]
    exact ⟨rfl, rfl⟩
  · have white := Nat.pos_of_ne_zero black
    rw [mode.map_saying_tokensFrom_of_blank nothing white, stateBehindSayings_cons]
    exact ⟨List.filter_cons_of_neg (by simp [Token.bare]), rfl⟩

/-! ## Comments -/

/-- What a comment has of a line is a token that ends the waiting and does nothing else. -/
theorem read_comment {front : Text} (isFront : state.CommentFront front) (indentation : UInt64)
    (carried body : Text) :
    mode.read indentation carried (front ++ body) state =
      { length := front.length + (Scan.comment body).length
        token := state.commentToken
        state := state.behindComment (Scan.comment body).continuation } := by
  have black : state.continuation = none → leading isBlank (front ++ body) = 0 := by
    intro nothing
    cases isFront with
    | starts => rw [List.cons_append, Text.leading_cons]; rfl
    | goesOn opens => rw [nothing] at opens; contradiction
  have token : ((Scan.comment body).behind front.length).token = .styled .comment .comment :=
    Scan.comment_token body
  rw [mode.read_of_lexeme black, readLexeme, isFront.scan_eq, token,
    Context.step_of_inert _ _ (.inr rfl), Scope.paint_eq]
  rfl

/-- Where nothing is open, a block comment is such a token. -/
theorem read_blockComment (nothing : state.continuation = none)
    (isComment : comment.IsBlockComment) (indentation : UInt64) (carried rest : Text) :
    mode.read indentation carried (comment ++ rest) state =
      { length := comment.length
        token := state.commentToken
        state :=
          { continuation := none, context := { state.context with awaiting := none } } } := by
  obtain ⟨body, rfl, inside⟩ := isComment
  have split : '/' :: '*' :: (body ++ ['*', '/']) ++ rest =
      ['/', '*'] ++ (body ++ '*' :: '/' :: rest) := by simp
  have length : 2 + (body.length + 2) = ('/' :: '*' :: (body ++ ['*', '/'])).length := by
    rw [List.length_cons, List.length_cons, List.length_append, Nat.add_comm]
    rfl
  rw [split, mode.read_comment (.starts nothing), Scan.comment_closed inside, ← length]
  rfl

/-- Where nothing is awaited either, it does nothing. -/
theorem read_blockComment_of_resting (nothing : state.continuation = none)
    (resting : state.context.awaiting = none) (isComment : comment.IsBlockComment)
    (indentation : UInt64) (carried rest : Text) :
    mode.read indentation carried (comment ++ rest) state =
      ⟨comment.length, state.commentToken, state⟩ := by
  rw [mode.read_blockComment nothing isComment, ← nothing, ← resting]

/-- There it is said in front of what is said behind it. -/
theorem map_saying_tokensFrom_blockComment (nothing : state.continuation = none)
    (resting : state.context.awaiting = none) (isComment : comment.IsBlockComment)
    (indentation : UInt64) (rest : Text) :
    (mode.tokensFrom indentation 0 (comment ++ rest) 0 state).map PlacedToken.saying =
      ⟨comment, state.commentToken, state.columnless⟩ ::
        (mode.tokensFrom indentation 0 rest 0 state).map PlacedToken.saying := by
  have first := mode.read_blockComment_of_resting nothing resting isComment indentation [] rest
  have some : comment ++ rest ≠ [] := by
    rw [← List.length_pos_iff, List.length_append]
    exact Nat.add_pos_left isComment.length_pos _
  have reads := (readSome_attempts (by rw [first]; exact isComment.length_pos)).trans first
  rw [map_saying_tokensFrom_of_readSome some reads, List.take_left, List.drop_left]

/-- What is behind it is what is behind white space. -/
theorem spoken_blockComment (nothing : state.continuation = none)
    (resting : state.context.awaiting = none) (isComment : comment.IsBlockComment)
    (white : ∀ space ∈ blank, isBlank space) (indentation column : UInt64) (offset place : Nat)
    (rest : Text) :
    let commented := mode.tokensFrom indentation 0 (comment ++ rest) offset state
    let spaced := mode.tokensFrom column 0 (blank ++ rest) place state
    spoken commented = ⟨comment, state.commentToken, state.columnless⟩ :: spoken spaced ∧
      (stateBehind commented state).Alike (stateBehind spaced state) := by
  intro commented spaced
  have said : commented.map PlacedToken.saying =
      ⟨comment, state.commentToken, state.columnless⟩ ::
        (mode.tokensFrom indentation 0 rest 0 state).map PlacedToken.saying := by
    rw [map_saying_tokensFrom rfl rfl _ indentation _ _ _ 0,
      mode.map_saying_tokensFrom_blockComment nothing resting isComment]
  -- Without the white space in front of it, the text behind both is the same.
  obtain ⟨spokenRest, behindRest⟩ := spoken_trimStart nothing indentation indentation 0 0 rest
  obtain ⟨spokenSpaced, behindSpaced⟩ := spoken_trimStart nothing column indentation place 0
    (blank ++ rest)
  rw [Text.trimStart_blank_append white] at spokenSpaced behindSpaced
  constructor
  · rw [spoken, said, List.filter_cons_of_pos (by simp [ParseState.commentToken]), ← spoken,
      spokenRest, ← spokenSpaced]
  · rw [ParseState.Alike, columnless_stateBehind, said, stateBehindSayings_cons,
      ← columnless_stateBehind, behindRest, behindSpaced]

/-- What a block comment does in a state. -/
structure PassesComment (mode : Mode) (comment : Text) (state : ParseState) : Prop where
  /-- It is a token, behind which nothing is open or awaited. -/
  read : ∀ indentation carried rest,
    mode.read indentation carried (comment ++ rest) state =
      { length := comment.length
        token := state.commentToken
        state := { continuation := none, context := { state.context with awaiting := none } } }
  /-- The grammar goes on within the innermost scope, which is where it was unless it awaited
  something. -/
  within : ∀ indentation carried rest,
    let behind := (mode.read indentation carried (comment ++ rest) state).state
    behind.context.state = .within state.context.nesting.innermost.scope ∧
      (state.context.awaiting = none → behind = state)
  /-- Where nothing is awaited, what else is said on the line and on all lines behind it is what is
  said behind white space. -/
  follows : state.context.awaiting = none → ∀ blank : Text, (∀ space ∈ blank, isBlank space) →
    ∀ indentation column offset place number rest lines,
      let commented := mode.tokensFrom indentation 0 (comment ++ rest) offset state
      let spaced := mode.tokensFrom column 0 (blank ++ rest) place state
      spoken commented = ⟨comment, state.commentToken, state.columnless⟩ :: spoken spaced ∧
        mode.linesTokens number lines (stateBehind commented state) =
          mode.linesTokens number lines (stateBehind spaced state)

/-- Where nothing is open, every block comment passes. -/
theorem passesComment (nothing : state.continuation = none) (isComment : comment.IsBlockComment) :
    mode.PassesComment comment state where
  read := mode.read_blockComment nothing isComment
  within indentation carried rest := by
    refine ⟨?_, fun resting => ?_⟩
    · rw [mode.read_blockComment nothing isComment]
      rfl
    · rw [mode.read_blockComment_of_resting nothing resting isComment]
  follows resting blank white indentation column offset place number rest lines := by
    obtain ⟨said, alike⟩ := spoken_blockComment nothing resting isComment white indentation column
      offset place rest
    exact ⟨said, linesTokens_alike rfl alike number lines⟩

/-- Behind the colon of a pseudo-class. -/
def openPseudoClass : ParseState :=
  { continuation := none
    context := { nesting := ⟨[], ⟨.top, 0⟩⟩, awaiting := some .pseudoClass, rule := none } }

/-- Reading comes there. -/
theorem reachable_openPseudoClass : (ofDialect .css).Reachable 0 openPseudoClass := by
  have bare : (ofDialect .css).Reachable 0 _ := .start
  exact bare.next (.ofLine 4 [':'])

/-- There, as in front of a text, a comment passes that seems to end where it starts. -/
theorem passesComment_openPseudoClass :
    let css := ofDialect .css
    let comment := ['/', '*', '/', '*', '/']
    Text.IsBlockComment comment ∧
      (css.Reachable 0 openPseudoClass ∧ openPseudoClass.continuation = none ∧
        css.PassesComment comment openPseudoClass) ∧
      css.Reachable 0 (css.startState 0) ∧ (css.startState 0).continuation = none ∧
        (css.startState 0).context.awaiting = none ∧
        css.PassesComment comment (css.startState 0) := by
  intro css comment
  have isComment : Text.IsBlockComment comment := ⟨['/'], rfl, by decide⟩
  exact ⟨isComment, ⟨reachable_openPseudoClass, rfl, passesComment rfl isComment⟩, .start, rfl, rfl,
    passesComment rfl isComment⟩

/-- Behind white space a word is the name of the pseudo-class, and behind a comment it is not. Nor
is every comment painted as one: in an interpolation it is out of place. -/
theorem comment_hides_pseudoClass :
    let css := ofDialect .css
    let scss := ofDialect .scss
    let comment := Cursor.ofLine 4 ['/', '*', '*', '/']
    let space := Cursor.ofLine 4 [' ']
    let word := Cursor.ofLine 4 ['a']
    let commented := (css.nextToken comment openPseudoClass).2.2
    let spaced := (css.nextToken space openPseudoClass).2.2
    let interpolated := (scss.nextToken (.ofLine 4 ['#', '{']) (scss.startState 0)).2.2
    Text.IsBlockComment ['/', '*', '*', '/'] ∧
      (css.Reachable 0 openPseudoClass ∧ openPseudoClass.continuation = none ∧
        commented.context.state ≠ openPseudoClass.context.state ∧
        (css.nextToken word spaced).1.style = Category.variable3 ∧
        (css.nextToken word commented).1.style = Category.tag) ∧
      scss.Reachable 0 interpolated ∧ interpolated.continuation = none ∧
        (scss.nextToken comment interpolated).1.style = .error := by
  refine ⟨⟨[], rfl, by decide⟩, ⟨reachable_openPseudoClass, rfl, ?_⟩, .next _ .start, rfl, ?_⟩
  · exact ⟨by decide, by decide, by decide⟩
  · decide

end Mode

end Stylesheet
