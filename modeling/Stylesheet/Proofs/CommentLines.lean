import Stylesheet.Proofs.Comments
import Stylesheet.Proofs.Trace

/-!
# Comments over lines

A block comment goes on behind the end of its line until a line has an end for it, and what it has
of a line is one token. An end that is split between two lines is none, and the delimiter at the
start shares no character with the end, so the comment has the lines up to the first end that is on
one of them (`Mode.coversComment`).
-/
namespace Stylesheet

open Text (utf8Length lines)

variable {front body inside behind : Text} {state : ParseState}

/-! ## A comment on a line -/

/-- No comment ends in a text. -/
def Text.NoCommentEnd (text : Text) : Prop := ¬['*', '/'] <:+: text

instance (text : Text) : Decidable text.NoCommentEnd :=
  inferInstanceAs (Decidable ¬['*', '/'] <:+: text)

/-- A part of a comment as a token of a line. -/
def ParseState.commentAt (state : ParseState) (offset : Nat) (text : Text)
    (left : Option Continuation) : PlacedToken :=
  { start := offset
    stop := offset + utf8Length text
    text
    token := state.commentToken
    state := state.behindComment left }

namespace Mode

/-- The tokens of a comment that ends on the line, and of the text behind it, where nothing is
open. -/
def closedComment (mode : Mode) (indentation : UInt64) (offset : Nat) (comment behind : Text)
    (state : ParseState) : List PlacedToken :=
  state.commentAt offset comment none ::
    mode.tokensFrom indentation 0 behind (offset + utf8Length comment) (state.behindComment none)

variable {mode : Mode}

/-- A comment with an end on the line is a token up to the end, and scanning starts anew there. -/
theorem tokensFrom_closed (isFront : state.CommentFront front) (endless : inside.NoCommentEnd)
    (indentation : UInt64) (offset : Nat) (behind : Text) :
    mode.tokensFrom indentation 0 (front ++ (inside ++ '*' :: '/' :: behind)) offset state =
      mode.closedComment indentation offset (front ++ (inside ++ ['*', '/'])) behind state := by
  have split : front ++ (inside ++ '*' :: '/' :: behind) =
      front ++ (inside ++ ['*', '/']) ++ behind := by simp
  have reads := mode.read_comment isFront indentation [] (inside ++ '*' :: '/' :: behind)
  rw [split, Scan.comment_closed endless] at reads
  rw [split]
  exact tokensFrom_append_of_read (by simp) reads (by simp [Scanned.styled]) offset

/-- A comment without an end is a token up to the end of the line. -/
theorem tokensFrom_endless (isFront : state.CommentFront front) (endless : body.NoCommentEnd)
    (nonempty : front ++ body ≠ []) (indentation : UInt64) (offset : Nat) :
    mode.tokensFrom indentation 0 (front ++ body) offset state =
      [state.commentAt offset (front ++ body) (some .comment)] := by
  have reads := mode.read_comment isFront indentation [] body
  rw [Scan.comment_endless endless, ← List.append_nil (front ++ body)] at reads
  have first := tokensFrom_append_of_read nonempty reads List.length_append.symm offset
  rwa [List.append_nil] at first

/-! ## A comment on lines -/

/-- What is behind some tokens of a text is read from the state behind them. -/
theorem eq_tokensFrom_of_append {indentation : UInt64} {text rest : Text} {offset : Nat}
    {before after : List PlacedToken}
    (split : mode.tokensFrom indentation 0 text offset state = before ++ after)
    (left : text = before.flatMap PlacedToken.text ++ rest) :
    after = mode.tokensFrom indentation 0 rest
      (offset + utf8Length (before.flatMap PlacedToken.text)) (stateBehind before state) := by
  induction before generalizing text offset state with
  | nil =>
    obtain rfl : text = rest := left
    exact split.symm
  | cons first before ih =>
    have nonempty : text ≠ [] := by
      rintro rfl
      contradiction
    rw [mode.tokensFrom_of_readSome nonempty rfl, List.cons_append] at split
    obtain ⟨rfl, more⟩ := List.cons.inj split
    rw [stateBehind_cons]
    generalize mode.readSome indentation text attempts state = reading at more left ⊢
    rw [List.flatMap_cons, List.append_assoc] at left
    have dropped : text.drop reading.length = before.flatMap PlacedToken.text ++ rest :=
      List.append_cancel_left ((List.take_append_drop reading.length text).trans left)
    rw [ih more dropped, List.flatMap_cons, Text.utf8Length_append, Nat.add_assoc]

variable (mode) in
/-- A line within an open comment is a token, or none if the line is empty. -/
theorem lineTokens_behindComment (state : ParseState) {line : Text}
    (endless : line.NoCommentEnd) :
    mode.lineTokens line (state.behindComment (some .comment)) =
      if line = [] then [] else [state.commentAt 0 line (some .comment)] := by
  split
  · next empty => rw [empty]; rfl
  · next nonempty =>
    exact tokensFrom_endless (.goesOn rfl) endless nonempty _ 0

variable (mode) in
/-- Such lines leave the comment open. -/
theorem linesEnd_behindComment (state : ParseState) {lines : List Text}
    (endless : ∀ line ∈ lines, line.NoCommentEnd) :
    mode.linesEnd lines (state.behindComment (some .comment)) =
      state.behindComment (some .comment) := by
  induction lines with
  | nil => rfl
  | cons line lines ih =>
    obtain ⟨here, later⟩ := List.forall_mem_cons.mp endless
    have stays : mode.lineEnd line (state.behindComment (some .comment)) =
        state.behindComment (some .comment) := by
      rw [lineEnd, mode.lineTokens_behindComment state here]
      split <;> rfl
    exact (congrArg (mode.linesEnd lines) stays).trans (ih later)

/-- A comment that is open at the end of a line comes to a line below: no line between them has an
end for it. -/
structure OpenUntil (lines : List Text) (number last : Nat) : Prop where
  /-- The line is below. -/
  below : number < last
  /-- No line between has an end. -/
  between : ∀ line ∈ (lines.take last).drop (number + 1), line.NoCommentEnd

/-- Behind the end of such lines the comment is open. -/
theorem linesEnd_take_of_openUntil {lines : List Text} {number last : Nat} {line : Text}
    {origin : ParseState} (isLine : lines[number]? = some line)
    (opens : mode.lineEnd line (mode.linesEnd (lines.take number) origin) =
      state.behindComment (some .comment))
    (openUntil : OpenUntil lines number last) :
    mode.linesEnd (lines.take last) origin = state.behindComment (some .comment) := by
  have above : (lines.take last).take (number + 1) = lines.take number ++ [line] := by
    rw [List.take_take, Nat.min_eq_left openUntil.below, List.take_add_one, isLine]
    rfl
  have split := List.take_append_drop (number + 1) (lines.take last)
  rw [← split, above, linesEnd, List.foldl_append, List.foldl_append]
  exact (congrArg _ opens).trans (mode.linesEnd_behindComment state openUntil.between)

/-- What the tokens of a document are from a comment on, which starts on a line behind other tokens,
in a state in which nothing is open, and has a body there behind its delimiter. -/
structure CoversComment (mode : Mode) (document : Text) (run : List TracedToken) (number : Nat)
    (line : Text) (before : List PlacedToken) (body : Text) (state : ParseState) : Prop where
  /-- With an end on the line the comment is a token up to the first one, and scanning starts anew
  behind it. -/
  closed : ∀ inside behind, body = inside ++ '*' :: '/' :: behind → inside.NoCommentEnd →
    tracedOn number run =
      (before ++ mode.closedComment (Text.indentation mode.settings.tabSize line)
        (utf8Length (before.flatMap PlacedToken.text)) ('/' :: '*' :: (inside ++ ['*', '/']))
        behind state).map (PlacedToken.traced number)
  /-- Without one it is a token up to the end of the line. -/
  opened : body.NoCommentEnd →
    tracedOn number run =
      (before ++ [state.commentAt (utf8Length (before.flatMap PlacedToken.text))
        ('/' :: '*' :: body) (some .comment)]).map (PlacedToken.traced number)
  /-- Every line below that it comes to is a token of it, if it has no end either and is not
  empty. -/
  within : body.NoCommentEnd → ∀ last, OpenUntil (lines document) number last →
    ∀ lower, (lines document)[last]? = some lower → lower.NoCommentEnd →
      tracedOn last run =
        (if lower = [] then [] else [state.commentAt 0 lower (some .comment)]).map
          (PlacedToken.traced last)
  /-- On the first line below with an end it is a token up to the first end of the line, and
  scanning starts anew behind it. -/
  ended : body.NoCommentEnd → ∀ last, OpenUntil (lines document) number last →
    ∀ lower, (lines document)[last]? = some lower →
      ∀ inside behind, lower = inside ++ '*' :: '/' :: behind → inside.NoCommentEnd →
        tracedOn last run =
          (mode.closedComment (Text.indentation mode.settings.tabSize lower) 0
            (inside ++ ['*', '/']) behind state).map (PlacedToken.traced last)
  /-- If no line has one, the document ends in it. -/
  endless : body.NoCommentEnd →
    (∀ lower ∈ (lines document).drop (number + 1), lower.NoCommentEnd) →
    mode.finalState document = state.behindComment (some .comment)

/-- Wherever highlighting comes to the delimiter of a comment and nothing is open, the comment has
all of the document up to its first end. -/
theorem coversComment (mode : Mode) {document : Text} {number : Nat} {line body : Text}
    {before after : List PlacedToken} (isLine : (lines document)[number]? = some line)
    (split : mode.lineTokens line
      (mode.linesEnd ((lines document).take number) (mode.startState 0)) = before ++ after)
    (left : line = before.flatMap PlacedToken.text ++ '/' :: '*' :: body)
    (nothing : (stateBehind before
      (mode.linesEnd ((lines document).take number) (mode.startState 0))).continuation = none) :
    let run := mode.trace 0 (lines document) (mode.startState 0)
    let state := stateBehind before
      (mode.linesEnd ((lines document).take number) (mode.startState 0))
    run.map TracedToken.token = mode.highlight document ∧
      mode.CoversComment document run number line before body state := by
  intro run state
  have onLine : ∀ {last : Nat} {lower : Text}, (lines document)[last]? = some lower →
      tracedOn last run = (mode.lineTokens lower
        (mode.linesEnd ((lines document).take last) (mode.startState 0))).map
          (PlacedToken.traced last) :=
    fun isLower => tracedOn_trace isLower (mode.startState 0)
  have rest := eq_tokensFrom_of_append split left
  rw [Nat.zero_add] at rest
  have starts : state.CommentFront ['/', '*'] := .starts nothing
  have opened : body.NoCommentEnd → after =
      [state.commentAt (utf8Length (before.flatMap PlacedToken.text)) ('/' :: '*' :: body)
        (some .comment)] :=
    fun endless => rest.trans (tokensFrom_endless starts endless (by simp) _ _)
  have reached : body.NoCommentEnd → ∀ {last : Nat}, OpenUntil (lines document) number last →
      mode.linesEnd ((lines document).take last) (mode.startState 0) =
        state.behindComment (some .comment) := by
    intro endless last openUntil
    refine linesEnd_take_of_openUntil isLine ?_ openUntil
    rw [lineEnd, split, opened endless, stateBehind, List.getLast?_concat]
    rfl
  refine ⟨mode.map_token_trace _ _ _, ?_, ?_, ?_, ?_, ?_⟩
  · rintro inside behind rfl endless
    rw [onLine isLine, split, rest]
    exact congrArg (fun tokens => (before ++ tokens).map (PlacedToken.traced number))
      (tokensFrom_closed starts endless _ _ behind)
  · intro endless
    rw [onLine isLine, split, opened endless]
  · intro endless last openUntil lower isLower here
    rw [onLine isLower, reached endless openUntil, mode.lineTokens_behindComment state here]
  · rintro endless last openUntil lower isLower inside behind rfl here
    rw [onLine isLower, reached endless openUntil]
    exact congrArg (List.map _) (tokensFrom_closed (.goesOn rfl) here _ 0 behind)
  · intro endless below
    obtain ⟨inside, -⟩ := List.getElem?_eq_some_iff.mp isLine
    have whole := List.take_length (l := lines document)
    have ends := reached endless ⟨inside, by rwa [whole]⟩
    rwa [whole] at ends

/-- A star at the end of a line and a slash at the start of the next one are no end, nor are the
first characters of `/*/`, so a comment goes on to the end that the fifth line has. Behind it
another one starts, in which the document ends. -/
theorem coversComment_splitEnd :
    let css := ofDialect .css
    let document := "a/*/ *\n/ b\n\n \n*x**/y/* z".toList
    let run := css.trace 0 (lines document) (css.startState 0)
    let entry number := css.linesEnd ((lines document).take number) (css.startState 0)
    let word := (css.lineTokens "a/*/ *".toList (entry 0)).take 1
    let ending := (css.lineTokens "*x**/y/* z".toList (entry 4)).take 2
    css.CoversComment document run 0 "a/*/ *".toList word "/ *".toList
        (stateBehind word (entry 0)) ∧
      css.CoversComment document run 4 "*x**/y/* z".toList ending " z".toList
        (stateBehind ending (entry 4)) ∧
      tracedOn 2 run = [] ∧ (tracedOn 3 run).map (·.token.text) = [[' ']] ∧
      (tracedOn 4 run).head?.map (·.token.text) = some "*x**/".toList ∧
      (css.finalState document).continuation = some .comment := by
  intro css document run entry word ending
  have isFirst : (lines document)[0]? = some "a/*/ *".toList := by decide +kernel
  have behindWord : "a/*/ *".toList =
      word.flatMap PlacedToken.text ++ '/' :: '*' :: "/ *".toList := by decide +kernel
  have first := (css.coversComment isFirst (List.take_append_drop 1 _).symm behindWord
    (by decide +kernel)).2
  have isLast : (lines document)[4]? = some "*x**/y/* z".toList := by decide +kernel
  have behindEnding : "*x**/y/* z".toList =
      ending.flatMap PlacedToken.text ++ '/' :: '*' :: " z".toList := by decide +kernel
  have second := (css.coversComment isLast (List.take_append_drop 2 _).symm behindEnding
    (by decide +kernel)).2
  have empty := first.within (by decide +kernel) 2 ⟨by decide, by decide +kernel⟩ [] rfl
    (by decide)
  have blank := first.within (by decide +kernel) 3 ⟨by decide, by decide +kernel⟩ [' '] rfl
    (by decide)
  have ended := first.ended (by decide +kernel) 4 ⟨by decide, by decide +kernel⟩ _ isLast
    "*x*".toList "y/* z".toList rfl (by decide +kernel)
  have final := second.endless (by decide +kernel) (by decide +kernel)
  refine ⟨first, second, empty, ?_, ?_, congrArg ParseState.continuation final⟩
  · rw [blank]
    rfl
  · rw [ended]
    rfl

end Mode

end Stylesheet
