import Stylesheet.Proofs.BytePatterns
import Stylesheet.Proofs.Requests

/-!
# Scanning with a cursor that counts bytes

Here the scanner moves a `ByteCursor`. It reads characters one by one, runs of a class, and matches
of patterns that measure bytes, and at times it goes back over a character. Every move and every cut
fails inside a character, and so does a round of a loop that leaves as much of the line as it found.
None does: at the offsets of a `Cursor` the scanner reads the lexeme that `scan` reads from what is
left of the line, and comes to the offsets behind it (`Cursor.scan?_toBytes`).
-/
namespace Stylesheet

open Pattern
open Text (utf8Length leading isBlank CuttingPattern)

namespace ByteCursor

/-- What a lexeme is and what it leaves open. -/
structure Outcome where
  /-- What it is. -/
  token : Token
  /-- What it leaves open. -/
  continuation : Option Continuation

/-! ## The scanner -/

/-- The bytes behind a cursor. -/
def left (cursor : ByteCursor) : Nat := utf8Length cursor.line - cursor.offset

/-- The end of a lexeme that leaves nothing open. -/
def ends (token : Token) (cursor : ByteCursor) : Option (Outcome × ByteCursor) :=
  some (⟨token, none⟩, cursor)

/-- Say whether a pattern that cuts by bytes matches what comes next, and read the match if so
asked. -/
def matchCutting? (pattern : CuttingPattern) (consume : Bool) (cursor : ByteCursor) :
    Option (Bool × ByteCursor) := do
  match ← pattern (← cursor.rest?) with
  | some bytes => return (true, ← if consume then cursor.advance? bytes else some cursor)
  | none => return (false, cursor)

/-- Read up to a delimiter, or over it unless it is a parenthesis. Whether there is one, and whether
the line ends behind an open backslash. -/
def delimited? (delimiter : Char) (escaped : Bool) (cursor : ByteCursor) :
    Option ((Bool × Bool) × ByteCursor) := do
  let (read, behind) ← cursor.next?
  match read with
  | none => return ((false, escaped), behind)
  | some c =>
    if c = delimiter && !escaped then
      if delimiter = ')' then return ((true, escaped), ← behind.backUp? 1)
      else return ((true, escaped), behind)
    else if behind.left < cursor.left then behind.delimited? delimiter (!escaped && c == '\\')
    else none
termination_by cursor.left

/-- The rest of a string, or of an unquoted argument where the delimiter is a parenthesis. -/
def string? (delimiter : Char) (opened : Continuation) (cursor : ByteCursor) :
    Option (Outcome × ByteCursor) := do
  let ((closed, escaped), cursor) ← cursor.delimited? delimiter false
  let left := if closed || (!escaped && delimiter != ')') then none else some opened
  return (⟨.styled .string .string, left⟩, cursor)

/-- Read over the end of a comment. Whether there is one. -/
def commentBody? (afterStar : Bool) (cursor : ByteCursor) : Option (Bool × ByteCursor) := do
  let (read, behind) ← cursor.next?
  match read with
  | none => return (false, behind)
  | some c =>
    if afterStar && c == '/' then return (true, behind)
    else if behind.left < cursor.left then behind.commentBody? (c == '*')
    else none
termination_by cursor.left

/-- The rest of a block comment. -/
def comment? (cursor : ByteCursor) : Option (Outcome × ByteCursor) := do
  let (closed, cursor) ← cursor.commentBody? false
  return (⟨.styled .comment .comment, if closed then none else some .comment⟩, cursor)

/-- The parenthesis of a function whose argument need not be quoted. -/
def argument? (cursor : ByteCursor) : Option (Outcome × ByteCursor) := do
  let (_, cursor) ← cursor.next?
  let (quoted, cursor) ← cursor.matchCutting? BytePattern.quoteOrClose? false
  return (⟨.bare .parenOpen, if quoted then none else some .rawArgument⟩, cursor)

/-- The name of such a function, behind its parenthesis, which is given back. -/
def rawFunction? (cursor : ByteCursor) : Option (Outcome × ByteCursor) := do
  let cursor ← cursor.backUp? 1
  return (⟨.styled .property .word, some .argument⟩, cursor)

/-- The rest of a number with its unit. -/
def number? (cursor : ByteCursor) : Option (Outcome × ByteCursor) := do
  let (_, cursor) ← cursor.eatWhile? isUnitChar
  cursor.ends (.styled .number .unit)

/-- The end of a variable, which is defined if a colon comes behind it. -/
def variableEnd? (cursor : ByteCursor) : Option (Outcome × ByteCursor) := do
  let (defined, cursor) ← cursor.matchCutting? (BytePattern.blankThen? ':') false
  cursor.ends (.styled .variable2 (if defined then .variableDefinition else .variableUse))

/-- What stands behind a dash. -/
def dash? (cursor : ByteCursor) : Option (Outcome × ByteCursor) := do
  if (← cursor.peek?).any fun c => c.isDigit || c == '.' then cursor.number?
  else
    let (custom, cursor) ← cursor.matchCutting? BytePattern.customProperty? true
    if custom then
      let (_, cursor) ← cursor.eatWhile? isIdentChar
      cursor.variableEnd?
    else
      let (vendor, cursor) ← cursor.matchCutting? BytePattern.vendorTail? true
      cursor.ends (if vendor then .styled .vendor .vendor else .bare .unclassified)

/-- What stands behind a dot. -/
def dot? (cursor : ByteCursor) : Option (Outcome × ByteCursor) := do
  let (digit, cursor) ← cursor.eatIf? Char.isDigit
  if digit.isSome then cursor.number?
  else
    let (named, cursor) ← cursor.matchCutting? BytePattern.className? true
    cursor.ends (if named then .styled .qualifier .qualifier else .bare .unclassified)

/-- What stands behind a bar or a tilde. -/
def equals? (cursor : ByteCursor) : Option (Outcome × ByteCursor) := do
  let (equal, cursor) ← cursor.eat? '='
  cursor.ends (.bare (if equal then .compare else .unclassified))

/-- The rest of an identifier, or a character that has no meaning. -/
def identifier? (c : Char) (cursor : ByteCursor) : Option (Outcome × ByteCursor) := do
  if isIdentChar c then
    let (_, cursor) ← cursor.eatWhile? isIdentChar
    cursor.ends (.styled .property .word)
  else cursor.ends (.bare .unclassified)

/-- The rules that all dialects share, behind a character. -/
def shared? (c : Char) (cursor : ByteCursor) : Option (Outcome × ByteCursor) :=
  match c with
  | '@' => do
    let (_, cursor) ← cursor.eatWhile? isIdentChar
    cursor.ends (.styled .definition .atRule)
  | '=' => cursor.ends (.bare .compare)
  | '~' => cursor.equals?
  | '|' => cursor.equals?
  | '"' => cursor.string? '"' (.string .double)
  | '\'' => cursor.string? '\'' (.string .single)
  | '#' => do
    let (_, cursor) ← cursor.eatWhile? isIdentChar
    cursor.ends (.styled .atom .hash)
  | '!' => do
    let (_, cursor) ← cursor.matchCutting? BytePattern.importantTail? true
    cursor.ends (.styled .keyword .important)
  | '-' => cursor.dash?
  | '.' => cursor.dot?
  | ',' => cursor.ends (.bare .selectOp)
  | '+' => cursor.ends (.bare .selectOp)
  | '>' => cursor.ends (.bare .selectOp)
  | '*' => cursor.ends (.bare .selectOp)
  | '/' => cursor.ends (.bare .selectOp)
  | 'u' => do
    let (named, cursor) ← cursor.matchCutting? BytePattern.urlTail? true
    if named then cursor.rawFunction? else cursor.identifier? 'u'
  | 'd' => do
    let (named, cursor) ← cursor.matchText? "omain(".toList true
    if named then cursor.rawFunction? else cursor.identifier? 'd'
  | 'r' => do
    let (named, cursor) ← cursor.matchText? "egexp(".toList true
    if named then cursor.rawFunction? else cursor.identifier? 'r'
  | c =>
    if c.isDigit then cursor.number?
    else match Kind.punctuation? c with
      | some kind => cursor.ends (.bare kind)
      | none => cursor.identifier? c

/-- What a dialect reads behind a character of its choice, if it does not decline. -/
def hook? (construct : Hook) (cursor : ByteCursor) : Option (Option Outcome × ByteCursor) :=
  match construct with
  | .blockComment => do
    let (star, cursor) ← cursor.eat? '*'
    if star then return (← cursor.comment?).map some id else return (none, cursor)
  | .comments => do
    let (slash, cursor) ← cursor.eat? '/'
    if slash then return (some ⟨.styled .comment .comment, none⟩, ← cursor.skipToEnd?)
    else
      let (star, cursor) ← cursor.eat? '*'
      if star then return (← cursor.comment?).map some id
      else return (some ⟨.styled .operator .operator, none⟩, cursor)
  | .nestedPropertyColon => do
    let (brace, cursor) ← cursor.matchCutting? (BytePattern.blankThen? '{') true
    return (if brace then some ⟨.bare .braceOpen, none⟩ else none, cursor)
  | .dollarVariable => do
    let (_, cursor) ← cursor.matchCutting? BytePattern.dollarName? true
    return (← cursor.variableEnd?).map some id
  | .hashInterpolation => do
    let (brace, cursor) ← cursor.eat? '{'
    return (if brace then some ⟨.bare .interpolation, none⟩ else none, cursor)
  | .atVariable => do
    let (brace, cursor) ← cursor.eat? '{'
    if brace then return (some ⟨.bare .interpolation, none⟩, cursor)
    else
      let (rule, cursor) ← cursor.matchCutting? BytePattern.atRuleName? false
      if rule then return (none, cursor)
      else
        let (_, cursor) ← cursor.eatWhile? isIdentChar
        return (← cursor.variableEnd?).map some id
  | .parentSelector => some (some ⟨.styled .atom .atom, none⟩, cursor)

/-- One lexeme where nothing is open. -/
def base? (dialect : Dialect) (cursor : ByteCursor) : Option (Outcome × ByteCursor) := do
  let (read, cursor) ← cursor.next?
  match read with
  | none => cursor.ends (.bare .unclassified)
  | some c =>
    let (hooked, cursor) ← match dialect.hook? c with
      | some construct => cursor.hook? construct
      | none => some (none, cursor)
    match hooked with
    | some outcome => return (outcome, cursor)
    | none => cursor.shared? c

/-- One lexeme, which goes on with what is open. -/
def scan? (dialect : Dialect) (opened : Option Continuation) (cursor : ByteCursor) :
    Option (Outcome × ByteCursor) :=
  match opened with
  | none => cursor.base? dialect
  | some (.string quote) => cursor.string? quote.char (.string quote)
  | some .comment => cursor.comment?
  | some .argument => cursor.argument?
  | some .rawArgument => cursor.string? ')' .rawArgument

end ByteCursor

/-! ## Names of functions -/

namespace Pattern

/-- The name of a function is at the front of a text if its first letter and its tail are. -/
theorem isPrefixOf_function {name tail : String} {first : Char}
    (whole : name.toList ++ ['('] = first :: tail.toList) (c : Char) (rest : Text) :
    (name.toList ++ ['(']).isPrefixOf (c :: rest) =
      (first == c && tail.toList.isPrefixOf rest) := by
  rw [whole, List.isPrefixOf_cons_cons]

/-- So the first letter tells which tails to look for. -/
theorem rawFunction?_cons (c : Char) (rest : Text) :
    rawFunction? (c :: rest) =
      if 'u' == c && "rl(".toList.isPrefixOf rest then some 3
      else if 'u' == c && "rl-prefix(".toList.isPrefixOf rest then some 10
      else if 'd' == c && "omain(".toList.isPrefixOf rest then some 6
      else if 'r' == c && "egexp(".toList.isPrefixOf rest then some 6
      else none := by
  have url : "url".toList ++ ['('] = 'u' :: "rl(".toList := by decide
  have urlPrefix : "url-prefix".toList ++ ['('] = 'u' :: "rl-prefix(".toList := by decide
  have domain : "domain".toList ++ ['('] = 'd' :: "omain(".toList := by decide
  have regexp : "regexp".toList ++ ['('] = 'r' :: "egexp(".toList := by decide
  rw [rawFunction?, rawFunctions, List.find?_cons, List.find?_cons, List.find?_cons,
    List.find?_cons, isPrefixOf_function url, isPrefixOf_function urlPrefix,
    isPrefixOf_function domain, isPrefixOf_function regexp]
  cases 'u' == c && "rl(".toList.isPrefixOf rest with
  | true => rfl
  | false =>
    cases 'u' == c && "rl-prefix(".toList.isPrefixOf rest with
    | true => rfl
    | false =>
      cases 'd' == c && "omain(".toList.isPrefixOf rest with
      | true => rfl
      | false => cases 'r' == c && "egexp(".toList.isPrefixOf rest <;> rfl

/-- Behind a `u` there are two. -/
theorem rawFunction?_cons_u (rest : Text) :
    (["rl(", "rl-prefix("].find? (·.toList.isPrefixOf rest)).map String.length =
      rawFunction? ('u' :: rest) := by
  rw [rawFunction?_cons, List.find?_cons, List.find?_cons]
  cases "rl(".toList.isPrefixOf rest <;> cases "rl-prefix(".toList.isPrefixOf rest <;> rfl

/-- Behind a `d` there is one. -/
theorem rawFunction?_cons_d (rest : Text) :
    (if "omain(".toList.isPrefixOf rest then some "omain(".toList.length else none) =
      rawFunction? ('d' :: rest) := by
  rw [rawFunction?_cons]
  cases "omain(".toList.isPrefixOf rest <;> rfl

/-- Behind an `r` there is one. -/
theorem rawFunction?_cons_r (rest : Text) :
    (if "egexp(".toList.isPrefixOf rest then some "egexp(".toList.length else none) =
      rawFunction? ('r' :: rest) := by
  rw [rawFunction?_cons]
  cases "egexp(".toList.isPrefixOf rest <;> rfl

/-- Behind any other letter there is none. -/
theorem rawFunction?_cons_other {c : Char} (rest : Text) (noU : c ≠ 'u') (noD : c ≠ 'd')
    (noR : c ≠ 'r') : rawFunction? (c :: rest) = none := by
  have u : ('u' == c) = false := beq_false_of_ne noU.symm
  have d : ('d' == c) = false := beq_false_of_ne noD.symm
  have r : ('r' == c) = false := beq_false_of_ne noR.symm
  rw [rawFunction?_cons, u, d, r]
  rfl

end Pattern

/-! ## Moves -/

/-- Behind a run of a class there is no more of it. -/
theorem Text.leading_drop_leading (belongs : Char → Bool) (text : Text) :
    leading belongs (text.drop (leading belongs text)) = 0 := by
  rw [Text.drop_leading, leading, List.length_eq_zero_iff, List.takeWhile_eq_nil_iff]
  intro nonempty
  exact List.dropWhile_get_zero_not belongs text nonempty

namespace Cursor

variable (cursor : Cursor)

/-- To pass some characters and then more is to pass as many together. -/
theorem advance_advance (few more : Nat) :
    (cursor.advance few).advance more = cursor.advance (few + more) := by
  simp [advance, List.take_add, List.drop_drop]

/-- No more characters are passed than are left. -/
theorem advance_length_take (count : Nat) :
    cursor.advance (cursor.rest.take count).length = cursor.advance count := by
  simp [advance]

/-- Behind the next character is what comes after it. -/
theorem rest_advance_one {c : Char} {rest : Text} (here : cursor.rest = c :: rest) :
    (cursor.advance 1).rest = rest := by
  rw [rest_advance, here, List.drop_one]
  rfl

/-- Behind a cursor are the bytes of what is left. -/
theorem left_toBytes : cursor.toBytes.left = utf8Length cursor.rest := by
  have line : utf8Length cursor.line = cursor.offset + utf8Length cursor.rest := by
    rw [← cursor.passed_rest, Text.utf8Length_append, Text.utf8Length_reverse]
    rfl
  rw [ByteCursor.left, toBytes, line, Nat.add_sub_cancel_left]

/-- To pass characters leaves less. -/
theorem left_advance_lt (inside : cursor.rest ≠ []) {count : Nat} (some : 0 < count) :
    (cursor.advance count).toBytes.left < cursor.toBytes.left := by
  have passed : utf8Length (cursor.rest.take count) ≠ 0 := by
    rw [ne_eq, Text.utf8Length_eq_zero_iff, List.take_eq_nil_iff]
    exact fun empty => empty.elim some.ne' inside
  have split : utf8Length cursor.rest =
      utf8Length (cursor.rest.take count) + utf8Length (cursor.rest.drop count) := by
    rw [← Text.utf8Length_append, List.take_append_drop]
  rw [left_toBytes, left_toBytes, rest_advance, split]
  omega

/-- The last character that is passed may be given back. -/
theorem backUp_advance_add_one {count : Nat} (inside : count < cursor.rest.length) :
    (cursor.advance (count + 1)).backUp 1 = cursor.advance count := by
  have left : (cursor.advance count).rest =
      cursor.rest[count] :: cursor.rest.drop (count + 1) := by
    rw [rest_advance, ← List.drop_eq_getElem_cons]
  rw [← advance_advance, backUp_advance_one _ left]

/-- An expected character is read. -/
theorem eat?_toBytes_of_head? {expected : Char} (isNext : cursor.rest.head? = some expected) :
    cursor.toBytes.eat? expected = some (true, (cursor.advance 1).toBytes) := by
  rw [eat?_toBytes, eat, peek?, if_pos isNext]
  rfl

/-- Any other is left. -/
theorem eat?_toBytes_of_ne {expected : Char} (other : cursor.rest.head? ≠ some expected) :
    cursor.toBytes.eat? expected = some (false, cursor.toBytes) := by
  rw [eat?_toBytes, eat, peek?, if_neg other]
  rfl

variable {cutting : CuttingPattern} {pattern : Text.Pattern}

/-- A pattern that cuts by bytes matches where the pattern over characters does that it measures. -/
theorem peekMatch?_toBytes (measures : cutting.Measures pattern) :
    cursor.toBytes.matchCutting? cutting false =
      some ((pattern cursor.rest).isSome, cursor.toBytes) := by
  rw [ByteCursor.matchCutting?, rest?_toBytes, Option.bind_eq_bind, Option.bind_some,
    measures cursor.rest]
  cases pattern cursor.rest <;> rfl

/-- To read its match is to pass the characters of the other. -/
theorem readMatch?_toBytes (measures : cutting.Measures pattern) :
    cursor.toBytes.matchCutting? cutting true =
      some ((pattern cursor.rest).isSome,
        (cursor.advance ((pattern cursor.rest).getD 0)).toBytes) := by
  rw [ByteCursor.matchCutting?, rest?_toBytes, Option.bind_eq_bind, Option.bind_some,
    measures cursor.rest]
  cases pattern cursor.rest with
  | none =>
    rw [Option.getD_none, advance_zero]
    rfl
  | some count =>
    have passed := cursor.advance?_toBytes (List.take_prefix count cursor.rest)
    rw [advance_length_take] at passed
    simp only [Option.map_some, Option.bind_eq_bind, Option.bind_some, if_true, passed]
    rfl

end Cursor

/-- What is read at a cursor: a lexeme, and the offsets behind it. -/
def Scanned.readAt (scanned : Scanned) (cursor : Cursor) : ByteCursor.Outcome × ByteCursor :=
  (⟨scanned.token, scanned.continuation⟩, (cursor.advance scanned.length).toBytes)

/-- A lexeme with some characters in front. -/
theorem Scanned.readAt_behind (scanned : Scanned) (count : Nat) (cursor : Cursor) :
    (scanned.behind count).readAt cursor = scanned.readAt (cursor.advance count) := by
  rw [readAt, readAt, behind, Cursor.advance_advance]

namespace Cursor

variable (cursor : Cursor)

open Scan

/-! ## Text with a delimiter -/

/-- At the end of the line there is nothing to read. -/
theorem next?_toBytes_of_nil (ended : cursor.rest = []) :
    cursor.toBytes.next? = some (none, (cursor.advance 0).toBytes) := by
  have unmoved : cursor.advance 1 = cursor.advance 0 := by simp [advance, ended]
  rw [next?_toBytes, next, peek?, ended, unmoved]
  rfl

/-- In front of it there is a character. -/
theorem next?_toBytes_of_cons {c : Char} {rest : Text} (here : cursor.rest = c :: rest) :
    cursor.toBytes.next? = some (some c, (cursor.advance 1).toBytes) := by
  rw [next?_toBytes, next, peek?, here]
  rfl

/-- Up to a delimiter the same characters are read. -/
theorem delimited?_toBytes (delimiter : Char) (escaped : Bool) :
    cursor.toBytes.delimited? delimiter escaped =
      match delimited delimiter escaped cursor.rest with
      | (length, .closed) =>
        some ((true, false),
          (cursor.advance (if delimiter = ')' then length else length + 1)).toBytes)
      | (length, .unclosed escapedBehind) =>
        some ((false, escapedBehind), (cursor.advance length).toBytes) := by
  generalize here : cursor.rest = rest
  induction rest generalizing cursor escaped with
  | nil =>
    rw [ByteCursor.delimited?, cursor.next?_toBytes_of_nil here]
    rfl
  | cons c rest ih =>
    have behind := cursor.rest_advance_one here
    have less : (cursor.advance 1).toBytes.left < cursor.toBytes.left :=
      cursor.left_advance_lt (by simp [here]) Nat.one_pos
    rw [ByteCursor.delimited?, cursor.next?_toBytes_of_cons here, delimited]
    by_cases closes : (c = delimiter && !escaped) = true
    · obtain ⟨isDelimiter, unescaped⟩ : c = delimiter ∧ escaped = false := by simpa using closes
      simp only [Option.bind_eq_bind, Option.bind_some, closes, if_true]
      by_cases paren : delimiter = ')'
      · rw [if_pos paren, if_pos paren, backUp?_toBytes, cursor.backUp_advance_one here,
          advance_zero, unescaped]
        rfl
      · rw [if_neg paren, if_neg paren, unescaped]
        rfl
    · simp only [Option.bind_eq_bind, Option.bind_some, closes]
      rw [if_neg Bool.false_ne_true, if_neg Bool.false_ne_true, if_pos less, ih _ _ behind]
      rcases delimited delimiter (!escaped && c == '\\') rest with ⟨length, _ | escapedBehind⟩
      · simp only [advance_advance, Nat.add_comm 1]
        split <;> rfl
      · simp only [advance_advance, Nat.add_comm 1]

/-- A comment goes on to the same character. -/
theorem commentBody?_toBytes (afterStar : Bool) :
    cursor.toBytes.commentBody? afterStar =
      let (length, closed) := commentBody afterStar cursor.rest
      some (closed, (cursor.advance length).toBytes) := by
  generalize here : cursor.rest = rest
  induction rest generalizing cursor afterStar with
  | nil =>
    rw [ByteCursor.commentBody?, cursor.next?_toBytes_of_nil here]
    rfl
  | cons c rest ih =>
    have behind := cursor.rest_advance_one here
    have less : (cursor.advance 1).toBytes.left < cursor.toBytes.left :=
      cursor.left_advance_lt (by simp [here]) Nat.one_pos
    rw [ByteCursor.commentBody?, cursor.next?_toBytes_of_cons here, commentBody]
    by_cases closes : (afterStar && c == '/') = true
    · simp only [Option.bind_eq_bind, Option.bind_some, closes, if_true]
      rfl
    · simp only [Option.bind_eq_bind, Option.bind_some, closes]
      rw [if_neg Bool.false_ne_true, if_neg Bool.false_ne_true, if_pos less, ih _ _ behind]
      simp only [advance_advance, Nat.add_comm 1]

theorem string?_toBytes (quote : Quote) :
    cursor.toBytes.string? quote.char (.string quote) =
      some ((string quote cursor.rest).readAt cursor) := by
  have noParen : quote.char ≠ ')' := by cases quote <;> decide
  simp only [ByteCursor.string?, delimited?_toBytes, string, noParen, if_false]
  rcases delimited quote.char false cursor.rest with ⟨length, _ | escaped⟩
  · rfl
  · cases escaped <;> simp [Scanned.readAt, Scanned.styled, noParen]

theorem rawArgument?_toBytes :
    cursor.toBytes.string? ')' .rawArgument = some ((rawArgument cursor.rest).readAt cursor) := by
  simp only [ByteCursor.string?, delimited?_toBytes, rawArgument, if_true]
  rcases delimited ')' false cursor.rest with ⟨length, _ | escaped⟩
  · rfl
  · cases escaped <;> rfl

theorem comment?_toBytes :
    cursor.toBytes.comment? = some ((comment cursor.rest).readAt cursor) := by
  simp only [ByteCursor.comment?, commentBody?_toBytes, comment]
  rcases commentBody false cursor.rest with ⟨length, _ | _⟩ <;> rfl

theorem argument?_toBytes :
    cursor.toBytes.argument? = some ((argument cursor.rest).readAt cursor) := by
  have passed : cursor.advance (min cursor.rest.length 1) = cursor.advance 1 := by
    rw [← cursor.advance_length_take 1, List.length_take, Nat.min_comm]
  simp only [ByteCursor.argument?, next?_toBytes, Option.bind_eq_bind, Option.bind_some, next,
    Prod.map_snd, peekMatch?_toBytes _ BytePattern.measures_quoteOrClose, Option.isSome_ite,
    Scanned.readAt, argument, passed]
  rfl

/-! ## Names and numbers -/

theorem number?_toBytes :
    cursor.toBytes.number? = some ((number cursor.rest).readAt cursor) := by
  simp only [ByteCursor.number?, eatWhile?_toBytes, Option.bind_eq_bind, Option.bind_some]
  rfl

/-- A variable that is read ends as it does in front of what is left. -/
theorem variableEnd?_toBytes (count : Nat) :
    (cursor.advance count).toBytes.variableEnd? =
      some ((variableOf count cursor.rest).readAt cursor) := by
  simp only [ByteCursor.variableEnd?, peekMatch?_toBytes _ (BytePattern.measures_blankThen ':'),
    Option.bind_eq_bind, Option.bind_some, Option.isSome_ite, variableOf, definitionColon]
  rfl

/-- Behind a run of a class there is no more of it. -/
theorem eatWhile?_toBytes_of_maximal (belongs : Char → Bool) {count : Nat}
    (ended : leading belongs (cursor.rest.drop count) = 0) :
    (cursor.advance count).toBytes.eatWhile? belongs =
      some (false, (cursor.advance count).toBytes) := by
  rw [eatWhile?_toBytes, eatWhile, rest_advance, ended, advance_zero]
  rfl

theorem dash?_toBytes : cursor.toBytes.dash? = some ((dash cursor.rest).readAt cursor) := by
  simp only [ByteCursor.dash?, peek?_toBytes, peek?, Option.bind_eq_bind, Option.bind_some,
    readMatch?_toBytes _ BytePattern.measures_customProperty,
    readMatch?_toBytes _ BytePattern.measures_vendorTail, number?_toBytes, dash]
  split
  · rfl
  · cases custom : customProperty? cursor.rest with
    | some length =>
      obtain ⟨name, isCustom, -, rfl⟩ := customProperty?_eq_some custom
      have ended : leading isIdentChar (cursor.rest.drop (leading isIdentChar name + 1)) = 0 := by
        rw [isCustom, List.drop_succ_cons, Text.leading_drop_leading]
      simp only [Option.isSome_some, if_true, Option.getD_some,
        cursor.eatWhile?_toBytes_of_maximal _ ended, Option.bind_some, variableEnd?_toBytes]
    | none =>
      simp only [Option.isSome_none, Bool.false_eq_true, if_false, Option.getD_none, advance_zero]
      cases vendorTail? cursor.rest <;> rfl

/-- A number goes on behind one of its digits. -/
theorem number?_toBytes_of_digit {c : Char} {rest : Text} (here : cursor.rest = c :: rest)
    (digit : c.isDigit = true) :
    (cursor.advance 1).toBytes.number? = some ((number cursor.rest).readAt cursor) := by
  have more : number cursor.rest = (number (cursor.advance 1).rest).behind 1 := by
    rw [rest_advance, here, number, Text.leading_cons, if_pos (isUnitChar_of_isDigit digit),
      Nat.add_comm]
    rfl
  rw [number?_toBytes, more, Scanned.readAt_behind]

theorem dot?_toBytes : cursor.toBytes.dot? = some ((dot cursor.rest).readAt cursor) := by
  simp only [ByteCursor.dot?, eatIf?_toBytes, eatIf, peek?, Option.bind_eq_bind, Option.bind_some,
    dot]
  have name : (do
      let (named, behind) ← cursor.toBytes.matchCutting? BytePattern.className? true
      behind.ends (if named then .styled .qualifier .qualifier else .bare .unclassified)) =
      some ((match className? cursor.rest with
        | some length => Scanned.styled .qualifier .qualifier length
        | none => .bare .unclassified 0).readAt cursor) := by
    rw [readMatch?_toBytes _ BytePattern.measures_className]
    cases className? cursor.rest <;> rfl
  cases here : cursor.rest with
  | nil => rw [here] at name; exact name
  | cons c rest =>
    simp only [List.head?_cons, Option.any_some]
    by_cases digit : c.isDigit = true
    · simp only [digit, if_true]
      exact (cursor.number?_toBytes_of_digit here digit).trans (by rw [here])
    · simp only [digit]
      rw [here] at name
      exact name

/-- A bar or a tilde with what may belong to it. -/
theorem equals?_toBytes :
    cursor.toBytes.equals? =
      some ((if cursor.rest.head? == some '=' then Scanned.bare .compare 1
        else .bare .unclassified 0).readAt cursor) := by
  rw [ByteCursor.equals?]
  by_cases equal : cursor.rest.head? = some '='
  · rw [cursor.eat?_toBytes_of_head? equal, equal]
    rfl
  · rw [cursor.eat?_toBytes_of_ne equal, if_neg (by simpa using equal)]
    rfl

/-! ## Identifiers -/

/-- Behind its parenthesis the name of a function is given back all but itself. -/
theorem rawFunction?_toBytes {c : Char} {rest : Text} {length : Nat}
    (here : cursor.rest = c :: rest) (named : rawFunction? (c :: rest) = some length) :
    ((cursor.advance 1).advance length).toBytes.rawFunction? =
      some ((identifier c rest).readAt cursor) := by
  obtain ⟨name, -, after, split, rfl⟩ := rawFunction?_eq_some named
  have inside : name.toList.length < cursor.rest.length := by
    rw [here, split, List.length_append, List.length_cons]
    exact Nat.lt_add_of_pos_right (Nat.succ_pos _)
  rw [ByteCursor.rawFunction?, advance_advance, Nat.add_comm, backUp?_toBytes,
    cursor.backUp_advance_add_one inside, identifier, named]
  rfl

/-- The rest of an identifier is read. -/
theorem identifier?_toBytes {c : Char} {rest : Text} (here : cursor.rest = c :: rest)
    (unnamed : rawFunction? (c :: rest) = none) :
    (cursor.advance 1).toBytes.identifier? c = some ((identifier c rest).readAt cursor) := by
  rw [ByteCursor.identifier?, identifier, unnamed]
  by_cases ident : isIdentChar c = true
  · have behind := cursor.rest_advance_one here
    simp only [ident, if_true, eatWhile?_toBytes, eatWhile, behind, advance_advance,
      Text.leading_cons, Option.bind_eq_bind, Option.bind_some, Nat.add_comm 1]
    rfl
  · simp only [ident]
    rfl

/-- Where the tail of a name is found behind its first letter, so is the name. -/
theorem readTail?_toBytes {c : Char} {rest : Text} (here : cursor.rest = c :: rest)
    {found : Option Nat} (names : found = rawFunction? (c :: rest)) :
    (if found.isSome then ((cursor.advance 1).advance (found.getD 0)).toBytes.rawFunction?
      else ((cursor.advance 1).advance (found.getD 0)).toBytes.identifier? c) =
      some ((identifier c rest).readAt cursor) := by
  cases found with
  | some length => exact cursor.rawFunction?_toBytes here names.symm
  | none =>
    rw [Option.getD_none, advance_zero]
    exact cursor.identifier?_toBytes here names.symm

/-- A text that comes next is read. -/
theorem readText?_toBytes (text : Text) :
    let found := if text.isPrefixOf cursor.rest then some text.length else none
    cursor.toBytes.matchText? text true =
      some (found.isSome, (cursor.advance (found.getD 0)).toBytes) := by
  intro found
  have matched : cursor.matchText text true = match found with
    | some count => (true, cursor.advance count)
    | none => (false, cursor) := by
    rw [matchText, matchPattern]
    rfl
  rw [matchText?_toBytes, matched]
  cases found with
  | some count => rfl
  | none =>
    rw [Option.getD_none, advance_zero]
    rfl

/-! ## Rules -/

/-- A run of a class is read as the lexeme that it is. -/
theorem eatWhile_ends (belongs : Char → Bool) (category : Category) (kind : Kind) :
    (do
      let (_, behind) ← cursor.toBytes.eatWhile? belongs
      behind.ends (.styled category kind)) =
      some ((Scanned.styled category kind (leading belongs cursor.rest)).readAt cursor) := by
  rw [eatWhile?_toBytes]
  rfl

/-- The rules that all dialects share read the same lexeme. -/
theorem shared?_toBytes {c : Char} {rest : Text} (here : cursor.rest = c :: rest) :
    (cursor.advance 1).toBytes.shared? c = some ((shared c rest).readAt cursor) := by
  have behind := cursor.rest_advance_one here
  have equals : (cursor.advance 1).toBytes.equals? =
      some ((if rest.head? == some '=' then Scanned.bare .compare 2
        else .bare .unclassified 1).readAt cursor) := by
    rw [equals?_toBytes, behind, ← Scanned.readAt_behind]
    split <;> rfl
  have quoted (quote : Quote) :
      (cursor.advance 1).toBytes.string? quote.char (.string quote) =
        some (((string quote rest).behind 1).readAt cursor) := by
    rw [string?_toBytes, behind, ← Scanned.readAt_behind]
  unfold ByteCursor.shared?
  split
  · rw [eatWhile_ends, behind, ← Scanned.readAt_behind]
    rfl
  · rfl
  · exact equals
  · exact equals
  · exact quoted .double
  · exact quoted .single
  · rw [eatWhile_ends, behind, ← Scanned.readAt_behind]
    rfl
  · rw [readMatch?_toBytes _ BytePattern.measures_importantTail, behind]
    exact congrArg some
      (Scanned.readAt_behind (.styled .keyword .important (importantTail rest)) 1 cursor).symm
  · rw [dash?_toBytes, behind, ← Scanned.readAt_behind]
    rfl
  · rw [dot?_toBytes, behind, ← Scanned.readAt_behind]
    rfl
  · rfl
  · rfl
  · rfl
  · rfl
  · rfl
  · rw [readMatch?_toBytes _ BytePattern.measures_urlTail, behind]
    exact cursor.readTail?_toBytes here (rawFunction?_cons_u rest)
  · rw [readText?_toBytes, behind]
    exact cursor.readTail?_toBytes here (rawFunction?_cons_d rest)
  · rw [readText?_toBytes, behind]
    exact cursor.readTail?_toBytes here (rawFunction?_cons_r rest)
  · next noAt noEqual noTilde noBar noDouble noSingle noHash noMark noDash noDot noComma noPlus
      noGreater noStar noSlash noU noD noR =>
    have rules : shared c rest =
        if c.isDigit then (number rest).behind 1
        else match Kind.punctuation? c with
          | some kind => .bare kind 1
          | none => identifier c rest := by
      unfold shared
      split <;> first | contradiction | rfl
    rw [rules]
    by_cases digit : c.isDigit = true
    · rw [if_pos digit, if_pos digit, number?_toBytes, behind, ← Scanned.readAt_behind]
    · rw [if_neg digit, if_neg digit]
      cases Kind.punctuation? c with
      | some kind => rfl
      | none =>
        exact cursor.identifier?_toBytes here (rawFunction?_cons_other rest noU noD noR)

/-- What a dialect reads of its own is read alike, and nothing is read where it declines. -/
theorem hook?_toBytes (construct : Hook) :
    cursor.toBytes.hook? construct =
      some (match hook construct cursor.rest with
        | some scanned => (scanned.readAt cursor).map some id
        | none => (none, cursor.toBytes)) := by
  have readNothing {token : Token} :
      (⟨token, none⟩, cursor.toBytes) = Scanned.readAt ⟨0, token, none⟩ cursor := by
    rw [Scanned.readAt, advance_zero]
  have openedComment : (cursor.advance 1).toBytes.comment? =
      some (((comment (cursor.rest.drop 1)).behind 1).readAt cursor) := by
    rw [comment?_toBytes, rest_advance, ← Scanned.readAt_behind]
  cases construct with
  | blockComment =>
    by_cases star : cursor.rest.head? = some '*'
    · simp only [ByteCursor.hook?, cursor.eat?_toBytes_of_head? star, Option.bind_eq_bind,
        Option.bind_some, if_true, openedComment, hook, star, beq_self_eq_true]
      rfl
    · simp only [ByteCursor.hook?, cursor.eat?_toBytes_of_ne star, hook, beq_iff_eq, star]
      rfl
  | comments =>
    by_cases slash : cursor.rest.head? = some '/'
    · simp only [ByteCursor.hook?, cursor.eat?_toBytes_of_head? slash, Option.bind_eq_bind,
        Option.bind_some, if_true, skipToEnd?_toBytes, skipToEnd, rest_advance, hook, slash,
        beq_self_eq_true, Scanned.readAt]
      obtain ⟨rest, here⟩ := List.head?_eq_some_iff.mp slash
      have toEnd : (cursor.advance 1).advance (cursor.rest.drop 1).length =
          cursor.advance cursor.rest.length := by
        rw [advance_advance, here, List.drop_one, List.tail_cons, List.length_cons, Nat.add_comm]
      rw [toEnd]
      rfl
    · by_cases star : cursor.rest.head? = some '*'
      · simp only [ByteCursor.hook?, cursor.eat?_toBytes_of_ne slash, Option.bind_eq_bind,
          Option.bind_some, Bool.false_eq_true, if_false, cursor.eat?_toBytes_of_head? star,
          if_true, openedComment, hook, beq_iff_eq, star]
        rfl
      · simp only [ByteCursor.hook?, cursor.eat?_toBytes_of_ne slash, Option.bind_eq_bind,
          Option.bind_some, Bool.false_eq_true, if_false, cursor.eat?_toBytes_of_ne star, hook,
          beq_iff_eq, slash, star]
        exact congrArg (fun read => some (Prod.map some id read)) readNothing
  | nestedPropertyColon =>
    simp only [ByteCursor.hook?, readMatch?_toBytes _ (BytePattern.measures_blankThen '{'),
      Option.bind_eq_bind, Option.bind_some, hook, braceAhead?]
    cases blankThen '{' cursor.rest with
    | false => exact congrArg (fun here => some (none, here.toBytes)) cursor.advance_zero
    | true => rfl
  | dollarVariable =>
    simp only [ByteCursor.hook?, readMatch?_toBytes _ BytePattern.measures_dollarName,
      Option.bind_eq_bind, Option.bind_some, variableEnd?_toBytes, hook]
    have name : (if 0 < leading isNameChar cursor.rest then some (leading isNameChar cursor.rest)
        else none).getD 0 = leading isNameChar cursor.rest := by
      split
      · rfl
      · next nothing => exact (Nat.eq_zero_of_not_pos nothing).symm
    rw [name]
    rfl
  | hashInterpolation =>
    by_cases brace : cursor.rest.head? = some '{'
    · simp only [ByteCursor.hook?, cursor.eat?_toBytes_of_head? brace, hook, brace]
      rfl
    · simp only [ByteCursor.hook?, cursor.eat?_toBytes_of_ne brace, hook, beq_iff_eq, brace]
      rfl
  | atVariable =>
    by_cases brace : cursor.rest.head? = some '{'
    · simp only [ByteCursor.hook?, cursor.eat?_toBytes_of_head? brace, hook, brace]
      rfl
    · have named : ((atRuleNames.find? fun name => name.toList.isPrefixOf cursor.rest &&
          !(cursor.rest.drop name.length).head?.any isWordChar).map String.length).isSome =
          atRuleName cursor.rest := by
        rw [Option.isSome_map, Bool.eq_iff_iff, List.find?_isSome, atRuleName, List.any_eq_true]
      simp only [ByteCursor.hook?, cursor.eat?_toBytes_of_ne brace, hook, beq_iff_eq, brace,
        peekMatch?_toBytes _ BytePattern.measures_atRuleName, Option.bind_eq_bind, Option.bind_some,
        Bool.false_eq_true, if_false, named]
      cases atRuleName cursor.rest with
      | true => rfl
      | false =>
        rw [eatWhile?_toBytes]
        simp only [Bool.false_eq_true, if_false, Option.bind_some, Prod.map_snd, eatWhile,
          variableEnd?_toBytes]
        rfl
  | parentSelector =>
    exact congrArg (fun read => some (Prod.map some id read)) readNothing

/-- Where nothing is open the same lexeme is read. -/
theorem base?_toBytes (dialect : Dialect) :
    cursor.toBytes.base? dialect = some ((base dialect cursor.rest).readAt cursor) := by
  cases here : cursor.rest with
  | nil =>
    rw [ByteCursor.base?, cursor.next?_toBytes_of_nil here]
    rfl
  | cons c rest =>
    have behind := cursor.rest_advance_one here
    simp only [ByteCursor.base?, cursor.next?_toBytes_of_cons here, Option.bind_eq_bind,
      Option.bind_some, base]
    cases dialect.hook? c with
    | none => exact cursor.shared?_toBytes here
    | some construct =>
      simp only [hook?_toBytes, behind, Option.bind_some]
      cases hook construct rest with
      | none => exact cursor.shared?_toBytes here
      | some scanned => exact congrArg some (Scanned.readAt_behind scanned 1 cursor).symm

/-- The scanner never fails: it reads the lexeme that is at the front of what is left. -/
theorem scan?_toBytes (dialect : Dialect) (opened : Option Continuation) :
    cursor.toBytes.scan? dialect opened =
      some ((scan dialect opened cursor.rest).readAt cursor) := by
  rcases opened with _ | (quote | _ | _ | _)
  · exact cursor.base?_toBytes dialect
  · exact cursor.string?_toBytes quote
  · exact cursor.comment?_toBytes
  · exact cursor.argument?_toBytes
  · exact cursor.rawArgument?_toBytes

end Cursor

end Stylesheet
