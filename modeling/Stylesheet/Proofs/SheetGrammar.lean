import Stylesheet.Grammar.Step

/-!
# Well-nested style sheets

A grammar of the style sheets in which everything that is opened is closed, over tokens and not
over characters. A `Phrase` is what may stand within a scope without closing it. A `Clause` is a
selector, a declaration or the header of an at-rule, up to the semicolon or the brace behind it. A
`Sheet` is a list of statements and of blocks, and blocks hold sheets.
-/
namespace Stylesheet

/-- A lexeme, and the columns of the line that it stands on. -/
structure Occurrence where
  lexeme : Lexeme
  layout : Layout
  deriving DecidableEq, Repr

/-- What the grammar takes a token for. -/
def Occurrence.kind (token : Occurrence) : Kind := token.lexeme.token.kind

/-- Feed tokens to the grammar, first to last. -/
def Context.feed (dialect : Dialect) (context : Context) (tokens : List Occurrence) : Context :=
  tokens.foldl (fun context token => (context.step dialect token.layout token.lexeme).2) context

/-- Whether the first token is of a kind. -/
def StartsWith (kind : Kind) : List Occurrence → Prop
  | [] => False
  | token :: _ => token.kind = kind

namespace Kind

/-- Whether a token of the kind has a meaning of its own only, wherever it stands. -/
def isPlain : Kind → Bool
  | braceOpen | braceClose | parenOpen | parenClose | semicolon | colon | atRule | interpolation
  | variableDefinition => false
  | _ => true

end Kind

namespace Scope

/-- The kinds of the tokens that may stand by themselves within a scope. In a list without nesting
parentheses are like other tokens of a selector. -/
def holds (dialect : Dialect) (kind : Kind) : Scope → Bool
  | body _ =>
    kind.isPlain || kind == .variableDefinition ||
      (!dialect.allowsNesting && (kind == .parenOpen || kind == .parenClose))
  | value | parens =>
    kind.isPlain || kind == .colon || kind == .atRule || kind == .variableDefinition
  | documentTypes | condition | conditionParens =>
    !List.contains [.braceOpen, .braceClose, .parenOpen, .parenClose, .semicolon] kind
  | atRule | interpolation => !List.contains [.braceOpen, .braceClose, .semicolon] kind
  | propertyBlock | descriptors | component => !List.contains [.braceOpen, .braceClose] kind

/-- Whether a token within a scope names what the value behind a colon is for. -/
def names (dialect : Dialect) (lexeme : Lexeme) : Scope → Bool
  | body list =>
    match list, lexeme.token.kind with
    | _, .variableDefinition => true
    | .block, .word =>
      dialect.vocabulary.properties.contains lexeme.word ||
        dialect.vocabulary.legacyProperties.contains lexeme.word || !dialect.allowsNesting
    | _, _ => false
  | propertyBlock | descriptors => lexeme.token.kind == .word
  | _ => false

/-- The scope that a token of a kind opens within a scope. -/
def opens (dialect : Dialect) : Scope → Kind → Option Scope
  | body _, .parenOpen => if dialect.allowsNesting then some parens else none
  | body _, .interpolation => some interpolation
  | value, .braceOpen => if dialect.allowsNesting then some propertyBlock else none
  | value, .parenOpen => some parens
  | value, .interpolation => some interpolation
  | parens, .parenOpen => some parens
  | parens, .interpolation => some interpolation
  | documentTypes, .parenOpen => some conditionParens
  | condition, .parenOpen => some conditionParens
  | conditionParens, .parenOpen => some conditionParens
  | _, _ => none

/-- The kinds of the tokens at which a scope, or a selector in a list, may end. -/
def closers : Scope → List Kind
  | parens | conditionParens => [.parenClose]
  | propertyBlock | descriptors | interpolation => [.braceClose]
  | component => [.braceOpen, .braceClose]
  | body _ | value | documentTypes | condition | atRule => [.semicolon, .braceOpen, .braceClose]

end Scope

/-- What the braces hold that stand behind a clause. In a dialect with nesting the braces behind a
value belong to the value. -/
def Dialect.blockBody? (dialect : Dialect) : Scope → Option Body
  | .body _ | .atRule => some .block
  | .value => if dialect.allowsNesting then none else some .block
  | .documentTypes | .condition | .component => some dialect.nestedBody
  | _ => none

/-- What may stand within a scope without closing it. -/
inductive Phrase (dialect : Dialect) : Scope → List Occurrence → Prop
  | nil (scope : Scope) : Phrase dialect scope []
  /-- A name is followed by something else than a colon. -/
  | token {scope : Scope} {token : Occurrence} {tokens : List Occurrence}
    (held : scope.holds dialect token.kind)
    (alone : scope.names dialect token.lexeme → ¬StartsWith .colon tokens)
    (phrase : Phrase dialect scope tokens) :
    Phrase dialect scope (token :: tokens)
  | colon {list : Body} {colon : Occurrence} {tokens : List Occurrence}
    (isColon : colon.kind = .colon)
    (alone : ¬StartsWith .word tokens)
    (phrase : Phrase dialect (.body list) tokens) :
    Phrase dialect (.body list) (colon :: tokens)
  /-- The name of a pseudo-class is followed by anything, also a colon. -/
  | pseudoClass {list : Body} {colon word : Occurrence} {tokens : List Occurrence}
    (isColon : colon.kind = .colon)
    (isWord : word.kind = .word)
    (phrase : Phrase dialect (.body list) tokens) :
    Phrase dialect (.body list) (colon :: word :: tokens)
  | group {scope inner : Scope} {opener closer : Occurrence} {group tokens : List Occurrence}
    (isOpened : scope.opens dialect opener.kind = some inner)
    (grouped : Phrase dialect inner group)
    (isClosed : closer.kind ∈ inner.closers)
    (phrase : Phrase dialect scope tokens) :
    Phrase dialect scope (opener :: (group ++ closer :: tokens))
  | declaration {scope : Scope} {name colon semicolon : Occurrence}
    {value tokens : List Occurrence}
    (list : scope = .propertyBlock ∨ scope = .descriptors)
    (named : scope.names dialect name.lexeme)
    (isColon : colon.kind = .colon)
    (valued : Phrase dialect .value value)
    (isSemicolon : semicolon.kind = .semicolon)
    (phrase : Phrase dialect scope tokens) :
    Phrase dialect scope (name :: colon :: (value ++ semicolon :: tokens))
  /-- The last declaration goes without its semicolon. -/
  | lastDeclaration {scope : Scope} {name colon : Occurrence} {value : List Occurrence}
    (list : scope = .propertyBlock ∨ scope = .descriptors)
    (named : scope.names dialect name.lexeme)
    (isColon : colon.kind = .colon)
    (valued : Phrase dialect .value value) :
    Phrase dialect scope (name :: colon :: value)

/-- A construct of a list up to the semicolon or the brace behind it, and the scope in which it
stands there. -/
inductive Clause (dialect : Dialect) (list : Body) : Scope → List Occurrence → Prop
  | selector {tokens : List Occurrence} (phrase : Phrase dialect (.body list) tokens) :
    Clause dialect list (.body list) tokens
  | declaration {name colon : Occurrence} {value : List Occurrence}
    (named : Scope.names dialect name.lexeme (.body list))
    (isColon : colon.kind = .colon)
    (valued : Phrase dialect .value value) :
    Clause dialect list .value (name :: colon :: value)
  | header {name : Occurrence} {scope : Scope} {tokens : List Occurrence}
    (isAtRule : name.kind = .atRule)
    (enters : Grammar.atRuleMove dialect name.lexeme.text = .enter scope)
    (phrase : Phrase dialect scope tokens) :
    Clause dialect list scope (name :: tokens)

/-- A construct of a list that holds no list. -/
inductive Statement (dialect : Dialect) (list : Body) : List Occurrence → Prop
  /-- A comment, a combinator or another token that makes no clause. -/
  | token {token : Occurrence}
    (held : Scope.holds dialect token.kind (.body list))
    (unnamed : ¬Scope.names dialect token.lexeme (.body list)) :
    Statement dialect list [token]
  /-- An interpolation, or parentheses, that make no clause. -/
  | group {inner : Scope} {opener closer : Occurrence} {tokens : List Occurrence}
    (isOpened : Scope.opens dialect (.body list) opener.kind = some inner)
    (grouped : Phrase dialect inner tokens)
    (isClosed : closer.kind ∈ inner.closers) :
    Statement dialect list (opener :: (tokens ++ [closer]))
  | clause {scope : Scope} {tokens : List Occurrence} {semicolon : Occurrence}
    (clause : Clause dialect list scope tokens)
    (isSemicolon : semicolon.kind = .semicolon)
    (ends : semicolon.kind ∈ scope.closers) :
    Statement dialect list (tokens ++ [semicolon])
  /-- Words in front of the braces are the name of a counter style. -/
  | descriptors {name brace close : Occurrence} {rule : DescriptorRule}
    {words tokens : List Occurrence}
    (isAtRule : name.kind = .atRule)
    (checks : Grammar.atRuleMove dialect name.lexeme.text = .check rule)
    (areWords : ∀ word ∈ words, word.kind = .word ∧ rule = .counterStyle)
    (isOpened : brace.kind = .braceOpen)
    (phrase : Phrase dialect .descriptors tokens)
    (isClosed : close.kind = .braceClose) :
    Statement dialect list (name :: (words ++ brace :: (tokens ++ [close])))
  /-- An animation without a block, or with a quoted name in front of it. -/
  | animation {name next : Occurrence} {words tokens : List Occurrence}
    (isAtRule : name.kind = .atRule)
    (awaits : Grammar.atRuleMove dialect name.lexeme.text = .await .keyframesBlock)
    (areWords : ∀ word ∈ words, word.kind = .word)
    (other : next.kind ≠ .word ∧ next.kind ≠ .braceOpen)
    (statement : Statement dialect list (next :: tokens)) :
    Statement dialect list (name :: (words ++ next :: tokens))

/-- What stands in a list up to the brace behind which another one starts. -/
inductive Opening (dialect : Dialect) (list : Body) : List Occurrence → Body → Prop
  | clause {scope : Scope} {inner : Body} {tokens : List Occurrence} {brace : Occurrence}
    (clause : Clause dialect list scope tokens)
    (holds : dialect.blockBody? scope = some inner)
    (isOpened : brace.kind = .braceOpen) :
    Opening dialect list (tokens ++ [brace]) inner
  | animation {name brace : Occurrence} {words : List Occurrence}
    (isAtRule : name.kind = .atRule)
    (awaits : Grammar.atRuleMove dialect name.lexeme.text = .await .keyframesBlock)
    (areWords : ∀ word ∈ words, word.kind = .word)
    (isOpened : brace.kind = .braceOpen) :
    Opening dialect list (name :: (words ++ [brace])) .top

/-- A list in which everything that is opened is closed. The last clause of a block goes without
its semicolon; it may be empty. -/
inductive Sheet (dialect : Dialect) : Body → List Occurrence → Prop
  | nil (list : Body) : Sheet dialect list []
  | statement {list : Body} {first tokens : List Occurrence}
    (statement : Statement dialect list first)
    (sheet : Sheet dialect list tokens) :
    Sheet dialect list (first ++ tokens)
  | block {list inner : Body} {scope : Scope} {opening items last tokens : List Occurrence}
    {close : Occurrence}
    (opened : Opening dialect list opening inner)
    (listed : Sheet dialect inner items)
    (ended : Clause dialect inner scope last)
    (isClosed : close.kind = .braceClose)
    (sheet : Sheet dialect list tokens) :
    Sheet dialect list (opening ++ (items ++ (last ++ close :: tokens)))

end Stylesheet
