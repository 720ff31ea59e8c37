import Stylesheet.Grammar.Context

/-!
# How scopes react to tokens

The grammar is a table of reactions: each scope, and each awaited token, says what a lexeme means
there. A reaction either settles the lexeme, with a move of the nesting and a style, or closes
scopes and leaves the lexeme to the scope below them. A list at the root only settles, so a
lexeme is always settled somewhere.
-/
namespace Stylesheet

/-- A scanned token, its text, and what comes behind it on its line. -/
structure Lexeme where
  /-- The token as scanned. -/
  token : Token
  /-- Its text. -/
  text : Text
  /-- The rest of the line. -/
  rest : Text
  deriving DecidableEq, Repr

/-- The text of a lexeme as the vocabulary spells it. -/
def Lexeme.word (lexeme : Lexeme) : String := String.ofList (Text.foldCase lexeme.text)

/-- The column the content of a new scope is indented to. -/
inductive Placing where
  /-- One unit deeper than the line that opens it. -/
  | deeper
  /-- Level with the line that opens it. -/
  | level
  deriving DecidableEq, Repr

/-- A change of the context. -/
inductive Move where
  /-- To read on directly within the innermost scope. -/
  | stay
  /-- To await a token. -/
  | await (token : Awaiting)
  /-- To await the block of a rule and check its descriptors. -/
  | check (rule : DescriptorRule)
  /-- To open a scope. -/
  | enter (scope : Scope)
  /-- To close the innermost scope and open another in its place. -/
  | replace (scope : Scope) (placing : Placing)
  /-- To close the innermost scope. -/
  | leave
  deriving DecidableEq, Repr

/-- The meaning of a lexeme where it is settled. -/
structure Answer where
  /-- What becomes of the context. -/
  move : Move
  /-- What the lexeme is painted with. -/
  style : Style
  deriving DecidableEq, Repr

/-- What a nested scope makes of a lexeme. -/
inductive Reaction where
  /-- It means this. -/
  | settle (answer : Answer)
  /-- The scope closes, some others with it, and the lexeme is left to the scope below. -/
  | yield (others : Nat)
  deriving DecidableEq, Repr

/-- To move and keep the style that the scanner proposed. -/
def Lexeme.keep (lexeme : Lexeme) (move : Move) : Answer := ⟨move, lexeme.token.style⟩

/-! ## Words -/

namespace Dialect

/-- What a word is in a value. -/
def valueCategory (dialect : Dialect) (word : String) : Category :=
  if dialect.vocabulary.values.contains word then .atom
  else if dialect.vocabulary.colors.contains word then .keyword
  else .variable1

/-- What a word is in a condition. -/
def conditionStyle (dialect : Dialect) (word : String) : Style :=
  let vocabulary := dialect.vocabulary
  if ["only", "not", "and", "or"].contains word then Category.keyword
  else if vocabulary.mediaTypes.contains word then Category.attributeName
  else if vocabulary.mediaFeatures.contains word then Category.property
  else if vocabulary.mediaValues.contains word then Category.keyword
  else if vocabulary.properties.contains word then Category.property
  else if vocabulary.legacyProperties.contains word then Category.string2
  else if vocabulary.values.contains word then Category.atom
  else if vocabulary.colors.contains word then Category.keyword
  else .error

/-- Whether the block of a rule admits a descriptor. -/
def admits (dialect : Dialect) (rule : Option DescriptorRule) (word : String) : Bool :=
  match rule with
  | some .fontFace => dialect.vocabulary.fontDescriptors.contains word
  | some .counterStyle => dialect.vocabulary.counterDescriptors.contains word
  | some .other => true
  | none => true

/-- What the block of an at-rule with a condition holds. -/
def nestedBody (dialect : Dialect) : Body := if dialect.allowsNesting then .block else .top

end Dialect

namespace Grammar

/-! ## Lists -/

/-- What the name of an at-rule opens. -/
def atRuleMove (dialect : Dialect) (name : Text) : Move :=
  if dialect.allowsComponents && Pattern.isComponentRule name then .enter .component
  else if Pattern.isDocumentRule name then .enter .documentTypes
  else if Pattern.isConditionalRule name then .enter .condition
  else match DescriptorRule.ofName? name with
    | some rule => .check rule
    | none =>
      if Pattern.isKeyframesRule name then .await .keyframesBlock else .enter .atRule

/-- A lexeme in a list of rules. -/
def inRules (dialect : Dialect) (lexeme : Lexeme) : Answer :=
  match lexeme.token.kind with
  | .braceOpen => lexeme.keep (.enter (.body .block))
  | .braceClose => lexeme.keep .leave
  | .atRule => lexeme.keep (atRuleMove dialect lexeme.text)
  | .hash => ⟨.stay, Category.builtin⟩
  | .word => ⟨.stay, Category.tag⟩
  | .variableDefinition => lexeme.keep (.await .colon)
  | .interpolation => lexeme.keep (.enter .interpolation)
  | .colon => lexeme.keep (.await .pseudoClass)
  | .parenOpen => lexeme.keep (if dialect.allowsNesting then .enter .parens else .stay)
  | _ => lexeme.keep .stay

/-- A lexeme in a list of declarations. -/
def inDeclarations (dialect : Dialect) (lexeme : Lexeme) : Answer :=
  match lexeme.token.kind with
  | .word =>
    if dialect.vocabulary.properties.contains lexeme.word then ⟨.await .colon, Category.property⟩
    else if dialect.vocabulary.legacyProperties.contains lexeme.word then
      ⟨.await .colon, Category.string2⟩
    else if dialect.allowsNesting then
      ⟨.stay, if Pattern.propertyColon lexeme.rest then Category.property else Category.tag⟩
    else ⟨.await .colon, lexeme.token.style.flagged⟩
  | .vendor => lexeme.keep .stay
  | .hash => if dialect.allowsNesting then inRules dialect lexeme else ⟨.stay, .error⟩
  | .qualifier => if dialect.allowsNesting then inRules dialect lexeme else ⟨.stay, .error⟩
  | _ => inRules dialect lexeme

/-- A lexeme in a list. -/
def inBody (dialect : Dialect) (lexeme : Lexeme) : Body → Answer
  | .top => inRules dialect lexeme
  | .block => inDeclarations dialect lexeme

/-! ## Other scopes -/

/-- A lexeme in a block of nested properties. -/
def inPropertyBlock (lexeme : Lexeme) : Reaction :=
  match lexeme.token.kind with
  | .braceClose => .settle (lexeme.keep .leave)
  | .word => .settle ⟨.await .colon, Category.property⟩
  | _ => .settle (lexeme.keep .stay)

/-- A lexeme in the value of a declaration. -/
def inValue (dialect : Dialect) (lexeme : Lexeme) : Reaction :=
  match lexeme.token.kind with
  | .semicolon => .settle (lexeme.keep .leave)
  | .braceOpen =>
    if dialect.allowsNesting then .settle (lexeme.keep (.enter .propertyBlock)) else .yield 0
  | .braceClose => .yield 0
  | .parenOpen => .settle (lexeme.keep (.enter .parens))
  | .hash =>
    if Pattern.isHexColor lexeme.text then .settle (lexeme.keep .stay)
    else .settle ⟨.stay, lexeme.token.style.flagged⟩
  | .word => .settle ⟨.stay, dialect.valueCategory lexeme.word⟩
  | .interpolation => .settle (lexeme.keep (.enter .interpolation))
  | _ => .settle (lexeme.keep .stay)

/-- A lexeme in parentheses. -/
def inParens (dialect : Dialect) (lexeme : Lexeme) : Reaction :=
  match lexeme.token.kind with
  | .braceOpen => .yield 0
  | .braceClose => .yield 0
  | .parenClose => .settle (lexeme.keep .leave)
  | .parenOpen => .settle (lexeme.keep (.enter .parens))
  | .interpolation => .settle (lexeme.keep (.enter .interpolation))
  | .word => .settle ⟨.stay, dialect.valueCategory lexeme.word⟩
  | _ => .settle (lexeme.keep .stay)

/-- A lexeme in the condition of an at-rule. -/
def inCondition (dialect : Dialect) (lexeme : Lexeme) : Reaction :=
  match lexeme.token.kind with
  | .parenOpen => .settle (lexeme.keep (.enter .conditionParens))
  | .braceClose => .yield 0
  | .semicolon => .yield 0
  | .braceOpen => .settle (lexeme.keep (.replace (.body dialect.nestedBody) .deeper))
  | .word => .settle ⟨.stay, dialect.conditionStyle lexeme.word⟩
  | _ => .settle (lexeme.keep .stay)

/-- A lexeme in the header of a rule that chooses documents: the functions that do so, and
otherwise a condition. -/
def inDocumentTypes (dialect : Dialect) (lexeme : Lexeme) : Reaction :=
  if lexeme.token.kind = .word ∧
      dialect.vocabulary.documentTypes.contains (String.ofList lexeme.text) then
    .settle ⟨.stay, Category.tag⟩
  else inCondition dialect lexeme

/-- A lexeme in the parentheses of a condition. A brace ends the condition too. -/
def inConditionParens (dialect : Dialect) (lexeme : Lexeme) : Reaction :=
  match lexeme.token.kind with
  | .parenClose => .settle (lexeme.keep .leave)
  | .braceOpen => .yield 1
  | .braceClose => .yield 1
  | _ => inCondition dialect lexeme

/-- A lexeme in the header of a component. -/
def inComponent (dialect : Dialect) (lexeme : Lexeme) : Reaction :=
  match lexeme.token.kind with
  | .braceClose => .yield 0
  | .braceOpen => .settle (lexeme.keep (.replace (.body dialect.nestedBody) .level))
  | .word => .settle ⟨.stay, .error⟩
  | _ => .settle (lexeme.keep .stay)

/-- A lexeme in a block that admits certain descriptors only. -/
def inDescriptors (dialect : Dialect) (rule : Option DescriptorRule) (lexeme : Lexeme) :
    Reaction :=
  match lexeme.token.kind with
  | .braceClose => .settle (lexeme.keep .leave)
  | .word =>
    .settle ⟨.await .colon, if dialect.admits rule lexeme.word then Category.property else .error⟩
  | _ => .settle (lexeme.keep .stay)

/-- A lexeme in the header of any other at-rule. -/
def inAtRule (lexeme : Lexeme) : Reaction :=
  match lexeme.token.kind with
  | .semicolon => .settle (lexeme.keep .leave)
  | .braceOpen => .yield 0
  | .braceClose => .yield 0
  | .word => .settle ⟨.stay, Category.tag⟩
  | .hash => .settle ⟨.stay, Category.builtin⟩
  | _ => .settle (lexeme.keep .stay)

/-- A lexeme in an interpolation. -/
def inInterpolation (lexeme : Lexeme) : Reaction :=
  match lexeme.token.kind with
  | .braceClose => .settle (lexeme.keep .leave)
  | .braceOpen => .yield 0
  | .semicolon => .yield 0
  | .word => .settle ⟨.stay, Category.variable1⟩
  | .variableUse => .settle (lexeme.keep .stay)
  | .parenOpen => .settle (lexeme.keep .stay)
  | .parenClose => .settle (lexeme.keep .stay)
  | _ => .settle ⟨.stay, .error⟩

/-- What a nested scope makes of a lexeme. -/
def react (dialect : Dialect) (rule : Option DescriptorRule) (lexeme : Lexeme) :
    Scope → Reaction
  | .body list => .settle (inBody dialect lexeme list)
  | .propertyBlock => inPropertyBlock lexeme
  | .value => inValue dialect lexeme
  | .parens => inParens dialect lexeme
  | .documentTypes => inDocumentTypes dialect lexeme
  | .condition => inCondition dialect lexeme
  | .conditionParens => inConditionParens dialect lexeme
  | .component => inComponent dialect lexeme
  | .descriptors => inDescriptors dialect rule lexeme
  | .atRule => inAtRule lexeme
  | .interpolation => inInterpolation lexeme

/-! ## Awaited tokens -/

/-- What a lexeme means where a token is awaited; `none` when it is not the awaited one and the
innermost scope has to say. -/
def awaited (rule : Option DescriptorRule) (lexeme : Lexeme) : Awaiting → Option Answer
  | .colon => if lexeme.token.kind = .colon then some (lexeme.keep (.enter .value)) else none
  | .pseudoClass =>
    if lexeme.token.kind = .word then some ⟨.stay, Category.variable3⟩ else none
  | .descriptorBlock =>
    match lexeme.token.kind with
    | .braceOpen => some (lexeme.keep (.enter .descriptors))
    | .word =>
      if rule = some .counterStyle then some ⟨.await .descriptorBlock, Category.variable1⟩
      else none
    | _ => none
  | .keyframesBlock =>
    match lexeme.token.kind with
    | .word => some ⟨.await .keyframesBlock, Category.variable1⟩
    | .braceOpen => some (lexeme.keep (.enter (.body .top)))
    | _ => none

end Grammar

end Stylesheet
